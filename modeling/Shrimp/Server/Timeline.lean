import Shrimp.Server.Lifecycle

/-!
# The columns of a row over a run (`server/task/queue.go`)

Every statement of `queue.go` writes some columns of a row and trusts the others
to be as the statements before it left them.  With orderly recoveries they are:
which columns are set follows from the status, the timestamps are in order when
the database's clock does not go back, and a finished row is never written again.

## Main definitions

* `RowMove` — what one step does to one row, with all its columns.
* `Task.WellFormed` — **the columns fit the status**, and the timestamps are in order.
* `Event.clock`, `clocks` — the times at which statements were run.

## Main results

* `rowMove_of_step` — every step inserts a row, or makes one of the moves.
* `wellFormed_of_run` — every row of every such run is well formed.
* `frozen_of_run` — a finished row stays as it is, all its columns.
-/

namespace Shrimp
namespace Server

open Cluster

/-! ### What a step does to a row -/

/-- The row after the terminal write. -/
def Outcome.finished (now : Time) (row : Task) : Outcome → Task
  | completed result =>
    { row with status := .completed, result := some result, completedAt := some now }
  | failed errMsg partialResult =>
    { row with
      status := .failed
      error := some errMsg
      result := some partialResult
      completedAt := some now }
  | canceled partialResult =>
    { row with status := .canceled, result := some partialResult, completedAt := some now }

theorem Outcome.write_eq (o : Outcome) (q : Queue) (i : ℤ) (now : Time) :
    o.write q i now = q.set i fun row => o.finished now row := by
  cases o <;> rfl

/-- The moves of row `id`, by the label that makes them. -/
inductive RowMove (s : Cluster) (id : ℤ) : Event → Task → Task → Prop
  | keep {ev : Event} {row : Task} : RowMove s id ev row row
  | claim {d : ℕ} {agentIDs locked : List ℤ} {scan : ℤ → ℕ} {now : Time} {row : Task}
      (workerID : String) (hpending : row.status = .pending) :
      RowMove s id (.claim d agentIDs locked scan now) row (Queue.claimTask workerID now row)
  | start {i : ℕ} {now : Time} {row : Task} (h : Holding) (hi : s.holdings[i]? = some h)
      (hid : h.taskID = id) (hp : h.phase = .started) (hclaimed : row.status = .claimed) :
      RowMove s id (.markRunning i true now) row
        { row with status := .running, startedAt := some now, heartbeatAt := some now }
  | beat {i : ℕ} {now : Time} {row : Task} (hheld : row.status.held) :
      RowMove s id (.heartbeat i true now) row { row with heartbeatAt := some now }
  | finish {i : ℕ} {now : Time} {row : Task} (h : Holding) (o : Outcome)
      (hi : s.holdings[i]? = some h) (hid : h.taskID = id) (hp : h.phase = .finishing o)
      (hheld : row.status.held) : RowMove s id (.write i true now) row (o.finished now row)
  | flag {row : Task} (hcancelable : row.status.cancelable) :
      RowMove s id (.requestCancel id) row { row with cancelRequested := true }
  | reset {timeout now : Time} {row : Task} (hheld : row.status.held) :
      RowMove s id (.recover timeout now) row
        { row with
          status := .pending
          workerID := none
          claimedAt := none
          startedAt := none
          heartbeatAt := none }

section

variable {s s' : Cluster}

/-- A row after an update is a row before it, changed where the condition holds. -/
theorem exists_of_get_update {q : Queue} {p : ℤ → Task → Bool} {f : Task → Task} {id : ℤ}
    {row' : Task} (h : (q.update p f).get id = some row') :
    ∃ row, q.get id = some row ∧ ((p id row = true ∧ row' = f row) ∨ row' = row) := by
  rw [Queue.get_update] at h
  obtain ⟨row, hrow, rfl⟩ := Option.map_eq_some_iff.mp h
  refine ⟨row, hrow, ?_⟩
  split
  · next hp => exact .inl ⟨hp, rfl⟩
  · exact .inr rfl

theorem exists_of_get_set {q : Queue} {i : ℤ} {f : Task → Task} {id : ℤ} {row' : Task}
    (h : (q.set i f).get id = some row') :
    ∃ row, q.get id = some row ∧ ((id = i ∧ row' = f row) ∨ row' = row) := by
  obtain ⟨row, hrow, hor⟩ := exists_of_get_update h
  exact ⟨row, hrow, hor.imp_left fun hp => ⟨of_decide_eq_true hp.1, hp.2⟩⟩

theorem Owned.fits_row (hO : Owned false s) {i : ℕ} {e : Exec} (hi : s.execs[i]? = some e)
    (hb : e.phase.writing) {row : Task} (hrow : s.queue.get e.taskID = some row) :
    e.phase.Fits e.workerID row.lease := by
  obtain ⟨l, hl, hf⟩ := hO.fits (getElem?_holdings hi) hb
  rw [lease_eq_some_iff] at hl
  obtain ⟨row', hrow', rfl⟩ := hl
  rw [show s.queue.get e.taskID = some row' from hrow'] at hrow
  cases hrow
  exact hf

theorem rowMove_of_claim {d : ℕ} {agentIDs locked : List ℤ} {scan : ℤ → ℕ} {now : Time}
    (h : s.step (.claim d agentIDs locked scan now) = some s') {id : ℤ} {row' : Task}
    (hrow' : s'.queue.get id = some row') :
    ∃ row, s.queue.get id = some row ∧
      RowMove s id (.claim d agentIDs locked scan now) row row' := by
  simp only [step] at h
  split at h
  · cases h
  next dm hdm =>
  split at h
  · split at h
    · cases h
      exact ⟨row', hrow', .keep⟩
    · next q i task hsome =>
      cases h
      obtain ⟨row, hnext, rfl, -⟩ := Queue.claim_eq_some_iff.mp hsome
      obtain ⟨hget, hcl, -⟩ := Queue.nextTask_eq_some_iff.mp hnext
      obtain ⟨row₀, hrow₀, ⟨rfl, rfl⟩ | rfl⟩ := exists_of_get_set hrow'
      · rw [hget] at hrow₀
        cases hrow₀
        simp only [Queue.claimable, decide_eq_true_eq] at hcl
        exact ⟨row, hget, .claim dm.workerID hcl.1⟩
      · exact ⟨row', hrow₀, .keep⟩
  · cases h

/-- `MarkRunning` starts the row of its execution, which is claimed. -/
theorem rowMove_of_markRunning {i : ℕ} {ok : Bool} {now : Time} (hO : Owned false s)
    (h : s.step (.markRunning i ok now) = some s') {id : ℤ} {row' : Task}
    (hrow' : s'.queue.get id = some row') :
    ∃ row, s.queue.get id = some row ∧ RowMove s id (.markRunning i ok now) row row' := by
  obtain ⟨e, hi, h⟩ := onExec_eq_some_iff.mp h
  split at h
  · next hp =>
    cases ok with
    | false =>
      cases h
      exact ⟨row', hrow', .keep⟩
    | true =>
      cases h
      obtain ⟨row, hrow, ⟨rfl, rfl⟩ | rfl⟩ := exists_of_get_set hrow'
      · have hf := hO.fits_row hi (by rw [hp]; rfl) hrow
        rw [hp] at hf
        exact ⟨row, hrow, .start e.toHolding (getElem?_holdings hi) rfl hp hf.1⟩
      · exact ⟨row', hrow, .keep⟩
  · cases h

theorem rowMove_of_heartbeat {i : ℕ} {ok : Bool} {now : Time}
    (h : s.step (.heartbeat i ok now) = some s') {id : ℤ} {row' : Task}
    (hrow' : s'.queue.get id = some row') :
    ∃ row, s.queue.get id = some row ∧ RowMove s id (.heartbeat i ok now) row row' := by
  obtain ⟨e, hi, h⟩ := onExec_eq_some_iff.mp h
  split at h
  · cases ok with
    | false =>
      cases h
      exact ⟨row', hrow', .keep⟩
    | true =>
      cases h
      obtain ⟨row, hrow, ⟨howned, rfl⟩ | rfl⟩ := exists_of_get_update hrow'
      · simp only [Queue.owned, decide_eq_true_eq] at howned
        exact ⟨row, hrow, .beat howned.2.2⟩
      · exact ⟨row', hrow, .keep⟩
  · cases h

/-- A terminal write finishes the row of its execution, which is held. -/
theorem rowMove_of_write {i : ℕ} {ok : Bool} {now : Time} (hO : Owned false s)
    (h : s.step (.write i ok now) = some s') {id : ℤ} {row' : Task}
    (hrow' : s'.queue.get id = some row') :
    ∃ row, s.queue.get id = some row ∧ RowMove s id (.write i ok now) row row' := by
  obtain ⟨e, hi, h⟩ := onExec_eq_some_iff.mp h
  split at h
  · next o hp =>
    cases ok with
    | false =>
      cases h
      exact ⟨row', hrow', .keep⟩
    | true =>
      cases h
      change (o.write s.queue e.taskID now).get id = some row' at hrow'
      rw [o.write_eq] at hrow'
      obtain ⟨row, hrow, ⟨rfl, rfl⟩ | rfl⟩ := exists_of_get_set hrow'
      · have hf := hO.fits_row hi (by rw [hp]; rfl) hrow
        rw [hp] at hf
        exact ⟨row, hrow, .finish e.toHolding o (getElem?_holdings hi) rfl hp hf.1⟩
      · exact ⟨row', hrow, .keep⟩
  · cases h

theorem rowMove_of_requestCancel {i : ℤ} (h : s.step (.requestCancel i) = some s') {id : ℤ}
    {row' : Task} (hrow' : s'.queue.get id = some row') :
    ∃ row, s.queue.get id = some row ∧ RowMove s id (.requestCancel i) row row' := by
  simp only [step] at h
  split at h
  · cases h
    exact ⟨row', hrow', .keep⟩
  · next q _ hq =>
    cases h
    unfold Queue.requestCancel at hq
    split at hq
    · cases hq
    split at hq
    · cases hq
      obtain ⟨row, hrow, ⟨hp, rfl⟩ | rfl⟩ := exists_of_get_update hrow'
      · obtain ⟨rfl, hcancelable⟩ := of_decide_eq_true hp
        exact ⟨row, hrow, .flag hcancelable⟩
      · exact ⟨row', hrow, .keep⟩
    · cases hq

/-- **What one step does to one row**: it inserts it, or makes one of the moves. -/
theorem rowMove_of_step {ev : Event} (hO : Owned false s) (h : s.step ev = some s') {id : ℤ}
    {row' : Task} (hrow' : s'.queue.get id = some row') :
    (s.queue.get id = none ∧ ∃ lost agentID prompt priority now,
      ev = .enqueue lost agentID prompt priority now ∧
      row' = Queue.newTask agentID prompt priority now) ∨
    ∃ row, s.queue.get id = some row ∧ RowMove s id ev row row' := by
  -- most steps leave the table alone
  have same (heq : s'.queue = s.queue) :
      ∃ row, s.queue.get id = some row ∧ RowMove s id ev row row' :=
    ⟨row', heq ▸ hrow', .keep⟩
  cases ev with
  | boot workerID | shutdown d | crash d =>
    cases h
    exact .inr (same rfl)
  | cancel d i =>
    cases h
    exact .inr (same (managerCancel_spec d i).1)
  | enqueue lost agentID prompt priority now =>
    cases h
    rw [Queue.get_enqueue] at hrow'
    split at hrow'
    · next hid =>
      cases hrow'
      refine .inl ⟨?_, lost, agentID, prompt, priority, now, rfl, rfl⟩
      exact Queue.get_of_seq_lt (by omega)
    · exact .inr ⟨row', hrow', .keep⟩
  | claim d agentIDs locked scan now => exact .inr (rowMove_of_claim h hrow')
  | start i | spawn i | exit i | done i =>
    obtain ⟨e, hi, h⟩ := onExec_eq_some_iff.mp h
    split at h
    · cases h
      exact .inr (same rfl)
    · cases h
  | honor i =>
    obtain ⟨e, hi, h⟩ := onExec_eq_some_iff.mp h
    split at h
    · cases h
      exact .inr (same (managerCancel_spec e.daemon e.taskID).1)
    · cases h
  | markRunning i ok now => exact .inr (rowMove_of_markRunning hO h hrow')
  | heartbeat i ok now => exact .inr (rowMove_of_heartbeat h hrow')
  | write i ok now => exact .inr (rowMove_of_write hO h hrow')
  | requestCancel i => exact .inr (rowMove_of_requestCancel h hrow')
  | recover timeout now =>
    cases h
    obtain ⟨row, hrow, ⟨horph, rfl⟩ | rfl⟩ := exists_of_get_update hrow'
    · exact .inr ⟨row, hrow, .reset (held_of_orphaned horph)⟩
    · exact .inr ⟨row', hrow, .keep⟩

end

/-- The time at which a statement was run. -/
def Event.clock : Event → Option Time
  | .enqueue _ _ _ _ now | .claim _ _ _ _ now | .markRunning _ _ now | .heartbeat _ _ now
  | .write _ _ now | .recover _ now => some now
  | _ => none

/-- The times of the statements of a run. -/
def clocks (tr : List (Lts.Move Cluster Event)) : List Time :=
  tr.filterMap fun m => m.label.clock

/-! ### Rows that are well formed -/

/-- Somebody has claimed the task, and nothing has reset it since. -/
def Status.taken (st : Status) : Bool := !decide (st = .pending)

/-- The timestamps of a row that are set, in the order of a task's life. -/
def Task.stamps (row : Task) : List Time :=
  row.createdAt :: row.claimedAt.toList ++ row.startedAt.toList ++ row.heartbeatAt.toList ++
    row.completedAt.toList

/-- **The columns of a row fit its status.**  A finished row may lack `started_at`:
`execute` goes on when `MarkRunning` fails. -/
structure Task.Shaped (row : Task) : Prop where
  worker : row.workerID.isSome = row.status.taken
  claimedAt : row.claimedAt.isSome = row.status.taken
  heartbeatAt : row.heartbeatAt.isSome = row.status.taken
  attempts : row.status.taken → 0 < row.attempts
  unstarted : row.status = .pending ∨ row.status = .claimed → row.startedAt = none
  started : row.status = .running → row.startedAt.isSome
  result : row.result.isSome = row.status.terminal
  completedAt : row.completedAt.isSome = row.status.terminal
  error : row.error.isSome = decide (row.status = .failed)

/-- **A well-formed row**: its columns fit its status, and its timestamps are in order. -/
structure Task.WellFormed (row : Task) : Prop extends row.Shaped where
  ordered : row.stamps.Pairwise (· ≤ ·)

theorem Status.terminal_of_cancelable {st : Status} (h : st.cancelable) : st.terminal = false := by
  cases st <;> first | rfl | cases h

theorem Status.taken_of_held {st : Status} (h : st.held) : st.taken := by
  cases st <;> first | rfl | cases h

namespace Task.Shaped

variable {s : Cluster} {id : ℤ} {row row' : Task} {ev : Event}

theorem newTask (agentID : ℤ) (prompt : String) (priority : ℤ) (now : Time) :
    (Queue.newTask agentID prompt priority now).Shaped := by
  constructor <;> simp [Queue.newTask, Status.taken, Status.terminal]

theorem of_unfinished (h : row.Shaped) (hterm : row.status.terminal = false) :
    row.result = none ∧ row.completedAt = none ∧ row.error = none := by
  have herror : row.error.isSome = false := by
    rw [h.error, decide_eq_false_iff_not]
    intro hfailed
    rw [hfailed] at hterm
    cases hterm
  have hresult := h.result
  have hcompleted := h.completedAt
  rw [hterm] at hresult hcompleted
  exact ⟨by simpa using hresult, by simpa using hcompleted, by simpa using herror⟩

/-- **A move keeps the columns fitting.** -/
theorem move (h : row.Shaped) (hm : RowMove s id ev row row') : row'.Shaped := by
  cases hm with
  | keep => exact h
  | @claim d agentIDs locked scan now _ workerID hpending =>
    obtain ⟨hresult, hcompleted, herror⟩ := h.of_unfinished (by rw [hpending]; rfl)
    constructor <;>
      simp [Queue.claimTask, Status.taken, Status.terminal, hresult, hcompleted, herror,
        h.unstarted (.inl hpending)]
  | start _ _ _ _ hclaimed =>
    obtain ⟨hresult, hcompleted, herror⟩ := h.of_unfinished (by rw [hclaimed]; rfl)
    have htaken : row.status.taken := by rw [hclaimed]; rfl
    constructor <;>
      simp [Status.taken, Status.terminal, hresult, hcompleted, herror, h.worker, h.claimedAt,
        h.attempts htaken, hclaimed]
  | beat hheld =>
    refine { h with heartbeatAt := ?_ }
    simp [Status.taken_of_held hheld]
  -- a terminal write finds a row that is held, and so one that was claimed
  | finish _ o _ _ _ hheld =>
    have htaken := Status.taken_of_held hheld
    have hpending : row.status ≠ .pending := by simpa [Status.taken] using htaken
    obtain ⟨-, -, herror⟩ := h.of_unfinished (Status.terminal_of_held hheld)
    cases o <;> constructor <;>
      simp [Outcome.finished, Status.taken, Status.terminal, herror, h.worker, h.claimedAt,
        h.heartbeatAt, h.attempts htaken, hpending]
  | flag => exact { h with }
  | reset hheld =>
    obtain ⟨hresult, hcompleted, herror⟩ := h.of_unfinished (Status.terminal_of_held hheld)
    constructor <;>
      simp [Status.taken, Status.terminal, hresult, hcompleted, herror]

/-- **The timestamps after a move**: some of those before it, and then the time of the move. -/
theorem stamps_of_move (h : row.Shaped) (hm : RowMove s id ev row row') :
    ∃ l n, l.Sublist row.stamps ∧
      (row'.stamps = l ∨ ∃ now, ev.clock = some now ∧ row'.stamps = l ++ .replicate n now) := by
  -- the first stamp is that of the row's creation, and every move keeps it
  have hcreated : [row.createdAt].Sublist row.stamps :=
    List.Sublist.cons_cons _ (List.nil_sublist _)
  cases hm with
  | keep | flag => exact ⟨row.stamps, 0, .refl _, .inl rfl⟩
  | @claim d agentIDs locked scan now _ workerID hpending =>
    obtain ⟨-, hcompleted, -⟩ := h.of_unfinished (by rw [hpending]; rfl)
    refine ⟨[row.createdAt], 2, hcreated, .inr ⟨now, rfl, ?_⟩⟩
    simp [stamps, Queue.claimTask, hcompleted, h.unstarted (.inl hpending), List.replicate]
  | @start i now _ _ _ _ _ hclaimed =>
    obtain ⟨-, hcompleted, -⟩ := h.of_unfinished (by rw [hclaimed]; rfl)
    refine ⟨row.createdAt :: row.claimedAt.toList, 2, ?_, .inr ⟨now, rfl, ?_⟩⟩
    · simp [stamps]
    · simp [stamps, hcompleted, List.replicate]
  | @beat i now _ hheld =>
    obtain ⟨-, hcompleted, -⟩ := h.of_unfinished (Status.terminal_of_held hheld)
    refine ⟨row.createdAt :: row.claimedAt.toList ++ row.startedAt.toList, 1, ?_,
      .inr ⟨now, rfl, ?_⟩⟩
    · simp [stamps]
    · simp [stamps, hcompleted]
  | @finish i now _ _ o _ _ _ hheld =>
    obtain ⟨-, hcompleted, -⟩ := h.of_unfinished (Status.terminal_of_held hheld)
    refine ⟨row.stamps, 1, .refl _, .inr ⟨now, rfl, ?_⟩⟩
    cases o <;> simp [stamps, Outcome.finished, hcompleted]
  | reset hheld =>
    obtain ⟨-, hcompleted, -⟩ := h.of_unfinished (Status.terminal_of_held hheld)
    refine ⟨[row.createdAt], 0, hcreated, .inl ?_⟩
    simp [stamps, hcompleted]

end Task.Shaped

/-- **A move keeps a row well formed** when it comes no earlier than anything the row
records, and it records no time but its own. -/
theorem Task.WellFormed.move {s : Cluster} {id : ℤ} {ev : Event} {row row' : Task}
    (h : row.WellFormed)
    (hm : RowMove s id ev row row')
    (hlate : ∀ now, ev.clock = some now → ∀ t ∈ row.stamps, t ≤ now) :
    row'.WellFormed ∧ ∀ t ∈ row'.stamps, t ∈ row.stamps ∨ ev.clock = some t := by
  have hshaped := h.toShaped.move hm
  obtain ⟨l, n, hsub, heq | ⟨now, hclock, heq⟩⟩ := h.toShaped.stamps_of_move hm
  · exact ⟨⟨hshaped, heq ▸ h.ordered.sublist hsub⟩, fun t ht => .inl (hsub.subset (heq ▸ ht))⟩
  · refine ⟨⟨hshaped, ?_⟩, fun t ht => ?_⟩
    · rw [heq, List.pairwise_append]
      refine ⟨h.ordered.sublist hsub, List.pairwise_replicate.mpr (.inr le_rfl), ?_⟩
      intro t ht t' ht'
      rw [List.eq_of_mem_replicate ht']
      exact hlate now hclock t (hsub.subset ht)
    · rw [heq, List.mem_append] at ht
      rcases ht with ht | ht
      · exact .inl (hsub.subset ht)
      · exact .inr (by rw [hclock, List.eq_of_mem_replicate ht])

/-! ### Runs -/

section

variable {tr : List (Lts.Move Cluster Event)} {s : Cluster}

theorem clocks_snoc (m : Lts.Move Cluster Event) :
    clocks (tr ++ [m]) = clocks tr ++ m.label.clock.toList := by
  rw [clocks, List.filterMap_append, ← clocks]
  cases hm : m.label.clock <;> simp [List.filterMap, hm]

/-- **Every row is well formed**, in every state of a run whose recoveries are orderly
and whose statements were run in the order of the database's clock; and every time
it records is the time of a statement of the run. -/
theorem wellFormed_of_run (h : cluster.Run tr s) (hrec : ∀ m ∈ tr, OrderlyRecovery false m)
    (hclock : (clocks tr).Pairwise (· ≤ ·)) {id : ℤ} {row : Task}
    (hrow : s.queue.get id = some row) : row.WellFormed ∧ ∀ t ∈ row.stamps, t ∈ clocks tr := by
  have key : Owned false s ∧ ((clocks tr).Pairwise (· ≤ ·) → ∀ id row,
      s.queue.get id = some row → row.WellFormed ∧ ∀ t ∈ row.stamps, t ∈ clocks tr) := by
    refine Lts.Run.invariant_of (C := OrderlyRecovery false)
      (I := fun tr c => Owned false c ∧ ((clocks tr).Pairwise (· ≤ ·) → ∀ id row,
        c.queue.get id = some row → row.WellFormed ∧ ∀ t ∈ row.stamps, t ∈ clocks tr)) ?_ ?_ h hrec
    · rintro c rfl
      exact ⟨owned_freshCluster, fun _ id row hrow => by cases hrow⟩
    · rintro tr c ev c' - ⟨hO, ih⟩ hstep hC
      refine ⟨owned_of_effect hO (effect_of_step hstep) hC, fun hord id row' hrow' => ?_⟩
      rw [clocks_snoc, List.pairwise_append] at hord
      obtain ⟨hord, -, hlate⟩ := hord
      rw [clocks_snoc]
      rcases rowMove_of_step hO hstep hrow' with
        ⟨-, lost, agentID, prompt, priority, now, rfl, rfl⟩ | ⟨row, hrow, hm⟩
      · refine ⟨⟨.newTask agentID prompt priority now, List.pairwise_singleton _ _⟩, ?_⟩
        simp [Task.stamps, Queue.newTask, Event.clock]
      · obtain ⟨hwf, hmem⟩ := ih hord id row hrow
        obtain ⟨hwf', hstamps⟩ := hwf.move hm fun now hnow t ht =>
          hlate t (hmem t ht) now (by simp [hnow])
        refine ⟨hwf', fun t ht => List.mem_append.mpr ?_⟩
        rcases hstamps t ht with ht | ht
        · exact .inl (hmem t ht)
        · exact .inr (by simp [ht])
  exact key.2 hclock id row hrow

theorem wellFormed_of_run_sample : ∃ tr s row, cluster.Run tr s ∧ s.queue.get 1 = some row ∧
    row.stamps = [0, 61, 67, 70] ∧ row.WellFormed ∧ ∀ t ∈ row.stamps, t ∈ clocks tr := by
  obtain ⟨tr, s, hrun, hf⟩ := exists_clusterRun crashEvents
    (fun r => (decide ((∀ m ∈ r.1, OrderlyRecovery false m) ∧ (clocks r.1).Pairwise (· ≤ ·)),
      (r.2.queue.get 1).map Task.stamps))
    (show _ = some (true, some [0, 61, 67, 70]) by decide +kernel)
  rw [Prod.mk.injEq, decide_eq_true_eq] at hf
  obtain ⟨⟨hrec, hclock⟩, hstamps⟩ := hf
  obtain ⟨row, hrow, hstamps⟩ := Option.map_eq_some_iff.mp hstamps
  exact ⟨tr, s, row, hrun, hrow, hstamps, wellFormed_of_run hrun hrec hclock hrow⟩

theorem RowMove.eq_of_terminal {s : Cluster} {id : ℤ} {ev : Event} {row row' : Task}
    (hm : RowMove s id ev row row')
    (hterm : row.status.terminal) : row' = row := by
  have absurd_of (hopen : row.status.terminal = false) : row' = row := by
    rw [hopen] at hterm
    cases hterm
  cases hm with
  | keep => rfl
  | claim _ hpending => exact absurd_of (by rw [hpending]; rfl)
  | start _ _ _ _ hclaimed => exact absurd_of (by rw [hclaimed]; rfl)
  | beat hheld | finish _ _ _ _ _ hheld | reset hheld =>
    exact absurd_of (Status.terminal_of_held hheld)
  | flag hcancelable => exact absurd_of (Status.terminal_of_cancelable hcancelable)

/-- **A finished row is frozen**: from the move that finds it finished to the end of a
run with orderly recoveries no column of it changes, the flag and the result included. -/
theorem frozen_of_run (h : cluster.Run tr s) (hrec : ∀ m ∈ tr, OrderlyRecovery false m)
    {m : Lts.Move Cluster Event} (hm : m ∈ tr) {id : ℤ} {row : Task}
    (hrow : m.pre.queue.get id = some row) (hterm : row.status.terminal) :
    s.queue.get id = some row := by
  have hstep : ∀ c e c', (Owned false c ∧ c.queue.get id = some row) → cluster.step c e c' →
      OrderlyRecovery false ⟨c, e, c'⟩ → Owned false c' ∧ c'.queue.get id = some row := by
    rintro c e c' ⟨hO, hrow⟩ hs hC
    refine ⟨owned_of_effect hO (effect_of_step hs) hC, ?_⟩
    -- the row is still there, and it came from the row before
    obtain ⟨row', hrow', -⟩ := statusStep_of_step hO hs hrow
    rcases rowMove_of_step hO hs hrow' with ⟨hnone, -⟩ | ⟨row₀, hrow₀, hmove⟩
    · rw [hrow] at hnone
      cases hnone
    · rw [hrow] at hrow₀
      cases hrow₀
      rw [hrow', hmove.eq_of_terminal hterm]
  obtain ⟨tr₁, tr₂, rfl⟩ := List.append_of_mem hm
  obtain ⟨hrun₁, hs⟩ := h.split
  have hO := owned_of_run hrun₁ fun m' hm' => hrec m' (List.mem_append_left _ hm')
  have hpost := hstep _ _ _ ⟨hO, hrow⟩ hs (hrec m hm)
  exact (h.invariant_after hstep hpost fun m' hm' =>
    hrec m' (List.mem_append_right _ (List.mem_cons_of_mem _ hm'))).1.2

/-- A cancel, a recovery and another worker come too late. -/
def lateEvents : List Event :=
  crashEvents ++ [.requestCancel 1, .recover 30 200, .claim 1 [7] [] (fun _ => 0) 201]

theorem frozen_of_run_sample : ∃ (tr : List (Lts.Move Cluster Event)) (s : Cluster) (row : Task),
    cluster.Run tr s ∧ tr.length = 19 ∧ row.status = .completed ∧
    s.queue.get 1 = some row := by
  obtain ⟨tr, s, hrun, hf⟩ := exists_clusterRun lateEvents
    (fun r => (decide (∀ m ∈ r.1, OrderlyRecovery false m), r.1.length,
      (r.1[16]?).map fun m => (m.pre.queue.get 1).map Task.status))
    (show _ = some (true, 19, some (some Status.completed)) by decide +kernel)
  obtain ⟨hrec, hlen, hf⟩ := by simpa only [Prod.mk.injEq, decide_eq_true_eq] using hf
  obtain ⟨m, hm, hstatus⟩ := Option.map_eq_some_iff.mp hf
  obtain ⟨row, hrow, hstatus⟩ := Option.map_eq_some_iff.mp hstatus
  refine ⟨tr, s, row, hrun, hlen, hstatus, ?_⟩
  exact frozen_of_run hrun hrec (List.mem_of_getElem? hm) hrow (by rw [hstatus]; rfl)

end

end Server
end Shrimp
