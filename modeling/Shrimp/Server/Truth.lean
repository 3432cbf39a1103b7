import Shrimp.Server.Events

/-!
# What a terminal event says (`server/daemon.go`)

`execute` ignores the error of `Complete`, `Fail` and `Canceled` and publishes the
terminal event all the same.  A write that has reached the table is kept: nobody
changes the row of a finished task before its event is out.  A write that has not
leaves the row with its worker, while the event says that the task has ended.

## Main definitions

* `Outcome.Recorded` — a row with the status, the result and the error of a run.
* `Truthful` — the row is so when the terminal event is published.
* `WriteReached` — the terminal write before the event has reached the table.

## Main results

* `answer_of_step` — a step leaves the result and the error of a row it does not
  finish.
* `kept_of_run` — what a terminal write has stored stands until `execute` returns.
* `truthful_iff` — **the terminal events of a run are true exactly when their writes
  have reached the table.**
-/

namespace Shrimp
namespace Server

/-! ### The result and the error of a row -/

/-- The columns of a row that say what came of the task. -/
def Task.answer (row : Task) : Option String × Option String := (row.result, row.error)

/-- The result and the error of a run are in the row. -/
def Outcome.Answered : Outcome → Task → Prop
  | completed result, row => row.result = some result
  | failed errMsg partialResult, row =>
    row.result = some partialResult ∧ row.error = some errMsg
  | canceled partialResult, row => row.result = some partialResult

/-- **The row has the status, the result and the error of a run.** -/
structure Outcome.Recorded (o : Outcome) (row : Task) : Prop where
  status : row.status = o.status
  answered : o.Answered row

theorem Outcome.Answered.congr {o : Outcome} {row row' : Task} (h : o.Answered row)
    (heq : row'.answer = row.answer) : o.Answered row' := by
  obtain ⟨hresult, herror⟩ := Prod.mk.inj heq
  cases o with
  | completed result => exact hresult.trans h
  | failed errMsg partialResult => exact ⟨hresult.trans h.1, herror.trans h.2⟩
  | canceled partialResult => exact hresult.trans h

namespace Queue

/-- An update of other columns leaves the answer of every row. -/
theorem answer_update {q : Queue} {p : ℤ → Task → Bool} {f : Task → Task}
    (hf : ∀ row, (f row).answer = row.answer) {id : ℤ} {row : Task} (hrow : q.get id = some row) :
    ∃ row', (q.update p f).get id = some row' ∧ row'.answer = row.answer := by
  rw [get_update, hrow, Option.map_some]
  refine ⟨_, rfl, ?_⟩
  split
  · exact hf row
  · rfl

theorem get_write_of_ne {q : Queue} {i id : ℤ} (h : id ≠ i) (o : Outcome) (now : Time) :
    (o.write q i now).get id = q.get id := by
  cases o with
  | completed result => exact (get_set ..).trans (if_neg h)
  | failed errMsg partialResult => exact (get_set ..).trans (if_neg h)
  | canceled partialResult => exact (get_set ..).trans (if_neg h)

/-- **A terminal write stores the run.** -/
theorem get_write_self {q : Queue} {id : ℤ} {row : Task} (hrow : q.get id = some row)
    (o : Outcome) (now : Time) :
    ∃ row', (o.write q id now).get id = some row' ∧ o.Recorded row' := by
  have hset : ∀ f : Task → Task, (q.set id f).get id = some (f row) := by
    intro f
    rw [get_set, if_pos rfl, hrow, Option.map_some]
  cases o with
  | completed result => exact ⟨_, hset _, rfl, rfl⟩
  | failed errMsg partialResult => exact ⟨_, hset _, rfl, rfl, rfl⟩
  | canceled partialResult => exact ⟨_, hset _, rfl, rfl⟩

end Queue

open Cluster

section

variable {s s' : Cluster} {ev : Event}

/-- **A step leaves the result and the error of a row**, unless it is the terminal
write of that task. -/
theorem answer_of_step (h : s.step ev = some s') {id : ℤ} {row : Task}
    (hrow : s.queue.get id = some row)
    (hwrite : ∀ i now e, ev = .write i true now → s.execs[i]? = some e → e.taskID ≠ id) :
    ∃ row', s'.queue.get id = some row' ∧ row'.answer = row.answer := by
  have same : s'.queue = s.queue →
      ∃ row', s'.queue.get id = some row' ∧ row'.answer = row.answer := by
    intro hqueue
    exact ⟨row, hqueue ▸ hrow, rfl⟩
  cases ev with
  | boot workerID =>
    cases h
    exact same rfl
  | enqueue lost agentID prompt priority now =>
    cases h
    refine ⟨row, ?_, rfl⟩
    -- the key is new, and this row is there
    rw [Queue.get_enqueue, if_neg, hrow]
    intro hid
    rw [Queue.get_of_seq_lt (by omega)] at hrow
    cases hrow
  | claim d agentIDs locked scan now =>
    simp only [step] at h
    split at h
    · cases h
    split at h
    · split at h
      · cases h
        exact same rfl
      · next q id' task hsome =>
        cases h
        obtain ⟨row', -, rfl, -⟩ := Queue.claim_eq_some_iff.mp hsome
        refine Queue.answer_update ?_ hrow
        exact fun _ => rfl
    · cases h
  | markRunning i ok now =>
    obtain ⟨e, -, h⟩ := onExec_eq_some_iff.mp h
    split at h
    · cases h
      cases ok with
      | false => exact same rfl
      | true =>
        refine Queue.answer_update ?_ hrow
        exact fun _ => rfl
    · cases h
  | heartbeat i ok now =>
    obtain ⟨e, -, h⟩ := onExec_eq_some_iff.mp h
    split at h
    · cases ok with
      | false =>
        cases h
        exact same rfl
      | true =>
        cases h
        exact Queue.answer_update (f := fun row => { row with heartbeatAt := some now })
          (fun _ => rfl) hrow
    · cases h
  | start i | spawn i | exit i result err | done i =>
    obtain ⟨e, -, h⟩ := onExec_eq_some_iff.mp h
    split at h
    · cases h
      exact same rfl
    · cases h
  | honor i =>
    obtain ⟨e, -, h⟩ := onExec_eq_some_iff.mp h
    split at h
    · cases h
      exact same (managerCancel_spec ..).1
    · cases h
  | write i ok now =>
    obtain ⟨e, hi, h⟩ := onExec_eq_some_iff.mp h
    split at h
    · next o _ =>
      cases h
      cases ok with
      | false => exact same rfl
      | true =>
        have hne := hwrite i now e rfl hi
        exact ⟨row, (Queue.get_write_of_ne hne.symm o now).trans hrow, rfl⟩
    · cases h
  | cancel d id' =>
    cases h
    exact same (managerCancel_spec ..).1
  | requestCancel id' =>
    simp only [step] at h
    split at h
    · cases h
      exact same rfl
    · next q row' hq =>
      cases h
      unfold Queue.requestCancel at hq
      split at hq
      · cases hq
      split at hq
      · cases hq
        exact Queue.answer_update (f := fun row => { row with cancelRequested := true })
          (fun _ => rfl) hrow
      · cases hq
  | recover timeout now =>
    cases h
    refine Queue.answer_update ?_ hrow
    exact fun _ => rfl
  | shutdown d | crash d =>
    cases h
    exact same rfl

/-! ### What a write has stored -/

/-- **What a terminal write has stored stands** until its execution has returned. -/
def Kept (s : Cluster) : Prop :=
  ∀ (i : ℕ) (h : Holding) (o : Outcome), s.holdings[i]? = some h → h.phase = .written o true →
    ∃ row, s.queue.get h.taskID = some row ∧ o.Recorded row

/-- An execution whose write has reached the table had written before, or writes
now. -/
theorem written_of_step (hstep : s.step ev = some s') {i : ℕ} {h' : Holding} {o : Outcome}
    (hi : s'.holdings[i]? = some h') (hp : h'.phase = .written o true) :
    s.holdings[i]? = some h' ∨ ∃ now h, ev = .write i true now ∧ s.holdings[i]? = some h ∧
      h.taskID = h'.taskID ∧ h.phase = .finishing o ∧
      s'.queue = o.write s.queue h.taskID now := by
  -- an execution that has moved has written, or was where it is
  have ofSet : ∀ {j : ℕ} {h0 : Holding} {p : Phase},
      s'.holdings = s.holdings.set j { h0 with phase := p } → p ≠ .written o true →
      s.holdings[i]? = some h' := by
    intro j h0 p hexecs hne
    rw [hexecs] at hi
    rcases getElem?_set_cases hi with ⟨-, rfl⟩ | ⟨-, hi⟩
    · exact absurd hp hne
    · exact hi
  cases effect_of_step hstep with
  | quiet _ hexecs | enqueue _ _ _ hexecs | recover _ hexecs => exact .inl (hexecs ▸ hi)
  | claim _ _ _ _ _ _ hexecs =>
    rw [hexecs] at hi
    rcases getElem?_snoc_cases hi with hi | ⟨-, rfl⟩
    · exact .inl hi
    · cases hp
  | progress j h0 p _ hpj _ hexecs =>
    refine .inl (ofSet hexecs ?_)
    rintro rfl
    generalize h0.phase = q at hpj
    cases hpj
  | markRunning h0 _ _ _ hexecs =>
    refine .inl (ofSet hexecs ?_)
    intro heq
    cases heq
  | @write j ok now h0 o' hj hphase hqueue hexecs =>
    rw [hexecs] at hi
    rcases getElem?_set_cases hi with ⟨rfl, rfl⟩ | ⟨-, hi⟩
    · cases hp
      exact .inr ⟨now, h0, rfl, hj, rfl, hphase, hqueue⟩
    · exact .inl hi
  | crash _ hexecs =>
    rw [hexecs, List.getElem?_map] at hi
    obtain ⟨h0, hi, heq⟩ := Option.map_eq_some_iff.mp hi
    split at heq
    · rw [← heq] at hp
      cases hp
    · exact .inl (heq ▸ hi)

/-- **The step lemma.**  Two executions at work have two rows, so no other write comes
to the row of one that has written. -/
theorem kept_of_step (hO : Owned true s) (hO' : Owned true s') (hK : Kept s)
    (hstep : s.step ev = some s') : Kept s' := by
  intro i h' o hi hp
  have hbusy : h'.phase.busy true := by
    rw [hp]
    rfl
  rcases written_of_step hstep hi hp with hpre | ⟨now, h, rfl, hpre, htask, hphase, hqueue⟩
  · obtain ⟨row, hrow, hrec⟩ := hK i h' o hpre hp
    obtain ⟨row', hrow', heq⟩ := answer_of_step hstep hrow <| by
      rintro j now e rfl hj htask
      obtain ⟨e', hj', h⟩ := onExec_eq_some_iff.mp hstep
      rw [hj] at hj'
      cases hj'
      split at h
      · next o' hfin =>
        have hbusy' : e.toHolding.phase.busy true := by
          rw [hfin]
          rfl
        -- one execution of a task is busy at a time, and this one has written
        obtain rfl := hO.eq_of_taskID_eq hpre (getElem?_holdings hj) hbusy hbusy' htask
        rw [getElem?_holdings hj] at hpre
        rw [← Option.some.inj hpre, hfin] at hp
        cases hp
      · cases h
    refine ⟨row', hrow', ?_, hrec.answered.congr heq⟩
    obtain ⟨l, hl, hfits⟩ := hO'.fits hi hbusy
    rw [hp] at hfits
    rw [lease, hrow'] at hl
    cases hl
    exact hfits
  · have hbusy' : h.phase.busy true := by
      rw [hphase]
      rfl
    obtain ⟨l, hl, -⟩ := hO.fits hpre hbusy'
    obtain ⟨row, hrow, -⟩ := lease_eq_some_iff.mp hl
    rw [hqueue, ← htask]
    exact Queue.get_write_self hrow o now

end

section

variable {timeout : Time} {f f' : Feed}

/-- **The run lemma.** -/
theorem kept_of_run {tr : List (Lts.Move Feed Feed.Act)} (h : (feed timeout).Run tr f) :
    Kept f.deployment.cluster := by
  refine h.invariant (I := fun _ f => Kept f.deployment.cluster) ?_ ?_
  · rintro f ⟨q, workerID, rfl⟩ i h o hi
    cases hi
  · intro tr f a f' hrun hK hstep
    have hO' := (told_of_run (hrun.snoc hstep)).confined.owned
    cases Feed.step_cases hstep with
    | op D htakes hD hf =>
      subst hf
      exact kept_of_step (told_of_run hrun).confined.owned hO' hK
        (Deployment.step_eq_some_iff.mp hD).2
    | created t hget hf => exact hf ▸ hK
    | say i v v' e hf => exact hf ▸ hK

/-! ### Terminal events -/

/-- **A terminal event tells the truth**: when it is published, the row of its task
has the status it says, and the result and the error of the run. -/
def Truthful (m : Lts.Move Feed Feed.Act) : Prop :=
  ∀ i ok, m.label = .terminal i ok → ∃ v o w row e, m.pre.voices[i]? = some v ∧
    m.pre.phase i = some (.written o w) ∧ m.post.published = m.pre.published ++ [e] ∧
    e.type = o.eventType ∧ e.taskID = v.taskID ∧
    m.post.deployment.cluster.queue.get v.taskID = some row ∧ o.Recorded row

/-- Has the terminal write of this execution reached the table? -/
def Phase.reached : Phase → Bool
  | written _ ok => ok
  | _ => false

/-- **The terminal write before the event has reached the table.** -/
def WriteReached (m : Lts.Move Feed Feed.Act) : Prop :=
  match m.label with
  | .terminal i _ => (m.pre.phase i).any Phase.reached
  | _ => True

instance (m : Lts.Move Feed Feed.Act) : Decidable (WriteReached m) :=
  match m with
  | ⟨f, .terminal i _, _⟩ => inferInstanceAs (Decidable ((f.phase i).any Phase.reached))
  | ⟨_, .op _, _⟩ | ⟨_, .created _, _⟩ | ⟨_, .claimed _, _⟩ | ⟨_, .running _, _⟩
  | ⟨_, .chunk .., _⟩ => .isTrue trivial

/-- What `execute` does when it publishes a terminal event. -/
theorem Feed.terminal_cases {i : ℕ} {ok : Bool} (h : f.step timeout (.terminal i ok) = some f') :
    ∃ v o w e, f.voices[i]? = some v ∧ f.phase i = some (.written o w) ∧
      f'.published = f.published ++ [e] ∧ e.type = o.eventType ∧ e.taskID = v.taskID ∧
      f'.deployment = f.deployment := by
  obtain ⟨v, hv, h⟩ := onVoice_eq_some_iff.mp h
  split at h
  · next o w hheard hphase =>
    cases h
    exact ⟨v, o, w, _, hv, hphase, rfl, rfl, rfl, rfl⟩
  · cases h

/-- The voice of an execution speaks of the task the execution is of. -/
theorem Told.taskID_eq (hT : Told f) {i : ℕ} {v : Voice} {h : Holding}
    (hv : f.voices[i]? = some v) (hi : f.deployment.cluster.holdings[i]? = some h) :
    v.taskID = h.taskID := by
  have hget : f.taskIDs[i]? = some v.taskID := by
    rw [Feed.taskIDs, List.getElem?_map, hv, Option.map_some]
  rw [hT.claims, getElem?_claims hi] at hget
  exact (Option.some.inj hget).symm

theorem Feed.phase_eq_some_iff {i : ℕ} {p : Phase} :
    f.phase i = some p ↔ ∃ h, f.deployment.cluster.holdings[i]? = some h ∧ h.phase = p := by
  rw [phase, holdings, List.getElem?_map, Option.map_eq_some_iff]
  constructor
  · rintro ⟨e, he, rfl⟩
    exact ⟨e.toHolding, by rw [he]; rfl, rfl⟩
  · rintro ⟨h, hh, rfl⟩
    obtain ⟨e, he, rfl⟩ := Option.map_eq_some_iff.mp hh
    exact ⟨e, he, rfl⟩

/-- A write that has reached the table is there when the event is published. -/
theorem truthful_of_writeReached {tr : List (Lts.Move Feed Feed.Act)} {a : Feed.Act}
    (hrun : (feed timeout).Run tr f) (hstep : f.step timeout a = some f')
    (h : WriteReached ⟨f, a, f'⟩) : Truthful ⟨f, a, f'⟩ := by
  rintro i ok rfl
  obtain ⟨v, o, w, e, hv, hphase, hpub, htype, hid, hdep⟩ := Feed.terminal_cases hstep
  have hw : w = true := by
    change (f.phase i).any Phase.reached at h
    rw [hphase] at h
    exact h
  subst hw
  obtain ⟨k, hk, hp⟩ := Feed.phase_eq_some_iff.mp hphase
  obtain ⟨row, hrow, hrec⟩ := kept_of_run hrun i k o hk hp
  rw [← (told_of_run hrun).taskID_eq hv hk, ← hdep] at hrow
  exact ⟨v, o, true, row, e, hv, hphase, hpub, htype, hid, hrow, hrec⟩

/-- **A write that has not reached the table leaves the row with its worker**, so the
event is not true. -/
theorem writeReached_of_truthful {tr : List (Lts.Move Feed Feed.Act)} {a : Feed.Act}
    (hrun : (feed timeout).Run tr f) (hstep : f.step timeout a = some f')
    (h : Truthful ⟨f, a, f'⟩) : WriteReached ⟨f, a, f'⟩ := by
  unfold WriteReached
  split
  · next i ok ha =>
    change a = _ at ha
    subst ha
    obtain ⟨v, o, w, row, e, hv, hphase, -, -, -, hrow, hrec⟩ := h i ok rfl
    cases w with
    | true =>
      rw [hphase]
      rfl
    -- a write that is lost leaves the row held, so that the record is none of a finished task
    | false =>
      obtain ⟨-, -, -, -, -, -, -, -, -, hdep⟩ := Feed.terminal_cases hstep
      obtain ⟨k, hk, hp⟩ := Feed.phase_eq_some_iff.mp hphase
      have hT := told_of_run hrun
      have hbusy : k.phase.busy true := by
        rw [hp]
        rfl
      obtain ⟨l, hl, hfits⟩ := hT.confined.owned.fits hk hbusy
      rw [hp] at hfits
      rw [hdep, hT.taskID_eq hv hk] at hrow
      rw [lease, hrow] at hl
      cases hl
      have hheld : row.status.held := hfits.1
      rw [hrec.status] at hheld
      cases o <;> cases hheld
  · trivial

/-- **The terminal events of a run are true exactly when their writes have reached the
table.** -/
theorem truthful_iff {tr : List (Lts.Move Feed Feed.Act)} (h : (feed timeout).Run tr f) :
    (∀ m ∈ tr, Truthful m) ↔ ∀ m ∈ tr, WriteReached m := by
  refine forall₂_congr fun m hm => ?_
  obtain ⟨tr₁, hrun, hstep⟩ := h.step_of_mem hm
  exact ⟨writeReached_of_truthful hrun hstep, truthful_of_writeReached hrun hstep⟩

theorem truthful_iff_sample : ∃ tr f, (feed 30).Run tr f ∧
    Feed.about f.published 1 = wholeLife 1 .completed ∧ ∀ m ∈ tr, Truthful m := by
  obtain ⟨tr, f, hrun, hf⟩ := exists_feedRun 30 (lifeActs [.created 1] [])
    (fun r => (decide (∀ m ∈ r.1, WriteReached m), Feed.about r.2.published 1))
    (show _ = some (true, wholeLife 1 .completed) by decide +kernel)
  rw [Prod.mk.injEq, decide_eq_true_eq] at hf
  exact ⟨tr, f, hrun, hf.2, (truthful_iff hrun).mpr hf.1⟩

/-- A life whose terminal write fails. -/
def lostActs : List Feed.Act := [
  .op (.recover 0), .op (.run (.enqueue 0 7 "fix the build" 2 1)), .created 1,
  .op (.run (.claim 0 [7] [] (fun _ => 0) 2)), .claimed 0, .op (.run (.start 0)),
  .op (.run (.markRunning 0 true 3)), .running 0, .op (.run (.spawn 0)),
  .op (.run (.exit 0 "ok" none)), .op (.run (.write 0 false 4)), .terminal 0 true]

/-- **A failed `Complete`**: the task is published as completed, and its row is still
running and has no result. -/
theorem truthful_counterexample : ¬∀ tr f, (feed 30).Run tr f → ∀ m ∈ tr, Truthful m := by
  intro hall
  obtain ⟨tr, f, hrun, hf⟩ := exists_feedRun 30 lostActs
    (fun r => (decide (∀ m ∈ r.1, WriteReached m), Feed.about r.2.published 1,
      (r.2.deployment.cluster.queue.get 1).map fun row => (row.status, row.result)))
    (show _ = some (false, [.created, .claimed, .running, .completed],
      some (Status.running, none)) by decide +kernel)
  simp only [Prod.mk.injEq, decide_eq_false_iff_not] at hf
  refine hf.1 fun m hm => ?_
  obtain ⟨tr₁, hrun₁, hstep⟩ := hrun.step_of_mem hm
  exact writeReached_of_truthful hrun₁ hstep (hall tr f hrun m hm)

end

end Server
end Shrimp
