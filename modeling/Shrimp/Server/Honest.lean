import Shrimp.Server.Timeline
import Shrimp.Server.Truth

/-!
# What a subscriber makes of an event (`server/daemon.go`, `server/server.go`)

An event carries a pointer to a task.  Nobody writes any more to the task of a handler,
nor to the row that is read again behind the terminal write; but `task.claimed` and
`task.running` carry the task of `execute`, which goes on setting its status.  What such
an event says is what the task is when `handleWS` marshals it, which may be after the
terminal write.

## Main definitions

* `Feed.pointee` — the task an execution shares with its events.
* `Sent`, `Sent.marshal` — an event in the channel of a subscriber, and its message.
* `Bears` — the execution of a task writes no more, and this is what has become of it.
* `Fair` — what a message says of a finished task is so.

## Main results

* `honest_of_run` — **in every run of a process** its executions bear what they have
  written.
* `Sent.fair_marshal` — whenever an event is marshalled, its message is fair.
* `finished_of_feed` — a finished row of the process is frozen.
-/

namespace Shrimp
namespace Server

/-! ### Messages -/

/-- The execution whose own task an event of this step points to.  Behind its terminal
event an execution sets no status any more. -/
def Feed.Act.shared : Feed.Act → Option ℕ
  | .claimed i | .running i => some i
  | _ => none

/-- The task of execution `i` as it is now; `ahead` says that `execute` has set the status
and has not yet published the event that goes with it. -/
def Feed.pointee (f : Feed) (i : ℕ) (ahead : Bool) : Option Task :=
  (f.voices[i]?).map fun v =>
    match ahead, v.heard, f.phase i with
    | true, .claimed, some .marked => { v.task with status := .running }
    | true, .running, some (.written o _) => { v.task with status := o.status }
    | _, _, _ => v.task

/-- An event in the channel of a subscriber, with the execution it shares its task with. -/
structure Sent where
  event : Bus.Event
  shared : Option ℕ

/-- The message `conn.WriteJSON` makes of an event. -/
def Sent.marshal (f : Feed) (s : Sent) (ahead : Bool) : Bus.Event :=
  match s.shared with
  | none => s.event
  | some i => { s.event with task := f.pointee i ahead }

/-- An event without its task. -/
def Bus.Event.bare (e : Bus.Event) : Bus.Event := { e with task := none }

theorem Bus.Event.eq_of_bare {e e' : Bus.Event} (h : e.bare = e'.bare) :
    e.type = e'.type ∧ e.taskID = e'.taskID ∧ e.chunk = e'.chunk := by
  simp only [bare, Bus.Event.mk.injEq] at h
  exact ⟨h.1, h.2.2.1, h.2.2.2.2⟩

theorem Sent.bare_marshal (f : Feed) (s : Sent) (ahead : Bool) :
    (s.marshal f ahead).bare = s.event.bare := by
  unfold marshal
  split <;> rfl

/-! ### What a message says -/

/-- An execution that has published its terminal event has written before. -/
def Phase.spent : Phase → Bool
  | written _ _ | ended | crashed => true
  | _ => false

/-- **What has become of a task**: its execution writes no more, and the task has the
status of its row if that is finished. -/
structure Bears (s : Cluster) (id : ℤ) (t : Task) : Prop where
  spent : ∃ (i : ℕ) (h : Holding), s.holdings[i]? = some h ∧ h.taskID = id ∧ h.phase.spent
  agrees : ∀ row, s.queue.get id = some row → row.status.terminal → t.status = row.status

/-- The tasks of the publishers are as they have made them. -/
structure Honest (f : Feed) : Prop where
  creating : ∀ id t, f.creating.get? id = some t → t.status = .pending
  voices : ∀ v ∈ f.voices, v.task.status.terminal → Bears f.deployment.cluster v.taskID v.task

/-- **What a message says of a finished task is so.** -/
structure Fair (f : Feed) (e : Bus.Event) : Prop where
  carried : e.type ≠ .chunk → e.task.isSome
  bears : ∀ t ∈ e.task, e.type.terminal ∨ t.status.terminal →
    Bears f.deployment.cluster e.taskID t

/-- So is what will be said, of an event that is still to be marshalled. -/
def Sent.Fair (f : Feed) (s : Sent) : Prop :=
  match s.shared with
  | none => Server.Fair f s.event
  | some i => s.event.type.terminal = false ∧
      ∃ v, f.voices[i]? = some v ∧ v.taskID = s.event.taskID

section

variable {timeout : Time} {f f' : Feed} {id : ℤ} {t : Task}

theorem Phase.spent_of_step {s s' : Cluster} {ev : Event} (hstep : s.step ev = some s') {i : ℕ}
    {h : Holding} (hi : s.holdings[i]? = some h) (hp : h.phase.spent) :
    ∃ h', s'.holdings[i]? = some h' ∧ h'.taskID = h.taskID ∧ h'.phase.spent := by
  have ofSet : ∀ {j : ℕ} {h0 : Holding} {p : Phase}, s.holdings[j]? = some h0 →
      s'.holdings = s.holdings.set j { h0 with phase := p } →
      (h0.phase.spent → p.spent) →
      ∃ h', s'.holdings[i]? = some h' ∧ h'.taskID = h.taskID ∧ h'.phase.spent := by
    intro j h0 p hj hexecs hsp
    rw [hexecs, List.getElem?_set]
    split
    · next heq =>
      subst heq
      rw [hj] at hi
      cases hi
      rw [if_pos (List.getElem?_eq_some_iff.mp hj).1]
      exact ⟨_, rfl, rfl, hsp hp⟩
    · exact ⟨h, hi, rfl, hp⟩
  cases effect_of_step hstep with
  | quiet _ hexecs | enqueue _ _ _ hexecs | recover _ hexecs => exact ⟨h, hexecs ▸ hi, rfl, hp⟩
  | claim _ _ _ _ _ _ hexecs =>
    refine ⟨h, ?_, rfl, hp⟩
    rw [hexecs, List.getElem?_append_left (List.getElem?_eq_some_iff.mp hi).1, hi]
  | progress j h0 p hj hpj _ hexecs =>
    refine ofSet hj hexecs fun hsp => ?_
    generalize h0.phase = q at hpj hsp
    cases hpj with
    | done => rfl
    | exit hor => rcases hor with rfl | rfl <;> cases hsp
    | start | spawn => cases hsp
  | markRunning h0 hj hphase _ hexecs =>
    exact ofSet hj hexecs fun hsp => by rw [hphase] at hsp; cases hsp
  | write h0 o hj hphase _ hexecs => exact ofSet hj hexecs fun _ => rfl
  | crash _ hexecs =>
    rw [hexecs, List.getElem?_map, hi]
    refine ⟨_, rfl, ?_⟩
    dsimp only
    split
    · exact ⟨rfl, rfl⟩
    · exact ⟨rfl, hp⟩

theorem Feed.status_of_mem_launched {op : Operation} {v : Voice} (h : v ∈ f.launched op) :
    v.task.status = .claimed := by
  unfold launched at h
  split at h
  · simp only [Option.mem_toList, Option.bind_eq_some_iff, Option.map_eq_some_iff] at h
    obtain ⟨dm, -, ⟨q, id, task⟩, hclaim, rfl⟩ := h
    obtain ⟨row, -, -, rfl⟩ := Queue.claim_eq_some_iff.mp hclaim
    rfl
  · cases h

theorem Feed.status_of_creatingAfter
    (hpending : ∀ id t, f.creating.get? id = some t → t.status = .pending) {op : Operation} {id : ℤ}
    {t : Task} (h : (f.creatingAfter op).get? id = some t) : t.status = .pending := by
  unfold creatingAfter at h
  split at h
  · rw [Dict.get?_insert] at h
    split at h
    · cases h
      rfl
    · exact hpending id t h
  · exact hpending id t h

theorem Told.holding_unique (hT : Told f) {i j : ℕ} {h h' : Holding}
    (hi : f.deployment.cluster.holdings[i]? = some h)
    (hj : f.deployment.cluster.holdings[j]? = some h') (heq : h.taskID = h'.taskID) : i = j := by
  have hget := Cluster.getElem?_claims hj
  rw [← heq, ← Cluster.getElem?_claims hi] at hget
  exact (List.getElem?_inj (List.getElem?_eq_some_iff.mp (Cluster.getElem?_claims hi)).1
    hT.settled.distinct).mp hget.symm

theorem Told.status_of_written (hT : Told f) {i : ℕ} {v : Voice} {o : Outcome} {ok : Bool}
    (hv : f.voices[i]? = some v) (hphase : f.phase i = some (.written o ok)) {row : Task}
    (hrow : f.deployment.cluster.queue.get v.taskID = some row) (hterm : row.status.terminal) :
    row.status = o.status := by
  obtain ⟨h, hi, hp⟩ := Feed.phase_eq_some_iff.mp hphase
  have hbusy : h.phase.busy true := by
    rw [hp]
    rfl
  obtain ⟨l, hl, hfits⟩ := hT.confined.owned.fits hi hbusy
  rw [← hT.taskID_eq hv hi, Cluster.lease, hrow] at hl
  cases hl
  rw [hp] at hfits
  cases ok with
  | true => exact hfits
  | false =>
    have hheld : row.status.held := hfits.1
    rw [Status.terminal_of_held hheld] at hterm
    cases hterm

/-- **What has become of a task is not changed** by the operations of the process. -/
theorem Told.bears_of_op (hT : Told f) (hB : Bears f.deployment.cluster id t) {op : Operation}
    {D : Deployment} (hstep : f.deployment.step timeout op = some D) : Bears D.cluster id t := by
  obtain ⟨-, hcluster⟩ := Deployment.step_eq_some_iff.mp hstep
  obtain ⟨j, h', hj, htask, hsp⟩ := hB.spent
  obtain ⟨h'', hj', htask', hsp'⟩ := Phase.spent_of_step hcluster hj hsp
  refine ⟨⟨j, h'', hj', htask'.trans htask, hsp'⟩, fun row' hrow' hfinished => ?_⟩
  rcases rowMove_of_step hT.confined.owned.writing hcluster hrow' with
    ⟨-, _, _, _, _, _, -, rfl⟩ | ⟨row, hrow, hmove⟩
  · cases hfinished
  · by_cases hfin : row.status.terminal
    · rw [hmove.eq_of_terminal hfin]
      exact hB.agrees row hrow hfin
    · generalize f.deployment.event timeout op = ev at hmove
      cases hmove with
      | keep | beat | flag => exact absurd hfinished hfin
      | claim | start | reset => cases hfinished
      | finish h o hi hid hp =>
        -- the execution that writes is that of the task, which writes no more
        have heq := hT.holding_unique hi hj (hid.trans htask.symm)
        subst heq
        rw [hi] at hj
        cases hj
        rw [hp] at hsp
        cases hsp

theorem Told.bears_of_step (hT : Told f) (hB : Bears f.deployment.cluster id t) {a : Feed.Act}
    (h : f.step timeout a = some f') : Bears f'.deployment.cluster id t := by
  cases Feed.step_cases h with
  | op D htakes hstep hf =>
    rw [hf]
    exact hT.bears_of_op hB hstep
  | created t hget hf => rw [hf]; exact hB
  | say i v v' e hf => rw [hf]; exact hB

/-- An execution that has written bears what it has written. -/
theorem Told.bears_of_written (hT : Told f) {i : ℕ} {v : Voice} {o : Outcome} {ok : Bool}
    (hv : f.voices[i]? = some v) (hphase : f.phase i = some (.written o ok))
    (ht : t.status = o.status) : Bears f.deployment.cluster v.taskID t := by
  obtain ⟨h, hi, hp⟩ := Feed.phase_eq_some_iff.mp hphase
  refine ⟨⟨i, h, hi, (hT.taskID_eq hv hi).symm, by rw [hp]; rfl⟩, fun row hrow hterm => ?_⟩
  rw [ht, hT.status_of_written hv hphase hrow hterm]

/-! ### Steps -/

theorem honest_of_say (hH : Honest f) {i : ℕ} {v' : Voice} {e : Bus.Event} {s : Option ℕ}
    (hnew : v'.task.status.terminal → Bears f.deployment.cluster v'.taskID v'.task)
    (hsent : Sent.Fair (f.say i v' e) ⟨e, s⟩) :
    Honest (f.say i v' e) ∧ ∀ es, (f.say i v' e).published = f.published ++ es →
      ∀ e' ∈ es, Sent.Fair (f.say i v' e) ⟨e', s⟩ := by
  refine ⟨⟨hH.creating, fun w hw => ?_⟩, fun es hes e' he' => ?_⟩
  · rcases List.mem_or_eq_of_mem_set hw with hw | rfl
    · exact hH.voices w hw
    · exact hnew
  · obtain rfl := List.append_cancel_left hes
    cases List.mem_singleton.mp he'
    exact hsent

theorem Sent.fair_shared {i : ℕ} {v v' : Voice} {e : Bus.Event} (hi : f.voices[i]? = some v)
    (htask : v'.taskID = e.taskID) (hterm : e.type.terminal = false) :
    Sent.Fair (f.say i v' e) ⟨e, some i⟩ := by
  refine ⟨hterm, v', ?_, htask⟩
  exact List.getElem?_set_self (List.getElem?_eq_some_iff.mp hi).1

/-- **The step lemma**: what is published in a step is fair when it is sent. -/
theorem honest_of_step (hT : Told f) (hH : Honest f) {a : Feed.Act}
    (h : f.step timeout a = some f') :
    Honest f' ∧ ∀ es, f'.published = f.published ++ es → ∀ e ∈ es, Sent.Fair f' ⟨e, a.shared⟩ := by
  cases a with
  | op op =>
    simp only [Feed.step] at h
    split at h
    · obtain ⟨D, hD, rfl⟩ := Option.map_eq_some_iff.mp h
      refine ⟨⟨fun id t ht => Feed.status_of_creatingAfter hH.creating ht, fun v hv hterm => ?_⟩,
        fun es hes e he => ?_⟩
      · rcases List.mem_append.mp hv with hv | hv
        · exact hT.bears_of_op (hH.voices v hv hterm) hD
        · rw [Feed.status_of_mem_launched hv] at hterm
          cases hterm
      · rw [List.self_eq_append_right.mp hes] at he
        cases he
    · cases h
  | created id =>
    simp only [Feed.step] at h
    split at h
    · cases h
    · next t hget =>
      cases h
      refine ⟨⟨fun id' t' ht' => ?_, hH.voices⟩, fun es hes e he => ?_⟩
      · rw [Dict.get?_erase] at ht'
        split at ht'
        · cases ht'
        · exact hH.creating id' t' ht'
      · obtain rfl := List.append_cancel_left hes
        cases List.mem_singleton.mp he
        refine ⟨fun _ => rfl, fun t' ht' hterm => ?_⟩
        cases ht'
        rw [hH.creating id t hget] at hterm
        cases hterm with
        | inl hterm => cases hterm
        | inr hterm => cases hterm
  | claimed i =>
    obtain ⟨v, hi, h⟩ := Feed.onVoice_eq_some_iff.mp h
    split at h
    · cases h
      exact honest_of_say hH (hH.voices v (List.mem_of_getElem? hi)) (Sent.fair_shared hi rfl rfl)
    · cases h
  | running i =>
    obtain ⟨v, hi, h⟩ := Feed.onVoice_eq_some_iff.mp h
    split at h
    · cases h
      exact honest_of_say hH (fun hterm => by cases hterm) (Sent.fair_shared hi rfl rfl)
    · cases h
  | chunk i stream line =>
    obtain ⟨v, hi, h⟩ := Feed.onVoice_eq_some_iff.mp h
    split at h
    · cases h
      refine honest_of_say hH (hH.voices v (List.mem_of_getElem? hi))
        ⟨fun hne => absurd rfl hne, ?_⟩
      intro t ht
      cases ht
    · cases h
  | terminal i ok =>
    obtain ⟨v, hi, h⟩ := Feed.onVoice_eq_some_iff.mp h
    split at h
    · next o w hheard hphase =>
      cases h
      refine honest_of_say hH (fun _ => hT.bears_of_written (v := v) hi hphase rfl)
        ⟨fun _ => rfl, ?_⟩
      intro t ht _
      -- `refresh` reads the row, or hands on the task of the execution
      have hB := hT.bears_of_written hi hphase (t := { v.task with status := o.status }) rfl
      cases ht
      cases ok with
      | false => exact hB
      | true =>
        refine ⟨hB.spent, fun row hrow _ => ?_⟩
        change f.deployment.cluster.queue.get v.taskID = some row at hrow
        rw [if_pos rfl, hrow, Option.getD_some]
    · cases h

/-- **The run lemma.** -/
theorem honest_of_run {tr : List (Lts.Move Feed Feed.Act)} (h : (feed timeout).Run tr f) :
    Honest f := by
  refine h.invariant (I := fun _ f => Honest f) ?_ fun _ _ _ _ hrun hH hstep =>
    (honest_of_step (told_of_run hrun) hH hstep).1
  rintro f ⟨q, workerID, rfl⟩
  constructor
  case creating => intro id t ht; cases ht
  case voices => intro v hv; cases hv

/-! ### Marshalling -/

/-- **Whenever an event is marshalled, its message is fair.** -/
theorem Sent.fair_marshal (hT : Told f) (hH : Honest f) {s : Sent} (h : s.Fair f) (ahead : Bool) :
    Server.Fair f (s.marshal f ahead) := by
  obtain ⟨e, shared⟩ := s
  cases shared with
  | none => exact h
  | some i =>
    obtain ⟨hopen, v, hi, htask⟩ := h
    refine ⟨fun _ => by simp [marshal, Feed.pointee, hi], fun t ht hor => ?_⟩
    have hterm : t.status.terminal := by
      refine hor.resolve_left fun htype => ?_
      rw [show e.type.terminal = true from htype] at hopen
      cases hopen
    clear hor
    change t ∈ f.pointee i ahead at ht
    change Bears f.deployment.cluster e.taskID t
    rw [← htask]
    simp only [Feed.pointee, hi, Option.map_some, Option.mem_def, Option.some.injEq] at ht
    split at ht
    · subst ht
      cases hterm
    -- the status is set behind the terminal write
    · next o _ _ hphase =>
      subst ht
      exact hT.bears_of_written hi hphase rfl
    · subst ht
      exact hH.voices v (List.mem_of_getElem? hi) hterm

theorem Fair.step (hT : Told f) {e : Bus.Event} (he : Fair f e) {a : Feed.Act}
    (h : f.step timeout a = some f') : Fair f' e :=
  ⟨he.carried, fun t ht hterm => hT.bears_of_step (he.bears t ht hterm) h⟩

theorem Sent.Fair.step (hT : Told f) {s : Sent} (hs : s.Fair f) {a : Feed.Act}
    (h : f.step timeout a = some f') : s.Fair f' := by
  obtain ⟨e, shared⟩ := s
  cases shared with
  | none => exact Server.Fair.step hT hs h
  | some i =>
    obtain ⟨hopen, v, hi, htask⟩ := hs
    refine ⟨hopen, ?_⟩
    cases Feed.step_cases h with
    | op D htakes hstep hf =>
      refine ⟨v, ?_, htask⟩
      rw [hf]
      exact (List.getElem?_append_left (List.getElem?_eq_some_iff.mp hi).1).trans hi
    | created t hget hf => exact ⟨v, by rw [hf]; exact hi, htask⟩
    | say j v₀ v' e' hf hj htask' =>
      subst hf
      by_cases hij : j = i
      · subst hij
        rw [hj] at hi
        cases hi
        exact ⟨v', List.getElem?_set_self (List.getElem?_eq_some_iff.mp hj).1, htask'.trans htask⟩
      · exact ⟨v, (List.getElem?_set_ne hij).trans hi, htask⟩

theorem finished_of_feed {id : ℤ} {a : Feed.Act} (hT : Told f) (h : f.step timeout a = some f')
    {row : Task} (hrow : f.deployment.cluster.queue.get id = some row)
    (hterm : row.status.terminal) : f'.deployment.cluster.queue.get id = some row := by
  cases Feed.step_cases h with
  | op D htakes hstep hf =>
    obtain ⟨-, hcluster⟩ := Deployment.step_eq_some_iff.mp hstep
    have hO := hT.confined.owned.writing
    obtain ⟨row', hrow', -⟩ := statusStep_of_step hO hcluster hrow
    rcases rowMove_of_step hO hcluster hrow' with ⟨hnone, -⟩ | ⟨row₀, hrow₀, hmove⟩
    · rw [hrow] at hnone
      cases hnone
    · rw [hrow] at hrow₀
      cases hrow₀
      rw [hf, ← hmove.eq_of_terminal hterm]
      exact hrow'
  | created t hget hf => rw [hf, hrow]
  | say i v v' e hf => rw [hf, ← hrow]; rfl

end

end Server
end Shrimp
