import Shrimp.Server.Cluster

/-!
# Which execution owns a row

`MarkRunning` and the terminal writes name the row by its key alone.  What makes
them safe, as long as recovery only resets rows that nobody works on, is a joint
invariant of rows and executions: an execution still at work is the last one
that claimed its task, and its row stands where that execution left it.

## Main definitions

* `Phase.busy` — the phases of an execution that is still at work: with writes
  ahead of it or, when `late` is set, merely not returned.
* `Owned late` — **the invariant.**
* `OrderlyRecovery late` — a recovery resets no row whose last claim is at work.

## Main results

* `owned_of_run` — the invariant holds in every run whose recoveries are orderly.
* `statusStep_of_effect` — under the invariant a row's status only takes the
  steps of the status machine.
* `attempts_of_effect` — a row's `attempts` grows by one exactly when a `Claim`
  returns the task.
-/

namespace Shrimp
namespace Server

namespace Phase

/-- Is an execution in this phase at work?  Up to its terminal write it has
writes ahead of it; after it, it counts when `late`. -/
def busy (late : Bool) : Phase → Bool
  | launched | started | marked | running | finishing _ => true
  | written _ _ => late
  | ended | crashed => false

/-- An execution that has neither returned nor crashed. -/
def live : Phase → Bool := busy true

/-- An execution with writes ahead of it. -/
def writing : Phase → Bool := busy false

/-- What the row of an execution at work looks like. -/
def Fits (workerID : String) (l : Lease) : Phase → Prop
  | launched | started => l.status = .claimed ∧ l.workerID = some workerID
  | marked | running | finishing _ | written _ false =>
    l.status.held ∧ l.workerID = some workerID
  | written o true => l.status = o.status
  | ended | crashed => False

theorem Fits.ne_pending {p : Phase} {workerID : String} {l : Lease} (h : p.Fits workerID l) :
    l.status ≠ .pending := by
  intro hs
  rcases p with _ | _ | _ | _ | _ | ⟨o, _ | _⟩ | _ | _ <;> simp only [Fits, hs] at h
  case written.true => cases o <;> cases h
  all_goals exact absurd h.1 (by decide)

theorem busy_of_writing {late : Bool} {p : Phase} (h : p.writing) : p.busy late := by
  cases p <;> first | rfl | cases h

end Phase

namespace Cluster

/-- The tasks that claims have returned, in order: one for each execution. -/
def claims (s : Cluster) : List ℤ := s.holdings.map Holding.taskID

variable {s s' : Cluster}

theorem getElem?_claims {i : ℕ} {h : Holding} (hi : s.holdings[i]? = some h) :
    s.claims[i]? = some h.taskID := by
  rw [claims, List.getElem?_map, hi, Option.map_some]

theorem claims_of_set {i : ℕ} {h : Holding} {p : Phase} (hi : s.holdings[i]? = some h)
    (hexecs : s'.holdings = s.holdings.set i { h with phase := p }) : s'.claims = s.claims := by
  rw [claims, hexecs, List.map_set]
  change s.claims.set i h.taskID = s.claims
  exact set_eq_self (getElem?_claims hi)

theorem claims_of_crash {d : ℕ}
    (hexecs : s'.holdings =
      s.holdings.map fun h => if h.daemon = d then { h with phase := .crashed } else h) :
    s'.claims = s.claims := by
  rw [claims, hexecs, List.map_map, claims]
  refine List.map_congr_left fun h _ => ?_
  by_cases hd : h.daemon = d
  · simp [hd]
  · simp [hd]

end Cluster

open Cluster

/-! ### Rows after a write -/

section

variable {s s' : Cluster}

theorem lease_eq_some_iff {id : ℤ} {l : Lease} :
    s.lease id = some l ↔ ∃ row, s.queue.get id = some row ∧ row.lease = l :=
  Option.map_eq_some_iff

theorem lease_of_queue_eq (h : s'.queue = s.queue) (id : ℤ) : s'.lease id = s.lease id := by
  rw [lease, h, lease]

theorem lease_of_set {i : ℤ} {f : Task → Task} {g : Lease → Lease}
    (hf : ∀ row, (f row).lease = g row.lease) (hqueue : s'.queue = s.queue.set i f) (id : ℤ) :
    s'.lease id = if id = i then (s.lease id).map g else s.lease id := by
  rw [lease, hqueue, Queue.get_set]
  split
  · rw [lease, Option.map_map, Option.map_map]
    exact congrArg (Option.map · _) (funext hf)
  · rfl

theorem Outcome.write_eq_set (o : Outcome) (q : Queue) (i : ℤ) (now : Time) :
    ∃ f : Task → Task, (∀ row, (f row).lease = { row.lease with status := o.status }) ∧
      o.write q i now = q.set i f := by
  cases o with
  | completed result => exact ⟨_, fun _ => rfl, rfl⟩
  | failed errMsg partialResult => exact ⟨_, fun _ => rfl, rfl⟩
  | canceled partialResult => exact ⟨_, fun _ => rfl, rfl⟩

/-- The lease on a row after a write of a status to row `i` that may have failed. -/
def leaseAfter (s : Cluster) (ok : Bool) (i : ℤ) (st : Status) (id : ℤ) : Option Lease :=
  if ok ∧ id = i then (s.lease id).map fun l => { l with status := st } else s.lease id

theorem lease_of_markRunning {ok : Bool} {i : ℤ} {now : Time}
    (hqueue : s'.queue = s.wrote ok (s.queue.markRunning i now)) (id : ℤ) :
    s'.lease id = leaseAfter s ok i .running id := by
  unfold leaseAfter
  cases ok with
  | false => simpa using lease_of_queue_eq hqueue id
  | true =>
    have h := lease_of_set (g := fun l => { l with status := .running }) (fun _ => rfl) hqueue id
    simpa using h

theorem lease_of_write {ok : Bool} {i : ℤ} {now : Time} {o : Outcome}
    (hqueue : s'.queue = s.wrote ok (o.write s.queue i now)) (id : ℤ) :
    s'.lease id = leaseAfter s ok i o.status id := by
  unfold leaseAfter
  cases ok with
  | false => simpa using lease_of_queue_eq hqueue id
  | true =>
    obtain ⟨f, hf, hw⟩ := o.write_eq_set s.queue i now
    simpa using lease_of_set hf (hqueue.trans hw) id

/-- An insert leaves the leases on the rows that are there. -/
theorem lease_of_enqueue {id' : ℤ} {row : Task} (hnew : s.queue.get id' = none)
    (hget : ∀ i, s'.queue.get i = if i = id' then some row else s.queue.get i) {id : ℤ} {l : Lease}
    (hl : s.lease id = some l) : s'.lease id = some l := by
  have hne : id ≠ id' := by
    rintro rfl
    rw [lease, hnew] at hl
    cases hl
  rw [lease, hget, if_neg hne, ← hl, lease]

theorem lease_of_claim {i : ℤ} {workerID : String} {now : Time}
    (hqueue : s'.queue = s.queue.set i (Queue.claimTask workerID now)) (id : ℤ) :
    s'.lease id =
      if id = i then (s.lease id).map fun l => ⟨.claimed, some workerID, l.attempts + 1⟩
      else s.lease id :=
  lease_of_set (fun _ => rfl) hqueue id

theorem lease_of_recover {timeout now : Time}
    (hqueue : s'.queue = (s.queue.recoverOrphanedTasks timeout now).1) (id : ℤ) :
    s'.lease id = (s.queue.get id).map fun row =>
      if Queue.orphaned timeout now row then ⟨.pending, none, row.attempts⟩ else row.lease := by
  rw [lease, hqueue, Queue.recoverOrphanedTasks, Queue.get_update, Option.map_map]
  congr 1
  funext row
  change Task.lease (if Queue.orphaned timeout now row then _ else row) = _
  split <;> rfl

end

/-! ### The invariant -/

/-- Does this step reset the row of task `id`? -/
def Cluster.resets (s : Cluster) (ev : Event) (id : ℤ) : Bool :=
  match ev with
  | .recover timeout now => (s.queue.get id).any (Queue.orphaned timeout now)
  | _ => false

/-- Execution `i` is the last one that claimed task `id`. -/
def Cluster.LastClaim (s : Cluster) (i : ℕ) (id : ℤ) : Prop :=
  s.claims[i]? = some id ∧ ∀ j : ℕ, s.claims[j]? = some id → j ≤ i

instance (s : Cluster) (i : ℕ) (id : ℤ) : Decidable (s.LastClaim i id) :=
  decidable_of_iff (s.claims[i]? = some id ∧ ∀ j < s.claims.length, s.claims[j]? = some id → j ≤ i)
    (and_congr_right fun _ =>
      ⟨fun h j hj => h j (List.getElem?_eq_some_iff.mp hj).1 hj, fun h j _ => h j⟩)

/-- **An orderly recovery**: the last execution to have claimed a row it resets
is not at work any more. -/
def OrderlyRecovery (late : Bool) (m : Lts.Move Cluster Event) : Prop :=
  ∀ (i : ℕ) (h : Holding), m.pre.holdings[i]? = some h → m.pre.LastClaim i h.taskID →
    m.pre.resets m.label h.taskID → h.phase.busy late = false

instance (late : Bool) (m : Lts.Move Cluster Event) : Decidable (OrderlyRecovery late m) :=
  decidable_of_iff (∀ i < m.pre.holdings.length, ∀ h ∈ m.pre.holdings[i]?,
      m.pre.LastClaim i h.taskID → m.pre.resets m.label h.taskID → h.phase.busy late = false)
    ⟨fun H i h hi => H i (List.getElem?_eq_some_iff.mp hi).1 h hi, fun H i _ h hi => H i h hi⟩

/-- **The invariant**: an execution at work is the last to have claimed its task,
and its row is where that execution left it. -/
structure Owned (late : Bool) (s : Cluster) : Prop where
  last : ∀ {i : ℕ} {h : Holding}, s.holdings[i]? = some h → h.phase.busy late →
    s.LastClaim i h.taskID
  fits : ∀ {i : ℕ} {h : Holding}, s.holdings[i]? = some h → h.phase.busy late →
    ∃ l, s.lease h.taskID = some l ∧ h.phase.Fits h.workerID l

section

variable {late : Bool} {s s' : Cluster}

/-- **At most one execution of a task is at work.** -/
theorem Owned.eq_of_taskID_eq (hO : Owned late s) {i j : ℕ} {h h' : Holding}
    (hi : s.holdings[i]? = some h) (hj : s.holdings[j]? = some h') (hb : h.phase.busy late)
    (hb' : h'.phase.busy late) (heq : h'.taskID = h.taskID) : i = j := by
  have hle := (hO.last hj hb').2 i (heq ▸ getElem?_claims hi)
  have hge := (hO.last hi hb).2 j (heq ▸ getElem?_claims hj)
  omega

theorem Cluster.LastClaim.congr (hcl : s'.claims = s.claims) {i : ℕ} {id : ℤ}
    (h : s.LastClaim i id) : s'.LastClaim i id := by
  rw [LastClaim, hcl]
  exact h

/-- A move of one execution, with a write to its own row or without. -/
theorem Owned.move (hO : Owned late s) (ok : Bool) (st : Status) {p : Phase} {i : ℕ}
    {h : Holding} (hi : s.holdings[i]? = some h)
    (hlease : ∀ id, s'.lease id = leaseAfter s ok h.taskID st id)
    (hexecs : s'.holdings = s.holdings.set i { h with phase := p })
    (hbusy : ok = true → h.phase.busy late) (hback : p.busy late → h.phase.busy late)
    (hfits : p.busy late → ∀ l, h.phase.Fits h.workerID l →
      p.Fits h.workerID (if ok then { l with status := st } else l)) : Owned late s' := by
  have hcl := claims_of_set hi hexecs
  refine ⟨fun {j h'} hj hb => ?_, fun {j h'} hj hb => ?_⟩
  · rw [hexecs] at hj
    rcases getElem?_set_cases hj with ⟨rfl, rfl⟩ | ⟨-, hj⟩
    · exact (hO.last hi (hback hb)).congr hcl
    · exact (hO.last hj hb).congr hcl
  · rw [hexecs] at hj
    rcases getElem?_set_cases hj with ⟨rfl, rfl⟩ | ⟨hne, hj⟩
    · obtain ⟨l, hl, hf⟩ := hO.fits hi (hback hb)
      refine ⟨_, ?_, hfits hb l hf⟩
      rw [hlease, leaseAfter, hl]
      cases ok <;> simp
    · -- another execution at work has another row
      obtain ⟨l, hl, hf⟩ := hO.fits hj hb
      refine ⟨l, ?_, hf⟩
      rw [hlease, leaseAfter, if_neg, hl]
      rintro ⟨hok, heq⟩
      exact hne (hO.eq_of_taskID_eq hi hj (hbusy hok) hb heq).symm

/-- A step that moves no execution and leaves the rows of those at work. -/
theorem Owned.frame (hO : Owned late s) (hexecs : s'.holdings = s.holdings)
    (hlease : ∀ (i : ℕ) (h : Holding), s.holdings[i]? = some h → h.phase.busy late →
      s'.lease h.taskID = s.lease h.taskID) : Owned late s' := by
  have hcl : s'.claims = s.claims := by rw [claims, hexecs, claims]
  refine ⟨fun {j h'} hj hb => ?_, fun {j h'} hj hb => ?_⟩
  · rw [hexecs] at hj
    exact (hO.last hj hb).congr hcl
  · rw [hexecs] at hj
    rw [hlease j h' hj hb]
    exact hO.fits hj hb

/-- A claim takes a pending row, so nobody was at work on it. -/
theorem Owned.claim {d : ℕ} {workerID : String} {id : ℤ} {row : Task} {now : Time}
    (hO : Owned late s) (hrow : s.queue.get id = some row) (hpending : row.status = .pending)
    (hqueue : s'.queue = s.queue.set id (Queue.claimTask workerID now))
    (hexecs : s'.holdings = s.holdings ++ [⟨d, id, workerID, .launched⟩]) : Owned late s' := by
  have hlease := lease_of_claim hqueue
  have hl : s.lease id = some row.lease := by rw [lease, hrow, Option.map_some]
  have hcl : s'.claims = s.claims ++ [id] := by
    rw [claims, hexecs, List.map_append, claims, List.map_singleton]
  have hlen : s.holdings.length = s.claims.length := by rw [claims, List.length_map]
  -- whoever is at work has another row, as his own is not pending
  have hne : ∀ {j : ℕ} {h' : Holding}, s.holdings[j]? = some h' → h'.phase.busy late →
      h'.taskID ≠ id := by
    intro j h' hj hb heq
    obtain ⟨l, hl', hf⟩ := hO.fits hj hb
    rw [heq, hl] at hl'
    cases hl'
    exact hf.ne_pending hpending
  refine ⟨fun {j h'} hj hb => ?_, fun {j h'} hj hb => ?_⟩
  · rw [hexecs] at hj
    rcases getElem?_snoc_cases hj with hj | ⟨rfl, rfl⟩
    · obtain ⟨hget, hlast⟩ := hO.last hj hb
      refine ⟨?_, fun k hk => ?_⟩
      · rw [hcl, List.getElem?_append_left (List.getElem?_eq_some_iff.mp hget).1, hget]
      · rw [hcl] at hk
        rcases getElem?_snoc_cases hk with hk | ⟨-, heq⟩
        · exact hlast k hk
        · exact absurd heq (hne hj hb)
    -- the new execution is the last one to have claimed its row
    · refine ⟨by rw [hcl, hlen]; simp, fun k hk => ?_⟩
      have hlt := (List.getElem?_eq_some_iff.mp hk).1
      rw [hcl, List.length_append, List.length_singleton] at hlt
      omega
  · rw [hexecs] at hj
    rcases getElem?_snoc_cases hj with hj | ⟨rfl, rfl⟩
    · rw [hlease, if_neg (hne hj hb)]
      exact hO.fits hj hb
    · exact ⟨_, by rw [hlease, if_pos rfl, hl, Option.map_some], rfl, rfl⟩

end

/-! ### The step lemma and the run lemma -/

namespace Silent

variable {p p' : Phase}

theorem busy_of_busy {late : Bool} (hp : Silent p p') (hb : p'.busy late) : p.busy late := by
  cases hp with
  | start => rfl
  | spawn => rfl
  | exit h => rcases h with rfl | rfl <;> rfl
  | done => cases hb

/-- Between its writes an execution leaves its row as it should be. -/
theorem fits {late : Bool} {workerID : String} {l : Lease} (hp : Silent p p')
    (hb : p'.busy late) (h : p.Fits workerID l) : p'.Fits workerID l := by
  cases hp with
  | start => exact h
  | spawn => exact h
  | exit hor => rcases hor with rfl | rfl <;> exact h
  | done => cases hb

end Silent

section

variable {late : Bool} {s s' : Cluster}

/-- An execution at work after a crash is one the crash spared. -/
theorem busy_of_crash {d : ℕ} {i : ℕ} {h' : Holding}
    (hexecs : s'.holdings =
      s.holdings.map fun h => if h.daemon = d then { h with phase := .crashed } else h)
    (hi : s'.holdings[i]? = some h') (hb : h'.phase.busy late) : s.holdings[i]? = some h' := by
  rw [hexecs, List.getElem?_map] at hi
  obtain ⟨h0, hi0, rfl⟩ := Option.map_eq_some_iff.mp hi
  split at hb
  · cases hb
  · next hd => rw [hi0, if_neg hd]

/-- **The step lemma.** -/
theorem owned_of_effect {ev : Event} (hO : Owned late s) (h : Effect s s' ev)
    (hrec : OrderlyRecovery late ⟨s, ev, s'⟩) : Owned late s' := by
  cases h with
  | quiet hrows hexecs hclaimed => exact hO.frame hexecs fun _ _ _ _ => hrows _
  | enqueue id hnew hget hexecs =>
    -- whoever is at work has a row already
    refine hO.frame hexecs fun i h hi hb => ?_
    obtain ⟨l, hl, -⟩ := hO.fits hi hb
    rw [lease_of_enqueue hnew hget hl, hl]
  | claim workerID id row hrow hpending hqueue hexecs hclaimed =>
    exact hO.claim hrow hpending hqueue hexecs
  | progress i h p hi hp hqueue hexecs hclaimed =>
    refine hO.move false .pending hi (fun id => ?_) hexecs
      (fun hok => absurd hok Bool.false_ne_true) hp.busy_of_busy fun hb l hf => hp.fits hb hf
    simpa [leaseAfter] using lease_of_queue_eq hqueue id
  | @markRunning i ok now h hi hp hqueue hexecs =>
    refine hO.move ok .running hi (lease_of_markRunning hqueue) hexecs (fun _ => by rw [hp]; rfl)
      (fun _ => by rw [hp]; rfl) fun _ l hf => ?_
    rw [hp] at hf
    cases ok with
    | false => exact ⟨by rw [if_neg Bool.false_ne_true, hf.1]; rfl, hf.2⟩
    | true => exact ⟨rfl, hf.2⟩
  | @write i ok now h o hi hp hqueue hexecs =>
    refine hO.move ok o.status hi (lease_of_write hqueue) hexecs (fun _ => by rw [hp]; rfl)
      (fun _ => by rw [hp]; rfl) fun _ l hf => ?_
    rw [hp] at hf
    cases ok with
    | false => exact hf
    | true => rfl
  | recover hqueue hexecs =>
    refine hO.frame hexecs fun i h hi hb => ?_
    rw [lease_of_recover hqueue, lease]
    cases hget : s.queue.get h.taskID with
    | none => rfl
    | some row =>
      -- an orderly recovery passes this row over
      rw [Option.map_some, Option.map_some, if_neg]
      intro horph
      have := hrec i h hi (hO.last hi hb) (by simp [resets, hget, horph])
      rw [hb] at this
      cases this
  | crash hqueue hexecs =>
    refine ⟨fun {j h'} hj hb => ?_, fun {j h'} hj hb => ?_⟩
    · exact (hO.last (busy_of_crash hexecs hj hb) hb).congr (claims_of_crash hexecs)
    · rw [lease_of_queue_eq hqueue]
      exact hO.fits (busy_of_crash hexecs hj hb) hb

/-- **Who holds a claim and is at work after a step** held it and was at work
before it, or has just claimed the task. -/
theorem holder_of_effect {ev : Event} (h : Effect s s' ev) {i : ℕ} {h' : Holding}
    (hi : s'.holdings[i]? = some h') (hb : h'.phase.busy late) :
    (∃ p : Phase, s.holdings[i]? = some { h' with phase := p } ∧ p.busy late) ∨
      (i = s.holdings.length ∧ s.claimed ev = some h'.taskID ∧
        ∃ agentIDs locked scan now, ev = .claim h'.daemon agentIDs locked scan now) := by
  -- an execution that has moved was at work before, if it is now
  have ofSet : ∀ {j : ℕ} {h0 : Holding} {p : Phase}, s.holdings[j]? = some h0 →
      s'.holdings = s.holdings.set j { h0 with phase := p } →
      (p.busy late → h0.phase.busy late) →
      ∃ p : Phase, s.holdings[i]? = some { h' with phase := p } ∧ p.busy late := by
    intro j h0 p hj hexecs hback
    rw [hexecs] at hi
    rcases getElem?_set_cases hi with ⟨rfl, rfl⟩ | ⟨-, hi⟩
    · exact ⟨h0.phase, hj, hback hb⟩
    · exact ⟨h'.phase, hi, hb⟩
  cases h with
  | quiet hrows hexecs hclaimed => exact .inl ⟨h'.phase, hexecs ▸ hi, hb⟩
  | enqueue id hnew hget hexecs => exact .inl ⟨h'.phase, hexecs ▸ hi, hb⟩
  | claim workerID id row hrow hpending hqueue hexecs hclaimed =>
    rw [hexecs] at hi
    rcases getElem?_snoc_cases hi with hi | ⟨rfl, rfl⟩
    · exact .inl ⟨h'.phase, hi, hb⟩
    · exact .inr ⟨rfl, hclaimed, _, _, _, _, rfl⟩
  | progress j h0 p hj hp hqueue hexecs hclaimed => exact .inl (ofSet hj hexecs hp.busy_of_busy)
  | markRunning h0 hj hp hqueue hexecs =>
    exact .inl (ofSet hj hexecs fun _ => by rw [hp]; rfl)
  | write h0 o hj hp hqueue hexecs => exact .inl (ofSet hj hexecs fun _ => by rw [hp]; rfl)
  | recover hqueue hexecs => exact .inl ⟨h'.phase, hexecs ▸ hi, hb⟩
  | crash hqueue hexecs =>
    exact .inl ⟨h'.phase, busy_of_crash hexecs hi hb, hb⟩

/-- **Who is at work after a step** was at work before it, on the same task, or has
just claimed its task. -/
theorem busy_of_effect {ev : Event} (h : Effect s s' ev) {i : ℕ} {h' : Holding}
    (hi : s'.holdings[i]? = some h') (hb : h'.phase.busy late) :
    (∃ h0, s.holdings[i]? = some h0 ∧ h0.taskID = h'.taskID ∧ h0.phase.busy late) ∨
      (i = s.holdings.length ∧ s.claimed ev = some h'.taskID) := by
  rcases holder_of_effect h hi hb with ⟨p, hi0, hp⟩ | ⟨hlen, hclaimed, -⟩
  · exact .inl ⟨_, hi0, rfl, hp⟩
  · exact .inr ⟨hlen, hclaimed⟩

theorem owned_freshCluster : Owned late freshCluster where
  last hi := by cases hi
  fits hi := by cases hi

/-- **The run lemma**: with orderly recoveries the invariant holds in every state
of a run. -/
theorem owned_of_run {tr : List (Lts.Move Cluster Event)} (hrun : cluster.Run tr s)
    (hrec : ∀ m ∈ tr, OrderlyRecovery late m) : Owned late s :=
  Lts.Run.invariant_of (I := fun _ c => Owned late c) (C := OrderlyRecovery late)
    (fun c hc => by rw [hc]; exact owned_freshCluster)
    (fun _ _ _ _ _ hO hstep hC => owned_of_effect hO (effect_of_step hstep) hC) hrun hrec

end

/-! ### The status machine -/

/-- The steps of a row's status, by the label that takes them. -/
inductive StatusStep : Event → Status → Status → Prop
  | stay {ev : Event} {st : Status} : StatusStep ev st st
  | claim {d : ℕ} {agentIDs locked : List ℤ} {scan : ℤ → ℕ} {now : Time} :
      StatusStep (.claim d agentIDs locked scan now) .pending .claimed
  | start {i : ℕ} {now : Time} : StatusStep (.markRunning i true now) .claimed .running
  | finish {i : ℕ} {now : Time} {st st' : Status} (hheld : st.held) (hterm : st'.terminal) :
      StatusStep (.write i true now) st st'
  | recover {timeout now : Time} {st : Status} (hheld : st.held) :
      StatusStep (.recover timeout now) st .pending

theorem Status.terminal_of_held {st : Status} (h : st.held) : st.terminal = false := by
  cases st <;> first | rfl | cases h

/-- **A terminal status stays.** -/
theorem StatusStep.eq_of_terminal {ev : Event} {st st' : Status} (h : StatusStep ev st st')
    (hterm : st.terminal) : st' = st := by
  cases h with
  | stay => rfl
  | claim => cases hterm
  | start => cases hterm
  | finish hheld => rw [Status.terminal_of_held hheld] at hterm; cases hterm
  | recover hheld => rw [Status.terminal_of_held hheld] at hterm; cases hterm

theorem Outcome.terminal_status (o : Outcome) : o.status.terminal := by
  cases o <;> rfl

theorem held_of_orphaned {timeout now : Time} {row : Task}
    (h : Queue.orphaned timeout now row) : row.status.held :=
  (Bool.and_eq_true_iff.mp h).1

section

variable {s s' : Cluster} {ev : Event}

/-- A write of an execution with writes ahead of it finds its row where the
execution left it. -/
theorem Owned.statusStep (hO : Owned false s) {ok : Bool} {st : Status} {i : ℕ} {h : Holding}
    (hi : s.holdings[i]? = some h) (hb : h.phase.writing)
    (hlease : ∀ id, s'.lease id = leaseAfter s ok h.taskID st id) {id : ℤ} {l : Lease}
    (hl : s.lease id = some l)
    (hstep : ok = true → h.phase.Fits h.workerID l → StatusStep ev l.status st) :
    ∃ l', s'.lease id = some l' ∧ StatusStep ev l.status l'.status := by
  have hafter := hlease id
  rw [leaseAfter, hl] at hafter
  split at hafter
  · next heq =>
    obtain ⟨hok, rfl⟩ := heq
    obtain ⟨l', hl', hf⟩ := hO.fits hi hb
    rw [hl] at hl'
    cases hl'
    exact ⟨_, hafter, hstep hok hf⟩
  · -- the write failed, or it is to another row
    exact ⟨l, hafter, .stay⟩

/-- **What a step does to the status of a row.** -/
theorem statusStep_of_effect (hO : Owned false s) (h : Effect s s' ev) {id : ℤ} {l : Lease}
    (hl : s.lease id = some l) :
    ∃ l', s'.lease id = some l' ∧ StatusStep ev l.status l'.status := by
  cases h with
  | quiet hrows hexecs hclaimed => exact ⟨l, (hrows id).trans hl, .stay⟩
  | enqueue id' hnew hget hexecs =>
    exact ⟨l, lease_of_enqueue hnew hget hl, .stay⟩
  -- of a claim only the row that is claimed changes
  | @claim d agentIDs locked scan now workerID id' row hrow hpending hqueue hexecs hclaimed =>
    have hlease := lease_of_claim hqueue id
    rw [hl] at hlease
    split at hlease
    · next heq =>
      rw [heq, lease, hrow] at hl
      cases hl
      refine ⟨_, hlease, ?_⟩
      change StatusStep _ row.status .claimed
      rw [hpending]
      exact .claim
    · exact ⟨l, hlease, .stay⟩
  | progress i h p hi hp hqueue hexecs hclaimed =>
    exact ⟨l, (lease_of_queue_eq hqueue id).trans hl, .stay⟩
  | @markRunning i ok now h hi hp hqueue hexecs =>
    refine hO.statusStep hi (by rw [hp]; rfl) (lease_of_markRunning hqueue) hl fun hok hf => ?_
    subst hok
    rw [hp] at hf
    rw [hf.1]
    exact .start
  | @write i ok now h o hi hp hqueue hexecs =>
    refine hO.statusStep hi (by rw [hp]; rfl) (lease_of_write hqueue) hl fun hok hf => ?_
    subst hok
    rw [hp] at hf
    exact .finish hf.1 o.terminal_status
  | recover hqueue hexecs =>
    have hlease := lease_of_recover hqueue id
    rw [lease] at hl
    obtain ⟨row, hrow, rfl⟩ := Option.map_eq_some_iff.mp hl
    rw [hrow, Option.map_some] at hlease
    refine ⟨_, hlease, ?_⟩
    split
    · next horph => exact .recover (held_of_orphaned horph)
    · exact .stay
  | crash hqueue hexecs => exact ⟨l, (lease_of_queue_eq hqueue id).trans hl, .stay⟩

/-- The `attempts` of a task, none of them before its row exists. -/
def Cluster.attempts (s : Cluster) (id : ℤ) : ℕ := (s.lease id).elim 0 Lease.attempts

/-- **`attempts` counts the claims that return the task.** -/
theorem attempts_of_effect (h : Effect s s' ev) (id : ℤ) :
    s'.attempts id = s.attempts id + if s.claimed ev = some id then 1 else 0 := by
  have same : s'.lease id = s.lease id → s.claimed ev = none →
      s'.attempts id = s.attempts id + if s.claimed ev = some id then 1 else 0 := by
    intro hl hc
    rw [attempts, hl, hc, if_neg nofun, attempts, Nat.add_zero]
  -- a write changes the status of a row and not its attempts
  have ofWrite : ∀ {ok : Bool} {i : ℤ} {st : Status}, s'.lease id = leaseAfter s ok i st id →
      s.claimed ev = none →
      s'.attempts id = s.attempts id + if s.claimed ev = some id then 1 else 0 := by
    intro ok i st hl hc
    rw [attempts, hl, hc, if_neg nofun, attempts, Nat.add_zero, leaseAfter]
    split
    · cases s.lease id <;> rfl
    · rfl
  cases h with
  | quiet hrows hexecs hclaimed => exact same (hrows id) hclaimed
  | enqueue id' hnew hget hexecs =>
    rw [attempts, attempts, lease, lease, hget]
    split
    · next heq => rw [heq, hnew]; rfl
    · rfl
  | claim workerID id' row hrow hpending hqueue hexecs hclaimed =>
    rw [attempts, lease_of_claim hqueue, hclaimed, attempts]
    by_cases heq : id = id'
    · rw [if_pos heq, if_pos (by rw [heq]), heq, lease, hrow]
      rfl
    · rw [if_neg heq, if_neg fun he => heq (Option.some.inj he).symm, Nat.add_zero]
  | progress i h p hi hp hqueue hexecs hclaimed =>
    exact same (lease_of_queue_eq hqueue id) hclaimed
  | markRunning h hi hp hqueue hexecs => exact ofWrite (lease_of_markRunning hqueue id) rfl
  | write h o hi hp hqueue hexecs => exact ofWrite (lease_of_write hqueue id) rfl
  | recover hqueue hexecs =>
    rw [attempts, lease_of_recover hqueue, attempts, lease]
    cases s.queue.get id with
    | none => rfl
    | some row =>
      rw [Option.map_some, Option.map_some]
      change (if _ then _ else _ : Lease).attempts = _
      split <;> rfl
  | crash hqueue hexecs => exact same (lease_of_queue_eq hqueue id) rfl

end

end Server
end Shrimp
