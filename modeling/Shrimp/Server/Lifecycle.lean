import Shrimp.Server.Ownership

/-!
# The life of a task under crash-stop

With recoveries that only reset rows whose last claim has returned or crashed,
and with database writes that may fail, a task is worked on by one execution at
a time, its status follows the status machine to a terminal status and stays
there, and its `attempts` counts the claims that returned it.

## Main results

* `lifecycle_of_run` — the life of every task over every such run.
-/

namespace Shrimp
namespace Server

open Cluster

/-- The move is a `Claim` that returns task `id`. -/
def claimsTask (id : ℤ) (m : Lts.Move Cluster Event) : Bool := m.pre.claimed m.label = some id

/-- What the moves of a run and the state it reaches say about every task. -/
structure Lifecycle (tr : List (Lts.Move Cluster Event)) (s : Cluster) : Prop where
  /-- At most one live execution exists for a task. -/
  one_live : ∀ (i j : ℕ) (e e' : Exec), s.execs[i]? = some e → s.execs[j]? = some e' →
    e.phase.live → e'.phase.live → e'.taskID = e.taskID → i = j
  /-- The row of a live execution is claimed or running and carries its worker id,
  or it has the terminal status this execution wrote. -/
  row_of_live : ∀ (i : ℕ) (e : Exec), s.execs[i]? = some e → e.phase.live →
    ∃ row, s.queue.get e.taskID = some row ∧
      ((row.status.held ∧ row.workerID = some e.workerID) ∨
        ∃ o, e.phase = .written o true ∧ row.status = o.status)
  /-- A row is inserted pending. -/
  inserted : ∀ m ∈ tr, ∀ id row, m.pre.queue.get id = none → m.post.queue.get id = some row →
    row.status = .pending
  /-- A row is never deleted, and its status takes the steps of the machine. -/
  steps : ∀ m ∈ tr, ∀ id row, m.pre.queue.get id = some row →
    ∃ row', m.post.queue.get id = some row' ∧ StatusStep m.label row.status row'.status
  /-- A terminal status is the status of the row ever after. -/
  terminal : ∀ m ∈ tr, ∀ id row, m.pre.queue.get id = some row → row.status.terminal →
    ∃ row', s.queue.get id = some row' ∧ row'.status = row.status
  /-- `attempts` is the number of claims that returned the task. -/
  attempts : ∀ id row, s.queue.get id = some row → row.attempts = tr.countP (claimsTask id)

section

variable {tr : List (Lts.Move Cluster Event)} {s : Cluster}

theorem status_of_inserted {s' : Cluster} {ev : Event} (h : Effect s s' ev) {id : ℤ} {row : Task}
    (hnone : s.queue.get id = none) (hsome : s'.queue.get id = some row) :
    row.status = .pending := by
  have hno : ∀ {l : Lease}, s.lease id ≠ some l := by
    intro l hl
    rw [lease, hnone] at hl
    cases hl
  have hl : s'.lease id = some row.lease := by rw [lease, hsome, Option.map_some]
  cases h with
  | quiet hrows hexecs hclaimed => exact absurd ((hrows id).symm.trans hl) hno
  | enqueue id' hnew hget hexecs =>
    rw [hget] at hsome
    split at hsome
    · cases hsome
      rfl
    · rw [hnone] at hsome
      cases hsome
  | claim workerID id' row' hrow hpending hqueue hexecs hclaimed =>
    rw [hqueue, Queue.get_set, hnone] at hsome
    split at hsome <;> cases hsome
  | progress i h p hi hp hqueue hexecs hclaimed =>
    exact absurd ((lease_of_queue_eq hqueue id).symm.trans hl) hno
  | markRunning h hi hp hqueue hexecs =>
    rw [lease_of_markRunning hqueue, leaseAfter, lease, hnone] at hl
    split at hl <;> cases hl
  | write h o hi hp hqueue hexecs =>
    rw [lease_of_write hqueue, leaseAfter, lease, hnone] at hl
    split at hl <;> cases hl
  | recover hqueue hexecs =>
    rw [lease_of_recover hqueue, hnone] at hl
    cases hl
  | crash hqueue hexecs => exact absurd ((lease_of_queue_eq hqueue id).symm.trans hl) hno

/-- **The run lemma for `attempts`.** -/
theorem attempts_of_run (hrun : cluster.Run tr s) (id : ℤ) :
    s.attempts id = tr.countP (claimsTask id) := by
  refine Lts.Run.invariant (I := fun tr c => c.attempts id = tr.countP (claimsTask id)) ?_ ?_ hrun
  · rintro c rfl
    rfl
  · intro tr c e c' _ ih hstep
    rw [attempts_of_effect (effect_of_step hstep), ih, List.countP_append, List.countP_singleton]
    simp only [claimsTask, decide_eq_true_eq]

/-- What one move does to the status of a row, in a run with orderly recoveries. -/
theorem statusStep_of_step {s' : Cluster} {ev : Event} (hO : Owned false s)
    (hstep : s.step ev = some s') {id : ℤ} {row : Task} (hrow : s.queue.get id = some row) :
    ∃ row', s'.queue.get id = some row' ∧ StatusStep ev row.status row'.status := by
  obtain ⟨l', hl', hst⟩ := statusStep_of_effect hO (effect_of_step hstep)
    (lease_eq_some_iff.mpr ⟨row, hrow, rfl⟩)
  obtain ⟨row', hrow', rfl⟩ := lease_eq_some_iff.mp hl'
  exact ⟨row', hrow', hst⟩

/-- An orderly recovery resets no row whose execution has writes ahead of it. -/
theorem OrderlyRecovery.writing {m : Lts.Move Cluster Event} (h : OrderlyRecovery true m) :
    OrderlyRecovery false m := by
  intro i hd hi hlast hres
  have hb := h i hd hi hlast hres
  by_contra hne
  rw [Phase.busy_of_writing (Bool.eq_true_of_not_eq_false hne)] at hb
  cases hb

/-- What a live execution's row is, read off the invariant. -/
theorem row_of_fits {p : Phase} {workerID : String} {row : Task} (h : p.Fits workerID row.lease) :
    (row.status.held ∧ row.workerID = some workerID) ∨
      ∃ o, p = .written o true ∧ row.status = o.status := by
  rcases p with _ | _ | _ | _ | _ | ⟨o, _ | _⟩ | _ | _
  case launched | started => exact .inl ⟨by rw [show row.status = .claimed from h.1]; rfl, h.2⟩
  case marked | running | finishing | written.false => exact .inl h
  case written.true => exact .inr ⟨o, rfl, h⟩
  case ended | crashed => exact absurd h id

/-- A terminal status outlives the rest of an orderly run. -/
theorem terminal_of_run (hrun : cluster.Run tr s) (hrec : ∀ m ∈ tr, OrderlyRecovery false m)
    {m : Lts.Move Cluster Event} (hm : m ∈ tr) {id : ℤ} {row : Task}
    (hrow : m.pre.queue.get id = some row) (hterm : row.status.terminal) :
    ∃ row', s.queue.get id = some row' ∧ row'.status = row.status := by
  -- the induction carries the ownership invariant along with the status
  have hstep : ∀ c e c', (Owned false c ∧ ∃ r, c.queue.get id = some r ∧ r.status = row.status) →
      cluster.step c e c' → OrderlyRecovery false ⟨c, e, c'⟩ →
      Owned false c' ∧ ∃ r, c'.queue.get id = some r ∧ r.status = row.status := by
    rintro c e c' ⟨hO, r, hr, hst⟩ hs hC
    obtain ⟨r', hr', hstep⟩ := statusStep_of_step hO hs hr
    exact ⟨owned_of_effect hO (effect_of_step hs) hC, r', hr',
      (hstep.eq_of_terminal (hst ▸ hterm)).trans hst⟩
  obtain ⟨tr₁, tr₂, rfl⟩ := List.append_of_mem hm
  obtain ⟨hrun₁, hs⟩ := hrun.split
  have hO := owned_of_run hrun₁ fun m' hm' => hrec m' (List.mem_append_left _ hm')
  have hpost := hstep _ _ _ ⟨hO, row, hrow, rfl⟩ hs (hrec m hm)
  exact (hrun.invariant_after hstep hpost fun m' hm' =>
    hrec m' (List.mem_append_right _ (List.mem_cons_of_mem _ hm'))).1.2

/-- **The life of a task under crash-stop**: in every run whose recoveries reset
only rows whose last claim has returned or crashed. -/
theorem lifecycle_of_run (hrun : cluster.Run tr s) (hrec : ∀ m ∈ tr, OrderlyRecovery true m) :
    Lifecycle tr s := by
  have hO : Owned true s := owned_of_run hrun hrec
  have hmove : ∀ m ∈ tr, Owned false m.pre ∧ m.pre.step m.label = some m.post := by
    intro m hm
    obtain ⟨tr₁, tr₂, rfl⟩ := List.append_of_mem hm
    obtain ⟨hrun₁, hs⟩ := hrun.split
    exact ⟨owned_of_run hrun₁ fun m' hm' => (hrec m' (List.mem_append_left _ hm')).writing, hs⟩
  constructor
  case one_live =>
    intro i j e e' hi hj hl hl' heq
    exact hO.eq_of_taskID_eq (getElem?_holdings hi) (getElem?_holdings hj) hl hl' heq
  case row_of_live =>
    intro i e hi hl
    obtain ⟨l, hlease, hf⟩ := hO.fits (getElem?_holdings hi) hl
    obtain ⟨row, hrow, rfl⟩ := lease_eq_some_iff.mp hlease
    exact ⟨row, hrow, row_of_fits hf⟩
  case inserted =>
    intro m hm id row hnone hsome
    exact status_of_inserted (effect_of_step (hmove m hm).2) hnone hsome
  case steps =>
    intro m hm id row hrow
    obtain ⟨hO', hs⟩ := hmove m hm
    exact statusStep_of_step hO' hs hrow
  case terminal =>
    intro m hm id row hrow hterm
    exact terminal_of_run hrun (fun m' hm' => (hrec m' hm').writing) hm hrow hterm
  case attempts =>
    intro id row hrow
    rw [← attempts_of_run hrun id, Cluster.attempts, lease, hrow]
    rfl

/-- A daemon that crashes with a task running, and one that recovers and finishes it. -/
def crashEvents : List Event := [
  .boot "w1", .enqueue 0 7 "fix the build" 2 0, .claim 0 [7] [] (fun _ => 0) 1, .start 0,
  .markRunning 0 true 2, .spawn 0, .crash 0,
  .boot "w2", .recover 30 60, .claim 1 [7] [] (fun _ => 0) 61, .start 1, .markRunning 1 false 62,
  .spawn 1, .heartbeat 1 true 67, .exit 1 "done" none, .write 1 true 70]

theorem lifecycle_of_run_sample : ∃ tr s, cluster.Run tr s ∧
    (s.queue.get 1).map (fun row => (row.status, row.attempts)) = some (.completed, 2) ∧
    Lifecycle tr s := by
  obtain ⟨tr, s, hrun, hf⟩ := exists_clusterRun crashEvents
    (fun r => (decide (∀ m ∈ r.1, OrderlyRecovery true m),
      (r.2.queue.get 1).map fun row => (row.status, row.attempts)))
    (show _ = some (true, some (Status.completed, 2)) by decide +kernel)
  rw [Prod.mk.injEq, decide_eq_true_eq] at hf
  exact ⟨tr, s, hrun, hf.2, lifecycle_of_run hrun hf.1⟩

end

end Server
end Shrimp
