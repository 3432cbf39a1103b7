import Shrimp.Server.Ownership

/-!
# A cancel accepted before the claim

`RequestCancel` accepts a pending task: it sets `cancel_requested` and leaves the
row pending.  `Claim` does not look at the flag, so what keeps the task from
running is the place of its row in the queue and nothing else.

## Main definitions

* `CancelFinal` — from here on the task is not claimed, not started and not
  written running, completed or failed.
* `PassesOver` — a `Claim` has another row to take first.

## Main results

* `cancelFinal_iff` — **an accepted cancel of a pending task is final exactly as
  long as every `Claim` passes its row over.**
-/

namespace Shrimp
namespace Server

open Cluster

/-- The task whose child process the step starts. -/
def Cluster.spawned (s : Cluster) : Event → Option ℤ
  | .spawn i => (s.execs[i]?).map fun e => e.taskID
  | _ => none

/-- Is the step a `RequestCancel` that succeeds on a pending row? -/
def Cluster.cancelsPending (s : Cluster) (ev : Event) (id : ℤ) : Bool :=
  match ev with
  | .requestCancel i => i = id && (s.queue.get id).any fun row => row.status = .pending
  | _ => false

/-- Does the move claim the task, start a child process for it, or leave its row
running, completed or failed? -/
def revives (id : ℤ) (m : Lts.Move Cluster Event) : Bool :=
  m.pre.claimed m.label = some id ∨ m.pre.spawned m.label = some id ∨
    (m.post.queue.get id).any fun row =>
      row.status = .running ∨ row.status = .completed ∨ row.status = .failed

/-- **A final cancel.** -/
def CancelFinal (id : ℤ) (tr : List (Lts.Move Cluster Event)) : Prop :=
  ∀ m ∈ tr, revives id m = false

/-- If the move is a `Claim` that could take the task, another claimable row
comes before it in the order of the claim. -/
def PassesOver (id : ℤ) (m : Lts.Move Cluster Event) : Prop :=
  ∀ d agentIDs locked scan now, m.label = .claim d agentIDs locked scan now →
    ∀ row, m.pre.queue.get id = some row → Queue.claimable agentIDs locked id row →
      ∃ id' row', m.pre.queue.get id' = some row' ∧ Queue.claimable agentIDs locked id' row' ∧
        ¬ Queue.claimOrder scan (id, row) (id', row')

/-- The row of the task is pending, and nobody who has claimed it has a write
ahead of him. -/
structure Waiting (id : ℤ) (s : Cluster) : Prop where
  pending : ∃ row, s.queue.get id = some row ∧ row.status = .pending
  idle : ∀ h ∈ s.holdings, h.taskID = id → h.phase.writing = false

section

variable {s s' : Cluster} {ev : Event} {id : ℤ}

/-- **A claim takes the task exactly when it does not pass it over.** -/
theorem claimed_iff_not_passesOver (hstep : s.step ev = some s') :
    s.claimed ev = some id ↔ ¬ PassesOver id ⟨s, ev, s'⟩ := by
  constructor
  · intro hcl hpass
    cases ev with
    | claim d agentIDs locked scan now =>
      obtain ⟨dm, hdm, hcl⟩ := Option.bind_eq_some_iff.mp hcl
      obtain ⟨⟨q, i, task⟩, hsome, rfl⟩ := Option.map_eq_some_iff.mp hcl
      obtain ⟨row, hnext, -, -⟩ := Queue.claim_eq_some_iff.mp hsome
      obtain ⟨hget, hclaimable, hfirst⟩ := Queue.nextTask_eq_some_iff.mp hnext
      obtain ⟨id', row', hget', hclaimable', hbefore⟩ := hpass _ _ _ _ _ rfl row hget hclaimable
      exact hbefore (hfirst id' row' hget' hclaimable')
    | _ => cases hcl
  · intro hpass
    simp only [PassesOver, not_forall, not_exists, not_and, not_not] at hpass
    obtain ⟨d, agentIDs, locked, scan, now, rfl, row, hget, hclaimable, hfirst⟩ := hpass
    have hnext := Queue.nextTask_eq_some_iff.mpr ⟨hget, hclaimable, hfirst⟩
    simp only [step] at hstep
    split at hstep
    · cases hstep
    next dm hdm =>
    have hsome : s.queue.claim dm.workerID agentIDs locked scan now = some (_, id, _) :=
      Queue.claim_eq_some_iff.mpr ⟨row, hnext, rfl, rfl⟩
    simp only [claimed, hdm, Option.bind_some, hsome, Option.map_some]

/-- **The step lemma**: a task that is not claimed goes on waiting. -/
theorem waiting_of_effect (hw : Waiting id s) (h : Effect s s' ev)
    (hcl : s.claimed ev ≠ some id) : Waiting id s' := by
  obtain ⟨⟨row, hrow, hpending⟩, hidle⟩ := hw
  have hl : s.lease id = some row.lease := by rw [lease, hrow, Option.map_some]
  have hother : ∀ {i : ℕ} {h0 : Holding}, s.holdings[i]? = some h0 → h0.phase.writing →
      id ≠ h0.taskID := by
    rintro i h0 hi hb rfl
    rw [hidle h0 (List.mem_of_getElem? hi) rfl] at hb
    cases hb
  have hlease : ∃ l, s'.lease id = some l ∧ l.status = .pending := by
    cases h with
    -- the flag is no part of the lease, so a second cancel is quiet too
    | quiet hrows hexecs hclaimed => exact ⟨_, (hrows id).trans hl, hpending⟩
    | enqueue id' hnew hget hexecs =>
      exact ⟨_, lease_of_enqueue hnew hget hl, hpending⟩
    | claim workerID id' row' hrow' hpending' hqueue hexecs hclaimed =>
      have hne : id ≠ id' := by
        rintro rfl
        exact hcl hclaimed
      exact ⟨_, by rw [lease_of_claim hqueue, if_neg hne, hl], hpending⟩
    | progress i h0 p hi hp hqueue hexecs hclaimed =>
      exact ⟨_, (lease_of_queue_eq hqueue id).trans hl, hpending⟩
    | markRunning h0 hi hp hqueue hexecs =>
      have hne := hother hi (by rw [hp]; rfl)
      exact ⟨_, by rw [lease_of_markRunning hqueue, leaseAfter, if_neg (hne ·.2), hl], hpending⟩
    | write h0 o hi hp hqueue hexecs =>
      have hne := hother hi (by rw [hp]; rfl)
      exact ⟨_, by rw [lease_of_write hqueue, leaseAfter, if_neg (hne ·.2), hl], hpending⟩
    | recover hqueue hexecs =>
      -- a reset row is pending; any other is as it was
      refine ⟨_, by rw [lease_of_recover hqueue, hrow, Option.map_some], ?_⟩
      split
      · rfl
      · exact hpending
    | crash hqueue hexecs => exact ⟨_, (lease_of_queue_eq hqueue id).trans hl, hpending⟩
  obtain ⟨l, hl', hst⟩ := hlease
  obtain ⟨row', hrow', rfl⟩ := lease_eq_some_iff.mp hl'
  refine ⟨⟨row', hrow', hst⟩, fun h' hmem heq => ?_⟩
  obtain ⟨i, hi⟩ := List.mem_iff_getElem?.mp hmem
  by_contra hne
  rcases busy_of_effect h hi (Bool.eq_true_of_not_eq_false hne) with ⟨h0, hi0, htask, hb⟩ | ⟨-, hc⟩
  · exact hother hi0 hb (heq.symm.trans htask.symm)
  · exact hcl (heq ▸ hc)

/-- No move of a waiting task revives it, but a claim of it. -/
theorem revives_of_waiting (hw : Waiting id s) (hw' : Waiting id s') (hstep : s.step ev = some s')
    (hcl : s.claimed ev ≠ some id) : revives id ⟨s, ev, s'⟩ = false := by
  have hspawn : s.spawned ev ≠ some id := by
    intro hs
    cases ev with
    | spawn i =>
      obtain ⟨e, hi, h⟩ := onExec_eq_some_iff.mp hstep
      obtain ⟨e', hi', htask⟩ := Option.map_eq_some_iff.mp hs
      obtain rfl := Option.some.inj (hi.symm.trans hi')
      split at h
      · next hp =>
        have hmem : e.toHolding ∈ s.holdings := List.mem_map_of_mem (List.mem_of_getElem? hi)
        have hidle := hw.idle _ hmem htask
        rw [hp.1] at hidle
        cases hidle
      · cases h
    | _ => cases hs
  obtain ⟨row, hrow, hst⟩ := hw'.pending
  simp [revives, hcl, hspawn, hrow, hst]

/-- In a run with orderly recoveries nobody has a write to a pending row ahead of him. -/
theorem waiting_of_run {tr : List (Lts.Move Cluster Event)} (hrun : cluster.Run tr s)
    (hrec : ∀ m ∈ tr, OrderlyRecovery false m) {row : Task} (hrow : s.queue.get id = some row)
    (hpending : row.status = .pending) : Waiting id s := by
  refine ⟨⟨row, hrow, hpending⟩, fun h hmem heq => ?_⟩
  obtain ⟨i, hi⟩ := List.mem_iff_getElem?.mp hmem
  have hO : Owned false s := owned_of_run hrun hrec
  by_contra hne
  obtain ⟨l, hl, hf⟩ := hO.fits hi (Bool.eq_true_of_not_eq_false hne)
  rw [heq, lease, hrow] at hl
  cases hl
  exact hf.ne_pending hpending

/-- **When a cancel accepted before the claim is final.** -/
theorem cancelFinal_iff {tr₁ tr₂ : List (Lts.Move Cluster Event)} {m : Lts.Move Cluster Event}
    (hrun : cluster.Run (tr₁ ++ m :: tr₂) s) (hcancel : m.pre.cancelsPending m.label id)
    (hidle : ∀ h ∈ m.pre.holdings, h.taskID = id → h.phase.writing = false) :
    CancelFinal id tr₂ ↔ ∀ m' ∈ tr₂, PassesOver id m' := by
  have hsteps : ∀ m' ∈ tr₂, m'.pre.step m'.label = some m'.post := by
    intro m' hm'
    have hmem : m' ∈ tr₁ ++ m :: tr₂ := List.mem_append_right _ (List.mem_cons_of_mem _ hm')
    obtain ⟨-, -, hstep⟩ := hrun.step_of_mem hmem
    exact hstep
  constructor
  · intro hfinal m' hm'
    by_contra hpass
    have hcl := (claimed_iff_not_passesOver (hsteps m' hm')).mpr hpass
    have hrev := hfinal m' hm'
    rw [revives, decide_eq_true (.inl hcl)] at hrev
    cases hrev
  · intro hpass
    have hnot : ∀ m' ∈ tr₂, m'.pre.claimed m'.label ≠ some id := by
      intro m' hm' hcl
      exact (claimed_iff_not_passesOver (hsteps m' hm')).mp hcl (hpass m' hm')
    -- the cancel itself leaves the task waiting
    have hpost : Waiting id m.post := by
      obtain ⟨-, hstep⟩ := hrun.split
      have hstep : m.pre.step m.label = some m.post := hstep
      unfold cancelsPending at hcancel
      split at hcancel
      · next i heq =>
        obtain ⟨-, hrow⟩ := Bool.and_eq_true_iff.mp hcancel
        obtain ⟨row, hrow, hpending⟩ := (Option.any_eq_true _ _).mp hrow
        refine waiting_of_effect ⟨⟨row, hrow, of_decide_eq_true hpending⟩, hidle⟩
          (effect_of_step hstep) ?_
        rw [heq]
        nofun
      · cases hcancel
    have hstay : ∀ c ev' c', Waiting id c → cluster.step c ev' c' →
        c.claimed ev' ≠ some id → Waiting id c' :=
      fun c ev' c' hw hs hc => waiting_of_effect hw (effect_of_step hs) hc
    intro m' hm'
    obtain ⟨hw, hw'⟩ := (hrun.invariant_after
      (C := fun m' => m'.pre.claimed m'.label ≠ some id) hstay hpost hnot).2 m' hm'
    exact revives_of_waiting hw hw' (hsteps m' hm') (hnot m' hm')

/-- A cancel accepted while a task of higher priority is pending; the next claim takes
that one, and the claim after it finds the canceled row locked. -/
def overtakenEvents : List Event := [
  .boot "w1", .enqueue 0 7 "lint" 3 0, .enqueue 0 7 "fix the build" 1 1, .requestCancel 1,
  .claim 0 [7] [] (fun _ => 0) 2, .claim 0 [7] [1] (fun _ => 0) 3]

theorem cancelFinal_iff_sample : ∃ tr₁ m tr₂ s, cluster.Run (tr₁ ++ m :: tr₂) s ∧
    m.pre.cancelsPending m.label 1 ∧ CancelFinal 1 tr₂ ∧ ∀ m' ∈ tr₂, PassesOver 1 m' := by
  obtain ⟨tr, s, hrun, hf⟩ := exists_clusterRun overtakenEvents
    (fun r => (r.1[3]?).map fun m : Lts.Move Cluster Event =>
      decide (m.pre.cancelsPending m.label 1 ∧
        (∀ h ∈ m.pre.holdings, h.taskID = 1 → h.phase.writing = false) ∧
        ∀ m' ∈ r.1.drop 4, revives 1 m' = false))
    (show _ = some (some true) by decide +kernel)
  obtain ⟨m, hm, hdec⟩ := Option.map_eq_some_iff.mp hf
  obtain ⟨hcancel, hidle, hfinal⟩ := of_decide_eq_true hdec
  obtain ⟨hlt, rfl⟩ := List.getElem?_eq_some_iff.mp hm
  have hrun' : cluster.Run (tr.take 3 ++ tr[3] :: tr.drop 4) s := by
    rwa [← List.drop_eq_getElem_cons hlt, List.take_append_drop]
  exact ⟨_, _, _, s, hrun', hcancel, hfinal, (cancelFinal_iff hrun' hcancel hidle).mp hfinal⟩

/-- A cancel accepted while the task is the only pending one; it is claimed and run to
completion before the first heartbeat. -/
def lostCancelEvents : List Event := [
  .boot "w1", .enqueue 0 7 "fix the build" 2 0, .requestCancel 1, .claim 0 [7] [] (fun _ => 0) 1,
  .start 0, .markRunning 0 true 2, .spawn 0, .exit 0 "done" none, .write 0 true 3]

theorem cancelFinal_counterexample :
    ¬ ∀ tr₁ m tr₂ s id, cluster.Run (tr₁ ++ m :: tr₂) s → m.pre.cancelsPending m.label id →
      CancelFinal id tr₂ := by
  intro hall
  obtain ⟨tr, s, hrun, hf⟩ := exists_clusterRun lostCancelEvents
    (fun r => (r.1[2]?.map fun m : Lts.Move Cluster Event => m.pre.cancelsPending m.label 1,
      r.1[8]?.map (revives 1)))
    (show _ = some (some true, some true) by decide +kernel)
  obtain ⟨hfst, hsnd⟩ := Prod.mk.inj hf
  obtain ⟨m, hm, hcancel⟩ := Option.map_eq_some_iff.mp hfst
  obtain ⟨m', hm', hrev⟩ := Option.map_eq_some_iff.mp hsnd
  obtain ⟨tr₁, tr₂, rfl, hlater⟩ := Lts.exists_split_of_lt (by decide) hm hm'
  rw [hall tr₁ m tr₂ s 1 hrun hcancel m' hlater] at hrev
  cases hrev

end

end Server
end Shrimp
