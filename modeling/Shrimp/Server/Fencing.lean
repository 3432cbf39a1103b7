import Shrimp.Server.Ownership

/-!
# Fencing of revoked claims

Once `RecoverOrphanedTasks` has reset a row, the execution that had claimed it
should not be able to write to it any more.  `Heartbeat` asks for the worker id
and for a claimed or running row; `MarkRunning`, `Complete`, `Fail` and
`Canceled` ask for neither.  So a revoked claim is fenced exactly as far as
recovery spares the executions that still have writes ahead of them.

## Main definitions

* `Fenced` — no revoked execution changes its row.

## Main results

* `fenced_of_run` — **runs whose recoveries are orderly are fenced.**
* `exists_unfenced` — after any other recovery, the spared execution's next
  write breaks the fence.
-/

namespace Shrimp
namespace Server

open Cluster

/-- The execution that issues a `MarkRunning` or a terminal write. -/
def Event.writer : Event → Option ℕ
  | .markRunning i _ _ | .write i _ _ => some i
  | _ => none

/-- The columns that record a run of a task. -/
structure Record where
  status : Status
  result : Option String
  error : Option String
  startedAt : Option Time
  completedAt : Option Time
  deriving DecidableEq

def Task.record (row : Task) : Record :=
  ⟨row.status, row.result, row.error, row.startedAt, row.completedAt⟩

/-- The record of a task's row, when there is a row. -/
def Cluster.record (s : Cluster) (id : ℤ) : Option Record := (s.queue.get id).map Task.record

/-- **Fencing**: once a recovery has reset the row an execution claimed, no write
of that execution changes the row's record. -/
def Fenced (tr : List (Lts.Move Cluster Event)) : Prop :=
  ∀ tr₁ m tr₂, tr = tr₁ ++ m :: tr₂ → ∀ (i : ℕ) (e : Exec), m.pre.execs[i]? = some e →
    m.pre.resets m.label e.taskID → ∀ m' ∈ tr₂, m'.label.writer = some i →
      m'.post.record e.taskID = m'.pre.record e.taskID

section

variable {tr : List (Lts.Move Cluster Event)} {s s' : Cluster} {ev : Event}

theorem writing_of_writer (hstep : s.step ev = some s') {i : ℕ} (hw : ev.writer = some i) :
    ∃ h, s.holdings[i]? = some h ∧ h.phase.writing := by
  cases ev with
  | markRunning j ok now =>
    cases hw
    obtain ⟨e, hi, h⟩ := onExec_eq_some_iff.mp hstep
    split at h
    · next hp => exact ⟨e.toHolding, getElem?_holdings hi, by rw [hp]; rfl⟩
    · cases h
  | write j ok now =>
    cases hw
    obtain ⟨e, hi, h⟩ := onExec_eq_some_iff.mp hstep
    split at h
    · next o hp => exact ⟨e.toHolding, getElem?_holdings hi, by rw [hp]; rfl⟩
    · cases h
  | _ => cases hw

/-- Execution `i` exists and will not write again. -/
def Silenced (i : ℕ) (s : Cluster) : Prop :=
  i < s.holdings.length ∧ ∀ h, s.holdings[i]? = some h → h.phase.writing = false

theorem length_holdings_of_effect (h : Effect s s' ev) :
    s.holdings.length ≤ s'.holdings.length := by
  cases h with
  | quiet _ hexecs | enqueue _ _ _ hexecs | recover _ hexecs => rw [hexecs]
  | claim _ _ _ _ _ _ hexecs => rw [hexecs, List.length_append]; omega
  | progress _ _ _ _ _ _ hexecs => rw [hexecs, List.length_set]
  | markRunning _ _ _ _ hexecs => rw [hexecs, List.length_set]
  | write _ _ _ _ _ hexecs => rw [hexecs, List.length_set]
  | crash _ hexecs => rw [hexecs, List.length_map]

/-- An execution with no write ahead of it never gets one. -/
theorem silenced_of_effect (h : Effect s s' ev) {i : ℕ} (hs : Silenced i s) : Silenced i s' := by
  refine ⟨lt_of_lt_of_le hs.1 (length_holdings_of_effect h), fun h' hi => ?_⟩
  by_contra hne
  rcases busy_of_effect h hi (Bool.eq_true_of_not_eq_false hne) with ⟨h0, hi0, -, hb⟩ | ⟨hlen, -⟩
  · exact absurd ((hs.2 h0 hi0).symm.trans hb) nofun
  · exact absurd hs.1 (by omega)

/-- **Runs whose recoveries reset only rows nobody will write to are fenced.** -/
theorem fenced_of_run (hrun : cluster.Run tr s) (hrec : ∀ m ∈ tr, OrderlyRecovery false m) :
    Fenced tr := by
  rintro tr₁ m tr₂ rfl i e hi hres m' hm' hw
  obtain ⟨hrun₁, hstep⟩ := hrun.split
  have hO : Owned false m.pre := owned_of_run hrun₁ fun x hx => hrec x (List.mem_append_left _ hx)
  have hhold := getElem?_holdings hi
  -- the recovery found the execution with no write ahead of it
  have hsil : Silenced i m.pre := by
    refine ⟨(List.getElem?_eq_some_iff.mp hhold).1, fun h hh => ?_⟩
    obtain rfl := Option.some.inj (hhold.symm.trans hh)
    by_contra hne
    have hb : e.phase.busy false := Bool.eq_true_of_not_eq_false hne
    have hnb := hrec m (by simp) i _ hhold (hO.last hhold hb) hres
    rw [hb] at hnb
    cases hnb
  have hstay : ∀ c ev' c', Silenced i c → cluster.step c ev' c' → True → Silenced i c' :=
    fun c ev' c' hs hst _ => silenced_of_effect (effect_of_step hst) hs
  have hpost := silenced_of_effect (effect_of_step hstep) hsil
  have hpre := ((hrun.invariant_after hstay hpost fun _ _ => trivial).2 m' hm').1
  obtain ⟨a, b, rfl⟩ := List.append_of_mem hm'
  have hrun' : cluster.Run ((tr₁ ++ m :: a) ++ m' :: b) s := by simpa using hrun
  obtain ⟨h, hh, hwr⟩ := writing_of_writer hrun'.split.2 hw
  rw [hpre.2 h hh] at hwr
  cases hwr

/-- An execution whose terminal write fails, a recovery before it has returned, and a
second execution. -/
def lostWriteEvents : List Event := [
  .boot "w1", .enqueue 0 7 "fix the build" 2 0, .claim 0 [7] [] (fun _ => 0) 1, .start 0,
  .markRunning 0 true 2, .spawn 0, .exit 0 "A" none, .write 0 false 3, .recover 30 60,
  .claim 0 [7] [] (fun _ => 0) 61, .done 0, .start 1, .markRunning 1 true 62, .spawn 1,
  .exit 1 "B" none, .write 1 true 70]

theorem fenced_of_run_sample : ∃ tr s, cluster.Run tr s ∧
    (s.record 1).map Record.result = some (some "B") ∧ Fenced tr := by
  obtain ⟨tr, s, hrun, hf⟩ := exists_clusterRun lostWriteEvents
    (fun r => (decide (∀ m ∈ r.1, OrderlyRecovery false m),
      (r.2.record 1).map Record.result))
    (show _ = some (true, some (some "B")) by decide +kernel)
  rw [Prod.mk.injEq, decide_eq_true_eq] at hf
  exact ⟨tr, s, hrun, hf.2, fenced_of_run hrun hf.1⟩

/-- An execution stalls for longer than the timeout, its row is recovered and run
to completion by a second one, and then the first one completes. -/
def stalledEvents : List Event := [
  .boot "w1", .enqueue 0 7 "fix the build" 2 0, .claim 0 [7] [] (fun _ => 0) 1, .start 0,
  .markRunning 0 true 2, .spawn 0,
  .boot "w2", .recover 30 60, .claim 1 [7] [] (fun _ => 0) 61, .start 1, .markRunning 1 true 62,
  .spawn 1, .exit 1 "B" none, .write 1 true 70, .exit 0 "A" none, .write 0 true 80]

/-- Move `a` resets the row of execution `i`, and move `b` is a write of that
execution that changes the row's record. -/
def unfencedAt (tr : List (Lts.Move Cluster Event)) (a b i : ℕ) : Bool :=
  match tr[a]?, tr[b]? with
  | some m, some m' =>
    (m.pre.execs[i]?).any fun e =>
      m.pre.resets m.label e.taskID ∧ m'.label.writer = some i ∧
        m'.post.record e.taskID ≠ m'.pre.record e.taskID
  | _, _ => false

theorem not_fenced_of_unfencedAt {a b i : ℕ} (hab : a < b) (h : unfencedAt tr a b i) :
    ¬ Fenced tr := by
  intro hfenced
  unfold unfencedAt at h
  split at h
  · next m m' hm hm' =>
    obtain ⟨e, he, hdec⟩ := (Option.any_eq_true _ _).mp h
    obtain ⟨hres, hw, hne⟩ := of_decide_eq_true hdec
    obtain ⟨tr₁, tr₂, hsplit, hlater⟩ := Lts.exists_split_of_lt hab hm hm'
    exact hne (hfenced tr₁ m tr₂ hsplit i e he hres m' hlater hw)
  · cases h

theorem fenced_counterexample : ¬ ∀ tr s, cluster.Run tr s → Fenced tr := by
  intro hfenced
  obtain ⟨tr, s, hrun, hf⟩ := exists_clusterRun stalledEvents (fun r => unfencedAt r.1 7 15 0)
    (show _ = some true by decide +kernel)
  exact not_fenced_of_unfencedAt (by decide) hf (hfenced tr s hrun)

/-! ### After any other recovery -/

/-- An execution about to write changes the record of a row that is pending. -/
theorem exists_write {i : ℕ} {e : Exec} {row : Task} (hi : s.execs[i]? = some e)
    (hp : e.phase = .started ∨ ∃ o, e.phase = .finishing o)
    (hrow : s.queue.get e.taskID = some row) (hst : row.status = .pending) :
    ∃ ev s', s.step ev = some s' ∧ ev.writer = some i ∧
      s'.record e.taskID ≠ s.record e.taskID := by
  have hne : ∀ {f : Task → Task} {s' : Cluster}, (f row).status ≠ .pending →
      s'.queue = s.queue.set e.taskID f → s'.record e.taskID ≠ s.record e.taskID := by
    intro f s' hf hq heq
    rw [record, record, hq, Queue.get_set, if_pos rfl, hrow, Option.map_some, Option.map_some,
      Option.map_some, Option.some.injEq] at heq
    exact hf ((congrArg Record.status heq).trans hst)
  rcases hp with hp | ⟨o, hp⟩
  · refine ⟨.markRunning i true 0,
      { s.setExec i { e with phase := .marked, pulse := .ticking } with
        queue := s.queue.markRunning e.taskID 0 }, ?_, rfl, hne ?_ rfl⟩
    · exact onExec_eq_some_iff.mpr ⟨e, hi, if_pos hp⟩
    · nofun
  · obtain ⟨f, hf, hw⟩ := o.write_eq_set s.queue e.taskID 0
    refine ⟨.write i true 0, { s.setExec i { e with phase := .written o true } with
      queue := s.queue.set e.taskID f }, ?_, rfl, hne ?_ rfl⟩
    · refine onExec_eq_some_iff.mpr ⟨e, hi, ?_⟩
      simp only [hp, wrote, if_true, hw]
    · have hstatus : (f row).status = o.status := congrArg Lease.status (hf row)
      rw [hstatus]
      cases o <;> nofun

/-- Execution `i` gets to its next write on task `id` by itself, and the table waits. -/
def GetsReady (s : Cluster) (i : ℕ) (id : ℤ) : Prop :=
  ∃ tr' s' e, (∀ {tr}, cluster.Run tr s → cluster.Run (tr ++ tr') s') ∧ s'.queue = s.queue ∧
    s'.execs[i]? = some e ∧ e.taskID = id ∧
    (e.phase = .started ∨ ∃ o, e.phase = .finishing o)

/-- An execution with a write ahead of it gets ready for it. -/
theorem getsReady_of_writing {i : ℕ} {e : Exec} (hi : s.execs[i]? = some e)
    (hb : e.phase.writing) : GetsReady s i e.taskID := by
  have hlen := (List.getElem?_eq_some_iff.mp hi).1
  have hset : ∀ e' : Exec, (s.setExec i e').execs[i]? = some e' := by
    intro e'
    rw [setExec, List.getElem?_set, if_pos rfl, if_pos hlen]
  have here : (e.phase = .started ∨ ∃ o, e.phase = .finishing o) → GetsReady s i e.taskID := by
    intro hp
    exact ⟨[], s, e, fun hrun => by rwa [List.append_nil], rfl, hi, rfl, hp⟩
  -- a child that fails leaves the decision to the terminal switch
  have exits : (e.phase = .running ∨ e.phase = .marked) → GetsReady s i e.taskID := by
    intro hp
    have hstep : s.step (.exit i "" (some "")) =
        some (s.setExec i { e with phase := .finishing (.ofRun "" (some "") (s.ctxErr e)) }) :=
      onExec_eq_some_iff.mpr ⟨e, hi, if_pos (hp.imp_right fun h => ⟨h, rfl, rfl⟩)⟩
    exact ⟨[⟨_, _, _⟩], _, _, fun hrun => hrun.snoc hstep, rfl, hset _, rfl, .inr ⟨_, rfl⟩⟩
  cases hp : e.phase with
  | launched =>
    have hstep : s.step (.start i) = some ((s.setExec i { e with phase := .started }).setCancels
        e.daemon (·.insert e.taskID i)) :=
      onExec_eq_some_iff.mpr ⟨e, hi, if_pos hp⟩
    exact ⟨[⟨_, _, _⟩], _, _, fun hrun => hrun.snoc hstep, rfl, hset _, rfl, .inl rfl⟩
  | started => exact here (.inl hp)
  | marked => exact exits (.inr hp)
  | running => exact exits (.inl hp)
  | finishing o => exact here (.inr ⟨o, hp⟩)
  | written o ok => rw [hp] at hb; cases hb
  | ended => rw [hp] at hb; cases hb
  | crashed => rw [hp] at hb; cases hb

/-- **A recovery that resets the row of an execution with writes ahead of it can
be followed by a write that breaks the fence.** -/
theorem exists_unfenced {timeout now : Time} (hrun : cluster.Run tr s)
    (hstep : s.step (.recover timeout now) = some s') {i : ℕ} {e : Exec}
    (hi : s.execs[i]? = some e) (hres : s.resets (.recover timeout now) e.taskID)
    (hb : e.phase.writing) :
    ∃ tr' c, cluster.Run (tr ++ ⟨s, .recover timeout now, s'⟩ :: tr') c ∧
      ¬ Fenced (tr ++ ⟨s, .recover timeout now, s'⟩ :: tr') := by
  have hrun' := hrun.snoc hstep
  cases hstep
  -- the row is pending now, and the execution is where it was
  obtain ⟨row, hrow, horph⟩ := (Option.any_eq_true _ _).mp hres
  obtain ⟨tr', s₁, e₁, hext, hqueue, hi₁, htask, hp₁⟩ := getsReady_of_writing
    (s := { s with queue := (s.queue.recoverOrphanedTasks timeout now).1 }) hi hb
  have hget : s₁.queue.get e₁.taskID = some
      { row with
        status := .pending
        workerID := none
        claimedAt := none
        startedAt := none
        heartbeatAt := none } := by
    rw [hqueue, htask, Queue.recoverOrphanedTasks, Queue.get_update, hrow, Option.map_some,
      if_pos horph]
  obtain ⟨ev, s₂, hwrite, hw, hne⟩ := exists_write hi₁ hp₁ hget rfl
  rw [htask] at hne
  refine ⟨tr' ++ [⟨s₁, ev, s₂⟩], s₂, ?_, fun hfenced => ?_⟩
  · have hrun₂ := (hext hrun').snoc hwrite
    rwa [List.append_assoc, List.append_assoc, List.singleton_append] at hrun₂
  · exact hne (hfenced tr _ _ rfl i e hi hres ⟨s₁, ev, s₂⟩ (by simp) hw)

end

end Server
end Shrimp
