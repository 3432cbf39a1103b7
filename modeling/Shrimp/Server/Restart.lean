import Shrimp.Server.Ownership

/-!
# One daemon, crashed and restarted

A daemon process runs `RecoverOrphanedTasks` once, before its scheduler, and
nothing else of it ever resets a row.  So what recovery passes over is lost to
that process: a row that is claimed or running, but that no execution works on,
stays so until the process is replaced.  Recovery passes over the rows whose
heartbeat is younger than the timeout, as after a quick restart; and a row is
given up later when its terminal write fails.

## Main definitions

* `Deployment` — the queue with at most one process at a time.
* `Stranded` — a row that is held by nobody.
* `Recoverable` — every stranded row can be brought back by the process there is.
* `LeavesNone` — a recovery that passes over no row, a return of an execution
  whose terminal write did not fail.

## Main results

* `stranded_of_operation` — **no operation after recovery brings a stranded row
  back.**
* `recoverable_iff` — **a run leaves no stuck row exactly when its moves leave
  none.**
-/

namespace Shrimp
namespace Server

open Cluster

/-! ### Deployments -/

/-- A daemon process, by its place in the cluster. -/
structure Process where
  daemon : ℕ
  /-- `RecoverOrphanedTasks` has returned. -/
  recovered : Bool
  deriving DecidableEq

/-- The cluster, with the process there is. -/
structure Deployment where
  cluster : Cluster
  process : Option Process

/-- What can happen to a deployment. -/
inductive Operation
  /-- A new process. -/
  | start (workerID : String)
  /-- The first thing `Run` does. -/
  | recover (now : Time)
  /-- `tick`, `execute`, `heartbeat` and the API. -/
  | run (ev : Event)
  | crash

/-- Can a process take this step, apart from starting, recovering and crashing?  It
claims from its ticks, which come after its recovery. -/
def Event.ofProcess (k : Process) : Event → Bool
  | .boot _ | .recover _ _ | .crash _ => false
  | .claim d _ _ _ _ => d = k.daemon ∧ k.recovered
  | .cancel d _ | .shutdown d => d = k.daemon
  | _ => true

namespace Deployment

section

variable (timeout : Time)

/-- The step of the cluster an operation is; `timeout` is `cfg.OrphanTimeout`. -/
def event (D : Deployment) : Operation → Event
  | .start workerID => .boot workerID
  | .recover now => .recover timeout now
  | .run ev => ev
  | .crash => .crash ((D.process.map Process.daemon).getD 0)

/-- The process after an operation; `none` when the operation is not possible. -/
def next (D : Deployment) : Operation → Option (Option Process)
  | .start _ =>
    match D.process with
    | none => some (some ⟨D.cluster.daemons.length, false⟩)
    | some _ => none
  | .recover _ =>
    match D.process with
    | some ⟨d, false⟩ => some (some ⟨d, true⟩)
    | _ => none
  | .run ev =>
    match D.process with
    | some k => if ev.ofProcess k then some (some k) else none
    | none => none
  | .crash =>
    match D.process with
    | some _ => some none
    | none => none

/-- **One operation.** -/
def step (D : Deployment) (op : Operation) : Option Deployment :=
  match D.next op, D.cluster.step (D.event timeout op) with
  | some k, some s => some ⟨s, k⟩
  | _, _ => none

end

end Deployment

/-- The deployments of a database, with no process yet. -/
def deployment (timeout : Time) : Lts Deployment Operation :=
  Lts.ofStep (· = ⟨freshCluster, none⟩) (Deployment.step timeout)

section

variable {timeout : Time}

theorem Deployment.step_eq_some_iff {D D' : Deployment} {op : Operation} :
    D.step timeout op = some D' ↔
      D.next op = some D'.process ∧ D.cluster.step (D.event timeout op) = some D'.cluster := by
  unfold step
  cases D.next op with
  | none => simp
  | some k =>
    cases D.cluster.step (D.event timeout op) with
    | none => simp
    | some s =>
      simp only [Option.some.injEq]
      constructor
      · rintro rfl
        exact ⟨rfl, rfl⟩
      · rintro ⟨rfl, rfl⟩
        rfl

/-- What the process runs is one of its own steps, and leaves the process there. -/
theorem Deployment.next_run_eq_some_iff {D : Deployment} {ev : Event} {p : Option Process} :
    D.next (.run ev) = some p ↔ ∃ k, D.process = some k ∧ ev.ofProcess k ∧ p = some k := by
  constructor
  · intro h
    simp only [next] at h
    split at h
    · next k hk =>
      split at h
      · next hof => exact ⟨k, hk, hof, (Option.some.inj h).symm⟩
      · cases h
    · cases h
  · rintro ⟨k, hk, hof, rfl⟩
    simp only [next, hk, hof, if_true]

theorem Deployment.next_recover_eq_some_iff {D : Deployment} {now : Time} {p : Option Process} :
    D.next (.recover now) = some p ↔ ∃ d, D.process = some ⟨d, false⟩ ∧ p = some ⟨d, true⟩ := by
  constructor
  · intro h
    simp only [next] at h
    split at h
    · next d hd => exact ⟨d, hd, (Option.some.inj h).symm⟩
    · cases h
  · rintro ⟨d, hd, rfl⟩
    simp only [next, hd]

/-- **A deployment is a cluster** that moves as one process at a time lets it. -/
theorem clusterRun_of_run {tr : List (Lts.Move Deployment Operation)} {D : Deployment}
    (h : (deployment timeout).Run tr D) :
    cluster.Run (tr.map fun m => ⟨m.pre.cluster, m.pre.event timeout m.label, m.post.cluster⟩)
      D.cluster := by
  refine h.map Deployment.cluster (Deployment.event timeout) ?_ ?_
  · rintro D rfl
    rfl
  · intro D op D' hstep
    exact (Deployment.step_eq_some_iff.mp hstep).2

/-! ### Stranded rows -/

/-- A row that is claimed or running, with no execution at work on it. -/
def Stranded (id : ℤ) (s : Cluster) : Prop :=
  (∃ row, s.queue.get id = some row ∧ row.status.held) ∧
    ∀ h ∈ s.holdings, h.taskID = id → h.phase.live = false

/-- Can the process there is bring back every stranded row, without a restart? -/
def Recoverable (timeout : Time) (D : Deployment) : Prop :=
  D.process.isSome → ∀ id, Stranded id D.cluster →
    ∃ ops tr' D', (∀ op ∈ ops, op ≠ .crash ∧ ∀ workerID, op ≠ .start workerID) ∧
      Lts.exec (Deployment.step timeout) D ops = some (tr', D') ∧
      ∃ row, D'.cluster.queue.get id = some row ∧ row.status = .pending

/-- Has an execution in this phase failed to write its terminal status? -/
def Phase.lost : Phase → Bool
  | written _ ok => !ok
  | _ => false

/-- A recovery that resets every claimed and running row, or a return of an
execution whose terminal write did not fail, or any other operation. -/
def LeavesNone (timeout : Time) (m : Lts.Move Deployment Operation) : Prop :=
  match m.label with
  | .recover now => ∀ e ∈ m.pre.cluster.queue.rows.entries, e.2.status.held →
      Queue.orphaned timeout now e.2
  | .run (.done i) => ∀ h ∈ m.pre.cluster.holdings[i]?, h.phase.lost = false
  | _ => True

instance (timeout : Time) (m : Lts.Move Deployment Operation) :
    Decidable (LeavesNone timeout m) :=
  match m with
  | ⟨D, .recover now, _⟩ => inferInstanceAs (Decidable (∀ e ∈ D.cluster.queue.rows.entries,
      e.2.status.held → Queue.orphaned timeout now e.2))
  | ⟨D, .run (.done i), _⟩ =>
    inferInstanceAs (Decidable (∀ h ∈ D.cluster.holdings[i]?, h.phase.lost = false))
  | ⟨_, .start _, _⟩ | ⟨_, .crash, _⟩ | ⟨_, .run (.boot _), _⟩ | ⟨_, .run (.enqueue ..), _⟩
  | ⟨_, .run (.claim ..), _⟩ | ⟨_, .run (.start _), _⟩ | ⟨_, .run (.markRunning ..), _⟩
  | ⟨_, .run (.heartbeat ..), _⟩ | ⟨_, .run (.honor _), _⟩ | ⟨_, .run (.spawn _), _⟩
  | ⟨_, .run (.exit ..), _⟩ | ⟨_, .run (.write ..), _⟩ | ⟨_, .run (.cancel ..), _⟩
  | ⟨_, .run (.requestCancel _), _⟩ | ⟨_, .run (.recover ..), _⟩ | ⟨_, .run (.shutdown _), _⟩
  | ⟨_, .run (.crash _), _⟩ => .isTrue trivial

variable {s s' : Cluster} {ev : Event} {id : ℤ}

/-- A step that is no recovery leaves a stranded row stranded. -/
theorem stranded_of_effect (hs : Stranded id s) (h : Effect s s' ev)
    (hnot : ∀ timeout now, ev ≠ .recover timeout now) : Stranded id s' := by
  obtain ⟨⟨row, hrow, hheld⟩, hidle⟩ := hs
  have hl : s.lease id = some row.lease := by rw [lease, hrow, Option.map_some]
  have hother : ∀ {i : ℕ} {h0 : Holding}, s.holdings[i]? = some h0 → h0.phase.live →
      id ≠ h0.taskID := by
    rintro i h0 hi hb rfl
    rw [hidle h0 (List.mem_of_getElem? hi) rfl] at hb
    cases hb
  have hclaimed : ∀ {d agentIDs locked scan now id' row'}, ev = .claim d agentIDs locked scan now →
      s.queue.get id' = some row' → row'.status = .pending → id ≠ id' := by
    rintro d agentIDs locked scan now id' row' - hrow' hpending rfl
    rw [hrow] at hrow'
    cases hrow'
    rw [hpending] at hheld
    cases hheld
  have hlease : s'.lease id = some row.lease ∧ s.claimed ev ≠ some id := by
    cases h with
    | quiet hrows hexecs hcl =>
      exact ⟨(hrows id).trans hl, by simp [hcl]⟩
    | enqueue id' hnew hget hexecs =>
      exact ⟨lease_of_enqueue hnew hget hl, by simp [claimed]⟩
    | claim workerID id' row' hrow' hpending' hqueue hexecs hcl =>
      have hne := hclaimed rfl hrow' hpending'
      refine ⟨by rw [lease_of_claim hqueue, if_neg hne, hl], ?_⟩
      rw [hcl]
      exact fun heq => hne (Option.some.inj heq).symm
    | progress i h0 p hi hp hqueue hexecs hcl =>
      exact ⟨(lease_of_queue_eq hqueue id).trans hl, by simp [hcl]⟩
    | markRunning h0 hi hp hqueue hexecs =>
      have hne := hother hi (by rw [hp]; rfl)
      refine ⟨?_, by simp [claimed]⟩
      rw [lease_of_markRunning hqueue, leaseAfter, if_neg (hne ·.2), hl]
    | write h0 o hi hp hqueue hexecs =>
      have hne := hother hi (by rw [hp]; rfl)
      refine ⟨?_, by simp [claimed]⟩
      rw [lease_of_write hqueue, leaseAfter, if_neg (hne ·.2), hl]
    | recover => exact absurd rfl (hnot _ _)
    | crash hqueue hexecs =>
      exact ⟨(lease_of_queue_eq hqueue id).trans hl, by simp [claimed]⟩
  obtain ⟨row', hrow', hsame⟩ := lease_eq_some_iff.mp hlease.1
  refine ⟨⟨row', hrow', ?_⟩, fun h' hmem heq => ?_⟩
  · rw [show row'.status = row.status from congrArg Lease.status hsame]
    exact hheld
  · obtain ⟨i, hi⟩ := List.mem_iff_getElem?.mp hmem
    by_contra hne
    rcases busy_of_effect h hi (Bool.eq_true_of_not_eq_false hne) with
      ⟨h0, hi0, htask, hb⟩ | ⟨-, hc⟩
    · exact hother hi0 hb (heq.symm.trans htask.symm)
    · exact hlease.2 (heq ▸ hc)

/-! ### The life of a process -/

/-- What holds of the process there is: only its executions are at work, and only
behind its recovery. -/
structure Confined (D : Deployment) : Prop where
  owned : Owned true D.cluster
  /-- Whoever is at work is an execution of a process past its recovery. -/
  live : ∀ h ∈ D.cluster.holdings, h.phase.live → D.process = some ⟨h.daemon, true⟩

theorem Confined.idle {D : Deployment} (hD : Confined D) {d : ℕ}
    (hp : D.process = some ⟨d, false⟩) : ∀ h ∈ D.cluster.holdings, h.phase.live = false := by
  intro h hmem
  by_contra hne
  have hproc := hD.live h hmem (Bool.eq_true_of_not_eq_false hne)
  rw [hp] at hproc
  cases hproc

theorem orderly_of_ne {s s' : Cluster} {ev : Event}
    (hnot : ∀ timeout now, ev ≠ .recover timeout now) (late : Bool) :
    OrderlyRecovery late ⟨s, ev, s'⟩ := by
  intro i h hi hlast hres
  cases ev with
  | recover timeout now => exact absurd rfl (hnot timeout now)
  | _ => cases hres

theorem orderly_of_idle {s s' : Cluster} {ev : Event}
    (hidle : ∀ h ∈ s.holdings, h.phase.live = false) : OrderlyRecovery true ⟨s, ev, s'⟩ :=
  fun _ h hi _ _ => hidle h (List.mem_of_getElem? hi)

/-- **The step lemma.** -/
theorem confined_of_step {D D' : Deployment} {op : Operation} (hD : Confined D)
    (h : D.step timeout op = some D') : Confined D' := by
  obtain ⟨hnext, hstep⟩ := Deployment.step_eq_some_iff.mp h
  have heff := effect_of_step hstep
  obtain ⟨hO, hlive⟩ := hD
  -- whoever is at work afterwards was at work before, or has just claimed
  have hback : ∀ h ∈ D'.cluster.holdings, h.phase.live →
      D.process = some ⟨h.daemon, true⟩ ∨ ∃ agentIDs locked scan now,
        D.event timeout op = .claim h.daemon agentIDs locked scan now := by
    intro h hmem hb
    obtain ⟨i, hi⟩ := List.mem_iff_getElem?.mp hmem
    rcases holder_of_effect heff hi hb with ⟨p, hi0, hp⟩ | ⟨-, -, hclaim⟩
    · have hproc := hlive { h with phase := p } (List.mem_of_getElem? hi0) hp
      exact .inl hproc
    · exact .inr hclaim
  cases op with
  | start workerID =>
    refine ⟨owned_of_effect hO heff (orderly_of_ne (by rintro _ _ ⟨⟩) true), ?_⟩
    intro h hmem hb
    rcases hback h hmem hb with hproc | ⟨_, _, _, _, hclaim⟩
    · -- there was no process, so nobody was at work
      simp only [Deployment.next, hproc] at hnext
      cases hnext
    · cases hclaim
  | recover now =>
    obtain ⟨d, hproc, -⟩ := Deployment.next_recover_eq_some_iff.mp hnext
    have hidle := Confined.idle ⟨hO, hlive⟩ hproc
    refine ⟨owned_of_effect hO heff (orderly_of_idle hidle), fun h hmem hb => ?_⟩
    rcases hback h hmem hb with hproc' | ⟨_, _, _, _, hclaim⟩
    · rw [hproc] at hproc'
      cases hproc'
    · cases hclaim
  | run ev =>
    obtain ⟨k, hproc, hof, hproc'⟩ := Deployment.next_run_eq_some_iff.mp hnext
    have hnot : ∀ timeout now, ev ≠ .recover timeout now := by
      rintro timeout now rfl
      cases hof
    refine ⟨owned_of_effect hO heff (orderly_of_ne hnot true), fun h hmem hb => ?_⟩
    rcases hback h hmem hb with hlive' | ⟨_, _, _, _, hclaim⟩
    · rw [hproc', ← hproc, hlive']
    · -- the process claims behind its recovery
      change ev = _ at hclaim
      subst hclaim
      obtain ⟨hd, hrec⟩ := of_decide_eq_true hof
      rw [hproc', hd, ← hrec]
  | crash =>
    refine ⟨owned_of_effect hO heff (orderly_of_ne (by rintro _ _ ⟨⟩) true), ?_⟩
    intro h hmem hb
    have hcrash := (Option.some.inj hstep).symm
    rw [hcrash, holdings_crash] at hmem
    obtain ⟨h0, hmem0, rfl⟩ := List.mem_map.mp hmem
    split at hb
    · cases hb
    · next hd =>
      -- the daemon of whoever is at work is the one that crashes
      rw [hlive h0 hmem0 hb] at hd
      exact absurd rfl hd

/-- **The run lemma.** -/
theorem confined_of_run {tr : List (Lts.Move Deployment Operation)} {D : Deployment}
    (h : (deployment timeout).Run tr D) : Confined D := by
  refine h.invariant (I := fun _ D => Confined D) ?_ fun _ _ _ _ _ hD hstep =>
    confined_of_step hD hstep
  rintro D rfl
  exact ⟨owned_freshCluster, fun h hmem => by cases hmem⟩

/-! ### What a process can bring back -/

/-- An operation other than a crash leaves the process past its recovery. -/
theorem process_of_step {D D' : Deployment} {op : Operation} {d : ℕ}
    (h : D.step timeout op = some D') (hp : D.process = some ⟨d, true⟩) (hop : op ≠ .crash) :
    D'.process = some ⟨d, true⟩ ∧ ∃ ev : Event, op = .run ev ∧ ev.ofProcess ⟨d, true⟩ := by
  obtain ⟨hnext, -⟩ := Deployment.step_eq_some_iff.mp h
  cases op with
  | start workerID | recover now =>
    simp only [Deployment.next, hp] at hnext
    cases hnext
  | run ev =>
    simp only [Deployment.next, hp] at hnext
    split at hnext
    · next hof => exact ⟨(Option.some.inj hnext).symm, ev, rfl, hof⟩
    · cases hnext
  | crash => exact absurd rfl hop

/-- **No operation after recovery brings a stranded row back.** -/
theorem stranded_of_operation {D D' : Deployment} {op : Operation} {d : ℕ}
    (h : D.step timeout op = some D') (hp : D.process = some ⟨d, true⟩) (hop : op ≠ .crash)
    (hs : Stranded id D.cluster) : Stranded id D'.cluster := by
  obtain ⟨-, hstep⟩ := Deployment.step_eq_some_iff.mp h
  obtain ⟨-, ev, rfl, hof⟩ := process_of_step h hp hop
  refine stranded_of_effect hs (effect_of_step hstep) ?_
  rintro timeout' now hev
  change ev = _ at hev
  rw [hev] at hof
  cases hof

/-- No sequence of steps without a recovery brings a stranded row back. -/
theorem stranded_of_exec {ops : List Operation} :
    ∀ {D D' : Deployment} {tr' : List (Lts.Move Deployment Operation)} {d : ℕ},
      Lts.exec (Deployment.step timeout) D ops = some (tr', D') → D.process = some ⟨d, true⟩ →
        (∀ op ∈ ops, op ≠ .crash) → Stranded id D.cluster → Stranded id D'.cluster := by
  induction ops with
  | nil =>
    intro D D' tr' d h _ _ hs
    cases h
    exact hs
  | cons op ops ih =>
    intro D D' tr' d h hp hops hs
    rw [Lts.exec] at h
    split at h
    · cases h
    · next D'' hstep =>
      split at h
      · cases h
      · next hexec =>
        cases h
        have hop := hops op List.mem_cons_self
        exact ih hexec (process_of_step hstep hp hop).1
          (fun op' hop' => hops op' (List.mem_cons_of_mem _ hop'))
          (stranded_of_operation hstep hp hop hs)

/-- **A process past its recovery brings back nothing.** -/
theorem not_stranded_of_recoverable {D : Deployment} (h : Recoverable timeout D) {d : ℕ}
    (hp : D.process = some ⟨d, true⟩) (id : ℤ) : ¬Stranded id D.cluster := by
  intro hs
  obtain ⟨ops, tr', D', hops, hexec, row, hrow, hpending⟩ := h (by rw [hp]; rfl) id hs
  obtain ⟨⟨row', hrow', hheld⟩, -⟩ :=
    stranded_of_exec hexec hp (fun op hop => (hops op hop).1) hs
  rw [hrow] at hrow'
  cases hrow'
  rw [hpending] at hheld
  cases hheld

theorem exists_orphaned (timeout : Time) {row : Task} (hheld : row.status.held) :
    ∃ now, Queue.orphaned timeout now row := by
  cases hbeat : row.heartbeatAt with
  | none => exact ⟨0, by simp [Queue.orphaned, hheld, hbeat]⟩
  | some beat =>
    refine ⟨beat + timeout + 1, ?_⟩
    have hlt : beat < beat + timeout + 1 - timeout := by
      unfold Time at *
      omega
    simp [Queue.orphaned, hheld, hbeat, hlt]

/-- A recovery resets an orphaned row and leaves any other. -/
theorem get_of_recover (timeout now : Time) {q : Queue} {row : Task}
    (hrow : q.get id = some row) :
    ∃ row', (q.recoverOrphanedTasks timeout now).1.get id = some row' ∧
      row'.status = if Queue.orphaned timeout now row then .pending else row.status := by
  refine ⟨_, by rw [Queue.recoverOrphanedTasks, Queue.get_update, hrow, Option.map_some], ?_⟩
  split <;> rfl

/-- A process before its recovery brings back what is stranded, once it is old
enough. -/
theorem recoverable_of_booted {D : Deployment} {d : ℕ} (hp : D.process = some ⟨d, false⟩) :
    Recoverable timeout D := by
  rintro - id ⟨⟨row, hrow, hheld⟩, -⟩
  obtain ⟨now, horph⟩ := exists_orphaned timeout hheld
  have hstep : D.step timeout (.recover now) = some
      ⟨{ D.cluster with queue := (D.cluster.queue.recoverOrphanedTasks timeout now).1 },
        some ⟨d, true⟩⟩ :=
    Deployment.step_eq_some_iff.mpr ⟨by simp [Deployment.next, hp], rfl⟩
  obtain ⟨row', hrow', hst⟩ := get_of_recover timeout now hrow
  rw [if_pos horph] at hst
  exact ⟨[.recover now], _, _, by simp, by rw [Lts.exec, hstep]; rfl, row', hrow', hst⟩

/-! ### Which moves leave a stuck row -/

/-- An execution that has written stays where it is until it returns or crashes. -/
theorem getElem?_of_written (hstep : s.step ev = some s') {i : ℕ} (hdone : ev ≠ .done i)
    (hcrash : ∀ d, ev ≠ .crash d) {h : Holding} {o : Outcome} {ok : Bool}
    (hi : s.holdings[i]? = some h) (hp : h.phase = .written o ok) : s'.holdings[i]? = some h := by
  -- a move of another execution
  have hne : ∀ {j : ℕ} {e' : Exec}, j ≠ i → (s.setExec j e').holdings[i]? = some h := by
    intro j e' hij
    rw [holdings_setExec, List.getElem?_set_ne hij]
    exact hi
  have hother : ∀ {j : ℕ} {e e' : Exec}, s.execs[j]? = some e → e.phase ≠ .written o ok →
      (s.setExec j e').holdings[i]? = some h := by
    intro j e e' hj hphase
    refine hne ?_
    rintro rfl
    rw [getElem?_holdings hj] at hi
    cases hi
    exact hphase hp
  have hsame : s'.holdings = s.holdings → s'.holdings[i]? = some h := fun heq => by rw [heq, hi]
  cases ev with
  | boot | enqueue | recover | shutdown =>
    cases hstep
    exact hi
  | claim d agentIDs locked scan now =>
    simp only [step] at hstep
    split at hstep
    · cases hstep
    split at hstep
    · split at hstep <;> cases hstep
      · exact hi
      · rw [holdings, List.map_append]
        exact (List.getElem?_append_left (List.getElem?_eq_some_iff.mp hi).1).trans hi
    · cases hstep
  | start j | markRunning j =>
    obtain ⟨e, hj, hstep⟩ := onExec_eq_some_iff.mp hstep
    split at hstep
    · next hphase =>
      cases hstep
      exact hother hj (by simp [hphase])
    · cases hstep
  | spawn j =>
    obtain ⟨e, hj, hstep⟩ := onExec_eq_some_iff.mp hstep
    split at hstep
    · next hphase =>
      cases hstep
      exact hother hj (by simp [hphase.1])
    · cases hstep
  | exit j =>
    obtain ⟨e, hj, hstep⟩ := onExec_eq_some_iff.mp hstep
    split at hstep
    · next hphase =>
      cases hstep
      exact hother hj (by rcases hphase with hphase | ⟨hphase, -⟩ <;> simp [hphase])
    · cases hstep
  | write j =>
    obtain ⟨e, hj, hstep⟩ := onExec_eq_some_iff.mp hstep
    split at hstep
    · next o' hphase =>
      cases hstep
      exact hother hj (by simp [hphase])
    · cases hstep
  | heartbeat j ok' now =>
    obtain ⟨e, hj, hstep⟩ := onExec_eq_some_iff.mp hstep
    split at hstep
    · cases ok' <;> cases hstep
      · exact hi
      · exact hsame (holdings_setExec_of_eq hj rfl)
    · cases hstep
  | honor j =>
    obtain ⟨e, hj, hstep⟩ := onExec_eq_some_iff.mp hstep
    split at hstep
    · cases hstep
      exact hsame ((managerCancel_spec _ _).2.trans (holdings_setExec_of_eq hj rfl))
    · cases hstep
  | cancel d id =>
    cases hstep
    exact hsame (managerCancel_spec d id).2
  | requestCancel id =>
    simp only [step] at hstep
    split at hstep <;> cases hstep <;> exact hi
  | done j =>
    obtain ⟨e, hj, hstep⟩ := onExec_eq_some_iff.mp hstep
    split at hstep
    · cases hstep
      exact hne fun hij => hdone (by rw [hij])
    · cases hstep
  | crash d => exact absurd rfl (hcrash d)

/-- Who is at work is at work after a step, unless it returns or crashes. -/
theorem live_of_step (hstep : s.step ev = some s') (hcrash : ∀ d, ev ≠ .crash d) {i : ℕ}
    {h : Holding} (hi : s.holdings[i]? = some h) (hb : h.phase.live) :
    (∃ p : Phase, s'.holdings[i]? = some { h with phase := p } ∧ p.live) ∨
      ev = .done i ∧ ∃ o ok, h.phase = .written o ok := by
  have ofSet : ∀ {j : ℕ} {h0 : Holding} {p : Phase}, s.holdings[j]? = some h0 →
      s'.holdings = s.holdings.set j { h0 with phase := p } → p.live →
      ∃ p : Phase, s'.holdings[i]? = some { h with phase := p } ∧ p.live := by
    intro j h0 p hj hexecs hp
    by_cases hij : j = i
    · subst hij
      obtain rfl := Option.some.inj (hj.symm.trans hi)
      refine ⟨p, ?_, hp⟩
      rw [hexecs, List.getElem?_set_self (List.getElem?_eq_some_iff.mp hj).1]
    · exact ⟨h.phase, by rw [hexecs, List.getElem?_set_ne hij, hi], hb⟩
  by_cases hwritten : ∃ o ok, h.phase = .written o ok
  · by_cases hdone : ev = .done i
    · exact .inr ⟨hdone, hwritten⟩
    · obtain ⟨o, ok, hp⟩ := hwritten
      exact .inl ⟨h.phase, getElem?_of_written hstep hdone hcrash hi hp, hb⟩
  refine .inl ?_
  cases effect_of_step hstep with
  | quiet _ hexecs | enqueue _ _ _ hexecs | recover _ hexecs => exact ⟨h.phase, hexecs ▸ hi, hb⟩
  | claim _ _ _ _ _ _ hexecs =>
    refine ⟨h.phase, ?_, hb⟩
    rw [hexecs]
    exact (List.getElem?_append_left (List.getElem?_eq_some_iff.mp hi).1).trans hi
  | progress j h0 p hj hp _ hexecs =>
    by_cases hij : j = i
    · subst hij
      obtain rfl := Option.some.inj (hj.symm.trans hi)
      refine ofSet hj hexecs ?_
      generalize hphase : h0.phase = q at hp
      cases hp with
      | done => exact absurd ⟨_, _, hphase⟩ hwritten
      | _ => rfl
    · exact ⟨h.phase, by rw [hexecs, List.getElem?_set_ne hij, hi], hb⟩
  | markRunning h0 hj hp _ hexecs => exact ofSet hj hexecs rfl
  | write h0 o hj hp _ hexecs => exact ofSet hj hexecs rfl
  | crash => exact absurd rfl (hcrash _)

/-- A row that is held after a step, with nobody at work on it before and after, was
held before, and no recovery reset it. -/
theorem held_of_step (hstep : s.step ev = some s') (hcrash : ∀ d, ev ≠ .crash d)
    (hbefore : ∀ h ∈ s.holdings, h.taskID = id → h.phase.live = false)
    (hafter : ∀ h ∈ s'.holdings, h.taskID = id → h.phase.live = false) {row' : Task}
    (hrow' : s'.queue.get id = some row') (hheld : row'.status.held) :
    ∃ row, s.queue.get id = some row ∧ row.status.held ∧
      ∀ timeout now, ev = .recover timeout now → ¬Queue.orphaned timeout now row := by
  have hl' : s'.lease id = some row'.lease := by rw [lease, hrow', Option.map_some]
  by_cases hrec : ∃ timeout now, ev = .recover timeout now
  · obtain ⟨timeout, now, rfl⟩ := hrec
    have hqueue : s'.queue = (s.queue.recoverOrphanedTasks timeout now).1 := by
      cases hstep
      rfl
    have hlease := lease_of_recover hqueue id
    rw [hl'] at hlease
    obtain ⟨row, hrow, hrl⟩ := Option.map_eq_some_iff.mp hlease.symm
    split at hrl
    · rw [show row'.status = .pending from (congrArg Lease.status hrl).symm] at hheld
      cases hheld
    · next horph =>
      refine ⟨row, hrow, ?_, ?_⟩
      · rw [show row.status = row'.status from congrArg Lease.status hrl]
        exact hheld
      · rintro _ _ ⟨⟩
        exact horph
  have hnot : ∀ timeout now, ev ≠ .recover timeout now := fun timeout now hev =>
    hrec ⟨timeout, now, hev⟩
  have hother : ∀ {i : ℕ} {h : Holding}, s.holdings[i]? = some h → h.phase.live →
      id ≠ h.taskID := by
    rintro i h hi hb rfl
    rw [hbefore h (List.mem_of_getElem? hi) rfl] at hb
    cases hb
  have hsame : s'.lease id = s.lease id := by
    cases effect_of_step hstep with
    | quiet hrows hexecs hclaimed => exact hrows id
    | enqueue id' hnew hget hexecs =>
      rw [hget] at hrow'
      split at hrow'
      · cases hrow'
        cases hheld
      · next hne => rw [lease, hget, if_neg hne, lease]
    | @claim d _ _ _ _ workerID id' row hrow hpending hqueue hexecs hclaimed =>
      rw [lease_of_claim hqueue, if_neg]
      rintro rfl
      -- the claim puts an execution to work
      have hlive := hafter ⟨d, _, workerID, .launched⟩ (by rw [hexecs]; simp) rfl
      cases hlive
    | progress i h0 p hi hp hqueue hexecs hclaimed => exact lease_of_queue_eq hqueue id
    | markRunning h0 hi hp hqueue hexecs =>
      have hne := hother hi (by rw [hp]; rfl)
      rw [lease_of_markRunning hqueue, leaseAfter, if_neg (hne ·.2)]
    | write h0 o hi hp hqueue hexecs =>
      have hne := hother hi (by rw [hp]; rfl)
      rw [lease_of_write hqueue, leaseAfter, if_neg (hne ·.2)]
    | recover => exact absurd rfl (hnot _ _)
    | crash => exact absurd rfl (hcrash _)
  obtain ⟨row, hrow, hrl⟩ := lease_eq_some_iff.mp (hsame.symm.trans hl')
  refine ⟨row, hrow, ?_, fun _ _ hev => absurd hev (hnot _ _)⟩
  rw [show row.status = row'.status from congrArg Lease.status hrl]
  exact hheld

/-- A row that is stranded after a step was stranded before it and was passed over
by a recovery if it was one, or its execution has returned with its terminal write
failed. -/
theorem stranded_of_step (hO : Owned true s) (hstep : s.step ev = some s')
    (hcrash : ∀ d, ev ≠ .crash d) (hs : Stranded id s') :
    (Stranded id s ∧ ∀ timeout now row, ev = .recover timeout now →
        s.queue.get id = some row → ¬Queue.orphaned timeout now row) ∨
      ∃ (i : ℕ) (h : Holding) (o : Outcome),
        ev = .done i ∧ s.holdings[i]? = some h ∧ h.phase = .written o false := by
  obtain ⟨⟨row', hrow', hheld⟩, hidle⟩ := hs
  by_cases hlive : ∃ (i : ℕ) (h : Holding),
      s.holdings[i]? = some h ∧ h.taskID = id ∧ h.phase.live
  · obtain ⟨i, h, hi, rfl, hb⟩ := hlive
    rcases live_of_step hstep hcrash hi hb with ⟨p, hi', hp⟩ | ⟨rfl, o, ok, hp⟩
    · rw [hidle { h with phase := p } (List.mem_of_getElem? hi') rfl] at hp
      cases hp
    · cases ok with
      | false => exact .inr ⟨i, h, o, rfl, hi, hp⟩
      | true =>
        -- the row has the terminal status the execution wrote
        obtain ⟨l, hl, hfits⟩ := hO.fits hi hb
        have hsame : s'.lease h.taskID = s.lease h.taskID := by
          obtain ⟨e, -, hstep⟩ := onExec_eq_some_iff.mp hstep
          split at hstep <;> cases hstep
          rfl
        rw [hl, lease, hrow', Option.map_some] at hsame
        cases hsame
        rw [hp] at hfits
        rw [show row'.status = o.status from hfits] at hheld
        cases o <;> cases hheld
  · have hbefore : ∀ h ∈ s.holdings, h.taskID = id → h.phase.live = false := by
      intro h hmem heq
      obtain ⟨i, hi⟩ := List.mem_iff_getElem?.mp hmem
      exact Bool.eq_false_of_not_eq_true fun hb => hlive ⟨i, h, hi, heq, hb⟩
    obtain ⟨row, hrow, hheld, hrec⟩ :=
      held_of_step hstep hcrash hbefore hidle hrow' hheld
    refine .inl ⟨⟨⟨row, hrow, hheld⟩, hbefore⟩, ?_⟩
    intro timeout now r hev hr
    rw [hrow] at hr
    cases hr
    exact hrec timeout now hev

/-! ### Runs -/

section Runs

variable {tr : List (Lts.Move Deployment Operation)} {D : Deployment}

/-- **A run whose moves leave no stuck row has none** past the recovery of the
process. -/
theorem not_stranded_of_run (h : (deployment timeout).Run tr D)
    (hleaves : ∀ m ∈ tr, LeavesNone timeout m) {d : ℕ} (hp : D.process = some ⟨d, true⟩)
    (id : ℤ) : ¬Stranded id D.cluster := by
  refine (h.invariant_of (C := LeavesNone timeout)
    (I := fun _ D => ∀ d, D.process = some ⟨d, true⟩ → ∀ id, ¬Stranded id D.cluster)
    ?_ ?_ hleaves) d hp id
  · rintro D rfl d hp
    cases hp
  · intro tr D op D' hrun ih hstep hleaves d hp id hs
    obtain ⟨hnext, hcluster⟩ := Deployment.step_eq_some_iff.mp hstep
    have hO := (confined_of_run hrun).owned
    rw [hp] at hnext
    cases op with
    | start workerID | crash =>
      simp only [Deployment.next] at hnext
      split at hnext <;> cases hnext
    | recover now =>
      rcases stranded_of_step hO hcluster (fun _ h => nomatch h) hs with
        ⟨⟨⟨row, hrow, hheld⟩, -⟩, hpassed⟩ | ⟨_, _, _, hdone, -⟩
      · exact hpassed timeout now row rfl hrow (hleaves (id, row) (Dict.mem_of_get? hrow) hheld)
      · cases hdone
    | run ev =>
      obtain ⟨hproc, hof⟩ : D.process = some ⟨d, true⟩ ∧ ev.ofProcess ⟨d, true⟩ := by
        simp only [Deployment.next] at hnext
        split at hnext
        · next k hk =>
          split at hnext
          · next hof =>
            cases hnext
            exact ⟨hk, hof⟩
          · cases hnext
        · cases hnext
      have hcrash : ∀ d', ev ≠ .crash d' := by
        rintro d' rfl
        cases hof
      rcases stranded_of_step hO hcluster hcrash hs with ⟨hs', -⟩ | ⟨i, h, o, hdone, hi, hphase⟩
      · exact ih d hproc id hs'
      · change ev = _ at hdone
        subst hdone
        have hlost := hleaves h hi
        rw [hphase] at hlost
        cases hlost

theorem stranded_of_recover {D' : Deployment} {now : Time} (hD : Confined D)
    (hstep : D.step timeout (.recover now) = some D') {row : Task}
    (hrow : D.cluster.queue.get id = some row) (hheld : row.status.held)
    (hpassed : ¬Queue.orphaned timeout now row) :
    (∃ d, D'.process = some ⟨d, true⟩) ∧ Stranded id D'.cluster := by
  obtain ⟨hnext, hcluster⟩ := Deployment.step_eq_some_iff.mp hstep
  simp only [Deployment.next] at hnext
  split at hnext
  · next d hd =>
    refine ⟨⟨d, (Option.some.inj hnext).symm⟩, ?_⟩
    have hD' := Option.some.inj hcluster
    rw [← hD']
    obtain ⟨row', hrow', hst⟩ := get_of_recover timeout now hrow
    rw [if_neg hpassed] at hst
    exact ⟨⟨row', hrow', hst ▸ hheld⟩, fun h hmem _ => hD.idle hd h hmem⟩
  · cases hnext

/-- An execution that returns with its terminal write failed strands its row. -/
theorem stranded_of_done {D' : Deployment} {i : ℕ} (hD : Confined D)
    (hstep : D.step timeout (.run (.done i)) = some D') {h : Holding} {o : Outcome}
    (hi : D.cluster.holdings[i]? = some h) (hp : h.phase = .written o false) :
    (∃ d, D'.process = some ⟨d, true⟩) ∧ Stranded h.taskID D'.cluster := by
  obtain ⟨-, hcluster⟩ := Deployment.step_eq_some_iff.mp hstep
  have hb : h.phase.live := by
    rw [hp]
    rfl
  have hproc := hD.live h (List.mem_of_getElem? hi) hb
  refine ⟨⟨h.daemon, (process_of_step hstep hproc nofun).1⟩, ?_⟩
  obtain ⟨l, hl, hfits⟩ := hD.owned.fits hi hb
  rw [hp] at hfits
  obtain ⟨e, he, hdone⟩ := onExec_eq_some_iff.mp hcluster
  split at hdone
  · have hD' := Option.some.inj hdone
    rw [← hD']
    obtain ⟨row, hrow, rfl⟩ := lease_eq_some_iff.mp hl
    refine ⟨⟨row, hrow, hfits.1⟩, fun h' hmem heq => ?_⟩
    obtain ⟨j, hj⟩ := List.mem_iff_getElem?.mp hmem
    rw [holdings_setCancels, holdings_setExec] at hj
    rcases getElem?_set_cases hj with ⟨-, rfl⟩ | ⟨hne, hj⟩
    · rfl
    · -- another execution at work would be on another row
      exact Bool.eq_false_of_not_eq_true fun hb' =>
        hne (hD.owned.eq_of_taskID_eq hi hj hb hb' heq).symm
  · cases hdone

/-- **A run leaves no stuck row exactly when its moves leave none**: when every
recovery finds every claimed or running row without a heartbeat or with one older
than the timeout, and no execution returns after its terminal write failed. -/
theorem recoverable_iff (h : (deployment timeout).Run tr D) :
    (∀ m ∈ tr, Recoverable timeout m.post) ↔ ∀ m ∈ tr, LeavesNone timeout m := by
  constructor
  · intro hall m hm
    obtain ⟨tr₁, hrun, hstep⟩ := h.step_of_mem hm
    have hD := confined_of_run hrun
    obtain ⟨D, op, D'⟩ := m
    unfold LeavesNone
    split
    · next now hop =>
      rintro ⟨id, row⟩ hmem hheld
      by_contra hpassed
      change op = _ at hop
      subst hop
      obtain ⟨⟨d, hproc⟩, hs⟩ :=
        stranded_of_recover hD hstep (Dict.get?_of_mem hmem) hheld hpassed
      exact not_stranded_of_recoverable (hall _ hm) hproc id hs
    · next i hop =>
      intro h hi
      change op = _ at hop
      subst hop
      by_contra hlost
      obtain ⟨o, hp⟩ : ∃ o, h.phase = .written o false := by
        rcases hphase : h.phase with _ | _ | _ | _ | _ | ⟨o, _ | _⟩ | _ | _ <;>
          rw [hphase] at hlost <;> first | exact ⟨o, rfl⟩ | exact absurd rfl hlost
      obtain ⟨⟨d, hproc⟩, hs⟩ := stranded_of_done hD hstep hi hp
      exact not_stranded_of_recoverable (hall _ hm) hproc _ hs
    · trivial
  · intro hleaves m hm
    obtain ⟨tr₁, tr₂, rfl⟩ := List.append_of_mem hm
    have hpre : (deployment timeout).Run (tr₁ ++ [m]) m.post := h.split.1.snoc h.split.2
    have hleaves' : ∀ m' ∈ tr₁ ++ [m], LeavesNone timeout m' := by
      intro m' hm'
      refine hleaves m' ?_
      rcases List.mem_append.mp hm' with hm' | hm'
      · exact List.mem_append_left _ hm'
      · rw [List.mem_singleton.mp hm']
        exact hm
    intro hsome id hs
    obtain ⟨⟨d, recovered⟩, hproc⟩ := Option.isSome_iff_exists.mp hsome
    cases recovered with
    | false => exact recoverable_of_booted hproc hsome id hs
    | true => exact absurd hs (not_stranded_of_run hpre hleaves' hproc id)

end Runs

theorem exists_deploymentRun {α : Type} (timeout : Time) (ops : List Operation)
    (f : List (Lts.Move Deployment Operation) × Deployment → α) {a : α}
    (h : (Lts.exec (Deployment.step timeout) ⟨freshCluster, none⟩ ops).map f = some a) :
    ∃ tr D, (deployment timeout).Run tr D ∧ f (tr, D) = a := by
  have hstart : (deployment timeout).start ⟨freshCluster, none⟩ := rfl
  exact Lts.Run.exists_of_exec hstart f h

/-- A daemon that crashes with a task running and is replaced at the given time. -/
def restartOps (now : Time) : List Operation := [
  .start "w1", .recover 0, .run (.enqueue 0 7 "fix the build" 2 1),
  .run (.claim 0 [7] [] (fun _ => 0) 2), .run (.start 0), .run (.markRunning 0 true 3),
  .run (.spawn 0), .crash, .start "w1", .recover now]

/-- Replaced late enough, it leaves no stuck row. -/
theorem recoverable_iff_sample : ∃ tr D, (deployment 30).Run tr D ∧
    (D.cluster.queue.get 1).map Task.status = some .pending ∧
    ∀ m ∈ tr, Recoverable 30 m.post := by
  obtain ⟨tr, D, hrun, hf⟩ := exists_deploymentRun 30 (restartOps 40)
    (fun r => (decide (∀ m ∈ r.1, LeavesNone 30 m), (r.2.cluster.queue.get 1).map Task.status))
    (show _ = some (true, some Status.pending) by decide +kernel)
  rw [Prod.mk.injEq, decide_eq_true_eq] at hf
  exact ⟨tr, D, hrun, hf.2, (recoverable_iff hrun).mpr hf.1⟩

/-- **Replaced at once, it leaves a row stuck**: the recovery at 5 passes over a row
whose heartbeat is at 3, and the process has nothing that would bring it back. -/
theorem recoverable_counterexample :
    ¬∀ tr D, (deployment 30).Run tr D → Recoverable 30 D := by
  intro hall
  obtain ⟨tr, D, hrun, hf⟩ := exists_deploymentRun 30 (restartOps 5)
    (fun r => (r.2.process, (r.2.cluster.queue.get 1).map Task.status,
      decide (∀ h ∈ r.2.cluster.holdings, h.taskID = 1 → h.phase.live = false)))
    (show _ = some (some ⟨1, true⟩, some Status.running, true) by decide +kernel)
  simp only [Prod.mk.injEq, decide_eq_true_eq] at hf
  obtain ⟨hproc, hrow, hidle⟩ := hf
  obtain ⟨row, hget, hst⟩ := Option.map_eq_some_iff.mp hrow
  have hstranded : Stranded 1 D.cluster := ⟨⟨row, hget, by rw [hst]; rfl⟩, hidle⟩
  exact not_stranded_of_recoverable (hall tr D hrun) hproc 1 hstranded

end

end Server
end Shrimp
