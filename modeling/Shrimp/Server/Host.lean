import Shrimp.Lib.Pairing
import Shrimp.Server.Registrations
import Shrimp.Server.Scheduler

/-!
# A daemon at work (`server/daemon.go`)

The scheduler of a daemon together with the queue it polls: what `Claim` answers to
`tick` comes from the table, a task that was claimed is executed by a goroutine, and
the goroutine gives up its slot behind the return of `execute`.  In between the
executions, the handlers and the other daemons move in any order.

## Main definitions

* `Host`, `Host.step`, `host` — the scheduler and the cluster, and the transition
  system.
* `Host.Moves` — what a step does.
* `Staffed` — the slots in use and the executions of the daemon.
* `Host.atWork` — the executions for an agent that have not returned.

## Main results

* `schedulerRun_of_host`, `clusterRun_of_host` — a host is a scheduler and a cluster.
* `staffed_of_run` — the invariant.
* `atWork_le_of_run` — **an agent has no more executions at work than its
  concurrency.**
-/

namespace Shrimp
namespace Server

open Cluster

/-! ### The columns of a request -/

/-- The columns `Enqueue` was asked to write. -/
def Task.request (row : Task) : ℤ × ℤ × String × Time :=
  (row.agentID, row.priority, row.prompt, row.createdAt)

theorem Queue.request_update (q : Queue) (p : ℤ → Task → Bool) {f : Task → Task}
    (hf : ∀ row, (f row).request = row.request) (id : ℤ) :
    ((q.update p f).get id).map Task.request = (q.get id).map Task.request := by
  rw [Queue.get_update, Option.map_map]
  congr 1
  funext row
  change (if p id row then f row else row).request = row.request
  split
  · exact hf row
  · rfl

theorem Queue.request_write (q : Queue) (o : Outcome) (i : ℤ) (now : Time) (id : ℤ) :
    ((o.write q i now).get id).map Task.request = (q.get id).map Task.request := by
  cases o <;> exact request_update q _ (by intro; rfl) id

section

variable {s s' : Cluster}

/-- **A row keeps its request.** -/
theorem request_of_step {ev : Event} (h : s.step ev = some s') {id : ℤ} {row : Task}
    (hrow : s.queue.get id = some row) :
    (s'.queue.get id).map Task.request = some row.request := by
  have hold : (s.queue.get id).map Task.request = some row.request := by
    rw [hrow, Option.map_some]
  have wrote {ok : Bool} {q : Queue}
      (hq : (q.get id).map Task.request = (s.queue.get id).map Task.request) :
      ((s.wrote ok q).get id).map Task.request = some row.request := by
    unfold Cluster.wrote
    split
    · exact hq.trans hold
    · exact hold
  cases ev with
  | boot | shutdown | crash =>
    cases h
    exact hold
  | enqueue lost agentID prompt priority now =>
    cases h
    change ((s.queue.enqueue lost agentID prompt priority now).1.get id).map Task.request = _
    rw [Queue.get_enqueue, if_neg, hold]
    rintro rfl
    rw [Queue.get_of_seq_lt (by omega)] at hrow
    cases hrow
  | claim d agentIDs locked scan now =>
    simp only [step] at h
    split at h
    · cases h
    split at h
    · split at h
      · cases h
        exact hold
      · next q id' task hsome =>
        cases h
        obtain ⟨row', -, rfl, -⟩ := Queue.claim_eq_some_iff.mp hsome
        exact (Queue.request_update s.queue _ (by intro; rfl) id).trans hold
    · cases h
  | start i | spawn i | exit i | done i =>
    obtain ⟨e, -, h⟩ := onExec_eq_some_iff.mp h
    split at h <;> cases h
    exact hold
  | markRunning i ok now =>
    obtain ⟨e, -, h⟩ := onExec_eq_some_iff.mp h
    split at h <;> cases h
    exact wrote (Queue.request_update s.queue _ (by intro; rfl) id)
  | heartbeat i ok now =>
    obtain ⟨e, -, h⟩ := onExec_eq_some_iff.mp h
    split at h
    · cases ok <;> cases h
      · exact hold
      · exact (Queue.request_update s.queue _ (by intro; rfl) id).trans hold
    · cases h
  | honor i =>
    obtain ⟨e, -, h⟩ := onExec_eq_some_iff.mp h
    split at h <;> cases h
    rw [(managerCancel_spec e.daemon e.taskID).1]
    exact hold
  | write i ok now =>
    obtain ⟨e, -, h⟩ := onExec_eq_some_iff.mp h
    split at h <;> cases h
    exact wrote (Queue.request_write s.queue _ e.taskID now id)
  | cancel d id' =>
    cases h
    rw [(managerCancel_spec d id').1]
    exact hold
  | requestCancel id' =>
    simp only [step] at h
    split at h
    · cases h
      exact hold
    · next q row' hq =>
      cases h
      unfold Queue.requestCancel at hq
      split at hq
      · cases hq
      split at hq <;> cases hq
      exact (Queue.request_update s.queue _ (by intro; rfl) id).trans hold
  | recover timeout now =>
    cases h
    exact (Queue.request_update s.queue _ (by intro; rfl) id).trans hold

/-- A row keeps its agent. -/
theorem agentID_of_step {ev : Event} (h : s.step ev = some s') {id : ℤ} {row : Task}
    (hrow : s.queue.get id = some row) :
    ∃ row', s'.queue.get id = some row' ∧ row'.agentID = row.agentID := by
  obtain ⟨row', hrow', heq⟩ := Option.map_eq_some_iff.mp (request_of_step h hrow)
  exact ⟨row', hrow', (Prod.mk.inj heq).1⟩

end

/-- What a `Claim` that returned a task has done. -/
theorem claim_spec {s s' : Cluster} {d : ℕ} {agentIDs locked : List ℤ} {scan : ℤ → ℕ} {now : Time}
    {task : ℤ} (h : s.step (.claim d agentIDs locked scan now) = some s')
    (htask : s.claimed (.claim d agentIDs locked scan now) = some task) :
    ∃ workerID row, s.queue.nextTask agentIDs locked scan = some (task, row) ∧
      s'.queue = s.queue.set task (Queue.claimTask workerID now) ∧
      s'.execs = s.execs ++ [⟨⟨d, task, workerID, .launched⟩, .idle, false⟩] := by
  obtain ⟨dm, hdm, hmap⟩ := Option.bind_eq_some_iff.mp htask
  obtain ⟨⟨q, id, t⟩, hclaim, rfl⟩ := Option.map_eq_some_iff.mp hmap
  obtain ⟨row, hnext, rfl, -⟩ := Queue.claim_eq_some_iff.mp hclaim
  refine ⟨dm.workerID, row, hnext, ?_⟩
  simp only [step, hdm, hclaim] at h
  split at h <;> cases h
  exact ⟨rfl, rfl⟩

/-- The task it returned was pending, and for an agent it was asked for. -/
theorem pending_of_nextTask {q : Queue} {agentIDs locked : List ℤ} {scan : ℤ → ℕ} {task : ℤ}
    {row : Task} (h : q.nextTask agentIDs locked scan = some (task, row)) :
    q.get task = some row ∧ row.status = .pending ∧ row.agentID ∈ agentIDs := by
  obtain ⟨hrow, hcl, -⟩ := Queue.nextTask_eq_some_iff.mp h
  simp only [Queue.claimable, decide_eq_true_eq] at hcl
  exact ⟨hrow, hcl.1, hcl.2.1⟩

theorem eq_of_noTask {s s' : Cluster} {d : ℕ} {agentIDs locked : List ℤ} {scan : ℤ → ℕ}
    {now : Time} (h : s.step (.claim d agentIDs locked scan now) = some s')
    (hnone : s.claimed (.claim d agentIDs locked scan now) = none) : s' = s := by
  cases hdm : s.daemons[d]? with
  | none => simp [Cluster.step, hdm] at h
  | some dm =>
    simp only [Cluster.claimed, hdm, Option.bind_some, Option.map_eq_none_iff] at hnone
    simp only [Cluster.step, hdm, hnone] at h
    split at h <;> cases h
    rfl

theorem orderly_of_ne_recover {late : Bool} {m : Lts.Move Cluster Event}
    (hm : ∀ timeout now, m.label ≠ .recover timeout now) : OrderlyRecovery late m := by
  intro i h₀ hi hlast hresets
  unfold Cluster.resets at hresets
  split at hresets
  · next timeout now hlabel => exact absurd hlabel (hm timeout now)
  · cases hresets

/-! ### The scheduler and the cluster -/

/-- The task the loop has claimed and not launched. -/
def Loop.ticket : Loop → Option Goroutine
  | .claimed a _ _ task _ | .counted a _ _ task _ | .published a _ _ task _ => some ⟨task, a⟩
  | _ => none

/-- The claimed tasks that have `removeInflight` ahead of them. -/
def Scheduler.owned (s : Scheduler) : List Goroutine := s.goroutines ++ s.loop.ticket.toList

/-- What `Claim` returns to the loop. -/
def Cluster.answer (s : Cluster) (ev : Event) : ClaimResult :=
  match s.claimed ev with
  | some id => .task id
  | none => .noTask

/-- A daemon of the cluster and its scheduler. -/
structure Host where
  cluster : Cluster
  /-- The daemon, by its place in the cluster. -/
  daemon : ℕ
  scheduler : Scheduler
  /-- The executions of the claimed tasks that have `removeInflight` ahead of them, by
  their places in the cluster. -/
  places : List ℕ

/-- The steps. -/
inductive Host.Act
  /-- A step of an execution or a handler, or of another daemon. -/
  | run (ev : Event)
  /-- `Claim` returns to the loop, with a task or with `ErrNoTask`. -/
  | claim (locked : List ℤ) (scan : ℤ → ℕ) (now : Time)
  /-- Another statement of the loop. -/
  | loop (op : Op)
  /-- A goroutine runs the deferred `removeInflight`. -/
  | finish (k : ℕ)

namespace Host

variable (h : Host)

/-- The root context of the daemon is done. -/
def stopping : Bool := (h.cluster.daemons[h.daemon]?).any Daemon.stopping

/-- The steps others may take: a goroutine starts when it has been launched. -/
def permits : Event → Bool
  | .claim d _ _ _ _ | .crash d => d ≠ h.daemon
  | .start i => i ∈ h.places → i ∈ h.places.take h.scheduler.goroutines.length
  | _ => true

/-- The statements of the loop that are no answer of the queue. -/
def own : Op → Bool
  | .claim r => r = .error
  | .finish _ => false
  | .stop => h.stopping
  | _ => true

/-- **One step.** -/
def step (reg : Registry) : Host.Act → Option Host
  | .run ev =>
    if h.permits ev then (h.cluster.step ev).map fun c => { h with cluster := c } else none
  | .claim locked scan now =>
    match h.scheduler.loop with
    | .claiming a _ _ _ =>
      let ev := .claim h.daemon [a.id] locked scan now
      (h.cluster.step ev).bind fun c =>
        (h.scheduler.step reg (.claim (h.cluster.answer ev))).map fun s =>
          { h with
            cluster := c
            scheduler := s
            places := if (h.cluster.claimed ev).isSome then h.places ++ [h.cluster.execs.length]
              else h.places }
    | _ => none
  | .loop op =>
    if h.own op then (h.scheduler.step reg op).map fun s => { h with scheduler := s } else none
  | .finish k =>
    match h.places[k]? with
    | none => none
    | some i =>
      -- `removeInflight` is deferred in front of `execute`
      if (h.cluster.execs[i]?).any fun e => e.phase = .ended then
        (h.scheduler.step reg (.finish k)).map fun s =>
          { h with scheduler := s, places := h.places.eraseIdx k }
      else none

end Host

/-- A daemon that `NewDaemon` has added to the cluster, as a transition system. -/
def host (configs : List (AgentConfig × ℤ)) (s : Cluster) : Lts Host Host.Act :=
  Lts.ofStep (fun h => ∃ workerID c, s.step (.boot workerID) = some c ∧
    h = ⟨c, s.daemons.length, {}, []⟩) fun h => h.step (Registry.sync configs)

section

variable {reg : Registry} {h h' : Host}

/-- What a step labelled so does. -/
inductive Host.Moves (reg : Registry) (h h' : Host) : Host.Act → Prop
  | run {ev : Event} (c : Cluster) (hev : h.permits ev = true) (hc : h.cluster.step ev = some c)
      (hh : h' = { h with cluster := c }) : Moves reg h h' (.run ev)
  | claimed {locked : List ℤ} {scan : ℤ → ℕ} {now : Time} (c : Cluster) (a : Agent)
      (free i task : ℤ) (todo : List Agent) (hloop : h.scheduler.loop = .claiming a free i todo)
      (hlt : i < free) (hc : h.cluster.step (.claim h.daemon [a.id] locked scan now) = some c)
      (htask : h.cluster.claimed (.claim h.daemon [a.id] locked scan now) = some task)
      (hh : h' = { h with
        cluster := c
        scheduler := { h.scheduler with loop := .claimed a free i task todo }
        places := h.places ++ [h.cluster.execs.length] }) : Moves reg h h' (.claim locked scan now)
  | noTask {locked : List ℤ} {scan : ℤ → ℕ} {now : Time} (c : Cluster) (a : Agent)
      (free i : ℤ) (todo : List Agent) (hloop : h.scheduler.loop = .claiming a free i todo)
      (hlt : i < free) (hc : h.cluster.step (.claim h.daemon [a.id] locked scan now) = some c)
      (hnone : h.cluster.claimed (.claim h.daemon [a.id] locked scan now) = none)
      (hh : h' = { h with
        cluster := c
        scheduler := { h.scheduler with loop := .visiting todo } }) :
      Moves reg h h' (.claim locked scan now)
  | loop {op : Op} (s : Scheduler) (hop : h.own op = true) (hs : h.scheduler.step reg op = some s)
      (hh : h' = { h with scheduler := s }) : Moves reg h h' (.loop op)
  | finish {k : ℕ} (i : ℕ) (e : Exec) (s : Scheduler) (hi : h.places[k]? = some i)
      (he : h.cluster.execs[i]? = some e) (hended : e.phase = .ended)
      (hs : h.scheduler.step reg (.finish k) = some s)
      (hh : h' = { h with scheduler := s, places := h.places.eraseIdx k }) :
      Moves reg h h' (.finish k)

/-- **Every step is one of these.** -/
theorem Host.step_cases {a : Host.Act} (hstep : h.step reg a = some h') : Moves reg h h' a := by
  cases a with
  | run ev =>
    simp only [Host.step] at hstep
    split at hstep
    · next hev =>
      obtain ⟨c, hc, rfl⟩ := Option.map_eq_some_iff.mp hstep
      exact .run c hev hc rfl
    · cases hstep
  | claim locked scan now =>
    simp only [Host.step] at hstep
    split at hstep
    · next a free i todo hloop =>
      obtain ⟨c, hc, hstep⟩ := Option.bind_eq_some_iff.mp hstep
      obtain ⟨s, hs, rfl⟩ := Option.map_eq_some_iff.mp hstep
      simp only [Scheduler.step, hloop] at hs
      split at hs
      · next hlt =>
        rw [Cluster.answer] at hs
        cases hclaimed : h.cluster.claimed (.claim h.daemon [a.id] locked scan now) with
        | some task =>
          rw [hclaimed] at hs
          cases hs
          exact .claimed c a free i task todo hloop hlt hc hclaimed (by simp)
        | none =>
          rw [hclaimed] at hs
          cases hs
          exact .noTask c a free i todo hloop hlt hc hclaimed (by simp)
      · cases hs
    · cases hstep
  | loop op =>
    simp only [Host.step] at hstep
    split at hstep
    · next hop =>
      obtain ⟨s, hs, rfl⟩ := Option.map_eq_some_iff.mp hstep
      exact .loop s hop hs rfl
    · cases hstep
  | finish k =>
    simp only [Host.step] at hstep
    split at hstep
    · cases hstep
    · next i hi =>
      split at hstep
      · next hended =>
        obtain ⟨e, he, hended⟩ := (Option.any_eq_true _ _).mp hended
        obtain ⟨s, hs, rfl⟩ := Option.map_eq_some_iff.mp hstep
        exact .finish i e s hi he (of_decide_eq_true hended) hs rfl
      · cases hstep

/-- The step of the scheduler behind a step. -/
def Host.op (h : Host) : Host.Act → Option Op
  | .run _ => none
  | .claim locked scan now =>
    match h.scheduler.loop with
    | .claiming a _ _ _ =>
      some (.claim (h.cluster.answer (.claim h.daemon [a.id] locked scan now)))
    | _ => none
  | .loop op => some op
  | .finish k => some (.finish k)

/-- The step of the cluster behind a step. -/
def Host.event (h : Host) : Host.Act → Option Event
  | .run ev => some ev
  | .claim locked scan now =>
    match h.scheduler.loop with
    | .claiming a _ _ _ => some (.claim h.daemon [a.id] locked scan now)
    | _ => none
  | .loop _ | .finish _ => none

/-- The moves of the cluster in the run of a host. -/
def hostMoves (tr : List (Lts.Move Host Host.Act)) : List (Lts.Move Cluster Event) :=
  tr.filterMap fun m => (m.pre.event m.label).map fun ev => ⟨m.pre.cluster, ev, m.post.cluster⟩

/-- **A host is a scheduler.** -/
theorem schedulerRun_of_host {configs : List (AgentConfig × ℤ)} {s : Cluster}
    {tr : List (Lts.Move Host Host.Act)} (hrun : (host configs s).Run tr h) :
    ∃ tr', (scheduler configs).Run tr' h.scheduler := by
  refine ⟨_, hrun.filterMap (T := scheduler configs) Host.scheduler Host.op ?_ ?_⟩
  · rintro h ⟨workerID, c, -, rfl⟩
    rfl
  · intro h a h' hstep
    cases Host.step_cases hstep with
    | run c hev hc hh => exact .inr ⟨rfl, by rw [hh]⟩
    | claimed c b free i task todo hloop hlt hc htask hh =>
      refine .inl ⟨.claim (.task task), ?_, ?_⟩
      · simp [Host.op, hloop, Cluster.answer, htask]
      · rw [hh]
        change Scheduler.step _ _ _ = _
        simp [Scheduler.step, hloop, hlt]
    | noTask c b free i todo hloop hlt hc hnone hh =>
      refine .inl ⟨.claim .noTask, ?_, ?_⟩
      · simp [Host.op, hloop, Cluster.answer, hnone]
      · rw [hh]
        change Scheduler.step _ _ _ = _
        simp [Scheduler.step, hloop, hlt]
    | loop s hop hs hh => exact .inl ⟨_, rfl, by rw [hh]; exact hs⟩
    | finish i e s hi he hended hs hh => exact .inl ⟨_, rfl, by rw [hh]; exact hs⟩

theorem Host.Moves.cluster {a : Host.Act} (hm : Host.Moves reg h h' a) :
    (∃ ev, h.event a = some ev ∧ h.cluster.step ev = some h'.cluster) ∨
      h.event a = none ∧ h'.cluster = h.cluster := by
  cases hm with
  | run c hev hc hh => exact .inl ⟨_, rfl, by rw [hh]; exact hc⟩
  | @claimed locked scan now c b free i task todo hloop hlt hc htask hh =>
    refine .inl ⟨.claim h.daemon [b.id] locked scan now, ?_, by rw [hh]; exact hc⟩
    simp [Host.event, hloop]
  | @noTask locked scan now c b free i todo hloop hlt hc hnone hh =>
    refine .inl ⟨.claim h.daemon [b.id] locked scan now, ?_, by rw [hh]; exact hc⟩
    simp [Host.event, hloop]
  | loop s hop hs hh => exact .inr ⟨rfl, by rw [hh]⟩
  | finish i e s hi he hended hs hh => exact .inr ⟨rfl, by rw [hh]⟩

/-- **A host is a cluster**, from the start of its daemon on. -/
theorem clusterRun_of_host {configs : List (AgentConfig × ℤ)} {s : Cluster}
    {tr₀ : List (Lts.Move Cluster Event)} (hrun₀ : cluster.Run tr₀ s)
    {tr : List (Lts.Move Host Host.Act)} (hrun : (host configs s).Run tr h) :
    ∃ m : Lts.Move Cluster Event, (∃ workerID, m.label = .boot workerID) ∧
      cluster.Run (tr₀ ++ m :: hostMoves tr) h.cluster := by
  refine hrun.invariant (I := fun tr h => ∃ m : Lts.Move Cluster Event,
    (∃ workerID, m.label = .boot workerID) ∧
      cluster.Run (tr₀ ++ m :: hostMoves tr) h.cluster) ?_ ?_
  · rintro h ⟨workerID, c, hc, rfl⟩
    exact ⟨⟨s, .boot workerID, c⟩, ⟨workerID, rfl⟩, hrun₀.snoc hc⟩
  · rintro tr h a h' - ⟨m, hboot, ih⟩ hstep
    refine ⟨m, hboot, ?_⟩
    rw [hostMoves, List.filterMap_append, ← hostMoves, ← List.cons_append, ← List.append_assoc]
    rcases (Host.step_cases hstep).cluster with ⟨ev, hev, hc⟩ | ⟨hev, hc⟩
    · rw [List.filterMap_cons, hev]
      exact ih.snoc hc
    · rw [List.filterMap_cons, hev, hc]
      simpa using ih

/-! ### The slots and the executions -/

/-- An execution of the daemon works on the task of a slot. -/
structure Serves (c : Cluster) (d i : ℕ) (g : Goroutine) : Prop where
  exec : ∃ e, c.execs[i]? = some e ∧ e.daemon = d ∧ e.taskID = g.task
  row : ∃ row, c.queue.get g.task = some row ∧ row.agentID = g.agent.id

/-- **The slots in use are those of the executions that have not returned.** -/
structure Staffed (h : Host) : Prop where
  serves : List.Forall₂ (Serves h.cluster h.daemon) h.places h.scheduler.owned
  distinct : h.places.Nodup
  /-- An execution without a slot has returned. -/
  left : ∀ (i : ℕ) (e : Exec), h.cluster.execs[i]? = some e → e.daemon = h.daemon →
    i ∈ h.places ∨ e.phase = .ended

theorem Serves.of_step {c c' : Cluster} {ev : Event} (hstep : c.step ev = some c') {d i : ℕ}
    {g : Goroutine} (hs : Serves c d i g) : Serves c' d i g := by
  obtain ⟨e, he, hd, ht⟩ := hs.exec
  obtain ⟨row, hrow, hagent⟩ := hs.row
  obtain ⟨e', he', hf⟩ := exists_follows hstep he
  obtain ⟨row', hrow', hagent'⟩ := agentID_of_step hstep hrow
  exact ⟨⟨e', he', hf.daemon.trans hd, hf.taskID.trans ht⟩, ⟨row', hrow', hagent'.trans hagent⟩⟩

/-- A statement of the loop that is no answer of the queue leaves the slots. -/
theorem owned_of_loop {s s' : Scheduler} {op : Op} (hop : h.own op = true)
    (hs : s.step reg op = some s') : s'.owned = s.owned := by
  cases op with
  | tick all =>
    simp only [Scheduler.step] at hs
    split at hs
    · next hloop =>
      split at hs <;> cases hs
      simp [Scheduler.owned, hloop, Loop.ticket]
    · cases hs
  | stop | publish =>
    simp only [Scheduler.step] at hs
    split at hs <;> cases hs
    next hloop => simp [Scheduler.owned, hloop, Loop.ticket]
  | visit =>
    simp only [Scheduler.step] at hs
    split at hs <;> cases hs <;> next hloop => simp [Scheduler.owned, hloop, Loop.ticket]
  | claim r =>
    obtain rfl : r = .error := by simpa [Host.own] using hop
    simp only [Scheduler.step] at hs
    split at hs
    · next hloop =>
      split at hs <;> cases hs
      simp [Scheduler.owned, hloop, Loop.ticket]
    · cases hs
  | leave =>
    simp only [Scheduler.step] at hs
    split at hs
    · next hloop =>
      split at hs <;> cases hs
      simp [Scheduler.owned, hloop, Loop.ticket]
    · cases hs
  | add =>
    simp only [Scheduler.step] at hs
    split at hs <;> cases hs
    next hloop => simp [Scheduler.owned, hloop, Loop.ticket, Scheduler.addInflight]
  | launch =>
    simp only [Scheduler.step] at hs
    split at hs <;> cases hs
    next hloop => simp [Scheduler.owned, hloop, Loop.ticket]
  | finish k => simp [Host.own] at hop

theorem Staffed.left_of_follows (hS : Staffed h) {ev : Event} (hcrash : ev ≠ .crash h.daemon)
    {i : ℕ} {e e' : Exec} (hi : h.cluster.execs[i]? = some e) (hf : Exec.Follows ev e e')
    (hd : e'.daemon = h.daemon) : i ∈ h.places ∨ e'.phase = .ended := by
  refine (hS.left i e hi (hf.daemon.symm.trans hd)).imp_right fun hended => ?_
  refine (hf.ended hended).resolve_right fun hcrashed => ?_
  rcases hf.crash hcrashed with heq | heq
  · rw [hended] at heq
    cases heq
  · exact hcrash (by rw [heq, ← hd, hf.daemon])

/-- **A step of another** takes no execution of the daemon from its slot. -/
theorem Staffed.run (hS : Staffed h) {c : Cluster} {ev : Event} (hev : h.permits ev = true)
    (hc : h.cluster.step ev = some c) : Staffed { h with cluster := c } where
  serves := hS.serves.imp fun _ _ hs => hs.of_step hc
  distinct := hS.distinct
  left i e' hi hd := by
    rcases follows_of_step hc hi with ⟨e, he, hf⟩ | ⟨-, -, ⟨_, _, _, _, rfl⟩, -⟩
    · refine hS.left_of_follows ?_ he hf hd
      rintro rfl
      simp [Host.permits] at hev
    · exact absurd hd (by simpa [Host.permits] using hev)

/-- **A claim** that returned a task has put its execution into a slot. -/
theorem Staffed.claimed (hS : Staffed h) {locked : List ℤ} {scan : ℤ → ℕ} {now : Time}
    {c : Cluster} {a : Agent} {free i task : ℤ} {todo : List Agent}
    (hloop : h.scheduler.loop = .claiming a free i todo)
    (hc : h.cluster.step (.claim h.daemon [a.id] locked scan now) = some c)
    (htask : h.cluster.claimed (.claim h.daemon [a.id] locked scan now) = some task) :
    Staffed { h with
      cluster := c
      scheduler := { h.scheduler with loop := .claimed a free i task todo }
      places := h.places ++ [h.cluster.execs.length] } := by
  -- the row that was claimed is one of the agent
  obtain ⟨workerID, row, hnext, -, hexecs⟩ := claim_spec hc htask
  obtain ⟨hrow, -, hagent⟩ := pending_of_nextTask hnext
  rw [List.mem_singleton] at hagent
  obtain ⟨row', hrow', hagent'⟩ := agentID_of_step hc hrow
  have hnew : Serves c h.daemon h.cluster.execs.length ⟨task, a⟩ :=
    ⟨⟨_, by rw [hexecs, List.getElem?_concat_length], rfl, rfl⟩,
      ⟨row', hrow', hagent'.trans hagent⟩⟩
  constructor
  case serves =>
    have howned : h.scheduler.owned = h.scheduler.goroutines := by
      simp [Scheduler.owned, hloop, Loop.ticket]
    change List.Forall₂ _ _ (h.scheduler.goroutines ++ [⟨task, a⟩])
    rw [← howned]
    exact List.rel_append (hS.serves.imp fun _ _ hs => hs.of_step hc) (.cons hnew .nil)
  case distinct =>
    refine List.nodup_append.mpr ⟨hS.distinct, List.nodup_singleton _, ?_⟩
    rintro i hi j hj rfl
    obtain rfl := List.mem_singleton.mp hj
    obtain ⟨g, -, hs⟩ := hS.serves.exists_of_mem hi
    obtain ⟨e, he, -⟩ := hs.exec
    exact absurd (List.getElem?_eq_some_iff.mp he).1 (by simp)
  case left =>
    intro i e' hi hd
    rcases follows_of_step hc hi with ⟨e, he, hf⟩ | ⟨rfl, -⟩
    · exact (hS.left_of_follows (by simp) he hf hd).imp_left (List.mem_append_left _)
    · exact .inl (List.mem_append_right _ (List.mem_singleton_self _))

/-- **The step lemma.** -/
theorem staffed_of_step (hS : Staffed h) {a : Host.Act} (hm : Host.Moves reg h h' a) :
    Staffed h' := by
  cases hm with
  | run c hev hc hh => exact hh ▸ hS.run hev hc
  | claimed c b free i task todo hloop hlt hc htask hh => exact hh ▸ hS.claimed hloop hc htask
  | @noTask locked scan now c b free i todo hloop hlt hc hnone hh =>
    have hsame := eq_of_noTask hc hnone
    rw [hh, hsame]
    refine ⟨?_, hS.distinct, hS.left⟩
    have hserves := hS.serves
    simpa [Scheduler.owned, hloop, Loop.ticket] using hserves
  | loop s hop hs hh =>
    rw [hh]
    refine ⟨?_, hS.distinct, hS.left⟩
    rw [owned_of_loop hop hs]
    exact hS.serves
  | @finish k i e s hi he hended hs hh =>
    rw [hh]
    simp only [Scheduler.step] at hs
    split at hs
    · next g hk =>
      cases hs
      have hlt := (List.getElem?_eq_some_iff.mp hk).1
      refine ⟨?_, hS.distinct.eraseIdx k, fun j e' hj hd => ?_⟩
      · have howned : ({ h.scheduler.removeInflight g.agent.id with
            goroutines := h.scheduler.goroutines.eraseIdx k } : Scheduler).owned =
            h.scheduler.owned.eraseIdx k := by
          rw [Scheduler.owned, Scheduler.owned, List.eraseIdx_append_of_lt_length hlt]
          congr 2
          unfold Scheduler.removeInflight
          split <;> rfl
        rw [howned]
        exact hS.serves.eraseIdx k
      · by_cases hji : j = i
        · subst hji
          obtain rfl := Option.some.inj (he.symm.trans hj)
          exact .inr hended
        · refine (hS.left j e' hj hd).imp_left fun hin => ?_
          obtain ⟨k', hk'⟩ := List.mem_iff_getElem?.mp hin
          refine List.mem_eraseIdx_iff_getElem?.mpr ⟨k', ?_, hk'⟩
          rintro rfl
          exact hji (Option.some.inj (hk'.symm.trans hi))
    · cases hs

/-- **The run lemma.** -/
theorem staffed_of_run {configs : List (AgentConfig × ℤ)} {s : Cluster}
    {tr₀ : List (Lts.Move Cluster Event)} (hrun₀ : cluster.Run tr₀ s)
    {tr : List (Lts.Move Host Host.Act)} (hrun : (host configs s).Run tr h) : Staffed h := by
  refine hrun.invariant (I := fun _ h => Staffed h) ?_ fun _ _ _ _ _ hS hstep =>
    staffed_of_step hS (Host.step_cases hstep)
  rintro h ⟨workerID, c, hc, rfl⟩
  cases hc
  refine ⟨.nil, List.nodup_nil, fun i e hi hd => ?_⟩
  -- the daemon is new, so nobody works for it yet
  obtain ⟨dm, hdm, -⟩ := placed_of_run hrun₀ i e hi
  have hlt := (List.getElem?_eq_some_iff.mp hdm).1
  rw [hd] at hlt
  exact absurd hlt (Nat.lt_irrefl _)

/-! ### The executions at work -/

/-- The executions of the daemon for an agent that have neither returned nor crashed. -/
def Host.atWork (h : Host) (agentID : ℤ) : List ℕ :=
  (List.range h.cluster.execs.length).filter fun i =>
    (h.cluster.execs[i]?).any fun e => e.daemon = h.daemon ∧ e.phase.live ∧
      (h.cluster.queue.get e.taskID).any fun row => row.agentID = agentID

theorem Host.mem_atWork_iff {agentID : ℤ} {i : ℕ} : i ∈ h.atWork agentID ↔
    ∃ e, h.cluster.execs[i]? = some e ∧ e.daemon = h.daemon ∧ e.phase.live ∧
      ∃ row, h.cluster.queue.get e.taskID = some row ∧ row.agentID = agentID := by
  rw [Host.atWork, List.mem_filter, List.mem_range, Option.any_eq_true]
  constructor
  · rintro ⟨-, e, he, hp⟩
    simp only [decide_eq_true_eq, Option.any_eq_true] at hp
    exact ⟨e, he, hp⟩
  · rintro ⟨e, he, hp⟩
    refine ⟨(List.getElem?_eq_some_iff.mp he).1, e, he, ?_⟩
    simp only [decide_eq_true_eq, Option.any_eq_true]
    exact hp

/-- The tasks with a slot of an agent are no more than its concurrency. -/
theorem Counted.owned_le {s : Scheduler} (hC : Counted reg s) {id : ℤ} {a : Agent}
    (ha : reg.get? id = some a) :
    ((s.owned.countP fun g => g.agent.id = id : ℕ) : ℤ) ≤ a.config.maxConcurrentTasks := by
  have hcount := hC.count id
  have hbound := hC.bound id a ha
  rw [Scheduler.owned, List.countP_append, ← Scheduler.live]
  cases hloop : s.loop with
  | waiting | visiting todo | claiming b free i todo | stopped =>
    simp only [hloop, Loop.reserved] at hcount
    simp only [Loop.ticket, Option.toList_none, List.countP_nil]
    omega
  | counted b free i task todo | published b free i task todo =>
    simp only [hloop, Loop.reserved] at hcount
    simp only [Loop.ticket, Option.toList_some, List.countP_singleton, decide_eq_true_eq]
    omega
  | claimed b free i task todo =>
    -- a task that was claimed and is not counted yet takes one of the free slots
    obtain ⟨hb, hroom⟩ := hC.current b (free - i) (by rw [hloop]; rfl)
    have hlt := hC.claimed b free i task todo hloop
    simp only [hloop, Loop.reserved] at hcount
    simp only [Loop.ticket, Option.toList_some, List.countP_singleton, decide_eq_true_eq]
    split
    · next hid =>
      subst hid
      rw [ha] at hb
      cases hb
      omega
    · omega

/-- The counters of a scheduler's run. -/
theorem counted_of_run {configs : List (AgentConfig × ℤ)} {tr : List (Lts.Move Scheduler Op)}
    {s : Scheduler} (hrun : (scheduler configs).Run tr s) :
    Counted (Registry.sync configs) s := by
  refine hrun.invariant (I := fun _ s => Counted (Registry.sync configs) s) ?_
    fun _ _ _ _ _ hC hstep => counted_of_step (registered_sync configs) hC hstep
  rintro s rfl
  exact counted_init (registered_sync configs)

/-- **An agent has no more executions at work than its concurrency**, whatever the
queue answers and whatever becomes of the tasks. -/
theorem atWork_le_of_run {configs : List (AgentConfig × ℤ)} {s : Cluster}
    {tr₀ : List (Lts.Move Cluster Event)} (hrun₀ : cluster.Run tr₀ s)
    {tr : List (Lts.Move Host Host.Act)} (hrun : (host configs s).Run tr h) {id : ℤ} {a : Agent}
    (ha : (Registry.sync configs).get? id = some a) :
    ((h.atWork id).length : ℤ) ≤ a.config.maxConcurrentTasks := by
  have hS := staffed_of_run hrun₀ hrun
  obtain ⟨_, hsched⟩ := schedulerRun_of_host hrun
  refine le_trans (Int.ofNat_le.mpr ?_) ((counted_of_run hsched).owned_le ha)
  refine hS.serves.length_le_countP (List.nodup_range.filter _) (fun i hi => ?_) fun i hi g hs => ?_
  · obtain ⟨e, he, hd, hlive, -⟩ := Host.mem_atWork_iff.mp hi
    refine (hS.left i e he hd).resolve_right fun hended => ?_
    rw [hended] at hlive
    cases hlive
  · obtain ⟨e, he, -, -, row, hrow, hagent⟩ := Host.mem_atWork_iff.mp hi
    obtain ⟨e', he', -, ht⟩ := hs.exec
    obtain ⟨row', hrow', hagent'⟩ := hs.row
    obtain rfl := Option.some.inj (he.symm.trans he')
    rw [ht, hrow'] at hrow
    cases hrow
    exact decide_eq_true (hagent'.symm.trans hagent)

/-- What is executed from a daemon on the fresh cluster is a run. -/
theorem exists_hostRun {α : Type} (acts : List Host.Act)
    (f : List (Lts.Move Host Host.Act) × Host → α) {a : α}
    (h : (Lts.exec (fun h => h.step (Registry.sync sampleAgents))
      ⟨⟨.empty, [⟨"w1", ∅, false, true⟩], []⟩, 0, {}, []⟩ acts).map f = some a) :
    ∃ tr h, (host sampleAgents freshCluster).Run tr h ∧ f (tr, h) = a := by
  have hstart : (host sampleAgents freshCluster).start
      ⟨⟨.empty, [⟨"w1", ∅, false, true⟩], []⟩, 0, {}, []⟩ := ⟨"w1", _, rfl, rfl⟩
  exact Lts.Run.exists_of_exec hstart f h

/-- Two tasks of an agent that takes one at a time, and a tick. -/
def tickActs : List Host.Act := [
  .run (.enqueue 0 1 "fix the build" 2 1), .run (.enqueue 0 1 "write the notes" 1 2),
  .loop (.tick [sampleAgent]), .loop .visit, .claim [] (fun _ => 0) 3, .loop .add,
  .loop .publish, .loop .launch, .loop .leave, .loop .visit]

theorem atWork_le_of_run_sample : ∃ tr h, (host sampleAgents freshCluster).Run tr h ∧
    (h.cluster.queue.get 1).map Task.status = some .pending ∧ h.atWork 1 = [0] ∧
    ((h.atWork 1).length : ℤ) ≤ sampleAgent.config.maxConcurrentTasks := by
  obtain ⟨tr, h, hrun, hf⟩ := exists_hostRun tickActs
    (fun r => ((r.2.cluster.queue.get 1).map Task.status, r.2.atWork 1))
    (show _ = some (some Status.pending, [0]) by decide +kernel)
  obtain ⟨hstatus, hwork⟩ := Prod.mk.inj hf
  exact ⟨tr, h, hrun, hstatus, hwork, atWork_le_of_run (.start rfl) hrun (by decide +kernel)⟩

end

end Server
end Shrimp
