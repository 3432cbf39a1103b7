import Shrimp.Lib.Run
import Shrimp.Server.Queue

/-!
# Daemons and executions (`server/daemon.go`, `server/task/context.go`)

Any number of daemons share one queue.  A `Claim` that returns a task launches
one execution of it, the goroutine of `execute`, and from then on the execution,
its heartbeat goroutine, the API and the other daemons move in any order.  A
label is one atomic step of one of them; a label of a database write carries
whether the write reached the table, an error leaving it as it was.

`MarkRunning` and the terminal write are issued whatever became of the row in
the meantime: an execution looks at its own phase only.

## Main definitions

* `Phase`, `Exec` — where an execution is in `execute`, and its context.
* `Daemon` — a daemon's worker id and its `task.Manager`.
* `Cluster.step`, `cluster` — one step, and the transition system.
* `Effect` — what a step does to the rows and to the phases.

## Main results

* `effect_of_step` — **every step is one of the effects**; the invariants are
  proved of the effects.
-/

namespace Shrimp
namespace Server

/-! ### Executions -/

/-- The terminal write an execution has decided on. -/
inductive Outcome
  | completed (result : String)
  | failed (errMsg partialResult : String)
  | canceled (partialResult : String)
  deriving DecidableEq

namespace Outcome

/-- The status the write stores. -/
def status : Outcome → Status
  | completed _ => .completed
  | failed _ _ => .failed
  | canceled _ => .canceled

/-- The write: `Complete`, `Fail` or `Canceled`. -/
def write (q : Queue) (id : ℤ) (now : Time) : Outcome → Queue
  | completed result => q.complete id result now
  | failed errMsg partialResult => q.fail id errMsg partialResult now
  | canceled partialResult => q.canceled id partialResult now

/-- The terminal switch of `execute`, on what `Runner.Run` returned and on
`ctx.Err() != nil`. -/
def ofRun (result : String) (err : Option String) (ctxErr : Bool) : Outcome :=
  match err with
  | none => completed result
  | some msg => if ctxErr then canceled result else failed msg result

end Outcome

/-- Where a claimed task's goroutine is. -/
inductive Phase
  /-- `tick` has claimed the task and launched the goroutine. -/
  | launched
  /-- `Manager.Start` has registered it. -/
  | started
  /-- `MarkRunning` has returned, with an error or without. -/
  | marked
  /-- The child process runs. -/
  | running
  /-- `Runner.Run` has returned and the terminal write is decided. -/
  | finishing (o : Outcome)
  /-- The terminal write has returned, without an error or with one. -/
  | written (o : Outcome) (ok : Bool)
  /-- `execute` has returned. -/
  | ended
  /-- Its daemon crashed. -/
  | crashed
  deriving DecidableEq

/-- The heartbeat goroutine: not started, ticking, told to cancel by its last
tick, or returned. -/
inductive Pulse
  | idle | ticking | canceling | stopped
  deriving DecidableEq

/-- A claim in the hands of an execution. -/
structure Holding where
  /-- The daemon, by its place in the cluster. -/
  daemon : ℕ
  taskID : ℤ
  /-- The worker id the claim was made under. -/
  workerID : String
  phase : Phase

/-- An execution. -/
structure Exec extends Holding where
  pulse : Pulse
  /-- Its own context has been canceled. -/
  ctxDone : Bool

/-- A daemon. -/
structure Daemon where
  /-- `cfg.WorkerID`. -/
  workerID : String
  /-- `Manager.cancels`: the execution whose context a task id cancels. -/
  cancels : Dict ℤ ℕ
  /-- The root context is done. -/
  stopping : Bool
  /-- The process has not crashed. -/
  up : Bool

/-- The shared queue, the daemons, and every execution a claim has launched. -/
structure Cluster where
  queue : Queue
  daemons : List Daemon
  execs : List Exec

/-! ### Steps -/

/-- The labels. -/
inductive Event
  /-- `NewDaemon`. -/
  | boot (workerID : String)
  | enqueue (lost : ℕ) (agentID : ℤ) (prompt : String) (priority : ℤ) (now : Time)
  /-- `tick`: a `Claim`, and the goroutine of the task it returned. -/
  | claim (daemon : ℕ) (agentIDs locked : List ℤ) (scan : ℤ → ℕ) (now : Time)
  /-- `Manager.Start`. -/
  | start (exec : ℕ)
  | markRunning (exec : ℕ) (ok : Bool) (now : Time)
  | heartbeat (exec : ℕ) (ok : Bool) (now : Time)
  /-- `mgr.Cancel(id)`, after a heartbeat that was answered with a cancel. -/
  | honor (exec : ℕ)
  /-- `cmd.Start` of the child process. -/
  | spawn (exec : ℕ)
  /-- `Runner.Run` returns. -/
  | exit (exec : ℕ) (result : String) (err : Option String)
  /-- `Complete`, `Fail` or `Canceled`, whichever was decided. -/
  | write (exec : ℕ) (ok : Bool) (now : Time)
  /-- The deferred `done()` of `Manager.Start`, and the return of `execute`. -/
  | done (exec : ℕ)
  /-- The first half of `CancelTask`; `requestCancel` is the second. -/
  | cancel (daemon : ℕ) (id : ℤ)
  | requestCancel (id : ℤ)
  | recover (timeout now : Time)
  /-- The root context of a daemon is canceled. -/
  | shutdown (daemon : ℕ)
  | crash (daemon : ℕ)

namespace Cluster

variable (s : Cluster)

/-- Replace execution `i`. -/
def setExec (i : ℕ) (e : Exec) : Cluster := { s with execs := s.execs.set i e }

/-- `Manager.Cancel`: cancel the context registered under a task id. -/
def managerCancel (d : ℕ) (id : ℤ) : Cluster :=
  match s.daemons[d]? with
  | none => s
  | some dm =>
    match dm.cancels.get? id with
    | none => s
    | some j =>
      match s.execs[j]? with
      | none => s
      | some e => s.setExec j { e with ctxDone := true }

/-- `ctx.Err() != nil` in an execution: its own context or its daemon's. -/
def ctxErr (e : Exec) : Bool := e.ctxDone || (s.daemons[e.daemon]?).any Daemon.stopping

/-- Change the registrations of a daemon's manager. -/
def setCancels (d : ℕ) (f : Dict ℤ ℕ → Dict ℤ ℕ) : Cluster :=
  { s with daemons := s.daemons.modify d fun dm => { dm with cancels := f dm.cancels } }

/-- `Run`'s process dies: nothing of the daemon moves again. -/
def crash (d : ℕ) : Cluster :=
  { s with
    daemons := s.daemons.modify d fun dm => { dm with up := false }
    execs := s.execs.map fun e => if e.daemon = d then { e with phase := .crashed } else e }

/-- A step of execution `i`, when there is one. -/
def onExec (i : ℕ) (k : Exec → Option Cluster) : Option Cluster :=
  match s.execs[i]? with
  | none => none
  | some e => k e

/-- The table after a write that may have failed. -/
def wrote (ok : Bool) (q : Queue) : Queue := if ok then q else s.queue

/-- **One step.** -/
def step : Event → Option Cluster
  | .boot workerID => some { s with daemons := s.daemons ++ [⟨workerID, ∅, false, true⟩] }
  | .enqueue lost agentID prompt priority now =>
    some { s with queue := (s.queue.enqueue lost agentID prompt priority now).1 }
  | .claim d agentIDs locked scan now =>
    match s.daemons[d]? with
    | none => none
    | some dm =>
      if dm.up then
        match s.queue.claim dm.workerID agentIDs locked scan now with
        | none => some s
        | some (q, id, _) =>
          some { s with
            queue := q
            execs := s.execs ++ [⟨⟨d, id, dm.workerID, .launched⟩, .idle, false⟩] }
      else none
  | .start i => s.onExec i fun e =>
    if e.phase = .launched then
      some ((s.setExec i { e with phase := .started }).setCancels e.daemon (·.insert e.taskID i))
    else none
  | .markRunning i ok now => s.onExec i fun e =>
    if e.phase = .started then
      some { s.setExec i { e with phase := .marked, pulse := .ticking } with
        queue := s.wrote ok (s.queue.markRunning e.taskID now) }
    else none
  | .heartbeat i ok now => s.onExec i fun e =>
    -- the goroutine may have a tick in flight after `stopHB`
    if e.pulse = .ticking ∧ e.phase ≠ .crashed then
      let beat := s.queue.heartbeat e.taskID e.workerID now
      if ok then
        some { s.setExec i { e with pulse := if beat.2 then .canceling else .ticking } with
          queue := beat.1 }
      else some s
    else none
  | .honor i => s.onExec i fun e =>
    if e.pulse = .canceling ∧ e.phase ≠ .crashed then
      some ((s.setExec i { e with pulse := .stopped }).managerCancel e.daemon e.taskID)
    else none
  | .spawn i => s.onExec i fun e =>
    -- `cmd.Start` of a command whose context is done starts nothing
    if e.phase = .marked ∧ s.ctxErr e = false then
      some (s.setExec i { e with phase := .running })
    else none
  | .exit i result err => s.onExec i fun e =>
    -- without a child `Run` returns an empty result and an error
    if e.phase = .running ∨ (e.phase = .marked ∧ result = "" ∧ err.isSome) then
      some (s.setExec i { e with phase := .finishing (.ofRun result err (s.ctxErr e)) })
    else none
  | .write i ok now => s.onExec i fun e =>
    match e.phase with
    | .finishing o =>
      some { s.setExec i { e with phase := .written o ok } with
        queue := s.wrote ok (o.write s.queue e.taskID now) }
    | _ => none
  | .done i => s.onExec i fun e =>
    match e.phase with
    | .written _ _ =>
      some ((s.setExec i { e with phase := .ended, ctxDone := true }).setCancels e.daemon
        (·.erase e.taskID))
    | _ => none
  | .cancel d id => some (s.managerCancel d id)
  | .requestCancel id =>
    match s.queue.requestCancel id with
    | none => some s
    | some (q, _) => some { s with queue := q }
  | .recover timeout now =>
    some { s with queue := (s.queue.recoverOrphanedTasks timeout now).1 }
  | .shutdown d =>
    some { s with daemons := s.daemons.modify d fun dm => { dm with stopping := true } }
  | .crash d => some (s.crash d)

/-- The task a `Claim` returns. -/
def claimed : Event → Option ℤ
  | .claim d agentIDs locked scan now =>
    (s.daemons[d]?).bind fun dm =>
      (s.queue.claim dm.workerID agentIDs locked scan now).map fun r => r.2.1
  | _ => none

end Cluster

/-- The migrated database, with no task in it and no daemon yet. -/
def freshCluster : Cluster := ⟨.empty, [], []⟩

/-- The cluster as a transition system. -/
def cluster : Lts Cluster Event := Lts.ofStep (· = freshCluster) Cluster.step

theorem exists_clusterRun {α : Type} (es : List Event)
    (f : List (Lts.Move Cluster Event) × Cluster → α) {a : α}
    (h : (Lts.exec Cluster.step freshCluster es).map f = some a) :
    ∃ tr s, cluster.Run tr s ∧ f (tr, s) = a := by
  have hstart : cluster.start freshCluster := rfl
  exact Lts.Run.exists_of_exec hstart f h

/-! ### Effects -/

section

variable {α : Type*} {l : List α} {i j : ℕ} {a b : α}

theorem set_eq_self (h : l[i]? = some a) : l.set i a = l := by
  obtain ⟨hlt, rfl⟩ := List.getElem?_eq_some_iff.mp h
  exact List.set_getElem_self hlt

/-- After a write, a place has what was written there or what it had. -/
theorem getElem?_set_cases (h : (l.set i a)[j]? = some b) :
    (j = i ∧ b = a) ∨ (j ≠ i ∧ l[j]? = some b) := by
  rw [List.getElem?_set] at h
  split at h
  · next hij =>
    split at h
    · exact .inl ⟨hij.symm, (Option.some.inj h).symm⟩
    · cases h
  · next hij => exact .inr ⟨fun he => hij he.symm, h⟩

/-- After an addition at the end, a place is an old one or the last. -/
theorem getElem?_snoc_cases (h : (l ++ [a])[j]? = some b) :
    l[j]? = some b ∨ (j = l.length ∧ b = a) := by
  rw [List.getElem?_append] at h
  split at h
  · exact .inl h
  · next hlt =>
    obtain ⟨hlen, hb⟩ := List.getElem?_eq_some_iff.mp h
    rw [List.length_singleton] at hlen
    rw [List.getElem_singleton] at hb
    exact .inr ⟨by omega, hb.symm⟩

end

/-- The columns of a row that say whose it is. -/
structure Lease where
  status : Status
  workerID : Option String
  attempts : ℕ

/-- The lease on a row. -/
def Task.lease (row : Task) : Lease := ⟨row.status, row.workerID, row.attempts⟩

/-- The lease on the row of a task, when there is a row. -/
def Cluster.lease (s : Cluster) (id : ℤ) : Option Lease := (s.queue.get id).map Task.lease

/-- The claims the executions hold. -/
def Cluster.holdings (s : Cluster) : List Holding := s.execs.map Exec.toHolding

/-- The moves of a phase that write nothing to the table. -/
inductive Silent : Phase → Phase → Prop
  | start : Silent .launched .started
  | spawn : Silent .marked .running
  | exit {p : Phase} {o : Outcome} (h : p = .marked ∨ p = .running) : Silent p (.finishing o)
  | done {o : Outcome} {ok : Bool} : Silent (.written o ok) .ended

/-- What a step labelled so does to the rows and to the holdings. -/
inductive Effect (s s' : Cluster) : Event → Prop
  /-- No row changes hands, and no execution moves. -/
  | quiet {ev : Event}
      (hrows : ∀ id, s'.lease id = s.lease id)
      (hexecs : s'.holdings = s.holdings) (hclaimed : s.claimed ev = none) : Effect s s' ev
  | enqueue {lost : ℕ} {agentID : ℤ} {prompt : String} {priority : ℤ} {now : Time} (id : ℤ)
      (hnew : s.queue.get id = none)
      (hget : ∀ id', s'.queue.get id' =
        if id' = id then some (Queue.newTask agentID prompt priority now) else s.queue.get id')
      (hexecs : s'.holdings = s.holdings) :
      Effect s s' (.enqueue lost agentID prompt priority now)
  | claim {d : ℕ} {agentIDs locked : List ℤ} {scan : ℤ → ℕ} {now : Time} (workerID : String)
      (id : ℤ) (row : Task) (hrow : s.queue.get id = some row) (hpending : row.status = .pending)
      (hqueue : s'.queue = s.queue.set id (Queue.claimTask workerID now))
      (hexecs : s'.holdings = s.holdings ++ [⟨d, id, workerID, .launched⟩])
      (hclaimed : s.claimed (.claim d agentIDs locked scan now) = some id) :
      Effect s s' (.claim d agentIDs locked scan now)
  | progress {ev : Event} (i : ℕ) (h : Holding) (p : Phase) (hi : s.holdings[i]? = some h)
      (hp : Silent h.phase p) (hqueue : s'.queue = s.queue)
      (hexecs : s'.holdings = s.holdings.set i { h with phase := p })
      (hclaimed : s.claimed ev = none) : Effect s s' ev
  | markRunning {i : ℕ} {ok : Bool} {now : Time} (h : Holding) (hi : s.holdings[i]? = some h)
      (hp : h.phase = .started)
      (hqueue : s'.queue = s.wrote ok (s.queue.markRunning h.taskID now))
      (hexecs : s'.holdings = s.holdings.set i { h with phase := .marked }) :
      Effect s s' (.markRunning i ok now)
  | write {i : ℕ} {ok : Bool} {now : Time} (h : Holding) (o : Outcome)
      (hi : s.holdings[i]? = some h) (hp : h.phase = .finishing o)
      (hqueue : s'.queue = s.wrote ok (o.write s.queue h.taskID now))
      (hexecs : s'.holdings = s.holdings.set i { h with phase := .written o ok }) :
      Effect s s' (.write i ok now)
  | recover {timeout now : Time}
      (hqueue : s'.queue = (s.queue.recoverOrphanedTasks timeout now).1)
      (hexecs : s'.holdings = s.holdings) : Effect s s' (.recover timeout now)
  | crash {d : ℕ} (hqueue : s'.queue = s.queue)
      (hexecs : s'.holdings =
        s.holdings.map fun h => if h.daemon = d then { h with phase := .crashed } else h) :
      Effect s s' (.crash d)

namespace Cluster

variable {s s' : Cluster}

theorem getElem?_holdings {i : ℕ} {e : Exec} (hi : s.execs[i]? = some e) :
    s.holdings[i]? = some e.toHolding := by
  rw [holdings, List.getElem?_map, hi, Option.map_some]

theorem holdings_setExec (i : ℕ) (e : Exec) :
    (s.setExec i e).holdings = s.holdings.set i e.toHolding :=
  List.map_set ..

/-- An execution that keeps its claim and phase leaves the holdings as they were. -/
theorem holdings_setExec_of_eq {i : ℕ} {e e' : Exec} (hi : s.execs[i]? = some e)
    (h : e'.toHolding = e.toHolding) : (s.setExec i e').holdings = s.holdings := by
  rw [holdings_setExec, h]
  exact set_eq_self (getElem?_holdings hi)

@[simp] theorem queue_setExec (i : ℕ) (e : Exec) : (s.setExec i e).queue = s.queue := rfl

@[simp] theorem queue_setCancels (d : ℕ) (f : Dict ℤ ℕ → Dict ℤ ℕ) :
    (s.setCancels d f).queue = s.queue := rfl

@[simp] theorem holdings_setCancels (d : ℕ) (f : Dict ℤ ℕ → Dict ℤ ℕ) :
    (s.setCancels d f).holdings = s.holdings := rfl

/-- **`Manager.Cancel` touches a context only.** -/
theorem managerCancel_spec (d : ℕ) (id : ℤ) :
    (s.managerCancel d id).queue = s.queue ∧ (s.managerCancel d id).holdings = s.holdings := by
  unfold managerCancel
  split
  · exact ⟨rfl, rfl⟩
  split
  · exact ⟨rfl, rfl⟩
  split
  · exact ⟨rfl, rfl⟩
  · next e he => exact ⟨rfl, holdings_setExec_of_eq he rfl⟩

theorem holdings_crash (d : ℕ) :
    (s.crash d).holdings =
      s.holdings.map fun h => if h.daemon = d then { h with phase := .crashed } else h := by
  unfold crash holdings
  rw [List.map_map, List.map_map]
  refine List.map_congr_left fun e _ => ?_
  by_cases hd : e.daemon = d
  · simp [hd]
  · simp [hd]

theorem onExec_eq_some_iff {i : ℕ} {k : Exec → Option Cluster} :
    s.onExec i k = some s' ↔ ∃ e, s.execs[i]? = some e ∧ k e = some s' := by
  unfold onExec
  cases s.execs[i]? with
  | none => simp
  | some e => simp

end Cluster

/-- An update of other columns leaves every row with its worker. -/
theorem Queue.lease_update (q : Queue) (p : ℤ → Task → Bool) (f : Task → Task)
    (hf : ∀ row, (f row).lease = row.lease) (id : ℤ) :
    ((q.update p f).get id).map Task.lease = (q.get id).map Task.lease := by
  rw [Queue.get_update, Option.map_map]
  congr 1
  funext row
  change (if p id row then f row else row).lease = row.lease
  split
  · exact hf row
  · rfl

theorem Queue.lease_heartbeat (q : Queue) (i : ℤ) (workerID : String) (now : Time) (id : ℤ) :
    ((q.heartbeat i workerID now).1.get id).map Task.lease = (q.get id).map Task.lease :=
  lease_update q _ (fun row => { row with heartbeatAt := some now }) (fun _ => rfl) id

theorem Queue.lease_requestCancel {q q' : Queue} {i : ℤ} {row : Task}
    (h : q.requestCancel i = some (q', row)) (id : ℤ) :
    (q'.get id).map Task.lease = (q.get id).map Task.lease := by
  unfold requestCancel at h
  split at h
  · cases h
  split at h
  · cases h
    exact lease_update q _ (fun row => { row with cancelRequested := true }) (fun _ => rfl) id
  · cases h

section

variable {s s' : Cluster}

open Cluster

theorem Effect.of_phase {ev : Event} {i : ℕ} {e : Exec} (p : Phase) (hi : s.execs[i]? = some e)
    (hp : Silent e.phase p) (hqueue : s'.queue = s.queue)
    (hexecs : s'.holdings = s.holdings.set i { e.toHolding with phase := p })
    (hclaimed : s.claimed ev = none) : Effect s s' ev :=
  .progress i e.toHolding p (getElem?_holdings hi) hp hqueue hexecs hclaimed

/-- `Claim` hands a pending task to a new execution, or finds none. -/
theorem effect_of_claim {d : ℕ} {agentIDs locked : List ℤ} {scan : ℤ → ℕ} {now : Time}
    (h : s.step (.claim d agentIDs locked scan now) = some s') :
    Effect s s' (.claim d agentIDs locked scan now) := by
  simp only [step] at h
  split at h
  · cases h
  next dm hdm =>
  split at h
  · split at h
    · next hnone =>
      -- `ErrNoTask` ends the tick
      cases h
      refine .quiet (fun _ => rfl) rfl ?_
      simp [claimed, hdm, hnone]
    · next q id task hsome =>
      cases h
      obtain ⟨row, hnext, rfl, -⟩ := Queue.claim_eq_some_iff.mp hsome
      obtain ⟨hget, hcl, -⟩ := Queue.nextTask_eq_some_iff.mp hnext
      refine .claim dm.workerID id row hget ?_ rfl ?_ ?_
      · simp only [Queue.claimable, decide_eq_true_eq] at hcl
        exact hcl.1
      · simp [holdings]
      · simp [claimed, hdm, hsome]
  · cases h

theorem effect_of_heartbeat {i : ℕ} {ok : Bool} {now : Time}
    (h : s.step (.heartbeat i ok now) = some s') : Effect s s' (.heartbeat i ok now) := by
  obtain ⟨e, hi, h⟩ := onExec_eq_some_iff.mp h
  split at h
  · cases ok with
    | false =>
      -- the goroutine logs the error and goes on ticking
      cases h
      exact .quiet (fun _ => rfl) rfl rfl
    | true =>
      cases h
      refine .quiet (fun id => ?_) (holdings_setExec_of_eq hi rfl) rfl
      exact Queue.lease_heartbeat ..
  · cases h

theorem effect_of_cancel {ev : Event} (h : s.step ev = some s')
    (hev : (∃ i, ev = .honor i) ∨ (∃ d id, ev = .cancel d id) ∨ ∃ id, ev = .requestCancel id) :
    Effect s s' ev := by
  rcases hev with ⟨i, rfl⟩ | ⟨d, id, rfl⟩ | ⟨id, rfl⟩
  · obtain ⟨e, hi, h⟩ := onExec_eq_some_iff.mp h
    split at h
    · cases h
      obtain ⟨hqueue, hexecs⟩ := managerCancel_spec (s := s.setExec i { e with pulse := .stopped })
        e.daemon e.taskID
      exact .quiet (fun id => by rw [lease, hqueue, queue_setExec, lease])
        (hexecs.trans (holdings_setExec_of_eq hi rfl)) rfl
    · cases h
  · cases h
    obtain ⟨hqueue, hexecs⟩ := managerCancel_spec (s := s) d id
    exact .quiet (fun id => by rw [lease, hqueue, lease]) hexecs rfl
  · simp only [step] at h
    split at h
    · cases h
      exact .quiet (fun _ => rfl) rfl rfl
    · next q row hq =>
      cases h
      exact .quiet (Queue.lease_requestCancel hq) rfl rfl

/-- **Every step is one of the effects.** -/
theorem effect_of_step {ev : Event} (h : s.step ev = some s') : Effect s s' ev := by
  cases ev with
  | boot workerID =>
    cases h
    exact .quiet (fun _ => rfl) rfl rfl
  | enqueue lost agentID prompt priority now =>
    cases h
    exact .enqueue _ (Queue.get_of_seq_lt (by omega)) (fun id' => Queue.get_enqueue ..) rfl
  | claim d agentIDs locked scan now => exact effect_of_claim h
  | start i =>
    obtain ⟨e, hi, h⟩ := onExec_eq_some_iff.mp h
    split at h
    · next hp =>
      cases h
      exact .of_phase .started hi (hp ▸ .start) rfl (holdings_setExec ..) rfl
    · cases h
  | markRunning i ok now =>
    obtain ⟨e, hi, h⟩ := onExec_eq_some_iff.mp h
    split at h
    · next hp =>
      cases h
      exact .markRunning e.toHolding (getElem?_holdings hi) hp rfl (holdings_setExec ..)
    · cases h
  | heartbeat i ok now => exact effect_of_heartbeat h
  | honor i => exact effect_of_cancel h (.inl ⟨i, rfl⟩)
  | spawn i =>
    obtain ⟨e, hi, h⟩ := onExec_eq_some_iff.mp h
    split at h
    · next hp =>
      cases h
      exact .of_phase .running hi (hp.1 ▸ .spawn) rfl (holdings_setExec ..) rfl
    · cases h
  | exit i result err =>
    obtain ⟨e, hi, h⟩ := onExec_eq_some_iff.mp h
    split at h
    · next hp =>
      cases h
      refine .of_phase (.finishing _) hi (.exit ?_) rfl (holdings_setExec ..) rfl
      rcases hp with hp | hp
      exacts [.inr hp, .inl hp.1]
    · cases h
  | write i ok now =>
    obtain ⟨e, hi, h⟩ := onExec_eq_some_iff.mp h
    split at h
    · next o hp =>
      cases h
      exact .write e.toHolding o (getElem?_holdings hi) hp rfl (holdings_setExec ..)
    · cases h
  | done i =>
    obtain ⟨e, hi, h⟩ := onExec_eq_some_iff.mp h
    split at h
    · next o ok hp =>
      cases h
      exact .of_phase .ended hi (hp ▸ .done) rfl (holdings_setExec ..) rfl
    · cases h
  | cancel d id => exact effect_of_cancel h (.inr (.inl ⟨d, id, rfl⟩))
  | requestCancel id => exact effect_of_cancel h (.inr (.inr ⟨id, rfl⟩))
  | recover timeout now =>
    cases h
    exact .recover rfl rfl
  | shutdown d =>
    cases h
    exact .quiet (fun _ => rfl) rfl rfl
  | crash d =>
    cases h
    exact .crash rfl (holdings_crash d)

end

end Server
end Shrimp
