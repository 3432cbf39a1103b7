import Shrimp.Server.Events
import Shrimp.Server.Lifecycle
import Shrimp.Server.Registrations

/-!
# How the server stops (`server/main.go`, `server/daemon.go`, `server/server.go`)

`run` starts the HTTP server and the scheduler as goroutines, each with a channel
of one place for what it returns, and selects on the two channels and on the root
context.  Behind the select it cancels the root context and receives from the
scheduler's channel again, so that `Daemon.Run` has waited for its executions.

The select of a goroutine that is blocked is decided by whoever is ready first;
one that is reached late may find several cases ready, and takes any of them.

## Main definitions

* `Service` — the goroutines of a server process over the cluster, with the wait
  group of the scheduler and the two channels.
* `Service.step`, `service` — one step, and the transition system.
* `Service.Moves` — what a step does to a service.
* `Sound` — the invariant.

## Main results

* `moves_of_serviceStep` — every step is one of the moves.
* `clusterRun_of_service` — a service is a cluster.
* `returned_of_run` — **unless the HTTP server failed, `run` returns only when every
  execution has returned.**
* `concluded_of_run` — **a clean stop leaves a terminal status on every task the
  process claimed.**
-/

namespace Shrimp
namespace Server

open Cluster

/-! ### The goroutines -/

/-- The goroutine of `Daemon.Run`. -/
inductive Sched
  /-- In `RecoverOrphanedTasks`. -/
  | recovering
  /-- At the select of its loop. -/
  | looping
  /-- In `tick`. -/
  | ticking
  /-- In `wg.Wait`. -/
  | waiting
  | returned
  deriving DecidableEq

/-- The case the select of `run` has taken, with what it received. -/
inductive Woken
  | signal
  | http (err : Option String)
  | sched (err : Option String)
  deriving DecidableEq

/-- The goroutine of `run`. -/
inductive Main
  /-- There is no process yet. -/
  | absent
  /-- Behind its `go` statements, not at the select yet. -/
  | starting
  /-- Blocked in the select. -/
  | blocked
  | woken (w : Woken)
  /-- Behind `stop()`, at the second receive. -/
  | draining
  | returned (err : Option String)
  deriving DecidableEq

/-- Has `run` been started, and not returned? -/
def Main.running : Main → Bool
  | starting | blocked | woken _ | draining => true
  | absent | returned _ => false

/-- A server process over the cluster. -/
structure Service where
  cluster : Cluster
  /-- Its daemon, by its place in the cluster. -/
  daemon : ℕ
  main : Main
  sched : Sched
  /-- The wait group of `Daemon.Run`: the executions with `wg.Done` ahead of them. -/
  group : List ℕ
  /-- `StartHTTP` has not returned. -/
  listening : Bool
  /-- What is in the channels, which have one place. -/
  schedErr : Option (Option String)
  httpErr : Option (Option String)

/-- A case of the select. -/
inductive Case
  | ctxDone | http | sched

/-- The steps of the goroutines of the process. -/
inductive Service.Act
  /-- SIGINT or SIGTERM. -/
  | signal
  /-- `StartHTTP` returns. -/
  | serve (err : Option String)
  /-- `RecoverOrphanedTasks` returns. -/
  | recover (now : Time) (err : Option String)
  /-- The select of `Daemon.Run` takes the ticker. -/
  | tick
  /-- A `Claim` of `tick`, and the goroutine of the task it returned. -/
  | claim (agentIDs locked : List ℤ) (scan : ℤ → ℕ) (now : Time)
  | tickEnd
  /-- The select of `Daemon.Run` takes the context. -/
  | stopLoop
  /-- `wg.Wait` returns. -/
  | drained
  /-- The deferred `wg.Done` of an execution. -/
  | leave (exec : ℕ)
  /-- `run` comes to its select and finds no case ready. -/
  | block
  /-- It comes to its select and takes a case that is ready. -/
  | choose (c : Case)
  /-- What `run` does with the case it has taken. -/
  | proceed
  /-- The second receive. -/
  | receive

/-- The steps of a service. -/
inductive Service.Op
  /-- A new process. -/
  | launch (workerID : String)
  /-- A step of an execution, of an API handler, or outside the process. -/
  | run (ev : Event)
  | act (a : Service.Act)

/-- A step other than those of a daemon's own scheduler and root context. -/
def Event.spares (d : ℕ) : Event → Bool
  | .claim d' _ _ _ _ | .shutdown d' | .crash d' => d' ≠ d
  | _ => true

namespace Service

variable (s : Service)

/-- The root context of the process is done. -/
def stopping : Bool := (s.cluster.daemons[s.daemon]?).any Daemon.stopping

/-- Let the cluster make a step. -/
def on (ev : Event) (k : Cluster → Service) : Option Service := (s.cluster.step ev).map k

/-- `httpErr <- err`, which decides the select if it is blocked. -/
def sendHTTP (err : Option String) : Service :=
  if s.main = .blocked then { s with main := .woken (.http err) }
  else { s with httpErr := some err }

/-- `schedErr <- err`. -/
def sendSched (err : Option String) : Service :=
  if s.main = .blocked then { s with main := .woken (.sched err) }
  else { s with schedErr := some err }

/-- Take a case of the select. -/
def choose : Case → Option Service
  | .ctxDone => if s.stopping then some { s with main := .woken .signal } else none
  | .http => s.httpErr.map fun err => { s with main := .woken (.http err), httpErr := none }
  | .sched => s.schedErr.map fun err => { s with main := .woken (.sched err), schedErr := none }

/-- `stop()`, on the way to the second receive. -/
def drain : Option Service :=
  s.on (.shutdown s.daemon) fun c => { s with cluster := c, main := .draining }

/-- A step of a goroutine of the process. -/
def act (timeout : Time) : Service.Act → Option Service
  | .signal => s.on (.shutdown s.daemon) fun c =>
    { s with cluster := c, main := if s.main = .blocked then .woken .signal else s.main }
  | .serve err =>
    -- `ErrServerClosed` comes of the `Shutdown` behind the root context
    if s.listening ∧ (err = none → s.stopping) then
      some { s.sendHTTP err with listening := false }
    else none
  | .recover now err =>
    if s.sched = .recovering then
      match err with
      | none => s.on (.recover timeout now) fun c => { s with cluster := c, sched := .looping }
      | some _ => some { s.sendSched err with sched := .returned }
    else none
  | .tick => if s.sched = .looping then some { s with sched := .ticking } else none
  | .claim agentIDs locked scan now =>
    if s.sched = .ticking then
      s.on (.claim s.daemon agentIDs locked scan now) fun c =>
        let k := s.cluster.execs.length
        { s with cluster := c, group := if k < c.execs.length then s.group ++ [k] else s.group }
    else none
  | .tickEnd => if s.sched = .ticking then some { s with sched := .looping } else none
  | .stopLoop =>
    if s.sched = .looping ∧ s.stopping then some { s with sched := .waiting } else none
  | .drained =>
    if s.sched = .waiting ∧ s.group = [] then some { s.sendSched none with sched := .returned }
    else none
  | .leave i =>
    if i ∈ s.group ∧ (s.cluster.execs[i]?).any fun e => e.phase = .ended then
      some { s with group := s.group.erase i }
    else none
  | .block =>
    if s.main = .starting ∧ s.stopping = false ∧ s.httpErr = none ∧ s.schedErr = none then
      some { s with main := .blocked }
    else none
  | .choose c => if s.main = .starting then s.choose c else none
  | .proceed =>
    match s.main with
    | .woken .signal | .woken (.http none) | .woken (.sched none) => s.drain
    | .woken (.http (some err)) => some { s with main := .returned (some ("http: " ++ err)) }
    | .woken (.sched (some err)) => some { s with main := .returned (some ("scheduler: " ++ err)) }
    | _ => none
  | .receive =>
    if s.main = .draining then
      s.schedErr.map fun err => { s with main := .returned err, schedErr := none }
    else none

/-- **One step.** -/
def step (timeout : Time) : Service.Op → Option Service
  | .launch workerID =>
    if s.main = .absent then
      s.on (.boot workerID) fun c =>
        { s with cluster := c, daemon := s.cluster.daemons.length, main := .starting }
    else none
  | .run ev =>
    if s.main = .absent ∨ s.main.running ∧ ev.spares s.daemon then
      s.on ev fun c => { s with cluster := c }
    else none
  | .act a => if s.main.running then s.act timeout a else none

/-- The step of the cluster behind a step. -/
def event (timeout : Time) : Service.Op → Option Event
  | .launch workerID => some (.boot workerID)
  | .run ev => some ev
  | .act .signal => some (.shutdown s.daemon)
  | .act (.recover now none) => some (.recover timeout now)
  | .act (.claim agentIDs locked scan now) => some (.claim s.daemon agentIDs locked scan now)
  | .act .proceed =>
    match s.main with
    | .woken (.http (some _)) | .woken (.sched (some _)) => none
    | _ => some (.shutdown s.daemon)
  | .act _ => none

end Service

/-- The service before its process is started. -/
def freshService : Service := ⟨freshCluster, 0, .absent, .recovering, [], true, none, none⟩

/-- A server process over a database, as a transition system; `timeout` is
`cfg.OrphanTimeout`. -/
def service (timeout : Time) : Lts Service Service.Op :=
  Lts.ofStep (· = freshService) fun s => s.step timeout

section

variable {timeout : Time} {s s' : Service}

theorem Service.on_eq_some_iff {ev : Event} {k : Cluster → Service} :
    s.on ev k = some s' ↔ ∃ c, s.cluster.step ev = some c ∧ k c = s' :=
  Option.map_eq_some_iff

/-- What a step labelled so does to a service. -/
inductive Service.Moves (timeout : Time) (s : Service) : Service.Op → Service → Prop
  | launch {workerID : String} {c : Cluster} (hm : s.main = .absent)
      (hc : s.cluster.step (.boot workerID) = some c) : Service.Moves timeout s (.launch workerID)
        { s with cluster := c, daemon := s.cluster.daemons.length, main := .starting }
  | run {ev : Event} {c : Cluster} (hspares : s.main ≠ .absent → ev.spares s.daemon)
      (hc : s.cluster.step ev = some c) : Service.Moves timeout s (.run ev) { s with cluster := c }
  | signal {c : Cluster} (hrun : s.main.running = true)
      (hc : s.cluster.step (.shutdown s.daemon) = some c) : Service.Moves timeout s (.act .signal)
        { s with cluster := c, main := if s.main = .blocked then .woken .signal else s.main }
  | serve {err : Option String} (hrun : s.main.running = true) :
      Service.Moves timeout s (.act (.serve err)) { s.sendHTTP err with listening := false }
  | recovered {now : Time} {c : Cluster} (hrun : s.main.running = true)
      (hp : s.sched = .recovering) (hc : s.cluster.step (.recover timeout now) = some c) :
      Service.Moves timeout s (.act (.recover now none)) { s with cluster := c, sched := .looping }
  | notRecovered {now : Time} {err : String} (hrun : s.main.running = true)
      (hp : s.sched = .recovering) : Service.Moves timeout s (.act (.recover now (some err)))
        { s.sendSched (some err) with sched := .returned }
  | tick (hrun : s.main.running = true) (hp : s.sched = .looping) :
      Service.Moves timeout s (.act .tick) { s with sched := .ticking }
  | claim {agentIDs locked : List ℤ} {scan : ℤ → ℕ} {now : Time} {c : Cluster}
      (hrun : s.main.running = true) (hp : s.sched = .ticking)
      (hc : s.cluster.step (.claim s.daemon agentIDs locked scan now) = some c) :
      Service.Moves timeout s (.act (.claim agentIDs locked scan now))
        { s with
          cluster := c
          group := if s.cluster.execs.length < c.execs.length
            then s.group ++ [s.cluster.execs.length] else s.group }
  | tickEnd (hrun : s.main.running = true) (hp : s.sched = .ticking) :
      Service.Moves timeout s (.act .tickEnd) { s with sched := .looping }
  | stopLoop (hrun : s.main.running = true) (hp : s.sched = .looping)
      (hstop : s.stopping = true) :
      Service.Moves timeout s (.act .stopLoop) { s with sched := .waiting }
  | drained (hrun : s.main.running = true) (hp : s.sched = .waiting) (hgroup : s.group = []) :
      Service.Moves timeout s (.act .drained) { s.sendSched none with sched := .returned }
  | leave {i : ℕ} {e : Exec} (hrun : s.main.running = true) (hi : s.cluster.execs[i]? = some e)
      (hended : e.phase = .ended) :
      Service.Moves timeout s (.act (.leave i)) { s with group := s.group.erase i }
  | block (hm : s.main = .starting) (hstop : s.stopping = false) :
      Service.Moves timeout s (.act .block) { s with main := .blocked }
  | chooseSignal (hm : s.main = .starting) :
      Service.Moves timeout s (.act (.choose .ctxDone)) { s with main := .woken .signal }
  | chooseHTTP {err : Option String} (hm : s.main = .starting) :
      Service.Moves timeout s (.act (.choose .http))
        { s with main := .woken (.http err), httpErr := none }
  | chooseSched {err : Option String} (hm : s.main = .starting) (herr : s.schedErr = some err) :
      Service.Moves timeout s (.act (.choose .sched))
        { s with main := .woken (.sched err), schedErr := none }
  | stop {w : Woken} {c : Cluster} (hm : s.main = .woken w)
      (hw : ∀ err, w ≠ .http (some err) ∧ w ≠ .sched (some err))
      (hc : s.cluster.step (.shutdown s.daemon) = some c) :
      Service.Moves timeout s (.act .proceed) { s with cluster := c, main := .draining }
  | httpFailed {err : String} (hm : s.main = .woken (.http (some err))) :
      Service.Moves timeout s (.act .proceed) { s with main := .returned (some ("http: " ++ err)) }
  | schedFailed {err : String} (hm : s.main = .woken (.sched (some err))) :
      Service.Moves timeout s (.act .proceed)
        { s with main := .returned (some ("scheduler: " ++ err)) }
  | receive {err : Option String} (hm : s.main = .draining) (herr : s.schedErr = some err) :
      Service.Moves timeout s (.act .receive) { s with main := .returned err, schedErr := none }

theorem moves_of_serviceDrain {w : Woken} (hm : s.main = .woken w)
    (hw : ∀ err, w ≠ .http (some err) ∧ w ≠ .sched (some err)) (h : s.drain = some s') :
    Service.Moves timeout s (.act .proceed) s' := by
  obtain ⟨c, hc, rfl⟩ := Service.on_eq_some_iff.mp h
  exact .stop hm hw hc

theorem moves_of_serviceAct (hrun : s.main.running = true) {a : Service.Act}
    (h : s.act timeout a = some s') :
    Service.Moves timeout s (.act a) s' := by
  cases a with
  | signal =>
    obtain ⟨c, hc, rfl⟩ := Service.on_eq_some_iff.mp h
    exact .signal hrun hc
  | serve err =>
    simp only [Service.act] at h
    split at h <;> cases h
    exact .serve hrun
  | recover now err =>
    simp only [Service.act] at h
    split at h
    · next hp =>
      cases err with
      | none =>
        obtain ⟨c, hc, rfl⟩ := Service.on_eq_some_iff.mp h
        exact .recovered hrun hp hc
      | some err =>
        cases h
        exact .notRecovered hrun hp
    · cases h
  -- the moves of the scheduler, each from the phase it belongs to
  | tick =>
    simp only [Service.act] at h
    split at h
    · next hp =>
      cases h
      exact .tick hrun hp
    · cases h
  | claim agentIDs locked scan now =>
    simp only [Service.act] at h
    split at h
    · next hp =>
      obtain ⟨c, hc, rfl⟩ := Service.on_eq_some_iff.mp h
      exact .claim hrun hp hc
    · cases h
  | tickEnd =>
    simp only [Service.act] at h
    split at h
    · next hp =>
      cases h
      exact .tickEnd hrun hp
    · cases h
  | stopLoop =>
    simp only [Service.act] at h
    split at h
    · next hp =>
      cases h
      exact .stopLoop hrun hp.1 hp.2
    · cases h
  | drained =>
    simp only [Service.act] at h
    split at h
    · next hp =>
      cases h
      exact .drained hrun hp.1 hp.2
    · cases h
  | leave i =>
    simp only [Service.act] at h
    split at h
    · next hp =>
      cases h
      obtain ⟨e, hi, hended⟩ := (Option.any_eq_true _ _).mp hp.2
      exact .leave hrun hi (of_decide_eq_true hended)
    · cases h
  -- the moves of `run`
  | block =>
    simp only [Service.act] at h
    split at h
    · next hp =>
      cases h
      exact .block hp.1 hp.2.1
    · cases h
  | choose k =>
    simp only [Service.act] at h
    split at h
    · next hm =>
      cases k with
      | ctxDone =>
        simp only [Service.choose] at h
        split at h <;> cases h
        exact .chooseSignal hm
      | http =>
        obtain ⟨err, -, rfl⟩ := Option.map_eq_some_iff.mp h
        exact .chooseHTTP hm
      | sched =>
        obtain ⟨err, herr, rfl⟩ := Option.map_eq_some_iff.mp h
        exact .chooseSched hm herr
    · cases h
  | proceed =>
    simp only [Service.act] at h
    split at h
    · next hm => exact moves_of_serviceDrain hm (fun _ => ⟨nofun, nofun⟩) h
    · next hm => exact moves_of_serviceDrain hm (fun _ => ⟨nofun, nofun⟩) h
    · next hm => exact moves_of_serviceDrain hm (fun _ => ⟨nofun, nofun⟩) h
    · next hm =>
      cases h
      exact .httpFailed hm
    · next hm =>
      cases h
      exact .schedFailed hm
    · cases h
  | receive =>
    simp only [Service.act] at h
    split at h
    · next hm =>
      obtain ⟨err, herr, rfl⟩ := Option.map_eq_some_iff.mp h
      exact .receive hm herr
    · cases h

/-- **Every step is one of the moves.** -/
theorem moves_of_serviceStep {op : Service.Op} (h : s.step timeout op = some s') :
    Service.Moves timeout s op s' := by
  cases op with
  | launch workerID =>
    simp only [Service.step] at h
    split at h
    · next hm =>
      obtain ⟨c, hc, rfl⟩ := Service.on_eq_some_iff.mp h
      exact .launch hm hc
    · cases h
  | run ev =>
    simp only [Service.step] at h
    split at h
    · next hor =>
      obtain ⟨c, hc, rfl⟩ := Service.on_eq_some_iff.mp h
      exact .run (fun hne => (hor.resolve_left hne).2) hc
    · cases h
  | act a =>
    simp only [Service.step] at h
    split at h
    · next hrun => exact moves_of_serviceAct hrun h
    · cases h

@[simp] theorem Service.cluster_sendHTTP (err : Option String) :
    (s.sendHTTP err).cluster = s.cluster := by
  unfold sendHTTP
  split <;> rfl

@[simp] theorem Service.cluster_sendSched (err : Option String) :
    (s.sendSched err).cluster = s.cluster := by
  unfold sendSched
  split <;> rfl

/-- **A step of a service is a step of the cluster, or leaves it.** -/
theorem Service.event_of_step {op : Service.Op} (h : s.step timeout op = some s') :
    (∃ ev, s.event timeout op = some ev ∧ s.cluster.step ev = some s'.cluster) ∨
      s.event timeout op = none ∧ s'.cluster = s.cluster := by
  cases moves_of_serviceStep h with
  | launch _ hc | run _ hc | signal _ hc | recovered _ _ hc | claim _ _ hc =>
    exact .inl ⟨_, rfl, hc⟩
  | @stop w c hm hw hc =>
    refine .inl ⟨.shutdown s.daemon, ?_, hc⟩
    rcases w with _ | ⟨_ | err⟩ | ⟨_ | err⟩
    case http.some => exact absurd rfl (hw err).1
    case sched.some => exact absurd rfl (hw err).2
    all_goals simp only [event, hm]
  | httpFailed hm | schedFailed hm => exact .inr ⟨by simp only [event, hm], rfl⟩
  | serve => exact .inr ⟨rfl, cluster_sendHTTP _⟩
  | notRecovered | drained => exact .inr ⟨rfl, cluster_sendSched _⟩
  | tick | tickEnd | stopLoop | leave | block | chooseSignal | chooseHTTP | chooseSched
  | receive => exact .inr ⟨rfl, rfl⟩

/-- The moves of the cluster in a history of a service. -/
def clusterMoves (timeout : Time) (tr : List (Lts.Move Service Service.Op)) :
    List (Lts.Move Cluster Event) :=
  tr.filterMap fun m =>
    (m.pre.event timeout m.label).map fun ev => ⟨m.pre.cluster, ev, m.post.cluster⟩

/-- **A service is a cluster.** -/
theorem clusterRun_of_service {tr : List (Lts.Move Service Service.Op)}
    (h : (service timeout).Run tr s) : cluster.Run (clusterMoves timeout tr) s.cluster := by
  refine h.filterMap Service.cluster (fun s => s.event timeout) ?_ fun c op c' hstep =>
    Service.event_of_step hstep
  rintro s rfl
  rfl

/-! ### The wait group -/

/-- What the wait group says of the executions of a daemon. -/
structure Grouped (c : Cluster) (d : ℕ) (g : List ℕ) : Prop where
  up : ∃ dm, c.daemons[d]? = some dm ∧ dm.up = true
  /-- Who is not in it has returned. -/
  members : ∀ (i : ℕ) (e : Exec), c.execs[i]? = some e → e.daemon = d →
    e.phase = .ended ∨ i ∈ g
  known : ∀ i ∈ g, ∃ e, c.execs[i]? = some e ∧ e.daemon = d
  nodup : g.Nodup

namespace Grouped

variable {c c' : Cluster} {d : ℕ} {g : List ℕ} {ev : Event}

/-- Nobody's execution has crashed as long as the daemon is up. -/
theorem ne_crashed (h : Grouped c d g) (hP : c.Placed) {i : ℕ} {e : Exec}
    (hi : c.execs[i]? = some e) (hd : e.daemon = d) : e.phase ≠ .crashed := by
  obtain ⟨dm, hdm, hup⟩ := hP i e hi
  obtain ⟨dm', hdm', hup'⟩ := h.up
  rw [hd, hdm'] at hdm
  cases hdm
  exact hup.mpr hup'

theorem boot (hP : c.Placed) {workerID : String} (hs : c.step (.boot workerID) = some c') :
    Grouped c' c.daemons.length [] := by
  cases hs
  refine ⟨⟨_, List.getElem?_concat_length, rfl⟩, fun i e hi hd => ?_, nofun, List.nodup_nil⟩
  obtain ⟨dm, hdm, -⟩ := hP i e hi
  have hlt := (List.getElem?_eq_some_iff.mp hdm).1
  omega

/-- What holds of the daemon and of those in the group after a step. -/
theorem frame (h : Grouped c d g) (hs : c.step ev = some c') (hcrash : ev ≠ .crash d) :
    (∃ dm, c'.daemons[d]? = some dm ∧ dm.up = true) ∧
      ∀ i ∈ g, ∃ e, c'.execs[i]? = some e ∧ e.daemon = d := by
  obtain ⟨dm, hdm, hup⟩ := h.up
  obtain ⟨dm', hdm', hf⟩ := daemon_of_step hs hdm
  refine ⟨⟨dm', hdm', hf.up.mpr ⟨hup, hcrash⟩⟩, fun i hi => ?_⟩
  obtain ⟨e, he, hd⟩ := h.known i hi
  obtain ⟨e', he', hf⟩ := exists_follows hs he
  exact ⟨e', he', hf.daemon.trans hd⟩

/-- Who was there before a step of the cluster and is not in the group has returned. -/
theorem ended_of_follows (h : Grouped c d g) (hP : c.Placed) {i : ℕ} {e e' : Exec}
    (hi : c.execs[i]? = some e) (hf : Exec.Follows ev e e') (hcrash : ev ≠ .crash d)
    (hd : e'.daemon = d) : e'.phase = .ended ∨ i ∈ g := by
  have hd' : e.daemon = d := hf.daemon.symm.trans hd
  rcases h.members i e hi hd' with hended | hmem
  · refine .inl ((hf.ended hended).resolve_right fun hc => ?_)
    rcases hf.crash hc with hc | hc
    · exact h.ne_crashed hP hi hd' hc
    · exact hcrash (hd' ▸ hc)
  · exact .inr hmem

theorem step (h : Grouped c d g) (hP : c.Placed) (hs : c.step ev = some c')
    (hcrash : ev ≠ .crash d)
    (hclaim : ∀ agentIDs locked scan now, ev ≠ .claim d agentIDs locked scan now) :
    Grouped c' d g := by
  obtain ⟨hup, hknown⟩ := h.frame hs hcrash
  refine ⟨hup, fun j e' hj hd => ?_, hknown, h.nodup⟩
  rcases follows_of_step hs hj with ⟨e, he, hf⟩ | ⟨-, -, ⟨_, _, _, _, rfl⟩, -⟩
  · exact h.ended_of_follows hP he hf hcrash hd
  · exact absurd (by rw [hd]) (hclaim _ _ _ _)

theorem claim (h : Grouped c d g) (hP : c.Placed) {agentIDs locked : List ℤ} {scan : ℤ → ℕ}
    {now : Time} (hs : c.step (.claim d agentIDs locked scan now) = some c') :
    Grouped c' d
      (if c.execs.length < c'.execs.length then g ++ [c.execs.length] else g) := by
  obtain ⟨hup, hknown⟩ := h.frame hs nofun
  -- whoever is known after the claim was known before, or is the task it returned
  have hmembers : ∀ (i : ℕ) (e : Exec), c'.execs[i]? = some e → e.daemon = d →
      e.phase = .ended ∨ i ∈ g ∨ i = c.execs.length := by
    intro j e' hj hd
    rcases follows_of_step hs hj with ⟨e, he, hf⟩ | ⟨hlen, -⟩
    · exact (h.ended_of_follows hP he hf nofun hd).imp_right .inl
    · exact .inr (.inr hlen)
  split
  · next hlt =>
    refine ⟨hup, fun i e hi hd => ?_, fun i hi => ?_, ?_⟩
    · simpa [or_assoc] using hmembers i e hi hd
    · rcases List.mem_append.mp hi with hi | hi
      · exact hknown i hi
      · obtain rfl := List.mem_singleton.mp hi
        have hnew := List.getElem?_eq_getElem hlt
        refine ⟨_, hnew, ?_⟩
        rcases follows_of_step hs hnew with ⟨e, he, -⟩ | ⟨-, -, ⟨_, _, _, _, hev⟩, -⟩
        · simp at he
        · exact (Event.claim.inj hev).1.symm
    -- the new execution stands behind all others, so that it is in the group once
    · refine List.nodup_append.mpr ⟨h.nodup, List.nodup_singleton _, fun i hi j hj => ?_⟩
      obtain ⟨e, he, -⟩ := h.known i hi
      have hi := (List.getElem?_eq_some_iff.mp he).1
      rw [List.mem_singleton.mp hj]
      omega
  · next hge =>
    refine ⟨hup, fun i e hi hd => (hmembers i e hi hd).imp_right fun hor => ?_, hknown, h.nodup⟩
    refine hor.resolve_right ?_
    rintro rfl
    exact hge (List.getElem?_eq_some_iff.mp hi).1

theorem leave (h : Grouped c d g) {i : ℕ} {e : Exec} (hi : c.execs[i]? = some e)
    (hended : e.phase = .ended) : Grouped c d (g.erase i) := by
  refine ⟨h.up, fun j e' hj hd => ?_, fun j hj => h.known j (List.mem_of_mem_erase hj),
    h.nodup.erase i⟩
  by_cases hji : j = i
  · subst hji
    rw [hi] at hj
    cases hj
    exact .inl hended
  · exact (h.members j e' hj hd).imp_right fun hmem => (List.mem_erase_of_ne hji).mpr hmem

end Grouped

/-! ### The invariant -/

/-- **The invariant**: what the goroutines know of each other. -/
structure Sound (s : Service) : Prop where
  placed : s.cluster.Placed
  grouped : s.main ≠ .absent → Grouped s.cluster s.daemon s.group
  absent : s.main = .absent → s.group = []
  /-- Executions are launched by a scheduler that has recovered, and waited for. -/
  idle : s.sched = .recovering ∨ s.sched = .returned → s.group = []
  sent : s.schedErr.isSome → s.sched = .returned
  received : ∀ err, s.main = .woken (.sched err) → s.sched = .returned
  returned : ∀ err, s.main = .returned err →
    s.sched = .returned ∨ ∃ e, err = some ("http: " ++ e)

theorem Main.ne_absent {m : Main} (h : m.running = true) : m ≠ .absent := by
  rintro rfl
  cases h

theorem Main.ne_returned {m : Main} (h : m.running = true) (err : Option String) :
    m ≠ .returned err := by
  rintro rfl
  cases h

namespace Sound

/-- A step of the cluster that the scheduler has no part in. -/
theorem of_cluster (h : Sound s) {ev : Event} {c : Cluster} (hs : s.cluster.step ev = some c)
    (hspares : s.main ≠ .absent → ev ≠ .crash s.daemon ∧
      ∀ agentIDs locked scan now, ev ≠ .claim s.daemon agentIDs locked scan now) :
    Sound { s with cluster := c } where
  placed := placed_of_step h.placed hs
  grouped hne := (h.grouped hne).step h.placed hs (hspares hne).1 (hspares hne).2
  absent := h.absent
  idle := h.idle
  sent := h.sent
  received := h.received
  returned := h.returned

theorem of_main (h : Sound s) {m : Main} (hrun : s.main.running = true) (habs : m ≠ .absent)
    (hrecv : ∀ err, m = .woken (.sched err) → s.sched = .returned)
    (hret : ∀ err, m = .returned err → s.sched = .returned ∨ ∃ e, err = some ("http: " ++ e)) :
    Sound { s with main := m } where
  placed := h.placed
  grouped _ := h.grouped (Main.ne_absent hrun)
  absent hm := absurd hm habs
  idle := h.idle
  sent := h.sent
  received := hrecv
  returned := hret

theorem of_sched (h : Sound s) {p : Sched} (hrun : s.main.running = true)
    (hsched : s.sched ≠ .returned) (hp : p = .recovering ∨ p = .returned → s.group = []) :
    Sound { s with sched := p } where
  placed := h.placed
  grouped := h.grouped
  absent := h.absent
  idle := hp
  sent hs := absurd (h.sent hs) hsched
  received err hm := absurd (h.received err hm) hsched
  returned err hm := absurd hm (Main.ne_returned hrun err)

theorem sendHTTP (h : Sound s) (hrun : s.main.running = true) (err : Option String) :
    Sound { s.sendHTTP err with listening := false } := by
  unfold Service.sendHTTP
  split
  · obtain ⟨h₁, h₂, h₃, h₄, h₅, h₆, h₇⟩ :=
      h.of_main (m := .woken (.http err)) hrun nofun nofun nofun
    exact ⟨h₁, h₂, h₃, h₄, h₅, h₆, h₇⟩
  · exact ⟨h.placed, h.grouped, h.absent, h.idle, h.sent, h.received, h.returned⟩

theorem sendSched (h : Sound s) (hrun : s.main.running = true) (hgroup : s.group = [])
    (err : Option String) : Sound { s.sendSched err with sched := .returned } := by
  have hgrouped := h.grouped (Main.ne_absent hrun)
  unfold Service.sendSched
  split
  · exact ⟨h.placed, fun _ => hgrouped, nofun, fun _ => hgroup, fun _ => rfl, fun _ _ => rfl,
      nofun⟩
  · exact ⟨h.placed, h.grouped, h.absent, fun _ => hgroup, fun _ => rfl, fun _ _ => rfl,
      fun _ _ => .inl rfl⟩

/-- **The step lemma.** -/
theorem step (h : Sound s) {op : Service.Op} (hs : s.step timeout op = some s') : Sound s' := by
  have hgrouped (hrun : s.main.running = true) := h.grouped (Main.ne_absent hrun)
  cases moves_of_serviceStep hs with
  -- a launch: nobody runs yet, and the group of the new daemon is empty
  | launch hm hc =>
    refine ⟨placed_of_step h.placed hc, fun _ => ?_, nofun, h.idle, h.sent, nofun, nofun⟩
    rw [h.absent hm]
    exact Grouped.boot h.placed hc
  | run hspares hc =>
    refine h.of_cluster hc fun hne => ?_
    have hev := hspares hne
    constructor
    · rintro rfl
      simp [Event.spares] at hev
    · rintro agentIDs locked scan now rfl
      simp [Event.spares] at hev
  -- the cancellation wakes `run` if it was blocked
  | signal hrun hc =>
    have hc' := h.of_cluster hc fun _ => ⟨nofun, nofun⟩
    by_cases hb : s.main = .blocked
    · rw [if_pos hb]
      exact hc'.of_main hrun nofun nofun nofun
    · rw [if_neg hb]
      exact hc'
  | serve hrun => exact h.sendHTTP hrun _
  | recovered hrun hp hc =>
    exact (h.of_sched (p := .looping) hrun (by simp [hp]) (by simp)).of_cluster hc
      fun _ => ⟨nofun, nofun⟩
  | notRecovered hrun hp => exact h.sendSched hrun (h.idle (.inl hp)) _
  -- the claim adds its execution to the group before the next move of the scheduler
  | claim hrun hp hc =>
    exact ⟨placed_of_step h.placed hc, fun _ => (hgrouped hrun).claim h.placed hc,
      fun hm => absurd hm (Main.ne_absent hrun), fun hor => absurd hor (by rw [hp]; decide),
      h.sent, h.received, h.returned⟩
  | tick hrun hp | tickEnd hrun hp | stopLoop hrun hp =>
    exact h.of_sched hrun (by simp [hp]) (by simp)
  | drained hrun hp hgroup => exact h.sendSched hrun hgroup none
  | leave hrun hi hended =>
    refine ⟨h.placed, fun _ => (hgrouped hrun).leave hi hended,
      fun hm => absurd hm (Main.ne_absent hrun), fun hor => ?_, h.sent, h.received, h.returned⟩
    rw [h.idle hor]
    rfl
  | block hm | chooseSignal hm => exact h.of_main (by rw [hm]; rfl) nofun nofun nofun
  | chooseHTTP hm =>
    exact ⟨h.placed, fun _ => hgrouped (by rw [hm]; rfl), nofun, h.idle, h.sent, nofun, nofun⟩
  -- the scheduler has returned when what it returned is received
  | chooseSched hm herr =>
    have hret : s.sched = .returned := h.sent (by rw [herr]; rfl)
    exact ⟨h.placed, fun _ => hgrouped (by rw [hm]; rfl), nofun, h.idle, nofun,
      fun _ _ => hret, nofun⟩
  | stop hm hw hc =>
    exact (h.of_main (m := .draining) (by rw [hm]; rfl) nofun nofun nofun).of_cluster hc
      fun _ => ⟨nofun, nofun⟩
  | httpFailed hm =>
    exact h.of_main (by rw [hm]; rfl) nofun nofun
      fun _ he => .inr ⟨_, (Main.returned.inj he).symm⟩
  | schedFailed hm =>
    exact h.of_main (by rw [hm]; rfl) nofun nofun fun _ _ => .inl (h.received _ hm)
  | receive hm herr =>
    have hret : s.sched = .returned := h.sent (by rw [herr]; rfl)
    exact ⟨h.placed, fun _ => hgrouped (by rw [hm]; rfl), nofun, h.idle, nofun, nofun,
      fun _ _ => .inl hret⟩

end Sound

/-- **The run lemma.** -/
theorem sound_of_run {tr : List (Lts.Move Service Service.Op)} (h : (service timeout).Run tr s) :
    Sound s := by
  refine h.invariant (I := fun _ s => Sound s) ?_ fun _ _ _ _ _ hS hstep => hS.step hstep
  rintro s rfl
  constructor
  case placed =>
    intro i e hi
    cases hi
  case grouped => exact fun hne => absurd rfl hne
  case absent | idle => exact fun _ => rfl
  case sent | received | returned => nofun

/-- **Unless the HTTP server failed, `run` returns only when every execution has
returned.** -/
theorem returned_of_run {tr : List (Lts.Move Service Service.Op)} {err : Option String}
    (h : (service timeout).Run tr s) (hret : s.main = .returned err) :
    (∀ (i : ℕ) (e : Exec), s.cluster.execs[i]? = some e → e.daemon = s.daemon →
      e.phase = .ended) ∨ ∃ e, err = some ("http: " ++ e) := by
  have hS := sound_of_run h
  rcases hS.returned err hret with hsched | hhttp
  · left
    intro i e hi hd
    have hgroup := hS.idle (.inr hsched)
    have hmem := (hS.grouped (by simp [hret])).members i e hi hd
    rw [hgroup] at hmem
    exact hmem.resolve_right List.not_mem_nil
  · exact .inr hhttp

theorem exists_serviceRun {α : Type} (timeout : Time) (ops : List Service.Op)
    (f : List (Lts.Move Service Service.Op) × Service → α) {a : α}
    (h : (Lts.exec (fun s => s.step timeout) freshService ops).map f = some a) :
    ∃ tr s, (service timeout).Run tr s ∧ f (tr, s) = a := by
  have hstart : (service timeout).start freshService := rfl
  exact Lts.Run.exists_of_exec hstart f h

/-- A signal while a task is running. -/
def stopOps : List Service.Op := [
  .launch "w1", .act (.recover 0 none), .run (.enqueue 0 7 "fix the build" 2 0), .act .tick,
  .act (.claim [7] [] (fun _ => 0) 1), .act .block, .run (.start 0), .run (.markRunning 0 true 2),
  .run (.spawn 0), .act .signal, .act .tickEnd, .act .stopLoop, .act .proceed, .act (.serve none),
  .run (.exit 0 "half" (some "signal: killed")), .run (.write 0 true 3), .run (.done 0),
  .act (.leave 0), .act .drained, .act .receive]

/-- The execution of the task that was running at the signal has returned. -/
theorem returned_of_run_sample : ∃ tr s, (service 30).Run tr s ∧ s.main = .returned none ∧
    (s.cluster.execs[0]?).map (fun e : Exec => e.phase) = some .ended := by
  obtain ⟨tr, s, hrun, hf⟩ := exists_serviceRun 30 stopOps
    (fun r => (r.2.main, (r.2.cluster.execs[0]?).map fun e : Exec =>
      decide (e.daemon = r.2.daemon)))
    (show _ = some (Main.returned none, some true) by decide +kernel)
  obtain ⟨hret, hexec⟩ := Prod.mk.inj hf
  obtain ⟨e, hi, hd⟩ := Option.map_eq_some_iff.mp hexec
  refine ⟨tr, s, hrun, hret, ?_⟩
  rcases returned_of_run hrun hret with hall | ⟨_, hhttp⟩
  · rw [hi, Option.map_some, hall 0 e hi (of_decide_eq_true hd)]
  · cases hhttp

/-! ### What a clean stop leaves in the database -/

/-- The row of a task has a terminal status. -/
def Concluded (id : ℤ) (c : Cluster) : Prop :=
  ∃ row, c.queue.get id = some row ∧ row.status.terminal

/-- No terminal write of execution `i` failed. -/
def WritesReached (i : ℕ) (tr : List (Lts.Move Cluster Event)) : Prop :=
  ∀ m ∈ tr, ∀ now, m.label ≠ .write i false now

/-- Whether an event is a failed terminal write of execution `i`. -/
def Event.failsWrite (i : ℕ) : Event → Bool
  | .write j ok _ => j == i && !ok
  | _ => false

instance decidableWritesReached (i : ℕ) (tr : List (Lts.Move Cluster Event)) :
    Decidable (WritesReached i tr) :=
  decidable_of_iff (∀ m ∈ tr, m.label.failsWrite i = false) <| by
    refine forall₂_congr fun m _ => ⟨fun h now hl => ?_, fun h => ?_⟩
    · simp [hl, Event.failsWrite] at h
    · cases hl : m.label with
      | write j ok now =>
        cases ok with
        | true => simp [Event.failsWrite]
        | false => simpa [Event.failsWrite] using fun hj : j = i => h now (by rw [hl, hj])
      | _ => rfl

section

variable {c c' : Cluster} {ev : Event}

/-- A terminal status stays. -/
theorem Concluded.step {id : ℤ} (h : Concluded id c) (hO : Owned true c)
    (hs : c.step ev = some c') : Concluded id c' := by
  obtain ⟨row, hrow, hterm⟩ := h
  obtain ⟨row', hrow', hst⟩ := statusStep_of_step hO.writing hs hrow
  exact ⟨row', hrow', by rw [hst.eq_of_terminal hterm]; exact hterm⟩

theorem returning_of_effect (h : Effect c c' ev) {i : ℕ} {h' : Holding}
    (hi : c'.holdings[i]? = some h') :
    (∀ o ok, h'.phase = .written o ok → c.holdings[i]? = some h' ∨ ∃ now, ev = .write i ok now) ∧
      (h'.phase = .ended → c.holdings[i]? = some h' ∨
        ∃ h o ok, c.holdings[i]? = some h ∧ h.taskID = h'.taskID ∧ h.phase = .written o ok ∧
          c'.queue = c.queue) := by
  cases h with
  -- these steps leave the executions
  | quiet _ hexecs | enqueue _ _ _ hexecs | recover _ hexecs =>
    exact ⟨fun _ _ _ => .inl (hexecs ▸ hi), fun _ => .inl (hexecs ▸ hi)⟩
  | claim _ _ _ _ _ _ hexecs =>
    rw [hexecs] at hi
    rcases getElem?_snoc_cases hi with hi | ⟨-, rfl⟩
    · exact ⟨fun _ _ _ => .inl hi, fun _ => .inl hi⟩
    · exact ⟨nofun, nofun⟩
  -- of the moves within `execute` only the last one ends it, behind its write
  | progress j h0 p hj hp hqueue hexecs =>
    rw [hexecs] at hi
    rcases getElem?_set_cases hi with ⟨rfl, rfl⟩ | ⟨-, hi⟩
    · generalize hphase : h0.phase = q at hp
      cases hp with
      | done => exact ⟨nofun, fun _ => .inr ⟨h0, _, _, hj, rfl, hphase, hqueue⟩⟩
      | _ => exact ⟨nofun, nofun⟩
    · exact ⟨fun _ _ _ => .inl hi, fun _ => .inl hi⟩
  | markRunning h0 _ _ _ hexecs =>
    rw [hexecs] at hi
    rcases getElem?_set_cases hi with ⟨rfl, rfl⟩ | ⟨-, hi⟩
    · exact ⟨nofun, nofun⟩
    · exact ⟨fun _ _ _ => .inl hi, fun _ => .inl hi⟩
  -- the execution that writes is the one at `i`, or another
  | @write j ok now h0 o hj _ _ hexecs =>
    rw [hexecs] at hi
    rcases getElem?_set_cases hi with ⟨rfl, rfl⟩ | ⟨-, hi⟩
    · exact ⟨fun _ _ hp => .inr ⟨now, by cases hp; rfl⟩, nofun⟩
    · exact ⟨fun _ _ _ => .inl hi, fun _ => .inl hi⟩
  | crash _ hexecs =>
    rw [hexecs, List.getElem?_map] at hi
    obtain ⟨h0, hi, heq⟩ := Option.map_eq_some_iff.mp hi
    split at heq
    · rw [← heq]
      exact ⟨nofun, nofun⟩
    · rw [← heq]
      exact ⟨fun _ _ _ => .inl hi, fun _ => .inl hi⟩

/-- **An execution that has returned, and whose terminal write did not fail, leaves a
terminal status on its task**, in a run with orderly recoveries. -/
theorem concluded_of_ended {tr : List (Lts.Move Cluster Event)} (h : cluster.Run tr c)
    (hrec : ∀ m ∈ tr, OrderlyRecovery true m) {i : ℕ} (hok : WritesReached i tr) {hd : Holding}
    (hi : c.holdings[i]? = some hd) (hended : hd.phase = .ended) : Concluded hd.taskID c := by
  have key : Owned true c ∧ ∀ hd, c.holdings[i]? = some hd →
      (∀ o ok, hd.phase = .written o ok → ok = true) ∧
        (hd.phase = .ended → Concluded hd.taskID c) := by
    refine Lts.Run.invariant_of
      (I := fun _ c => Owned true c ∧ ∀ hd, c.holdings[i]? = some hd →
        (∀ o ok, hd.phase = .written o ok → ok = true) ∧
          (hd.phase = .ended → Concluded hd.taskID c))
      (C := fun m => OrderlyRecovery true m ∧ ∀ now, m.label ≠ .write i false now) ?_ ?_ h
      fun m hm => ⟨hrec m hm, hok m hm⟩
    · rintro c rfl
      exact ⟨owned_freshCluster, fun hd hi => by cases hi⟩
    · rintro tr c ev c' - ⟨hO, hI⟩ hstep ⟨hC, hok⟩
      have heff := effect_of_step hstep
      refine ⟨owned_of_effect hO heff hC, fun hd hi => ?_⟩
      obtain ⟨hwritten, hended⟩ := returning_of_effect heff hi
      constructor
      · intro o ok hp
        rcases hwritten o ok hp with hi | ⟨now, rfl⟩
        · exact (hI hd hi).1 o ok hp
        · cases ok with
          | true => rfl
          | false => exact absurd rfl (hok now)
      · intro hp
        rcases hended hp with hi | ⟨h0, o, ok, hi, htask, hp0, hqueue⟩
        · exact ((hI hd hi).2 hp).step hO hstep
        · -- it has just returned, behind a write that reached the table
          obtain rfl := (hI h0 hi).1 o ok hp0
          obtain ⟨l, hl, hfits⟩ := hO.fits hi (by rw [hp0]; rfl)
          obtain ⟨row, hrow, rfl⟩ := lease_eq_some_iff.mp hl
          rw [hp0] at hfits
          refine ⟨row, by rw [hqueue, ← htask, hrow], ?_⟩
          rw [show row.status = o.status from hfits]
          exact o.terminal_status
  exact (key.2 hd hi).2 hended

end

/-- **A clean stop leaves a terminal status on every task the process claimed** whose
terminal write did not fail, as long as recoveries were orderly. -/
theorem concluded_of_run {tr : List (Lts.Move Service Service.Op)} (h : (service timeout).Run tr s)
    (hret : s.main = .returned none)
    (hrec : ∀ m ∈ clusterMoves timeout tr, OrderlyRecovery true m) {i : ℕ} {e : Exec}
    (hi : s.cluster.execs[i]? = some e) (hd : e.daemon = s.daemon)
    (hok : WritesReached i (clusterMoves timeout tr)) : Concluded e.taskID s.cluster := by
  rcases returned_of_run h hret with hall | ⟨_, hhttp⟩
  · exact concluded_of_ended (clusterRun_of_service h) hrec hok (getElem?_holdings hi)
      (hall i e hi hd)
  · cases hhttp

theorem concluded_of_run_sample : ∃ tr s, (service 30).Run tr s ∧ s.main = .returned none ∧
    (s.cluster.queue.get 1).map Task.status = some .canceled ∧ Concluded 1 s.cluster := by
  obtain ⟨tr, s, hrun, hf⟩ := exists_serviceRun 30 stopOps
    (fun r => (decide (r.2.main = .returned none ∧
        (∀ m ∈ clusterMoves 30 r.1, OrderlyRecovery true m) ∧
        WritesReached 0 (clusterMoves 30 r.1)),
      (r.2.cluster.queue.get 1).map Task.status,
      (r.2.cluster.execs[0]?).map fun e : Exec => (decide (e.daemon = r.2.daemon), e.taskID)))
    (show _ = some (true, some Status.canceled, some (true, (1 : ℤ))) by decide +kernel)
  obtain ⟨hdec, hstatus, hexec⟩ := by simpa only [Prod.mk.injEq] using hf
  obtain ⟨hret, hrec, hok⟩ := of_decide_eq_true hdec
  obtain ⟨e, hi, he⟩ := Option.map_eq_some_iff.mp hexec
  obtain ⟨hd, htask⟩ := Prod.mk.inj he
  refine ⟨tr, s, hrun, hret, hstatus, ?_⟩
  have hconcluded := concluded_of_run hrun hret hrec hi (of_decide_eq_true hd) hok
  rw [htask] at hconcluded
  exact hconcluded

end

end Server
end Shrimp
