import Mathlib.Algebra.Order.BigOperators.Group.List
import Shrimp.Server.Host
import Shrimp.Server.Timeline

/-!
# The backlog can be worked off (`server/daemon.go`)

A scheduler whose counters, registrations and free slots came apart would leave tasks in
the queue for good.  It does not: wherever a daemon is that has not been told to stop, its
own steps lead to a state in which nothing is in its slots, the loop waits for the next
tick, and every task that was pending for a registered agent is completed.  Every one of
those steps succeeds: no statement fails, and no child whose context is not done.

## Main definitions

* `Host.advances` — the steps of the daemon, its loop and its executions that succeed.
* `Queue.awaiting` — the tasks that are pending for a registered agent.
* `Tended` — a task is pending, completed, or in the hands of an execution on its way to
  complete it.
* `Host.ahead` — the measure: what lies ahead of the daemon.

## Main results

* `exists_work`, `exists_statement`, `exists_tick` — **there is always a step that lowers the
  measure.**
* `completed_of_run` — **every task that is pending for a registered agent can be
  completed**, from every state of a run with orderly recoveries.
-/

namespace Shrimp
namespace Server

open Cluster

/-! ### The steps -/

/-- The steps of the daemon, its loop and its executions that succeed, with `now()`.  A
child fails only when its context is done. -/
def Host.advances (h : Host) (now : Time) : Host.Act → Prop
  | .run (.start i) | .run (.spawn i) | .run (.done i) => i ∈ h.places
  | .run (.exit i _ err) =>
    i ∈ h.places ∧ (err = none ∨ (h.cluster.execs[i]?).any h.cluster.ctxErr)
  | .run (.markRunning i true t) | .run (.write i true t) => i ∈ h.places ∧ t = now
  | .claim locked _ t => locked = [] ∧ t = now
  | .loop op => op ≠ .stop ∧ op ≠ .claim .error
  | .finish _ => True
  | _ => False

/-- An execution that nothing keeps from completing its task. -/
def Exec.onTrack (e : Exec) : Prop :=
  match e.phase with
  | .launched | .started | .marked | .running => e.ctxDone = false
  | .finishing (.completed _) => True
  | _ => False

/-- The next step of an execution that has not returned. -/
def Cluster.nextOf (c : Cluster) (now : Time) (i : ℕ) (e : Exec) : Event :=
  match e.phase with
  | .launched => .start i
  | .started => .markRunning i true now
  | .marked => if c.ctxErr e then .exit i "" (some "context canceled") else .spawn i
  | .running => .exit i "" none
  | .finishing _ => .write i true now
  | _ => .done i

/-- How many steps an execution has ahead of it, with the one that gives up its slot. -/
def Phase.ahead : Phase → ℕ
  | launched => 7
  | started => 6
  | marked => 5
  | running => 4
  | finishing _ => 3
  | written _ _ => 2
  | ended => 1
  | crashed => 0

/-- What an execution writes when it finishes. -/
def Exec.writes (e : Exec) (now : Time) (q : Queue) : Queue :=
  match e.phase with
  | .started => q.markRunning e.taskID now
  | .finishing o => o.write q e.taskID now
  | _ => q

section

variable {c c' : Cluster}

/-- **Each of these steps can be made.** -/
theorem exists_nextOf (now : Time) {i : ℕ} {e : Exec} (hi : c.execs[i]? = some e)
    (hcrashed : e.phase ≠ .crashed) (hended : e.phase ≠ .ended)
    (hstop : (c.daemons[e.daemon]?).any Daemon.stopping = false) :
    ∃ c' e', c.step (c.nextOf now i e) = some c' ∧ c'.execs = c.execs.set i e' ∧
      c'.queue = e.writes now c.queue ∧ e'.taskID = e.taskID ∧
      e'.phase.ahead < e.phase.ahead ∧
      (e.onTrack → e'.onTrack ∨ ∃ r, e.phase = .finishing (.completed r)) := by
  have hstep (ev : Event) {k : Exec → Option Cluster} {c' : Cluster}
      (hev : c.nextOf now i e = ev) (hon : c.step ev = c.onExec i k) (hk : k e = some c') :
      c.step (c.nextOf now i e) = some c' := by
    rw [hev, hon]
    exact onExec_eq_some_iff.mpr ⟨e, hi, hk⟩
  -- the next operation of the execution, by its phase; the results are those of a good run
  cases hp : e.phase with
  | launched =>
    refine ⟨_, _, hstep (.start i) (by simp [nextOf, hp]) rfl (if_pos hp), rfl, ?_,
      rfl, by simp [Phase.ahead], ?_⟩
    · simp [Exec.writes, hp]
    · intro h
      simp only [Exec.onTrack, hp] at h
      exact .inl h
  | started =>
    refine ⟨_, _, hstep (.markRunning i true now) (by simp [nextOf, hp]) rfl (if_pos hp), rfl, ?_,
      rfl, by simp [Phase.ahead], ?_⟩
    · simp [Exec.writes, hp, Cluster.wrote]
    · intro h
      simp only [Exec.onTrack, hp] at h
      exact .inl h
  -- a canceled context ends the execution there
  | marked =>
    by_cases hctx : c.ctxErr e
    · refine ⟨_, _, hstep (.exit i "" (some "context canceled")) (by simp [nextOf, hp, hctx]) rfl
        (if_pos (.inr ⟨hp, rfl, rfl⟩)), rfl, ?_,
      rfl, by simp [Phase.ahead], ?_⟩
      · simp [Exec.writes, hp]
      · intro h
        simp only [Exec.onTrack, hp] at h
        simp [Cluster.ctxErr, h, hstop] at hctx
    · refine ⟨_, _, hstep (.spawn i) (by simp [nextOf, hp, hctx]) rfl
        (if_pos ⟨hp, Bool.eq_false_of_not_eq_true hctx⟩), rfl, ?_,
      rfl, by simp [Phase.ahead], ?_⟩
      · simp [Exec.writes, hp]
      · intro h
        simp only [Exec.onTrack, hp] at h
        exact .inl h
  | running =>
    refine ⟨_, _, hstep (.exit i "" none) (by simp [nextOf, hp]) rfl (if_pos (.inl hp)), rfl, ?_,
      rfl, by simp [Phase.ahead], ?_⟩
    · simp [Exec.writes, hp]
    · intro _
      exact .inl trivial
  | finishing o =>
    refine ⟨{ c.setExec i { e with phase := .written o true } with
      queue := c.wrote true (o.write c.queue e.taskID now) }, { e with phase := .written o true },
      hstep (.write i true now) (by simp only [nextOf, hp]) rfl ?_, rfl, ?_,
      rfl, by simp [Phase.ahead], ?_⟩
    · simp only [hp]
    · simp [Exec.writes, hp, Cluster.wrote]
    · intro h
      cases o with
      | completed r => exact .inr ⟨r, rfl⟩
      | failed | canceled => simp [Exec.onTrack, hp] at h
  | written o ok =>
    refine ⟨(c.setExec i { e with phase := .ended, ctxDone := true }).setCancels e.daemon
      (·.erase e.taskID), { e with phase := .ended, ctxDone := true },
      hstep (.done i) (by simp only [nextOf, hp]) rfl ?_, rfl, ?_,
      rfl, by simp [Phase.ahead], ?_⟩
    · simp only [hp]
    · simp [Exec.writes, hp]
    · intro h
      simp [Exec.onTrack, hp] at h
  | ended => exact absurd hp hended
  | crashed => exact absurd hp hcrashed

theorem nextOf_cases (now : Time) (i : ℕ) (e : Exec) :
    c.nextOf now i e = .start i ∨ c.nextOf now i e = .markRunning i true now ∨
      c.nextOf now i e = .spawn i ∨
      (∃ r err, c.nextOf now i e = .exit i r err ∧ (err = none ∨ c.ctxErr e)) ∨
      c.nextOf now i e = .write i true now ∨ c.nextOf now i e = .done i := by
  unfold nextOf
  cases e.phase with
  | marked => by_cases hctx : c.ctxErr e <;> simp [hctx]
  | _ => simp

end

theorem nextOf_ne (c : Cluster) (now : Time) (i : ℕ) (e : Exec) :
    (∀ d agentIDs locked scan t, c.nextOf now i e ≠ .claim d agentIDs locked scan t) ∧
      (∀ timeout t, c.nextOf now i e ≠ .recover timeout t) ∧
      (∀ d, c.nextOf now i e ≠ .shutdown d) ∧
      ∀ lost agentID prompt priority t,
        c.nextOf now i e ≠ .enqueue lost agentID prompt priority t := by
  rcases nextOf_cases (c := c) now i e with h | h | h | ⟨r, err, h, -⟩ | h | h <;> rw [h] <;> simp

theorem Host.advances_nextOf {h : Host} (now : Time) {i : ℕ} {e : Exec}
    (he : h.cluster.execs[i]? = some e) (hi : i ∈ h.places)
    (htake : i ∈ h.places.take h.scheduler.goroutines.length) :
    h.permits (h.cluster.nextOf now i e) = true ∧
      h.advances now (.run (h.cluster.nextOf now i e)) := by
  rcases nextOf_cases (c := h.cluster) now i e with
    hev | hev | hev | ⟨r, err, hev, herr⟩ | hev | hev
  case inr.inr.inr.inl =>
    rw [hev]
    exact ⟨rfl, hi, herr.imp_right fun hctx => by rw [he, Option.any_some, hctx]⟩
  all_goals
    rw [hev]
    simp [Host.permits, Host.advances, hi, htake]

/-! ### What becomes of a pending task -/

/-- The tasks that are pending for a registered agent. -/
def Queue.awaiting (reg : Registry) (q : Queue) : List (ℤ × Task) :=
  q.rows.entries.filter fun e => e.2.status = .pending ∧ (reg.get? e.2.agentID).isSome

theorem Queue.mem_awaiting_iff {reg : Registry} {q : Queue} {id : ℤ} {row : Task} :
    (id, row) ∈ q.awaiting reg ↔
      q.get id = some row ∧ row.status = .pending ∧ (reg.get? row.agentID).isSome := by
  rw [awaiting, List.mem_filter, decide_eq_true_eq]
  exact and_congr_left' ⟨Dict.get?_of_mem, Dict.mem_of_get?⟩

theorem Queue.nodup_awaiting (reg : Registry) (q : Queue) :
    ((q.awaiting reg).map Prod.fst).Nodup :=
  (List.filter_sublist.map Prod.fst).nodup q.rows.nodup

/-- Where every task that is waiting was waiting before, no more are. -/
theorem Queue.length_awaiting_le {reg : Registry} {q q' : Queue}
    (h : ∀ id row', (id, row') ∈ q'.awaiting reg → ∃ row, (id, row) ∈ q.awaiting reg) :
    (q'.awaiting reg).length ≤ (q.awaiting reg).length := by
  have hsub : (q'.awaiting reg).map Prod.fst ⊆ (q.awaiting reg).map Prod.fst := by
    intro id hid
    obtain ⟨⟨_, row'⟩, hx, rfl⟩ := List.mem_map.mp hid
    obtain ⟨row, hrow⟩ := h _ row' hx
    exact List.mem_map.mpr ⟨_, hrow, rfl⟩
  have hle := (List.subperm_of_subset (q'.nodup_awaiting reg) hsub).length_le
  rwa [List.length_map, List.length_map] at hle

theorem Queue.length_awaiting_set {reg : Registry} {q : Queue} {id : ℤ} {row : Task}
    (hmem : (id, row) ∈ q.awaiting reg) (workerID : String) (now : Time) :
    ((q.set id (claimTask workerID now)).awaiting reg).length < (q.awaiting reg).length := by
  -- what waits after the claim has waited before, without the row that was claimed
  set q' := q.set id (claimTask workerID now)
  have hback : ∀ id' row', (id', row') ∈ q'.awaiting reg →
      id' ≠ id ∧ (id', row') ∈ q.awaiting reg := by
    intro id' row' hmem'
    obtain ⟨hrow', hpending, hreg⟩ := mem_awaiting_iff.mp hmem'
    rw [Queue.get_set] at hrow'
    split at hrow'
    · obtain ⟨row₀, -, rfl⟩ := Option.map_eq_some_iff.mp hrow'
      cases hpending
    · next hne => exact ⟨hne, mem_awaiting_iff.mpr ⟨hrow', hpending, hreg⟩⟩
  have hsub : id :: (q'.awaiting reg).map Prod.fst ⊆ (q.awaiting reg).map Prod.fst := by
    intro id' hid'
    rcases List.mem_cons.mp hid' with rfl | hid'
    · exact List.mem_map.mpr ⟨_, hmem, rfl⟩
    · obtain ⟨⟨_, row'⟩, hx, rfl⟩ := List.mem_map.mp hid'
      exact List.mem_map.mpr ⟨_, (hback _ row' hx).2, rfl⟩
  have hnodup : (id :: (q'.awaiting reg).map Prod.fst).Nodup := by
    refine List.nodup_cons.mpr ⟨fun hid => ?_, q'.nodup_awaiting reg⟩
    obtain ⟨⟨_, row'⟩, hx, rfl⟩ := List.mem_map.mp hid
    exact (hback _ row' hx).1 rfl
  have hle := (List.subperm_of_subset hnodup hsub).length_le
  rwa [List.length_cons, List.length_map, List.length_map] at hle

section

variable {s : Cluster} {id : ℤ} {ev : Event} {row row' : Task}

/-- Only a claim and a recovery begin or end the wait of a task. -/
theorem RowMove.pending_iff (hm : RowMove s id ev row row')
    (hclaim : ∀ d agentIDs locked scan now, ev ≠ .claim d agentIDs locked scan now)
    (hrec : ∀ timeout now, ev ≠ .recover timeout now) :
    row'.status = .pending ↔ row.status = .pending := by
  have of_held (hheld : row.status.held) : row.status ≠ .pending := by
    intro hp
    rw [hp] at hheld
    cases hheld
  cases hm with
  | keep | flag => exact Iff.rfl
  | claim => exact absurd rfl (hclaim _ _ _ _ _)
  | start _ _ _ _ hclaimed => simp [hclaimed]
  | beat hheld => exact Iff.rfl
  | finish _ o _ _ _ hheld =>
    refine iff_of_false (fun hp => ?_) (of_held hheld)
    cases o <;> cases hp
  | reset => exact absurd rfl (hrec _ _)

end

/-- A task that will be completed by nothing but steps that succeed. -/
def Tended (reg : Registry) (h : Host) (id : ℤ) : Prop :=
  ∃ row, h.cluster.queue.get id = some row ∧ (row.status = .completed ∨
    (row.status = .pending ∧ (reg.get? row.agentID).isSome) ∨
    ∃ i ∈ h.places, ∃ e, h.cluster.execs[i]? = some e ∧ e.taskID = id ∧ e.onTrack)

section

variable {reg : Registry} {h : Host}

theorem rowMove_of_get {c : Cluster} {ev : Event} (hO : Owned false h.cluster)
    (hc : h.cluster.step ev = some c) {id : ℤ} {row : Task}
    (hrow : h.cluster.queue.get id = some row) :
    ∃ row', c.queue.get id = some row' ∧ row'.agentID = row.agentID ∧
      RowMove h.cluster id ev row row' := by
  obtain ⟨row', hrow', hagent⟩ := agentID_of_step hc hrow
  refine ⟨row', hrow', hagent, ?_⟩
  rcases rowMove_of_step hO hc hrow' with ⟨hnone, -⟩ | ⟨row₀, hrow₀, hm⟩
  · rw [hrow] at hnone
    cases hnone
  · rw [hrow] at hrow₀
    cases hrow₀
    exact hm

/-- **The next step of an execution** leaves every task tended. -/
theorem tended_of_nextOf (hO : Owned false h.cluster) {now : Time} {i : ℕ} {e e' : Exec}
    {c : Cluster} (hi : h.cluster.execs[i]? = some e)
    (hc : h.cluster.step (h.cluster.nextOf now i e) = some c)
    (hexecs : c.execs = h.cluster.execs.set i e') (hqueue : c.queue = e.writes now h.cluster.queue)
    (htask : e'.taskID = e.taskID)
    (htrack : e.onTrack → e'.onTrack ∨ ∃ r, e.phase = .finishing (.completed r)) {id : ℤ}
    (ht : Tended reg h id) : Tended reg { h with cluster := c } id := by
  obtain ⟨row, hrow, hor⟩ := ht
  obtain ⟨row', hrow', hagent, hm⟩ := rowMove_of_get hO hc hrow
  refine ⟨row', hrow', ?_⟩
  -- the task is completed, waits, or has an execution on track, which may be this one
  rcases hor with hdone | ⟨hpending, hreg⟩ | ⟨j, hj, e₀, he₀, htask₀, htrack₀⟩
  · exact .inl (by rw [hm.eq_of_terminal (by rw [hdone]; rfl)]; exact hdone)
  · obtain ⟨hclaim, hrec, -⟩ := nextOf_ne h.cluster now i e
    exact .inr (.inl ⟨(hm.pending_iff hclaim hrec).mpr hpending, hagent ▸ hreg⟩)
  by_cases hji : j = i
  · subst hji
    obtain rfl := Option.some.inj (hi.symm.trans he₀)
    rcases htrack htrack₀ with htrack' | ⟨r, hp⟩
    · refine .inr (.inr ⟨j, hj, e', ?_, htask.trans htask₀, htrack'⟩)
      rw [hexecs, List.getElem?_set_self (List.getElem?_eq_some_iff.mp hi).1]
    · -- it has just written that its task is completed
      refine .inl ?_
      rw [Exec.writes, hp] at hqueue
      change c.queue = h.cluster.queue.complete e.taskID r now at hqueue
      change c.queue.get id = some row' at hrow'
      rw [hqueue, htask₀, Queue.complete, Queue.get_set, if_pos rfl, hrow] at hrow'
      cases hrow'
      rfl
  · refine .inr (.inr ⟨j, hj, e₀, ?_, htask₀, htrack₀⟩)
    rw [hexecs, List.getElem?_set_ne (Ne.symm hji), he₀]

/-- **A claim** leaves every task tended. -/
theorem tended_of_claim {d : ℕ} {agentIDs locked : List ℤ} {scan : ℤ → ℕ} {now : Time} {task : ℤ}
    {c : Cluster} (hc : h.cluster.step (.claim d agentIDs locked scan now) = some c)
    (htask : h.cluster.claimed (.claim d agentIDs locked scan now) = some task) {id : ℤ}
    (ht : Tended reg h id) (s : Scheduler) :
    Tended reg { h with
      cluster := c, scheduler := s, places := h.places ++ [h.cluster.execs.length] } id := by
  obtain ⟨workerID, row₁, -, hqueue, hexecs⟩ := claim_spec hc htask
  obtain ⟨row, hrow, hor⟩ := ht
  have hget : c.queue.get id =
      if id = task then some (Queue.claimTask workerID now row) else some row := by
    rw [hqueue, Queue.get_set, hrow]
    rfl
  by_cases hid : id = task
  · rw [if_pos hid] at hget
    refine ⟨_, hget, .inr (.inr ⟨h.cluster.execs.length, by simp,
      ⟨⟨d, task, workerID, .launched⟩, .idle, false⟩, ?_, hid.symm, rfl⟩)⟩
    rw [hexecs, List.getElem?_concat_length]
  · rw [if_neg hid] at hget
    refine ⟨row, hget, hor.imp_right (Or.imp_right ?_)⟩
    rintro ⟨j, hj, e₀, he₀, htrack⟩
    refine ⟨j, List.mem_append_left _ hj, e₀, ?_, htrack⟩
    rw [hexecs, List.getElem?_append_left (List.getElem?_eq_some_iff.mp he₀).1, he₀]

end

/-! ### What lies ahead -/

/-- How many statements the loop has ahead of it, while it claims nothing. -/
def Loop.ahead : Loop → ℕ
  | .waiting | .stopped => 0
  | .visiting todo => 1 + 2 * todo.length
  | .claiming _ _ _ todo => 2 + 2 * todo.length
  | .published _ _ _ _ todo => 3 + 2 * todo.length
  | .counted _ _ _ _ todo => 4 + 2 * todo.length
  | .claimed _ _ _ _ todo => 5 + 2 * todo.length

/-- How many steps the executions at these places have ahead of them. -/
def workAhead (c : Cluster) (places : List ℕ) : ℕ :=
  (places.map fun i => (c.execs[i]?).elim 0 fun e => e.phase.ahead).sum

/-- What lies ahead of a daemon.  A task that is waiting counts for its execution, the
statements around its claim and the tick it may take. -/
def Host.ahead (reg : Registry) (h : Host) : ℕ :=
  (11 + 2 * reg.values.length) * (h.cluster.queue.awaiting reg).length +
    workAhead h.cluster h.places + h.scheduler.loop.ahead

section

variable {c c' : Cluster} {places : List ℕ}

theorem workAhead_set {i : ℕ} {e e' : Exec} (hi : c.execs[i]? = some e) (hmem : i ∈ places)
    (hexecs : c'.execs = c.execs.set i e') (hlt : e'.phase.ahead < e.phase.ahead) :
    workAhead c' places < workAhead c places := by
  have hself : c'.execs[i]? = some e' := by
    rw [hexecs, List.getElem?_set_self (List.getElem?_eq_some_iff.mp hi).1]
  refine List.sum_lt_sum _ _ (fun j _ => ?_) ⟨i, hmem, ?_⟩
  · by_cases hji : j = i
    · subst hji
      rw [hself, hi]
      exact hlt.le
    · rw [hexecs, List.getElem?_set_ne (Ne.symm hji)]
  · rw [hself, hi]
    exact hlt

theorem workAhead_snoc {e : Exec} (hexecs : c'.execs = c.execs ++ [e])
    (hlt : ∀ i ∈ places, i < c.execs.length) :
    workAhead c' (places ++ [c.execs.length]) = workAhead c places + e.phase.ahead := by
  have hrest : (places.map fun i => (c'.execs[i]?).elim 0 fun e => e.phase.ahead) =
      places.map fun i => (c.execs[i]?).elim 0 fun e => e.phase.ahead := by
    refine List.map_congr_left fun i hi => ?_
    rw [hexecs, List.getElem?_append_left (hlt i hi)]
  unfold workAhead
  rw [List.map_append, List.sum_append, hrest, hexecs]
  simp

end

section

variable {reg : Registry} {h h' : Host}

/-- The daemon is up, and its loop stops with the root context only. -/
structure Alive (h : Host) : Prop where
  up : ∃ dm, h.cluster.daemons[h.daemon]? = some dm ∧ dm.up = true
  stopped : h.scheduler.loop = .stopped → h.stopping = true

/-- The loop ends at a `stop`. -/
theorem stopped_of_step {s s' : Scheduler} {op : Op} (hs : s.step reg op = some s')
    (hstopped : s'.loop = .stopped) : op = .stop ∨ s.loop = .stopped := by
  cases op with
  | stop => exact .inl rfl
  | finish k =>
    simp only [Scheduler.step] at hs
    split at hs <;> cases hs
    next g _ =>
    refine .inr (Eq.trans ?_ hstopped)
    unfold Scheduler.removeInflight
    split <;> rfl
  | tick | claim =>
    simp only [Scheduler.step] at hs
    split at hs
    · split at hs
      · first
        | cases hs; cases hstopped
        | split at hs <;> cases hs <;> cases hstopped
      · cases hs
    · cases hs
  | visit | leave | add | publish | launch =>
    simp only [Scheduler.step] at hs
    split at hs <;> first
      | cases hs
      | (split at hs <;> cases hs)
    all_goals cases hstopped

theorem Alive.of_cluster (hA : Alive h) {c : Cluster} {ev : Event}
    (hc : h.cluster.step ev = some c) (hcrash : ev ≠ .crash h.daemon) :
    (∃ dm, c.daemons[h.daemon]? = some dm ∧ dm.up = true) ∧
      ((c.daemons[h.daemon]?).any Daemon.stopping = true ↔
        h.stopping = true ∨ ev = .shutdown h.daemon) := by
  obtain ⟨dm, hdm, hup⟩ := hA.up
  obtain ⟨dm', hdm', hf⟩ := daemon_of_step hc hdm
  refine ⟨⟨dm', hdm', hf.up.mpr ⟨hup, hcrash⟩⟩, ?_⟩
  rw [hdm', Option.any_some, Host.stopping, hdm, Option.any_some]
  exact hf.stopping

/-- **The step lemma.** -/
theorem alive_of_step (hA : Alive h) {a : Host.Act} (hm : Host.Moves reg h h' a) : Alive h' := by
  cases hm with
  | @run ev c hev hc hh =>
    have hcrash : ev ≠ .crash h.daemon := by
      rintro rfl
      simp [Host.permits] at hev
    obtain ⟨hup, hstop⟩ := hA.of_cluster hc hcrash
    exact hh ▸ ⟨hup, fun hs => hstop.mpr (.inl (hA.stopped hs))⟩
  | claimed c b free i task todo hloop hlt hc htask hh =>
    exact hh ▸ ⟨(hA.of_cluster hc (by simp)).1, fun hs => by cases hs⟩
  | noTask c b free i todo hloop hlt hc hnone hh =>
    exact hh ▸ ⟨(hA.of_cluster hc (by simp)).1, fun hs => by cases hs⟩
  | loop s hop hs hh =>
    refine hh ▸ ⟨hA.up, fun hstopped => ?_⟩
    rcases stopped_of_step hs hstopped with rfl | hbefore
    · exact hop
    · exact hA.stopped hbefore
  | finish i e s hi he hended hs hh =>
    refine hh ▸ ⟨hA.up, fun hstopped => hA.stopped ?_⟩
    exact (stopped_of_step hs hstopped).resolve_left (by simp)

/-- **The run lemma.** -/
theorem alive_of_run {configs : List (AgentConfig × ℤ)} {s : Cluster}
    {tr : List (Lts.Move Host Host.Act)} (hrun : (host configs s).Run tr h) : Alive h := by
  refine hrun.invariant (I := fun _ h => Alive h) ?_ fun _ _ _ _ _ hA hstep =>
    alive_of_step hA (Host.step_cases hstep)
  rintro h ⟨workerID, c, hc, rfl⟩
  cases hc
  exact ⟨⟨_, List.getElem?_concat_length, rfl⟩, fun hs => by cases hs⟩

/-! ### The way there -/

/-- What is kept on the way. -/
structure Working (reg : Registry) (waits : ℤ → Prop) (h : Host) : Prop where
  owned : Owned false h.cluster
  going : h.stopping = false
  tended : ∀ id, waits id → Tended reg h id

variable {waits : ℤ → Prop}

/-- A statement of the loop, or the return of an execution that tends no task. -/
theorem Working.of_scheduler (hW : Working reg waits h) {s : Scheduler} {places : List ℕ}
    (hplaces : ∀ i ∈ h.places, ∀ e, h.cluster.execs[i]? = some e → e.onTrack → i ∈ places) :
    Working reg waits { h with scheduler := s, places := places } where
  owned := hW.owned
  going := hW.going
  tended id hid := by
    obtain ⟨row, hrow, hor⟩ := hW.tended id hid
    refine ⟨row, hrow, hor.imp_right (Or.imp_right ?_)⟩
    rintro ⟨i, hi, e, he, htask, htrack⟩
    exact ⟨i, hplaces i hi e he htrack, e, he, htask, htrack⟩

theorem Working.of_cluster (hW : Working reg waits h) (hA : Alive h) {c : Cluster} {ev : Event}
    (hc : h.cluster.step ev = some c) (hcrash : ev ≠ .crash h.daemon)
    (hrec : ∀ timeout now, ev ≠ .recover timeout now) (hstop : ev ≠ .shutdown h.daemon)
    {s : Scheduler} {places : List ℕ}
    (ht : ∀ id, Tended reg h id →
      Tended reg { h with cluster := c, scheduler := s, places := places } id) :
    Working reg waits { h with cluster := c, scheduler := s, places := places } where
  owned := owned_of_effect hW.owned (effect_of_step hc) (orderly_of_ne_recover hrec)
  going := by
    refine Bool.eq_false_iff.mpr fun hs => ?_
    rcases ((hA.of_cluster hc hcrash).2.mp hs) with hs | hev
    · rw [hW.going] at hs
      cases hs
    · exact hstop hev
  tended id hid := ht id (hW.tended id hid)

theorem Staffed.exec_of_mem (hS : Staffed h) (hA : Alive h) (hP : h.cluster.Placed) {i : ℕ}
    (hi : i ∈ h.places) :
    ∃ e, h.cluster.execs[i]? = some e ∧ e.daemon = h.daemon ∧ e.phase ≠ .crashed := by
  obtain ⟨g, -, hserves⟩ := hS.serves.exists_of_mem hi
  obtain ⟨e, he, hd, -⟩ := hserves.exec
  obtain ⟨dm, hdm, hup⟩ := hA.up
  obtain ⟨dm', hdm', hiff⟩ := hP i e he
  rw [hd, hdm] at hdm'
  cases hdm'
  exact ⟨e, he, hd, hiff.mpr hup⟩

/-- **An execution advances, or gives up its slot.** -/
theorem exists_work (hS : Staffed h) (hA : Alive h) (hP : h.cluster.Placed)
    (hW : Working reg waits h) (now : Time) (hloop : h.scheduler.loop = .waiting)
    (hplaces : h.places ≠ []) : ∃ a h', h.step reg a = some h' ∧ h.advances now a ∧
      Working reg waits h' ∧ h'.ahead reg < h.ahead reg := by
  have howned : h.scheduler.owned = h.scheduler.goroutines := by
    simp [Scheduler.owned, hloop, Loop.ticket]
  have hlen : h.places.length = h.scheduler.goroutines.length := by
    rw [hS.serves.length_eq, howned]
  obtain ⟨i, rest, hcons⟩ := List.exists_cons_of_ne_nil hplaces
  have hmem : i ∈ h.places := by rw [hcons]; exact List.mem_cons_self
  obtain ⟨e, he, hd, hcrashed⟩ := hS.exec_of_mem hA hP hmem
  -- an execution that has returned gives up its slot; any other takes its next step
  by_cases hended : e.phase = .ended
  · obtain ⟨g, gs, hgs⟩ := List.exists_cons_of_ne_nil (l := h.scheduler.goroutines) (by
      rintro hnil
      rw [hnil, hcons] at hlen
      cases hlen)
    refine ⟨.finish 0, { h with
      scheduler := { h.scheduler.removeInflight g.agent.id with goroutines := gs }
      places := rest }, ?_, trivial, hW.of_scheduler fun j hj e' he' htrack => ?_, ?_⟩
    · simp [Host.step, Scheduler.step, hcons, hgs, he, hended]
    · rw [hcons] at hj
      refine (List.mem_cons.mp hj).resolve_left ?_
      rintro rfl
      obtain rfl := Option.some.inj (he.symm.trans he')
      simp [Exec.onTrack, hended] at htrack
    · have hloop' : ({ h.scheduler.removeInflight g.agent.id with goroutines := gs } :
          Scheduler).loop = h.scheduler.loop := by
        unfold Scheduler.removeInflight
        split <;> rfl
      unfold Host.ahead workAhead
      rw [hloop', hcons, List.map_cons, List.sum_cons, he, Option.elim_some, hended]
      simp only [Phase.ahead]
      omega
  · obtain ⟨c, e', hc, hexecs, hqueue, htask, hlt, htrack⟩ :=
      exists_nextOf now he hcrashed hended (hd ▸ hW.going)
    obtain ⟨hclaim, hrec, hstop, hinsert⟩ := nextOf_ne h.cluster now i e
    obtain ⟨hpermits, hadvances⟩ := Host.advances_nextOf now he hmem (by
      rw [← hlen, List.take_length]
      exact hmem)
    have hcrash : h.cluster.nextOf now i e ≠ .crash h.daemon := by
      intro heq
      rw [heq] at hpermits
      simp [Host.permits] at hpermits
    refine ⟨.run (h.cluster.nextOf now i e), { h with cluster := c }, ?_, hadvances,
      hW.of_cluster hA hc hcrash hrec (hstop _) fun id ht =>
        tended_of_nextOf hW.owned he hc hexecs hqueue htask htrack ht, ?_⟩
    · simp [Host.step, hpermits, hc]
    · -- what waits has waited before
      have hwait : (c.queue.awaiting reg).length ≤ (h.cluster.queue.awaiting reg).length := by
        refine Queue.length_awaiting_le fun id row' hrow' => ?_
        obtain ⟨hrow', hpending, hreg⟩ := Queue.mem_awaiting_iff.mp hrow'
        rcases rowMove_of_step hW.owned hc hrow' with ⟨-, _, _, _, _, _, heq, -⟩ | ⟨row, hrow, hm⟩
        · exact absurd heq (hinsert _ _ _ _ _)
        · obtain ⟨row'', hrow'', hagent, -⟩ := rowMove_of_get hW.owned hc hrow
          rw [hrow'] at hrow''
          cases hrow''
          exact ⟨row, Queue.mem_awaiting_iff.mpr
            ⟨hrow, (hm.pending_iff hclaim hrec).mp hpending, hagent ▸ hreg⟩⟩
      have hwork := workAhead_set he hmem hexecs hlt
      have hmul := Nat.mul_le_mul_left (11 + 2 * reg.values.length) hwait
      unfold Host.ahead
      dsimp only
      omega

/-- **A claim.**  If a task of the agent is waiting, one of them waits no longer. -/
theorem exists_claim (hS : Staffed h) (hC : Counted reg h.scheduler) (hA : Alive h)
    (hW : Working reg waits h) (now : Time) (scan : ℤ → ℕ) {a : Agent} {free i : ℤ}
    {todo : List Agent} (hloop : h.scheduler.loop = .claiming a free i todo) (hlt : i < free) :
    ∃ h', h.step reg (.claim [] scan now) = some h' ∧ Working reg waits h' ∧
      h'.ahead reg < h.ahead reg ∧ ((∃ x ∈ h.cluster.queue.awaiting reg, x.2.agentID = a.id) →
        h'.ahead reg + (1 + 2 * reg.values.length) ≤ h.ahead reg) := by
  set ev := Event.claim h.daemon [a.id] [] scan now with hev
  obtain ⟨dm, hdm, hup⟩ := hA.up
  have hsome : ∃ c, h.cluster.step ev = some c := by
    simp only [hev, Cluster.step, hdm, hup, if_true]
    split <;> exact ⟨_, rfl⟩
  obtain ⟨c, hc⟩ := hsome
  -- no row for the agent ends the loop over its slots; a row is one less that waits
  cases htask : h.cluster.claimed ev with
  | none =>
    have hsame := eq_of_noTask hc htask
    refine ⟨{ h with scheduler := { h.scheduler with loop := .visiting todo } }, ?_,
      hW.of_scheduler fun i hi _ _ _ => hi, ?_, ?_⟩
    · simp [Host.step, Scheduler.step, hloop, ← hev, hc, hsame, Cluster.answer, htask, hlt]
    · simp only [Host.ahead, hloop, Loop.ahead]
      omega
    · rintro ⟨⟨id, row⟩, hx, hagent⟩
      obtain ⟨hrow, hpending, -⟩ := Queue.mem_awaiting_iff.mp hx
      simp only [hev, Cluster.claimed, hdm, Option.bind_some, Option.map_eq_none_iff] at htask
      have hnot := Queue.claim_eq_none_iff.mp htask id row hrow
      rw [Queue.claimable, decide_eq_true_eq] at hnot
      exact absurd ⟨hpending, List.mem_singleton.mpr hagent, by simp⟩ hnot
  | some task =>
    obtain ⟨workerID, row, hnext, hqueue, hexecs⟩ := claim_spec hc htask
    obtain ⟨hrow, hpending, hagent⟩ := pending_of_nextTask hnext
    rw [List.mem_singleton] at hagent
    obtain ⟨hreg, -⟩ := hC.current a (free - i) (by rw [hloop]; rfl)
    have hmem : (task, row) ∈ h.cluster.queue.awaiting reg :=
      Queue.mem_awaiting_iff.mpr ⟨hrow, hpending, by rw [hagent, hreg]; rfl⟩
    refine ⟨{ h with
      cluster := c
      scheduler := { h.scheduler with loop := .claimed a free i task todo }
      places := h.places ++ [h.cluster.execs.length] }, ?_,
      hW.of_cluster hA hc (by simp [hev]) (by simp [hev]) (by simp [hev]) fun id ht =>
        tended_of_claim hc htask ht _, ?_⟩
    · simp [Host.step, Scheduler.step, hloop, ← hev, hc, Cluster.answer, htask, hlt]
    · have hwork := workAhead_snoc hexecs fun i hi => by
        obtain ⟨g, -, hserves⟩ := hS.serves.exists_of_mem hi
        obtain ⟨e, he, -⟩ := hserves.exec
        exact (List.getElem?_eq_some_iff.mp he).1
      have hwait := Nat.mul_le_mul_left (11 + 2 * reg.values.length)
        (Queue.length_awaiting_set hmem workerID now)
      rw [← hqueue, Nat.mul_succ] at hwait
      simp only [Phase.ahead] at hwork
      have hless : Host.ahead reg { h with
          cluster := c
          scheduler := { h.scheduler with loop := .claimed a free i task todo }
          places := h.places ++ [h.cluster.execs.length] } + (1 + 2 * reg.values.length) ≤
            h.ahead reg := by
        simp only [Host.ahead, hloop, Loop.ahead]
        omega
      exact ⟨by omega, fun _ => hless⟩

/-- **The loop advances** within a tick. -/
theorem exists_statement (hS : Staffed h) (hC : Counted reg h.scheduler) (hA : Alive h)
    (hW : Working reg waits h) (now : Time) (scan : ℤ → ℕ) (hloop : h.scheduler.loop ≠ .waiting) :
    ∃ a h', h.step reg a = some h' ∧ h.advances now a ∧ Working reg waits h' ∧
      h'.ahead reg < h.ahead reg := by
  have of_loop (op : Op) {s : Scheduler} (hop : h.own op = true)
      (hadv : op ≠ .stop ∧ op ≠ .claim .error) (hs : h.scheduler.step reg op = some s)
      (hlt : s.loop.ahead < h.scheduler.loop.ahead) :
      ∃ a h', h.step reg a = some h' ∧ h.advances now a ∧ Working reg waits h' ∧
        h'.ahead reg < h.ahead reg := by
    refine ⟨.loop op, { h with scheduler := s }, by simp [Host.step, hop, hs], hadv,
      hW.of_scheduler fun i hi _ _ _ => hi, ?_⟩
    simp only [Host.ahead]
    omega
  -- one statement of the loop, by where the loop is
  cases hl : h.scheduler.loop with
  | waiting => exact absurd hl hloop
  | stopped =>
    have hstop := hA.stopped hl
    rw [hW.going] at hstop
    cases hstop
  | visiting todo =>
    cases todo with
    | nil =>
      refine of_loop .visit rfl (by simp) (by simp only [Scheduler.step, hl]; rfl) ?_
      simp [hl, Loop.ahead]
    | cons a todo =>
      refine of_loop .visit rfl (by simp) (by simp only [Scheduler.step, hl]; rfl) ?_
      simp only [hl, Loop.ahead, List.length_cons]
      omega
  | claiming a free i todo =>
    by_cases hlt : i < free
    · obtain ⟨h', hstep, hW', hless, -⟩ := exists_claim hS hC hA hW now scan hl hlt
      exact ⟨.claim [] scan now, h', hstep, ⟨rfl, rfl⟩, hW', hless⟩
    · refine of_loop .leave rfl (by simp)
        (by simp only [Scheduler.step, hl, if_neg hlt]; rfl) ?_
      simp only [hl, Loop.ahead]
      omega
  | claimed a free i task todo =>
    refine of_loop .add rfl (by simp) (by simp only [Scheduler.step, hl]; rfl) ?_
    simp only [hl, Loop.ahead]
    omega
  | counted a free i task todo =>
    refine of_loop .publish rfl (by simp) (by simp only [Scheduler.step, hl]; rfl) ?_
    simp only [hl, Loop.ahead]
    omega
  | published a free i task todo =>
    refine of_loop .launch rfl (by simp) (by simp only [Scheduler.step, hl]; rfl) ?_
    simp only [hl, Loop.ahead]
    omega

/-- **A tick claims a task** that is waiting, when all slots are free: the agents may be
visited in any order. -/
theorem exists_tick (hreg : Registered reg) (hS : Staffed h) (hC : Counted reg h.scheduler)
    (hA : Alive h) (hW : Working reg waits h) (now : Time) (scan : ℤ → ℕ)
    (hloop : h.scheduler.loop = .waiting) (hplaces : h.places = [])
    (hwait : h.cluster.queue.awaiting reg ≠ []) :
    ∃ a₁ h₁ a₂ h₂ a₃ h₃, h.step reg a₁ = some h₁ ∧ h₁.step reg a₂ = some h₂ ∧
      h₂.step reg a₃ = some h₃ ∧ h.advances now a₁ ∧ h₁.advances now a₂ ∧ h₂.advances now a₃ ∧
      Working reg waits h₃ ∧ h₃.ahead reg < h.ahead reg := by
  obtain ⟨⟨id, row⟩, hx⟩ := List.exists_mem_of_ne_nil _ hwait
  obtain ⟨-, -, hsome⟩ := Queue.mem_awaiting_iff.mp hx
  obtain ⟨a, ha⟩ := Option.isSome_iff_exists.mp hsome
  obtain ⟨hid, hmax⟩ := hreg _ a ha
  have hmem : a ∈ reg.values := List.mem_map.mpr ⟨_, Dict.mem_of_get? ha, rfl⟩
  -- nobody is in a slot, so the counter of the agent is zero
  have hgoroutines : h.scheduler.goroutines = [] := by
    have hlen := hS.serves.length_eq
    rw [hplaces, Scheduler.owned, List.length_append, List.length_nil] at hlen
    exact List.eq_nil_of_length_eq_zero (by omega)
  have hzero : h.scheduler.inflight a.id = 0 := by
    rw [hC.count, Scheduler.live, hgoroutines, hloop]
    rfl
  set todo := reg.values.erase a with htodo
  have hlen : todo.length + 1 = reg.values.length := List.length_erase_add_one hmem
  set h₁ : Host := { h with scheduler := { h.scheduler with loop := .visiting (a :: todo) } }
  set h₂ : Host := { h with
    scheduler := { h.scheduler with loop := .claiming a a.config.maxConcurrentTasks 0 todo } }
    with hh₂
  have hstep₁ : h.step reg (.loop (.tick (a :: todo))) = some h₁ := by
    simp [Host.step, Host.own, Scheduler.step, hloop, (List.perm_cons_erase hmem).symm, htodo, h₁]
  have hstep₂ : h₁.step reg (.loop .visit) = some h₂ := by
    simp [Host.step, Host.own, Scheduler.step, hzero, h₁, h₂]
  have hC₂ : Counted reg h₂.scheduler := by
    have hs₁ : h.scheduler.step reg (.tick (a :: todo)) = some h₁.scheduler := by
      simp [Scheduler.step, hloop, (List.perm_cons_erase hmem).symm, htodo, h₁]
    have hs₂ : h₁.scheduler.step reg .visit = some h₂.scheduler := by
      simp [Scheduler.step, hzero, h₁, h₂]
    exact counted_of_step hreg (counted_of_step hreg hC hs₁) hs₂
  have hS₂ : Staffed h₂ := by
    refine ⟨?_, hS.distinct, hS.left⟩
    have hserves := hS.serves
    simpa [Scheduler.owned, hloop, Loop.ticket, hh₂] using hserves
  have hA₂ : Alive h₂ := ⟨hA.up, fun hs => by cases hs⟩
  have hW₂ : Working reg waits h₂ := hW.of_scheduler fun i hi _ _ _ => hi
  obtain ⟨h₃, hstep₃, hW₃, -, hless⟩ :=
    exists_claim hS₂ hC₂ hA₂ hW₂ now scan (rfl : h₂.scheduler.loop = _) (by omega)
  refine ⟨_, h₁, _, h₂, _, h₃, hstep₁, hstep₂, hstep₃, by simp [Host.advances],
    by simp [Host.advances], ⟨rfl, rfl⟩, hW₃, ?_⟩
  have hahead := hless ⟨(id, row), hx, hid.symm⟩
  have heq : h₂.ahead reg = h.ahead reg + (2 + 2 * todo.length) := by
    simp only [Host.ahead, hloop, hh₂, Loop.ahead]
    omega
  omega

/-- Nothing is in the slots, nothing waits, and the loop is between two ticks. -/
def Host.Quiet (reg : Registry) (h : Host) : Prop :=
  h.scheduler.loop = .waiting ∧ h.places = [] ∧ h.cluster.queue.awaiting reg = []

/-- **A daemon that is not quiet advances.** -/
theorem exists_advance {configs : List (AgentConfig × ℤ)} {s : Cluster}
    {tr₀ : List (Lts.Move Cluster Event)} (hrun₀ : cluster.Run tr₀ s)
    {tr : List (Lts.Move Host Host.Act)} (hrun : (host configs s).Run tr h)
    (hW : Working (Registry.sync configs) waits h) (now : Time) :
    h.Quiet (Registry.sync configs) ∨ ∃ tr' h', (host configs s).Run (tr ++ tr') h' ∧
      Working (Registry.sync configs) waits h' ∧
      h'.ahead (Registry.sync configs) < h.ahead (Registry.sync configs) ∧
      ∀ m ∈ tr', m.pre.advances now m.label := by
  have hS := staffed_of_run hrun₀ hrun
  have hA := alive_of_run hrun
  obtain ⟨_, hsched⟩ := schedulerRun_of_host hrun
  have hC := counted_of_run hsched
  obtain ⟨m, -, hcluster⟩ := clusterRun_of_host hrun₀ hrun
  set reg := Registry.sync configs
  have one {a : Host.Act} {h' : Host} (hstep : h.step reg a = some h')
      (hadv : h.advances now a) (hW' : Working reg waits h') (hlt : h'.ahead reg < h.ahead reg) :
      ∃ tr' h', (host configs s).Run (tr ++ tr') h' ∧ Working reg waits h' ∧
        h'.ahead reg < h.ahead reg ∧ ∀ m ∈ tr', m.pre.advances now m.label := by
    refine ⟨_, h', hrun.snoc hstep, hW', hlt, fun m hm => ?_⟩
    rw [List.mem_singleton.mp hm]
    exact hadv
  -- a tick when nobody is at work, else a step of somebody at work, else a statement
  by_cases hloop : h.scheduler.loop = .waiting
  · by_cases hplaces : h.places = []
    · by_cases hwait : h.cluster.queue.awaiting reg = []
      · exact .inl ⟨hloop, hplaces, hwait⟩
      · obtain ⟨a₁, h₁, a₂, h₂, a₃, h₃, hs₁, hs₂, hs₃, hadv₁, hadv₂, hadv₃, hW₃, hlt⟩ :=
          exists_tick (registered_sync configs) hS hC hA hW now (fun _ => 0) hloop hplaces hwait
        refine .inr ⟨[⟨h, a₁, h₁⟩, ⟨h₁, a₂, h₂⟩, ⟨h₂, a₃, h₃⟩], h₃, ?_, hW₃, hlt, ?_⟩
        · have hrun₃ := ((hrun.snoc hs₁).snoc hs₂).snoc hs₃
          rwa [List.append_assoc, List.append_assoc] at hrun₃
        · simp [hadv₁, hadv₂, hadv₃]
    · obtain ⟨a, h', hstep, hadv, hW', hlt⟩ :=
        exists_work hS hA (placed_of_run hcluster) hW now hloop hplaces
      exact .inr (one hstep hadv hW' hlt)
  · obtain ⟨a, h', hstep, hadv, hW', hlt⟩ :=
      exists_statement hS hC hA hW now (fun _ => 0) hloop
    exact .inr (one hstep hadv hW' hlt)

/-- **Every task that is pending for a registered agent can be completed**, with no
other steps than those of the daemon, its loop and its executions that succeed: from
every state of a run with orderly recoveries in which the daemon is not told to stop. -/
theorem completed_of_run {configs : List (AgentConfig × ℤ)} {s : Cluster}
    {tr₀ : List (Lts.Move Cluster Event)} (hrun₀ : cluster.Run tr₀ s)
    (hrec₀ : ∀ m ∈ tr₀, OrderlyRecovery false m) {tr : List (Lts.Move Host Host.Act)}
    (hrun : (host configs s).Run tr h) (hrec : ∀ m ∈ hostMoves tr, OrderlyRecovery false m)
    (hgoing : h.stopping = false) (now : Time) :
    ∃ tr' h', (host configs s).Run (tr ++ tr') h' ∧ h'.scheduler.loop = .waiting ∧
      h'.places = [] ∧ (∀ m ∈ tr', m.pre.advances now m.label) ∧ ∀ id row,
        (id, row) ∈ h.cluster.queue.awaiting (Registry.sync configs) →
          (h'.cluster.queue.get id).map Task.status = some .completed := by
  set reg := Registry.sync configs with hreg
  have hO : Owned false h.cluster := by
    obtain ⟨m, ⟨_, hboot⟩, hcluster⟩ := clusterRun_of_host hrun₀ hrun
    refine owned_of_run hcluster fun m' hm' => ?_
    rcases List.mem_append.mp hm' with hm' | hm'
    · exact hrec₀ m' hm'
    · rcases List.mem_cons.mp hm' with rfl | hm'
      · exact orderly_of_ne_recover (by simp [hboot])
      · exact hrec m' hm'
  have hW : Working reg (fun id => ∃ row, (id, row) ∈ h.cluster.queue.awaiting reg) h := by
    refine ⟨hO, hgoing, fun id hid => ?_⟩
    obtain ⟨row, hrow⟩ := hid
    obtain ⟨hget, hpending, hsome⟩ := Queue.mem_awaiting_iff.mp hrow
    exact ⟨row, hget, .inr (.inl ⟨hpending, hsome⟩)⟩
  obtain ⟨tr', h', hrun', hW', ⟨hloop, hplaces, hnone⟩, hall⟩ :=
    hrun.exists_reaching (Host.ahead reg) (fun _ _ hrun hW => exists_advance hrun₀ hrun hW now) hW
  refine ⟨tr', h', hrun', hloop, hplaces, hall, fun id row hmem => ?_⟩
  -- nothing is pending and nobody is in a slot, so what is tended is completed
  obtain ⟨row', hrow', hdone | ⟨hpending, hsome⟩ | ⟨i, hi, -⟩⟩ := hW'.tended id ⟨row, hmem⟩
  · rw [hrow', Option.map_some, hdone]
  · have hx := Queue.mem_awaiting_iff.mpr ⟨hrow', hpending, hsome⟩
    rw [← hreg, hnone] at hx
    cases hx
  · rw [hplaces] at hi
    cases hi

/-- An agent that takes one task at a time is at its first, and two are waiting. -/
theorem completed_of_run_sample : ∃ tr h tr' h', (host sampleAgents freshCluster).Run tr h ∧
    (h.cluster.queue.awaiting (Registry.sync sampleAgents)).length = 1 ∧
    (host sampleAgents freshCluster).Run (tr ++ tr') h' ∧ h'.places = [] ∧
    (h'.cluster.queue.get 1).map Task.status = some .completed := by
  obtain ⟨tr, h, hrun, hf⟩ := exists_hostRun tickActs
    (fun r => (decide (∀ m ∈ hostMoves r.1, OrderlyRecovery false m), r.2.stopping,
      (r.2.cluster.queue.awaiting (Registry.sync sampleAgents)).map Prod.fst))
    (show _ = some (true, false, [1]) by decide +kernel)
  simp only [Prod.mk.injEq, decide_eq_true_eq] at hf
  obtain ⟨hrec, hgoing, hwait⟩ := hf
  obtain ⟨tr', h', hrun', -, hplaces, -, hall⟩ :=
    completed_of_run (.start rfl) (fun m hm => by cases hm) hrun hrec hgoing 10
  have hlen := congrArg List.length hwait
  rw [List.length_map] at hlen
  obtain ⟨⟨id, row⟩, hmem, hid⟩ := List.mem_map.mp (show (1 : ℤ) ∈ _ by rw [hwait]; simp)
  obtain rfl : id = 1 := hid
  exact ⟨tr, h, tr', h', hrun, hlen, hrun', hplaces, hall 1 row hmem⟩

end

end Server
end Shrimp
