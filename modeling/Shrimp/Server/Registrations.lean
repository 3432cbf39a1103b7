import Shrimp.Server.Fencing

/-!
# The registrations of a daemon (`server/task/context.go`)

`Manager.Start` registers the cancel function of an execution under the id of its
task, and the `done` it returns drops whatever is registered under that id.  So
the manager knows one execution of a task.  A second one of the same daemon, after
a recovery that reset the row of the first, takes the registration over, and the
first drops it when it returns.

## Main definitions

* `InFlight`, `registered` — the executions between `Start` and `done`, and what
  the manager of a daemon has under an id.
* `Faithful` — the manager has the executions in flight and no others.
* `Single` — a daemon has at most one execution of a task in flight.
* `Books` — what a step does to both.

## Main results

* `books_of_step` — every step is one of these.
* `registrations_iff` — **the manager is faithful exactly as long as executions of one
  task do not overlap.**
* `cancel_reaches` — **with orderly recoveries a cancel reaches the execution in
  flight, and that one only.**
-/

namespace Shrimp
namespace Server

/-- Is an execution between `Manager.Start` and its deferred `done`? -/
def Phase.inFlight : Phase → Bool
  | started | marked | running | finishing _ | written _ _ => true
  | launched | ended | crashed => false

theorem Phase.live_of_inFlight {p : Phase} (h : p.inFlight = true) : p.live = true := by
  cases p <;> first | rfl | cases h

namespace Cluster

variable (s : Cluster)

/-- Execution `i` is one of daemon `d` on a task, in flight. -/
def InFlight (d : ℕ) (id : ℤ) (i : ℕ) : Prop :=
  ∃ e, s.execs[i]? = some e ∧ e.daemon = d ∧ e.taskID = id ∧ e.phase.inFlight = true

instance (d : ℕ) (id : ℤ) (i : ℕ) : Decidable (s.InFlight d id i) :=
  decidable_of_iff (∃ e ∈ s.execs[i]?, e.daemon = d ∧ e.taskID = id ∧ e.phase.inFlight = true)
    Iff.rfl

/-- The execution whose cancel function a daemon has under a task; one that
crashed has none. -/
def registered (d : ℕ) (id : ℤ) : Option ℕ :=
  (s.daemons[d]?).bind fun dm => if dm.up then dm.cancels.get? id else none

/-- **The managers have the executions in flight, and no others.** -/
def Faithful : Prop := ∀ d id i, s.registered d id = some i ↔ s.InFlight d id i

/-- A daemon has at most one execution of a task in flight. -/
def Single : Prop := ∀ d id i j, s.InFlight d id i → s.InFlight d id j → i = j

/-- An execution is one of a daemon, and has crashed if that is down. -/
def Placed : Prop := ∀ (i : ℕ) (e : Exec), s.execs[i]? = some e →
  ∃ dm, s.daemons[e.daemon]? = some dm ∧ (e.phase ≠ .crashed ↔ dm.up = true)

variable {s}

/-- Two executions that the manager knows under one id are the same. -/
theorem Faithful.single (h : s.Faithful) : s.Single := by
  intro d id i j hi hj
  have hreg := (h d id i).mpr hi
  rw [(h d id j).mpr hj] at hreg
  exact (Option.some.inj hreg).symm

theorem registered_of_up {d : ℕ} {dm : Daemon} (hdm : s.daemons[d]? = some dm)
    (hup : dm.up = true) (id : ℤ) : s.registered d id = dm.cancels.get? id := by
  rw [registered, hdm, Option.bind_some, if_pos hup]

end Cluster

open Cluster

/-! ### What a step does to the registrations -/

/-- What a step labelled so does to the registrations and to the executions in
flight. -/
inductive Books (s s' : Cluster) : Event → Prop
  /-- Nothing. -/
  | quiet {ev : Event} (hreg : ∀ d id, s'.registered d id = s.registered d id)
      (hfly : ∀ d id i, s'.InFlight d id i ↔ s.InFlight d id i) : Books s s' ev
  | start {i : ℕ} (e : Exec)
      (hreg : ∀ d id, s'.registered d id =
        if d = e.daemon ∧ id = e.taskID then some i else s.registered d id)
      (hfly : ∀ d id j, s'.InFlight d id j ↔
        s.InFlight d id j ∨ (d = e.daemon ∧ id = e.taskID) ∧ j = i) : Books s s' (.start i)
  | done {i : ℕ} (e : Exec) (hi : s.InFlight e.daemon e.taskID i)
      (hreg : ∀ d id, s'.registered d id =
        if d = e.daemon ∧ id = e.taskID then none else s.registered d id)
      (hfly : ∀ d id j, s'.InFlight d id j ↔ s.InFlight d id j ∧ j ≠ i) : Books s s' (.done i)
  | crash {d₀ : ℕ}
      (hreg : ∀ d id, s'.registered d id = if d = d₀ then none else s.registered d id)
      (hfly : ∀ d id j, s'.InFlight d id j ↔ s.InFlight d id j ∧ d ≠ d₀) :
      Books s s' (.crash d₀)

section

variable {s s' : Cluster}

theorem getElem?_setExec {i j : ℕ} {e e' : Exec} (hi : s.execs[i]? = some e) :
    (s.setExec i e').execs[j]? = if j = i then some e' else s.execs[j]? := by
  change (s.execs.set i e')[j]? = _
  rw [List.getElem?_set, if_pos (List.getElem?_eq_some_iff.mp hi).1]
  by_cases hji : j = i
  · rw [if_pos hji.symm, if_pos hji]
  · rw [if_neg (Ne.symm hji), if_neg hji]

/-- The executions in flight after one was changed in place. -/
theorem inFlight_setExec {i : ℕ} {e : Exec} (e' : Exec) (hi : s.execs[i]? = some e)
    (hd : e'.daemon = e.daemon) (ht : e'.taskID = e.taskID) (d : ℕ) (id : ℤ) (j : ℕ) :
    (s.setExec i e').InFlight d id j ↔
      if j = i then (d = e.daemon ∧ id = e.taskID) ∧ e'.phase.inFlight = true
      else s.InFlight d id j := by
  unfold InFlight
  rw [getElem?_setExec hi]
  by_cases hji : j = i
  · rw [if_pos hji, if_pos hji]
    constructor
    · rintro ⟨_, ⟨⟩, rfl, rfl, hp⟩
      exact ⟨⟨hd, ht⟩, hp⟩
    · rintro ⟨⟨rfl, rfl⟩, hp⟩
      exact ⟨e', rfl, hd, ht, hp⟩
  · rw [if_neg hji, if_neg hji]

/-- A change that leaves an execution in flight if it was, and not if it was not. -/
theorem inFlight_setExec_of_eq {i : ℕ} {e : Exec} (e' : Exec) (hi : s.execs[i]? = some e)
    (hd : e'.daemon = e.daemon) (ht : e'.taskID = e.taskID)
    (hp : e'.phase.inFlight = e.phase.inFlight) (d : ℕ) (id : ℤ) (j : ℕ) :
    (s.setExec i e').InFlight d id j ↔ s.InFlight d id j := by
  rw [inFlight_setExec e' hi hd ht]
  split
  · next hji =>
    subst hji
    rw [hp]
    constructor
    · rintro ⟨⟨rfl, rfl⟩, hp⟩
      exact ⟨e, hi, rfl, rfl, hp⟩
    · rintro ⟨e₀, he₀, rfl, rfl, hp⟩
      rw [hi] at he₀
      cases he₀
      exact ⟨⟨rfl, rfl⟩, hp⟩
  · rfl

/-- **`Manager.Cancel` marks a context**, that of the execution registered. -/
theorem managerCancel_eq (d : ℕ) (id : ℤ) :
    s.managerCancel d id = s ∨ ∃ j e, s.execs[j]? = some e ∧
      s.managerCancel d id = s.setExec j { e with ctxDone := true } := by
  unfold managerCancel
  split
  · exact Or.inl rfl
  split
  · exact Or.inl rfl
  split
  · exact Or.inl rfl
  · next j _ _ e he => exact Or.inr ⟨j, e, he, rfl⟩

/-- `Manager.Cancel` leaves the registrations and the executions in flight. -/
theorem books_managerCancel (d : ℕ) (id : ℤ) :
    (∀ d' id', (s.managerCancel d id).registered d' id' = s.registered d' id') ∧
      ∀ d' id' i, (s.managerCancel d id).InFlight d' id' i ↔ s.InFlight d' id' i := by
  obtain heq | ⟨j, e, he, heq⟩ := managerCancel_eq (s := s) d id
  · rw [heq]
    exact ⟨fun _ _ => rfl, fun _ _ _ => Iff.rfl⟩
  · rw [heq]
    exact ⟨fun _ _ => rfl, inFlight_setExec_of_eq _ he rfl rfl rfl⟩

/-- The registrations after those of one daemon were changed. -/
theorem registered_setCancels {d : ℕ} {dm : Daemon} (hdm : s.daemons[d]? = some dm)
    (hup : dm.up = true) (f : Dict ℤ ℕ → Dict ℤ ℕ) (d' : ℕ) (id : ℤ) :
    (s.setCancels d f).registered d' id =
      if d' = d then (f dm.cancels).get? id else s.registered d' id := by
  change ((s.daemons.modify d _)[d']?).bind _ = _
  rw [List.getElem?_modify]
  by_cases hd : d = d'
  · subst hd
    simp [hdm, hup]
  · simp [hd, Ne.symm hd, registered]

/-- The registrations after those under one id were changed. -/
theorem registered_setCancels_at {d : ℕ} {dm : Daemon} (hdm : s.daemons[d]? = some dm)
    (hup : dm.up = true) {f : Dict ℤ ℕ → Dict ℤ ℕ} {id₀ : ℤ} {r : Option ℕ}
    (hf : ∀ id, (f dm.cancels).get? id = if id = id₀ then r else dm.cancels.get? id) (d' : ℕ)
    (id : ℤ) : (s.setCancels d f).registered d' id =
      if d' = d ∧ id = id₀ then r else s.registered d' id := by
  rw [registered_setCancels hdm hup, hf]
  by_cases hd : d' = d
  · subst hd
    by_cases hid : id = id₀
    · simp [hid]
    · simp only [hid, if_true, if_false, and_false]
      exact (registered_of_up hdm hup id).symm
  · simp only [hd, if_false, false_and]

theorem Books.same {ev : Event} (hdaemons : s'.daemons = s.daemons)
    (hexecs : s'.execs = s.execs) : Books s s' ev := by
  refine .quiet (fun d id => ?_) fun d id i => ?_
  · rw [registered, hdaemons, registered]
  · rw [InFlight, hexecs, InFlight]

/-- A step of an execution that neither starts nor is done. -/
theorem Books.move {ev : Event} {i : ℕ} {e e' : Exec} (hi : s.execs[i]? = some e)
    (hdaemons : s'.daemons = s.daemons) (hexecs : s'.execs = s.execs.set i e')
    (hd : e'.daemon = e.daemon) (ht : e'.taskID = e.taskID)
    (hp : e'.phase.inFlight = e.phase.inFlight) : Books s s' ev := by
  refine .quiet (fun d id => ?_) fun d id j => ?_
  · rw [registered, hdaemons, registered]
  · rw [← inFlight_setExec_of_eq e' hi hd ht hp, InFlight, hexecs]
    rfl

/-! ### One execution through a step -/

/-- What an execution keeps through a step, whoever takes it. -/
structure Exec.Follows (ev : Event) (e e' : Exec) : Prop where
  daemon : e'.daemon = e.daemon
  taskID : e'.taskID = e.taskID
  /-- A canceled context stays canceled. -/
  ctxDone : e.ctxDone = true → e'.ctxDone = true
  crashed : e.phase = .crashed → e'.phase = .crashed
  ended : e.phase = .ended → e'.phase = .ended ∨ e'.phase = .crashed
  /-- It crashes with its daemon only. -/
  crash : e'.phase = .crashed → e.phase = .crashed ∨ ev = .crash e.daemon

namespace Exec.Follows

variable {ev : Event} {e e' e'' : Exec}

theorem of_phase_eq (hd : e'.daemon = e.daemon) (ht : e'.taskID = e.taskID)
    (hctx : e.ctxDone = true → e'.ctxDone = true) (hp : e'.phase = e.phase) :
    Follows ev e e' where
  daemon := hd
  taskID := ht
  ctxDone := hctx
  crashed h := hp.trans h
  ended h := .inl (hp.trans h)
  crash h := .inl (hp.symm.trans h)

theorem of_move (hd : e'.daemon = e.daemon) (ht : e'.taskID = e.taskID)
    (hctx : e.ctxDone = true → e'.ctxDone = true) (hne : e.phase ≠ .crashed)
    (hne' : e.phase ≠ .ended) (hp : e'.phase ≠ .crashed) : Follows ev e e' where
  daemon := hd
  taskID := ht
  ctxDone := hctx
  crashed h := absurd h hne
  ended h := absurd h hne'
  crash h := absurd h hp

theorem refl (e : Exec) : Follows ev e e := of_phase_eq rfl rfl id rfl

theorem trans (h : Follows ev e e') (h' : Follows ev e' e'') : Follows ev e e'' where
  daemon := h'.daemon.trans h.daemon
  taskID := h'.taskID.trans h.taskID
  ctxDone := h'.ctxDone ∘ h.ctxDone
  crashed := h'.crashed ∘ h.crashed
  ended hp := (h.ended hp).elim h'.ended fun hc => .inr (h'.crashed hc)
  crash hp := (h'.crash hp).elim h.crash fun hc => .inr (h.daemon ▸ hc)

end Exec.Follows

theorem follows_setExec {ev : Event} {i j : ℕ} {e e₀ e' : Exec} (hi : s.execs[i]? = some e)
    (hj : (s.execs.set i e₀)[j]? = some e') (hf : Exec.Follows ev e e₀) :
    ∃ e, s.execs[j]? = some e ∧ Exec.Follows ev e e' := by
  rcases getElem?_set_cases hj with ⟨rfl, rfl⟩ | ⟨-, hj⟩
  · exact ⟨e, hi, hf⟩
  · exact ⟨e', hj, .refl e'⟩

theorem follows_managerCancel {ev : Event} {d : ℕ} {id : ℤ} {j : ℕ} {e' : Exec}
    (hj : (s.managerCancel d id).execs[j]? = some e') :
    ∃ e, s.execs[j]? = some e ∧ Exec.Follows ev e e' := by
  obtain heq | ⟨i, e, he, heq⟩ := managerCancel_eq (s := s) d id
  · exact ⟨e', heq ▸ hj, .refl e'⟩
  · rw [heq] at hj
    exact follows_setExec he hj (.of_phase_eq rfl rfl (fun _ => rfl) rfl)

/-- **Whoever is there after a step** was there before it, or is the goroutine of the
task a daemon that is up has just claimed. -/
theorem follows_of_step {ev : Event} (h : s.step ev = some s') {j : ℕ} {e' : Exec}
    (hj : s'.execs[j]? = some e') : (∃ e, s.execs[j]? = some e ∧ Exec.Follows ev e e') ∨
      j = s.execs.length ∧ e'.phase = .launched ∧
        (∃ agentIDs locked scan now, ev = .claim e'.daemon agentIDs locked scan now) ∧
        ∃ dm, s.daemons[e'.daemon]? = some dm ∧ dm.up = true := by
  -- the steps that leave the executions
  have same (heq : s'.execs = s.execs) : ∃ e, s.execs[j]? = some e ∧ Exec.Follows ev e e' :=
    ⟨e', heq ▸ hj, .refl e'⟩
  cases ev with
  | boot workerID =>
    cases h
    exact .inl (same rfl)
  | enqueue lost agentID prompt priority now =>
    cases h
    exact .inl (same rfl)
  | claim d agentIDs locked scan now =>
    simp only [step] at h
    split at h
    · cases h
    next dm hdm =>
    split at h
    · next hup =>
      split at h
      · cases h
        exact .inl (same rfl)
      · cases h
        rcases getElem?_snoc_cases hj with hj | ⟨hlen, rfl⟩
        · exact .inl ⟨e', hj, .refl e'⟩
        · exact .inr ⟨hlen, rfl, ⟨_, _, _, _, rfl⟩, dm, hdm, hup⟩
    · cases h
  | start i =>
    obtain ⟨e, hi, h⟩ := onExec_eq_some_iff.mp h
    split at h
    · next hp =>
      cases h
      exact .inl (follows_setExec hi hj
        (.of_move rfl rfl id (by simp [hp]) (by simp [hp]) (by simp)))
    · cases h
  | markRunning i ok now =>
    obtain ⟨e, hi, h⟩ := onExec_eq_some_iff.mp h
    split at h
    · next hp =>
      cases h
      exact .inl (follows_setExec hi hj
        (.of_move rfl rfl id (by simp [hp]) (by simp [hp]) (by simp)))
    · cases h
  | heartbeat i ok now =>
    obtain ⟨e, hi, h⟩ := onExec_eq_some_iff.mp h
    split at h
    · cases ok with
      | false =>
        cases h
        exact .inl (same rfl)
      | true =>
        cases h
        exact .inl (follows_setExec hi hj (.of_phase_eq rfl rfl id rfl))
    · cases h
  | honor i =>
    obtain ⟨e, hi, h⟩ := onExec_eq_some_iff.mp h
    split at h
    · cases h
      obtain ⟨e₁, hj, h₁⟩ := follows_managerCancel hj
      obtain ⟨e₂, hj, h₂⟩ := follows_setExec hi hj (.of_phase_eq rfl rfl id rfl)
      exact .inl ⟨e₂, hj, h₂.trans h₁⟩
    · cases h
  | spawn i =>
    obtain ⟨e, hi, h⟩ := onExec_eq_some_iff.mp h
    split at h
    · next hp =>
      cases h
      exact .inl (follows_setExec hi hj
        (.of_move rfl rfl id (by simp [hp.1]) (by simp [hp.1]) (by simp)))
    · cases h
  | exit i result err =>
    obtain ⟨e, hi, h⟩ := onExec_eq_some_iff.mp h
    split at h
    · next hp =>
      cases h
      have hne : e.phase ≠ .crashed ∧ e.phase ≠ .ended := by
        rcases hp with hp | hp <;> simp [hp]
      exact .inl (follows_setExec hi hj (.of_move rfl rfl id hne.1 hne.2 (by simp)))
    · cases h
  | write i ok now =>
    obtain ⟨e, hi, h⟩ := onExec_eq_some_iff.mp h
    split at h
    · next o hp =>
      cases h
      exact .inl (follows_setExec hi hj
        (.of_move rfl rfl id (by simp [hp]) (by simp [hp]) (by simp)))
    · cases h
  | done i =>
    obtain ⟨e, hi, h⟩ := onExec_eq_some_iff.mp h
    split at h
    · next o ok hp =>
      cases h
      exact .inl (follows_setExec hi hj
        (.of_move rfl rfl (fun _ => rfl) (by simp [hp]) (by simp [hp]) (by simp)))
    · cases h
  | cancel d id =>
    cases h
    exact .inl (follows_managerCancel hj)
  | requestCancel id =>
    simp only [step] at h
    split at h <;> cases h <;> exact .inl (same rfl)
  | recover timeout now =>
    cases h
    exact .inl (same rfl)
  | shutdown d =>
    cases h
    exact .inl (same rfl)
  -- a crash takes the executions of its daemon
  | crash d =>
    cases h
    change (s.execs.map _)[j]? = some e' at hj
    rw [List.getElem?_map] at hj
    obtain ⟨e, he, rfl⟩ := Option.map_eq_some_iff.mp hj
    refine .inl ⟨e, he, ?_⟩
    split
    · next hd => exact ⟨rfl, rfl, id, fun _ => rfl, fun _ => .inr rfl, fun _ => .inr (hd ▸ rfl)⟩
    · exact .refl e

theorem length_execs_of_step {ev : Event} (h : s.step ev = some s') :
    s.execs.length ≤ s'.execs.length := by
  have hle := length_holdings_of_effect (effect_of_step h)
  rwa [holdings, holdings, List.length_map, List.length_map] at hle

theorem exists_follows {ev : Event} (h : s.step ev = some s') {j : ℕ} {e : Exec}
    (hj : s.execs[j]? = some e) :
    ∃ e', s'.execs[j]? = some e' ∧ Exec.Follows ev e e' := by
  have hlt := (List.getElem?_eq_some_iff.mp hj).1
  have hlt' := Nat.lt_of_lt_of_le hlt (length_execs_of_step h)
  refine ⟨s'.execs[j], List.getElem?_eq_getElem hlt', ?_⟩
  rcases follows_of_step h (List.getElem?_eq_getElem hlt') with ⟨e₀, hj₀, hf⟩ | ⟨hlen, -⟩
  · obtain rfl := Option.some.inj (hj.symm.trans hj₀)
    exact hf
  · omega

/-! ### Executions stay with daemons that are up -/

/-- What a daemon keeps through a step: only a crash takes it down, and only a
shutdown ends its root context. -/
structure Daemon.Follows (ev : Event) (d : ℕ) (dm dm' : Daemon) : Prop where
  up : dm'.up = true ↔ dm.up = true ∧ ev ≠ .crash d
  stopping : dm'.stopping = true ↔ dm.stopping = true ∨ ev = .shutdown d

theorem Daemon.Follows.of_eq {ev : Event} {d : ℕ} {dm dm' : Daemon} (hcrash : ev ≠ .crash d)
    (hshutdown : ev ≠ .shutdown d) (hup : dm'.up = dm.up) (hstop : dm'.stopping = dm.stopping) :
    Daemon.Follows ev d dm dm' :=
  ⟨by rw [hup, and_iff_left hcrash], by rw [hstop, or_iff_left hshutdown]⟩

theorem follows_modify {ev : Event} {ds : List Daemon} {d k : ℕ} {dm : Daemon}
    {f : Daemon → Daemon} (hd : ds[d]? = some dm) (hf : k = d → Daemon.Follows ev d dm (f dm))
    (hne : k ≠ d → Daemon.Follows ev d dm dm) :
    ∃ dm', (ds.modify k f)[d]? = some dm' ∧ Daemon.Follows ev d dm dm' := by
  rw [List.getElem?_modify, hd]
  by_cases hk : k = d
  · exact ⟨f dm, by simp [hk], hf hk⟩
  · exact ⟨dm, by simp [hk], hne hk⟩

theorem daemons_managerCancel (d : ℕ) (id : ℤ) :
    (s.managerCancel d id).daemons = s.daemons := by
  obtain heq | ⟨i, e, -, heq⟩ := managerCancel_eq (s := s) d id
  · rw [heq]
  · rw [heq]
    rfl

/-- **A daemon keeps its place.** -/
theorem daemon_of_step {ev : Event} (h : s.step ev = some s') {d : ℕ} {dm : Daemon}
    (hd : s.daemons[d]? = some dm) :
    ∃ dm', s'.daemons[d]? = some dm' ∧ Daemon.Follows ev d dm dm' := by
  -- the steps that leave the daemons
  have same (hcrash : ∀ k, ev ≠ .crash k) (hshutdown : ∀ k, ev ≠ .shutdown k)
      (heq : s'.daemons = s.daemons) :
      ∃ dm', s'.daemons[d]? = some dm' ∧ Daemon.Follows ev d dm dm' :=
    ⟨dm, by rw [heq, hd], .of_eq (hcrash d) (hshutdown d) rfl rfl⟩
  cases ev with
  | boot workerID =>
    cases h
    refine ⟨dm, ?_, .of_eq (by simp) (by simp) rfl rfl⟩
    exact (List.getElem?_append_left (List.getElem?_eq_some_iff.mp hd).1).trans hd
  | enqueue lost agentID prompt priority now =>
    cases h
    exact same (by simp) (by simp) rfl
  | claim d agentIDs locked scan now =>
    simp only [step] at h
    split at h
    · cases h
    split at h
    · split at h <;> cases h <;> exact same (by simp) (by simp) rfl
    · cases h
  | start i | done i =>
    obtain ⟨e, hi, h⟩ := onExec_eq_some_iff.mp h
    split at h
    · cases h
      exact follows_modify hd (fun _ => .of_eq (by simp) (by simp) rfl rfl)
        fun _ => .of_eq (by simp) (by simp) rfl rfl
    · cases h
  | markRunning i | spawn i | exit i | write i =>
    obtain ⟨e, hi, h⟩ := onExec_eq_some_iff.mp h
    split at h <;> cases h
    exact same (by simp) (by simp) rfl
  | heartbeat i ok now =>
    obtain ⟨e, hi, h⟩ := onExec_eq_some_iff.mp h
    split at h
    · cases ok <;> cases h <;> exact same (by simp) (by simp) rfl
    · cases h
  | honor i =>
    obtain ⟨e, hi, h⟩ := onExec_eq_some_iff.mp h
    split at h
    · cases h
      exact same (by simp) (by simp) (daemons_managerCancel e.daemon e.taskID)
    · cases h
  | cancel d id =>
    cases h
    exact same (by simp) (by simp) (daemons_managerCancel d id)
  | requestCancel id =>
    simp only [step] at h
    split at h <;> cases h <;> exact same (by simp) (by simp) rfl
  | recover timeout now =>
    cases h
    exact same (by simp) (by simp) rfl
  | shutdown k =>
    cases h
    refine follows_modify hd (fun hk => ⟨(and_iff_left (by simp)).symm, ?_⟩) fun hk =>
      .of_eq (by simp) (fun hev => hk (Event.shutdown.inj hev)) rfl rfl
    exact ⟨fun _ => .inr (congrArg Event.shutdown hk), fun _ => rfl⟩
  -- the daemon that crashes, and the others
  | crash k =>
    cases h
    refine follows_modify hd (fun hk => ⟨?_, (or_iff_left (by simp)).symm⟩) fun hk =>
      .of_eq (fun hev => hk (Event.crash.inj hev)) (by simp) rfl rfl
    exact ⟨by simp, fun h => absurd (congrArg Event.crash hk) h.2⟩

theorem crashed_of_crash {d : ℕ} (h : s.step (.crash d) = some s') {j : ℕ} {e' : Exec}
    (hj : s'.execs[j]? = some e') (hd : e'.daemon = d) : e'.phase = .crashed := by
  cases h
  change (s.execs.map _)[j]? = some e' at hj
  rw [List.getElem?_map] at hj
  obtain ⟨e, -, heq⟩ := Option.map_eq_some_iff.mp hj
  split at heq
  · exact heq ▸ rfl
  · next hne => exact absurd ((congrArg (·.daemon) heq).trans hd) hne

/-- **The step lemma.** -/
theorem placed_of_step {ev : Event} (hP : s.Placed) (h : s.step ev = some s') : s'.Placed := by
  intro j e' hj
  rcases follows_of_step h hj with ⟨e, he, hf⟩ | ⟨-, hphase, ⟨_, _, _, _, rfl⟩, dm, hd, hup⟩
  · obtain ⟨dm, hd, hup⟩ := hP j e he
    obtain ⟨dm', hd', hup'⟩ := daemon_of_step h hd
    refine ⟨dm', hf.daemon ▸ hd', fun hne => ?_, fun hdm' hc => ?_⟩
    · refine hup'.up.mpr ⟨hup.mp fun hc => hne (hf.crashed hc), ?_⟩
      rintro rfl
      exact hne (crashed_of_crash h hj hf.daemon)
    · obtain ⟨hdm, hev⟩ := hup'.up.mp hdm'
      exact (hf.crash hc).elim (hup.mpr hdm) hev
  · obtain ⟨dm', hd', hup'⟩ := daemon_of_step h hd
    exact ⟨dm', hd', fun _ => hup'.up.mpr ⟨hup, nofun⟩, fun _ hc => by rw [hphase] at hc; cases hc⟩

/-- **The run lemma.** -/
theorem placed_of_run {tr : List (Lts.Move Cluster Event)} (h : cluster.Run tr s) :
    s.Placed := by
  refine h.invariant (I := fun _ c => c.Placed) ?_ fun _ _ _ _ _ hP hstep =>
    placed_of_step hP hstep
  rintro c rfl i e hi
  cases hi

/-! ### What the steps do -/

/-- A daemon that starts has neither registrations nor executions. -/
theorem books_of_boot {workerID : String} (h : s.step (.boot workerID) = some s') :
    Books s s' (.boot workerID) := by
  cases h
  refine .quiet (fun d id => ?_) fun _ _ _ => Iff.rfl
  unfold registered
  rw [List.getElem?_append]
  split
  · rfl
  · next hlt =>
    rw [List.getElem?_eq_none (Nat.le_of_not_lt hlt)]
    rcases hd : d - s.daemons.length with _ | k
    · rfl
    · rfl

/-- A claim launches an execution that is not yet registered. -/
theorem books_of_claim {d : ℕ} {agentIDs locked : List ℤ} {scan : ℤ → ℕ} {now : Time}
    (h : s.step (.claim d agentIDs locked scan now) = some s') :
    Books s s' (.claim d agentIDs locked scan now) := by
  simp only [step] at h
  split at h
  · cases h
  split at h
  · split at h <;> cases h
    · exact .same rfl rfl
    · refine .quiet (fun _ _ => rfl) fun d' id' i => ?_
      constructor
      · rintro ⟨e, hi, rfl, rfl, hp⟩
        rcases getElem?_snoc_cases hi with hi | ⟨-, rfl⟩
        · exact ⟨e, hi, rfl, rfl, hp⟩
        · cases hp
      · rintro ⟨e, hi, rest⟩
        have hlt := (List.getElem?_eq_some_iff.mp hi).1
        exact ⟨e, (List.getElem?_append_left hlt).trans hi, rest⟩
  · cases h

/-- `Manager.Start` registers the execution, over any other one of the task. -/
theorem books_of_start {i : ℕ} (hP : s.Placed) (h : s.step (.start i) = some s') :
    Books s s' (.start i) := by
  obtain ⟨e, hi, h⟩ := onExec_eq_some_iff.mp h
  split at h
  · next hp =>
    cases h
    obtain ⟨dm, hdm, hne⟩ := hP i e hi
    have hup := hne.mp (by simp [hp])
    refine .start e (registered_setCancels_at (s := s.setExec i _) hdm hup fun id =>
      Dict.get?_insert ..) fun d id j => ?_
    refine (inFlight_setExec { e with phase := .started } hi rfl rfl d id j).trans ?_
    by_cases hj : j = i
    · subst hj
      -- it was not in flight before
      have hnot : ¬ s.InFlight d id j := by
        rintro ⟨e₀, he₀, -, -, hfly⟩
        rw [hi] at he₀
        cases he₀
        rw [hp] at hfly
        cases hfly
      simp [hnot, Phase.inFlight]
    · simp [hj]
  · cases h

/-- `done` drops the registration under the task's id, whosever it is. -/
theorem books_of_done {i : ℕ} (hP : s.Placed) (h : s.step (.done i) = some s') :
    Books s s' (.done i) := by
  obtain ⟨e, hi, h⟩ := onExec_eq_some_iff.mp h
  split at h
  · next o ok hp =>
    cases h
    obtain ⟨dm, hdm, hne⟩ := hP i e hi
    have hup := hne.mp (by simp [hp])
    refine .done e ⟨e, hi, rfl, rfl, by rw [hp]; rfl⟩
      (registered_setCancels_at (s := s.setExec i _) hdm hup fun id => Dict.get?_erase ..)
      fun d id j => ?_
    refine (inFlight_setExec { e with phase := .ended, ctxDone := true }
      hi rfl rfl d id j).trans ?_
    by_cases hj : j = i
    · simp [hj, Phase.inFlight]
    · simp [hj]
  · cases h

/-- A crash takes the registrations of a daemon with it, and its executions. -/
theorem books_of_crash {d : ℕ} (h : s.step (.crash d) = some s') : Books s s' (.crash d) := by
  cases h
  refine .crash (fun d' id => ?_) fun d' id j => ?_
  · change ((s.daemons.modify d _)[d']?).bind _ = _
    rw [List.getElem?_modify, registered]
    cases s.daemons[d']? with
    | none => simp
    | some dm =>
      by_cases hd : d = d'
      · simp [hd]
      · simp [hd, Ne.symm hd]
  · change (∃ e, (s.execs.map _)[j]? = some e ∧ _) ↔ _
    rw [List.getElem?_map]
    constructor
    · rintro ⟨e', he', rfl, rfl, hp⟩
      obtain ⟨e, he, rfl⟩ := Option.map_eq_some_iff.mp he'
      by_cases hd : e.daemon = d
      · rw [if_pos hd] at hp
        cases hp
      · rw [if_neg hd] at hp ⊢
        exact ⟨⟨e, he, rfl, rfl, hp⟩, hd⟩
    · rintro ⟨⟨e, he, rfl, rfl, hp⟩, hd⟩
      exact ⟨e, by rw [he, Option.map_some, if_neg hd], rfl, rfl, hp⟩

/-- **Every step keeps the books in one of these ways.** -/
theorem books_of_step {ev : Event} (hP : s.Placed) (h : s.step ev = some s') :
    Books s s' ev := by
  cases ev with
  | boot workerID => exact books_of_boot h
  | enqueue lost agentID prompt priority now =>
    cases h
    exact .same rfl rfl
  | claim d agentIDs locked scan now => exact books_of_claim h
  | start i => exact books_of_start hP h
  | markRunning i ok now =>
    obtain ⟨e, hi, h⟩ := onExec_eq_some_iff.mp h
    split at h
    · next hp =>
      cases h
      exact .move hi rfl rfl rfl rfl (by rw [hp]; rfl)
    · cases h
  -- a heartbeat that fails finds the request to cancel, or nothing
  | heartbeat i ok now =>
    obtain ⟨e, hi, h⟩ := onExec_eq_some_iff.mp h
    split at h
    · cases ok with
      | false =>
        cases h
        exact .same rfl rfl
      | true =>
        cases h
        exact .move hi rfl rfl rfl rfl rfl
    · cases h
  | honor i =>
    obtain ⟨e, hi, h⟩ := onExec_eq_some_iff.mp h
    split at h
    · cases h
      obtain ⟨hreg, hfly⟩ := books_managerCancel (s := s.setExec i { e with pulse := .stopped })
        e.daemon e.taskID
      exact .quiet hreg fun d id j =>
        (hfly d id j).trans
          (inFlight_setExec_of_eq { e with pulse := .stopped } hi rfl rfl rfl d id j)
    · cases h
  | spawn i =>
    obtain ⟨e, hi, h⟩ := onExec_eq_some_iff.mp h
    split at h
    · next hp =>
      cases h
      exact .move hi rfl rfl rfl rfl (by rw [hp.1]; rfl)
    · cases h
  | exit i result err =>
    obtain ⟨e, hi, h⟩ := onExec_eq_some_iff.mp h
    split at h
    · next hp =>
      cases h
      refine .move hi rfl rfl rfl rfl ?_
      rcases hp with hp | hp <;> simp [hp, Phase.inFlight]
    · cases h
  | write i ok now =>
    obtain ⟨e, hi, h⟩ := onExec_eq_some_iff.mp h
    split at h
    · next o hp =>
      cases h
      exact .move hi rfl rfl rfl rfl (by rw [hp]; rfl)
    · cases h
  | done i => exact books_of_done hP h
  | cancel d id =>
    cases h
    obtain ⟨hreg, hfly⟩ := books_managerCancel (s := s) d id
    exact .quiet hreg hfly
  | requestCancel id =>
    simp only [step] at h
    split at h <;> cases h <;> exact .same rfl rfl
  | recover timeout now =>
    cases h
    exact .same rfl rfl
  -- a shutdown leaves the registrations: its daemon is only told to stop
  | shutdown d =>
    cases h
    refine .quiet (fun d' id => ?_) fun _ _ _ => Iff.rfl
    change ((s.daemons.modify d _)[d']?).bind _ = _
    rw [List.getElem?_modify, registered]
    cases s.daemons[d']? with
    | none => rfl
    | some dm => by_cases hd : d = d' <;> simp [hd]
  | crash d => exact books_of_crash h

/-! ### When the manager is faithful -/

/-- The books of a faithful manager stay in order as long as executions of one
task do not overlap. -/
theorem Cluster.Faithful.of_books {ev : Event} (hF : s.Faithful) (hS : s'.Single)
    (h : Books s s' ev) : s'.Faithful := by
  intro d id j
  cases h with
  | quiet hreg hfly => rw [hreg, hfly, hF d id j]
  | @start i e hreg hfly =>
    rw [hreg, hfly]
    by_cases hhere : d = e.daemon ∧ id = e.taskID
    · rw [if_pos hhere]
      constructor
      · rintro ⟨⟩
        exact .inr ⟨hhere, rfl⟩
      · rintro (hj | ⟨-, rfl⟩)
        · -- an execution the new one would overlap with
          have hi : s'.InFlight d id i := (hfly d id i).mpr (.inr ⟨hhere, rfl⟩)
          exact congrArg some (hS d id i j hi ((hfly d id j).mpr (.inl hj)))
        · rfl
    · rw [if_neg hhere, hF d id j]
      exact ⟨.inl, fun h => h.resolve_right fun h => hhere h.1⟩
  | @done i e hi hreg hfly =>
    rw [hreg, hfly]
    by_cases hhere : d = e.daemon ∧ id = e.taskID
    · obtain ⟨rfl, rfl⟩ := hhere
      rw [if_pos ⟨rfl, rfl⟩]
      exact ⟨nofun, fun h => absurd (hF.single _ _ j i h.1 hi) h.2⟩
    · rw [if_neg hhere, hF d id j]
      refine ⟨fun hj => ⟨hj, ?_⟩, And.left⟩
      -- the execution that is done is one of another task or daemon
      rintro rfl
      obtain ⟨e₁, he₁, rfl, rfl, -⟩ := hj
      obtain ⟨e₂, he₂, hd, ht, -⟩ := hi
      rw [he₁] at he₂
      cases he₂
      exact hhere ⟨hd, ht⟩
  | @crash d₀ hreg hfly =>
    rw [hreg, hfly]
    by_cases hd : d = d₀
    · simp [hd]
    · simp [hd, hF d id j]

theorem faithful_freshCluster : freshCluster.Faithful := by
  intro d id i
  constructor
  · rintro ⟨⟩
  · rintro ⟨e, he, -⟩
    cases he

/-- The managers are faithful after a run that keeps executions of one task apart. -/
theorem faithful_of_run {tr : List (Lts.Move Cluster Event)} (h : cluster.Run tr s)
    (hS : ∀ m ∈ tr, m.post.Single) : s.Faithful := by
  refine Lts.Run.invariant_of (I := fun _ c => c.Faithful) (C := fun m => m.post.Single)
    ?_ ?_ h hS
  · rintro c rfl
    exact faithful_freshCluster
  · intro tr c ev c' hrun hF hstep hC
    exact hF.of_books hC (books_of_step (placed_of_run hrun) hstep)

/-- **The managers are faithful throughout a run exactly when executions of one task
on one daemon never overlap in it.** -/
theorem registrations_iff {tr : List (Lts.Move Cluster Event)} (h : cluster.Run tr s) :
    (∀ m ∈ tr, m.post.Faithful) ↔ ∀ m ∈ tr, m.post.Single := by
  constructor
  · intro hF m hm
    exact (hF m hm).single
  · intro hS m hm
    obtain ⟨tr₁, tr₂, rfl⟩ := List.append_of_mem hm
    obtain ⟨hrun, hstep⟩ := h.split
    have hrun' : cluster.Run (tr₁ ++ [m]) m.post := hrun.snoc hstep
    refine faithful_of_run hrun' fun m' hm' => hS m' ?_
    rcases List.mem_append.mp hm' with hm' | hm'
    · exact List.mem_append_left _ hm'
    · rw [List.mem_singleton.mp hm']
      exact hm

/-- An execution whose terminal write fails, a recovery before it has returned, and a
second execution of the task that starts in the meantime. -/
def overlapEvents : List Event := [
  .boot "w1", .enqueue 0 7 "fix the build" 2 0, .claim 0 [7] [] (fun _ => 0) 1, .start 0,
  .markRunning 0 true 2, .spawn 0, .exit 0 "A" none, .write 0 false 3, .recover 30 60,
  .claim 0 [7] [] (fun _ => 0) 61, .start 1, .done 0]

theorem registrations_iff_sample : ∃ tr s, cluster.Run tr s ∧ s.registered 0 1 = none ∧
    s.InFlight 0 1 1 ∧ ¬ ∀ m ∈ tr, m.post.Faithful := by
  obtain ⟨tr, s, hrun, hf⟩ := exists_clusterRun overlapEvents
    (fun r => (decide (r.2.registered 0 1 = none ∧ r.2.InFlight 0 1 1),
      (r.1[10]?).map fun m : Lts.Move Cluster Event =>
        decide (m.post.InFlight 0 1 0 ∧ m.post.InFlight 0 1 1)))
    (show _ = some (true, some true) by decide +kernel)
  obtain ⟨hend, hmid⟩ := Prod.mk.inj hf
  obtain ⟨hnone, hfly⟩ := of_decide_eq_true hend
  obtain ⟨m, hm, hboth⟩ := Option.map_eq_some_iff.mp hmid
  obtain ⟨h₀, h₁⟩ := of_decide_eq_true hboth
  refine ⟨tr, s, hrun, hnone, hfly, fun hF => ?_⟩
  have hS := (registrations_iff hrun).mp hF m (List.mem_of_getElem? hm)
  exact absurd (hS 0 1 0 1 h₀ h₁) (by decide)

/-! ### What a cancel reaches -/

/-- The executions of a daemon on a task do not overlap when recoveries are orderly. -/
theorem Owned.single (hO : Owned true s) : s.Single := by
  rintro d id i j ⟨e, hi, -, rfl, hp⟩ ⟨e', hj, -, heq, hp'⟩
  exact hO.eq_of_taskID_eq (getElem?_holdings hi) (getElem?_holdings hj)
    (Phase.live_of_inFlight hp) (Phase.live_of_inFlight hp') heq

/-- The managers are faithful after a run with orderly recoveries. -/
theorem faithful_of_orderly {tr : List (Lts.Move Cluster Event)} (h : cluster.Run tr s)
    (hrec : ∀ m ∈ tr, OrderlyRecovery true m) : s.Faithful := by
  refine faithful_of_run h fun m hm => ?_
  obtain ⟨tr₁, tr₂, rfl⟩ := List.append_of_mem hm
  obtain ⟨hrun, hstep⟩ := h.split
  have hO := owned_of_run hrun fun m' hm' => hrec m' (List.mem_append_left _ hm')
  exact (owned_of_effect hO (effect_of_step hstep) (hrec m hm)).single

/-- What becomes of execution `i` once its context is canceled. -/
structure Canceled (i : ℕ) (tr : List (Lts.Move Cluster Event)) : Prop where
  /-- It starts no child process any more. -/
  no_spawn : ∀ m ∈ tr, m.label ≠ .spawn i
  /-- It reports a cancel, unless its child process succeeded all the same. -/
  outcome : ∀ m ∈ tr, ∀ result err, m.label = .exit i result err →
    ∃ e, m.post.execs[i]? = some e ∧ e.phase = .finishing
      (match err with
        | none => .completed result
        | some _ => .canceled result)

/-- Execution `i` is there, and its context is canceled. -/
def ContextDone (i : ℕ) (s : Cluster) : Prop := ∃ e, s.execs[i]? = some e ∧ e.ctxDone = true

/-- A context that is canceled stays canceled. -/
theorem contextDone_of_step {ev : Event} {i : ℕ} (hi : ContextDone i s)
    (h : s.step ev = some s') : ContextDone i s' := by
  obtain ⟨e, hi, hdone⟩ := hi
  obtain ⟨e', hi', hf⟩ := exists_follows h hi
  exact ⟨e', hi', hf.ctxDone hdone⟩

theorem canceled_of_moves {tr : List (Lts.Move Cluster Event)} {i : ℕ}
    (h : ∀ m ∈ tr, m.pre.step m.label = some m.post ∧ ContextDone i m.pre) : Canceled i tr := by
  constructor
  · intro m hm hlabel
    obtain ⟨hstep, e, hi, hdone⟩ := h m hm
    rw [hlabel] at hstep
    obtain ⟨e', hi', hstep⟩ := onExec_eq_some_iff.mp hstep
    obtain rfl := Option.some.inj (hi.symm.trans hi')
    split at hstep
    · next hp => simp [ctxErr, hdone] at hp
    · cases hstep
  · intro m hm result err hlabel
    obtain ⟨hstep, e, hi, hdone⟩ := h m hm
    rw [hlabel] at hstep
    obtain ⟨e', hi', hstep⟩ := onExec_eq_some_iff.mp hstep
    obtain rfl := Option.some.inj (hi.symm.trans hi')
    split at hstep
    · have hpost := (Option.some.inj hstep).symm
      refine ⟨_, by rw [hpost, getElem?_setExec hi, if_pos rfl], ?_⟩
      cases err with
      | none => rfl
      | some msg => simp [Outcome.ofRun, ctxErr, hdone]
    · cases hstep

/-- **A cancel reaches the execution in flight, and that one only**, in a run whose
recoveries are orderly up to it: the context it marks is that of the daemon's
execution of the task, which starts no child afterwards and reports the cancel. -/
theorem cancel_reaches {tr₁ tr₂ : List (Lts.Move Cluster Event)}
    {m : Lts.Move Cluster Event} {d : ℕ} {id : ℤ} {dm : Daemon}
    (h : cluster.Run (tr₁ ++ m :: tr₂) s) (hcancel : m.label = .cancel d id)
    (hrec : ∀ m' ∈ tr₁, OrderlyRecovery true m') (hdm : m.pre.daemons[d]? = some dm)
    (hup : dm.up = true) :
    (∀ i, m.pre.InFlight d id i → ContextDone i m.post ∧ Canceled i tr₂) ∧
      ∀ i, ¬ m.pre.InFlight d id i → m.post.execs[i]? = m.pre.execs[i]? := by
  obtain ⟨hrun, hstep⟩ := h.split
  have hF := faithful_of_orderly hrun hrec
  have hpost : m.post = m.pre.managerCancel d id := by
    rw [hcancel] at hstep
    exact (Option.some.inj hstep).symm
  constructor
  · intro i hi
    -- the cancel function that is registered is that of the execution
    have hreg : dm.cancels.get? id = some i := by
      rw [← registered_of_up hdm hup]
      exact (hF d id i).mpr hi
    obtain ⟨e, he, -⟩ := hi
    have hdone : ContextDone i m.post := by
      refine ⟨{ e with ctxDone := true }, ?_, rfl⟩
      rw [hpost, managerCancel, hdm]
      simp only [hreg, he]
      rw [getElem?_setExec he, if_pos rfl]
    refine ⟨hdone, canceled_of_moves fun m' hm' => ?_⟩
    obtain ⟨tr₃, tr₄, rfl⟩ := List.append_of_mem hm'
    rw [← List.cons_append, ← List.append_assoc] at h
    have hmid := h.split
    refine ⟨hmid.2, ?_⟩
    exact (hmid.1.invariant_after (I := ContextDone i) (C := fun _ => True)
      (fun _ _ _ hI hstep _ => contextDone_of_step hI hstep) hdone fun _ _ => trivial).1
  · intro i hi
    rw [hpost, managerCancel, hdm]
    simp only
    split
    · rfl
    -- whoever else is registered under the id is not in flight on the task
    · next j hj =>
      have hne : i ≠ j := by
        rintro rfl
        rw [← registered_of_up hdm hup] at hj
        exact hi ((hF d id i).mp hj)
      split
      · rfl
      · next e he => rw [getElem?_setExec he, if_neg hne]

/-- A task that is canceled between `MarkRunning` and the start of its child. -/
def canceledEvents : List Event := [
  .boot "w1", .enqueue 0 7 "fix the build" 2 0, .claim 0 [7] [] (fun _ => 0) 1, .start 0,
  .markRunning 0 true 2, .cancel 0 1, .exit 0 "" (some "context canceled")]

theorem cancel_reaches_sample : ∃ tr₁ m tr₂ s, cluster.Run (tr₁ ++ m :: tr₂) s ∧
    m.label = .cancel 0 1 ∧ ContextDone 0 m.post ∧ Canceled 0 tr₂ := by
  obtain ⟨tr, s, hrun, hf⟩ := exists_clusterRun canceledEvents
    (fun r => (r.1[5]?).map fun m : Lts.Move Cluster Event =>
      decide ((∀ m' ∈ r.1.take 5, OrderlyRecovery true m') ∧ m.pre.InFlight 0 1 0 ∧
        (m.pre.daemons[0]?).any Daemon.up = true) && m.label matches .cancel 0 1)
    (show _ = some (some true) by decide +kernel)
  obtain ⟨m, hm, hdec⟩ := Option.map_eq_some_iff.mp hf
  rw [Bool.and_eq_true, decide_eq_true_eq] at hdec
  obtain ⟨⟨hrec, hfly, hany⟩, hlabel⟩ := hdec
  obtain ⟨dm, hdm, hup⟩ := (Option.any_eq_true _ _).mp hany
  have hcancel : m.label = .cancel 0 1 := by
    split at hlabel
    · assumption
    · cases hlabel
  obtain ⟨hlt, rfl⟩ := List.getElem?_eq_some_iff.mp hm
  have hrun' : cluster.Run (tr.take 5 ++ tr[5] :: tr.drop 6) s := by
    rwa [← List.drop_eq_getElem_cons hlt, List.take_append_drop]
  exact ⟨_, _, _, s, hrun', hcancel, (cancel_reaches hrun' hcancel hrec hdm hup).1 0 hfly⟩

end

end Server
end Shrimp
