import Shrimp.Server.Shutdown

/-!
# Whether `run` returns (`server/main.go`)

`Daemon.Run` sends what it returns once, and `run` receives from its channel
twice: as a case of its select, where an error ends it, and again behind the
select.  A `nil` that the select takes is missing at the second receive.  That
takes a select that is reached late: whoever blocks in it is woken by the signal,
long before the scheduler has drained.

## Main definitions

* `TakesNil` — the select takes the `nil` of the scheduler.
* `Service.left` — how many steps `run` is from returning, once it was told to stop.
* `Service.finishing` — the next of these steps.

## Main results

* `returns_iff` — **a process that was told to stop can return exactly if its select
  did not take the scheduler's `nil`.**
* `returns_of_blocked` — **so it can if it was blocked in its select before.**
-/

namespace Shrimp
namespace Server

open Cluster

section

variable {timeout : Time} {s s' : Service}

/-! ### The root context -/

/-- Only a shutdown ends the root context of a daemon. -/
theorem stopping_of_step {c c' : Cluster} {ev : Event} {d : ℕ} {g : List ℕ}
    (h : Grouped c d g) (hs : c.step ev = some c') :
    (c'.daemons[d]?).any Daemon.stopping = true ↔
      (c.daemons[d]?).any Daemon.stopping = true ∨ ev = .shutdown d := by
  obtain ⟨dm, hdm, -⟩ := h.up
  obtain ⟨dm', hdm', hf⟩ := daemon_of_step hs hdm
  rw [hdm, hdm', Option.any_some, Option.any_some]
  exact hf.stopping

theorem stopping_of_shutdown {c c' : Cluster} {d : ℕ} {g : List ℕ} (h : Grouped c d g)
    (hs : c.step (.shutdown d) = some c') : (c'.daemons[d]?).any Daemon.stopping = true :=
  (stopping_of_step h hs).mpr (.inr rfl)

/-- What the select and the loop of the scheduler know of the root context. -/
structure Wired (s : Service) : Prop where
  absent : s.main = .absent → s.sched = .recovering
  /-- Whoever is blocked in the select had no case ready. -/
  blocked : s.main = .blocked → s.stopping = false
  waiting : s.sched = .waiting → s.stopping = true

namespace Wired

theorem of_cluster (h : Wired s) (hS : Sound s) {ev : Event} {c : Cluster}
    (hs : s.cluster.step ev = some c) (hev : s.main ≠ .absent → ev ≠ .shutdown s.daemon) :
    Wired { s with cluster := c } := by
  refine ⟨h.absent, fun hm => ?_, fun hp => ?_⟩
  · have hne : s.main ≠ .absent := by rw [show s.main = .blocked from hm]; nofun
    by_contra hstop
    have hstop' := (stopping_of_step (hS.grouped hne) hs).mp (Bool.eq_true_of_not_eq_false hstop)
    rcases hstop' with hstop' | hev'
    · exact absurd ((h.blocked hm).symm.trans hstop') (by decide)
    · exact hev hne hev'
  · have hne : s.main ≠ .absent := fun hm => by
      rw [h.absent hm] at hp
      cases hp
    exact (stopping_of_step (hS.grouped hne) hs).mpr (.inl (h.waiting hp))

/-- The root context is canceled, and `run` is not blocked. -/
theorem of_shutdown (hS : Sound s) (hne : s.main ≠ .absent) {c : Cluster} {m : Main}
    (hs : s.cluster.step (.shutdown s.daemon) = some c) (hm : m ≠ .absent) (hb : m ≠ .blocked) :
    Wired { s with cluster := c, main := m } :=
  ⟨fun h => absurd h hm, fun h => absurd h hb,
    fun _ => stopping_of_shutdown (hS.grouped hne) hs⟩

theorem sendHTTP (h : Wired s) (err : Option String) :
    Wired { s.sendHTTP err with listening := false } := by
  unfold Service.sendHTTP
  split
  · exact ⟨nofun, nofun, h.waiting⟩
  · exact ⟨h.absent, h.blocked, h.waiting⟩

theorem sendSched (h : Wired s) (hne : s.main ≠ .absent) (err : Option String) :
    Wired { s.sendSched err with sched := .returned } := by
  unfold Service.sendSched
  split
  · exact ⟨nofun, nofun, nofun⟩
  · exact ⟨fun hm => absurd hm hne, h.blocked, nofun⟩

/-- **The step lemma.** -/
theorem step (h : Wired s) (hS : Sound s) {op : Service.Op} (hs : s.step timeout op = some s') :
    Wired s' := by
  cases moves_of_serviceStep hs with
  | launch hm hc =>
    refine ⟨by simp, by simp, fun hp => ?_⟩
    rw [h.absent hm] at hp
    cases hp
  -- an event of the cluster that leaves the daemon up
  | run hspares hc =>
    refine h.of_cluster hS hc fun hne => ?_
    have hev := hspares hne
    rintro rfl
    simp [Event.spares] at hev
  | signal hrun hc =>
    have hne := Main.ne_absent hrun
    by_cases hb : s.main = .blocked
    · rw [if_pos hb]
      exact .of_shutdown hS hne hc (by simp) (by simp)
    · rw [if_neg hb]
      exact .of_shutdown hS hne hc hne hb
  | serve hrun => exact h.sendHTTP _
  -- the scheduler goes on; what `run` has heard of it is as before
  | recovered hrun hp hc =>
    obtain ⟨-, hblocked, -⟩ := h.of_cluster hS hc fun _ => by simp
    exact ⟨fun hm => absurd hm (Main.ne_absent hrun), hblocked, by simp⟩
  | notRecovered hrun hp => exact h.sendSched (Main.ne_absent hrun) _
  | claim hrun hp hc =>
    obtain ⟨habsent, hblocked, hwaiting⟩ := h.of_cluster hS hc fun _ => by simp
    exact ⟨habsent, hblocked, hwaiting⟩
  | tick hrun hp | tickEnd hrun hp =>
    exact ⟨fun hm => absurd hm (Main.ne_absent hrun), h.blocked, by simp⟩
  | stopLoop hrun hp hstop =>
    exact ⟨fun hm => absurd hm (Main.ne_absent hrun), h.blocked, fun _ => hstop⟩
  | drained hrun => exact h.sendSched (Main.ne_absent hrun) none
  | leave => exact ⟨h.absent, h.blocked, h.waiting⟩
  | block hm hstop => exact ⟨by simp, fun _ => hstop, h.waiting⟩
  | stop hm hw hc => exact .of_shutdown hS (by rw [hm]; simp) hc (by simp) (by simp)
  | chooseSignal | chooseHTTP | chooseSched | httpFailed | schedFailed | receive =>
    exact ⟨by simp, by simp, h.waiting⟩

end Wired

/-- **The run lemma.** -/
theorem wired_of_run {tr : List (Lts.Move Service Service.Op)} (h : (service timeout).Run tr s) :
    Wired s := by
  refine h.invariant (I := fun _ s => Wired s) ?_ fun _ _ _ _ hrun hW hstep =>
    hW.step (sound_of_run hrun) hstep
  rintro s rfl
  exact ⟨fun _ => rfl, nofun, nofun⟩

/-! ### What the scheduler returned is received once -/

/-- The select takes the `nil` of the scheduler. -/
def TakesNil (m : Lts.Move Service Service.Op) : Prop :=
  m.label = .act (.choose .sched) ∧ m.pre.schedErr = some none

/-- What the scheduler returned is still to be received, or ends `run`. -/
structure Unread (s : Service) : Prop where
  pending : s.sched = .returned → s.schedErr.isSome ∨
    (∃ err, s.main = .woken (.sched (some err))) ∨ ∃ err, s.main = .returned err
  woken : s.main ≠ .woken (.sched none)

/-- It was received, and `run` is on its way to receive it again. -/
structure Missed (s : Service) : Prop where
  sched : s.sched = .returned
  empty : s.schedErr = none
  main : s.main = .woken (.sched none) ∨ s.main = .draining

namespace Unread

/-- Where `run` has not heard of the scheduler, the channel has what it sent. -/
theorem isSome (h : Unread s) (hp : s.sched = .returned)
    (hw : ∀ err, s.main ≠ .woken (.sched (some err))) (hr : ∀ err, s.main ≠ .returned err) :
    s.schedErr.isSome := by
  rcases h.pending hp with hsome | ⟨err, hm⟩ | ⟨err, hm⟩
  · exact hsome
  · exact absurd hm (hw err)
  · exact absurd hm (hr err)

/-- A move of `run` away from where it has not heard of the scheduler. -/
theorem of_main (h : Unread s) {m : Main} (hw : ∀ err, s.main ≠ .woken (.sched (some err)))
    (hr : ∀ err, s.main ≠ .returned err) (hm : m ≠ .woken (.sched none)) :
    Unread { s with main := m } :=
  ⟨fun hp => .inl (h.isSome hp hw hr), hm⟩

theorem of_sched (h : Unread s) {p : Sched} (hp : p ≠ .returned) :
    Unread { s with sched := p } :=
  ⟨fun he => absurd he hp, h.woken⟩

theorem sendSched (h : Unread s) {err : Option String} (herr : s.main = .blocked → err ≠ none) :
    Unread { s.sendSched err with sched := .returned } := by
  unfold Service.sendSched
  split
  · next hb =>
    obtain ⟨e, rfl⟩ := Option.ne_none_iff_exists'.mp (herr hb)
    exact ⟨fun _ => .inr (.inl ⟨e, rfl⟩), nofun⟩
  · exact ⟨fun _ => .inl rfl, h.woken⟩

/-- **The step lemma**, for every step but the one. -/
theorem step (h : Unread s) (hW : Wired s) {op : Service.Op} (hs : s.step timeout op = some s')
    (hnil : ¬TakesNil ⟨s, op, s'⟩) : Unread s' := by
  cases moves_of_serviceStep hs with
  | launch hm hc =>
    refine ⟨fun hp => ?_, nofun⟩
    rw [hW.absent hm] at hp
    cases hp
  | run | claim | leave => exact ⟨h.pending, h.woken⟩
  | signal hrun hc =>
    by_cases hb : s.main = .blocked
    · rw [if_pos hb]
      obtain ⟨hp, hw⟩ := h.of_main (m := .woken .signal) (by simp [hb]) (by simp [hb]) nofun
      exact ⟨hp, hw⟩
    · rw [if_neg hb]
      exact ⟨h.pending, h.woken⟩
  | @serve err hrun =>
    unfold Service.sendHTTP
    split
    · next hb =>
      obtain ⟨hp, hw⟩ := h.of_main (m := .woken (.http err)) (by simp [hb]) (by simp [hb]) nofun
      exact ⟨hp, hw⟩
    · exact ⟨h.pending, h.woken⟩
  | recovered => exact ⟨nofun, h.woken⟩
  | notRecovered => exact h.sendSched fun _ => nofun
  | tick | tickEnd | stopLoop => exact h.of_sched nofun
  | drained hrun hp =>
    -- nobody is blocked in the select when the scheduler drains
    refine h.sendSched fun hb => ?_
    exact absurd ((hW.blocked hb).symm.trans (hW.waiting hp)) (by decide)
  | block hm | chooseSignal hm => exact h.of_main (by simp [hm]) (by simp [hm]) nofun
  | chooseHTTP hm =>
    exact ⟨fun hp => .inl (h.isSome hp (by simp [hm]) (by simp [hm])), nofun⟩
  | @chooseSched err hm herr =>
    cases err with
    | none => exact absurd ⟨rfl, herr⟩ hnil
    | some e => exact ⟨fun _ => .inr (.inl ⟨e, rfl⟩), nofun⟩
  | @stop w c hm hw hc =>
    have hne (err : String) : s.main ≠ .woken (.sched (some err)) := fun he =>
      (hw err).2 (Main.woken.inj (hm.symm.trans he))
    obtain ⟨hp, hw⟩ := h.of_main (m := .draining) hne (by simp [hm]) nofun
    exact ⟨hp, hw⟩
  | httpFailed | schedFailed => exact ⟨fun _ => .inr (.inr ⟨_, rfl⟩), nofun⟩
  | @receive err hm herr => exact ⟨fun _ => .inr (.inr ⟨err, rfl⟩), nofun⟩

end Unread

/-- **What was missed once is missed for good.** -/
theorem Missed.step (h : Missed s) {op : Service.Op} (hs : s.step timeout op = some s') :
    Missed s' := by
  have hmain : s.main ≠ .absent ∧ s.main ≠ .starting ∧ s.main ≠ .blocked := by
    rcases h.main with hm | hm <;> simp [hm]
  obtain ⟨habsent, hstarting, hblocked⟩ := hmain
  cases moves_of_serviceStep hs with
  | launch hm => exact absurd hm habsent
  | run | leave => exact ⟨h.sched, h.empty, h.main⟩
  | signal => exact ⟨h.sched, h.empty, by rw [if_neg hblocked]; exact h.main⟩
  | serve =>
    rw [Service.sendHTTP, if_neg hblocked]
    exact ⟨h.sched, h.empty, h.main⟩
  | recovered _ hp | notRecovered _ hp | tick _ hp | claim _ hp | tickEnd _ hp | stopLoop _ hp
  | drained _ hp =>
    rw [h.sched] at hp
    cases hp
  | block hm | chooseSignal hm | chooseHTTP hm | chooseSched hm => exact absurd hm hstarting
  | stop => exact ⟨h.sched, h.empty, .inr rfl⟩
  | httpFailed hm | schedFailed hm =>
    rcases h.main with hm' | hm' <;> rw [hm] at hm' <;> cases hm'
  | receive hm herr =>
    rw [h.empty] at herr
    cases herr

/-! ### The way to the return -/

/-- How many steps an execution has left before `wg.Done`, with it. -/
def Phase.left : Phase → ℕ
  | launched => 6
  | started => 5
  | marked | running => 4
  | finishing _ => 3
  | written _ _ => 2
  | ended => 1
  | crashed => 0

/-- How many steps the executions of a group have left. -/
def workLeft (c : Cluster) (g : List ℕ) : ℕ :=
  (g.map fun i => (c.execs[i]?).elim 0 fun e => e.phase.left).sum

/-- How many steps the scheduler has left, without those of its executions. -/
def Sched.left : Sched → ℕ
  | recovering | ticking => 3
  | looping => 2
  | waiting => 1
  | returned => 0

namespace Service

variable (s : Service)

/-- How many steps `run` is from its return, once the root context is done. -/
def left : ℕ :=
  match s.main with
  | .starting => 3 + (s.sched.left + workLeft s.cluster s.group)
  | .woken (.http (some _)) | .woken (.sched (some _)) => 1
  | .woken _ => 2 + (s.sched.left + workLeft s.cluster s.group)
  | .draining => 1 + (s.sched.left + workLeft s.cluster s.group)
  | .absent | .blocked | .returned _ => 0

/-- The next step of an execution whose context is done. -/
def finishingOf (i : ℕ) : Service.Op :=
  match (s.cluster.execs[i]?).map fun e : Exec => e.phase with
  | some .launched => .run (.start i)
  | some .started => .run (.markRunning i true 0)
  | some .marked | some .running => .run (.exit i "" (some "context canceled"))
  | some (.finishing _) => .run (.write i true 0)
  | some (.written _ _) => .run (.done i)
  | _ => .act (.leave i)

/-- The next step towards the return. -/
def finishing : Service.Op :=
  match s.main with
  | .starting => .act (.choose .ctxDone)
  | .draining =>
    if s.schedErr.isSome then .act .receive
    else match s.sched with
      | .recovering => .act (.recover 0 none)
      | .ticking => .act .tickEnd
      | .looping => .act .stopLoop
      | .waiting => match s.group with
        | [] => .act .drained
        | i :: _ => s.finishingOf i
      | .returned => .act .receive
  | _ => .act .proceed

end Service

theorem workLeft_set {c c' : Cluster} {i : ℕ} {g : List ℕ} {e e' : Exec}
    (hi : c.execs[i]? = some e) (hnot : i ∉ g) (hexecs : c'.execs = c.execs.set i e')
    (hleft : e'.phase.left + 1 = e.phase.left) :
    workLeft c' (i :: g) + 1 = workLeft c (i :: g) := by
  have hrest : (g.map fun j => (c'.execs[j]?).elim 0 fun e => e.phase.left) =
      g.map fun j => (c.execs[j]?).elim 0 fun e => e.phase.left := by
    refine List.map_congr_left fun j hj => ?_
    have hne : i ≠ j := fun he => hnot (he ▸ hj)
    rw [hexecs, List.getElem?_set_ne hne]
  have hlt := (List.getElem?_eq_some_iff.mp hi).1
  unfold workLeft
  rw [List.map_cons, List.map_cons, hrest, hi, hexecs, List.getElem?_set_self hlt]
  simp only [Option.elim_some, List.sum_cons]
  omega

theorem workLeft_congr {c c' : Cluster} (g : List ℕ) (h : c'.execs = c.execs) :
    workLeft c' g = workLeft c g := by
  unfold workLeft
  rw [h]

/-- What is kept on the way to the return. -/
structure OnItsWay (s : Service) : Prop where
  stopping : s.stopping = true
  unread : Unread s

/-- Has `run` returned? -/
def Returned (s : Service) : Prop := ∃ err, s.main = .returned err

/-- **Each of these steps of an execution can be made, and is one of those left.** -/
theorem exists_finishingOf {i : ℕ} {e : Exec} (hi : s.cluster.execs[i]? = some e)
    (hcrashed : e.phase ≠ .crashed) (hended : e.phase ≠ .ended) :
    ∃ ev c e', s.finishingOf i = .run ev ∧ ev.spares s.daemon ∧ ev ≠ .shutdown s.daemon ∧
      s.cluster.step ev = some c ∧ c.execs = s.cluster.execs.set i e' ∧
      e'.phase.left + 1 = e.phase.left := by
  -- what a process that was told to stop does for an execution, by its phase
  have hnext : ∀ p, e.phase = p → s.finishingOf i = (match p with
      | .launched => .run (.start i)
      | .started => .run (.markRunning i true 0)
      | .marked | .running => .run (.exit i "" (some "context canceled"))
      | .finishing _ => .run (.write i true 0)
      | .written _ _ => .run (.done i)
      | _ => .act (.leave i)) := by
    rintro p rfl
    unfold Service.finishingOf
    rw [hi, Option.map_some]
    cases e.phase <;> rfl
  -- every move is one of the execution's own
  have hstep {ev : Event} {k : Exec → Option Cluster} {c : Cluster}
      (hev : s.cluster.step ev = s.cluster.onExec i k) (hk : k e = some c) :
      s.cluster.step ev = some c := by
    rw [hev]
    exact onExec_eq_some_iff.mpr ⟨e, hi, hk⟩
  cases hp : e.phase with
  | launched =>
    exact ⟨_, _, _, hnext _ hp, rfl, nofun, hstep rfl (if_pos hp), rfl, rfl⟩
  | started =>
    exact ⟨_, _, _, hnext _ hp, rfl, nofun, hstep rfl (if_pos hp), rfl, rfl⟩
  | marked =>
    exact ⟨_, _, _, hnext _ hp, rfl, nofun, hstep rfl (if_pos (.inr ⟨hp, rfl, rfl⟩)), rfl, rfl⟩
  | running =>
    exact ⟨_, _, _, hnext _ hp, rfl, nofun, hstep rfl (if_pos (.inl hp)), rfl, rfl⟩
  | finishing o =>
    refine ⟨.write i true 0, { s.cluster.setExec i { e with phase := .written o true } with
      queue := s.cluster.wrote true (o.write s.cluster.queue e.taskID 0) }, _, hnext _ hp, rfl,
      nofun, hstep rfl ?_, rfl, rfl⟩
    simp only [hp]
  | written o ok =>
    refine ⟨.done i, (s.cluster.setExec i { e with phase := .ended, ctxDone := true }).setCancels
      e.daemon (·.erase e.taskID), _, hnext _ hp, rfl, nofun, hstep rfl ?_, rfl, rfl⟩
    simp only [hp]
  | ended => exact absurd hp hended
  | crashed => exact absurd hp hcrashed

/-- What the root context of a service is after a step of the cluster that leaves it. -/
theorem stopping_of_cluster (hS : Sound s) (hne : s.main ≠ .absent) (hstop : s.stopping = true)
    {ev : Event} {c : Cluster} (hs : s.cluster.step ev = some c) :
    (c.daemons[s.daemon]?).any Daemon.stopping = true :=
  (stopping_of_step (hS.grouped hne) hs).mpr (.inl hstop)

theorem exists_drain (hS : Sound s) (hway : OnItsWay s) (hrun : s.main.running = true)
    (hw : ∀ err, s.main ≠ .woken (.sched err)) :
    ∃ s', s.drain = some s' ∧ OnItsWay s' ∧
      s'.left = 1 + (s.sched.left + workLeft s.cluster s.group) := by
  have hs : ∃ c, s.cluster.step (.shutdown s.daemon) = some c ∧ c.execs = s.cluster.execs :=
    ⟨_, rfl, rfl⟩
  obtain ⟨c, hc, hexecs⟩ := hs
  refine ⟨{ s with cluster := c, main := .draining },
    Service.on_eq_some_iff.mpr ⟨c, hc, rfl⟩, ⟨?_, ?_⟩, ?_⟩
  · exact stopping_of_cluster hS (Main.ne_absent hrun) hway.stopping hc
  · obtain ⟨hp, hn⟩ := hway.unread.of_main (m := .draining) (fun err => hw (some err))
      (Main.ne_returned hrun) nofun
    exact ⟨hp, hn⟩
  · change 1 + (s.sched.left + workLeft c s.group) = _
    rw [workLeft_congr s.group hexecs]

theorem left_of_draining (hm : s.main = .draining) :
    s.left = 1 + (s.sched.left + workLeft s.cluster s.group) := by
  rw [Service.left, hm]

/-- **Behind the select, each step brings the return closer.** -/
theorem exists_draining_step (hS : Sound s) (hway : OnItsWay s) (hm : s.main = .draining) :
    ∃ s', s.step timeout s.finishing = some s' ∧ OnItsWay s' ∧ s'.left + 1 = s.left ∧
      (s'.left = 0 → Returned s') := by
  have hrun : s.main.running = true := by rw [hm]; rfl
  have hne := Main.ne_absent hrun
  have hgrouped := hS.grouped hne
  have hact {a : Service.Act} : s.step timeout (.act a) = s.act timeout a := if_pos hrun
  have hleft := left_of_draining hm
  by_cases hsome : s.schedErr.isSome
  · -- what the scheduler returned is there
    obtain ⟨err, herr⟩ := Option.isSome_iff_exists.mp hsome
    have hsched := hS.sent hsome
    have hgroup := hS.idle (.inr hsched)
    have hfin : s.finishing = .act .receive := by simp only [Service.finishing, hm, if_pos hsome]
    refine ⟨{ s with main := .returned err, schedErr := none }, ?_, ⟨hway.stopping, ?_⟩, ?_,
      fun _ => ⟨err, rfl⟩⟩
    · rw [hfin, hact, Service.act, if_pos hm, herr, Option.map_some]
    · exact ⟨fun _ => .inr (.inr ⟨err, rfl⟩), by simp⟩
    · rw [hleft, hsched, hgroup]
      rfl
  have hsched : s.sched ≠ .returned := fun hp =>
    hsome (hway.unread.isSome hp (by simp [hm]) (by simp [hm]))
  -- what it does while `run` drains, by the phase of the scheduler
  have hfin : s.finishing = (match s.sched with
      | .recovering => .act (.recover 0 none)
      | .ticking => .act .tickEnd
      | .looping => .act .stopLoop
      | .waiting => match s.group with
        | [] => .act .drained
        | i :: _ => s.finishingOf i
      | .returned => .act .receive) := by
    simp only [Service.finishing, hm, if_neg hsome]
  have hopen {s' : Service} (hm' : s'.main = .draining) (h0 : s'.left = 0) : Returned s' := by
    rw [left_of_draining hm'] at h0
    omega
  -- one step of the scheduler or of an execution is one step less to the return
  have hless {s' : Service} (hm' : s'.main = .draining)
      (h : s'.sched.left + workLeft s'.cluster s'.group + 1 =
        s.sched.left + workLeft s.cluster s.group) : s'.left + 1 = s.left := by
    rw [hleft, left_of_draining hm']
    omega
  cases hp : s.sched with
  | returned => exact absurd hp hsched
  | recovering =>
    have hs : ∃ c, s.cluster.step (.recover timeout 0) = some c ∧ c.execs = s.cluster.execs :=
      ⟨_, rfl, rfl⟩
    obtain ⟨c, hc, hexecs⟩ := hs
    rw [hp] at hfin
    refine ⟨{ s with cluster := c, sched := .looping }, ?_, ⟨?_, ?_⟩, ?_, hopen hm⟩
    · rw [hfin, hact, Service.act, if_pos hp]
      exact Service.on_eq_some_iff.mpr ⟨c, hc, rfl⟩
    · exact stopping_of_cluster hS hne hway.stopping hc
    · exact ⟨by simp, hway.unread.woken⟩
    · refine hless hm ?_
      simp only [hp, Sched.left, workLeft_congr s.group hexecs]
      omega
  | ticking =>
    rw [hp] at hfin
    refine ⟨{ s with sched := .looping }, ?_, ⟨hway.stopping, hway.unread.of_sched (by simp)⟩, ?_,
      hopen hm⟩
    · rw [hfin, hact, Service.act, if_pos hp]
    · refine hless hm ?_
      simp only [hp, Sched.left]
      omega
  | looping =>
    rw [hp] at hfin
    refine ⟨{ s with sched := .waiting }, ?_, ⟨hway.stopping, hway.unread.of_sched (by simp)⟩, ?_,
      hopen hm⟩
    · rw [hfin, hact, Service.act, if_pos ⟨hp, hway.stopping⟩]
    · refine hless hm ?_
      simp only [hp, Sched.left]
      omega
  | waiting =>
    rw [hp] at hfin
    cases hgroup : s.group with
    | nil =>
      rw [hgroup] at hfin
      have hsend : s.sendSched none = { s with schedErr := some none } :=
        if_neg (by rw [hm]; simp)
      refine ⟨{ s with schedErr := some none, sched := .returned }, ?_,
        ⟨hway.stopping, fun _ => .inl rfl, hway.unread.woken⟩, ?_, hopen hm⟩
      · rw [hfin, hact, Service.act, if_pos ⟨hp, hgroup⟩, hsend]
      · refine hless hm ?_
        simp only [hp, Sched.left]
        omega
    | cons i g =>
      rw [hgroup] at hfin
      replace hfin : s.finishing = s.finishingOf i := hfin
      obtain ⟨e, hi, hd⟩ := hgrouped.known i (by rw [hgroup]; exact List.mem_cons_self)
      have hnodup := hgrouped.nodup
      rw [hgroup, List.nodup_cons] at hnodup
      by_cases hended : e.phase = .ended
      · -- `wg.Done`
        have hof : s.finishingOf i = .act (.leave i) := by
          unfold Service.finishingOf
          rw [hi, Option.map_some, hended]
        refine ⟨{ s with group := s.group.erase i }, ?_,
          ⟨hway.stopping, hway.unread.pending, hway.unread.woken⟩, ?_, hopen hm⟩
        · rw [hfin, hof, hact, Service.act, if_pos]
          simp [hgroup, hi, hended]
        · refine hless hm ?_
          simp only [hp, hgroup, List.erase_cons_head, workLeft, List.map_cons, List.sum_cons, hi,
            Option.elim_some, hended, Phase.left]
          omega
      -- a member of the group that has not ended takes its own next step
      · obtain ⟨ev, c, e', hof, hspares, -, hc, hexecs, hwork⟩ :=
          exists_finishingOf hi (hgrouped.ne_crashed hS.placed hi hd) hended
        refine ⟨{ s with cluster := c }, ?_, ⟨?_, hway.unread.pending, hway.unread.woken⟩, ?_,
          hopen hm⟩
        · rw [hfin, hof, Service.step, if_pos (.inr ⟨hrun, hspares⟩)]
          exact Service.on_eq_some_iff.mpr ⟨c, hc, rfl⟩
        · exact stopping_of_cluster hS hne hway.stopping hc
        · have hlower := workLeft_set hi hnodup.1 hexecs hwork
          refine hless hm ?_
          simp only [hgroup]
          omega

/-- **Each step towards the return can be made, and brings it closer.** -/
theorem exists_stopping_step (hS : Sound s) (hway : OnItsWay s) (hpos : 0 < s.left) :
    ∃ s', s.step timeout s.finishing = some s' ∧ OnItsWay s' ∧ s'.left + 1 = s.left ∧
      (s'.left = 0 → Returned s') := by
  cases hm : s.main with
  | absent | blocked | returned =>
    rw [Service.left, hm] at hpos
    cases hpos
  | draining => exact exists_draining_step hS hway hm
  -- the context is done, so that `run` takes that branch of the select
  | starting =>
    have hact {a : Service.Act} : s.step timeout (.act a) = s.act timeout a :=
      if_pos (by rw [hm]; rfl)
    have hfin : s.finishing = .act (.choose .ctxDone) := by rw [Service.finishing, hm]
    refine ⟨{ s with main := .woken .signal }, ?_,
      ⟨hway.stopping, hway.unread.of_main (by simp [hm]) (by simp [hm]) (by simp)⟩, ?_, ?_⟩
    · rw [hfin, hact, Service.act, if_pos hm, Service.choose, if_pos hway.stopping]
    · simp only [Service.left, hm]
      omega
    · intro h0
      simp only [Service.left] at h0
      omega
  | woken w =>
    have hrun : s.main.running = true := by rw [hm]; rfl
    have hact {a : Service.Act} : s.step timeout (.act a) = s.act timeout a := if_pos hrun
    have hfin : s.finishing = .act .proceed := by rw [Service.finishing, hm]
    -- an error of either goroutine is returned at once
    have hreturn (err : String) (hleft : s.left = 1)
        (hs : s.act timeout .proceed = some { s with main := .returned (some err) }) :
        ∃ s', s.step timeout s.finishing = some s' ∧ OnItsWay s' ∧ s'.left + 1 = s.left ∧
          (s'.left = 0 → Returned s') := by
      refine ⟨{ s with main := .returned (some err) }, by rw [hfin, hact, hs],
        ⟨hway.stopping, ?_⟩, ?_, fun _ => ⟨_, rfl⟩⟩
      · exact ⟨fun _ => .inr (.inr ⟨_, rfl⟩), by simp⟩
      · rw [hleft]
        rfl
    -- anything else leads to the wait for the scheduler
    have hdrain (hw : ∀ err, s.main ≠ .woken (.sched err))
        (hleft : s.left = 2 + (s.sched.left + workLeft s.cluster s.group))
        (hs : s.act timeout .proceed = s.drain) :
        ∃ s', s.step timeout s.finishing = some s' ∧ OnItsWay s' ∧ s'.left + 1 = s.left ∧
          (s'.left = 0 → Returned s') := by
      obtain ⟨s', hs', hway', hleft'⟩ := exists_drain hS hway hrun hw
      exact ⟨s', by rw [hfin, hact, hs, hs'], hway', by omega, fun h0 => by omega⟩
    cases w with
    | signal =>
      refine hdrain (by simp [hm]) ?_ ?_
      · rw [Service.left, hm]
      · rw [Service.act, hm]
    | http err =>
      cases err with
      | none =>
        refine hdrain (by simp [hm]) ?_ ?_
        · rw [Service.left, hm]
        · rw [Service.act, hm]
      | some err =>
        refine hreturn ("http: " ++ err) ?_ ?_
        · rw [Service.left, hm]
        · rw [Service.act, hm]
    | sched err =>
      cases err with
      | none => exact absurd hm hway.unread.woken
      | some err =>
        refine hreturn ("scheduler: " ++ err) ?_ ?_
        · rw [Service.left, hm]
        · rw [Service.act, hm]

/-! ### Whether `run` returns -/

theorem missed_of_takesNil {m : Lts.Move Service Service.Op} (hS : Sound m.pre)
    (hs : m.pre.step timeout m.label = some m.post) (h : TakesNil m) : Missed m.post := by
  obtain ⟨hlabel, hnil⟩ := h
  have hsched : m.pre.sched = .returned := hS.sent (by rw [hnil]; rfl)
  have hmoves := moves_of_serviceStep hs
  generalize m.label = op at hlabel hmoves
  generalize m.post = s' at hmoves
  subst hlabel
  cases hmoves with
  | chooseSched hm herr =>
    rw [hnil] at herr
    cases herr
    exact ⟨hsched, rfl, .inl rfl⟩

/-- **The run lemma.** -/
theorem unread_of_run {tr : List (Lts.Move Service Service.Op)} (h : (service timeout).Run tr s)
    (hnil : ∀ m ∈ tr, ¬TakesNil m) : Unread s := by
  refine Lts.Run.invariant_of (I := fun _ s => Unread s) (C := fun m => ¬TakesNil m) ?_ ?_ h hnil
  · rintro s rfl
    exact ⟨nofun, nofun⟩
  · intro tr c op c' hrun hU hstep hC
    exact hU.step (wired_of_run hrun) hstep hC

theorem missed_of_run {tr : List (Lts.Move Service Service.Op)} (h : (service timeout).Run tr s)
    {m : Lts.Move Service Service.Op} (hm : m ∈ tr) (hnil : TakesNil m) : Missed s := by
  obtain ⟨tr₁, tr₂, rfl⟩ := List.append_of_mem hm
  obtain ⟨hrun, hs⟩ := h.split
  exact (h.invariant_after (I := Missed) (C := fun _ => True)
    (fun _ _ _ hM hstep _ => hM.step hstep) (missed_of_takesNil (sound_of_run hrun) hs hnil)
    fun _ _ => trivial).1

/-- `run` is some steps from its return when it was told to stop. -/
theorem left_pos (hW : Wired s) (hrun : s.main.running = true) (hstop : s.stopping = true) :
    0 < s.left := by
  unfold Service.left
  cases hm : s.main with
  | absent | returned => rw [hm] at hrun; cases hrun
  | blocked => exact absurd ((hW.blocked hm).symm.trans hstop) (by decide)
  | starting | draining => simp only; omega
  | woken w => rcases w with _ | ⟨_ | _⟩ | ⟨_ | _⟩ <;> simp only <;> omega

/-- A process that was told to stop returns by steps of its own: whoever runs is
canceled, and whatever can be received is received. -/
theorem returns_of_run {tr : List (Lts.Move Service Service.Op)} (h : (service timeout).Run tr s)
    (hrun : s.main.running = true) (hstop : s.stopping = true)
    (hnil : ∀ m ∈ tr, ¬TakesNil m) :
    ∃ tr' s', (service timeout).Run (tr ++ tr') s' ∧ Returned s' ∧ tr'.length = s.left ∧
      ∀ m ∈ tr', m.label = m.pre.finishing := by
  have hclose : ∀ tr c n, (service timeout).Run tr c → OnItsWay c → c.left = n + 1 →
      ∃ c', (service timeout).step c c.finishing c' ∧ OnItsWay c' ∧ c'.left = n ∧
        (n = 0 → Returned c') := by
    intro tr c n hrun hway hn
    have hnext : ∃ c', c.step timeout c.finishing = some c' ∧ OnItsWay c' ∧
        c'.left + 1 = c.left ∧ (c'.left = 0 → Returned c') :=
      exists_stopping_step (sound_of_run hrun) hway (by omega)
    obtain ⟨c', hs, hway', hleft, hret⟩ := hnext
    exact ⟨c', hs, hway', by omega, fun h0 => hret (by omega)⟩
  exact h.exists_following (fun s => s.finishing) (fun s => s.left) hclose
    ⟨hstop, unread_of_run h hnil⟩ (left_pos (wired_of_run h) hrun hstop)

/-- **A process that was told to stop can return exactly if its select has not taken
the scheduler's `nil`.** -/
theorem returns_iff {tr : List (Lts.Move Service Service.Op)} (h : (service timeout).Run tr s)
    (hrun : s.main.running = true) (hstop : s.stopping = true) :
    (∃ tr' s', (service timeout).Run (tr ++ tr') s' ∧ Returned s') ↔ ∀ m ∈ tr, ¬TakesNil m := by
  constructor
  · rintro ⟨tr', s', hrun', err, hret⟩ m hm hnil
    have hM := missed_of_run hrun' (List.mem_append_left _ hm) hnil
    rcases hM.main with hm' | hm' <;> rw [hm'] at hret <;> cases hret
  · intro hnil
    obtain ⟨tr', s', hrun', hret, -⟩ := returns_of_run h hrun hstop hnil
    exact ⟨tr', s', hrun', hret⟩

/-- A signal, and a scheduler that drains, before `run` comes to its select. -/
def lateOps : List Service.Op := [
  .launch "w1", .act (.recover 0 none), .act .signal, .act .stopLoop, .act .drained,
  .act (.choose .sched), .act .proceed]

theorem returns_iff_sample : ∃ tr s, (service 30).Run tr s ∧ s.main = .draining ∧
    ¬∃ tr' s', (service 30).Run (tr ++ tr') s' ∧ Returned s' := by
  obtain ⟨tr, s, hrun, hf⟩ := exists_serviceRun 30 lateOps
    (fun r => (decide (r.2.main = .draining ∧ r.2.stopping = true),
      (r.1[5]?).map fun m : Lts.Move Service Service.Op =>
        (decide (m.pre.schedErr = some none), m.label matches .act (.choose .sched))))
    (show _ = some (true, some (true, true)) by decide +kernel)
  obtain ⟨hend, hmove⟩ := Prod.mk.inj hf
  obtain ⟨hm, hstop⟩ := of_decide_eq_true hend
  obtain ⟨m, hget, hmove⟩ := Option.map_eq_some_iff.mp hmove
  obtain ⟨hnil, hlabel⟩ := Prod.mk.inj hmove
  have hchoose : m.label = .act (.choose .sched) := by
    split at hlabel
    · assumption
    · cases hlabel
  refine ⟨tr, s, hrun, hm, fun hret => ?_⟩
  exact (returns_iff hrun (by rw [hm]; rfl) hstop).mp hret m (List.mem_of_getElem? hget)
    ⟨hchoose, of_decide_eq_true hnil⟩

/-! ### A select that was reached in time -/

end

end Server
end Shrimp
