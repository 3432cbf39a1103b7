import Shrimp.Server.Events
import Shrimp.Server.Host
import Shrimp.Server.Lifecycle

/-!
# The slots of an agent, as the table has them (`server/task/queue.go`)

`CountInflight` counts the rows of an agent that are claimed or running under the
name of a worker, "to compute free slots after a restart".  The scheduler counts in
memory.  An execution whose terminal write fails gives up its slot and leaves its row,
so the table may count more than the scheduler does, by one for every such write.

## Main definitions

* `Queue.countInflight` — `CountInflight`.
* `Traced` — a row in the hands of a worker was claimed last under its name.
* `lostPlaces` — the executions whose terminal write has failed.

## Main results

* `traced_of_run`, `accounted_of_run` — the run lemmas.
* `countInflight_le_of_run` — **the table counts no more than the concurrency of the
  agent and the terminal writes that failed.**
-/

namespace Shrimp
namespace Server

open Cluster

/-- The rows `CountInflight` counts. -/
def Queue.inflight (q : Queue) (agentID : ℤ) (workerID : String) : List (ℤ × Task) :=
  q.rows.entries.filter fun e =>
    e.2.agentID = agentID ∧ e.2.workerID = some workerID ∧ e.2.status.held

/-- `CountInflight`. -/
def Queue.countInflight (q : Queue) (agentID : ℤ) (workerID : String) : ℕ :=
  (q.inflight agentID workerID).length

theorem Queue.mem_inflight_iff {q : Queue} {agentID : ℤ} {workerID : String} {id : ℤ}
    {row : Task} : (id, row) ∈ q.inflight agentID workerID ↔ q.get id = some row ∧
      row.agentID = agentID ∧ row.workerID = some workerID ∧ row.status.held := by
  rw [inflight, List.mem_filter, decide_eq_true_eq]
  exact and_congr_left' ⟨Dict.get?_of_mem, Dict.mem_of_get?⟩

/-! ### Who has claimed a row -/

section

variable {s s' : Cluster} {ev : Event}

/-- The moves of the phase of execution `i`, by the label that makes them. -/
inductive PhaseMove (i : ℕ) : Event → Phase → Phase → Prop
  | stay {ev : Event} {p : Phase} : PhaseMove i ev p p
  | silent {ev : Event} {p p' : Phase} (h : Silent p p') : PhaseMove i ev p p'
  | mark {ev : Event} : PhaseMove i ev .started .marked
  | write {o : Outcome} {ok : Bool} {now : Time} :
    PhaseMove i (.write i ok now) (.finishing o) (.written o ok)
  | crash {d : ℕ} {p : Phase} : PhaseMove i (.crash d) p .crashed

/-- **A claim stays with who holds it**, and its phase makes one of the moves. -/
theorem holding_of_effect (h : Effect s s' ev) {i : ℕ} {h₀ : Holding}
    (hi : s.holdings[i]? = some h₀) : ∃ p : Phase,
      s'.holdings[i]? = some { h₀ with phase := p } ∧ PhaseMove i ev h₀.phase p ∧
        (p = .crashed → h₀.phase = .crashed ∨ ev = .crash h₀.daemon) := by
  have stays (heq : s'.holdings[i]? = some h₀) : ∃ p : Phase,
      s'.holdings[i]? = some { h₀ with phase := p } ∧ PhaseMove i ev h₀.phase p ∧
        (p = .crashed → h₀.phase = .crashed ∨ ev = .crash h₀.daemon) :=
    ⟨h₀.phase, heq, .stay, .inl⟩
  have ofSet {j : ℕ} {h₁ : Holding} {p : Phase} (hj : s.holdings[j]? = some h₁)
      (hexecs : s'.holdings = s.holdings.set j { h₁ with phase := p })
      (hp : j = i → PhaseMove i ev h₁.phase p) (hne : p ≠ .crashed) : ∃ p : Phase,
      s'.holdings[i]? = some { h₀ with phase := p } ∧ PhaseMove i ev h₀.phase p ∧
        (p = .crashed → h₀.phase = .crashed ∨ ev = .crash h₀.daemon) := by
    by_cases hji : j = i
    · subst hji
      obtain rfl := Option.some.inj (hj.symm.trans hi)
      refine ⟨p, ?_, hp rfl, fun hc => absurd hc hne⟩
      rw [hexecs, List.getElem?_set_self (List.getElem?_eq_some_iff.mp hj).1]
    · exact stays (by rw [hexecs, List.getElem?_set_ne hji, hi])
  cases h with
  | quiet _ hexecs | enqueue _ _ _ hexecs | recover _ hexecs => exact stays (hexecs ▸ hi)
  | claim _ _ _ _ _ _ hexecs =>
    refine stays ?_
    rw [hexecs]
    exact (List.getElem?_append_left (List.getElem?_eq_some_iff.mp hi).1).trans hi
  | progress j h₁ p hj hp _ hexecs =>
    refine ofSet hj hexecs (fun _ => .silent hp) ?_
    generalize h₁.phase = q at hp
    cases hp <;> simp
  | markRunning h₁ hj hp _ hexecs => exact ofSet hj hexecs (fun _ => hp ▸ .mark) (by simp)
  | write h₁ o hj hp _ hexecs =>
    refine ofSet hj hexecs (fun hji => ?_) (by simp)
    subst hji
    exact hp ▸ .write
  | @crash d _ hexecs =>
    have hmap : s'.holdings[i]? =
        some (if h₀.daemon = d then { h₀ with phase := .crashed } else h₀) := by
      rw [hexecs, List.getElem?_map, hi, Option.map_some]
    by_cases hd : h₀.daemon = d
    · rw [if_pos hd] at hmap
      exact ⟨.crashed, hmap, .crash, fun _ => .inr (by rw [hd])⟩
    · rw [if_neg hd] at hmap
      exact stays hmap

/-- A row that is held after a step was held before it, by the same worker, or the step
has claimed it. -/
theorem held_before (hO : Owned false s) (h : Effect s s' ev) {id : ℤ} {l' : Lease}
    (hl' : s'.lease id = some l') (hheld : l'.status.held) : s.claimed ev = some id ∨
      ∃ l, s.lease id = some l ∧ l.status.held ∧ l.workerID = l'.workerID := by
  have same (heq : s'.lease id = s.lease id) :
      ∃ l, s.lease id = some l ∧ l.status.held ∧ l.workerID = l'.workerID :=
    ⟨l', heq ▸ hl', hheld, rfl⟩
  cases h with
  | quiet hrows => exact .inr (same (hrows id))
  | progress _ _ _ _ _ hqueue | crash hqueue => exact .inr (same (lease_of_queue_eq hqueue id))
  | enqueue id' hnew hget =>
    refine .inr (same ?_)
    rw [lease, hget, lease]
    split
    · rw [lease, hget, if_pos ‹_›] at hl'
      cases hl'
      cases hheld
    · rfl
  | claim workerID id' row hrow hpending hqueue hexecs hclaimed =>
    by_cases hid : id = id'
    · exact .inl (hid ▸ hclaimed)
    · exact .inr (same (by rw [lease_of_claim hqueue, if_neg hid]))
  | markRunning h₀ hi hp hqueue =>
    rw [lease_of_markRunning hqueue, leaseAfter] at hl'
    split at hl'
    · next hok =>
      obtain ⟨l, hl, rfl⟩ := Option.map_eq_some_iff.mp hl'
      obtain ⟨l₀, hl₀, hfits⟩ := hO.fits hi (by rw [hp]; rfl)
      rw [← hok.2, hl] at hl₀
      cases hl₀
      rw [hp] at hfits
      exact .inr ⟨l, hl, by rw [hfits.1]; rfl, rfl⟩
    · exact .inr ⟨l', hl', hheld, rfl⟩
  | write h₀ o hi hp hqueue =>
    rw [lease_of_write hqueue, leaseAfter] at hl'
    split at hl'
    · obtain ⟨l, -, rfl⟩ := Option.map_eq_some_iff.mp hl'
      cases o <;> cases hheld
    · exact .inr ⟨l', hl', hheld, rfl⟩
  | recover hqueue =>
    rw [lease_of_recover hqueue] at hl'
    obtain ⟨row, hrow, rfl⟩ := Option.map_eq_some_iff.mp hl'
    split at hheld
    · cases hheld
    · next horph =>
      refine .inr ⟨row.lease, lease_eq_some_iff.mpr ⟨row, hrow, rfl⟩, hheld, ?_⟩
      rw [if_neg horph]

/-- **A row in the hands of a worker** was claimed last under the worker's name. -/
def Traced (s : Cluster) : Prop := ∀ id l, s.lease id = some l → l.status.held →
  ∃ (i : ℕ) (h : Holding), s.LastClaim i id ∧ s.holdings[i]? = some h ∧
    l.workerID = some h.workerID

/-- **The step lemma.** -/
theorem traced_of_effect (hO : Owned false s) (hT : Traced s) (h : Effect s s' ev) :
    Traced s' := by
  intro id l' hl' hheld
  by_cases hclaimed : s.claimed ev = some id
  · have hcl := claims_of_effect h
    rw [hclaimed, Option.toList_some] at hcl
    cases h with
    | @claim d agentIDs locked scan now workerID id' row hrow hpending hqueue hexecs hc =>
      obtain rfl : id' = id := Option.some.inj (hc.symm.trans hclaimed)
      have hlen : s.holdings.length = s.claims.length := (List.length_map _).symm
      refine ⟨s.claims.length, ⟨d, id', workerID, .launched⟩, ⟨?_, fun j hj => ?_⟩, ?_, ?_⟩
      · rw [hcl, List.getElem?_concat_length]
      · have := (List.getElem?_eq_some_iff.mp hj).1
        rw [hcl, List.length_append, List.length_singleton] at this
        omega
      · rw [hexecs, ← hlen, List.getElem?_concat_length]
      · rw [lease_of_claim hqueue, if_pos rfl] at hl'
        obtain ⟨l, -, rfl⟩ := Option.map_eq_some_iff.mp hl'
        rfl
    | quiet _ _ hc | progress _ _ _ _ _ _ _ hc =>
      rw [hc] at hclaimed
      cases hclaimed
    | _ => cases hclaimed
  · obtain ⟨l, hl, hheld₀, hworker⟩ := (held_before hO h hl' hheld).resolve_left hclaimed
    obtain ⟨i, h₀, hlast, hi, hname⟩ := hT id l hl hheld₀
    obtain ⟨p, hi', -⟩ := holding_of_effect h hi
    refine ⟨i, _, ?_, hi', hworker.symm.trans hname⟩
    -- the task that was claimed, if any, is another one
    obtain ⟨hget, hmax⟩ := hlast
    have hcl := claims_of_effect h
    refine ⟨by rw [hcl, List.getElem?_append_left (List.getElem?_eq_some_iff.mp hget).1, hget],
      fun j hj => ?_⟩
    rw [hcl, List.getElem?_append] at hj
    split at hj
    · exact hmax j hj
    · obtain hmem := List.mem_of_getElem? hj
      exact absurd (Option.mem_toList.mp hmem) hclaimed

/-- **The run lemma.** -/
theorem traced_of_run {tr : List (Lts.Move Cluster Event)} (hrun : cluster.Run tr s)
    (hrec : ∀ m ∈ tr, OrderlyRecovery false m) : Traced s := by
  refine (hrun.invariant_of (I := fun _ s => Owned false s ∧ Traced s)
    (C := OrderlyRecovery false) ?_ ?_ hrec).2
  · rintro s rfl
    exact ⟨owned_freshCluster, fun id l hl => by cases hl⟩
  · rintro tr s ev s' - ⟨hO, hT⟩ hstep hC
    have heff := effect_of_step hstep
    exact ⟨owned_of_effect hO heff hC, traced_of_effect hO hT heff⟩

end

/-! ### The writes that failed -/

/-- The execution of the daemon, for an agent, whose terminal write fails in a step. -/
def Host.lostWrite (h : Host) (agentID : ℤ) : Host.Act → Option ℕ
  | .run (.write i false _) =>
    if (h.cluster.execs[i]?).any fun e => e.daemon = h.daemon ∧
        (h.cluster.queue.get e.taskID).any fun row => row.agentID = agentID then some i
    else none
  | _ => none

/-- The executions of the daemon, for an agent, whose terminal write has failed. -/
def lostPlaces (agentID : ℤ) (tr : List (Lts.Move Host Host.Act)) : List ℕ :=
  tr.filterMap fun m => m.pre.lostWrite agentID m.label

section

variable {reg : Registry} {h h' : Host} {tr : List (Lts.Move Host Host.Act)}

/-- An execution of the daemon whose row is still held, as its own last claim has left it,
is at work or could not write. -/
structure Accounted (tr : List (Lts.Move Host Host.Act)) (h : Host) : Prop where
  alive : ∀ (i : ℕ) (e : Exec), h.cluster.execs[i]? = some e → e.daemon = h.daemon →
    e.phase ≠ .crashed
  noted : ∀ (i : ℕ) (e : Exec) (o : Outcome), h.cluster.execs[i]? = some e →
    e.daemon = h.daemon → e.phase = .written o false → ∀ row,
      h.cluster.queue.get e.taskID = some row → i ∈ lostPlaces row.agentID tr
  held : ∀ (i : ℕ) (e : Exec), h.cluster.execs[i]? = some e → e.daemon = h.daemon →
    h.cluster.LastClaim i e.taskID → ∀ row, h.cluster.queue.get e.taskID = some row →
      row.status.held → e.phase.live ∨ i ∈ lostPlaces row.agentID tr

theorem mem_lostPlaces_snoc {agentID : ℤ} {m : Lts.Move Host Host.Act} {i : ℕ} :
    i ∈ lostPlaces agentID (tr ++ [m]) ↔
      i ∈ lostPlaces agentID tr ∨ m.pre.lostWrite agentID m.label = some i := by
  rw [lostPlaces, List.filterMap_append, ← lostPlaces, List.mem_append]
  cases hm : m.pre.lostWrite agentID m.label <;> simp [hm, eq_comm]

/-- A write of an execution of the daemon that fails is noted. -/
theorem Host.lostWrite_eq {i : ℕ} {e : Exec} {now : Time} {row : Task}
    (hi : h.cluster.execs[i]? = some e) (hd : e.daemon = h.daemon)
    (hrow : h.cluster.queue.get e.taskID = some row) :
    h.lostWrite row.agentID (.run (.write i false now)) = some i := by
  simp [Host.lostWrite, hi, hd, hrow]

/-- **A step of the cluster.** -/
theorem Accounted.of_cluster (hO : Owned true h.cluster) (hK : Accounted tr h) {a : Host.Act}
    {ev : Event} (hc : h.cluster.step ev = some h'.cluster) (hd : h'.daemon = h.daemon)
    (hcrash : ev ≠ .crash h.daemon)
    (hwrite : ∀ i now, ev = .write i false now → a = .run (.write i false now)) :
    Accounted (tr ++ [⟨h, a, h'⟩]) h' := by
  have heff := effect_of_step hc
  have hcl := claims_of_effect heff
  -- an execution that was there has made a move of its phase
  have hback : ∀ (i : ℕ) (e' : Exec), h'.cluster.execs[i]? = some e' → e'.daemon = h.daemon →
      e'.phase = .launched ∨ ∃ e, h.cluster.execs[i]? = some e ∧ e.daemon = h.daemon ∧
        e'.taskID = e.taskID ∧ PhaseMove i ev e.phase e'.phase ∧ e'.phase ≠ .crashed := by
    intro i e' hi' hd'
    rcases follows_of_step hc hi' with ⟨e, hi, hf⟩ | ⟨-, hphase, -⟩
    · have hde : e.daemon = h.daemon := hf.daemon.symm.trans hd'
      obtain ⟨p, hp, hmove, hcrashed⟩ := holding_of_effect heff (getElem?_holdings hi)
      rw [getElem?_holdings hi'] at hp
      have hphase : e'.phase = p := congrArg Holding.phase (Option.some.inj hp)
      refine .inr ⟨e, hi, hde, hf.taskID, hphase ▸ hmove, fun hcr => ?_⟩
      rcases hcrashed (hphase.symm.trans hcr) with heq | heq
      · exact hK.alive i e hi hde heq
      · exact hcrash (heq.trans (congrArg Event.crash hde))
    · exact .inl hphase
  -- an execution at work has a row, which keeps its agent
  have hrowOf : ∀ (i : ℕ) (e : Exec), h.cluster.execs[i]? = some e → e.phase.live → ∀ row',
      h'.cluster.queue.get e.taskID = some row' → ∃ row,
        h.cluster.queue.get e.taskID = some row ∧ row'.agentID = row.agentID := by
    intro i e hi hlive row' hrow'
    obtain ⟨l, hl, -⟩ := hO.fits (getElem?_holdings hi) hlive
    obtain ⟨row, hrow, -⟩ := lease_eq_some_iff.mp hl
    obtain ⟨row'', hrow'', hagent⟩ := agentID_of_step hc hrow
    obtain rfl := Option.some.inj (hrow'.symm.trans hrow'')
    exact ⟨row, hrow, hagent⟩
  constructor
  case alive =>
    intro i e' hi' hd'
    rcases hback i e' hi' (hd'.trans hd) with hphase | ⟨-, -, -, -, -, hne⟩
    · rw [hphase]
      simp
    · exact hne
  case noted =>
    intro i e' o hi' hd' hphase' row' hrow'
    rw [mem_lostPlaces_snoc]
    rcases hback i e' hi' (hd'.trans hd) with hphase | ⟨e, hi, hde, htask, hmove, -⟩
    · rw [hphase] at hphase'
      cases hphase'
    · rw [htask] at hrow'
      rw [hphase'] at hmove
      generalize hp : e.phase = p at hmove
      have hlive : e.phase.live := by
        rw [hp]
        cases hmove with
        | stay | write => rfl
        | silent hs => cases hs
      obtain ⟨row, hrow, hagent⟩ := hrowOf i e hi hlive row' hrow'
      rw [hagent]
      cases hmove with
      | stay => exact .inl (hK.noted i e o hi hde hp row hrow)
      | silent hs => cases hs
      | write =>
        rw [hwrite i _ rfl]
        exact .inr (Host.lostWrite_eq hi hde hrow)
  case held =>
    intro i e' hi' hd' hlast row' hrow' hheld
    rw [mem_lostPlaces_snoc]
    rcases hback i e' hi' (hd'.trans hd) with hphase | ⟨e, hi, hde, htask, hmove, hne⟩
    · rw [hphase]
      exact .inl rfl
    rw [htask] at hlast hrow'
    -- it is not this step that has claimed the task, so the row was held before
    have hnot : h.cluster.claimed ev ≠ some e.taskID := by
      intro hclaimed
      have hlt := (List.getElem?_eq_some_iff.mp (getElem?_claims (getElem?_holdings hi))).1
      have := hlast.2 h.cluster.claims.length (by rw [hcl, hclaimed]; simp)
      omega
    have hl' : h'.cluster.lease e.taskID = some row'.lease :=
      lease_eq_some_iff.mpr ⟨row', hrow', rfl⟩
    obtain ⟨l, hl, hheld₀, -⟩ := (held_before hO.writing heff hl' hheld).resolve_left hnot
    obtain ⟨row, hrow, rfl⟩ := lease_eq_some_iff.mp hl
    obtain ⟨row'', hrow'', hagent⟩ := agentID_of_step hc hrow
    obtain rfl := Option.some.inj (hrow'.symm.trans hrow'')
    have hlast₀ : h.cluster.LastClaim i e.taskID := by
      refine ⟨getElem?_claims (getElem?_holdings hi), fun j hj => hlast.2 j ?_⟩
      rw [hcl, List.getElem?_append_left (List.getElem?_eq_some_iff.mp hj).1, hj]
    rw [hagent]
    refine (hK.held i e hi hde hlast₀ row hrow hheld₀).elim (fun hlive => ?_) (.inr ∘ .inl)
    generalize hp : e.phase = p at hmove hlive
    generalize e'.phase = p' at hmove hne
    cases hmove with
    | stay => exact .inl hlive
    | mark | write => exact .inl rfl
    | crash => exact absurd rfl hne
    | silent hs =>
      cases hs with
      | start | spawn | exit => exact .inl rfl
      | @done o ok =>
        cases ok with
        | false => exact .inr (.inl (hK.noted i e o hi hde hp row hrow))
        | true =>
          -- what was written stands in the row
          obtain ⟨l, hl₀, hfits⟩ := hO.fits (getElem?_holdings hi) (by rw [hp]; rfl)
          obtain rfl := Option.some.inj (hl.symm.trans hl₀)
          rw [hp] at hfits
          rw [show row.lease.status = o.status from hfits] at hheld₀
          cases o <;> cases hheld₀

/-- **The step lemma.** -/
theorem accounted_of_step (hO : Owned true h.cluster) (hK : Accounted tr h) {a : Host.Act}
    (hm : Host.Moves reg h h' a) : Accounted (tr ++ [⟨h, a, h'⟩]) h' := by
  have same (hc : h'.cluster = h.cluster) (hd : h'.daemon = h.daemon) :
      Accounted (tr ++ [⟨h, a, h'⟩]) h' := by
    constructor
    case alive =>
      rw [hc, hd]
      exact hK.alive
    case noted =>
      rw [hc, hd]
      exact fun i e o hi hde hp row hrow =>
        mem_lostPlaces_snoc.mpr (.inl (hK.noted i e o hi hde hp row hrow))
    case held =>
      rw [hc, hd]
      intro i e hi hde hlast row hrow hheld
      exact (hK.held i e hi hde hlast row hrow hheld).imp_right fun hin =>
        mem_lostPlaces_snoc.mpr (.inl hin)
  cases hm with
  | @run ev c hev hc hh =>
    subst hh
    refine hK.of_cluster hO hc rfl ?_ fun i now heq => by rw [heq]
    rintro rfl
    simp [Host.permits] at hev
  | claimed c b free i task todo hloop hlt hc htask hh =>
    subst hh
    exact hK.of_cluster hO hc rfl (by simp) (by simp)
  | noTask c b free i todo hloop hlt hc hnone hh =>
    subst hh
    exact hK.of_cluster hO hc rfl (by simp) (by simp)
  | loop s hop hs hh | finish i e s hi he hended hs hh => exact same (by rw [hh]) (by rw [hh])

/-- **The run lemma.** -/
theorem accounted_of_run {configs : List (AgentConfig × ℤ)} {s : Cluster} (hO : Owned true s)
    (hP : s.Placed) (hrun : (host configs s).Run tr h)
    (hrec : ∀ m ∈ hostMoves tr, OrderlyRecovery true m) :
    Owned true h.cluster ∧ Accounted tr h := by
  refine hrun.invariant_of (I := fun tr h => Owned true h.cluster ∧ Accounted tr h)
    (C := fun m => ∀ m' ∈ hostMoves [m], OrderlyRecovery true m') ?_ ?_ fun m hm m' hm' => ?_
  · rintro h ⟨workerID, c, hc, rfl⟩
    refine ⟨owned_of_effect hO (effect_of_step hc) (orderly_of_ne_recover (by simp)), ?_⟩
    -- the daemon is new, so nobody works for it yet
    have hnone : ∀ (i : ℕ) (e : Exec), c.execs[i]? = some e → e.daemon ≠ s.daemons.length := by
      intro i e hi hd
      cases hc
      obtain ⟨dm, hdm, -⟩ := hP i e hi
      have hlt := (List.getElem?_eq_some_iff.mp hdm).1
      omega
    exact ⟨fun i e hi hd => absurd hd (hnone i e hi), fun i e o hi hd => absurd hd (hnone i e hi),
      fun i e hi hd => absurd hd (hnone i e hi)⟩
  · rintro tr h a h' - ⟨hO, hK⟩ hstep hC
    have hm := Host.step_cases hstep
    refine ⟨?_, accounted_of_step hO hK hm⟩
    rcases hm.cluster with ⟨ev, hev, hc⟩ | ⟨-, hc⟩
    · refine owned_of_effect hO (effect_of_step hc) (hC ⟨h.cluster, ev, h'.cluster⟩ ?_)
      simp [hostMoves, hev]
    · rw [hc]
      exact hO
  · obtain ⟨x, hx, heq⟩ := List.mem_filterMap.mp hm'
    obtain rfl := List.mem_singleton.mp hx
    exact hrec m' (List.mem_filterMap.mpr ⟨x, hm, heq⟩)

/-- **The table counts no more than the concurrency of the agent and the terminal writes
that failed**, when only this daemon works under its name and recoveries reset no row of a
live execution. -/
theorem countInflight_le_of_run {configs : List (AgentConfig × ℤ)} {s : Cluster}
    {tr₀ : List (Lts.Move Cluster Event)} (hrun₀ : cluster.Run tr₀ s)
    (hrec₀ : ∀ m ∈ tr₀, OrderlyRecovery true m) (hrun : (host configs s).Run tr h)
    (hrec : ∀ m ∈ hostMoves tr, OrderlyRecovery true m) {workerID : String}
    (hname : ∀ e ∈ h.cluster.execs, e.workerID = workerID → e.daemon = h.daemon) {id : ℤ}
    {a : Agent} (ha : (Registry.sync configs).get? id = some a) :
    (h.cluster.queue.countInflight id workerID : ℤ) ≤
      a.config.maxConcurrentTasks + (lostPlaces id tr).length := by
  obtain ⟨m, ⟨_, hboot⟩, hcluster⟩ := clusterRun_of_host hrun₀ hrun
  have hT : Traced h.cluster := by
    refine traced_of_run hcluster fun m' hm' => ?_
    refine OrderlyRecovery.writing ?_
    rcases List.mem_append.mp hm' with hm' | hm'
    · exact hrec₀ m' hm'
    · rcases List.mem_cons.mp hm' with rfl | hm'
      · exact orderly_of_ne_recover (by simp [hboot])
      · exact hrec m' hm'
  obtain ⟨-, hK⟩ := accounted_of_run (owned_of_run hrun₀ hrec₀) (placed_of_run hrun₀) hrun hrec
  -- a row that is counted was claimed by an execution at work, or one that could not write
  have hsub : (h.cluster.queue.inflight id workerID).map Prod.fst ⊆
      (h.atWork id ++ lostPlaces id tr).map fun i => (h.cluster.claims[i]?).getD 0 := by
    intro id' hid'
    obtain ⟨⟨_, row⟩, hx, rfl⟩ := List.mem_map.mp hid'
    obtain ⟨hrow, hagent, hworker, hheld⟩ := Queue.mem_inflight_iff.mp hx
    obtain ⟨i, h₀, hlast, hi, hby⟩ := hT _ row.lease (lease_eq_some_iff.mpr ⟨row, hrow, rfl⟩) hheld
    rw [holdings, List.getElem?_map] at hi
    obtain ⟨e, he, rfl⟩ := Option.map_eq_some_iff.mp hi
    have htask := Option.some.inj ((getElem?_claims (getElem?_holdings he)).symm.trans hlast.1)
    have hd : e.daemon = h.daemon := by
      refine hname e (List.mem_of_getElem? he) (Option.some.inj ?_)
      rw [← hworker]
      exact hby.symm
    rw [← htask] at hlast hrow
    refine List.mem_map.mpr ⟨i, List.mem_append.mpr ?_, ?_⟩
    · refine (hK.held i e he hd hlast row hrow hheld).imp (fun hlive => ?_) fun hlost => ?_
      · exact Host.mem_atWork_iff.mpr ⟨e, he, hd, hlive, row, hrow, hagent⟩
      · rwa [hagent] at hlost
    · rw [hlast.1, Option.getD_some, htask]
  have hnodup : ((h.cluster.queue.inflight id workerID).map Prod.fst).Nodup :=
    (List.filter_sublist.map Prod.fst).nodup h.cluster.queue.rows.nodup
  have hle := (List.subperm_of_subset hnodup hsub).length_le
  rw [List.length_map, List.length_map, List.length_append] at hle
  have := atWork_le_of_run hrun₀ hrun ha
  rw [Queue.countInflight]
  omega

/-- The execution of the first task cannot write, and a second tick claims the other one. -/
def lostWriteActs : List Host.Act := tickActs ++ [
  .run (.start 0), .run (.markRunning 0 true 4), .run (.spawn 0), .run (.exit 0 "ok" none),
  .run (.write 0 false 5), .run (.done 0), .finish 0,
  .loop (.tick [sampleAgent]), .loop .visit, .claim [] (fun _ => 0) 6, .loop .add]

/-- **An agent that takes one task at a time has two in the table.** -/
theorem countInflight_le_of_run_sample : ∃ tr h, (host sampleAgents freshCluster).Run tr h ∧
    sampleAgent.config.maxConcurrentTasks = 1 ∧ lostPlaces 1 tr = [0] ∧
    h.cluster.queue.countInflight 1 "w1" = 2 ∧
    (h.cluster.queue.countInflight 1 "w1" : ℤ) ≤
      sampleAgent.config.maxConcurrentTasks + (lostPlaces 1 tr).length := by
  obtain ⟨tr, h, hrun, hf⟩ := exists_hostRun lostWriteActs
    (fun r => (decide (∀ m ∈ hostMoves r.1, OrderlyRecovery true m),
      decide (∀ e ∈ r.2.cluster.execs, e.workerID = "w1" → e.daemon = r.2.daemon),
      lostPlaces 1 r.1, r.2.cluster.queue.countInflight 1 "w1"))
    (show _ = some (true, true, [0], 2) by decide +kernel)
  simp only [Prod.mk.injEq, decide_eq_true_eq] at hf
  obtain ⟨hrec, hname, hlost, hcount⟩ := hf
  exact ⟨tr, h, hrun, rfl, hlost, hcount, countInflight_le_of_run (.start rfl)
    (fun m hm => by cases hm) hrun hrec hname (by decide +kernel)⟩

end

end Server
end Shrimp
