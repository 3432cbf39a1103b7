import Shrimp.Orchestrator.Counters
import Shrimp.Orchestrator.DevPass

/-!
# What a gate shows is fresh

Nothing ever clears a phase summary or a gate claim; a rollback leaves the old
ones where they are.  So what a gate shows is fresh only if every way to the gate
leads through the producers of what it shows.  It does: behind a producer its
entries are fresh, and the only moves that make them stale lead back in front of
it.

## Main definitions

* `Producer` — who writes the summaries and the claims, and under which keys.
* `Produces`, `delivers` — the moves that write them; `OfPass` — what the DEV loop
  aggregates.
* `reentry` — the phase a rollback or a continued planning re-enters.
* `Fresh` — the entries of a producer are those of its latest result, and no
  answer has re-entered its phase or an earlier one since.
* `Node.fresh` — the producers a node is behind.

## Main results

* `produces_of_advance` — a step writes the entries of its producer or none.
* `Step.behind` — **no step gets behind a producer but from it.**
* `fresh_of_run` — **behind a producer its entries are fresh.**
* `shown_of_run` — **what a gate shows is fresh.**
-/

namespace Shrimp

/-! ### The producers -/

/-- Who writes phase summaries and gate claims. -/
inductive Producer
  | pmAgent
  | planner
  | devLoop
  | revAgent
  | codexFinal
  deriving DecidableEq, Repr

namespace Producer

/-- The node that takes in what the producer hands in. -/
def node : Producer → Node
  | pmAgent => .pmPhase
  | planner => .planningPhase
  | devLoop => .devLoopRouter
  | revAgent => .revDispatch
  | codexFinal => .revCodexFinal

/-- The key of its summary. -/
def summaryKey : Producer → String
  | pmAgent => Stage.pmPhase.value
  | planner => Stage.planningPhase.value
  | devLoop => Stage.devPhase.value
  | revAgent => Stage.revPhase.value
  | codexFinal => "REV_PHASE_CODEX"

/-- The key of its gate claim. -/
def gateKey : Producer → String
  | pmAgent => "Gate 1"
  | planner => "Gate 1.5"
  | devLoop => "Gate 2"
  | revAgent => "Gate 3 - rev_agent"
  | codexFinal => "Gate 3"

/-- The phases up to its own: re-entering one of them makes its entries stale. -/
def phases : Producer → List Stage
  | pmAgent => [.pmPhase]
  | planner => [.pmPhase, .planningPhase]
  | devLoop => [.pmPhase, .planningPhase, .devPhase]
  | revAgent | codexFinal => [.pmPhase, .planningPhase, .devPhase, .revPhase]

theorem node_injective {P Q : Producer} (h : P.node = Q.node) : P = Q := by
  cases P <;> cases Q <;> first | rfl | cases h

theorem summaryKey_injective {P Q : Producer} (h : P.summaryKey = Q.summaryKey) : P = Q := by
  cases P <;> cases Q <;> first | rfl | exact absurd h (by decide)

theorem gateKey_injective {P Q : Producer} (h : P.gateKey = Q.gateKey) : P = Q := by
  cases P <;> cases Q <;> first | rfl | exact absurd h (by decide)

end Producer

/-- The producers a node is behind. -/
def Node.fresh : Node → List Producer
  | .init | .pmPhase => []
  | .gate1 | .planningPhase | .planningDevConsult => [.pmAgent]
  | .gate15 | .devLoopRouter | .devSubtaskDispatch | .devCodexReview => [.pmAgent, .planner]
  | .gate2 | .revDispatch => [.pmAgent, .planner, .devLoop]
  | .revCodexFinal => [.pmAgent, .planner, .devLoop, .revAgent]
  | .gate3 => [.pmAgent, .planner, .devLoop, .revAgent, .codexFinal]

/-- The summaries a gate shows: the field of the payload and the producer. -/
def Gate.shownSummaries : Gate → List (String × Producer)
  | gate1 => [("phase_summary", .pmAgent)]
  | gate15 => [("phase_summary", .planner), ("pm_phase_summary", .pmAgent)]
  | gate2 => [("phase_summary", .devLoop), ("pm_phase_summary", .pmAgent),
      ("planning_phase_summary", .planner)]
  | gate3 => [("phase_summary", .revAgent), ("codex_phase_summary", .codexFinal),
      ("pm_phase_summary", .pmAgent), ("planning_phase_summary", .planner),
      ("dev_phase_summary", .devLoop)]

/-- The claims a gate shows. -/
def Gate.shownClaims : Gate → List (String × Producer)
  | gate1 => [("subagent_gate_claim", .pmAgent)]
  | gate15 => [("subagent_gate_claim", .planner)]
  | gate2 => [("subagent_gate_claim", .devLoop)]
  | gate3 => [("subagent_gate_claim", .codexFinal), ("rev_agent_gate_claim", .revAgent)]

section Freshness

variable (env : Env)

/-- Does a move hand in what a producer produced?  The DEV loop hands in its
aggregate when it leads on to Gate 2. -/
def delivers (P : Producer) (m : Lts.Move Config Event) : Bool :=
  m.pre.node == some P.node &&
    match P with
    | .devLoop => m.post.node == some .gate2
    | _ => (acceptedResult env m).isSome

/-- The records are those of one pass through the DEV loop: one for each subtask, of the
results that were accepted since the loop was entered. -/
def OfPass (tr : List (Lts.Move Config Event)) (s : WorkflowState) : Prop :=
  ∃ rs : List (Json × Json), rs.length = s.subtasks.length ∧
    s.subtaskResults.entries = passEntries env s.subtasks rs ∧
    sinceDevEntry env tr = passAccepts s.subtasks rs

/-- Behind the history `tr` a move hands in a result of a producer that makes this summary
and this claim.  The DEV loop hands in what the records of its pass make. -/
def Produces (tr : List (Lts.Move Config Event)) (P : Producer) (m : Lts.Move Config Event)
    (summary : PhaseSummary) (claim : GateResult) : Prop :=
  delivers env P m = true ∧
    match P with
    | .pmAgent | .planner =>
      ∃ t value, acceptedResult env m = some (t, value) ∧ Consumes env value P.gateKey summary claim
    | .revAgent | .codexFinal =>
      ∃ t value, acceptedResult env m = some (t, value) ∧
        ConsumesReview env value P.gateKey summary claim
    | .devLoop => OfPass env tr m.pre.state ∧
        summary = devPhaseSummary m.pre.state ∧ claim = gate2Result m.pre.state

/-- The phase an answer re-enters: that of a rollback, or the planning. -/
def reentry (m : Lts.Move Config Event) : Option Stage :=
  if continuesPlanning env m then some .planningPhase else rolledBackTo env m

/-- A summary and a claim are those of a producer's latest result in a history,
and no answer has re-entered the producer's phase or an earlier one since. -/
def Latest (tr : List (Lts.Move Config Event)) (P : Producer) (summary : PhaseSummary)
    (claim : GateResult) : Prop :=
  ∃ tr₁ m tr₂, tr = tr₁ ++ m :: tr₂ ∧ Produces env tr₁ P m summary claim ∧
    (∀ m' ∈ tr₂, delivers env P m' = false) ∧
    ∀ m' ∈ tr₂, ∀ phase, reentry env m' = some phase → phase ∉ P.phases

/-- The entries of a producer are there and fresh. -/
def Fresh (tr : List (Lts.Move Config Event)) (s : WorkflowState) (P : Producer) : Prop :=
  ∃ summary claim, Latest env tr P summary claim ∧
    s.phaseSummaries.get? P.summaryKey = some summary ∧ s.gateResults.get? P.gateKey = some claim

variable {env}

/-! ### What a step writes -/

/-- Away from the nodes of the producers nothing is handed in. -/
theorem delivers_of_ne {P : Producer} {n : Node} {s : WorkflowState} {e : Event} {c' : Config}
    (h : n ≠ P.node) : delivers env P ⟨⟨some n, s⟩, e, c'⟩ = false := by
  simp [delivers, h]

theorem delivers_of_accepted {P : Producer} {n : Node} {s : WorkflowState} {e : Event}
    {c' : Config} (hn : n = P.node) (hne : P ≠ .devLoop)
    (hacc : (acceptedResult env ⟨⟨some n, s⟩, e, c'⟩).isSome = true) :
    delivers env P ⟨⟨some n, s⟩, e, c'⟩ = true := by
  subst hn
  cases P <;> first | exact absurd rfl hne | simp [delivers, hacc]

theorem delivers_of_rejects {P : Producer} {n : Node} {t : Target} {w : World} {s : WorkflowState}
    {value : Json} {findings : List GuardWarning} {c' : Config} (ht : n.target s = some t)
    (hr : Rejects env w t s value findings) :
    delivers env P ⟨⟨some n, s⟩, .resume w value, c'⟩ = false := by
  have hacc : acceptedResult env ⟨⟨some n, s⟩, .resume w value, c'⟩ = none :=
    acceptedResult_of_rejects ht hr
  by_cases hn : n = P.node
  · subst hn
    cases P with
    | devLoop => cases ht
    | _ => simp [delivers, hacc]
  · exact delivers_of_ne hn

/-- **A step writes the entries of its producer or none.** -/
theorem produces_of_advance {tr : List (Lts.Move Config Event)} {c c' : Config} {e : Event}
    (hc : Control c) (hdev : DevInv env tr c) (h : advance env c e = some c') :
    (∃ P summary claim, Produces env tr P ⟨c, e, c'⟩ summary claim ∧
      c'.state.phaseSummaries = c.state.phaseSummaries.insert P.summaryKey summary ∧
      c'.state.gateResults = c.state.gateResults.insert P.gateKey claim) ∨
    ((∀ P, delivers env P ⟨c, e, c'⟩ = false) ∧
      c'.state.phaseSummaries = c.state.phaseSummaries ∧
      c'.state.gateResults = c.state.gateResults) := by
  obtain ⟨n, hn, hret, hnext, he⟩ := returns_of_advance h
  obtain ⟨_, s⟩ := c
  obtain rfl : _ = some n := hn
  obtain ⟨node', s'⟩ := c'
  -- what is handed in by a result that passes the guard
  have haccepted : ∀ {P : Producer} {t findings artifacts}, n = P.node → P ≠ .devLoop →
      n.target s = some t → Passes env e.world t s e.resumed findings artifacts →
      acceptedResult env ⟨⟨some n, s⟩, e, ⟨node', s'⟩⟩ = some (t, e.resumed) ∧
        delivers env P ⟨⟨some n, s⟩, e, ⟨node', s'⟩⟩ = true := by
    intro P t findings artifacts hP hne ht hpass
    have hresume : e = .resume e.world e.resumed :=
      he ((payload_isSome_iff env n s).mpr (Or.inr (by rw [ht]; rfl)))
    have hacc : acceptedResult env ⟨⟨some n, s⟩, e, ⟨node', s'⟩⟩ = some (t, e.resumed) := by
      rw [hresume]
      exact acceptedResult_of_passes ht hpass
    exact ⟨hacc, delivers_of_accepted hP hne (by rw [hacc]; rfl)⟩
  cases hret with
  | init | dev | codex | consult | rolledBackToDev | continued =>
    exact Or.inr ⟨fun P => delivers_of_ne (by cases P <;> simp [Producer.node]), rfl, rfl⟩
  | noCurrent hwhich =>
    refine Or.inr ⟨fun P => delivers_of_ne ?_, rfl, rfl⟩
    rcases hwhich with ⟨rfl, -⟩ | ⟨rfl, -⟩ <;> cases P <;> simp [Producer.node]
  | @answered gate | @refused gate | @rolledBack gate =>
    refine Or.inr ⟨fun P => delivers_of_ne ?_, rfl, rfl⟩
    cases gate <;> cases P <;> simp [Producer.node, Gate.node]
  | guard ht hr hout =>
    have hresume : e = .resume e.world e.resumed :=
      he ((payload_isSome_iff env n s).mpr (Or.inr (by rw [ht]; rfl)))
    refine Or.inr ⟨fun P => by rw [hresume]; exact delivers_of_rejects ht hr, ?_⟩
    obtain ⟨-, ⟨-, rfl⟩ | ⟨-, rfl⟩⟩ := handleGuardOutcome_cases _ hout <;> exact ⟨rfl, rfl⟩
  | @pm t findings artifacts summary claim pending ht hpass hcons =>
    obtain ⟨hacc, hdel⟩ := haccepted (P := .pmAgent) rfl (by simp) ht hpass
    exact Or.inl ⟨.pmAgent, summary, claim, ⟨hdel, t, _, hacc, hcons⟩, rfl, rfl⟩
  | @planBlocked t findings artifacts summary claim pending ht hpass hcons
  | @planAsks t findings artifacts summary claim pending ht hpass hcons
  | @planned t findings extra artifacts summary claim note pending ht hpass hcons =>
    obtain ⟨hacc, hdel⟩ := haccepted (P := .planner) rfl (by simp) ht hpass
    exact Or.inl ⟨.planner, summary, claim, ⟨hdel, t, _, hacc, hcons⟩, rfl, rfl⟩
  | @rev t findings artifacts summary claim pending ht hpass hcons =>
    obtain ⟨hacc, hdel⟩ := haccepted (P := .revAgent) rfl (by simp) ht hpass
    exact Or.inl ⟨.revAgent, summary, claim, ⟨hdel, t, _, hacc, hcons⟩, rfl, rfl⟩
  | @codexFinal t findings artifacts summary claim pending ht hpass hcons =>
    obtain ⟨hacc, hdel⟩ := haccepted (P := .codexFinal) rfl (by simp) ht hpass
    exact Or.inl ⟨.codexFinal, summary, claim, ⟨hdel, t, _, hacc, hcons⟩, rfl, rfl⟩
  | loopNext hlt =>
    -- the stage is not that of the gate, so the router stays in the loop
    have hstage : s.stage = .devPhase := hc.stage
    obtain rfl : node' = some .devSubtaskDispatch := by
      rw [Node.successor, routeAfterDevLoop, if_neg (by simp [hstage])] at hnext
      exact (Option.some.inj hnext).symm
    refine Or.inr ⟨fun P => ?_, rfl, rfl⟩
    cases P <;> simp [delivers, Producer.node]
  | loopExit hge =>
    obtain rfl : node' = some .gate2 := (Option.some.inj hnext).symm
    obtain ⟨rs, hin, hk⟩ := hdev.pass
    -- the index stands past the last subtask, so all of them are through
    have hlen : rs.length = s.subtasks.length := by
      have := hin.le
      dsimp only at this hk hge
      omega
    exact Or.inl ⟨.devLoop, _, _, ⟨rfl, ⟨rs, hlen, hin.entries, hin.accepts⟩, rfl, rfl⟩, rfl, rfl⟩

/-! ### Where a step leads -/

theorem reentry_of_gate? {n : Node} {s : WorkflowState} {e : Event} {c' : Config}
    (hn : n.gate? = none) : reentry env ⟨⟨some n, s⟩, e, c'⟩ = none := by
  rw [reentry, continuesPlanning_of_gate? hn, rolledBackTo_of_gate? hn]
  rfl

/-- The answers that re-enter a phase. -/
def reentries : List (String × Stage) := ("continue_planning", .planningPhase) :: rollbackPhases

theorem mem_reentries {gate : Gate} {w : World} {s : WorkflowState} {value : Json} {c' : Config}
    {phase : Stage}
    (h : reentry env ⟨⟨some gate.node, s⟩, .resume w value, c'⟩ = some phase) :
    (gateAnswer env value, phase) ∈ reentries := by
  unfold reentry at h
  split at h
  · next hcont =>
    cases h
    rw [continuesPlanning, gateAnswered_gate, Bool.and_eq_true, beq_iff_eq] at hcont
    rw [(Prod.mk.inj (Option.some.inj hcont.1)).2]
    exact List.mem_cons_self
  · rw [rolledBackTo_gate] at h
    split at h
    · obtain ⟨before, after, hphases, -⟩ := List.lookup_eq_some_iff.mp h
      refine List.mem_cons_of_mem _ ?_
      rw [hphases]
      simp
    · cases h

/-- An answer leads to nothing its gate was not behind, and not behind what it
makes stale. -/
theorem fresh_of_leads (gate : Gate) : ∀ l ∈ gate.leads, ∀ P ∈ l.2.fresh, P ∈ gate.node.fresh ∧
    ∀ r ∈ reentries, r.1 = l.1 → r.2 ∉ P.phases := by
  cases gate <;> decide

/-- An accepted result leads behind its producer and to nothing else its node was
not behind. -/
theorem fresh_of_onward : ∀ l ∈ onward, ∀ P ∈ l.2.fresh,
    l.1 = P.node ∧ P ≠ .devLoop ∨ P ∈ l.1.fresh := by
  decide

/-- **No step gets behind a producer but from it.**  What it is behind
afterwards it was behind before, and no answer made it stale, or it comes from
the producer itself. -/
theorem Step.behind {c c' : Config} {e : Event} (h : Step env c e c') {n' : Node}
    (hn' : c'.node = some n') {P : Producer} (hP : P ∈ n'.fresh) :
    delivers env P ⟨c, e, c'⟩ = true ∨
      ∃ n, c.node = some n ∧ P ∈ n.fresh ∧
        ∀ phase, reentry env ⟨c, e, c'⟩ = some phase → phase ∉ P.phases := by
  have hstays : ∀ {n}, c.node = some n → n.gate? = none → P ∈ n.fresh → ∃ n, c.node = some n ∧
      P ∈ n.fresh ∧ ∀ phase, reentry env ⟨c, e, c'⟩ = some phase → phase ∉ P.phases := by
    intro n hn hg hmem
    obtain ⟨_, s⟩ := c
    obtain rfl : _ = some n := hn
    exact ⟨n, rfl, hmem, fun phase hphase => by rw [reentry_of_gate? hg] at hphase; cases hphase⟩
  cases h with
  | init =>
    cases hn'
    cases hP
  | guardBlocked | planBlocked | done | refused => cases hn'
  | guardRetry ht =>
    cases hn'
    exact Or.inr (hstays rfl (gate?_eq_none_of_target ht) hP)
  | accepted hon ht hacc =>
    cases hn'
    rcases fresh_of_onward _ hon P hP with ⟨hnode, hne⟩ | hmem
    · exact Or.inl (delivers_of_accepted hnode hne
        (by rw [acceptedResult_of_accepted ht hacc]; rfl))
    · exact Or.inr (hstays rfl (gate?_eq_none_of_target ht) hmem)
  | planned ht hacc =>
    cases hn'
    simp only [Node.fresh, List.mem_cons, List.not_mem_nil, or_false] at hP
    rcases hP with rfl | rfl
    · exact Or.inr (hstays rfl rfl (by decide))
    · exact Or.inl (delivers_of_accepted rfl (by simp)
        (by rw [acceptedResult_of_accepted ht hacc]; rfl))
  | dev | codex | loopNext =>
    cases hn'
    exact Or.inr (hstays rfl rfl hP)
  | @answered gate n' w s s' value hl =>
    cases hn'
    obtain ⟨hmem, hstale⟩ := fresh_of_leads gate _ hl P hP
    exact Or.inr ⟨_, rfl, hmem, fun phase hphase => hstale _ (mem_reentries hphase) rfl⟩
  | loopExit =>
    cases hn'
    simp only [Node.fresh, List.mem_cons, List.not_mem_nil, or_false] at hP
    rcases hP with rfl | rfl | rfl
    · exact Or.inr (hstays rfl rfl (by decide))
    · exact Or.inr (hstays rfl rfl (by decide))
    · exact Or.inl rfl

/-! ### Freshness along a run -/

section Run

variable {tr : List (Lts.Move Config Event)} {c : Config}

theorem Fresh.of_produces {P : Producer} {c' : Config} {e : Event} {summary : PhaseSummary}
    {claim : GateResult} (h : Produces env tr P ⟨c, e, c'⟩ summary claim)
    (hsum : c'.state.phaseSummaries = c.state.phaseSummaries.insert P.summaryKey summary)
    (hgate : c'.state.gateResults = c.state.gateResults.insert P.gateKey claim) :
    Fresh env (tr ++ [⟨c, e, c'⟩]) c'.state P := by
  refine ⟨summary, claim, ⟨tr, _, [], rfl, h, by simp, by simp⟩, ?_, ?_⟩
  · rw [hsum, Dict.get?_insert_self]
  · rw [hgate, Dict.get?_insert_self]

/-- What is fresh stays fresh while nobody hands in anew or re-enters a phase up
to the producer's. -/
theorem Fresh.snoc {P : Producer} {s s' : WorkflowState} {m : Lts.Move Config Event}
    (h : Fresh env tr s P) (hdel : delivers env P m = false)
    (hre : ∀ phase, reentry env m = some phase → phase ∉ P.phases)
    (hsum : s'.phaseSummaries.get? P.summaryKey = s.phaseSummaries.get? P.summaryKey)
    (hgate : s'.gateResults.get? P.gateKey = s.gateResults.get? P.gateKey) :
    Fresh env (tr ++ [m]) s' P := by
  obtain ⟨summary, claim, ⟨tr₁, m₀, tr₂, rfl, hprod, hlast, hstale⟩, hs, hg⟩ := h
  refine ⟨summary, claim, ⟨tr₁, m₀, tr₂ ++ [m], by simp, hprod, ?_, ?_⟩, hsum.trans hs,
    hgate.trans hg⟩
  · intro m' hm'
    rcases List.mem_append.mp hm' with hm' | hm'
    · exact hlast m' hm'
    · rw [List.mem_singleton.mp hm']
      exact hdel
  · intro m' hm'
    rcases List.mem_append.mp hm' with hm' | hm'
    · exact hstale m' hm'
    · rw [List.mem_singleton.mp hm']
      exact hre

/-- **Behind a producer its entries are fresh.** -/
theorem fresh_of_run (h : (graph env).Run tr c) {n : Node} (hn : c.node = some n) :
    ∀ P ∈ n.fresh, Fresh env tr c.state P := by
  refine (h.invariant (I := fun tr c => ∀ n, c.node = some n → ∀ P ∈ n.fresh,
    Fresh env tr c.state P) ?_ ?_) n hn
  · rintro c ⟨_, _, _, _, rfl⟩ n hn P hP
    cases hn
    cases hP
  · intro tr c e c' hrun ih hs n' hn' P hP
    have hwrites := produces_of_advance (control_of_run hrun) (devInv_of_run hrun) hs
    have hbehind := (step_of_run hrun hs).behind hn' hP
    cases hdel : delivers env P ⟨c, e, c'⟩ with
    | true =>
      rcases hwrites with ⟨Q, summary, claim, hprod, hsum, hgate⟩ | ⟨hnone, -⟩
      · -- one node takes in for one producer
        obtain rfl : P = Q := by
          refine Producer.node_injective ?_
          have hP := (Bool.and_eq_true _ _ ▸ hdel : _ ∧ _).1
          have hQ := (Bool.and_eq_true _ _ ▸ hprod.1 : _ ∧ _).1
          exact Option.some.inj ((beq_iff_eq.mp hP).symm.trans (beq_iff_eq.mp hQ))
        exact Fresh.of_produces hprod hsum hgate
      · rw [hnone P] at hdel
        cases hdel
    | false =>
      rw [hdel] at hbehind
      obtain ⟨n, hn, hmem, hre⟩ := hbehind.resolve_left (by simp)
      have hfresh := ih n hn P hmem
      rcases hwrites with ⟨Q, summary, claim, hprod, hsum, hgate⟩ | ⟨-, hsum, hgate⟩
      · have hne : P ≠ Q := by
          rintro rfl
          rw [hprod.1] at hdel
          cases hdel
        refine hfresh.snoc hdel hre ?_ ?_
        · rw [hsum, Dict.get?_insert, if_neg fun h => hne (Producer.summaryKey_injective h)]
        · rw [hgate, Dict.get?_insert, if_neg fun h => hne (Producer.gateKey_injective h)]
      · exact hfresh.snoc hdel hre (by rw [hsum]) (by rw [hgate])

/-! ### What a gate shows -/

theorem fresh_of_shown (gate : Gate) :
    ∀ x ∈ gate.shownSummaries ++ gate.shownClaims, x.2 ∈ gate.node.fresh := by
  cases gate <;> decide

variable (env) in
theorem exists_payload_gate (gate : Gate) (s : WorkflowState) :
    ∃ fields, gate.node.payload env s = some (.obj fields) ∧
      (∀ x ∈ gate.shownSummaries,
        fields.lookup x.1 = some (phaseSummaryDump s x.2.summaryKey)) ∧
      ∀ x ∈ gate.shownClaims, fields.lookup x.1 = some (gateClaimDump s x.2.gateKey) := by
  cases gate <;> refine ⟨_, rfl, ?_, ?_⟩ <;>
    simp only [Gate.shownSummaries, Gate.shownClaims, List.forall_mem_cons, List.not_mem_nil,
      false_imp_iff, implies_true, and_true] <;>
    (repeat' apply And.intro) <;> rfl

/-- **What a gate shows is fresh.**  Each summary and each claim in its payload is
there and is the one made of the latest result its producer handed in, for the DEV loop
of the reviews of its last pass; and since that result no rollback and no continued
planning has re-entered the phase of the producer or an earlier one. -/
theorem shown_of_run (h : (graph env).Run tr c) {gate : Gate} (hn : c.node = some gate.node) :
    ∃ fields, gate.node.payload env c.state = some (.obj fields) ∧
      (∀ x ∈ gate.shownSummaries, ∃ summary claim, Latest env tr x.2 summary claim ∧
        fields.lookup x.1 = some summary.dump) ∧
      ∀ x ∈ gate.shownClaims, ∃ summary claim, Latest env tr x.2 summary claim ∧
        fields.lookup x.1 = some claim.dump := by
  obtain ⟨fields, hpayload, hsummaries, hclaims⟩ := exists_payload_gate env gate c.state
  have hfresh : ∀ x ∈ gate.shownSummaries ++ gate.shownClaims, Fresh env tr c.state x.2 :=
    fun x hx => fresh_of_run h hn x.2 (fresh_of_shown gate x hx)
  refine ⟨fields, hpayload, fun x hx => ?_, fun x hx => ?_⟩
  · obtain ⟨summary, claim, hlatest, hs, -⟩ := hfresh x (List.mem_append_left _ hx)
    exact ⟨summary, claim, hlatest, by rw [hsummaries x hx, phaseSummaryDump, hs]; rfl⟩
  · obtain ⟨summary, claim, hlatest, -, hg⟩ := hfresh x (List.mem_append_right _ hx)
    exact ⟨summary, claim, hlatest, by rw [hclaims x hx, gateClaimDump, hg]; rfl⟩

end Run

end Freshness

/-- After a rollback from Gate 3 to DEV and a second pass, Gate 3 shows the second
reviews. -/
theorem shown_of_run_sample : ∃ tr c fields, (graph sampleEnv).Run tr c ∧
    c.node = some .gate3 ∧ Node.gate3.payload sampleEnv c.state = some (.obj fields) ∧
    ∃ summary claim, Latest sampleEnv tr .codexFinal summary claim ∧
      fields.lookup "subagent_gate_claim" = some claim.dump := by
  obtain ⟨tr, c, hrun, hn⟩ := exists_sampleRun
    (sampleEvents.take 12 ++ [sampleAnswer "h10" "rollback_to_dev"] ++ (sampleEvents.drop 5).take 7)
    (fun r => r.2.node) (show _ = some (some Node.gate3) by decide +kernel)
  have hgate : c.node = some Gate.gate3.node := hn
  obtain ⟨fields, hpayload, -, hclaims⟩ := shown_of_run hrun hgate
  have hclaim := hclaims ("subagent_gate_claim", .codexFinal) (by decide)
  exact ⟨tr, c, fields, hrun, hn, hpayload, hclaim⟩

end Shrimp
