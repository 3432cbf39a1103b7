import Shrimp.Orchestrator.Graph

/-!
# The outcomes of the nodes

What a step of the graph can do, said once: `Step` lists the outcomes of every
node with what each changes, and a step from a configuration whose control state
is consistent is one of them.  Consistency is what the routers rely on: they
decide from the stage and from the pending retry, so a stage or a pending retry
that is not the node's own would send the workflow elsewhere.

## Main definitions

* `Gate.leads`, `onward` — where the answers and the accepted results lead.
* `Accepted`, `Decided`, `SameDev` — what a node changes and what it leaves.
* `Step` — the outcomes of the nodes.
* `Control` — consistency of node, stage, pending retry and subtask index.

## Main results

* `step_of_advance` — **a step from a consistent configuration is a `Step`**.
-/

namespace Shrimp

/-! ### The table of the workflow -/

/-- Where an answer leads; every other answer ends the workflow. -/
def Gate.leads : Gate → List (String × Node)
  | gate1 => [("approve", .planningPhase), ("rollback_to_pm", .pmPhase)]
  | gate15 => [("approve", .devLoopRouter), ("rollback_to_pm", .pmPhase),
      ("continue_planning", .planningPhase)]
  | gate2 => [("approve", .revDispatch), ("rollback_to_planning", .planningPhase),
      ("rollback_to_pm", .pmPhase)]
  | gate3 => [("rollback_to_dev", .devLoopRouter), ("rollback_to_planning", .planningPhase),
      ("rollback_to_pm", .pmPhase)]

/-- The answers that roll back. -/
def rollbacks : List String := ["rollback_to_dev", "rollback_to_planning", "rollback_to_pm"]

/-- Where an accepted result leads, outside the DEV loop and short of a plan. -/
def onward : List (Node × Node) := [
  (.pmPhase, .gate1), (.planningPhase, .planningDevConsult), (.planningDevConsult, .planningPhase),
  (.revDispatch, .revCodexFinal), (.revCodexFinal, .gate3)]

/-- The fields of the DEV loop are as they were. -/
structure SameDev (s s' : WorkflowState) : Prop where
  subtasks : s'.subtasks = s.subtasks
  currentSubtaskIndex : s'.currentSubtaskIndex = s.currentSubtaskIndex
  subtaskResults : s'.subtaskResults = s.subtaskResults

theorem SameDev.clear {s s' : WorkflowState} (h : SameDev s s') {p : Option GuardRetryPending} :
    SameDev s (clearPending p s') where
  subtasks := by rw [clearPending_subtasks, h.subtasks]
  currentSubtaskIndex := by rw [clearPending_currentSubtaskIndex, h.currentSubtaskIndex]
  subtaskResults := by rw [clearPending_subtaskResults, h.subtaskResults]

section Outcomes

variable (env : Env)

/-- What every dispatch node does with a result the guard lets through. -/
structure Accepted (w : World) (t : Target) (s : WorkflowState) (value : Json)
    (s' : WorkflowState) : Prop where
  /-- The guard finds nothing severe. -/
  passes : ∃ findings artifacts,
    guardFindings env w s value t.stage t.expectedArtifacts t.subagent =
      .ok (findings, artifacts) ∧ hasSevere findings = false
  /-- The audit record is appended. -/
  decisions : ∃ question idDefault, s'.decisions =
    s.decisions ++ [auditDecision env w (resultDict env value) question idDefault]
  /-- No retry is pending. -/
  pending : s'.pendingGuardRetry = none
  guardRetries : s'.guardRetries = s.guardRetries
  retryCount : s'.retryCount = s.retryCount

/-- What every gate does with an answer. -/
structure Decided (w : World) (gate : Gate) (s : WorkflowState) (value : Json)
    (s' : WorkflowState) : Prop where
  /-- The audit record is appended. -/
  decisions : s'.decisions = s.decisions ++ [gateRecord env w gate value]
  pending : s'.pendingGuardRetry = s.pendingGuardRetry
  guardRetries : s'.guardRetries = s.guardRetries

/-- The guard finds something severe in the result of a dispatch. -/
def Rejects (w : World) (t : Target) (s : WorkflowState) (value : Json)
    (findings : List GuardWarning) : Prop :=
  (∃ artifacts, guardFindings env w s value t.stage t.expectedArtifacts t.subagent =
    .ok (findings, artifacts)) ∧ hasSevere findings = true

/-- **The outcomes of the nodes.** -/
inductive Step : Config → Event → Config → Prop
  /-- The entry node. -/
  | init {w : World} {s : WorkflowState} :
      Step ⟨some .init, s⟩ (.tick w) ⟨some .pmPhase, initNode w s⟩
  /-- A severe finding with no retry left. -/
  | guardBlocked {n : Node} {t : Target} {w : World} {s : WorkflowState} {value : Json}
      {findings : List GuardWarning} :
      n.target s = some t → Rejects env w t s value findings →
      guardRetryLimit ≤ attemptsSoFar s t.stage t.subagent →
      Step ⟨some n, s⟩ (.resume w value) ⟨none, guardBlocked w s findings t.stage t.subagent⟩
  /-- A severe finding that is sent back with a hint. -/
  | guardRetry {n : Node} {t : Target} {w : World} {s : WorkflowState} {value : Json}
      {findings : List GuardWarning} :
      n.target s = some t → Rejects env w t s value findings →
      attemptsSoFar s t.stage t.subagent < guardRetryLimit →
      Step ⟨some n, s⟩ (.resume w value) ⟨some n, guardRetry w s findings t.stage t.subagent⟩
  /-- An accepted result that leads on. -/
  | accepted {n n' : Node} {t : Target} {w : World} {s s' : WorkflowState} {value : Json} :
      (n, n') ∈ onward → n.target s = some t → Accepted env w t s value s' →
      s'.stage = n'.stage → SameDev s s' →
      Step ⟨some n, s⟩ (.resume w value) ⟨some n', s'⟩
  /-- A planner that gives up. -/
  | planBlocked {t : Target} {w : World} {s s' : WorkflowState} {value : Json} :
      Node.planningPhase.target s = some t → Accepted env w t s value s' → s'.stage = .blocked →
      SameDev s s' →
      Step ⟨some .planningPhase, s⟩ (.resume w value) ⟨none, s'⟩
  /-- An accepted plan. -/
  | planned {t : Target} {w : World} {s s' : WorkflowState} {value : Json} :
      Node.planningPhase.target s = some t → Accepted env w t s value s' → s'.stage = .gate15 →
      s'.subtasks = parseSubtaskPlan env value → s'.currentSubtaskIndex = -1 →
      s'.subtaskResults = ∅ →
      Step ⟨some .planningPhase, s⟩ (.resume w value) ⟨some .gate15, s'⟩
  /-- An accepted result of a developer. -/
  | dev {subtask : SubtaskSpec} {w : World} {s s' : WorkflowState} {value : Json} :
      currentSubtask s = some subtask → Accepted env w (devTarget subtask) s value s' →
      s'.stage = s.stage → s'.subtasks = s.subtasks →
      s'.currentSubtaskIndex = s.currentSubtaskIndex →
      s'.subtaskResults =
        s.subtaskResults.insert subtask.taskId (devPartial env (resultDict env value)) →
      Step ⟨some .devSubtaskDispatch, s⟩ (.resume w value) ⟨some .devCodexReview, s'⟩
  /-- An accepted review of a subtask. -/
  | codex {subtask : SubtaskSpec} {reasons : List String} {w : World} {s s' : WorkflowState}
      {value : Json} :
      currentSubtask s = some subtask → Accepted env w (codexTarget subtask) s value s' →
      s'.stage = s.stage → s'.subtasks = s.subtasks →
      s'.currentSubtaskIndex = s.currentSubtaskIndex →
      env.makeReasons (reviewReasons (resultDict env value)) = .ok reasons →
      s'.subtaskResults = s.subtaskResults.insert subtask.taskId
        (codexMerged env (s.subtaskResults.getD subtask.taskId
          { devStatus := "", devHandoffNote := "", devDecisionSha256 := "" })
          (resultDict env value) reasons) →
      Step ⟨some .devCodexReview, s⟩ (.resume w value) ⟨some .devLoopRouter, s'⟩
  /-- An answer that leads on. -/
  | answered {gate : Gate} {n' : Node} {w : World} {s s' : WorkflowState} {value : Json} :
      (gateAnswer env value, n') ∈ gate.leads → Decided env w gate s value s' →
      s'.stage = n'.stage → s'.subtasks = s.subtasks →
      s'.retryCount =
        s.retryCount + (if gateAnswer env value ∈ rollbacks then 1 else 0) →
      (if gateAnswer env value = "rollback_to_dev" then
          s'.currentSubtaskIndex = -1 ∧ s'.subtaskResults = ∅
        else s'.currentSubtaskIndex = s.currentSubtaskIndex ∧
          s'.subtaskResults = s.subtaskResults) →
      Step ⟨some gate.node, s⟩ (.resume w value) ⟨some n', s'⟩
  /-- The approval of the last gate. -/
  | done {w : World} {s s' : WorkflowState} {value : Json} :
      gateAnswer env value = "approve" → Decided env w .gate3 s value s' → s'.stage = .done →
      SameDev s s' → s'.retryCount = s.retryCount →
      Step ⟨some .gate3, s⟩ (.resume w value) ⟨none, s'⟩
  /-- A gate that blocks. -/
  | refused {gate : Gate} {w : World} {s s' : WorkflowState} {value : Json} :
      Decided env w gate s value s' → s'.stage = .blocked → SameDev s s' →
      s'.retryCount = s.retryCount →
      Step ⟨some gate.node, s⟩ (.resume w value) ⟨none, s'⟩
  /-- The DEV loop enters a subtask. -/
  | loopNext {w : World} {s : WorkflowState} {note : String} :
      s.currentSubtaskIndex + 1 < s.subtasks.length →
      Step ⟨some .devLoopRouter, s⟩ (.tick w) ⟨some .devSubtaskDispatch, { s with
        currentSubtaskIndex := s.currentSubtaskIndex + 1
        stageLog := appendLog w s .devPhase note
        updatedAt := w.now }⟩
  /-- The DEV loop is through. -/
  | loopExit {w : World} {s : WorkflowState} {note : String} :
      s.subtasks.length ≤ s.currentSubtaskIndex + 1 →
      Step ⟨some .devLoopRouter, s⟩ (.tick w) ⟨some .gate2, { s with
        stage := .gate2
        phaseSummaries := s.phaseSummaries.insert Stage.devPhase.value (devPhaseSummary s)
        gateResults := s.gateResults.insert "Gate 2" (gate2Result s)
        currentSubtaskIndex := -1
        stageLog := appendLog w s .devPhase note
        updatedAt := w.now }⟩

end Outcomes

/-! ### Consistency -/

/-- The stage that goes with a node; at `END` the workflow is over. -/
def StageFits (s : WorkflowState) : Option Node → Prop
  | some n => s.stage = n.stage
  | none => s.stage.terminal = true

/-- The pending retry is for the dispatch of a node, and its attempt is the one
counted on that dispatch's budget. -/
def PendingFits (s : WorkflowState) (node : Option Node) (p : GuardRetryPending) : Prop :=
  ∃ n t, node = some n ∧ n.target s = some t ∧ p.stage = t.stage ∧ p.subagent = t.subagent ∧
    s.guardRetries.get? (guardRetryKey t.stage t.subagent s.retryCount) = some p.attempt

/-- **The control state of a configuration is consistent.** -/
structure Control (c : Config) : Prop where
  /-- The stage is the node's. -/
  stage : StageFits c.state c.node
  /-- A pending retry is the node's. -/
  pending : ∀ p, c.state.pendingGuardRetry = some p → PendingFits c.state c.node p
  /-- The index counts from before the first subtask. -/
  indexLow : -1 ≤ c.state.currentSubtaskIndex
  /-- Inside the DEV loop the index is that of a subtask. -/
  index : c.node = some .devSubtaskDispatch ∨ c.node = some .devCodexReview →
    0 ≤ c.state.currentSubtaskIndex ∧
      c.state.currentSubtaskIndex < c.state.subtasks.length

/-! ### Routing -/

theorem leave_eq_some_iff {n : Node} {r : Except PyError WorkflowState} {c' : Config} :
    n.leave r = some c' ↔
      ∃ s' next, r = .ok s' ∧ n.successor s' = some next ∧ c' = ⟨next, s'⟩ := by
  cases r with
  | error e => simp [Node.leave]
  | ok s =>
    simp only [Node.leave, Option.map_eq_some_iff]
    constructor
    · rintro ⟨next, hn, rfl⟩
      exact ⟨s, next, rfl, hn, rfl⟩
    · rintro ⟨s', next, hs, hn, rfl⟩
      cases hs
      exact ⟨next, hn, rfl⟩

theorem lookup_dispatchEdges (self next : Node) (s : WorkflowState) :
    (dispatchEdges self next).lookup (routeDispatchOutcome s) =
      some (if s.pendingGuardRetry.isSome then some self
        else if s.stage = .blocked then none else some next) := by
  unfold routeDispatchOutcome
  split
  · rfl
  split <;> rfl

theorem successor_guardBlocked {n : Node} {t : Target} {s : WorkflowState}
    (ht : n.target s = some t) (w : World) (findings : List GuardWarning) (stage : Stage)
    (subagentName : String) :
    n.successor (guardBlocked w s findings stage subagentName) = some none := by
  cases n <;> first | rfl | cases ht

theorem successor_guardRetry {n : Node} {t : Target} {s : WorkflowState}
    (ht : n.target s = some t) (w : World) (findings : List GuardWarning) (stage : Stage)
    (subagentName : String) :
    n.successor (guardRetry w s findings stage subagentName) = some (some n) := by
  cases n <;> first | rfl | cases ht

/-- Where an accepted result leads from a dispatch node that is not the
planner's. -/
theorem successor_of_accepted {n n' : Node} {s' : WorkflowState}
    (hn : (n, n') ∈ onward ∧ n ≠ .planningPhase ∨ n = .devSubtaskDispatch ∧ n' = .devCodexReview ∨
      n = .devCodexReview ∧ n' = .devLoopRouter)
    (hp : s'.pendingGuardRetry = none) (hs : s'.stage ≠ .blocked) :
    n.successor s' = some (some n') := by
  have hedge : ∀ self next, (dispatchEdges self next).lookup (routeDispatchOutcome s') =
      some (some next) := by
    intro self next
    rw [lookup_dispatchEdges, hp, if_neg (by simp), if_neg hs]
  rcases hn with ⟨hn, hne⟩ | ⟨rfl, rfl⟩ | ⟨rfl, rfl⟩
  · simp only [onward, List.mem_cons, Prod.mk.injEq, List.not_mem_nil, or_false] at hn
    rcases hn with ⟨rfl, rfl⟩ | ⟨rfl, rfl⟩ | ⟨rfl, rfl⟩ | ⟨rfl, rfl⟩ | ⟨rfl, rfl⟩
    · exact hedge _ _
    · exact absurd rfl hne
    · exact hedge _ _
    · exact hedge _ _
    · exact hedge _ _
  · exact hedge _ _
  · exact hedge _ _

/-! ### The dispatch nodes -/

section Dispatches

variable {env : Env} {w : World} {s : WorkflowState} {value : Json}

/-- The pending retry, if there is one, is for this dispatch. -/
def FitsTarget (s : WorkflowState) (t : Target) : Prop :=
  ∀ p, s.pendingGuardRetry = some p → p.stage = t.stage ∧ p.subagent = t.subagent

/-- What the update of an accepted result does before a consumed retry is
cleared. -/
structure Audits (env : Env) (w : World) (s : WorkflowState) (value : Json)
    (s'' : WorkflowState) : Prop where
  decisions : ∃ question idDefault, s''.decisions =
    s.decisions ++ [auditDecision env w (resultDict env value) question idDefault]
  pending : s''.pendingGuardRetry = s.pendingGuardRetry
  guardRetries : s''.guardRetries = s.guardRetries
  retryCount : s''.retryCount = s.retryCount

/-- An update that appends its audit record and leaves the budget alone accepts
the result. -/
theorem Audits.accepted {t : Target} {s'' : WorkflowState} {findings : List GuardWarning}
    {artifacts : Dict String ArtifactRef} (h : Audits env w s value s'')
    (hg : guardFindings env w s value t.stage t.expectedArtifacts t.subagent =
      .ok (findings, artifacts)) (hsev : hasSevere findings = false) (hfit : FitsTarget s t) :
    Accepted env w t s value
      (clearPending (consumePendingRetry s t.stage t.subagent) s'') where
  passes := ⟨findings, artifacts, hg, hsev⟩
  decisions := by rw [clearPending_decisions]; exact h.decisions
  pending := clearPending_of_fits h.pending hfit
  guardRetries := by rw [clearPending_guardRetries, h.guardRetries]
  retryCount := by rw [clearPending_retryCount, h.retryCount]

/-- **A dispatch node either does what the guard says or accepts.**  What it
does with an accepted result is left to the node. -/
theorem step_of_dispatch {n : Node} {t : Target} {c' : Config}
    {accept : List GuardWarning → Dict String ArtifactRef → Except PyError WorkflowState}
    (ht : n.target s = some t)
    (hrun : n.run env w s value =
      dispatchNode env w s t.stage t.subagent t.expectedArtifacts value accept)
    (hfit : FitsTarget s t)
    (hacc : ∀ findings artifacts s'', accept findings artifacts = .ok s'' →
      Audits env w s value s'' ∧ ∀ p next, Accepted env w t s value (clearPending p s'') →
        n.successor (clearPending p s'') = some next →
        Step env ⟨some n, s⟩ (.resume w value) ⟨next, clearPending p s''⟩)
    (h : n.leave (n.run env w s value) = some c') :
    Step env ⟨some n, s⟩ (.resume w value) c' := by
  obtain ⟨s', next, hs', hnext, rfl⟩ := leave_eq_some_iff.mp h
  rw [hrun] at hs'
  obtain ⟨findings, artifacts, hg, hout | ⟨hsev, s'', hs'', rfl⟩⟩ := dispatchNode_cases env w hs'
  -- a severe result is blocked or retried, as the budget of its dispatch allows
  · obtain ⟨hsev, ⟨hlim, rfl⟩ | ⟨hlim, rfl⟩⟩ := handleGuardOutcome_cases w hout
    · rw [successor_guardBlocked ht] at hnext
      cases hnext
      exact .guardBlocked ht ⟨⟨artifacts, hg⟩, hsev⟩ hlim
    · rw [successor_guardRetry ht] at hnext
      cases hnext
      exact .guardRetry ht ⟨⟨artifacts, hg⟩, hsev⟩ hlim
  -- any other is accepted, and `accept` says by which edge the node is left
  · obtain ⟨haud, hgo⟩ := hacc findings artifacts s'' hs''
    exact hgo _ next (haud.accepted hg hsev hfit) hnext

/-- A dispatch node whose accepted result leads on in the table. -/
theorem step_of_onward {n : Node} (n' : Node) {t : Target} {c' : Config}
    {accept : List GuardWarning → Dict String ArtifactRef → Except PyError WorkflowState}
    (hon : (n, n') ∈ onward) (hne : n ≠ .planningPhase) (ht : n.target s = some t)
    (hrun : n.run env w s value =
      dispatchNode env w s t.stage t.subagent t.expectedArtifacts value accept)
    (hfit : FitsTarget s t)
    (hacc : ∀ findings artifacts s'', accept findings artifacts = .ok s'' →
      Audits env w s value s'' ∧ s''.stage = n'.stage ∧ SameDev s s'')
    (h : n.leave (n.run env w s value) = some c') :
    Step env ⟨some n, s⟩ (.resume w value) c' := by
  refine step_of_dispatch ht hrun hfit ?_ h
  intro findings artifacts s'' hs''
  obtain ⟨haud, hstage, hsame⟩ := hacc findings artifacts s'' hs''
  refine ⟨haud, ?_⟩
  intro p next haccepted hnext
  -- the node it leads to has a stage of its own, so that it is not blocked
  have hblocked : (clearPending p s'').stage ≠ .blocked := by
    rw [clearPending_stage, hstage]
    cases n' <;> simp [Node.stage]
  rw [successor_of_accepted (Or.inl ⟨hon, hne⟩) haccepted.pending hblocked] at hnext
  cases hnext
  exact .accepted hon ht haccepted (by rw [clearPending_stage, hstage]) hsame.clear

/-- What `_consume_subagent_result` appends and answers. -/
theorem consumeSubagentResult_spec {stage : Stage} {gateName question idDefault : String}
    {consumed : Consumed}
    (h : consumeSubagentResult env w s value stage gateName question idDefault = .ok consumed) :
    consumed.decisions =
        s.decisions ++ [auditDecision env w (resultDict env value) question idDefault] ∧
      ∃ gateResult, parseGateClaim env (resultDict env value) gateName = .ok gateResult ∧
        consumed.gateResults = s.gateResults.insert gateName gateResult := by
  unfold consumeSubagentResult at h
  simp only [bind_eq_ok] at h
  obtain ⟨_, _, gateResult, hgate, h⟩ := h
  cases h
  exact ⟨rfl, gateResult, hgate, rfl⟩

theorem step_pmPhase {c' : Config}
    (hfit : ∀ t, Node.pmPhase.target s = some t → FitsTarget s t)
    (h : Node.pmPhase.leave (Node.pmPhase.run env w s value) = some c') :
    Step env ⟨some .pmPhase, s⟩ (.resume w value) c' := by
  refine step_of_onward .gate1 (by simp [onward]) (by simp) rfl
    (by rw [Node.run, pmPhaseNode]) (hfit _ rfl) ?_ h
  intro findings artifacts s'' hs''
  simp only [bind_eq_ok] at hs''
  obtain ⟨consumed, hc, hs''⟩ := hs''
  cases hs''
  exact ⟨⟨⟨_, _, (consumeSubagentResult_spec hc).1⟩, rfl, rfl, rfl⟩, rfl, ⟨rfl, rfl, rfl⟩⟩

theorem step_planningDevConsult {c' : Config}
    (hfit : ∀ t, Node.planningDevConsult.target s = some t → FitsTarget s t)
    (h : Node.planningDevConsult.leave (Node.planningDevConsult.run env w s value) = some c') :
    Step env ⟨some .planningDevConsult, s⟩ (.resume w value) c' := by
  refine step_of_onward .planningPhase (by simp [onward]) (by simp) rfl
    (by rw [Node.run, planningDevConsultNode]) (hfit _ rfl) ?_ h
  intro findings artifacts s'' hs''
  cases hs''
  exact ⟨⟨⟨_, _, rfl⟩, rfl, rfl, rfl⟩, rfl, ⟨rfl, rfl, rfl⟩⟩

theorem step_revDispatch {c' : Config} (hstage : s.stage = .revPhase)
    (hfit : ∀ t, Node.revDispatch.target s = some t → FitsTarget s t)
    (h : Node.revDispatch.leave (Node.revDispatch.run env w s value) = some c') :
    Step env ⟨some .revDispatch, s⟩ (.resume w value) c' := by
  refine step_of_onward .revCodexFinal (by simp [onward]) (by simp) rfl
    (by rw [Node.run, revDispatchNode]) (hfit _ rfl) ?_ h
  intro findings artifacts s'' hs''
  simp only [bind_eq_ok] at hs''
  obtain ⟨_, _, _, _, hs''⟩ := hs''
  cases hs''
  exact ⟨⟨⟨_, _, rfl⟩, rfl, rfl, rfl⟩, hstage, ⟨rfl, rfl, rfl⟩⟩

theorem step_revCodexFinal {c' : Config}
    (hfit : ∀ t, Node.revCodexFinal.target s = some t → FitsTarget s t)
    (h : Node.revCodexFinal.leave (Node.revCodexFinal.run env w s value) = some c') :
    Step env ⟨some .revCodexFinal, s⟩ (.resume w value) c' := by
  refine step_of_onward .gate3 (by simp [onward]) (by simp) rfl
    (by rw [Node.run, revCodexFinalNode]) (hfit _ rfl) ?_ h
  intro findings artifacts s'' hs''
  simp only [bind_eq_ok] at hs''
  obtain ⟨_, _, _, _, hs''⟩ := hs''
  cases hs''
  exact ⟨⟨⟨_, _, rfl⟩, rfl, rfl, rfl⟩, rfl, ⟨rfl, rfl, rfl⟩⟩

/-- The ends of an accepted planner result. -/
inductive Planned (env : Env) (s : WorkflowState) (value : Json) (s'' : WorkflowState) : Prop
  /-- The planner gives up. -/
  | gaveUp : s''.stage = .blocked → SameDev s s'' → Planned env s value s''
  /-- The planner asks the developer. -/
  | asks : s''.stage = .planningPhase → SameDev s s'' → Planned env s value s''
  /-- There is a plan for the user to look at. -/
  | plan : s''.stage = .gate15 → s''.subtasks = parseSubtaskPlan env value →
      s''.currentSubtaskIndex = -1 → s''.subtaskResults = ∅ → Planned env s value s''

theorem Planned.step {s'' : WorkflowState} {t : Target} {p : Option GuardRetryPending}
    {next : Option Node} (h : Planned env s value s'')
    (ht : Node.planningPhase.target s = some t)
    (hacc : Accepted env w t s value (clearPending p s''))
    (hnext : Node.planningPhase.successor (clearPending p s'') = some next) :
    Step env ⟨some .planningPhase, s⟩ (.resume w value) ⟨next, clearPending p s''⟩ := by
  -- the router of the planner reads the stage the node has set
  have hroute : routeAfterPlanning (clearPending p s'') =
      if s''.stage = .planningPhase then .consult else if s''.stage = .gate15 then .toGate
        else .blocked := by
    rw [routeAfterPlanning, hacc.pending, if_neg (by simp), clearPending_stage]
  rw [Node.successor, hroute] at hnext
  cases h with
  | gaveUp hs hsame =>
    rw [hs] at hnext
    cases hnext
    exact .planBlocked ht hacc (by rw [clearPending_stage, hs]) hsame.clear
  | asks hs hsame =>
    rw [hs] at hnext
    cases hnext
    exact .accepted (by simp [onward]) ht hacc (by rw [clearPending_stage, hs]; rfl) hsame.clear
  | plan hs hsub hidx hres =>
    rw [hs] at hnext
    cases hnext
    exact .planned ht hacc (by rw [clearPending_stage, hs]) (by rw [clearPending_subtasks, hsub])
      (by rw [clearPending_currentSubtaskIndex, hidx]) (by rw [clearPending_subtaskResults, hres])

theorem step_planningPhase {c' : Config}
    (hfit : ∀ t, Node.planningPhase.target s = some t → FitsTarget s t)
    (h : Node.planningPhase.leave (Node.planningPhase.run env w s value) = some c') :
    Step env ⟨some .planningPhase, s⟩ (.resume w value) c' := by
  refine step_of_dispatch rfl (by rw [Node.run, planningPhaseNode]) (hfit _ rfl) ?_ h
  intro findings artifacts s'' hs''
  simp only [bind_eq_ok] at hs''
  obtain ⟨consumed, hc, hs''⟩ := hs''
  have hd := (consumeSubagentResult_spec hc).1
  -- blocked, a question, a question beyond the limit, or a plan: the four ends of the node
  have hends : Audits env w s value s'' ∧ Planned env s value s'' := by
    split at hs''
    · cases hs''
      exact ⟨⟨⟨_, _, hd⟩, rfl, rfl, rfl⟩, .gaveUp rfl ⟨rfl, rfl, rfl⟩⟩
    split at hs''
    · cases hs''
      exact ⟨⟨⟨_, _, hd⟩, rfl, rfl, rfl⟩, .asks rfl ⟨rfl, rfl, rfl⟩⟩
    split at hs''
    · cases hs''
      exact ⟨⟨⟨_, _, hd⟩, rfl, rfl, rfl⟩, .plan rfl rfl rfl rfl⟩
    · cases hs''
      exact ⟨⟨⟨_, _, hd⟩, rfl, rfl, rfl⟩, .plan rfl rfl rfl rfl⟩
  exact ⟨hends.1, fun p next hacc hnext => hends.2.step rfl hacc hnext⟩

theorem step_devSubtaskDispatch {c' : Config} {subtask : SubtaskSpec}
    (hsub : currentSubtask s = some subtask) (hstage : s.stage = .devPhase)
    (hfit : FitsTarget s (devTarget subtask))
    (h : Node.devSubtaskDispatch.leave (Node.devSubtaskDispatch.run env w s value) = some c') :
    Step env ⟨some .devSubtaskDispatch, s⟩ (.resume w value) c' := by
  have ht : Node.devSubtaskDispatch.target s = some (devTarget subtask) := by
    rw [Node.target, hsub, Option.map_some]
  refine step_of_dispatch ht (by rw [Node.run, devSubtaskDispatchNode, hsub]; rfl) hfit ?_ h
  intro findings artifacts s'' hs''
  cases hs''
  refine ⟨⟨⟨_, _, rfl⟩, rfl, rfl, rfl⟩, ?_⟩
  intro p next hacc hnext
  rw [successor_of_accepted (Or.inr (Or.inl ⟨rfl, rfl⟩)) hacc.pending (by simp [hstage])] at hnext
  cases hnext
  exact .dev hsub hacc (by simp) (by simp) (by simp) (by simp)

theorem step_devCodexReview {c' : Config} {subtask : SubtaskSpec}
    (hsub : currentSubtask s = some subtask) (hstage : s.stage = .devPhase)
    (hfit : FitsTarget s (codexTarget subtask))
    (h : Node.devCodexReview.leave (Node.devCodexReview.run env w s value) = some c') :
    Step env ⟨some .devCodexReview, s⟩ (.resume w value) c' := by
  have ht : Node.devCodexReview.target s = some (codexTarget subtask) := by
    rw [Node.target, hsub, Option.map_some]
  refine step_of_dispatch ht (by rw [Node.run, devCodexReviewNode, hsub]; rfl) hfit ?_ h
  intro findings artifacts s'' hs''
  simp only [bind_eq_ok] at hs''
  obtain ⟨reasons, hr, hs''⟩ := hs''
  cases hs''
  refine ⟨⟨⟨_, _, rfl⟩, rfl, rfl, rfl⟩, ?_⟩
  intro p next hacc hnext
  rw [successor_of_accepted (Or.inr (Or.inr ⟨rfl, rfl⟩)) hacc.pending (by simp [hstage])] at hnext
  cases hnext
  exact .codex hsub hacc (by simp) (by simp) (by simp) hr (by simp)

end Dispatches

/-! ### The gates -/

section Gates

variable {env : Env} {w : World} {s s' : WorkflowState} {value : Json} {gate : Gate}

theorem successor_gate_blocked (hs : s'.stage = .blocked) :
    gate.node.successor s' = some none := by
  cases gate <;>
    simp only [Gate.node, Node.successor, routeAfterGate1, routeAfterGate15, routeAfterGate2,
      routeAfterGate3, hs] <;> rfl

theorem successor_gate_leads {answer : String} {n' : Node} (hl : (answer, n') ∈ gate.leads)
    (hs : s'.stage = n'.stage) : gate.node.successor s' = some (some n') := by
  cases gate <;>
    simp only [Gate.leads, List.mem_cons, Prod.mk.injEq, List.not_mem_nil, or_false] at hl
  · rcases hl with ⟨-, rfl⟩ | ⟨-, rfl⟩ <;>
      simp only [Gate.node, Node.successor, routeAfterGate1, hs] <;> rfl
  · rcases hl with ⟨-, rfl⟩ | ⟨-, rfl⟩ | ⟨-, rfl⟩ <;>
      simp only [Gate.node, Node.successor, routeAfterGate15, hs] <;> rfl
  · rcases hl with ⟨-, rfl⟩ | ⟨-, rfl⟩ | ⟨-, rfl⟩ <;>
      simp only [Gate.node, Node.successor, routeAfterGate2, hs] <;> rfl
  · rcases hl with ⟨-, rfl⟩ | ⟨-, rfl⟩ | ⟨-, rfl⟩ <;>
      simp only [Gate.node, Node.successor, routeAfterGate3, hs] <;> rfl

theorem step_refused (gate : Gate) {next : Option Node} (hd : Decided env w gate s value s')
    (hs : s'.stage = .blocked) (hsame : SameDev s s') (hc : s'.retryCount = s.retryCount)
    (hnext : gate.node.successor s' = some next) :
    Step env ⟨some gate.node, s⟩ (.resume w value) ⟨next, s'⟩ := by
  rw [successor_gate_blocked hs] at hnext
  cases hnext
  exact .refused hd hs hsame hc

/-- The update of an answer that approves or goes back to planning. -/
theorem step_returned (gate : Gate) (n' : Node) {answer : String} {next : Option Node}
    (ha : gateAnswer env value = answer) (hl : (answer, n') ∈ gate.leads)
    (hroll : answer ∉ rollbacks) (hd : Decided env w gate s value s') (hs : s'.stage = n'.stage)
    (hc : s'.retryCount = s.retryCount) (hsame : SameDev s s')
    (hnext : gate.node.successor s' = some next) :
    Step env ⟨some gate.node, s⟩ (.resume w value) ⟨next, s'⟩ := by
  subst ha
  rw [successor_gate_leads hl hs] at hnext
  cases hnext
  have hdev : gateAnswer env value ≠ "rollback_to_dev" := by
    intro heq
    exact hroll (by rw [heq]; simp [rollbacks])
  refine .answered hl hd hs hsame.subtasks (by rw [hc, if_neg hroll, Nat.add_zero]) ?_
  rw [if_neg hdev]
  exact ⟨hsame.currentSubtaskIndex, hsame.subtaskResults⟩

theorem step_rolledBack (gate : Gate) (n' : Node) {answer : String} {next : Option Node}
    (ha : gateAnswer env value = answer) (hl : (answer, n') ∈ gate.leads)
    (hroll : answer ∈ rollbacks) (hd : Decided env w gate s value s') (hs : s'.stage = n'.stage)
    (hc : s'.retryCount = s.retryCount + 1) (hsub : s'.subtasks = s.subtasks)
    (hdev : if answer = "rollback_to_dev" then
        s'.currentSubtaskIndex = -1 ∧ s'.subtaskResults = ∅
      else s'.currentSubtaskIndex = s.currentSubtaskIndex ∧
        s'.subtaskResults = s.subtaskResults)
    (hnext : gate.node.successor s' = some next) :
    Step env ⟨some gate.node, s⟩ (.resume w value) ⟨next, s'⟩ := by
  subst ha
  rw [successor_gate_leads hl hs] at hnext
  cases hnext
  exact .answered hl hd hs hsub (by rw [hc, if_pos hroll]) hdev

section Updates

variable (gate : Gate) (n' : Node) {answer note : String} {next : Option Node}

theorem step_gateBlocked
    (hnext : gate.node.successor
      (gateReturn w s gate (gateRecord env w gate value) .blocked note) = some next) :
    Step env ⟨some gate.node, s⟩ (.resume w value)
      ⟨next, gateReturn w s gate (gateRecord env w gate value) .blocked note⟩ :=
  step_refused gate ⟨rfl, rfl, rfl⟩ rfl ⟨rfl, rfl, rfl⟩ rfl hnext

theorem step_gateRefuse {checkId : CheckId} {detail : Detail}
    (hnext : gate.node.successor
      (gateRefuse w s gate (gateRecord env w gate value) checkId detail note) = some next) :
    Step env ⟨some gate.node, s⟩ (.resume w value)
      ⟨next, gateRefuse w s gate (gateRecord env w gate value) checkId detail note⟩ :=
  step_refused gate ⟨rfl, rfl, rfl⟩ rfl ⟨rfl, rfl, rfl⟩ rfl hnext

theorem step_gateReturn (ha : gateAnswer env value = answer) (hl : (answer, n') ∈ gate.leads)
    (hroll : answer ∉ rollbacks)
    (hnext : gate.node.successor
      (gateReturn w s gate (gateRecord env w gate value) n'.stage note) = some next) :
    Step env ⟨some gate.node, s⟩ (.resume w value)
      ⟨next, gateReturn w s gate (gateRecord env w gate value) n'.stage note⟩ :=
  step_returned gate n' ha hl hroll ⟨rfl, rfl, rfl⟩ rfl rfl ⟨rfl, rfl, rfl⟩ hnext

/-- A rollback to the planning or to PM leaves the results of DEV alone. -/
theorem step_gateRollback (ha : gateAnswer env value = answer) (hl : (answer, n') ∈ gate.leads)
    (hroll : answer ∈ rollbacks) (hdev : answer ≠ "rollback_to_dev")
    (hnext : gate.node.successor
      (gateRollback w s gate (gateRecord env w gate value) n'.stage note) = some next) :
    Step env ⟨some gate.node, s⟩ (.resume w value)
      ⟨next, gateRollback w s gate (gateRecord env w gate value) n'.stage note⟩ := by
  refine step_rolledBack gate n' ha hl hroll ⟨rfl, rfl, rfl⟩ rfl rfl rfl ?_ hnext
  rw [if_neg hdev]
  exact ⟨rfl, rfl⟩

end Updates

theorem step_gate1 {c' : Config} (h : Node.gate1.leave (Node.gate1.run env w s value) = some c') :
    Step env ⟨some .gate1, s⟩ (.resume w value) c' := by
  obtain ⟨s', next, hs', hnext, rfl⟩ := leave_eq_some_iff.mp h
  rw [Node.run, gate1Node] at hs'
  obtain ⟨-, hh⟩ | ⟨-, rfl⟩ := gateNode_cases hs'
  · split at hh
    · next ha =>
      cases hh
      exact step_gateReturn .gate1 .planningPhase ha (by simp [Gate.leads]) (by simp [rollbacks])
        hnext
    split at hh
    · next ha =>
      cases hh
      exact step_gateRollback .gate1 .pmPhase ha (by simp [Gate.leads]) (by simp [rollbacks])
        (by simp) hnext
    · cases hh
      exact step_gateBlocked .gate1 hnext
  · exact step_gateRefuse .gate1 hnext

theorem step_gate15 {c' : Config}
    (h : Node.gate15.leave (Node.gate15.run env w s value) = some c') :
    Step env ⟨some .gate15, s⟩ (.resume w value) c' := by
  obtain ⟨s', next, hs', hnext, rfl⟩ := leave_eq_some_iff.mp h
  rw [Node.run, gate15Node] at hs'
  obtain ⟨-, hh⟩ | ⟨-, rfl⟩ := gateNode_cases hs'
  -- approval, rollback, continued planning, or rejection, in the order of the source
  · split at hh
    · next ha =>
      cases hh
      exact step_gateReturn .gate15 .devLoopRouter ha (by simp [Gate.leads])
        (by simp [rollbacks]) hnext
    split at hh
    · next ha =>
      cases hh
      exact step_gateRollback .gate15 .pmPhase ha (by simp [Gate.leads]) (by simp [rollbacks])
        (by simp) hnext
    split at hh
    · next ha =>
      obtain ⟨_, _, _, rfl⟩ | ⟨_, _, rfl⟩ := continuePlanning_cases hh
      · exact step_gateRefuse .gate15 hnext
      · -- beside the return it records the hint and starts a new round of consultations
        exact step_returned .gate15 .planningPhase ha (by simp [Gate.leads])
          (by simp [rollbacks]) ⟨rfl, rfl, rfl⟩ rfl rfl ⟨rfl, rfl, rfl⟩ hnext
    · cases hh
      exact step_gateBlocked .gate15 hnext
  · exact step_gateRefuse .gate15 hnext

theorem step_gate2 {c' : Config} (h : Node.gate2.leave (Node.gate2.run env w s value) = some c') :
    Step env ⟨some .gate2, s⟩ (.resume w value) c' := by
  obtain ⟨s', next, hs', hnext, rfl⟩ := leave_eq_some_iff.mp h
  rw [Node.run, gate2Node] at hs'
  obtain ⟨-, hh⟩ | ⟨-, rfl⟩ := gateNode_cases hs'
  -- approval, the two rollbacks, or the rejection
  · split at hh
    · next ha =>
      cases hh
      exact step_gateReturn .gate2 .revDispatch ha (by simp [Gate.leads]) (by simp [rollbacks])
        hnext
    split at hh
    · next ha =>
      cases hh
      exact step_gateRollback .gate2 .planningPhase ha (by simp [Gate.leads])
        (by simp [rollbacks]) (by simp) hnext
    split at hh
    · next ha =>
      cases hh
      exact step_gateRollback .gate2 .pmPhase ha (by simp [Gate.leads]) (by simp [rollbacks])
        (by simp) hnext
    · cases hh
      exact step_gateBlocked .gate2 hnext
  · exact step_gateRefuse .gate2 hnext

theorem step_gate3 {c' : Config} (h : Node.gate3.leave (Node.gate3.run env w s value) = some c') :
    Step env ⟨some .gate3, s⟩ (.resume w value) c' := by
  obtain ⟨s', next, hs', hnext, rfl⟩ := leave_eq_some_iff.mp h
  rw [Node.run, gate3Node] at hs'
  obtain ⟨-, hh⟩ | ⟨-, rfl⟩ := gateNode_cases hs'
  · split at hh
    · next ha =>
      cases hh
      cases hnext
      exact .done ha ⟨rfl, rfl, rfl⟩ rfl ⟨rfl, rfl, rfl⟩ rfl
    split at hh
    · next ha =>
      -- the one rollback that clears the results of DEV
      cases hh
      exact step_rolledBack .gate3 .devLoopRouter ha (by simp [Gate.leads]) (by simp [rollbacks])
        ⟨rfl, rfl, rfl⟩ rfl rfl rfl (by rw [if_pos rfl]; exact ⟨rfl, rfl⟩) hnext
    split at hh
    · next ha =>
      cases hh
      exact step_gateRollback .gate3 .planningPhase ha (by simp [Gate.leads])
        (by simp [rollbacks]) (by simp) hnext
    split at hh
    · next ha =>
      cases hh
      exact step_gateRollback .gate3 .pmPhase ha (by simp [Gate.leads]) (by simp [rollbacks])
        (by simp) hnext
    · cases hh
      exact step_gateBlocked .gate3 hnext
  · exact step_gateRefuse .gate3 hnext

end Gates

/-! ### Every step is one of the outcomes -/

section Inversion

variable {env : Env} {w : World} {s : WorkflowState}

theorem step_devLoopRouter {c' : Config} (hstage : s.stage = .devPhase)
    (h : Node.devLoopRouter.leave (devLoopRouterNode w s) = some c') :
    Step env ⟨some .devLoopRouter, s⟩ (.tick w) c' := by
  obtain ⟨s', next, hs', hnext, rfl⟩ := leave_eq_some_iff.mp h
  unfold devLoopRouterNode at hs'
  extract_lets nextIndex at hs'
  split at hs'
  · next hlt =>
    simp only [bind_eq_ok] at hs'
    obtain ⟨subtask, -, hs'⟩ := hs'
    cases hs'
    rw [Node.successor, routeAfterDevLoop, if_neg (by simp [hstage])] at hnext
    cases hnext
    exact .loopNext hlt
  · next hge =>
    cases hs'
    cases hnext
    exact .loopExit (Int.not_lt.mp hge)

theorem exists_currentSubtask (hlow : 0 ≤ s.currentSubtaskIndex)
    (hhigh : s.currentSubtaskIndex < s.subtasks.length) :
    ∃ subtask, currentSubtask s = some subtask := by
  have hlt : s.currentSubtaskIndex.toNat < s.subtasks.length := by omega
  refine ⟨s.subtasks[s.currentSubtaskIndex.toNat], ?_⟩
  rw [currentSubtask, if_pos ⟨hlow, hhigh⟩, List.getElem?_eq_getElem hlt]

/-- In a consistent configuration a pending retry is for the node's own
dispatch. -/
theorem Control.fits {n : Node} (h : Control ⟨some n, s⟩) {t : Target}
    (ht : n.target s = some t) : FitsTarget s t := by
  intro p hp
  obtain ⟨n', t', hn, ht', hst, hsub, -⟩ := h.pending p hp
  cases hn
  rw [ht] at ht'
  cases ht'
  exact ⟨hst, hsub⟩

/-- In a consistent configuration the DEV nodes have a subtask. -/
theorem Control.exists_currentSubtask {n : Node} (h : Control ⟨some n, s⟩)
    (hn : n = .devSubtaskDispatch ∨ n = .devCodexReview) :
    ∃ subtask, currentSubtask s = some subtask := by
  obtain ⟨hlow, hhigh⟩ := h.index (by simpa using hn)
  exact Shrimp.exists_currentSubtask hlow hhigh

/-- **A step from a consistent configuration is one of the outcomes.** -/
theorem step_of_advance {c c' : Config} {e : Event} (hc : Control c)
    (h : advance env c e = some c') : Step env c e c' := by
  obtain ⟨_ | n, s⟩ := c
  · simp [advance] at h
  -- A node that interrupts moves on a resumed value, one that does not on a tick.
  have hresume : ∀ {value w}, advance env ⟨some n, s⟩ (.resume w value) = some c' →
      n.leave (n.run env w s value) = some c' := by
    intro value w h
    simp only [advance] at h
    split at h <;> simp_all
  cases e with
  | tick w =>
    cases n with
    | init => cases h; exact .init
    | devLoopRouter => exact step_devLoopRouter hc.stage h
    | devSubtaskDispatch =>
      obtain ⟨subtask, hsub⟩ := hc.exists_currentSubtask (Or.inl rfl)
      simp [advance, Node.payload, hsub] at h
    | devCodexReview =>
      obtain ⟨subtask, hsub⟩ := hc.exists_currentSubtask (Or.inr rfl)
      simp [advance, Node.payload, hsub] at h
    | _ => simp [advance, Node.payload] at h
  | resume w value =>
    cases n with
    | init => simp [advance, Node.payload] at h
    | devLoopRouter => simp [advance, Node.payload] at h
    | pmPhase => exact step_pmPhase (fun t ht => hc.fits ht) (hresume h)
    | gate1 => exact step_gate1 (hresume h)
    | planningPhase => exact step_planningPhase (fun t ht => hc.fits ht) (hresume h)
    | planningDevConsult => exact step_planningDevConsult (fun t ht => hc.fits ht) (hresume h)
    | gate15 => exact step_gate15 (hresume h)
    | devSubtaskDispatch =>
      obtain ⟨subtask, hsub⟩ := hc.exists_currentSubtask (Or.inl rfl)
      exact step_devSubtaskDispatch hsub hc.stage (hc.fits (by rw [Node.target, hsub]; rfl))
        (hresume h)
    | devCodexReview =>
      obtain ⟨subtask, hsub⟩ := hc.exists_currentSubtask (Or.inr rfl)
      exact step_devCodexReview hsub hc.stage (hc.fits (by rw [Node.target, hsub]; rfl))
        (hresume h)
    | gate2 => exact step_gate2 (hresume h)
    | revDispatch => exact step_revDispatch hc.stage (fun t ht => hc.fits ht) (hresume h)
    | revCodexFinal => exact step_revCodexFinal (fun t ht => hc.fits ht) (hresume h)
    | gate3 => exact step_gate3 (hresume h)

end Inversion

end Shrimp
