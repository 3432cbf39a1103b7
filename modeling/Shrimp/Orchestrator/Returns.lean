import Shrimp.Orchestrator.Step

/-!
# What the nodes return

`Step` says where a node leads and what it does to the fields the routers read.
This module says what a node returns in full: for each return of the source the
state it leaves, field by field.  It is about single executions, from any state
whatsoever; what holds of every return is read off it by cases.

## Main definitions

* `Passes` — the guard lets a result through.
* `rollbackPhases` — the phase each rollback goes to.
* `Returns` — the returns of the thirteen nodes.

## Main results

* `returns_of_run` — **what a node returns is one of its returns.**
* `returns_of_advance` — a step of the graph is a return of its node.
-/

namespace Shrimp

/-- The phase each rollback goes to. -/
def rollbackPhases : List (String × Stage) := [
  ("rollback_to_dev", .devPhase), ("rollback_to_planning", .planningPhase),
  ("rollback_to_pm", .pmPhase)]

/-! ### Notes of the log -/

/-- The note of a planner that asks the developer. -/
def asksNote (round : ℕ) : String :=
  s!"planning-needs-dev-consult:round={round}/{maxPlanningConsultations}"

/-- The note of a planner whose open question goes to Gate 1.5. -/
def surfacedNote (exhausted : Bool) : String :=
  s!"planning-needs-input-surface-to-gate:exhausted={pyBool exhausted}"

/-- The note of a consultation. -/
def consultNote (round : ℕ) (answer : String) : String :=
  s!"planning-dev-consult:round={round}/{maxPlanningConsultations} status={answer}"

/-- The note of the review of a subtask. -/
def reviewedNote (taskId : String) (passed : Bool) : String :=
  s!"dev-subtask-{taskId}-reviewed:passed={pyBool passed}"

/-- The note of the final review. -/
def codexFinalNote (answer : String) (passed : Bool) : String :=
  s!"codex-final-dispatched:{answer} passed={pyBool passed}"

/-- The note of the end of the DEV loop. -/
def loopExitNote (s : WorkflowState) : String :=
  s!"dev-loop:exit subtasks_done={s.subtaskResults.entries.length}/{s.subtasks.length} " ++
    s!"all_passed={pyBool (allPassed s)}"

section Returns

variable (env : Env)

/-- The guard lets a result through, with these findings and artifacts. -/
def Passes (w : World) (t : Target) (s : WorkflowState) (value : Json)
    (findings : List GuardWarning) (artifacts : Dict String ArtifactRef) : Prop :=
  guardFindings env w s value t.stage t.expectedArtifacts t.subagent =
    .ok (findings, artifacts) ∧ hasSevere findings = false

/-- The audit record of a result. -/
def resultRecord (w : World) (value : Json) (question idDefault : String) : Decision :=
  auditDecision env w (resultDict env value) question idDefault

/-- The summary and the gate claim a result is consumed with. -/
def Consumes (value : Json) (gateName : String) (summary : PhaseSummary) (claim : GateResult) :
    Prop :=
  env.phaseSummaryOf ((resultDict env value).getOrEmpty "phase_summary") = .ok summary ∧
    parseGateClaim env (resultDict env value) gateName = .ok claim

/-- The summary and the gate claim a review is consumed with. -/
def ConsumesReview (value : Json) (gateName : String) (summary : PhaseSummary)
    (claim : GateResult) : Prop :=
  env.phaseSummaryOf ((resultDict env value).getOrEmpty "phase_summary") = .ok summary ∧
    parseReviewClaim env (resultDict env value) gateName = .ok claim

/-- What `_consume_subagent_result` returns. -/
def consumedOf (w : World) (s : WorkflowState) (value : Json) (stage : Stage)
    (gateName question idDefault : String) (summary : PhaseSummary) (claim : GateResult) :
    Consumed where
  decisions := s.decisions ++ [resultRecord env w value question idDefault]
  phaseSummaries := s.phaseSummaries.insert stage.value summary
  gateResults := s.gateResults.insert gateName claim
  auditAnswer := resultAnswer env (resultDict env value)

/-- What the planner's result is consumed to. -/
def plannerConsumed (w : World) (s : WorkflowState) (value : Json) (summary : PhaseSummary)
    (claim : GateResult) : Consumed :=
  consumedOf env w s value .planningPhase "Gate 1.5" "PLANNING_PHASE subagent_dispatch result"
    "d_planning_dispatch" summary claim

/-- **The returns of the nodes**, from a state and the value `interrupt`
returned.  What is pending afterwards is left open where a consumed retry is
cleared. -/
inductive Returns (w : World) (s : WorkflowState) (value : Json) : Node → WorkflowState → Prop
  /-- The entry node. -/
  | init : Returns w s value .init (initNode w s)
  /-- A dispatch whose result the guard rejects. -/
  | guard {n : Node} {t : Target} {findings : List GuardWarning} {s' : WorkflowState} :
      n.target s = some t → Rejects env w t s value findings →
      handleGuardOutcome w s findings t.stage t.subagent = some s' →
      Returns w s value n s'
  /-- An accepted result of the PM. -/
  | pm {t : Target} {findings : List GuardWarning} {artifacts : Dict String ArtifactRef}
      {summary : PhaseSummary} {claim : GateResult} {pending : Option GuardRetryPending} :
      Node.pmPhase.target s = some t → Passes env w t s value findings artifacts →
      Consumes env value "Gate 1" summary claim →
      Returns w s value .pmPhase { s with
        stage := .gate1
        decisions := s.decisions ++
          [resultRecord env w value "PM_PHASE subagent_dispatch result" "d_pm_dispatch"]
        phaseSummaries := s.phaseSummaries.insert Stage.pmPhase.value summary
        gateResults := s.gateResults.insert "Gate 1" claim
        warnings := s.warnings ++ findings
        artifacts := s.artifacts.merge artifacts
        stageLog := appendLog w s .pmPhase
          s!"pm-dispatch:{resultAnswer env (resultDict env value)}"
        updatedAt := w.now
        pendingGuardRetry := pending }
  /-- A planner that gives up. -/
  | planBlocked {t : Target} {findings : List GuardWarning}
      {artifacts : Dict String ArtifactRef} {summary : PhaseSummary} {claim : GateResult}
      {pending : Option GuardRetryPending} :
      Node.planningPhase.target s = some t → Passes env w t s value findings artifacts →
      Consumes env value "Gate 1.5" summary claim →
      Returns w s value .planningPhase
        { planningReturn w s (plannerConsumed env w s value summary claim) artifacts .blocked
            (s.warnings ++ findings) "planning-blocked-by-planner" with
          pendingGuardRetry := pending }
  /-- A planner that asks the developer. -/
  | planAsks {t : Target} {findings : List GuardWarning} {artifacts : Dict String ArtifactRef}
      {summary : PhaseSummary} {claim : GateResult} {pending : Option GuardRetryPending} :
      Node.planningPhase.target s = some t → Passes env w t s value findings artifacts →
      Consumes env value "Gate 1.5" summary claim →
      resultAnswer env (resultDict env value) = "needs_input" →
      (value.asDict.map (hasConsultation env)).getD false = true →
      s.planningConsultationRound < maxPlanningConsultations →
      Returns w s value .planningPhase
        { planningReturn w s (plannerConsumed env w s value summary claim) artifacts
            .planningPhase (s.warnings ++ findings)
            (asksNote (s.planningConsultationRound + 1)) with
          pendingGuardRetry := pending }
  /-- A plan for the user to look at; its warnings say when nobody was left to ask. -/
  | planned {t : Target} {findings extra : List GuardWarning}
      {artifacts : Dict String ArtifactRef} {summary : PhaseSummary} {claim : GateResult}
      {note : String} {pending : Option GuardRetryPending} :
      Node.planningPhase.target s = some t → Passes env w t s value findings artifacts →
      Consumes env value "Gate 1.5" summary claim →
      (note = s!"planning-dispatch:{resultAnswer env (resultDict env value)}" ∨
        ∃ exhausted, note = surfacedNote exhausted) →
      Returns w s value .planningPhase
        { planningReturn w s (plannerConsumed env w s value summary claim) artifacts .gate15
            (s.warnings ++ findings ++ extra) note with
          subtasks := parseSubtaskPlan env value
          currentSubtaskIndex := -1
          subtaskResults := ∅
          pendingGuardRetry := pending }
  /-- An accepted consultation. -/
  | consult {t : Target} {findings : List GuardWarning} {artifacts : Dict String ArtifactRef}
      {pending : Option GuardRetryPending} :
      Node.planningDevConsult.target s = some t → Passes env w t s value findings artifacts →
      Returns w s value .planningDevConsult { s with
        stage := .planningPhase
        decisions := s.decisions ++ [resultRecord env w value
          s!"PLANNING_PHASE dev_agent consultation round {s.planningConsultationRound + 1}"
          s!"d_consult_{s.planningConsultationRound + 1}"]
        warnings := s.warnings ++ findings
        planningConsultationRound := s.planningConsultationRound + 1
        planningConsultations := s.planningConsultations ++ [{
          roundIndex := s.planningConsultationRound + 1
          plannerQuestionSha256 := ((plannerQuestionRef s).map Decision.sha256).getD ""
          devAnswerSha256 := decisionFileSha env (resultDict env value)
          recordedAt := w.now }]
        stageLog := appendLog w s .planningPhase
          (consultNote (s.planningConsultationRound + 1)
            (resultAnswer env (resultDict env value)))
        updatedAt := w.now
        pendingGuardRetry := pending }
  /-- An accepted result of a developer. -/
  | dev {subtask : SubtaskSpec} {findings : List GuardWarning}
      {artifacts : Dict String ArtifactRef} {pending : Option GuardRetryPending} :
      currentSubtask s = some subtask →
      Passes env w (devTarget subtask) s value findings artifacts →
      Returns w s value .devSubtaskDispatch { s with
        decisions := s.decisions ++ [resultRecord env w value
          s!"DEV_PHASE subtask {subtask.taskId} dispatch result" s!"d_dev_{subtask.taskId}"]
        warnings := s.warnings ++ findings
        artifacts := s.artifacts.merge artifacts
        subtaskResults := s.subtaskResults.insert subtask.taskId
          (devPartial env (resultDict env value))
        stageLog := appendLog w s .devPhase
          s!"dev-subtask-{subtask.taskId}-dispatched:{resultAnswer env (resultDict env value)}"
        updatedAt := w.now
        pendingGuardRetry := pending }
  /-- An accepted review of a subtask. -/
  | codex {subtask : SubtaskSpec} {findings : List GuardWarning}
      {artifacts : Dict String ArtifactRef} {reasons : List String}
      {pending : Option GuardRetryPending} :
      currentSubtask s = some subtask →
      Passes env w (codexTarget subtask) s value findings artifacts →
      env.makeReasons (reviewReasons (resultDict env value)) = .ok reasons →
      Returns w s value .devCodexReview { s with
        decisions := s.decisions ++ [resultRecord env w value
          s!"DEV_PHASE subtask {subtask.taskId} codex_review result" s!"d_codex_{subtask.taskId}"]
        warnings := s.warnings ++ findings
        subtaskResults := s.subtaskResults.insert subtask.taskId
          (codexMerged env (s.subtaskResults.getD subtask.taskId
            { devStatus := "", devHandoffNote := "", devDecisionSha256 := "" })
            (resultDict env value) reasons)
        stageLog := appendLog w s .devPhase
          (reviewedNote subtask.taskId (reviewPassed (resultDict env value)))
        updatedAt := w.now
        pendingGuardRetry := pending }
  /-- A DEV node that finds no current subtask. -/
  | noCurrent {n : Node} {note : String} :
      n = .devSubtaskDispatch ∧ note = "dev-subtask-dispatch:no-current" ∨
        n = .devCodexReview ∧ note = "codex-review:no-current" →
      currentSubtask s = none → Returns w s value n (noCurrent w s note)
  /-- An accepted review by `rev_agent`. -/
  | rev {t : Target} {findings : List GuardWarning} {artifacts : Dict String ArtifactRef}
      {summary : PhaseSummary} {claim : GateResult} {pending : Option GuardRetryPending} :
      Node.revDispatch.target s = some t → Passes env w t s value findings artifacts →
      ConsumesReview env value "Gate 3 - rev_agent" summary claim →
      Returns w s value .revDispatch { s with
        decisions := s.decisions ++
          [resultRecord env w value "REV_PHASE rev_agent dispatch result" "d_rev_agent"]
        warnings := s.warnings ++ findings
        artifacts := s.artifacts.merge artifacts
        phaseSummaries := s.phaseSummaries.insert Stage.revPhase.value summary
        gateResults := s.gateResults.insert "Gate 3 - rev_agent" claim
        stageLog := appendLog w s .revPhase
          s!"rev-agent-dispatched:{resultAnswer env (resultDict env value)}"
        updatedAt := w.now
        pendingGuardRetry := pending }
  /-- An accepted final review. -/
  | codexFinal {t : Target} {findings : List GuardWarning} {artifacts : Dict String ArtifactRef}
      {summary : PhaseSummary} {claim : GateResult} {pending : Option GuardRetryPending} :
      Node.revCodexFinal.target s = some t → Passes env w t s value findings artifacts →
      ConsumesReview env value "Gate 3" summary claim →
      Returns w s value .revCodexFinal { s with
        stage := .gate3
        decisions := s.decisions ++
          [resultRecord env w value "REV_PHASE codex_final dispatch result" "d_codex_final"]
        warnings := s.warnings ++ findings
        phaseSummaries := s.phaseSummaries.insert "REV_PHASE_CODEX" summary
        gateResults := s.gateResults.insert "Gate 3" claim
        stageLog := appendLog w s .revPhase
          (codexFinalNote (resultAnswer env (resultDict env value)) claim.passed)
        updatedAt := w.now
        pendingGuardRetry := pending }
  /-- A gate that approves or is rejected. -/
  | answered {gate : Gate} {nextStage : Stage} {note : String} :
      gateAnswer env value ∈ gate.options → gateAnswer env value ∉ rollbacks →
      gateAnswer env value ≠ "continue_planning" →
      (note = s!"{gate.label}-approved" ∨
        note = s!"{gate.label}-rejected:{gateAnswer env value}") →
      Returns w s value gate.node
        (gateReturn w s gate (gateRecord env w gate value) nextStage note)
  /-- A gate that blocks on an answer it does not allow, or on a hint it cannot
  read. -/
  | refused {gate : Gate} {checkId : CheckId} {detail : Detail} {note : String} :
      (gateAnswer env value ∈ gate.options → gateAnswer env value = "continue_planning") →
      (note = s!"{gate.label}-invalid-answer:{gateAnswer env value}" ∨
        ∃ why : String, note = s!"gate-1-5-continue-rejected:{why}") →
      Returns w s value gate.node
        (gateRefuse w s gate (gateRecord env w gate value) checkId detail note)
  /-- A rollback to PM or to the planning. -/
  | rolledBack {gate : Gate} {phase : Stage} {note : String} :
      gateAnswer env value ∈ gate.options → (gateAnswer env value, phase) ∈ rollbackPhases →
      gateAnswer env value ≠ "rollback_to_dev" →
      (∃ why : String, note = s!"{gate.label}-rollback-{why}") →
      Returns w s value gate.node
        (gateRollback w s gate (gateRecord env w gate value) phase note)
  /-- A rollback to DEV, which clears the results. -/
  | rolledBackToDev :
      gateAnswer env value = "rollback_to_dev" →
      Returns w s value .gate3
        { gateRollback w s .gate3 (gateRecord env w .gate3 value) .devPhase
            "gate-3-rollback-to-dev" with
          subtaskResults := ∅
          currentSubtaskIndex := -1 }
  /-- A new round of consultations. -/
  | continued {ref : MsgRef} :
      gateAnswer env value = "continue_planning" →
      Returns w s value .gate15
        { gateReturn w s .gate15 (gateRecord env w .gate15 value) .planningPhase
            s!"gate-1-5-continue-planning:hint_sha={shaPrefix ref.sha256}" with
          userPlanningHints := s.userPlanningHints ++ [ref]
          planningConsultationRound := 0 }
  /-- The DEV loop enters a subtask. -/
  | loopNext {taskId : String} :
      s.currentSubtaskIndex + 1 < s.subtasks.length →
      Returns w s value .devLoopRouter { s with
        currentSubtaskIndex := s.currentSubtaskIndex + 1
        stageLog := appendLog w s .devPhase s!"dev-loop:enter-subtask-{taskId}"
        updatedAt := w.now }
  /-- The DEV loop is through. -/
  | loopExit :
      s.subtasks.length ≤ s.currentSubtaskIndex + 1 →
      Returns w s value .devLoopRouter { s with
        stage := .gate2
        phaseSummaries := s.phaseSummaries.insert Stage.devPhase.value (devPhaseSummary s)
        gateResults := s.gateResults.insert "Gate 2" (gate2Result s)
        currentSubtaskIndex := -1
        stageLog := appendLog w s .devPhase (loopExitNote s)
        updatedAt := w.now }

/-! ### Every return is one of them -/

variable {env} {w : World} {s s' : WorkflowState} {value : Json}

/-- Clearing a consumed retry changes what is pending and nothing else. -/
theorem exists_clearPending (p : Option GuardRetryPending) (s : WorkflowState) :
    ∃ pending, clearPending p s = { s with pendingGuardRetry := pending } := by
  unfold clearPending
  split
  · exact ⟨none, rfl⟩
  · exact ⟨s.pendingGuardRetry, rfl⟩

theorem exists_of_consumeSubagentResult {stage : Stage} {gateName question idDefault : String}
    {consumed : Consumed}
    (h : consumeSubagentResult env w s value stage gateName question idDefault = .ok consumed) :
    ∃ summary claim, Consumes env value gateName summary claim ∧
      consumed = consumedOf env w s value stage gateName question idDefault summary claim := by
  unfold consumeSubagentResult at h
  simp only [bind_eq_ok] at h
  obtain ⟨summary, hsummary, claim, hclaim, h⟩ := h
  cases h
  exact ⟨summary, claim, ⟨hsummary, hclaim⟩, rfl⟩

/-- A dispatch node returns the update of the guard, or what it makes of an
accepted result. -/
theorem returns_of_dispatch {n : Node} {t : Target}
    {accept : List GuardWarning → Dict String ArtifactRef → Except PyError WorkflowState}
    (ht : n.target s = some t)
    (h : dispatchNode env w s t.stage t.subagent t.expectedArtifacts value accept = .ok s')
    (hacc : ∀ findings artifacts s'' pending, Passes env w t s value findings artifacts →
      accept findings artifacts = .ok s'' →
      Returns env w s value n { s'' with pendingGuardRetry := pending }) :
    Returns env w s value n s' := by
  obtain ⟨findings, artifacts, hg, hout | ⟨hsev, s'', hs'', rfl⟩⟩ := dispatchNode_cases env w h
  · have hsev := (handleGuardOutcome_cases w hout).1
    exact .guard ht ⟨⟨artifacts, hg⟩, hsev⟩ hout
  · obtain ⟨pending, hclear⟩ :=
      exists_clearPending (consumePendingRetry s t.stage t.subagent) s''
    rw [hclear]
    exact hacc findings artifacts s'' pending ⟨hg, hsev⟩ hs''

theorem returns_pmPhase (h : pmPhaseNode env w s value = .ok s') :
    Returns env w s value .pmPhase s' := by
  refine returns_of_dispatch rfl h ?_
  intro findings artifacts s'' pending hpass hs''
  simp only [bind_eq_ok] at hs''
  obtain ⟨consumed, hc, hs''⟩ := hs''
  obtain ⟨summary, claim, hcons, rfl⟩ := exists_of_consumeSubagentResult hc
  cases hs''
  exact .pm rfl hpass hcons

theorem returns_planningPhase (h : planningPhaseNode env w s value = .ok s') :
    Returns env w s value .planningPhase s' := by
  refine returns_of_dispatch rfl h ?_
  intro findings artifacts s'' pending hpass hs''
  simp only [bind_eq_ok] at hs''
  obtain ⟨consumed, hc, hs''⟩ := hs''
  obtain ⟨summary, claim, hcons, rfl⟩ := exists_of_consumeSubagentResult hc
  split at hs''
  · cases hs''
    exact .planBlocked rfl hpass hcons
  split at hs''
  · next hask =>
    cases hs''
    have hround : s.planningConsultationRound < maxPlanningConsultations := by
      simpa using hask.2.2
    exact .planAsks rfl hpass hcons hask.1 hask.2.1 hround
  split at hs''
  · cases hs''
    exact .planned rfl hpass hcons (Or.inr ⟨_, rfl⟩)
  · cases hs''
    -- no warning is added to those of the guard
    rw [← List.append_nil (s.warnings ++ findings)]
    exact .planned rfl hpass hcons (Or.inl rfl)

theorem returns_planningDevConsult (h : planningDevConsultNode env w s value = .ok s') :
    Returns env w s value .planningDevConsult s' := by
  refine returns_of_dispatch rfl h ?_
  intro findings artifacts s'' pending hpass hs''
  cases hs''
  exact .consult rfl hpass

theorem returns_devSubtaskDispatch (h : devSubtaskDispatchNode env w s value = .ok s') :
    Returns env w s value .devSubtaskDispatch s' := by
  unfold devSubtaskDispatchNode at h
  split at h
  · next hsub =>
    cases h
    exact .noCurrent (Or.inl ⟨rfl, rfl⟩) hsub
  · next subtask hsub =>
    refine returns_of_dispatch (t := devTarget subtask) (by rw [Node.target, hsub]; rfl) h ?_
    intro findings artifacts s'' pending hpass hs''
    cases hs''
    exact .dev hsub hpass

theorem returns_devCodexReview (h : devCodexReviewNode env w s value = .ok s') :
    Returns env w s value .devCodexReview s' := by
  unfold devCodexReviewNode at h
  split at h
  · next hsub =>
    cases h
    exact .noCurrent (Or.inr ⟨rfl, rfl⟩) hsub
  · next subtask hsub =>
    refine returns_of_dispatch (t := codexTarget subtask) (by rw [Node.target, hsub]; rfl) h ?_
    intro findings artifacts s'' pending hpass hs''
    simp only [bind_eq_ok] at hs''
    obtain ⟨reasons, hreasons, hs''⟩ := hs''
    cases hs''
    exact .codex hsub hpass hreasons

theorem returns_revDispatch (h : revDispatchNode env w s value = .ok s') :
    Returns env w s value .revDispatch s' := by
  refine returns_of_dispatch rfl h ?_
  intro findings artifacts s'' pending hpass hs''
  simp only [bind_eq_ok] at hs''
  obtain ⟨summary, hsummary, claim, hclaim, hs''⟩ := hs''
  cases hs''
  exact .rev rfl hpass ⟨hsummary, hclaim⟩

theorem returns_revCodexFinal (h : revCodexFinalNode env w s value = .ok s') :
    Returns env w s value .revCodexFinal s' := by
  refine returns_of_dispatch rfl h ?_
  intro findings artifacts s'' pending hpass hs''
  simp only [bind_eq_ok] at hs''
  obtain ⟨summary, hsummary, claim, hclaim, hs''⟩ := hs''
  cases hs''
  exact .codexFinal rfl hpass ⟨hsummary, hclaim⟩

theorem returns_devLoopRouter (h : devLoopRouterNode w s = .ok s') :
    Returns env w s value .devLoopRouter s' := by
  unfold devLoopRouterNode at h
  extract_lets nextIndex at h
  split at h
  · next hlt =>
    simp only [bind_eq_ok] at h
    obtain ⟨subtask, -, h⟩ := h
    cases h
    exact .loopNext hlt
  · next hge =>
    cases h
    exact .loopExit (Int.not_lt.mp hge)

/-! ### The gates -/

theorem returns_answered (gate : Gate) {answer note : String} (nextStage : Stage)
    (ha : gateAnswer env value = answer) (hopt : answer ∈ gate.options)
    (hroll : answer ∉ rollbacks) (hcont : answer ≠ "continue_planning")
    (hnote : note = s!"{gate.label}-approved" ∨ note = s!"{gate.label}-rejected:{answer}") :
    Returns env w s value gate.node
      (gateReturn w s gate (gateRecord env w gate value) nextStage note) := by
  subst ha
  exact .answered hopt hroll hcont hnote

theorem returns_rolledBack (gate : Gate) {answer note : String} (phase : Stage)
    (ha : gateAnswer env value = answer) (hopt : answer ∈ gate.options)
    (hphase : (answer, phase) ∈ rollbackPhases) (hdev : answer ≠ "rollback_to_dev")
    (hnote : ∃ why : String, note = s!"{gate.label}-rollback-{why}") :
    Returns env w s value gate.node
      (gateRollback w s gate (gateRecord env w gate value) phase note) := by
  subst ha
  exact .rolledBack hopt hphase hdev hnote

theorem returns_refused (gate : Gate) (checkId : CheckId) (detail : Detail) {note : String}
    (hopt : gateAnswer env value ∈ gate.options → gateAnswer env value = "continue_planning")
    (hnote : note = s!"{gate.label}-invalid-answer:{gateAnswer env value}" ∨
      ∃ why : String, note = s!"gate-1-5-continue-rejected:{why}") :
    Returns env w s value gate.node
      (gateRefuse w s gate (gateRecord env w gate value) checkId detail note) :=
  .refused hopt hnote

theorem returns_invalidAnswer (gate : Gate) (hopt : gateAnswer env value ∉ gate.options) :
    Returns env w s value gate.node (gateInvalidAnswerReturn w s gate (gateAnswer env value)
      (gateRecord env w gate value)) :=
  returns_refused gate _ _ (fun h => absurd h hopt) (Or.inl rfl)

theorem returns_continuePlanning (ha : gateAnswer env value = "continue_planning")
    (h : continuePlanning env w s (gateRecord env w .gate15 value) value = .ok s') :
    Returns env w s value .gate15 s' := by
  have hrefused : ∀ (checkId : CheckId) (detail : Detail) (why : String),
      Returns env w s value .gate15 (gateRefuse w s .gate15 (gateRecord env w .gate15 value)
        checkId detail s!"gate-1-5-continue-rejected:{why}") :=
    fun checkId detail why =>
      returns_refused .gate15 checkId detail (fun _ => ha) (Or.inr ⟨why, rfl⟩)
  -- the gate refuses without a path, with a file it cannot use, or records the hint
  unfold continuePlanning at h
  extract_lets userHintPath at h
  split at h
  · cases h
    exact hrefused _ _ "no-user-hint-path"
  split at h
  · cases h
    exact hrefused _ _ "unreadable-hint"
  · cases h
  split at h
  · cases h
    exact hrefused _ _ "hint-too-large"
  split at h
  · cases h
    exact hrefused _ _ "unreadable-hint"
  · cases h
  split at h
  · cases h
    exact hrefused _ _ "hint-not-utf8"
  · cases h
    exact .continued ha

theorem returns_rejected (gate : Gate) {answer : String} (ha : gateAnswer env value = answer)
    (hopt : answer ∈ gate.options) (hreject : answer = "reject") :
    Returns env w s value gate.node (gateReturn w s gate (gateRecord env w gate value) .blocked
      s!"{gate.label}-rejected:{answer}") :=
  returns_answered gate .blocked ha hopt (by rw [hreject]; decide) (by rw [hreject]; decide)
    (Or.inr rfl)

theorem returns_gate1 (h : gate1Node env w s value = .ok s') :
    Returns env w s value .gate1 s' := by
  obtain ⟨hopt, hh⟩ | ⟨hopt, rfl⟩ := gateNode_cases h
  · split at hh
    · next ha =>
      cases hh
      exact returns_answered .gate1 .planningPhase ha (by decide) (by decide) (by decide)
        (Or.inl rfl)
    split at hh
    · next ha =>
      cases hh
      exact returns_rolledBack .gate1 .pmPhase ha (by decide) (by decide) (by decide)
        ⟨"to-pm", rfl⟩
    · next hnapprove hnpm =>
      cases hh
      exact returns_rejected .gate1 rfl hopt (by simpa [Gate.options, hnapprove, hnpm] using hopt)
  · exact returns_invalidAnswer .gate1 hopt

theorem returns_gate15 (h : gate15Node env w s value = .ok s') :
    Returns env w s value .gate15 s' := by
  obtain ⟨hopt, hh⟩ | ⟨hopt, rfl⟩ := gateNode_cases h
  · split at hh
    · next ha =>
      cases hh
      exact returns_answered .gate15 .devPhase ha (by decide) (by decide) (by decide) (Or.inl rfl)
    split at hh
    · next ha =>
      cases hh
      exact returns_rolledBack .gate15 .pmPhase ha (by decide) (by decide) (by decide)
        ⟨"to-pm", rfl⟩
    split at hh
    · next ha => exact returns_continuePlanning ha hh
    · next hnapprove hnpm hncont =>
      cases hh
      exact returns_rejected .gate15 rfl hopt
        (by simpa [Gate.options, hnapprove, hnpm, hncont] using hopt)
  · exact returns_invalidAnswer .gate15 hopt

theorem returns_gate2 (h : gate2Node env w s value = .ok s') :
    Returns env w s value .gate2 s' := by
  obtain ⟨hopt, hh⟩ | ⟨hopt, rfl⟩ := gateNode_cases h
  -- approval, the two rollbacks, and what is left of the options: the rejection
  · split at hh
    · next ha =>
      cases hh
      exact returns_answered .gate2 .revPhase ha (by decide) (by decide) (by decide) (Or.inl rfl)
    split at hh
    · next ha =>
      cases hh
      exact returns_rolledBack .gate2 .planningPhase ha (by decide) (by decide) (by decide)
        ⟨"to-planning", rfl⟩
    split at hh
    · next ha =>
      cases hh
      exact returns_rolledBack .gate2 .pmPhase ha (by decide) (by decide) (by decide)
        ⟨"to-pm", rfl⟩
    · next hnapprove hnplan hnpm =>
      cases hh
      exact returns_rejected .gate2 rfl hopt
        (by simpa [Gate.options, hnapprove, hnplan, hnpm] using hopt)
  · exact returns_invalidAnswer .gate2 hopt

theorem returns_gate3 (h : gate3Node env w s value = .ok s') :
    Returns env w s value .gate3 s' := by
  obtain ⟨hopt, hh⟩ | ⟨hopt, rfl⟩ := gateNode_cases h
  -- approval, the rollback to DEV, the other two, and the rejection
  · split at hh
    · next ha =>
      cases hh
      exact returns_answered .gate3 .done ha (by decide) (by decide) (by decide) (Or.inl rfl)
    split at hh
    · next ha =>
      cases hh
      exact .rolledBackToDev ha
    split at hh
    · next ha =>
      cases hh
      exact returns_rolledBack .gate3 .planningPhase ha (by decide) (by decide) (by decide)
        ⟨"to-planning", rfl⟩
    split at hh
    · next ha =>
      cases hh
      exact returns_rolledBack .gate3 .pmPhase ha (by decide) (by decide) (by decide)
        ⟨"to-pm", rfl⟩
    · next hnapprove hndev hnplan hnpm =>
      cases hh
      exact returns_rejected .gate3 rfl hopt
        (by simpa [Gate.options, hnapprove, hndev, hnplan, hnpm] using hopt)
  · exact returns_invalidAnswer .gate3 hopt

/-- **What a node returns is one of its returns.** -/
theorem returns_of_run {n : Node} (h : n.run env w s value = .ok s') :
    Returns env w s value n s' := by
  cases n with
  | init =>
    cases h
    exact .init
  | pmPhase => exact returns_pmPhase h
  | gate1 => exact returns_gate1 h
  | planningPhase => exact returns_planningPhase h
  | planningDevConsult => exact returns_planningDevConsult h
  | gate15 => exact returns_gate15 h
  | devLoopRouter => exact returns_devLoopRouter h
  | devSubtaskDispatch => exact returns_devSubtaskDispatch h
  | devCodexReview => exact returns_devCodexReview h
  | gate2 => exact returns_gate2 h
  | revDispatch => exact returns_revDispatch h
  | revCodexFinal => exact returns_revCodexFinal h
  | gate3 => exact returns_gate3 h

/-! ### The returns of a step -/

/-- What the execution of an event sees of the clock and the file system. -/
def Event.world : Event → World
  | tick w => w
  | resume w _ => w

/-- The value `interrupt` returned, if there was an interrupt. -/
def Event.resumed : Event → Json
  | tick _ => .null
  | resume _ value => value

/-- **A step of the graph is a return of its node**, left by one of its edges.  A
node that interrupted is left on a resumed value. -/
theorem returns_of_advance {c c' : Config} {e : Event} (h : advance env c e = some c') :
    ∃ n, c.node = some n ∧ Returns env e.world c.state e.resumed n c'.state ∧
      n.successor c'.state = some c'.node ∧
      ((n.payload env c.state).isSome → e = .resume e.world e.resumed) := by
  -- a run that has ended moves no more
  obtain ⟨_ | n, s⟩ := c
  · simp [advance] at h
  -- a tick and a resume leave a node alike
  have hleave : ∀ {w value}, n.leave (n.run env w s value) = some c' →
      Returns env w s value n c'.state ∧ n.successor c'.state = some c'.node := by
    intro w value h
    obtain ⟨s', next, hs', hnext, rfl⟩ := leave_eq_some_iff.mp h
    exact ⟨returns_of_run hs', hnext⟩
  refine ⟨n, rfl, ?_⟩
  simp only [advance] at h
  split at h
  · next w hp =>
    obtain ⟨hret, hnext⟩ := hleave h
    exact ⟨hret, hnext, by simp [hp]⟩
  · next w value hp =>
    obtain ⟨hret, hnext⟩ := hleave h
    exact ⟨hret, hnext, fun _ => rfl⟩
  · cases h

end Returns

end Shrimp
