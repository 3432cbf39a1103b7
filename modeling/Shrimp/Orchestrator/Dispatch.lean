import Shrimp.Orchestrator.Guard

/-!
# The dispatch nodes

The seven nodes that hand work to a subagent, and the router of the DEV loop
between them.  Each is given the value its `interrupt` returned and yields the
state after the fields of its update have been replaced.

## Main definitions

* `auditDecision` — the audit record of a dispatch.
* `consumeSubagentResult` — summary, gate claim and audit record of a result.
* `pmPhaseNode`, `planningPhaseNode`, `planningDevConsultNode`,
  `devSubtaskDispatchNode`, `devCodexReviewNode`, `revDispatchNode`,
  `revCodexFinalNode` — the dispatch nodes.
* `devLoopRouterNode` — the DEV loop: the next subtask, or the aggregate for
  Gate 2.
-/

namespace Shrimp

section Dispatch

variable (env : Env) (w : World)

/-! ### Reading a result -/

/-- `if not isinstance(result, dict): result = {"status": str(result)}`. -/
def resultDict (result : Json) : Obj :=
  result.asDict.getD (Dict.ofList [("status", .str (result.pyStr env.isPrintable))])

/-- `str(result.get("status", "done"))`. -/
def resultAnswer (d : Obj) : String := env.getStr d "status" "done"

/-- `str(x.get("_decision_file_sha256", ""))`. -/
def decisionFileSha (d : Obj) : String := env.getStr d "_decision_file_sha256" ""

/-- `str(x.get("_decision_file_path", "")) or None`. -/
def decisionFilePath (d : Obj) : Option String :=
  let path := env.getStr d "_decision_file_path" ""
  if path = "" then none else some path

/-- An audit `Decision`, pinned to its decision file when the file has a hash
and to the answer otherwise. -/
def makeDecision (d : Obj) (question answer idDefault : String) : Decision where
  decisionId := env.getStr d "decision_id" idDefault
  question := question
  answer := answer
  sha256 := if decisionFileSha env d = "" then env.sha256 answer else decisionFileSha env d
  decidedAt := w.now
  filePath := decisionFilePath env d

/-- The audit `Decision` of a dispatch. -/
def auditDecision (d : Obj) (question idDefault : String) : Decision :=
  makeDecision env w d question (resultAnswer env d) idDefault

/-- What `_consume_subagent_result` returns. -/
structure Consumed where
  decisions : List Decision
  phaseSummaries : Dict String PhaseSummary
  gateResults : Dict String GateResult
  auditAnswer : String

/-- The gate claim as `_consume_subagent_result` parses it: any truthy
`gate_result` is expected to be a dictionary. -/
def parseGateClaim (d : Obj) (gateName : String) : Except PyError GateResult :=
  match (d.getOrEmpty "gate_result").asDict with
  | none => .error .attributeError
  | some gate => do
    let name := env.getStr gate "name" gateName
    let passed := gate.getBool "passed"
    let reasons ← (gate.getD "reasons" (.arr [])).pyList
    return { name := name, passed := passed, reasons := ← env.makeReasons reasons }

/-- `_consume_subagent_result`. -/
def consumeSubagentResult (s : WorkflowState) (result : Json) (stage : Stage)
    (gateName auditQuestion auditIdDefault : String) : Except PyError Consumed := do
  let d := resultDict env result
  let phaseSummary ← env.phaseSummaryOf (d.getOrEmpty "phase_summary")
  let gateResult ← parseGateClaim env d gateName
  return {
    decisions := s.decisions ++ [auditDecision env w d auditQuestion auditIdDefault]
    phaseSummaries := s.phaseSummaries.insert stage.value phaseSummary
    gateResults := s.gateResults.insert gateName gateResult
    auditAnswer := resultAnswer env d }

/-- `raw_gate.get("passed", False)` where `raw_gate` is a dictionary, as the
review nodes read it. -/
def reviewPassed (d : Obj) : Bool :=
  match (d.getOrEmpty "gate_result").asDict with
  | some gate => gate.getBool "passed"
  | none => false

/-- `raw_gate["reasons"]` where `raw_gate` is a dictionary and the reasons are a
list, as the review nodes read them. -/
def reviewReasons (d : Obj) : List Json :=
  match (d.getOrEmpty "gate_result").asDict with
  | some gate => ((gate.get? "reasons").bind Json.asList).getD []
  | none => []

/-- The gate claim as the REV nodes parse it: anything but a dictionary is a
claim that did not pass. -/
def parseReviewClaim (d : Obj) (gateName : String) : Except PyError GateResult := do
  let name :=
    match (d.getOrEmpty "gate_result").asDict with
    | some gate => env.getStr gate "name" gateName
    | none => gateName
  return { name := name, passed := reviewPassed d, reasons := ← env.makeReasons (reviewReasons d) }

/-- `str(raw_phase.get("handoff_note", ""))` where `raw_phase` is a
dictionary. -/
def handoffNote (d : Obj) : String :=
  match (d.getOrEmpty "phase_summary").asDict with
  | some phase => env.getStr phase "handoff_note" ""
  | none => ""

/-! ### PM -/

/-- `pm_phase_node`. -/
def pmPhaseNode (s : WorkflowState) (result : Json) : Except PyError WorkflowState :=
  dispatchNode env w s .pmPhase "pm_agent" ["pm_spec", "pm_risks"] result
    fun allFindings verifiedArtifacts => do
      let consumed ← consumeSubagentResult env w s result .pmPhase "Gate 1"
        "PM_PHASE subagent_dispatch result" "d_pm_dispatch"
      return { s with
        stage := .gate1
        decisions := consumed.decisions
        phaseSummaries := consumed.phaseSummaries
        gateResults := consumed.gateResults
        warnings := s.warnings ++ allFindings
        artifacts := s.artifacts.merge verifiedArtifacts
        stageLog := appendLog w s .pmPhase s!"pm-dispatch:{consumed.auditAnswer}"
        updatedAt := w.now }

/-! ### Planning -/

/-- The loop of `_parse_subtask_plan`: blank and repeated identifiers are
skipped. -/
def parseSubtaskItems : List Json → List String → List SubtaskSpec
  | [], _ => []
  | item :: rest, seen =>
    match item.asDict with
    | none => parseSubtaskItems rest seen
    | some d =>
      if d.contains "task_id" then
        let tid := strip (env.getStr d "task_id" "")
        if tid = "" ∨ tid ∈ seen then parseSubtaskItems rest seen
        else
          { taskId := tid
            title := env.getStr d "title" ""
            description := env.getStr d "description" "" } :: parseSubtaskItems rest (tid :: seen)
      else parseSubtaskItems rest seen

/-- `_parse_subtask_plan`. -/
def parseSubtaskPlan (result : Json) : List SubtaskSpec :=
  match (result.asDict.bind fun d => d.get? "subtask_plan").bind Json.asList with
  | some items => parseSubtaskItems env items []
  | none => []

/-- Did the planner attach a question for the developer? -/
def hasConsultation (d : Obj) : Bool :=
  match (d.get? "dev_consultation").bind Json.asDict with
  | some c => strip (env.getStr c "question" "") != ""
  | none => false

/-- The update of an accepted planner result, up to the branch it takes. -/
def planningReturn (s : WorkflowState) (consumed : Consumed)
    (verifiedArtifacts : Dict String ArtifactRef) (stage : Stage) (warnings : List GuardWarning)
    (note : String) : WorkflowState :=
  { s with
    stage := stage
    decisions := consumed.decisions
    phaseSummaries := consumed.phaseSummaries
    gateResults := consumed.gateResults
    warnings := warnings
    artifacts := s.artifacts.merge verifiedArtifacts
    stageLog := appendLog w s .planningPhase note
    updatedAt := w.now }

/-- `planning_phase_node`. -/
def planningPhaseNode (s : WorkflowState) (result : Json) : Except PyError WorkflowState :=
  dispatchNode env w s .planningPhase "planner" ["plan", "task_list"] result
    fun allFindings verifiedArtifacts => do
      let consumed ← consumeSubagentResult env w s result .planningPhase "Gate 1.5"
        "PLANNING_PHASE subagent_dispatch result" "d_planning_dispatch"
      let baseWarnings := s.warnings ++ allFindings
      let status := consumed.auditAnswer
      let consultation := (result.asDict.map (hasConsultation env)).getD false
      let roundDone := s.planningConsultationRound
      let exhausted : Bool := maxPlanningConsultations ≤ roundDone
      if status = "blocked" then
        return planningReturn w s consumed verifiedArtifacts .blocked baseWarnings
          "planning-blocked-by-planner"
      else if status = "needs_input" ∧ consultation ∧ !exhausted then
        -- no plan yet: the subtasks and their results stay as they are
        return planningReturn w s consumed verifiedArtifacts .planningPhase baseWarnings
          s!"planning-needs-dev-consult:round={roundDone + 1}/{maxPlanningConsultations}"
      else if status = "needs_input" then
        -- nobody is left to ask, so Gate 1.5 sees the plan as it is
        let extra := if exhausted then
          [guardWarning w .planningPhase "planner" (.planningConsultLimit, .minor, .consultLimit)]
          else []
        return { planningReturn w s consumed verifiedArtifacts .gate15 (baseWarnings ++ extra)
            s!"planning-needs-input-surface-to-gate:exhausted={pyBool exhausted}" with
          subtasks := parseSubtaskPlan env result
          currentSubtaskIndex := -1
          subtaskResults := ∅ }
      else
        return { planningReturn w s consumed verifiedArtifacts .gate15 baseWarnings
            s!"planning-dispatch:{status}" with
          subtasks := parseSubtaskPlan env result
          currentSubtaskIndex := -1
          subtaskResults := ∅ }

/-- The decision the planner's question is referred to by: the latest one, when
it has a file. -/
def plannerQuestionRef (s : WorkflowState) : Option Decision :=
  s.decisions.getLast?.filter fun d => d.filePath.isSome

/-- `planning_dev_consult_node`.  The consultation is read-only: verified
artifacts are dropped. -/
def planningDevConsultNode (s : WorkflowState) (result : Json) : Except PyError WorkflowState :=
  dispatchNode env w s .planningPhase "dev_agent[consult]" [] result
    fun allFindings _ => do
      let nextRoundIndex := s.planningConsultationRound + 1
      let d := resultDict env result
      let answer := resultAnswer env d
      let audit := auditDecision env w d
        s!"PLANNING_PHASE dev_agent consultation round {nextRoundIndex}"
        s!"d_consult_{nextRoundIndex}"
      let record : ConsultationRecord := {
        roundIndex := nextRoundIndex
        plannerQuestionSha256 := ((plannerQuestionRef s).map Decision.sha256).getD ""
        devAnswerSha256 := decisionFileSha env d
        recordedAt := w.now }
      return { s with
        stage := .planningPhase
        decisions := s.decisions ++ [audit]
        warnings := s.warnings ++ allFindings
        planningConsultationRound := nextRoundIndex
        planningConsultations := s.planningConsultations ++ [record]
        stageLog := appendLog w s .planningPhase
          s!"planning-dev-consult:round={nextRoundIndex}/{maxPlanningConsultations} status={answer}"
        updatedAt := w.now }

/-! ### The DEV loop -/

/-- `xs[i]`, counting from the end when `i` is negative. -/
def pyIndex {α : Type*} (xs : List α) (i : ℤ) : Except PyError α :=
  match xs[(if i < 0 then xs.length + i else i).toNat]? with
  | some x => if -xs.length ≤ i then .ok x else .error .indexError
  | none => .error .indexError

/-- The open issue of a failed review without reasons. -/
def noReasonIssue (sid : String) : String :=
  s!"subtask {sid} codex review failed (no reasons given)"

/-- The open issue of one reason of a failed review. -/
def reasonIssue (sid reason : String) : String := s!"subtask {sid} codex review failed: {reason}"

/-- The loop that collects the open issues of the aggregate. -/
def collectOpenIssues : List (String × SubtaskResult) → List String → List String
  | [], issues => issues
  | (sid, r) :: rest, issues =>
    if r.reviewPassed then collectOpenIssues rest issues
    else if r.reviewReasons.isEmpty then collectOpenIssues rest (issues ++ [noReasonIssue sid])
    else collectOpenIssues rest (issues ++ r.reviewReasons.map (reasonIssue sid))

/-- `all(r.review_passed for r in state.subtask_results.values())`. -/
def allPassed (s : WorkflowState) : Bool := s.subtaskResults.values.all SubtaskResult.reviewPassed

/-- The synthetic summary of the DEV phase. -/
def devPhaseSummary (s : WorkflowState) : PhaseSummary where
  decisions := s.subtaskResults.entries.map fun e =>
    s!"subtask {e.1}: dev_status={e.2.devStatus} review_passed={pyBool e.2.reviewPassed}"
  openIssues := collectOpenIssues s.subtaskResults.entries []
  risks := []
  handoffNote :=
    s!"DEV done (synthetic); {s.subtaskResults.entries.length}/{s.subtasks.length} " ++
      s!"subtasks reviewed, all_passed={pyBool (allPassed s)}"

/-- The synthetic gate claim of Gate 2. -/
def gate2Result (s : WorkflowState) : GateResult where
  name := "Gate 2"
  passed := allPassed s
  reasons := if allPassed s then [] else
    (s.subtaskResults.entries.filter fun e => !e.2.reviewPassed).map fun e =>
      s!"subtask {e.1} codex review failed"

/-- `dev_loop_router_node`. -/
def devLoopRouterNode (s : WorkflowState) : Except PyError WorkflowState :=
  let nextIndex := s.currentSubtaskIndex + 1
  if nextIndex < s.subtasks.length then do
    let next ← pyIndex s.subtasks nextIndex
    return { s with
      currentSubtaskIndex := nextIndex
      stageLog := appendLog w s .devPhase s!"dev-loop:enter-subtask-{next.taskId}"
      updatedAt := w.now }
  else
    return { s with
      stage := .gate2
      phaseSummaries := s.phaseSummaries.insert Stage.devPhase.value (devPhaseSummary s)
      gateResults := s.gateResults.insert "Gate 2" (gate2Result s)
      currentSubtaskIndex := -1
      stageLog := appendLog w s .devPhase
        (s!"dev-loop:exit subtasks_done={s.subtaskResults.entries.length}/{s.subtasks.length} " ++
          s!"all_passed={pyBool (allPassed s)}")
      updatedAt := w.now }

/-- The partial result `dev_subtask_dispatch_node` stores. -/
def devPartial (d : Obj) : SubtaskResult where
  devStatus := resultAnswer env d
  devHandoffNote := handoffNote env d
  devDecisionSha256 := decisionFileSha env d

/-- The update of a DEV node that finds no current subtask. -/
def noCurrent (s : WorkflowState) (note : String) : WorkflowState :=
  { s with
    stageLog := appendLog w s .devPhase note
    updatedAt := w.now }

/-- `dev_subtask_dispatch_node`. -/
def devSubtaskDispatchNode (s : WorkflowState) (result : Json) : Except PyError WorkflowState :=
  match currentSubtask s with
  | none => .ok (noCurrent w s "dev-subtask-dispatch:no-current")
  | some subtask =>
    dispatchNode env w s .devPhase s!"dev_agent[{subtask.taskId}]"
      ["dev_summary", "dev_self_check", "dev_changed_files"] result
      fun allFindings verifiedArtifacts =>
        let d := resultDict env result
        .ok { s with
          decisions := s.decisions ++ [auditDecision env w d
            s!"DEV_PHASE subtask {subtask.taskId} dispatch result" s!"d_dev_{subtask.taskId}"]
          warnings := s.warnings ++ allFindings
          artifacts := s.artifacts.merge verifiedArtifacts
          subtaskResults := s.subtaskResults.insert subtask.taskId (devPartial env d)
          stageLog := appendLog w s .devPhase
            s!"dev-subtask-{subtask.taskId}-dispatched:{resultAnswer env d}"
          updatedAt := w.now }

/-- The result `dev_codex_review_node` stores, over the developer's part. -/
def codexMerged (priorDev : SubtaskResult) (d : Obj) (reasons : List String) : SubtaskResult where
  devStatus := priorDev.devStatus
  devHandoffNote := priorDev.devHandoffNote
  devDecisionSha256 := priorDev.devDecisionSha256
  codexStatus := resultAnswer env d
  codexHandoffNote := handoffNote env d
  codexDecisionSha256 := decisionFileSha env d
  reviewPassed := reviewPassed d
  reviewReasons := reasons

/-- `dev_codex_review_node`.  The review is read-only: verified artifacts are
dropped. -/
def devCodexReviewNode (s : WorkflowState) (result : Json) : Except PyError WorkflowState :=
  match currentSubtask s with
  | none => .ok (noCurrent w s "codex-review:no-current")
  | some subtask =>
    dispatchNode env w s .devPhase s!"codex_reviewer[{subtask.taskId}]" [] result
      fun allFindings _ => do
        let d := resultDict env result
        let priorDev := s.subtaskResults.getD subtask.taskId
          { devStatus := "", devHandoffNote := "", devDecisionSha256 := "" }
        let reasons ← env.makeReasons (reviewReasons d)
        return { s with
          decisions := s.decisions ++ [auditDecision env w d
            s!"DEV_PHASE subtask {subtask.taskId} codex_review result" s!"d_codex_{subtask.taskId}"]
          warnings := s.warnings ++ allFindings
          subtaskResults := s.subtaskResults.insert subtask.taskId
            (codexMerged env priorDev d reasons)
          stageLog := appendLog w s .devPhase
            s!"dev-subtask-{subtask.taskId}-reviewed:passed={pyBool (reviewPassed d)}"
          updatedAt := w.now }

/-! ### REV -/

/-- `rev_dispatch_node`. -/
def revDispatchNode (s : WorkflowState) (result : Json) : Except PyError WorkflowState :=
  dispatchNode env w s .revPhase "rev_agent" ["rev_report", "acceptance_checklist"] result
    fun allFindings verifiedArtifacts => do
      let d := resultDict env result
      let phaseSummary ← env.phaseSummaryOf (d.getOrEmpty "phase_summary")
      let gateClaim ← parseReviewClaim env d "Gate 3 - rev_agent"
      return { s with
        decisions := s.decisions ++ [auditDecision env w d
          "REV_PHASE rev_agent dispatch result" "d_rev_agent"]
        warnings := s.warnings ++ allFindings
        artifacts := s.artifacts.merge verifiedArtifacts
        phaseSummaries := s.phaseSummaries.insert Stage.revPhase.value phaseSummary
        gateResults := s.gateResults.insert "Gate 3 - rev_agent" gateClaim
        stageLog := appendLog w s .revPhase s!"rev-agent-dispatched:{resultAnswer env d}"
        updatedAt := w.now }

/-- `rev_codex_final_node`.  The review is read-only: verified artifacts are
dropped. -/
def revCodexFinalNode (s : WorkflowState) (result : Json) : Except PyError WorkflowState :=
  dispatchNode env w s .revPhase "codex_final" [] result
    fun allFindings _ => do
      let d := resultDict env result
      let phaseSummary ← env.phaseSummaryOf (d.getOrEmpty "phase_summary")
      let gate3 ← parseReviewClaim env d "Gate 3"
      return { s with
        stage := .gate3
        decisions := s.decisions ++ [auditDecision env w d
          "REV_PHASE codex_final dispatch result" "d_codex_final"]
        warnings := s.warnings ++ allFindings
        phaseSummaries := s.phaseSummaries.insert "REV_PHASE_CODEX" phaseSummary
        gateResults := s.gateResults.insert "Gate 3" gate3
        stageLog := appendLog w s .revPhase
          s!"codex-final-dispatched:{resultAnswer env d} passed={pyBool gate3.passed}"
        updatedAt := w.now }

end Dispatch

end Shrimp
