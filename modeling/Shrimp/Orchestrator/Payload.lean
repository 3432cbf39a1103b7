import Shrimp.Orchestrator.Gates

/-!
# What the nodes show

The payload each node hands to `interrupt`: the dispatch of a subagent or the
question of a gate, with everything of the state it quotes.  The entry node,
which shows nothing, fills in the artifact paths and the built-in permission
policies the payloads quote.

## Main definitions

* `defaultArtifactPaths`, `defaultPolicies`, `initNode` — the entry node.
* `dispatchPayload`, `gatePayload` — the two shapes of a payload.
* `pmPhasePayload` … `gate3Payload` — the payload of each node.

## Main results

* `guardFailureHint_dispatchPayload` — a dispatch carries the hint of the
  pending retry it consumes.
-/

namespace Shrimp

/-! ### The entry node -/

/-- The directory artifacts live under. -/
def artifactBase (workflowId baseDir : String) : String :=
  if baseDir = "" then s!"shrimp/workflows/{workflowId}" else baseDir

/-- `_default_artifact_paths`. -/
def defaultArtifactPaths (workflowId baseDir : String) : Dict String String :=
  let base := artifactBase workflowId baseDir
  Dict.ofList [
    ("raw_requirement", s!"{base}/raw_requirement.md"),
    ("pm_spec", s!"{base}/artifacts/pm/spec.md"),
    ("pm_risks", s!"{base}/artifacts/pm/risks.md"),
    ("plan", s!"{base}/artifacts/plan/plan.md"),
    ("task_list", s!"{base}/artifacts/plan/task_list.md"),
    ("planning_discussion", s!"{base}/artifacts/plan/discussion.md"),
    ("dev_summary", s!"{base}/artifacts/dev/summary.md"),
    ("dev_self_check", s!"{base}/artifacts/dev/self_check.md"),
    ("dev_changed_files", s!"{base}/artifacts/dev/changed_files.txt"),
    ("rev_report", s!"{base}/artifacts/rev/report.md"),
    ("acceptance_checklist", s!"{base}/artifacts/rev/acceptance_checklist.md")]

/-- The policy of a phase that writes its own artifacts and nothing else. -/
def writerPolicy (base phase : String) : PolicyConfig where
  allowSilent := ["Read(**)", "Glob(**)", "Grep(**)", s!"Write({base}/artifacts/{phase}/**)",
    s!"Edit({base}/artifacts/{phase}/**)"]
  deny := ["Bash(**)", "Write(src/**)", "Edit(src/**)", "Write(/etc/**)", "Write(/usr/**)"]
  askUser := []
  defaultAction := "deny"

/-- The policy of a dispatch that only reads. -/
def readOnlyPolicy : PolicyConfig where
  allowSilent := ["Read(**)", "Glob(**)", "Grep(**)"]
  deny := ["Bash(**)", "Edit(**)", "Write(**)"]
  askUser := []
  defaultAction := "deny"

/-- The policy of the DEV phase. -/
def devPolicy (base : String) : PolicyConfig where
  allowSilent := ["Read(**)", "Glob(**)", "Grep(**)", "Edit(src/**)", "Write(src/**)",
    "Write(tests/**)", "Edit(tests/**)", s!"Write({base}/artifacts/dev/**)", "Bash(npm test*)",
    "Bash(pytest*)", "Bash(cargo test*)", "Bash(go test*)", "Bash(make test*)",
    "Bash(make build*)", "Bash(git add *)", "Bash(git commit *)", "Bash(git status)",
    "Bash(git diff*)"]
  deny := ["Bash(rm -rf *)", "Bash(sudo *)", "Bash(git push --force*)", "Bash(git push * main*)",
    "Bash(git push * master*)", "Bash(curl *)", "Bash(wget *)", "Bash(pip install *)",
    "Bash(npm install *)", "Bash(npm publish*)", "Write(/etc/**)", "Write(/usr/**)",
    "Write(~/.ssh/**)"]
  askUser := []
  defaultAction := "allow_silent"

/-- The policy of the REV phase. -/
def revPolicy (base : String) : PolicyConfig where
  allowSilent := ["Read(**)", "Glob(**)", "Grep(**)", s!"Write({base}/artifacts/rev/**)",
    s!"Edit({base}/artifacts/rev/**)", "Bash(git diff*)", "Bash(git log*)", "Bash(git status)"]
  deny := ["Bash(rm -rf *)", "Bash(sudo *)", "Bash(git push*)", "Bash(curl *)", "Bash(wget *)",
    "Bash(pip install *)", "Bash(npm install *)", "Edit(src/**)", "Write(src/**)",
    "Edit(tests/**)", "Write(tests/**)", "Write(/etc/**)", "Write(/usr/**)"]
  askUser := []
  defaultAction := "deny"

/-- `_default_policies`. -/
def defaultPolicies (workflowId baseDir : String) : Dict String PolicyConfig :=
  let base := artifactBase workflowId baseDir
  Dict.ofList [
    (Stage.pmPhase.value, writerPolicy base "pm"),
    (Stage.planningPhase.value, writerPolicy base "plan"),
    ("CODEX_REVIEW", readOnlyPolicy),
    ("PLANNING_DEV_CONSULT", readOnlyPolicy),
    (Stage.devPhase.value, devPolicy base),
    (Stage.revPhase.value, revPolicy base)]

/-- `init_node`. -/
def initNode (w : World) (s : WorkflowState) : WorkflowState :=
  { s with
    stage := .pmPhase
    artifactPaths := defaultArtifactPaths s.workflowId s.artifactBaseDir
    permissionPolicies :=
      if s.permissionPolicies.entries.isEmpty then defaultPolicies s.workflowId s.artifactBaseDir
      else s.permissionPolicies
    stageLog := appendLog w s .init "initialized"
    updatedAt := w.now }

/-! ### Records as JSON -/

/-- A natural number as a JSON value. -/
def jsonNat (n : ℕ) : Json := .int n

/-- A dictionary as a JSON value. -/
def jsonDict {α : Type} (f : α → Json) (d : Dict String α) : Json :=
  .obj (d.entries.map fun e => (e.1, f e.2))

/-- `x.model_dump() if x else None`. -/
def dumpOr {α : Type} (dump : α → Json) : Option α → Json
  | some x => dump x
  | none => .null

/-- `MsgRef.model_dump`. -/
def MsgRef.dump (m : MsgRef) : Json := .obj [
  ("msg_id", .str m.msgId), ("sha256", .str m.sha256), ("received_at", .str m.receivedAt),
  ("text_path", .str m.textPath), ("byte_length", jsonNat m.byteLength),
  ("char_length", jsonNat m.charLength)]

/-- `PhaseSummary.model_dump`. -/
def PhaseSummary.dump (ps : PhaseSummary) : Json := .obj [
  ("decisions", .strs ps.decisions), ("open_issues", .strs ps.openIssues),
  ("risks", .strs ps.risks), ("handoff_note", .str ps.handoffNote)]

/-- `GateResult.model_dump`. -/
def GateResult.dump (g : GateResult) : Json := .obj [
  ("name", .str g.name), ("passed", .bool g.passed), ("reasons", .strs g.reasons)]

/-- `SubtaskSpec.model_dump`. -/
def SubtaskSpec.dump (t : SubtaskSpec) : Json := .obj [
  ("task_id", .str t.taskId), ("title", .str t.title), ("description", .str t.description)]

/-- `SubtaskResult.model_dump`. -/
def SubtaskResult.dump (r : SubtaskResult) : Json := .obj [
  ("dev_status", .str r.devStatus), ("dev_handoff_note", .str r.devHandoffNote),
  ("dev_decision_sha256", .str r.devDecisionSha256), ("codex_status", .str r.codexStatus),
  ("codex_handoff_note", .str r.codexHandoffNote),
  ("codex_decision_sha256", .str r.codexDecisionSha256),
  ("review_passed", .bool r.reviewPassed), ("review_reasons", .strs r.reviewReasons)]

/-- `ConsultationRecord.model_dump`. -/
def ConsultationRecord.dump (c : ConsultationRecord) : Json := .obj [
  ("round_index", jsonNat c.roundIndex),
  ("planner_question_sha256", .str c.plannerQuestionSha256),
  ("dev_answer_sha256", .str c.devAnswerSha256), ("recorded_at", .str c.recordedAt)]

/-- `PolicyConfig.model_dump`. -/
def PolicyConfig.dump (p : PolicyConfig) : Json := .obj [
  ("allow_silent", .strs p.allowSilent), ("deny", .strs p.deny), ("ask_user", .strs p.askUser),
  ("default_action", .str p.defaultAction)]

section Payloads

variable (env : Env)

/-- `GuardWarning.model_dump`. -/
def GuardWarning.dump (f : GuardWarning) : Json := .obj [
  ("stage", .str f.stage.value), ("subagent", .str f.subagent), ("check_id", .str f.checkId.value),
  ("severity", .str f.severity.value), ("detail", .str (f.detail.text env.isPrintable)),
  ("recorded_at", .str f.recordedAt)]

/-- `GuardRetryPending.model_dump`. -/
def GuardRetryPending.dump (p : GuardRetryPending) : Json := .obj [
  ("stage", .str p.stage.value), ("subagent", .str p.subagent), ("attempt", jsonNat p.attempt),
  ("findings", .arr (p.findings.map (GuardWarning.dump env)))]

variable (s : WorkflowState)

/-- `_phase_summary_dump`. -/
def phaseSummaryDump (key : String) : Json := dumpOr PhaseSummary.dump (s.phaseSummaries.get? key)

/-- The gate claim stored under a name. -/
def gateClaimDump (name : String) : Json := dumpOr GateResult.dump (s.gateResults.get? name)

/-- The results of the subtasks so far. -/
def subtaskResultsDump : Json := jsonDict SubtaskResult.dump s.subtaskResults

/-- The artifact paths. -/
def artifactPathsDump : Json := jsonDict Json.str s.artifactPaths

/-- The hashes of the user's messages. -/
def userMsgSha256s : Json := .strs (s.userMsgs.map MsgRef.sha256)

/-- The members every `input_payload` starts with. -/
def inputHead (stage : Stage) : List (String × Json) :=
  [("workflow_id", .str s.workflowId), ("current_stage", .str stage.value)]

/-! ### Dispatches -/

/-- The shape of a `subagent_dispatch` payload.  `subagent` is the name shown,
`target` the name the guard counts under. -/
def dispatchPayload (stage : Stage) (subagent target skillPath : String)
    (inputPayload : List (String × Json)) (expectedArtifacts : List String) (policyKey : String) :
    Json := .obj [
  ("type", .str "subagent_dispatch"),
  ("stage", .str stage.value),
  ("subagent", .str subagent),
  ("skill_path", .str skillPath),
  ("input_payload", .obj (inputHead s stage ++ inputPayload ++
    [("output_schema", .str "stage-result/v1")])),
  ("expected_output_schema", .str "stage-result/v1"),
  ("expected_artifacts", .strs expectedArtifacts),
  ("permission_policy", dumpOr PolicyConfig.dump (s.permissionPolicies.get? policyKey)),
  ("guard_failure_hint", dumpOr (GuardRetryPending.dump env) (consumePendingRetry s stage target))]

/-- The hint a payload carries. -/
def guardFailureHint : Json → Json
  | .obj ms => (ms.lookup "guard_failure_hint").getD .null
  | _ => .null

/-- **A dispatch carries the hint of the pending retry it consumes.** -/
theorem guardFailureHint_dispatchPayload (stage : Stage) (subagent target skillPath : String)
    (inputPayload : List (String × Json)) (expectedArtifacts : List String)
    (policyKey : String) :
    guardFailureHint (dispatchPayload env s stage subagent target skillPath inputPayload
        expectedArtifacts policyKey) =
      dumpOr (GuardRetryPending.dump env) (consumePendingRetry s stage target) := rfl

/-- The payload of `pm_phase_node`. -/
def pmPhasePayload : Json :=
  dispatchPayload env s .pmPhase "pm_agent" "pm_agent" "shrimp/subagent/pm_agent/SKILL.md" [
    ("raw_requirement_path", dumpOr (fun m => .str m.textPath) s.userMsgs.head?),
    ("raw_requirement_sha256", dumpOr (fun m => .str m.sha256) s.userMsgs.head?),
    ("artifact_paths", artifactPathsDump s),
    ("retry_count", jsonNat s.retryCount),
    ("prev_phase_summary", phaseSummaryDump s "PM_PHASE")]
    ["pm_spec", "pm_risks"] Stage.pmPhase.value

/-- The payload of `planning_phase_node`. -/
def planningPhasePayload : Json :=
  dispatchPayload env s .planningPhase "planner" "planner" "shrimp/subagent/pm_agent/SKILL.md" [
    ("artifact_paths", artifactPathsDump s),
    ("retry_count", jsonNat s.retryCount),
    ("prev_phase_summary", phaseSummaryDump s "PLANNING_PHASE"),
    ("pm_phase_summary", phaseSummaryDump s "PM_PHASE"),
    ("input_artifacts", .strs ["pm_spec", "pm_risks"]),
    ("planning_consultation_round", jsonNat s.planningConsultationRound),
    ("planning_consultations", .arr (s.planningConsultations.map ConsultationRecord.dump)),
    ("max_planning_consultations", jsonNat maxPlanningConsultations),
    ("latest_user_planning_hint", dumpOr MsgRef.dump s.userPlanningHints.getLast?),
    ("all_user_planning_hints", .arr (s.userPlanningHints.map MsgRef.dump))]
    ["plan", "task_list"] Stage.planningPhase.value

/-- The reference to the planner's question, as the consultation is given it. -/
def plannerQuestionRefDump (d : Decision) : Json := .obj [
  ("path", Json.optStr d.filePath), ("sha256", .str d.sha256), ("field", .str "dev_consultation"),
  ("stage_result_decision_id", .str d.decisionId)]

/-- The payload of `planning_dev_consult_node`. -/
def planningDevConsultPayload : Json :=
  dispatchPayload env s .planningPhase "dev_agent" "dev_agent[consult]"
    "shrimp/subagent/dev_agent/SKILL.md" [
    ("consultation_mode", .bool true),
    ("round_index", jsonNat (s.planningConsultationRound + 1)),
    ("max_rounds", jsonNat maxPlanningConsultations),
    ("artifact_paths", artifactPathsDump s),
    ("input_artifacts", .strs ["pm_spec", "pm_risks", "plan", "task_list"]),
    ("planner_question_ref", dumpOr plannerQuestionRefDump (plannerQuestionRef s)),
    ("prior_consultations", .arr (s.planningConsultations.map ConsultationRecord.dump)),
    ("pm_phase_summary", phaseSummaryDump s "PM_PHASE"),
    ("planning_phase_summary", phaseSummaryDump s "PLANNING_PHASE"),
    ("all_user_planning_hints", .arr (s.userPlanningHints.map MsgRef.dump))]
    [] "PLANNING_DEV_CONSULT"

/-- The payload of `dev_subtask_dispatch_node` for a subtask. -/
def devSubtaskPayload (subtask : SubtaskSpec) : Json :=
  dispatchPayload env s .devPhase "dev_agent" s!"dev_agent[{subtask.taskId}]"
    "shrimp/subagent/dev_agent/SKILL.md" [
    ("artifact_paths", artifactPathsDump s),
    ("retry_count", jsonNat s.retryCount),
    ("current_subtask", subtask.dump),
    ("subtask_index", .int s.currentSubtaskIndex),
    ("subtask_total", jsonNat s.subtasks.length),
    ("completed_subtask_results", subtaskResultsDump s),
    ("pm_phase_summary", phaseSummaryDump s "PM_PHASE"),
    ("planning_phase_summary", phaseSummaryDump s "PLANNING_PHASE"),
    ("input_artifacts", .strs ["pm_spec", "plan", "task_list"])]
    ["dev_summary", "dev_self_check", "dev_changed_files"] Stage.devPhase.value

/-- The payload of `dev_codex_review_node` for a subtask. -/
def devCodexReviewPayload (subtask : SubtaskSpec) : Json :=
  let priorDev := s.subtaskResults.get? subtask.taskId
  dispatchPayload env s .devPhase "codex_reviewer" s!"codex_reviewer[{subtask.taskId}]"
    "shrimp/subagent/reviewer_agent/SKILL.md" [
    ("review_target_subtask", subtask.dump),
    ("subtask_index", .int s.currentSubtaskIndex),
    ("subtask_total", jsonNat s.subtasks.length),
    ("dev_handoff_note", .str ((priorDev.map SubtaskResult.devHandoffNote).getD "")),
    ("dev_decision_sha256", .str ((priorDev.map SubtaskResult.devDecisionSha256).getD "")),
    ("artifact_paths", artifactPathsDump s),
    ("input_artifacts", .strs ["dev_summary", "dev_self_check", "dev_changed_files"])]
    [] "CODEX_REVIEW"

/-- The payload of `rev_dispatch_node`. -/
def revDispatchPayload : Json :=
  dispatchPayload env s .revPhase "rev_agent" "rev_agent"
    "shrimp/subagent/reviewer_agent/SKILL.md" [
    ("artifact_paths", artifactPathsDump s),
    ("retry_count", jsonNat s.retryCount),
    ("prev_phase_summary", phaseSummaryDump s "REV_PHASE"),
    ("pm_phase_summary", phaseSummaryDump s "PM_PHASE"),
    ("planning_phase_summary", phaseSummaryDump s "PLANNING_PHASE"),
    ("dev_phase_summary", phaseSummaryDump s "DEV_PHASE"),
    ("subtask_results", subtaskResultsDump s),
    ("input_artifacts", .strs ["pm_spec", "pm_risks", "plan", "task_list", "dev_summary",
      "dev_self_check", "dev_changed_files"])]
    ["rev_report", "acceptance_checklist"] Stage.revPhase.value

/-- The payload of `rev_codex_final_node`. -/
def revCodexFinalPayload : Json :=
  dispatchPayload env s .revPhase "codex_final" "codex_final"
    "shrimp/subagent/reviewer_agent/SKILL.md" [
    ("review_mode", .str "final_end_to_end"),
    ("artifact_paths", artifactPathsDump s),
    ("retry_count", jsonNat s.retryCount),
    ("pm_phase_summary", phaseSummaryDump s "PM_PHASE"),
    ("planning_phase_summary", phaseSummaryDump s "PLANNING_PHASE"),
    ("dev_phase_summary", phaseSummaryDump s "DEV_PHASE"),
    ("rev_phase_summary", phaseSummaryDump s "REV_PHASE"),
    ("rev_agent_gate_claim", gateClaimDump s "Gate 3 - rev_agent"),
    ("subtask_results", subtaskResultsDump s),
    ("input_artifacts", .strs ["pm_spec", "plan", "dev_summary", "dev_changed_files",
      "rev_report", "acceptance_checklist"])]
    [] "CODEX_REVIEW"

/-! ### Gates -/

/-- The shape of a `gate_decision_needed` payload. -/
def gatePayload (gate : Gate) (shown : List (String × Json)) : Json := .obj ([
  ("type", .str "gate_decision_needed"),
  ("gate", .str gate.name),
  ("stage", .str gate.stage.value),
  ("question_id", .str gate.questionId),
  ("question_text", .str gate.questionText),
  ("options", .strs gate.options),
  ("subagent_gate_claim", gateClaimDump s gate.name)] ++ shown ++
  [("context_user_msg_sha256s", userMsgSha256s s)])

/-- The payload of `gate_1_node`. -/
def gate1Payload : Json := gatePayload s .gate1 [("phase_summary", phaseSummaryDump s "PM_PHASE")]

/-- The payload of `gate_1_5_node`. -/
def gate15Payload : Json := gatePayload s .gate15 [
  ("phase_summary", phaseSummaryDump s "PLANNING_PHASE"),
  ("pm_phase_summary", phaseSummaryDump s "PM_PHASE"),
  ("planning_consultation_round", jsonNat s.planningConsultationRound),
  ("max_planning_consultations", jsonNat maxPlanningConsultations),
  ("planning_consultations", .arr (s.planningConsultations.map ConsultationRecord.dump))]

/-- The payload of `gate_2_node`. -/
def gate2Payload : Json := gatePayload s .gate2 [
  ("phase_summary", phaseSummaryDump s "DEV_PHASE"),
  ("pm_phase_summary", phaseSummaryDump s "PM_PHASE"),
  ("planning_phase_summary", phaseSummaryDump s "PLANNING_PHASE")]

/-- The payload of `gate_3_node`. -/
def gate3Payload : Json := gatePayload s .gate3 [
  ("rev_agent_gate_claim", gateClaimDump s "Gate 3 - rev_agent"),
  ("phase_summary", phaseSummaryDump s "REV_PHASE"),
  ("codex_phase_summary", phaseSummaryDump s "REV_PHASE_CODEX"),
  ("pm_phase_summary", phaseSummaryDump s "PM_PHASE"),
  ("planning_phase_summary", phaseSummaryDump s "PLANNING_PHASE"),
  ("dev_phase_summary", phaseSummaryDump s "DEV_PHASE")]

end Payloads

end Shrimp
