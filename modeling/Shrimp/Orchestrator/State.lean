import Shrimp.Python

/-!
# The state of a workflow

The records of the orchestrator and its `WorkflowState`.  The module `state`
they are declared in is not part of the repository; fields, types and defaults
are those of the entity tables in `shrimp-graph/DESIGN.md`, §6.  What
`graph.py` needs from it and from the interpreter beyond that is gathered in
`Env` (the same for a whole run) and `World` (what one node execution sees).

The detail of a warning is kept as the data it was formatted from; its text is
`Detail.text`.

## Main definitions

* `Stage`, `WorkflowState` and its records.
* `Detail`, `GuardWarning` — the findings of the guard and of the gates.
* `Env`, `World` — the surroundings of a run and of one node execution.
* `WorkflowState.fresh` — the state a workflow is started with.
-/

namespace Shrimp

/-- The stages of a workflow. -/
inductive Stage
  | init
  | pmPhase
  | gate1
  | planningPhase
  | gate15
  | devPhase
  | gate2
  | revPhase
  | gate3
  | done
  | blocked
  deriving DecidableEq, Repr, Inhabited

/-- The text of a stage. -/
def Stage.value : Stage → String
  | .init => "INIT"
  | .pmPhase => "PM_PHASE"
  | .gate1 => "GATE_1"
  | .planningPhase => "PLANNING_PHASE"
  | .gate15 => "GATE_1_5"
  | .devPhase => "DEV_PHASE"
  | .gate2 => "GATE_2"
  | .revPhase => "REV_PHASE"
  | .gate3 => "GATE_3"
  | .done => "DONE"
  | .blocked => "BLOCKED"

/-- Is the workflow over? -/
def Stage.terminal : Stage → Bool
  | .done => true
  | .blocked => true
  | _ => false

/-! ### Records -/

/-- A message of the user, by path and hash. -/
structure MsgRef where
  msgId : String
  sha256 : String
  receivedAt : String
  textPath : String
  byteLength : ℕ
  charLength : ℕ
  deriving DecidableEq, Inhabited

/-- One resumed decision file in the audit trail. -/
structure Decision where
  decisionId : String
  question : String
  answer : String
  sha256 : String
  decidedAt : String
  filePath : Option String
  deriving DecidableEq, Inhabited

/-- A verified artifact. -/
structure ArtifactRef where
  path : String
  sha256 : String
  writtenBy : Stage
  writtenAt : String
  deriving DecidableEq, Inhabited

/-- The summary a subagent gives of its phase. -/
structure PhaseSummary where
  decisions : List String
  openIssues : List String
  risks : List String
  handoffNote : String
  deriving DecidableEq, Inhabited

/-- What a subagent claims at a gate. -/
structure GateResult where
  name : String
  passed : Bool
  reasons : List String
  deriving DecidableEq, Inhabited

/-- One item of the planner's subtask plan. -/
structure SubtaskSpec where
  taskId : String
  title : String
  description : String
  deriving DecidableEq, Inhabited

/-- What is recorded of one subtask. -/
structure SubtaskResult where
  devStatus : String
  devHandoffNote : String
  devDecisionSha256 : String
  codexStatus : String := ""
  codexHandoffNote : String := ""
  codexDecisionSha256 : String := ""
  reviewPassed : Bool := false
  reviewReasons : List String := []
  deriving DecidableEq, Inhabited

/-- One entry of the stage log. -/
structure StageRecord where
  stage : Stage
  enteredAt : String
  exitedAt : String
  seenMsgIds : List String
  seenDecisionIds : List String
  note : String
  deriving DecidableEq, Inhabited

/-- One consultation between planner and developer. -/
structure ConsultationRecord where
  roundIndex : ℕ
  plannerQuestionSha256 : String
  devAnswerSha256 : String
  recordedAt : String
  deriving DecidableEq, Inhabited

/-- The permission policy of one stage. -/
structure PolicyConfig where
  allowSilent : List String
  deny : List String
  askUser : List String
  defaultAction : String
  deriving DecidableEq, Inhabited

/-! ### Findings -/

/-- The check a finding comes from. -/
inductive CheckId
  | g1
  | g3
  | g4
  | g5Decl
  | g5Prove
  | g6
  | planningConsultLimit
  | gateInvalidAnswer
  | continueNoHint
  | continueHintUnreadable
  | continueHintTooLarge
  | continueHintNotUtf8
  deriving DecidableEq, Repr, Inhabited

/-- The text of a check. -/
def CheckId.value : CheckId → String
  | .g1 => "G1"
  | .g3 => "G3"
  | .g4 => "G4"
  | .g5Decl => "G5_DECL"
  | .g5Prove => "G5_PROVE"
  | .g6 => "G6"
  | .planningConsultLimit => "PLANNING_CONSULT_LIMIT"
  | .gateInvalidAnswer => "GATE_INVALID_ANSWER"
  | .continueNoHint => "GATE_1_5_CONTINUE_NO_HINT"
  | .continueHintUnreadable => "GATE_1_5_CONTINUE_HINT_UNREADABLE"
  | .continueHintTooLarge => "GATE_1_5_CONTINUE_HINT_TOO_LARGE"
  | .continueHintNotUtf8 => "GATE_1_5_CONTINUE_HINT_NOT_UTF8"

/-- How bad a finding is. -/
inductive Severity
  | minor
  | severe
  deriving DecidableEq, Repr, Inhabited

/-- The text of a severity. -/
def Severity.value : Severity → String
  | .minor => "minor"
  | .severe => "severe"

/-- Rounds of consultation the planner may ask for by itself. -/
def maxPlanningConsultations : ℕ := 3

/-- Hinted retries per guard budget. -/
def guardRetryLimit : ℕ := 1

/-- The largest user hint that is read, in bytes. -/
def maxUserHintBytes : ℕ := 64 * 1024

/-- The longest handoff note that can be quoted. -/
def handoffNoteMaxChars : ℕ := 280

/-- The statuses a stage result may carry. -/
def validStatuses : List String := ["done", "blocked", "needs_input"]

/-- What a finding says, before it is formatted. -/
inductive Detail
  | notDict (typeName : String)
  | missingStatus
  | illegalStatus (status : Json)
  | stageDrift (declared : Json) (current : Stage)
  | doneNotPassed
  | notPassedStatus (status : Json)
  | missingKeys (missing : List String)
  | summaryMissing
  | handoffEmpty
  | handoffMultiline
  | handoffTooLong (length : ℕ)
  | unknownKey (key : String)
  | fileMissing (key path : String)
  | shaMismatch (key claimed actual : String)
  | consultLimit
  | invalidAnswer (answer : String) (options : List String)
  | noHint
  | hintStat (path error : String)
  | hintTooLarge (path : String) (size : ℕ)
  | hintRead (path error : String)
  | hintNotUtf8 (path error : String)
  deriving Inhabited

/-- The first characters of a hash, as the texts quote it. -/
def shaPrefix (sha : String) : String := String.ofList (sha.toList.take 12)

/-- The text of a finding. -/
def Detail.text (p : Char → Bool) : Detail → String
  | .notDict typeName => s!"result is not a dict: {typeName}"
  | .missingStatus => "missing required field: status"
  | .illegalStatus status =>
    s!"illegal status {status.pyRepr p}, must be one of ('done', 'blocked', 'needs_input')"
  | .stageDrift declared current =>
    s!"declared stage {declared.pyRepr p} != dispatch current_stage {reprStr p current.value}"
  | .doneNotPassed => "status=done but gate_result.passed=False"
  | .notPassedStatus status =>
    s!"gate_result.passed=False but status={status.pyRepr p} not in (blocked, needs_input)"
  | .missingKeys missing => s!"artifact_updates missing keys: {reprStrs p missing}"
  | .summaryMissing => "phase_summary missing or not a dict"
  | .handoffEmpty => "phase_summary.handoff_note empty"
  | .handoffMultiline =>
    "phase_summary.handoff_note must be a single line " ++
      "(no newline/CR) so Hermes can verbatim-quote it in IM"
  | .handoffTooLong length =>
    s!"phase_summary.handoff_note length {length} exceeds {handoffNoteMaxChars} chars; trim " ++
      "so Hermes can verbatim-quote in IM without paraphrase"
  | .unknownKey key => s!"artifact key {reprStr p key} not in artifact_paths — orch can't verify"
  | .fileMissing key path =>
    s!"artifact {reprStr p key} claimed in artifact_updates but file missing at {path}; " ++
      "subagent declared output that does not exist on disk"
  | .shaMismatch key claimed actual =>
    s!"artifact {reprStr p key} sha mismatch: claimed={shaPrefix claimed}… " ++
      s!"actual={shaPrefix actual}…; using orch-computed value"
  | .consultLimit =>
    s!"reached MAX_PLANNING_CONSULTATIONS={maxPlanningConsultations}; " ++
      "surfacing to GATE_1_5 so the user can choose continue_planning / rollback_to_pm / reject"
  | .invalidAnswer answer options =>
    s!"gate answer {reprStr p answer} is not in allowed options {reprStrs p options}; " ++
      "BLOCKING — user likely intended one of the options but submitted a " ++
      "malformed/typo/cross-gate answer. This is treated distinctly from explicit 'reject' so " ++
      "Hermes can surface the discrepancy to the user instead of silently blocking."
  | .noHint => "continue_planning chosen but decision file lacks user_hint_path"
  | .hintStat path error => s!"unable to stat user_hint_path={reprStr p path}: {error}"
  | .hintTooLarge path size =>
    s!"user_hint_path={reprStr p path} size {size} bytes exceeds cap {maxUserHintBytes} bytes; " ++
      "refusing to read. continue_planning hints should be a short prose direction, not a " ++
      "binary or multi-MB document."
  | .hintRead path error => s!"unable to read user_hint_path={reprStr p path}: {error}"
  | .hintNotUtf8 path error =>
    s!"user_hint_path={reprStr p path} is not valid UTF-8: {error}. continue_planning hints " ++
      "must be plain UTF-8 text."

/-- A finding. -/
structure GuardWarning where
  stage : Stage
  subagent : String
  checkId : CheckId
  severity : Severity
  detail : Detail
  recordedAt : String
  deriving Inhabited

/-- A scheduled retry: the dispatch it is for and the findings it hints at. -/
structure GuardRetryPending where
  stage : Stage
  subagent : String
  attempt : ℕ
  findings : List GuardWarning
  deriving Inhabited

/-! ### The workflow state -/

/-- The state the nodes of the graph read and write. -/
structure WorkflowState where
  workflowId : String
  stage : Stage := .init
  artifactBaseDir : String := ""
  userMsgs : List MsgRef := []
  decisions : List Decision := []
  artifacts : Dict String ArtifactRef := ∅
  artifactPaths : Dict String String := ∅
  phaseSummaries : Dict String PhaseSummary := ∅
  gateResults : Dict String GateResult := ∅
  retryCount : ℕ := 0
  rollbackCounts : Dict String ℕ := ∅
  permissionPolicies : Dict String PolicyConfig := ∅
  subtasks : List SubtaskSpec := []
  currentSubtaskIndex : ℤ := -1
  subtaskResults : Dict String SubtaskResult := ∅
  stageLog : List StageRecord := []
  warnings : List GuardWarning := []
  pendingGuardRetry : Option GuardRetryPending := none
  guardRetries : Dict String ℕ := ∅
  planningConsultationRound : ℕ := 0
  planningConsultations : List ConsultationRecord := []
  userPlanningHints : List MsgRef := []
  updatedAt : String := ""
  deriving Inhabited

/-- The state a workflow is started with: an identifier, a base directory, the
messages and possibly policies; every other field at its default. -/
def WorkflowState.fresh (workflowId artifactBaseDir : String) (userMsgs : List MsgRef)
    (permissionPolicies : Dict String PolicyConfig) : WorkflowState :=
  { workflowId, artifactBaseDir, userMsgs, permissionPolicies }

/-! ### Surroundings -/

/-- What a run takes from outside the repository. -/
structure Env where
  /-- `hashlib.sha256(data).hexdigest()`. -/
  hexdigest : ByteArray → String
  /-- `str.isprintable` of a character beyond ASCII. -/
  isPrintable : Char → Bool
  /-- `PhaseSummary(**d)`; `none` when validation fails. -/
  phaseSummary : Obj → Option PhaseSummary
  /-- The validation of a `reasons` list in a data model; `none` when it fails. -/
  reasons : List Json → Option (List String)
  /-- The text of the `UnicodeDecodeError` of bytes that are not UTF-8. -/
  decodeError : ByteArray → String

/-- What one execution of a node sees: the clock and the file system. -/
structure World where
  /-- `now_iso()`. -/
  now : String
  /-- `Path(p).exists()`. -/
  pathExists : String → Except PyError Bool
  /-- `Path(p).stat().st_size`. -/
  statSize : String → Except PyError ℕ
  /-- The bytes of the file at a path. -/
  readBytes : String → Except PyError ByteArray

variable (env : Env)

/-- `_sha256`. -/
def Env.sha256 (s : String) : String := env.hexdigest s.toUTF8

/-- `str(d.get(k, v))`. -/
abbrev Env.getStr (d : Obj) (k v : String) : String := Obj.getStr env.isPrintable d k v

/-- `PhaseSummary(**d)`. -/
def Env.makePhaseSummary (d : Obj) : Except PyError PhaseSummary :=
  match env.phaseSummary d with
  | some ps => .ok ps
  | none => .error .validationError

/-- `PhaseSummary(**x) if isinstance(x, dict) else PhaseSummary()`. -/
def Env.phaseSummaryOf (x : Json) : Except PyError PhaseSummary :=
  match x.asDict with
  | some d => env.makePhaseSummary d
  | none => env.makePhaseSummary ∅

/-- A `reasons` list that a data model accepts. -/
def Env.makeReasons (xs : List Json) : Except PyError (List String) :=
  match env.reasons xs with
  | some rs => .ok rs
  | none => .error .validationError

/-- `_append_log`. -/
def appendLog (w : World) (s : WorkflowState) (stage : Stage) (note : String) :
    List StageRecord :=
  s.stageLog ++ [{
    stage := stage
    enteredAt := w.now
    exitedAt := w.now
    seenMsgIds := s.userMsgs.map MsgRef.msgId
    seenDecisionIds := s.decisions.map Decision.decisionId
    note := note }]

/-- `_current_subtask`. -/
def currentSubtask (s : WorkflowState) : Option SubtaskSpec :=
  if 0 ≤ s.currentSubtaskIndex ∧ s.currentSubtaskIndex < s.subtasks.length then
    s.subtasks[s.currentSubtaskIndex.toNat]?
  else none

end Shrimp
