import Shrimp.Orchestrator.Dispatch

/-!
# The gates

The four nodes at which the user decides.  An answer that is none of the gate's
options blocks the workflow, as does `reject`; the other options name the phase
to go to.

## Main definitions

* `Gate`, `Gate.options` — the gates and what may be answered at them.
* `consumeGateDecision` — the audit record and the answer of a decision file.
* `gateNode` — the shape the four gate nodes share.
* `gate1Node`, `gate15Node`, `gate2Node`, `gate3Node` — the gate nodes.

## Main results

* `gateNode_cases` — a gate handles an option and refuses anything else.
* `continuePlanning_cases` — a hint is recorded or the gate blocks.
-/

namespace Shrimp

/-- The gates. -/
inductive Gate
  | gate1
  | gate15
  | gate2
  | gate3
  deriving DecidableEq, Repr, Inhabited

namespace Gate

/-- The stage a workflow is in at a gate. -/
def stage : Gate → Stage
  | gate1 => .gate1
  | gate15 => .gate15
  | gate2 => .gate2
  | gate3 => .gate3

/-- The name of a gate. -/
def name : Gate → String
  | gate1 => "Gate 1"
  | gate15 => "Gate 1.5"
  | gate2 => "Gate 2"
  | gate3 => "Gate 3"

/-- The label of a gate in the log. -/
def label : Gate → String
  | gate1 => "gate-1"
  | gate15 => "gate-1-5"
  | gate2 => "gate-2"
  | gate3 => "gate-3"

/-- The question a gate asks. -/
def questionText : Gate → String
  | gate1 => "PM_PHASE 已完成。Gate 1 是否通过?"
  | gate15 => "PLANNING_PHASE 已完成。Gate 1.5 是否通过?"
  | gate2 => "DEV_PHASE 已完成。Gate 2 是否通过?"
  | gate3 => "REV_PHASE 已完成。Gate 3 是否通过?"

/-- The identifier of the question a gate asks. -/
def questionId : Gate → String
  | gate1 => "q_gate_1_001"
  | gate15 => "q_gate_1_5_001"
  | gate2 => "q_gate_2_001"
  | gate3 => "q_gate_3_001"

/-- The identifier of a decision that names none. -/
def auditIdDefault : Gate → String
  | gate1 => "d_gate_1"
  | gate15 => "d_gate_1_5"
  | gate2 => "d_gate_2"
  | gate3 => "d_gate_3"

/-- The answers a gate allows. -/
def options : Gate → List String
  | gate1 => ["approve", "rollback_to_pm", "reject"]
  | gate15 => ["approve", "rollback_to_pm", "continue_planning", "reject"]
  | gate2 => ["approve", "rollback_to_planning", "rollback_to_pm", "reject"]
  | gate3 => ["approve", "rollback_to_dev", "rollback_to_planning", "rollback_to_pm", "reject"]

end Gate

section Gates

variable (env : Env) (w : World)

/-- `if not isinstance(decision, dict): decision = {"answer": str(decision)}`. -/
def decisionDict (decision : Json) : Obj :=
  decision.asDict.getD (Dict.ofList [("answer", .str (decision.pyStr env.isPrintable))])

/-- The answer of a decision file: `str(decision.get("answer", ""))`. -/
def gateAnswer (decision : Json) : String := env.getStr (decisionDict env decision) "answer" ""

/-- `_consume_gate_decision`. -/
def consumeGateDecision (decision : Json) (questionText auditIdDefault : String) :
    Decision × String :=
  let d := decisionDict env decision
  let answer := env.getStr d "answer" ""
  (makeDecision env w d questionText answer auditIdDefault, answer)

/-- The update of a gate: a new stage, the audit record and a note. -/
def gateReturn (s : WorkflowState) (gate : Gate) (record : Decision) (nextStage : Stage)
    (note : String) : WorkflowState :=
  { s with
    stage := nextStage
    decisions := s.decisions ++ [record]
    stageLog := appendLog w s gate.stage note
    updatedAt := w.now }

/-- A gate that blocks with one severe finding. -/
def gateRefuse (s : WorkflowState) (gate : Gate) (record : Decision) (checkId : CheckId)
    (detail : Detail) (note : String) : WorkflowState :=
  { gateReturn w s gate record .blocked note with
    warnings := s.warnings ++ [guardWarning w gate.stage "user" (checkId, .severe, detail)] }

/-- `_gate_invalid_answer_return`. -/
def gateInvalidAnswerReturn (s : WorkflowState) (gate : Gate) (answer : String)
    (record : Decision) : WorkflowState :=
  gateRefuse w s gate record .gateInvalidAnswer (.invalidAnswer answer gate.options)
    s!"{gate.label}-invalid-answer:{answer}"

/-- The counters of a rollback to a phase. -/
def countRollback (phase : Stage) (s : WorkflowState) : WorkflowState :=
  { s with
    retryCount := s.retryCount + 1
    rollbackCounts := s.rollbackCounts.insert phase.value
      (s.rollbackCounts.getD phase.value 0 + 1) }

/-- An answer that rolls back to a phase. -/
def gateRollback (s : WorkflowState) (gate : Gate) (record : Decision) (phase : Stage)
    (note : String) : WorkflowState :=
  countRollback phase (gateReturn w s gate record phase note)

/-- The shape of a gate node after its interrupt: record the decision, block on
an answer that is not an option, else do what the answer says. -/
def gateNode (s : WorkflowState) (gate : Gate) (decision : Json)
    (handle : Decision → String → Except PyError WorkflowState) : Except PyError WorkflowState :=
  let (record, answer) :=
    consumeGateDecision env w decision gate.questionText gate.auditIdDefault
  if answer ∈ gate.options then handle record answer
  else .ok (gateInvalidAnswerReturn w s gate answer record)

/-- `gate_1_node`. -/
def gate1Node (s : WorkflowState) (decision : Json) : Except PyError WorkflowState :=
  gateNode env w s .gate1 decision fun record answer =>
    if answer = "approve" then
      .ok (gateReturn w s .gate1 record .planningPhase "gate-1-approved")
    else if answer = "rollback_to_pm" then
      .ok (gateRollback w s .gate1 record .pmPhase "gate-1-rollback-to-pm")
    else
      .ok (gateReturn w s .gate1 record .blocked s!"gate-1-rejected:{answer}")

/-- `f"hint_{n:04d}"`. -/
def hintId (n : ℕ) : String :=
  "hint_" ++ String.ofList (List.leftpad 4 '0' (Nat.toDigits 10 n))

/-- The reference recorded for a hint that was read as `hintText`. -/
def hintRef (s : WorkflowState) (userHintPath hintText : String) : MsgRef where
  msgId := hintId (s.userPlanningHints.length + 1)
  sha256 := env.sha256 hintText
  receivedAt := w.now
  textPath := userHintPath
  byteLength := hintText.toUTF8.size
  charLength := hintText.length

/-- The `continue_planning` branch of `gate_1_5_node`. -/
def continuePlanning (s : WorkflowState) (record : Decision) (decision : Json) :
    Except PyError WorkflowState :=
  let userHintPath := strip (env.getStr (decision.asDict.getD ∅) "user_hint_path" "")
  if userHintPath = "" then
    .ok (gateRefuse w s .gate15 record .continueNoHint .noHint
      "gate-1-5-continue-rejected:no-user-hint-path")
  else
    match w.statSize userHintPath with
    | .error (.osError text) =>
      .ok (gateRefuse w s .gate15 record .continueHintUnreadable (.hintStat userHintPath text)
        "gate-1-5-continue-rejected:unreadable-hint")
    | .error e => .error e
    | .ok size =>
      if maxUserHintBytes < size then
        .ok (gateRefuse w s .gate15 record .continueHintTooLarge (.hintTooLarge userHintPath size)
          "gate-1-5-continue-rejected:hint-too-large")
      else
        match w.readBytes userHintPath with
        | .error (.osError text) =>
          .ok (gateRefuse w s .gate15 record .continueHintUnreadable (.hintRead userHintPath text)
            "gate-1-5-continue-rejected:unreadable-hint")
        | .error e => .error e
        | .ok bytes =>
          match String.fromUTF8? bytes with
          | none =>
            .ok (gateRefuse w s .gate15 record .continueHintNotUtf8
              (.hintNotUtf8 userHintPath (env.decodeError bytes))
              "gate-1-5-continue-rejected:hint-not-utf8")
          | some text =>
            -- a new round of consultations, but no rollback is counted
            let ref := hintRef env w s userHintPath (String.ofList (translateNewlines text.toList))
            .ok { gateReturn w s .gate15 record .planningPhase
                s!"gate-1-5-continue-planning:hint_sha={shaPrefix ref.sha256}" with
              userPlanningHints := s.userPlanningHints ++ [ref]
              planningConsultationRound := 0 }

/-- `gate_1_5_node`. -/
def gate15Node (s : WorkflowState) (decision : Json) : Except PyError WorkflowState :=
  gateNode env w s .gate15 decision fun record answer =>
    if answer = "approve" then
      .ok (gateReturn w s .gate15 record .devPhase "gate-1-5-approved")
    else if answer = "rollback_to_pm" then
      .ok (gateRollback w s .gate15 record .pmPhase "gate-1-5-rollback-to-pm")
    else if answer = "continue_planning" then
      continuePlanning env w s record decision
    else
      .ok (gateReturn w s .gate15 record .blocked s!"gate-1-5-rejected:{answer}")

/-- `gate_2_node`. -/
def gate2Node (s : WorkflowState) (decision : Json) : Except PyError WorkflowState :=
  gateNode env w s .gate2 decision fun record answer =>
    if answer = "approve" then
      .ok (gateReturn w s .gate2 record .revPhase "gate-2-approved")
    else if answer = "rollback_to_planning" then
      .ok (gateRollback w s .gate2 record .planningPhase "gate-2-rollback-to-planning")
    else if answer = "rollback_to_pm" then
      .ok (gateRollback w s .gate2 record .pmPhase "gate-2-rollback-to-pm")
    else
      .ok (gateReturn w s .gate2 record .blocked s!"gate-2-rejected:{answer}")

/-- `gate_3_node`.  A rollback to DEV also clears the results, so that DEV reruns
from scratch. -/
def gate3Node (s : WorkflowState) (decision : Json) : Except PyError WorkflowState :=
  gateNode env w s .gate3 decision fun record answer =>
    if answer = "approve" then
      .ok (gateReturn w s .gate3 record .done "gate-3-approved")
    else if answer = "rollback_to_dev" then
      .ok { gateRollback w s .gate3 record .devPhase "gate-3-rollback-to-dev" with
        subtaskResults := ∅
        currentSubtaskIndex := -1 }
    else if answer = "rollback_to_planning" then
      .ok (gateRollback w s .gate3 record .planningPhase "gate-3-rollback-to-planning")
    else if answer = "rollback_to_pm" then
      .ok (gateRollback w s .gate3 record .pmPhase "gate-3-rollback-to-pm")
    else
      .ok (gateReturn w s .gate3 record .blocked s!"gate-3-rejected:{answer}")

/-! ### What a gate decides -/

variable {env w}

/-- The audit record of a gate. -/
def gateRecord (env : Env) (w : World) (gate : Gate) (decision : Json) : Decision :=
  (consumeGateDecision env w decision gate.questionText gate.auditIdDefault).1

/-- **A gate handles an option and refuses anything else.** -/
theorem gateNode_cases {s s' : WorkflowState} {gate : Gate} {decision : Json}
    {handle : Decision → String → Except PyError WorkflowState}
    (h : gateNode env w s gate decision handle = .ok s') :
    gateAnswer env decision ∈ gate.options ∧
        handle (gateRecord env w gate decision) (gateAnswer env decision) = .ok s' ∨
      gateAnswer env decision ∉ gate.options ∧
        s' = gateInvalidAnswerReturn w s gate (gateAnswer env decision)
          (gateRecord env w gate decision) := by
  change (if gateAnswer env decision ∈ gate.options then
    handle (gateRecord env w gate decision) (gateAnswer env decision) else _) = _ at h
  split at h
  · next hmem => exact Or.inl ⟨hmem, h⟩
  · next hmem => exact Or.inr ⟨hmem, (Except.ok.inj h).symm⟩

/-- **Continuing the planning records a hint or blocks.** -/
theorem continuePlanning_cases {s s' : WorkflowState} {record : Decision} {decision : Json}
    (h : continuePlanning env w s record decision = .ok s') :
    (∃ checkId detail note, s' = gateRefuse w s .gate15 record checkId detail note) ∨
      ∃ ref note, s' = { gateReturn w s .gate15 record .planningPhase note with
        userPlanningHints := s.userPlanningHints ++ [ref]
        planningConsultationRound := 0 } := by
  unfold continuePlanning at h
  extract_lets userHintPath at h
  split at h
  · exact Or.inl ⟨_, _, _, (Except.ok.inj h).symm⟩
  split at h
  · exact Or.inl ⟨_, _, _, (Except.ok.inj h).symm⟩
  · cases h
  split at h
  · exact Or.inl ⟨_, _, _, (Except.ok.inj h).symm⟩
  split at h
  · exact Or.inl ⟨_, _, _, (Except.ok.inj h).symm⟩
  · cases h
  split at h
  · exact Or.inl ⟨_, _, _, (Except.ok.inj h).symm⟩
  · exact Or.inr ⟨_, _, (Except.ok.inj h).symm⟩

end Gates

end Shrimp
