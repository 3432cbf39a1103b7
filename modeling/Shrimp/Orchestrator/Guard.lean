import Mathlib.Data.List.Sort
import Shrimp.Orchestrator.State

/-!
# The anti-drop guard

Every result a subagent hands back passes the guard before anything of it is
written into the state.  The declarative checks read the result alone; the
artifact check reads the files the result claims.  A severe finding sends
control back to the same dispatch with a hint, or blocks the workflow when the
retry budget of that dispatch is spent.

## Main definitions

* `runAntiDropGuard` — checks G1, G3, G4, G5_DECL and G6.
* `verifyAndPersistArtifacts` — check G5_PROVE, and the references to persist.
* `guardRetryKey`, `handleGuardOutcome` — the retry budget.
* `runFullGuardCheck` — the pipeline of the three.
* `dispatchNode` — the shape the seven dispatch nodes share.

## Main results

* `handleGuardOutcome_eq_none_iff`, `handleGuardOutcome_cases` — the three
  outcomes of the guard.
* `dispatchNode_cases` — what a dispatch node can return: the update of the
  guard, or what it makes of an accepted result.
* `clearPending_of_fits` — a node clears the pending retry that is its own.
-/

namespace Shrimp

section Guard

variable (env : Env) (w : World)

/-! ### The declarative checks -/

/-- `result.get("status")`, with `None` for a missing status. -/
def resultStatus (d : Obj) : Option Json :=
  match d.get? "status" with
  | some .null => none
  | x => x

/-- G1: the status exists and is one of the three. -/
def checkStatus (d : Obj) : List (CheckId × Severity × Detail) :=
  match resultStatus d with
  | none => [(.g1, .severe, .missingStatus)]
  | some (.str s) => if s ∈ validStatuses then [] else [(.g1, .severe, .illegalStatus (.str s))]
  | some x => [(.g1, .severe, .illegalStatus x)]

/-- G3: a declared stage is the stage of the dispatch. -/
def checkStage (d : Obj) (currentStage : Stage) : List (CheckId × Severity × Detail) :=
  match d.get? "stage" with
  | none => []
  | some .null => []
  | some x =>
    if x.pyStr env.isPrintable = currentStage.value then []
    else [(.g3, .severe, .stageDrift x currentStage)]

/-- G4: the status and the gate claim agree.  `passed` is compared by identity
with `False`. -/
def checkGate (d : Obj) : List (CheckId × Severity × Detail) :=
  match (d.get? "gate_result").bind Json.asDict with
  | none => []
  | some gate =>
    match gate.get? "passed" with
    | some (.bool false) =>
      -- both comparisons of the source find fault with "done"
      match resultStatus d with
      | some (.str "done") =>
        [(.g4, .minor, .doneNotPassed), (.g4, .minor, .notPassedStatus (.str "done"))]
      | none => []
      | some (.str "blocked") => []
      | some (.str "needs_input") => []
      | some x => [(.g4, .minor, .notPassedStatus x)]
    | _ => []

/-- `result.get("artifact_updates")` where it is a dictionary. -/
def artifactUpdates (d : Obj) : Option Obj := (d.get? "artifact_updates").bind Json.asDict

/-- The expected artifacts a result does not declare. -/
def missingArtifacts (d : Obj) (expectedArtifacts : List String) : List String :=
  expectedArtifacts.filter fun a => !((artifactUpdates d).getD ∅).contains a

/-- G5_DECL: every expected artifact is declared. -/
def checkDeclared (d : Obj) (expectedArtifacts : List String) :
    List (CheckId × Severity × Detail) :=
  match missingArtifacts d expectedArtifacts with
  | [] => []
  | missing => [(.g5Decl, .minor, .missingKeys missing)]

/-- G6: the phase summary is there and its handoff note can be quoted. -/
def checkSummary (d : Obj) : List (CheckId × Severity × Detail) :=
  match (d.get? "phase_summary").bind Json.asDict with
  | none => [(.g6, .minor, .summaryMissing)]
  | some phase =>
    let handoffStripped := strip (env.getStr phase "handoff_note" "")
    if handoffStripped = "" then [(.g6, .minor, .handoffEmpty)]
    else
      (if '\n' ∈ handoffStripped.toList ∨ '\r' ∈ handoffStripped.toList then
        [(.g6, .minor, .handoffMultiline)] else []) ++
      (if handoffNoteMaxChars < handoffStripped.length then
        [(.g6, .minor, .handoffTooLong handoffStripped.length)] else [])

/-- A finding of the guard. -/
def guardWarning (stage : Stage) (subagent : String) (f : CheckId × Severity × Detail) :
    GuardWarning where
  stage := stage
  subagent := subagent
  checkId := f.1
  severity := f.2.1
  detail := f.2.2
  recordedAt := w.now

/-- `_run_anti_drop_guard`. -/
def runAntiDropGuard (result : Json) (currentStage : Stage) (expectedArtifacts : List String)
    (subagentName : String) : List GuardWarning :=
  match result.asDict with
  | none => [guardWarning w currentStage subagentName (.g1, .severe, .notDict result.typeName)]
  | some d =>
    (checkStatus d ++ checkStage env d currentStage ++ checkGate d ++
      checkDeclared d expectedArtifacts ++ checkSummary env d).map
        (guardWarning w currentStage subagentName)

/-- `_has_severe`. -/
def hasSevere (findings : List GuardWarning) : Bool :=
  findings.any fun f => f.severity == .severe

/-! ### The artifact check -/

/-- One round of the loop of `_verify_and_persist_artifacts`: the findings for
one claimed key, and the reference to persist for it. -/
def verifyArtifact (artifactPaths : Dict String String) (stage : Stage) (subagentName : String)
    (key : String) (claim : Json) : Except PyError (List GuardWarning × Option ArtifactRef) :=
  match claim.asDict with
  -- not an object: the round ends without a finding
  | none => .ok ([], none)
  | some c =>
    let path := artifactPaths.getD key ""
    if path = "" then
      .ok ([guardWarning w stage subagentName (.g5Prove, .minor, .unknownKey key)], none)
    else do
      let found ← w.pathExists path
      if found then
        -- the reference gets the hash of the file, whatever hash was claimed
        let bytes ← w.readBytes path
        let actualSha := env.hexdigest bytes
        let claimedSha := env.getStr c "sha256" ""
        let mismatch :=
          if claimedSha ≠ "" ∧ claimedSha ≠ actualSha then
            [guardWarning w stage subagentName
              (.g5Prove, .minor, .shaMismatch key claimedSha actualSha)]
          else []
        return (mismatch, some {
          path := path, sha256 := actualSha, writtenBy := stage, writtenAt := w.now })
      else
        return ([guardWarning w stage subagentName
          (.g5Prove, .severe, .fileMissing key path)], none)

/-- The loop of `_verify_and_persist_artifacts` over the claimed keys. -/
def verifyArtifacts (artifactPaths : Dict String String) (stage : Stage) (subagentName : String) :
    List (String × Json) → List GuardWarning → Dict String ArtifactRef →
      Except PyError (List GuardWarning × Dict String ArtifactRef)
  | [], findings, newArtifacts => .ok (findings, newArtifacts)
  | (key, claim) :: rest, findings, newArtifacts => do
    let (fs, ref) ← verifyArtifact env w artifactPaths stage subagentName key claim
    verifyArtifacts artifactPaths stage subagentName rest (findings ++ fs)
      (match ref with
        | some r => newArtifacts.insert key r
        | none => newArtifacts)

/-- `_verify_and_persist_artifacts`. -/
def verifyAndPersistArtifacts (result : Json) (artifactPaths : Dict String String) (stage : Stage)
    (subagentName : String) : Except PyError (List GuardWarning × Dict String ArtifactRef) :=
  match result.asDict.bind artifactUpdates with
  | none => .ok ([], ∅)
  | some raw => verifyArtifacts env w artifactPaths stage subagentName raw.entries [] ∅

/-! ### The retry budget -/

/-- `_guard_retry_key`. -/
def guardRetryKey (stage : Stage) (subagentName : String) (retryCount : ℕ) : String :=
  s!"{stage.value}:{subagentName}:r{retryCount}"

/-- The checks with a severe finding, sorted and joined, as the log quotes them. -/
def severeIds (findings : List GuardWarning) : String :=
  ",".intercalate (((findings.filter fun f => f.severity == .severe).map
    fun f => f.checkId.value).dedup.insertionSort (· ≤ ·))

/-- The attempts already made on the budget of a dispatch. -/
def attemptsSoFar (s : WorkflowState) (stage : Stage) (subagentName : String) : ℕ :=
  s.guardRetries.getD (guardRetryKey stage subagentName s.retryCount) 0

/-- The update that blocks the workflow: no retries are left. -/
def guardBlocked (s : WorkflowState) (findings : List GuardWarning) (stage : Stage)
    (subagentName : String) : WorkflowState :=
  let note := s!"guard-blocked:{subagentName}:[{severeIds findings}] " ++
    s!"(after {attemptsSoFar s stage subagentName} retry)"
  { s with
    stage := .blocked
    warnings := s.warnings ++ findings
    stageLog := appendLog w s stage note
    updatedAt := w.now
    pendingGuardRetry := none }

/-- The update that schedules a hinted retry.  The stage is not set: the router
sends control back to the same node. -/
def guardRetry (s : WorkflowState) (findings : List GuardWarning) (stage : Stage)
    (subagentName : String) : WorkflowState :=
  let nextAttempt := attemptsSoFar s stage subagentName + 1
  let note := s!"guard-retry-pending:{subagentName}:[{severeIds findings}] " ++
    s!"attempt={nextAttempt}/{guardRetryLimit}"
  { s with
    warnings := s.warnings ++ findings
    guardRetries :=
      s.guardRetries.insert (guardRetryKey stage subagentName s.retryCount) nextAttempt
    pendingGuardRetry := some {
      stage := stage, subagent := subagentName, attempt := nextAttempt, findings := findings }
    stageLog := appendLog w s stage note
    updatedAt := w.now }

/-- `_handle_guard_outcome`: the state after its update, `none` when there is no
severe finding. -/
def handleGuardOutcome (s : WorkflowState) (findings : List GuardWarning) (stage : Stage)
    (subagentName : String) : Option WorkflowState :=
  if hasSevere findings then
    if guardRetryLimit ≤ attemptsSoFar s stage subagentName then
      some (guardBlocked w s findings stage subagentName)
    else
      some (guardRetry w s findings stage subagentName)
  else none

/-- All findings for a result, and the verified artifacts: the first two parts
of `_run_full_guard_check`. -/
def guardFindings (s : WorkflowState) (result : Json) (stage : Stage)
    (expectedArtifacts : List String) (subagentName : String) :
    Except PyError (List GuardWarning × Dict String ArtifactRef) := do
  let guard := runAntiDropGuard env w result stage expectedArtifacts subagentName
  let (verifyFindings, verifiedArtifacts) ←
    verifyAndPersistArtifacts env w result s.artifactPaths stage subagentName
  return (guard ++ verifyFindings, verifiedArtifacts)

/-- `_run_full_guard_check`. -/
def runFullGuardCheck (s : WorkflowState) (result : Json) (stage : Stage)
    (expectedArtifacts : List String) (subagentName : String) :
    Except PyError (List GuardWarning × Dict String ArtifactRef × Option WorkflowState) := do
  let (allFindings, verifiedArtifacts) ←
    guardFindings env w s result stage expectedArtifacts subagentName
  return (allFindings, verifiedArtifacts, handleGuardOutcome w s allFindings stage subagentName)

/-- `_consume_pending_retry`: the pending retry when it targets this dispatch. -/
def consumePendingRetry (s : WorkflowState) (stage : Stage) (subagentName : String) :
    Option GuardRetryPending :=
  s.pendingGuardRetry.filter fun p => p.stage = stage ∧ p.subagent = subagentName

/-- `**clear_pending`: a consumed retry does not persist. -/
def clearPending (pending : Option GuardRetryPending) (s : WorkflowState) : WorkflowState :=
  if pending.isSome then { s with pendingGuardRetry := none } else s

/-- The shape of a dispatch node after its interrupt: run the guard, return its
update if there is one, else the update made of the accepted result.  The update
of the guard always sets `pending_guard_retry`, so it overrides the clearing. -/
def dispatchNode (s : WorkflowState) (stage : Stage) (subagentName : String)
    (expectedArtifacts : List String) (result : Json)
    (accept : List GuardWarning → Dict String ArtifactRef → Except PyError WorkflowState) :
    Except PyError WorkflowState := do
  let pending := consumePendingRetry s stage subagentName
  let (allFindings, verifiedArtifacts, gh) ←
    runFullGuardCheck env w s result stage expectedArtifacts subagentName
  match gh with
  | some s' => return s'
  | none => return clearPending pending (← accept allFindings verifiedArtifacts)

/-! ### What the guard decides -/

/-- The guard lets a result through when no finding is severe. -/
theorem handleGuardOutcome_eq_none_iff {s : WorkflowState} {findings : List GuardWarning}
    {stage : Stage} {subagentName : String} :
    handleGuardOutcome w s findings stage subagentName = none ↔ hasSevere findings = false := by
  unfold handleGuardOutcome
  split
  · next h =>
    rw [h]
    split <;> simp
  · next h => simpa using h

/-- **The two updates of the guard.** -/
theorem handleGuardOutcome_cases {s s' : WorkflowState} {findings : List GuardWarning}
    {stage : Stage} {subagentName : String}
    (h : handleGuardOutcome w s findings stage subagentName = some s') :
    hasSevere findings = true ∧
      (guardRetryLimit ≤ attemptsSoFar s stage subagentName ∧
          s' = guardBlocked w s findings stage subagentName ∨
        attemptsSoFar s stage subagentName < guardRetryLimit ∧
          s' = guardRetry w s findings stage subagentName) := by
  unfold handleGuardOutcome at h
  split at h
  · next hsev =>
    refine ⟨hsev, ?_⟩
    split at h
    · next hlim => exact Or.inl ⟨hlim, (Option.some.inj h).symm⟩
    · next hlim => exact Or.inr ⟨Nat.lt_of_not_le hlim, (Option.some.inj h).symm⟩
  · cases h

/-- **What a dispatch node can return**: the update of the guard, or what it
makes of an accepted result, with its own pending retry cleared. -/
theorem dispatchNode_cases {s s' : WorkflowState} {stage : Stage} {subagentName : String}
    {expectedArtifacts : List String} {result : Json}
    {accept : List GuardWarning → Dict String ArtifactRef → Except PyError WorkflowState}
    (h : dispatchNode env w s stage subagentName expectedArtifacts result accept = .ok s') :
    ∃ findings artifacts,
      guardFindings env w s result stage expectedArtifacts subagentName =
          .ok (findings, artifacts) ∧
        (handleGuardOutcome w s findings stage subagentName = some s' ∨
          hasSevere findings = false ∧ ∃ s'', accept findings artifacts = .ok s'' ∧
            s' = clearPending (consumePendingRetry s stage subagentName) s'') := by
  unfold dispatchNode runFullGuardCheck at h
  simp only [bind_eq_ok] at h
  obtain ⟨⟨_, _, gh⟩, ⟨⟨findings, artifacts⟩, hf, hg⟩, h⟩ := h
  cases hg
  refine ⟨findings, artifacts, hf, ?_⟩
  cases hgh : handleGuardOutcome w s findings stage subagentName with
  | some s₁ =>
    rw [hgh] at h
    cases h
    exact Or.inl rfl
  | none =>
    rw [hgh] at h
    simp only [bind_eq_ok] at h
    obtain ⟨s'', hacc, hs''⟩ := h
    cases hs''
    exact Or.inr ⟨(handleGuardOutcome_eq_none_iff w).mp hgh, s'', hacc, rfl⟩

end Guard

/-! ### Clearing a pending retry -/

section Clear

variable (p : Option GuardRetryPending) (s : WorkflowState)

@[simp] theorem clearPending_stage : (clearPending p s).stage = s.stage := by
  unfold clearPending; split <;> rfl

@[simp] theorem clearPending_decisions : (clearPending p s).decisions = s.decisions := by
  unfold clearPending; split <;> rfl

@[simp] theorem clearPending_guardRetries : (clearPending p s).guardRetries = s.guardRetries := by
  unfold clearPending; split <;> rfl

@[simp] theorem clearPending_retryCount : (clearPending p s).retryCount = s.retryCount := by
  unfold clearPending; split <;> rfl

@[simp] theorem clearPending_gateResults : (clearPending p s).gateResults = s.gateResults := by
  unfold clearPending; split <;> rfl

@[simp] theorem clearPending_subtasks : (clearPending p s).subtasks = s.subtasks := by
  unfold clearPending; split <;> rfl

@[simp] theorem clearPending_currentSubtaskIndex :
    (clearPending p s).currentSubtaskIndex = s.currentSubtaskIndex := by
  unfold clearPending; split <;> rfl

@[simp] theorem clearPending_subtaskResults :
    (clearPending p s).subtaskResults = s.subtaskResults := by
  unfold clearPending; split <;> rfl

variable {s}

/-- **A node clears the pending retry that is its own.** -/
theorem clearPending_of_fits {s'' : WorkflowState} {stage : Stage} {subagentName : String}
    (hs : s''.pendingGuardRetry = s.pendingGuardRetry)
    (hfit : ∀ p, s.pendingGuardRetry = some p → p.stage = stage ∧ p.subagent = subagentName) :
    (clearPending (consumePendingRetry s stage subagentName) s'').pendingGuardRetry = none := by
  cases hp : s.pendingGuardRetry with
  | none => simp [clearPending, consumePendingRetry, hs, hp]
  | some q => simp [clearPending, consumePendingRetry, hp, hfit q hp]

end Clear

end Shrimp
