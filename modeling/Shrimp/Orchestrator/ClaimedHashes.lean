import Mathlib.Data.List.Forall2
import Shrimp.Orchestrator.GateClaims
import Shrimp.Orchestrator.Hints

/-!
# Claimed hashes

A subagent claims a hash for each artifact it declares.  The claim is compared
with the hash of the file and has no other use: two results that differ in
nothing but claimed hashes lead a dispatch to the same node with the same work,
and what may differ are the minor findings of the comparison.

## Main definitions

* `AgreeOff` — two dictionaries agree except under one key.
* `SameResult` — two results that differ at most in claimed hashes.
* `SameFindings`, `SameState` — findings and states that differ at most in minor
  findings of G5_PROVE.
* `Genuine` — a reference to a file as it is on disk.

## Main results

* `related_guardFindings` — the guard finds the same and verifies the same.
* `sameState_handleGuardOutcome` — findings that differ in nothing else are
  diverted alike.
* `related_run` — a dispatch node ends alike on both results.
* `genuine_of_guardFindings` — what is verified is as it is on disk.
* `claimedHash_inert` — **claimed hashes have no influence.**
-/

namespace Shrimp

/-! ### Results that differ in claimed hashes -/

/-- Two dictionaries agree except under one key. -/
def AgreeOff (k : String) (d d' : Obj) : Prop := ∀ j, j ≠ k → d.get? j = d'.get? j

/-- Two claims differ at most in their hashes. -/
def SameClaim (c c' : Json) : Prop :=
  c = c' ∨ ∃ o o', c.asDict = some o ∧ c'.asDict = some o' ∧ AgreeOff "sha256" o o'

/-- Two updates of artifacts claim the same keys, and differ at most in claimed
hashes. -/
def SameUpdates (u u' : Obj) : Prop :=
  List.Forall₂ (fun e e' => e.1 = e'.1 ∧ SameClaim e.2 e'.2) u.entries u'.entries

/-- Two results are equal except for the hashes in their artifact claims. -/
def SameResult (value value' : Json) : Prop :=
  value = value' ∨ ∃ d d', value.asDict = some d ∧ value'.asDict = some d' ∧
    AgreeOff "artifact_updates" d d' ∧
    ∃ u u', artifactUpdates d = some u ∧ artifactUpdates d' = some u' ∧ SameUpdates u u'

theorem AgreeOff.getStr {k : String} {d d' : Obj} (h : AgreeOff k d d') {p : Char → Bool}
    {j v : String} (hj : j ≠ k) : Obj.getStr p d j v = Obj.getStr p d' j v := by
  rw [Obj.getStr, Obj.getStr, h j hj]

theorem AgreeOff.getOrEmpty {k : String} {d d' : Obj} (h : AgreeOff k d d') {j : String}
    (hj : j ≠ k) : d.getOrEmpty j = d'.getOrEmpty j := by
  rw [Obj.getOrEmpty, Obj.getOrEmpty, h j hj]

theorem SameUpdates.keys {u u' : Obj} (h : SameUpdates u u') : u.keys = u'.keys := by
  unfold SameUpdates at h
  unfold Dict.keys
  generalize u.entries = es at h ⊢
  generalize u'.entries = es' at h ⊢
  induction h with
  | nil => rfl
  | cons he _ ih => rw [List.map_cons, List.map_cons, he.1, ih]

theorem SameUpdates.contains {u u' : Obj} (h : SameUpdates u u') (key : String) :
    u.contains key = u'.contains key := by
  rw [Bool.eq_iff_iff, ← Dict.mem_keys_iff, ← Dict.mem_keys_iff, h.keys]

/-! ### Findings that differ in nothing else -/

/-- A minor finding of G5_PROVE. -/
def minorProof (f : GuardWarning) : Bool := f.checkId == .g5Prove && f.severity == .minor

/-- Two lists of findings differ at most in minor findings of G5_PROVE. -/
def SameFindings (fs fs' : List GuardWarning) : Prop :=
  fs.filter (fun f => !minorProof f) = fs'.filter fun f => !minorProof f

/-- Two pending retries differ at most in their findings. -/
def SamePending : Option GuardRetryPending → Option GuardRetryPending → Prop
  | none, none => True
  | some p, some p' => p = { p' with findings := p.findings } ∧ SameFindings p.findings p'.findings
  | _, _ => False

/-- Two states agree on everything but minor findings of G5_PROVE. -/
structure SameState (s s' : WorkflowState) : Prop where
  rest : s = { s' with warnings := s.warnings, pendingGuardRetry := s.pendingGuardRetry }
  warnings : SameFindings s.warnings s'.warnings
  pending : SamePending s.pendingGuardRetry s'.pendingGuardRetry

theorem SameFindings.refl (fs : List GuardWarning) : SameFindings fs fs := rfl

theorem SameFindings.append {fs fs' gs gs' : List GuardWarning} (h : SameFindings fs fs')
    (h' : SameFindings gs gs') : SameFindings (fs ++ gs) (fs' ++ gs') := by
  unfold SameFindings at *
  rw [List.filter_append, List.filter_append, h, h']

theorem SameFindings.severe {fs fs' : List GuardWarning} (h : SameFindings fs fs') :
    fs.filter (fun f => f.severity == .severe) = fs'.filter fun f => f.severity == .severe := by
  have hsevere : ∀ gs : List GuardWarning, gs.filter (fun f => f.severity == .severe) =
      (gs.filter fun f => !minorProof f).filter fun f => f.severity == .severe := by
    intro gs
    rw [List.filter_filter]
    refine List.filter_congr fun f _ => ?_
    cases hf : f.severity <;> simp [minorProof, hf]
  rw [hsevere fs, hsevere fs', h]

theorem SameFindings.hasSevere {fs fs' : List GuardWarning} (h : SameFindings fs fs') :
    Shrimp.hasSevere fs = Shrimp.hasSevere fs' := by
  have hany : ∀ gs : List GuardWarning, Shrimp.hasSevere gs =
      (gs.filter fun f => f.severity == .severe).any fun _ => true := by
    intro gs
    rw [List.any_filter, Shrimp.hasSevere]
    simp
  rw [hany fs, hany fs', h.severe]

theorem SameFindings.severeIds {fs fs' : List GuardWarning} (h : SameFindings fs fs') :
    Shrimp.severeIds fs = Shrimp.severeIds fs' := by
  rw [Shrimp.severeIds, Shrimp.severeIds, h.severe]

theorem SamePending.refl (p : Option GuardRetryPending) : SamePending p p := by
  cases p with
  | none => trivial
  | some p => exact ⟨rfl, rfl⟩

/-! ### The guard -/

section Guard

variable {env : Env} {w : World} {s : WorkflowState} {value value' : Json} {stage : Stage}
  {expectedArtifacts : List String} {subagentName : String}
  {artifactPaths : Dict String String}

/-- What two checks of artifacts return: the same findings, and the same
references. -/
def SameCheck {α : Type} (r r' : List GuardWarning × α) : Prop :=
  SameFindings r.1 r'.1 ∧ r.2 = r'.2

theorem SameCheck.refl {α : Type} (r : List GuardWarning × α) : SameCheck r r := ⟨rfl, rfl⟩

theorem sameFindings_mismatch (p : Prop) [Decidable p] (f : GuardWarning)
    (hf : minorProof f = true) : SameFindings (if p then [f] else []) [] := by
  unfold SameFindings
  split
  · rw [List.filter_cons_of_neg (by simpa using hf)]
  · rfl

theorem related_verifyArtifact {key : String} {c c' : Json} (h : SameClaim c c') :
    Except.Related SameCheck (verifyArtifact env w artifactPaths stage subagentName key c)
      (verifyArtifact env w artifactPaths stage subagentName key c') := by
  obtain rfl | ⟨o, o', hc, hc', -⟩ := h
  · exact .refl SameCheck.refl _
  simp only [verifyArtifact, hc, hc']
  split
  · exact .ok (SameCheck.refl _)
  refine .bind_same _ fun found => ?_
  split
  · refine .bind_same _ fun bytes => ?_
    refine .ok ⟨?_, rfl⟩
    exact (sameFindings_mismatch _ _ rfl).trans (sameFindings_mismatch _ _ rfl).symm
  · exact .ok (SameCheck.refl _)

theorem related_verifyArtifacts {es es' : List (String × Json)}
    (h : List.Forall₂ (fun e e' => e.1 = e'.1 ∧ SameClaim e.2 e'.2) es es') :
    ∀ {fs fs' : List GuardWarning} {arts : Dict String ArtifactRef}, SameFindings fs fs' →
      Except.Related SameCheck
        (verifyArtifacts env w artifactPaths stage subagentName es fs arts)
        (verifyArtifacts env w artifactPaths stage subagentName es' fs' arts) := by
  induction h with
  | nil =>
    intro fs fs' arts hfs
    exact .ok ⟨hfs, rfl⟩
  | @cons e e' es es' he _ ih =>
    intro fs fs' arts hfs
    obtain ⟨key, c⟩ := e
    obtain ⟨key', c'⟩ := e'
    obtain ⟨rfl, hclaim⟩ := he
    refine (related_verifyArtifact hclaim).bind ?_
    rintro ⟨fk, ref⟩ ⟨fk', ref'⟩ ⟨hfound, href⟩
    cases href
    exact ih (hfs.append hfound)

theorem runAntiDropGuard_congr (h : SameResult value value') :
    runAntiDropGuard env w value stage expectedArtifacts subagentName =
      runAntiDropGuard env w value' stage expectedArtifacts subagentName := by
  obtain rfl | ⟨d, d', hd, hd', hoff, u, u', hu, hu', hup⟩ := h
  · rfl
  have hstatus : checkStatus d = checkStatus d' := by
    simp only [checkStatus, resultStatus, hoff "status" (by decide)]
  have hstage : checkStage env d stage = checkStage env d' stage := by
    simp only [checkStage, hoff "stage" (by decide)]
  have hgate : checkGate d = checkGate d' := by
    simp only [checkGate, resultStatus, hoff "status" (by decide), hoff "gate_result" (by decide)]
  have hdecl : checkDeclared d expectedArtifacts = checkDeclared d' expectedArtifacts := by
    have hmissing : missingArtifacts d expectedArtifacts =
        missingArtifacts d' expectedArtifacts := by
      simp only [missingArtifacts, hu, hu', Option.getD_some, hup.contains]
    simp only [checkDeclared, hmissing]
  have hsummary : checkSummary env d = checkSummary env d' := by
    simp only [checkSummary, hoff "phase_summary" (by decide)]
  simp only [runAntiDropGuard, hd, hd', hstatus, hstage, hgate, hdecl, hsummary]

/-- **The guard finds the same and verifies the same.** -/
theorem related_guardFindings (h : SameResult value value') :
    Except.Related SameCheck
      (guardFindings env w s value stage expectedArtifacts subagentName)
      (guardFindings env w s value' stage expectedArtifacts subagentName) := by
  have hverify : Except.Related SameCheck
      (verifyAndPersistArtifacts env w value s.artifactPaths stage subagentName)
      (verifyAndPersistArtifacts env w value' s.artifactPaths stage subagentName) := by
    obtain rfl | ⟨d, d', hd, hd', -, u, u', hu, hu', hup⟩ := h
    · exact .refl SameCheck.refl _
    simp only [verifyAndPersistArtifacts, hd, hd', Option.bind_some, hu, hu']
    exact related_verifyArtifacts hup (SameFindings.refl [])
  simp only [guardFindings, runAntiDropGuard_congr h]
  refine hverify.bind ?_
  rintro ⟨fs, arts⟩ ⟨fs', arts'⟩ ⟨hfs, harts⟩
  exact .ok ⟨(SameFindings.refl _).append hfs, harts⟩

/-- Findings that differ in nothing else are diverted alike. -/
theorem sameState_handleGuardOutcome (w : World) (s : WorkflowState) (stage : Stage)
    (subagentName : String) {fs fs' : List GuardWarning} (h : SameFindings fs fs') :
    (handleGuardOutcome w s fs stage subagentName = none ∧
        handleGuardOutcome w s fs' stage subagentName = none) ∨
      ∃ s₁ s₂, handleGuardOutcome w s fs stage subagentName = some s₁ ∧
        handleGuardOutcome w s fs' stage subagentName = some s₂ ∧ SameState s₁ s₂ := by
  unfold handleGuardOutcome
  rw [← h.hasSevere]
  split
  · refine Or.inr ?_
    have hwarn : SameFindings (s.warnings ++ fs) (s.warnings ++ fs') :=
      (SameFindings.refl _).append h
    split
    · refine ⟨_, _, rfl, rfl, ?_, hwarn, trivial⟩
      simp only [guardBlocked, h.severeIds]
    · refine ⟨_, _, rfl, rfl, ?_, hwarn, rfl, h⟩
      simp only [guardRetry, h.severeIds]
  · exact Or.inl ⟨rfl, rfl⟩

end Guard

/-! ### Reading a result -/

section Reading

variable {env : Env} {w : World} {s : WorkflowState} {value value' : Json}

theorem SameResult.resultDict (h : SameResult value value') :
    AgreeOff "artifact_updates" (resultDict env value) (resultDict env value') := by
  obtain rfl | ⟨d, d', hd, hd', hoff, -⟩ := h
  · exact fun _ _ => rfl
  · rw [Shrimp.resultDict, Shrimp.resultDict, hd, hd', Option.getD_some, Option.getD_some]
    exact hoff

variable {d d' : Obj}

theorem resultAnswer_congr (h : AgreeOff "artifact_updates" d d') :
    resultAnswer env d = resultAnswer env d' := h.getStr (by decide)

theorem decisionFileSha_congr (h : AgreeOff "artifact_updates" d d') :
    decisionFileSha env d = decisionFileSha env d' := h.getStr (by decide)

theorem auditDecision_congr (h : AgreeOff "artifact_updates" d d') (question idDefault : String) :
    auditDecision env w d question idDefault = auditDecision env w d' question idDefault := by
  have hid : env.getStr d "decision_id" idDefault = env.getStr d' "decision_id" idDefault :=
    h.getStr (by decide)
  have hpath : env.getStr d "_decision_file_path" "" = env.getStr d' "_decision_file_path" "" :=
    h.getStr (by decide)
  simp only [auditDecision, makeDecision, decisionFilePath, hid, hpath, resultAnswer_congr h,
    decisionFileSha_congr h]

theorem parseGateClaim_congr (h : AgreeOff "artifact_updates" d d') (gateName : String) :
    parseGateClaim env d gateName = parseGateClaim env d' gateName := by
  simp only [parseGateClaim, h.getOrEmpty (show "gate_result" ≠ "artifact_updates" by decide)]

theorem reviewPassed_congr (h : AgreeOff "artifact_updates" d d') :
    reviewPassed d = reviewPassed d' := by
  simp only [reviewPassed, h.getOrEmpty (show "gate_result" ≠ "artifact_updates" by decide)]

theorem reviewReasons_congr (h : AgreeOff "artifact_updates" d d') :
    reviewReasons d = reviewReasons d' := by
  simp only [reviewReasons, h.getOrEmpty (show "gate_result" ≠ "artifact_updates" by decide)]

theorem parseReviewClaim_congr (h : AgreeOff "artifact_updates" d d') (gateName : String) :
    parseReviewClaim env d gateName = parseReviewClaim env d' gateName := by
  simp only [parseReviewClaim, reviewPassed_congr h, reviewReasons_congr h,
    h.getOrEmpty (show "gate_result" ≠ "artifact_updates" by decide)]

theorem handoffNote_congr (h : AgreeOff "artifact_updates" d d') :
    handoffNote env d = handoffNote env d' := by
  simp only [handoffNote, h.getOrEmpty (show "phase_summary" ≠ "artifact_updates" by decide)]

theorem consumeSubagentResult_congr (h : SameResult value value') (stage : Stage)
    (gateName question idDefault : String) :
    consumeSubagentResult env w s value stage gateName question idDefault =
      consumeSubagentResult env w s value' stage gateName question idDefault := by
  have hoff : AgreeOff "artifact_updates" (resultDict env value) (resultDict env value') :=
    h.resultDict
  simp only [consumeSubagentResult, auditDecision_congr hoff, parseGateClaim_congr hoff,
    resultAnswer_congr hoff,
    hoff.getOrEmpty (show "phase_summary" ≠ "artifact_updates" by decide)]

theorem parseSubtaskPlan_congr (h : SameResult value value') :
    parseSubtaskPlan env value = parseSubtaskPlan env value' := by
  obtain rfl | ⟨d, d', hd, hd', hoff, -⟩ := h
  · rfl
  · simp only [parseSubtaskPlan, hd, hd', Option.bind_some, hoff "subtask_plan" (by decide)]

theorem consultation_congr (h : SameResult value value') :
    (value.asDict.map (hasConsultation env)).getD false =
      (value'.asDict.map (hasConsultation env)).getD false := by
  obtain rfl | ⟨d, d', hd, hd', hoff, -⟩ := h
  · rfl
  · simp only [hd, hd', Option.map_some, hasConsultation, hoff "dev_consultation" (by decide)]

end Reading

/-! ### Two executions -/

section Runs

variable {env : Env} {w : World} {n : Node} {s s₁ s₂ : WorkflowState} {value value' : Json}

theorem SameState.refl (s : WorkflowState) : SameState s s := ⟨rfl, rfl, SamePending.refl _⟩

theorem SameState.clearPending (h : SameState s₁ s₂) (p : Option GuardRetryPending) :
    SameState (clearPending p s₁) (clearPending p s₂) := by
  unfold Shrimp.clearPending
  split
  · refine ⟨?_, h.warnings, trivial⟩
    rw [h.rest]
  · exact h

/-- **A dispatch on results that differ in nothing else.** -/
theorem related_dispatchNode (h : SameResult value value') {stage : Stage}
    {subagentName : String} {expectedArtifacts : List String}
    {accept accept' : List GuardWarning → Dict String ArtifactRef → Except PyError WorkflowState}
    (hacc : ∀ fs fs' arts, SameFindings fs fs' →
      Except.Related SameState (accept fs arts) (accept' fs' arts)) :
    Except.Related SameState
      (dispatchNode env w s stage subagentName expectedArtifacts value accept)
      (dispatchNode env w s stage subagentName expectedArtifacts value' accept') := by
  simp only [dispatchNode, runFullGuardCheck, bind_assoc]
  refine (related_guardFindings h).bind ?_
  rintro ⟨fs, arts⟩ ⟨fs', _⟩ ⟨hfs, rfl⟩
  obtain ⟨hnone, hnone'⟩ | ⟨s₁, s₂, hsome, hsome', hsame⟩ :=
    sameState_handleGuardOutcome w s stage subagentName hfs
  · simp only [pure_bind, hnone, hnone']
    refine (hacc fs fs' arts hfs).bind ?_
    intro s₁ s₂ hsame
    exact .ok (hsame.clearPending _)
  · simp only [pure_bind, hsome, hsome']
    exact .ok hsame

/-- **A node on results that differ in nothing else.** -/
theorem related_run (hn : n ∈ Node.dispatches) (h : SameResult value value') :
    Except.Related SameState (n.run env w s value) (n.run env w s value') := by
  -- the nodes read of the result only members other than the claims, and those agree
  have hoff : AgreeOff "artifact_updates" (resultDict env value) (resultDict env value') :=
    h.resultDict
  have hsummary : (resultDict env value).getOrEmpty "phase_summary" =
      (resultDict env value').getOrEmpty "phase_summary" := hoff.getOrEmpty (by decide)
  cases n with
  | pmPhase =>
    simp only [Node.run, pmPhaseNode]
    refine related_dispatchNode h fun fs fs' arts hfs => ?_
    rw [consumeSubagentResult_congr h]
    refine .bind_same _ fun consumed => ?_
    exact .ok ⟨rfl, (SameFindings.refl _).append hfs, SamePending.refl _⟩
  | planningPhase =>
    simp only [Node.run, planningPhaseNode]
    refine related_dispatchNode h fun fs fs' arts hfs => ?_
    have hwarn : SameFindings (s.warnings ++ fs) (s.warnings ++ fs') :=
      (SameFindings.refl _).append hfs
    rw [consumeSubagentResult_congr h, consultation_congr h, parseSubtaskPlan_congr h]
    -- the planner's node: blocked, a question, a question beyond the limit, or a plan
    refine .bind_same _ fun consumed => ?_
    extract_lets
    split
    · exact .ok ⟨rfl, hwarn, SamePending.refl _⟩
    split
    · exact .ok ⟨rfl, hwarn, SamePending.refl _⟩
    split
    · exact .ok ⟨rfl, hwarn.append (SameFindings.refl _), SamePending.refl _⟩
    · exact .ok ⟨rfl, hwarn, SamePending.refl _⟩
  | planningDevConsult =>
    simp only [Node.run, planningDevConsultNode]
    refine related_dispatchNode h fun fs fs' arts hfs => ?_
    simp only [auditDecision_congr hoff, decisionFileSha_congr hoff, resultAnswer_congr hoff]
    exact .ok ⟨rfl, (SameFindings.refl _).append hfs, SamePending.refl _⟩
  | devSubtaskDispatch =>
    simp only [Node.run, devSubtaskDispatchNode]
    split
    · exact .refl SameState.refl _
    refine related_dispatchNode h fun fs fs' arts hfs => ?_
    simp only [auditDecision_congr hoff, devPartial, handoffNote_congr hoff,
      decisionFileSha_congr hoff, resultAnswer_congr hoff]
    exact .ok ⟨rfl, (SameFindings.refl _).append hfs, SamePending.refl _⟩
  | devCodexReview =>
    simp only [Node.run, devCodexReviewNode]
    split
    · exact .refl SameState.refl _
    refine related_dispatchNode h fun fs fs' arts hfs => ?_
    simp only [auditDecision_congr hoff, codexMerged, handoffNote_congr hoff,
      decisionFileSha_congr hoff, resultAnswer_congr hoff, reviewPassed_congr hoff,
      reviewReasons_congr hoff]
    refine .bind_same _ fun reasons => ?_
    exact .ok ⟨rfl, (SameFindings.refl _).append hfs, SamePending.refl _⟩
  | revDispatch =>
    simp only [Node.run, revDispatchNode]
    refine related_dispatchNode h fun fs fs' arts hfs => ?_
    simp only [auditDecision_congr hoff, resultAnswer_congr hoff, parseReviewClaim_congr hoff,
      hsummary]
    refine .bind_same _ fun summary => ?_
    refine .bind_same _ fun claim => ?_
    exact .ok ⟨rfl, (SameFindings.refl _).append hfs, SamePending.refl _⟩
  | revCodexFinal =>
    simp only [Node.run, revCodexFinalNode]
    refine related_dispatchNode h fun fs fs' arts hfs => ?_
    simp only [auditDecision_congr hoff, resultAnswer_congr hoff, parseReviewClaim_congr hoff,
      hsummary]
    refine .bind_same _ fun summary => ?_
    refine .bind_same _ fun claim => ?_
    exact .ok ⟨rfl, (SameFindings.refl _).append hfs, SamePending.refl _⟩
  | _ => exact absurd hn (by decide)

theorem SameState.successor (h : SameState s₁ s₂) (n : Node) : n.successor s₁ = n.successor s₂ := by
  have hstage : s₁.stage = s₂.stage := by rw [h.rest]
  have hpending : s₁.pendingGuardRetry.isSome = s₂.pendingGuardRetry.isSome := by
    have hsame := h.pending
    cases hp₁ : s₁.pendingGuardRetry with
    | none =>
      cases hp₂ : s₂.pendingGuardRetry with
      | none => rfl
      | some p₂ =>
        rw [hp₁, hp₂] at hsame
        exact absurd hsame id
    | some p₁ =>
      cases hp₂ : s₂.pendingGuardRetry with
      | none =>
        rw [hp₁, hp₂] at hsame
        exact absurd hsame id
      | some p₂ => rfl
  cases n <;>
    simp only [Node.successor, routeDispatchOutcome, routeAfterPlanning, routeAfterGate1,
      routeAfterGate15, routeAfterGate2, routeAfterGate3, routeAfterDevLoop, hstage, hpending]

/-! ### References -/

/-- A reference to the registered path of its key, with the hash of the file as
it is on disk. -/
def Genuine (env : Env) (w : World) (artifactPaths : Dict String String) (key : String)
    (ref : ArtifactRef) : Prop :=
  artifactPaths.get? key = some ref.path ∧
    ∃ bytes, w.readBytes ref.path = .ok bytes ∧ ref.sha256 = env.hexdigest bytes

theorem genuine_of_verifyArtifact {artifactPaths : Dict String String} {stage : Stage}
    {subagentName key : String} {claim : Json} {fs : List GuardWarning} {ref : ArtifactRef}
    (h : verifyArtifact env w artifactPaths stage subagentName key claim = .ok (fs, some ref)) :
    Genuine env w artifactPaths key ref := by
  unfold verifyArtifact at h
  split at h
  · cases h
  extract_lets path at h
  split at h
  · cases h
  next hpath =>
  simp only [bind_eq_ok] at h
  obtain ⟨found, -, h⟩ := h
  split at h
  · simp only [bind_eq_ok] at h
    obtain ⟨bytes, hbytes, h⟩ := h
    cases h
    refine ⟨?_, bytes, hbytes, rfl⟩
    -- a file is hashed only under a path that the state has for its key
    change artifactPaths.get? key = some (artifactPaths.getD key "")
    cases hget : artifactPaths.get? key with
    | none =>
      refine absurd ?_ hpath
      change artifactPaths.getD key "" = ""
      rw [Dict.getD, hget]
      rfl
    | some p => rw [Dict.getD, hget, Option.getD_some]
  · cases h

theorem genuine_of_verifyArtifacts {artifactPaths : Dict String String} {stage : Stage}
    {subagentName : String} {entries : List (String × Json)} :
    ∀ {findings fs : List GuardWarning} {arts arts' : Dict String ArtifactRef},
      verifyArtifacts env w artifactPaths stage subagentName entries findings arts =
        .ok (fs, arts') →
      (∀ key ref, arts.get? key = some ref → Genuine env w artifactPaths key ref) →
      ∀ key ref, arts'.get? key = some ref → Genuine env w artifactPaths key ref := by
  induction entries with
  | nil =>
    intro findings fs arts arts' h harts
    cases h
    exact harts
  | cons e entries ih =>
    intro findings fs arts arts' h harts
    simp only [verifyArtifacts, bind_eq_ok] at h
    obtain ⟨⟨fk, ref⟩, hround, h⟩ := h
    refine ih h ?_
    -- a round that verifies adds its reference, any other none
    cases ref with
    | none => exact harts
    | some r =>
      intro key ref hget
      rw [Dict.get?_insert] at hget
      split at hget
      · next hkey =>
        cases hget
        rw [hkey]
        exact genuine_of_verifyArtifact hround
      · exact harts key ref hget

/-- **What is verified is as it is on disk.** -/
theorem genuine_of_guardFindings {stage : Stage} {expectedArtifacts : List String}
    {subagentName : String} {findings : List GuardWarning} {artifacts : Dict String ArtifactRef}
    (h : guardFindings env w s value stage expectedArtifacts subagentName =
      .ok (findings, artifacts)) :
    ∀ key ref, artifacts.get? key = some ref → Genuine env w s.artifactPaths key ref := by
  have hempty : ∀ key ref, (∅ : Dict String ArtifactRef).get? key = some ref →
      Genuine env w s.artifactPaths key ref := by
    intro key ref hget
    cases hget
  simp only [guardFindings, bind_eq_ok] at h
  obtain ⟨⟨proved, arts⟩, hverify, h⟩ := h
  cases h
  rw [verifyAndPersistArtifacts] at hverify
  split at hverify
  · cases hverify
    exact hempty
  · exact genuine_of_verifyArtifacts hverify hempty

theorem exists_written (h : Returns env w s value n s₁) (hn : n ∈ Node.dispatches) :
    ∃ written, s₁.artifacts = s.artifacts.merge written ∧
      ∀ key ref, written.get? key = some ref → Genuine env w s.artifactPaths key ref := by
  -- the nodes that write no artifact
  have hnone : s₁.artifacts = s.artifacts → ∃ written,
      s₁.artifacts = s.artifacts.merge written ∧
        ∀ key ref, written.get? key = some ref → Genuine env w s.artifactPaths key ref := by
    intro heq
    refine ⟨∅, heq, ?_⟩
    intro key ref hget
    cases hget
  cases h with
  | guard _ _ hout =>
    obtain ⟨-, ⟨-, rfl⟩ | ⟨-, rfl⟩⟩ := handleGuardOutcome_cases w hout <;> exact hnone rfl
  | noCurrent => exact hnone rfl
  | pm _ hpass _ => exact ⟨_, rfl, genuine_of_guardFindings hpass.1⟩
  | planBlocked _ hpass _ => exact ⟨_, rfl, genuine_of_guardFindings hpass.1⟩
  | planAsks _ hpass _ => exact ⟨_, rfl, genuine_of_guardFindings hpass.1⟩
  | planned _ hpass _ _ => exact ⟨_, rfl, genuine_of_guardFindings hpass.1⟩
  | consult => exact hnone rfl
  | dev _ hpass => exact ⟨_, rfl, genuine_of_guardFindings hpass.1⟩
  | codex => exact hnone rfl
  | rev _ hpass _ => exact ⟨_, rfl, genuine_of_guardFindings hpass.1⟩
  | codexFinal => exact hnone rfl
  | @answered gate => cases gate <;> exact absurd hn (by decide)
  | @refused gate => cases gate <;> exact absurd hn (by decide)
  | @rolledBack gate => cases gate <;> exact absurd hn (by decide)
  | _ => exact absurd hn (by decide)

/-- **Claimed hashes have no influence.**  On two results that differ in nothing
else a dispatch raises the same, or leaves states that agree on everything but
minor findings of G5_PROVE by the same edge; and what it writes of artifacts is
as it is on disk. -/
theorem claimedHash_inert (hn : n ∈ Node.dispatches) (h : SameResult value value') :
    Except.Related (fun s₁ s₂ => SameState s₁ s₂ ∧ n.successor s₁ = n.successor s₂)
        (n.run env w s value) (n.run env w s value') ∧
      ∀ s', n.run env w s value = .ok s' → ∃ written,
        s'.artifacts = s.artifacts.merge written ∧
          ∀ key ref, written.get? key = some ref → Genuine env w s.artifactPaths key ref := by
  constructor
  · refine (related_run hn h).mono ?_
    intro s₁ s₂ hsame
    exact ⟨hsame, hsame.successor n⟩
  · intro s' hrun
    exact exists_written (returns_of_run hrun) hn

end Runs

/-- A PM result that claims a hash for one artifact. -/
def claimsHash (sha : String) : Json :=
  .obj [("status", .str "done"),
    ("artifact_updates", .obj [("pm_spec", .obj [("sha256", .str sha)])])]

theorem sameResult_claimsHash (sha sha' : String) :
    SameResult (claimsHash sha) (claimsHash sha') := by
  refine Or.inr ⟨_, _, rfl, rfl, ?_, _, _, rfl, rfl, ?_⟩
  · intro j hj
    exact (Dict.get?_insert_of_ne _ _ hj).trans (Dict.get?_insert_of_ne _ _ hj).symm
  · refine .cons ⟨rfl, Or.inr ⟨_, _, rfl, rfl, ?_⟩⟩ .nil
    intro j hj
    exact (Dict.get?_insert_of_ne _ _ hj).trans (Dict.get?_insert_of_ne _ _ hj).symm

/-- A right and a wrong hash lead to the same state. -/
theorem claimedHash_inert_sample : ∃ s₁ s₂,
    Node.pmPhase.run sampleEnv (worldWith "spec") (initNode sampleWorld sampleStart.state)
        (claimsHash "e3b0c44298fc") = .ok s₁ ∧
      Node.pmPhase.run sampleEnv (worldWith "spec") (initNode sampleWorld sampleStart.state)
        (claimsHash "0") = .ok s₂ ∧ SameState s₁ s₂ := by
  have hruns : (Node.pmPhase.run sampleEnv (worldWith "spec")
      (initNode sampleWorld sampleStart.state) (claimsHash "e3b0c44298fc")).toOption.isSome := by
    decide +kernel
  obtain ⟨s₁, hs₁⟩ := Option.isSome_iff_exists.mp hruns
  have hs₁ := ok_of_toOption hs₁
  have hrel : Except.Related
      (fun s₁ s₂ => SameState s₁ s₂ ∧ Node.pmPhase.successor s₁ = Node.pmPhase.successor s₂)
      (.ok s₁) (Node.pmPhase.run sampleEnv (worldWith "spec")
        -- `sameResult_claimsHash` gives the second run from the first
        (initNode sampleWorld sampleStart.state) (claimsHash "0")) := by
    rw [← hs₁]
    exact (claimedHash_inert (by decide) (sameResult_claimsHash "e3b0c44298fc" "0")).1
  obtain ⟨s₂, hs₂, hsame, -⟩ := hrel.exists_of_ok
  exact ⟨s₁, s₂, hs₁, hs₂, hsame⟩

end Shrimp
