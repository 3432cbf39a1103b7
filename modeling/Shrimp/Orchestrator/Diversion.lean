import Shrimp.Orchestrator.Artifacts
import Shrimp.Orchestrator.Returns

/-!
# Diverted results

A result the guard finds severe fault with is diverted: the dispatch is retried
with a hint or the workflow blocks.  What counts as severe is said here in terms
of the result and of the files it claims, and a diversion leaves the work alone.

The artifact check asks for every claimed file, and hashes those that are there.
An error of the file system on the way is raised through the node: nothing is
diverted then, however faulty the result is.

## Main definitions

* `LegalStatus`, `StageDrift`, `claimedPaths` — what the guard looks at.
* `Rejectable` — a result that has to be diverted.
* `LooksAt` — a claimed file can be asked for, and read when it is there.
* `IsDiversion`, `KeepsWork` — the update of a diversion, and its frame.
* `DivertsRightly` — a dispatch diverts what has to be diverted, and nothing
  else, and leaves the work alone.

## Main results

* `hasSevere_guardFindings` — the guard finds severe fault with what has to be
  diverted.
* `guardFindings_isOk_iff` — the guard returns when every claimed file can be
  looked at.
* `divertsRightly_iff` — **a dispatch diverts rightly** exactly when the files of
  a result that has to be diverted can be looked at.
-/

namespace Shrimp

/-! ### What has to be diverted -/

/-- The status exists and is one of the three. -/
def LegalStatus (d : Obj) : Prop := ∃ status ∈ validStatuses, d.get? "status" = some (.str status)

/-- A declared stage is not the stage of the dispatch. -/
def StageDrift (env : Env) (d : Obj) (stage : Stage) : Prop :=
  ∃ declared, d.get? "stage" = some declared ∧ declared.isNull = false ∧
    declared.pyStr env.isPrintable ≠ stage.value

/-- The path of the file a claim is about: the claim is an object and its key is
registered. -/
def claimedPath (artifactPaths : Dict String String) (entry : String × Json) : Option String :=
  if entry.2.asDict.isSome ∧ artifactPaths.getD entry.1 "" ≠ "" then
    some (artifactPaths.getD entry.1 "")
  else none

/-- The paths of the files a result claims. -/
def claimedPaths (artifactPaths : Dict String String) (value : Json) : List String :=
  match value.asDict.bind artifactUpdates with
  | none => []
  | some updates => updates.entries.filterMap (claimedPath artifactPaths)

/-- A result that has to be diverted. -/
def Rejectable (env : Env) (w : World) (s : WorkflowState) (value : Json) (stage : Stage) :
    Prop :=
  value.asDict = none ∨
    (∃ d, value.asDict = some d ∧ (¬LegalStatus d ∨ StageDrift env d stage)) ∨
    ∃ path ∈ claimedPaths s.artifactPaths value, w.pathExists path = .ok false

/-- A file can be asked for, and read when it is there. -/
def LooksAt (w : World) (path : String) : Prop :=
  ∃ found, w.pathExists path = .ok found ∧ (found = true → ∃ bytes, w.readBytes path = .ok bytes)

section Guard

variable {env : Env} {w : World} {s s' : WorkflowState} {value : Json} {stage : Stage}
  {expectedArtifacts : List String} {subagentName : String}

/-! ### Severe findings -/

theorem hasSevere_append (fs gs : List GuardWarning) :
    hasSevere (fs ++ gs) = (hasSevere fs || hasSevere gs) := List.any_append

theorem hasSevere_map_of_minor {fs : List (CheckId × Severity × Detail)}
    (h : ∀ f ∈ fs, f.2.1 = .minor) : hasSevere (fs.map (guardWarning w stage subagentName)) =
      false := by
  rw [hasSevere, List.any_map, List.any_eq_false]
  intro f hf
  simp [guardWarning, h f hf]

theorem hasSevere_checkStatus (d : Obj) :
    hasSevere ((checkStatus d).map (guardWarning w stage subagentName)) = true ↔
      ¬LegalStatus d := by
  unfold checkStatus resultStatus LegalStatus
  split
  -- no status, a text, or a value that is no text
  · next h =>
    refine iff_of_true rfl ?_
    rintro ⟨status, -, hstatus⟩
    rw [hstatus] at h
    cases h
  · next status h =>
    have hget : d.get? "status" = some (.str status) := by
      split at h
      · cases h
      · exact h
    split
    · next hmem => exact iff_of_false Bool.false_ne_true (fun hnot => hnot ⟨status, hmem, hget⟩)
    · next hmem =>
      refine iff_of_true rfl ?_
      rintro ⟨status', hmem', hstatus'⟩
      rw [hget] at hstatus'
      cases hstatus'
      exact hmem hmem'
  · next x hx h =>
    refine iff_of_true rfl ?_
    rintro ⟨status, -, hstatus⟩
    rw [hstatus] at h
    exact hx status (Option.some.inj h).symm

theorem hasSevere_checkStage (d : Obj) (current : Stage) :
    hasSevere ((checkStage env d current).map (guardWarning w stage subagentName)) = true ↔
      StageDrift env d current := by
  unfold checkStage StageDrift
  split
  · next h => simp [h, hasSevere]
  · next h => simp [h, hasSevere, Json.isNull]
  · next x hx h =>
    have hnull : x.isNull = false := by
      cases x with
      | null => exact absurd rfl hx
      | _ => rfl
    split
    · next heq => simp [h, hasSevere, hnull, heq]
    · next hne =>
      refine iff_of_true rfl ⟨x, h, hnull, hne⟩

theorem minor_of_checks (d : Obj) :
    ∀ f ∈ checkGate d ++ checkDeclared d expectedArtifacts ++ checkSummary env d,
      f.2.1 = .minor := by
  -- each of the other checks makes minor findings only
  have hgate : ∀ f ∈ checkGate d, f.2.1 = .minor := by
    unfold checkGate
    repeat' split
    all_goals simp
  have hdecl : ∀ f ∈ checkDeclared d expectedArtifacts, f.2.1 = .minor := by
    unfold checkDeclared
    split <;> simp
  have hsummary : ∀ f ∈ checkSummary env d, f.2.1 = .minor := by
    unfold checkSummary
    split
    · simp
    extract_lets note
    repeat' split
    all_goals simp
  intro f hf
  simp only [List.mem_append] at hf
  rcases hf with (hf | hf) | hf
  · exact hgate f hf
  · exact hdecl f hf
  · exact hsummary f hf

/-- **The declarative checks find severe fault** with a result that is not an
object, with its status, or with its stage. -/
theorem hasSevere_runAntiDropGuard :
    hasSevere (runAntiDropGuard env w value stage expectedArtifacts subagentName) = true ↔
      value.asDict = none ∨
        ∃ d, value.asDict = some d ∧ (¬LegalStatus d ∨ StageDrift env d stage) := by
  unfold runAntiDropGuard
  split
  · next h => exact iff_of_true rfl (Or.inl h)
  · next d h =>
    have hrest : hasSevere ((checkGate d ++ checkDeclared d expectedArtifacts ++
        checkSummary env d).map (guardWarning w stage subagentName)) = false :=
      hasSevere_map_of_minor (minor_of_checks d)
    rw [show checkStatus d ++ checkStage env d stage ++ checkGate d ++
        checkDeclared d expectedArtifacts ++ checkSummary env d =
      checkStatus d ++ (checkStage env d stage ++
        (checkGate d ++ checkDeclared d expectedArtifacts ++ checkSummary env d)) by
      simp only [List.append_assoc]]
    rw [List.map_append, List.map_append, hasSevere_append, hasSevere_append, hrest,
      Bool.or_false, Bool.or_eq_true, hasSevere_checkStatus, hasSevere_checkStage]
    constructor
    · intro hbad
      exact Or.inr ⟨d, h, hbad⟩
    · rintro (hnone | ⟨d', hd', hbad⟩)
      · rw [h] at hnone
        cases hnone
      · rw [h] at hd'
        cases hd'
        exact hbad

/-! ### The artifact check -/

theorem verifyArtifact_of_none {artifactPaths : Dict String String} {entry : String × Json}
    (h : claimedPath artifactPaths entry = none) :
    ∃ fs, verifyArtifact env w artifactPaths stage subagentName entry.1 entry.2 = .ok (fs, none) ∧
      hasSevere fs = false := by
  unfold claimedPath at h
  unfold verifyArtifact
  split
  · exact ⟨[], rfl, rfl⟩
  · next c hc =>
    extract_lets path
    have hpath : path = "" := by
      by_contra hne
      rw [if_pos ⟨by rw [hc]; rfl, hne⟩] at h
      cases h
    rw [if_pos hpath]
    exact ⟨_, rfl, rfl⟩

/-- A claim that is looked at: its file is missing, or it is hashed. -/
theorem verifyArtifact_of_some {artifactPaths : Dict String String} {entry : String × Json}
    {path : String} (h : claimedPath artifactPaths entry = some path) :
    ((∃ r, verifyArtifact env w artifactPaths stage subagentName entry.1 entry.2 = .ok r) ↔
        LooksAt w path) ∧
      ∀ fs ref, verifyArtifact env w artifactPaths stage subagentName entry.1 entry.2 =
        .ok (fs, ref) → (hasSevere fs = true ↔ w.pathExists path = .ok false) := by
  -- the look-up raises, the file is missing, or it is there and reading it may raise
  unfold claimedPath at h
  split at h
  · next hcond =>
    obtain ⟨hclaim, hpath⟩ := hcond
    obtain ⟨c, hc⟩ := Option.isSome_iff_exists.mp hclaim
    cases h
    unfold verifyArtifact LooksAt
    simp only [hc, if_neg hpath]
    cases hfound : w.pathExists (artifactPaths.getD entry.1 "") with
    | error e => simp [bind, Except.bind]
    | ok found =>
      cases found with
      | false => simp [bind, Except.bind, pure, Except.pure, hasSevere, guardWarning]
      | true =>
        cases hbytes : w.readBytes (artifactPaths.getD entry.1 "") with
        | error e => simp [bind, Except.bind]
        | ok bytes =>
          refine ⟨iff_of_true ⟨_, rfl⟩ ⟨true, rfl, fun _ => ⟨bytes, rfl⟩⟩, fun fs ref hround => ?_⟩
          cases hround
          refine iff_of_false ?_ (by simp)
          split <;> simp [hasSevere, guardWarning]
  · cases h

/-- **The artifact check returns** when every claimed file can be looked at. -/
theorem verifyArtifacts_isOk_iff {artifactPaths : Dict String String}
    {entries : List (String × Json)} :
    ∀ {findings : List GuardWarning} {arts : Dict String ArtifactRef},
      (∃ r, verifyArtifacts env w artifactPaths stage subagentName entries findings arts =
        .ok r) ↔
      ∀ path ∈ entries.filterMap (claimedPath artifactPaths), LooksAt w path := by
  induction entries with
  | nil =>
    intro findings arts
    exact iff_of_true ⟨_, rfl⟩ (by simp)
  | cons entry entries ih =>
    -- the loop returns when the first round and the others do
    intro findings arts
    have hstep : (∃ r, verifyArtifacts env w artifactPaths stage subagentName (entry :: entries)
          findings arts = .ok r) ↔
        (∃ r, verifyArtifact env w artifactPaths stage subagentName entry.1 entry.2 = .ok r) ∧
          ∀ path ∈ entries.filterMap (claimedPath artifactPaths), LooksAt w path := by
      simp only [verifyArtifacts, bind_eq_ok]
      constructor
      · rintro ⟨r, ⟨fs, ref⟩, hround, hrest⟩
        exact ⟨⟨_, hround⟩, ih.mp ⟨r, hrest⟩⟩
      · rintro ⟨⟨⟨fs, ref⟩, hround⟩, hrest⟩
        obtain ⟨r, hr⟩ := ih.mpr hrest
        exact ⟨r, (fs, ref), hround, hr⟩
    rw [hstep]
    cases hpath : claimedPath artifactPaths entry with
    | none =>
      have hround : ∃ r, verifyArtifact env w artifactPaths stage subagentName entry.1 entry.2 =
          .ok r := by
        obtain ⟨fs, hround, -⟩ := verifyArtifact_of_none hpath
        exact ⟨_, hround⟩
      rw [List.filterMap_cons_none hpath]
      exact and_iff_right hround
    | some path =>
      rw [List.filterMap_cons_some hpath, (verifyArtifact_of_some hpath).1, List.forall_mem_cons]

/-- **The artifact check finds severe fault** with a claimed file that is not
there. -/
theorem hasSevere_verifyArtifacts {artifactPaths : Dict String String}
    {entries : List (String × Json)} :
    ∀ {findings fs : List GuardWarning} {arts arts' : Dict String ArtifactRef},
      verifyArtifacts env w artifactPaths stage subagentName entries findings arts =
        .ok (fs, arts') →
      (hasSevere fs = true ↔ hasSevere findings = true ∨
        ∃ path ∈ entries.filterMap (claimedPath artifactPaths), w.pathExists path = .ok false) := by
  induction entries with
  | nil =>
    intro findings fs arts arts' h
    cases h
    simp
  | cons entry entries ih =>
    intro findings fs arts arts' h
    simp only [verifyArtifacts, bind_eq_ok] at h
    obtain ⟨⟨fk, ref⟩, hround, h⟩ := h
    rw [ih h, hasSevere_append, Bool.or_eq_true, or_assoc]
    cases hpath : claimedPath artifactPaths entry with
    | none =>
      -- a claim that is not looked at leaves only minor findings
      have hminor : hasSevere fk = false := by
        obtain ⟨fk', hround', hminor⟩ := verifyArtifact_of_none hpath
        rw [hround] at hround'
        cases hround'
        exact hminor
      rw [List.filterMap_cons_none hpath, hminor]
      simp
    | some path =>
      rw [List.filterMap_cons_some hpath, (verifyArtifact_of_some hpath).2 _ _ hround,
        List.exists_mem_cons_iff]

/-! ### The whole guard -/

/-- **The guard returns** when every claimed file can be looked at. -/
theorem guardFindings_isOk_iff :
    (∃ r, guardFindings env w s value stage expectedArtifacts subagentName = .ok r) ↔
      ∀ path ∈ claimedPaths s.artifactPaths value, LooksAt w path := by
  have hverify : (∃ r, guardFindings env w s value stage expectedArtifacts subagentName = .ok r) ↔
      ∃ r, verifyAndPersistArtifacts env w value s.artifactPaths stage subagentName = .ok r := by
    simp only [guardFindings, bind_eq_ok]
    constructor
    · rintro ⟨_, r, hr, -⟩
      exact ⟨r, hr⟩
    · rintro ⟨r, hr⟩
      exact ⟨_, r, hr, rfl⟩
  rw [hverify, verifyAndPersistArtifacts, claimedPaths]
  cases value.asDict.bind artifactUpdates with
  | none => exact iff_of_true ⟨_, rfl⟩ (by simp)
  | some updates => exact verifyArtifacts_isOk_iff

/-- **The guard finds severe fault** with what has to be diverted. -/
theorem hasSevere_guardFindings {findings : List GuardWarning}
    {artifacts : Dict String ArtifactRef}
    (h : guardFindings env w s value stage expectedArtifacts subagentName =
      .ok (findings, artifacts)) :
    hasSevere findings = true ↔ Rejectable env w s value stage := by
  simp only [guardFindings, bind_eq_ok] at h
  obtain ⟨⟨proved, arts⟩, hverify, h⟩ := h
  cases h
  have hproved : hasSevere proved = true ↔
      ∃ path ∈ claimedPaths s.artifactPaths value, w.pathExists path = .ok false := by
    rw [verifyAndPersistArtifacts] at hverify
    rw [claimedPaths]
    cases hup : value.asDict.bind artifactUpdates with
    | none =>
      rw [hup] at hverify
      cases hverify
      exact iff_of_false Bool.false_ne_true (by simp)
    | some updates =>
      rw [hup] at hverify
      rw [hasSevere_verifyArtifacts hverify]
      exact or_iff_right Bool.false_ne_true
  rw [hasSevere_append, Bool.or_eq_true, hasSevere_runAntiDropGuard, hproved, Rejectable, or_assoc]

end Guard

/-! ### Diversions -/

/-- The update of a diversion: a hinted retry, or a workflow that blocks. -/
def IsDiversion (w : World) (s : WorkflowState) (t : Target) (s' : WorkflowState) : Prop :=
  ∃ findings, s' = guardRetry w s findings t.stage t.subagent ∨
    s' = guardBlocked w s findings t.stage t.subagent

/-- A diversion touches the bookkeeping of the guard and nothing of the work. -/
structure KeepsWork (s s' : WorkflowState) : Prop where
  work : s' = { s with
    stage := s'.stage
    warnings := s'.warnings
    guardRetries := s'.guardRetries
    pendingGuardRetry := s'.pendingGuardRetry
    stageLog := s'.stageLog
    updatedAt := s'.updatedAt }
  stage : s'.stage = s.stage ∨ s'.stage = .blocked

/-- The dispatches that are read-only. -/
def Node.readOnly : List Node := [.planningDevConsult, .devCodexReview, .revCodexFinal]

/-- A dispatch diverts what has to be diverted, and nothing else, and leaves the
work alone; a read-only dispatch writes no artifacts. -/
structure DivertsRightly (env : Env) (w : World) (n : Node) (t : Target) (s : WorkflowState)
    (value : Json) : Prop where
  diverts : (∃ s', n.run env w s value = .ok s' ∧ IsDiversion w s t s') ↔
    Rejectable env w s value t.stage
  keeps : ∀ s', n.run env w s value = .ok s' → IsDiversion w s t s' → KeepsWork s s'
  artifacts : n ∈ Node.readOnly → ∀ s', n.run env w s value = .ok s' → s'.artifacts = s.artifacts

section Diversion

variable {env : Env} {w : World} {n : Node} {t : Target} {s s' : WorkflowState} {value : Json}

theorem IsDiversion.keepsWork (h : IsDiversion w s t s') : KeepsWork s s' := by
  obtain ⟨findings, rfl | rfl⟩ := h
  · exact ⟨rfl, Or.inl rfl⟩
  · exact ⟨rfl, Or.inr rfl⟩

theorem isDiversion_of_handleGuardOutcome {findings : List GuardWarning}
    (h : handleGuardOutcome w s findings t.stage t.subagent = some s') :
    IsDiversion w s t s' := by
  obtain ⟨-, ⟨-, rfl⟩ | ⟨-, rfl⟩⟩ := handleGuardOutcome_cases w h
  · exact ⟨findings, Or.inr rfl⟩
  · exact ⟨findings, Or.inl rfl⟩

/-- A node that dispatches has the shape of a dispatch node. -/
theorem exists_accept_of_target (ht : n.target s = some t) :
    ∃ accept, n.run env w s value =
      dispatchNode env w s t.stage t.subagent t.expectedArtifacts value accept := by
  have hsubtask : ∀ {f : SubtaskSpec → Target}, (currentSubtask s).map f = some t →
      ∃ subtask, currentSubtask s = some subtask ∧ f subtask = t :=
    fun h => Option.map_eq_some_iff.mp h
  cases n with
  | pmPhase =>
    cases ht
    rw [Node.run, pmPhaseNode]
    exact ⟨_, rfl⟩
  | planningPhase =>
    cases ht
    rw [Node.run, planningPhaseNode]
    exact ⟨_, rfl⟩
  | planningDevConsult =>
    cases ht
    rw [Node.run, planningDevConsultNode]
    exact ⟨_, rfl⟩
  | devSubtaskDispatch =>
    obtain ⟨subtask, hsub, rfl⟩ := hsubtask ht
    rw [Node.run, devSubtaskDispatchNode, hsub]
    exact ⟨_, rfl⟩
  | devCodexReview =>
    obtain ⟨subtask, hsub, rfl⟩ := hsubtask ht
    rw [Node.run, devCodexReviewNode, hsub]
    exact ⟨_, rfl⟩
  | revDispatch =>
    cases ht
    rw [Node.run, revDispatchNode]
    exact ⟨_, rfl⟩
  | revCodexFinal =>
    cases ht
    rw [Node.run, revCodexFinalNode]
    exact ⟨_, rfl⟩
  | _ => cases ht

/-- A dispatch that adds nothing to the audit trail was diverted. -/
theorem rejects_of_decisions (h : Returns env w s value n s') (ht : n.target s = some t)
    (hdec : s'.decisions = s.decisions) : ∃ findings, Rejects env w t s value findings := by
  cases h with
  | guard ht' hrej _ =>
    rw [ht] at ht'
    cases ht'
    exact ⟨_, hrej⟩
  | init => cases ht
  | noCurrent hn hnone => rcases hn with ⟨rfl, -⟩ | ⟨rfl, -⟩ <;> simp [Node.target, hnone] at ht
  | @answered gate => cases gate <;> cases ht
  | @refused gate => cases gate <;> cases ht
  | @rolledBack gate => cases gate <;> cases ht
  | rolledBackToDev => cases ht
  | continued => cases ht
  | loopNext => cases ht
  | loopExit => cases ht
  | pm => simp at hdec
  | planBlocked => simp [planningReturn, plannerConsumed, consumedOf] at hdec
  | planAsks => simp [planningReturn, plannerConsumed, consumedOf] at hdec
  | planned => simp [planningReturn, plannerConsumed, consumedOf] at hdec
  | consult => simp at hdec
  | dev => simp at hdec
  | codex => simp at hdec
  | rev => simp at hdec
  | codexFinal => simp at hdec

/-- **What is diverted**: a result that has to be, when its files can be looked
at. -/
theorem exists_isDiversion_iff (ht : n.target s = some t) :
    (∃ s', n.run env w s value = .ok s' ∧ IsDiversion w s t s') ↔
      Rejectable env w s value t.stage ∧
        ∀ path ∈ claimedPaths s.artifactPaths value, LooksAt w path := by
  constructor
  · rintro ⟨s', hrun, hdiv⟩
    have hdec : s'.decisions = s.decisions := by rw [hdiv.keepsWork.work]
    obtain ⟨findings, ⟨artifacts, hg⟩, hsev⟩ :=
      rejects_of_decisions (returns_of_run hrun) ht hdec
    exact ⟨(hasSevere_guardFindings hg).mp hsev, guardFindings_isOk_iff.mp ⟨_, hg⟩⟩
  · rintro ⟨hrej, hlooks⟩
    obtain ⟨⟨findings, artifacts⟩, hg⟩ := guardFindings_isOk_iff.mpr hlooks
    have hsev := (hasSevere_guardFindings hg).mpr hrej
    obtain ⟨accept, hrun⟩ := exists_accept_of_target ht
    cases hout : handleGuardOutcome w s findings t.stage t.subagent with
    | none =>
      rw [(handleGuardOutcome_eq_none_iff w).mp hout] at hsev
      cases hsev
    | some s' =>
      refine ⟨s', ?_, isDiversion_of_handleGuardOutcome hout⟩
      rw [hrun, dispatchNode, runFullGuardCheck, hg]
      simp [bind, Except.bind, pure, Except.pure, hout]

theorem artifacts_of_readOnly (h : Returns env w s value n s') (hn : n ∈ Node.readOnly) :
    s'.artifacts = s.artifacts := by
  cases h with
  | guard _ _ hout =>
    obtain ⟨-, ⟨-, rfl⟩ | ⟨-, rfl⟩⟩ := handleGuardOutcome_cases w hout <;> rfl
  | consult => rfl
  | codex => rfl
  | codexFinal => rfl
  | noCurrent => rfl
  | @answered gate => cases gate <;> exact absurd hn (by decide)
  | @refused gate => cases gate <;> exact absurd hn (by decide)
  | @rolledBack gate => cases gate <;> exact absurd hn (by decide)
  | _ => exact absurd hn (by decide)

/-- **A dispatch diverts rightly** exactly when the files of a result that has to
be diverted can be looked at.  An error of the file system is raised through the
node, and then nothing is diverted. -/
theorem divertsRightly_iff (ht : n.target s = some t) :
    DivertsRightly env w n t s value ↔
      (Rejectable env w s value t.stage →
        ∀ path ∈ claimedPaths s.artifactPaths value, LooksAt w path) := by
  have hdiverts : (∃ s', n.run env w s value = .ok s' ∧ IsDiversion w s t s') ↔
      Rejectable env w s value t.stage ∧
        ∀ path ∈ claimedPaths s.artifactPaths value, LooksAt w path :=
    exists_isDiversion_iff ht
  constructor
  · intro h hrej
    exact (hdiverts.mp (h.diverts.mpr hrej)).2
  · intro h
    refine ⟨hdiverts.trans (and_iff_left_of_imp h), ?_, ?_⟩
    · intro s' _ hdiv
      exact hdiv.keepsWork
    · intro hn s' hrun
      exact artifacts_of_readOnly (returns_of_run hrun) hn

end Diversion

/-- A PM result without a status that claims one artifact. -/
def claimsSpec : Json := .obj [("artifact_updates", .obj [("pm_spec", .obj [])])]

/-- A file that is missing can be looked at, and the result is diverted. -/
theorem divertsRightly_iff_sample :
    DivertsRightly sampleEnv sampleWorld .pmPhase ⟨.pmPhase, "pm_agent", ["pm_spec", "pm_risks"]⟩
      (initNode sampleWorld sampleStart.state) claimsSpec := by
  refine (divertsRightly_iff rfl).mpr (fun _ path _ => ⟨false, rfl, fun h => ?_⟩)
  cases h

/-- A disk on which the paths of the artifacts are directories. -/
def sampleDirectories : World where
  now := "2026-01-01T00:00:00Z"
  pathExists _ := .ok true
  statSize _ := .ok 4096
  readBytes _ := .error (.osError "[Errno 21] Is a directory")

/-- **A result without a status is not diverted when the path of an artifact it
claims is a directory**: the node raises. -/
theorem divertsRightly_counterexample :
    ¬∀ env w n t s value, n.target s = some t → DivertsRightly env w n t s value := by
  intro hright
  have hstatus : (Dict.ofList [("artifact_updates", Json.obj [("pm_spec", .obj [])])]).get?
      "status" = none := by decide +kernel
  obtain ⟨s', hrun, -⟩ := (hright sampleEnv sampleDirectories .pmPhase _
    (initNode sampleWorld sampleStart.state) claimsSpec rfl).diverts.mpr (by
      refine Or.inr (Or.inl ⟨_, rfl, Or.inl ?_⟩)
      rintro ⟨status, -, hget⟩
      rw [hstatus] at hget
      cases hget)
  have hraises : (Node.pmPhase.run sampleEnv sampleDirectories
      (initNode sampleWorld sampleStart.state) claimsSpec).toOption.isNone := by decide +kernel
  rw [hrun] at hraises
  cases hraises

end Shrimp
