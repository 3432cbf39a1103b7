import Shrimp.Orchestrator.Control
import Shrimp.Orchestrator.Returns

/-!
# The audit trail

Updates replace whole fields, so a return that built a list from the wrong base
would drop history.  None does: whatever a node returns, the lists of the audit
trail are extended at their end, one record is added to the stage log, and no
counter is lost or lowered.

## Main definitions

* `Appends` — the audit trail of one state continues that of another.
* `SamePaths` — the artifact paths and the permission policies are the same.

## Main results

* `run_appends` — **every return of every node continues the audit trail.**
* `appends_of_run` — so does every run, with one record for each move.
* `stageLog_of_run` — the stage log has the record of every move, in order.
-/

namespace Shrimp

/-- The audit trail of `s'` continues that of `s`. -/
structure Appends (s s' : WorkflowState) : Prop where
  decisions : s.decisions <+: s'.decisions
  warnings : s.warnings <+: s'.warnings
  stageLog : s.stageLog <+: s'.stageLog
  planningConsultations : s.planningConsultations <+: s'.planningConsultations
  userPlanningHints : s.userPlanningHints <+: s'.userPlanningHints
  workflowId : s'.workflowId = s.workflowId
  artifactBaseDir : s'.artifactBaseDir = s.artifactBaseDir
  userMsgs : s'.userMsgs = s.userMsgs
  guardRetries : s.guardRetries.Grows s'.guardRetries
  rollbackCounts : s.rollbackCounts.Grows s'.rollbackCounts

/-- What the entry node fills in is the same. -/
structure SamePaths (s s' : WorkflowState) : Prop where
  artifactPaths : s'.artifactPaths = s.artifactPaths
  permissionPolicies : s'.permissionPolicies = s.permissionPolicies

namespace Appends

variable {s s' s'' : WorkflowState}

theorem refl (s : WorkflowState) : Appends s s where
  decisions := List.prefix_rfl
  warnings := List.prefix_rfl
  stageLog := List.prefix_rfl
  planningConsultations := List.prefix_rfl
  userPlanningHints := List.prefix_rfl
  workflowId := rfl
  artifactBaseDir := rfl
  userMsgs := rfl
  guardRetries := .refl _
  rollbackCounts := .refl _

theorem trans (h : Appends s s') (h' : Appends s' s'') : Appends s s'' where
  decisions := h.decisions.trans h'.decisions
  warnings := h.warnings.trans h'.warnings
  stageLog := h.stageLog.trans h'.stageLog
  planningConsultations := h.planningConsultations.trans h'.planningConsultations
  userPlanningHints := h.userPlanningHints.trans h'.userPlanningHints
  workflowId := h'.workflowId.trans h.workflowId
  artifactBaseDir := h'.artifactBaseDir.trans h.artifactBaseDir
  userMsgs := h'.userMsgs.trans h.userMsgs
  guardRetries := h.guardRetries.trans h'.guardRetries
  rollbackCounts := h.rollbackCounts.trans h'.rollbackCounts

end Appends

theorem SamePaths.trans {s s' s'' : WorkflowState} (h : SamePaths s s') (h' : SamePaths s' s'') :
    SamePaths s s'' :=
  ⟨h'.artifactPaths.trans h.artifactPaths, h'.permissionPolicies.trans h.permissionPolicies⟩

section Ledger

variable {env : Env} {w : World} {s s' : WorkflowState} {value : Json} {n : Node}

theorem grows_countRollback (phase : Stage) (s : WorkflowState) :
    s.rollbackCounts.Grows (countRollback phase s).rollbackCounts := by
  refine Dict.grows_insert fun v hv => ?_
  rw [Dict.getD, hv, Option.getD_some]
  exact Nat.le_succ v

theorem grows_guardRetry (findings : List GuardWarning) (stage : Stage) (subagentName : String) :
    s.guardRetries.Grows (guardRetry w s findings stage subagentName).guardRetries := by
  refine Dict.grows_insert fun v hv => ?_
  rw [attemptsSoFar, Dict.getD, hv, Option.getD_some]
  exact Nat.le_succ v

/-- **A return continues the audit trail.** -/
theorem Returns.appends (h : Returns env w s value n s') : Appends s s' := by
  cases h with
  | guard ht hr hout =>
    obtain ⟨-, ⟨-, rfl⟩ | ⟨-, rfl⟩⟩ := handleGuardOutcome_cases w hout
    · constructor <;>
        first | exact List.prefix_append _ _ | exact List.prefix_rfl | rfl | exact .refl _
    · constructor
      case guardRetries => exact grows_guardRetry _ _ _
      all_goals first | exact List.prefix_append _ _ | exact List.prefix_rfl | rfl | exact .refl _
  | rolledBack | rolledBackToDev =>
    constructor
    case rollbackCounts => exact grows_countRollback _ s
    all_goals first | exact List.prefix_append _ _ | exact List.prefix_rfl | rfl | exact .refl _
  | planned =>
    constructor
    -- the warnings are extended twice
    case warnings => exact ⟨_, (List.append_assoc _ _ _).symm⟩
    all_goals first | exact List.prefix_append _ _ | exact List.prefix_rfl | rfl | exact .refl _
  | init | pm | planBlocked | planAsks | consult | dev | codex | noCurrent | rev | codexFinal |
      answered | refused | continued | loopNext | loopExit =>
    constructor <;>
      first | exact List.prefix_append _ _ | exact List.prefix_rfl | rfl | exact .refl _

theorem Returns.stageLog (h : Returns env w s value n s') :
    ∃ record, s'.stageLog = s.stageLog ++ [record] := by
  cases h with
  | guard ht hr hout =>
    obtain ⟨-, ⟨-, rfl⟩ | ⟨-, rfl⟩⟩ := handleGuardOutcome_cases w hout <;> exact ⟨_, rfl⟩
  | _ => exact ⟨_, rfl⟩

theorem Returns.samePaths (h : Returns env w s value n s') (hn : n ≠ .init) : SamePaths s s' := by
  cases h with
  | init => exact absurd rfl hn
  | guard ht hr hout =>
    obtain ⟨-, ⟨-, rfl⟩ | ⟨-, rfl⟩⟩ := handleGuardOutcome_cases w hout <;> exact ⟨rfl, rfl⟩
  | _ => exact ⟨rfl, rfl⟩

theorem successor_ne_init (n : Node) (s : WorkflowState) : n.successor s ≠ some (some .init) := by
  intro h
  have hedges : ∀ {route : Route} {edges : List (Route × Option Node)},
      edges.lookup route = some (some .init) → some Node.init ∈ edges.map Prod.snd := by
    intro route edges hl
    obtain ⟨before, after, rfl, -⟩ := List.lookup_eq_some_iff.mp hl
    simp
  cases n with
  | init => cases h
  | _ => exact absurd (hedges h) (by decide)

/-- **Every return of every node continues the audit trail.**  The lists of the
state it leaves have the old lists as a prefix, and the stage log has one record
more; the workflow, its directory and its messages are the same; no budget and
no counter of rollbacks is lost or lowered; and the paths and the policies are
the entry node's for good, since the other nodes leave them and no edge leads
back to it. -/
theorem run_appends (h : n.run env w s value = .ok s') :
    Appends s s' ∧ (∃ record, s'.stageLog = s.stageLog ++ [record]) ∧
      (n ≠ .init → SamePaths s s') ∧ n.successor s' ≠ some (some .init) := by
  have hret := returns_of_run h
  exact ⟨hret.appends, hret.stageLog, hret.samePaths, successor_ne_init n s'⟩

/-- A gate that refuses an answer keeps the audit trail. -/
theorem run_appends_sample : ∃ s', Node.gate1.run sampleEnv sampleWorld sampleStart.state
    (.str "yes") = .ok s' ∧ s'.stage = .blocked ∧ Appends sampleStart.state s' := by
  have hrun : Node.gate1.run sampleEnv sampleWorld sampleStart.state (.str "yes") =
      .ok (gateInvalidAnswerReturn sampleWorld sampleStart.state .gate1 "yes"
        (gateRecord sampleEnv sampleWorld .gate1 (.str "yes"))) := rfl
  exact ⟨_, hrun, rfl, (run_appends hrun).1⟩

theorem appends_of_advance {c c' : Config} {e : Event} (h : advance env c e = some c') :
    Appends c.state c'.state ∧ c'.state.stageLog.length = c.state.stageLog.length + 1 ∧
      (c.node ≠ some .init → SamePaths c.state c'.state) ∧ c'.node ≠ some .init := by
  obtain ⟨n, hn, hret, hnext, -⟩ := returns_of_advance h
  obtain ⟨record, hlog⟩ := hret.stageLog
  refine ⟨hret.appends, by rw [hlog, List.length_append]; rfl, ?_, ?_⟩
  · intro hne
    exact hret.samePaths fun hinit => hne (by rw [hn, hinit])
  · intro hinit
    rw [hinit] at hnext
    exact successor_ne_init n c'.state hnext

/-- **So does every run**, with one record for each move; what the entry node
filled in stays. -/
theorem appends_of_run {tr₁ tr₂ : List (Lts.Move Config Event)} {m : Lts.Move Config Event}
    {c : Config} (h : (graph env).Run (tr₁ ++ m :: tr₂) c) :
    Appends m.post.state c.state ∧
      c.state.stageLog.length = m.post.state.stageLog.length + tr₂.length ∧
      SamePaths m.post.state c.state ∧ c.node ≠ some .init := by
  refine h.induction_after (R := fun a tr c => Appends a.state c.state ∧
    c.state.stageLog.length = a.state.stageLog.length + tr.length ∧
    SamePaths a.state c.state ∧ c.node ≠ some .init) ?_ ?_
  · intro tr c e c' _ hstep
    exact ⟨.refl _, rfl, ⟨rfl, rfl⟩, (appends_of_advance hstep).2.2.2⟩
  · rintro a tr tr' c e c' _ ⟨happ, hlen, hsame, hne⟩ hstep
    obtain ⟨happ', hlen', hsame', hne'⟩ := appends_of_advance hstep
    refine ⟨happ.trans happ', ?_, hsame.trans (hsame' hne), hne'⟩
    rw [hlen', hlen, List.length_append, Nat.add_assoc]
    rfl

/-- **The stage log has the record of every move, in order.** -/
theorem stageLog_of_run {tr : List (Lts.Move Config Event)} {c : Config}
    (h : (graph env).Run tr c) :
    c.state.stageLog.map some = tr.map fun m => m.post.state.stageLog.getLast? := by
  refine h.invariant (I := fun tr c =>
    c.state.stageLog.map some = tr.map fun m => m.post.state.stageLog.getLast?) ?_ ?_
  · rintro c ⟨_, _, _, _, rfl⟩
    rfl
  · intro tr c e c' _ ih hstep
    obtain ⟨n, -, hret, -⟩ := returns_of_advance hstep
    obtain ⟨record, hlog⟩ := hret.stageLog
    rw [hlog, List.map_append, List.map_append, ih, List.map_singleton, List.map_singleton, hlog,
      List.getLast?_concat]

end Ledger

end Shrimp
