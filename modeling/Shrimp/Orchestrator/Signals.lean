import Shrimp.Orchestrator.DevPass

/-!
# Review signals

Five nodes store whether a subagent says that its work passed.  All five read
the claim by its truth value, so a claim that is truthy without being the JSON
boolean true is stored as passed.

## Main definitions

* `saysPassed`, `onlyTruthy` — the two ways a claim can be read as passed.
* `ReviewSite` — the five nodes, and where each stores the claim.
* `StoresSignal` — a site accepts a result and stores its signal.

## Main results

* `reviewPassed_eq` — a claim is read as passed in exactly these two ways.
* `stored_eq_reviewPassed` — every site stores what that reading gives.
* `signal_failsClosed_iff` — **a stored pass is a claim of true, except where the
  claim is only truthy.**
-/

namespace Shrimp

/-! ### Reading a claim -/

/-- The `passed` member of a `gate_result` that is an object. -/
def claimedPassed (d : Obj) : Option Json :=
  ((d.get? "gate_result").bind Json.asDict).bind fun gate => gate.get? "passed"

/-- Is `gate_result` an object whose `passed` is the JSON boolean true? -/
def saysPassed (d : Obj) : Bool :=
  match claimedPassed d with
  | some (.bool true) => true
  | _ => false

/-- Is `gate_result` an object whose `passed` is truthy, but not the JSON boolean
true? -/
def onlyTruthy (d : Obj) : Bool :=
  match claimedPassed d with
  | some (.bool _) => false
  | some x => x.truthy
  | none => false

theorem asDict_getOrEmpty (d : Obj) (k : String) :
    ((d.get? k).bind Json.asDict = none ∧
        ∀ gate, (d.getOrEmpty k).asDict = some gate → gate = ∅) ∨
      ∃ gate, (d.get? k).bind Json.asDict = some gate ∧
        (d.getOrEmpty k).asDict = some gate := by
  unfold Obj.getOrEmpty
  cases hk : d.get? k with
  | none => exact Or.inl ⟨rfl, fun gate h => (Option.some.inj h).symm⟩
  | some x =>
    -- only an object is read as a dictionary; a falsy value of another kind is read as an empty one
    cases x with
    | obj ms =>
      refine Or.inr ⟨Dict.ofList ms, rfl, ?_⟩
      cases ms <;> rfl
    | arr xs =>
      refine Or.inl ⟨rfl, ?_⟩
      cases xs with
      | nil => exact fun gate h => (Option.some.inj h).symm
      | cons x xs => intro gate h; cases h
    | _ =>
      refine Or.inl ⟨rfl, fun gate h => ?_⟩
      dsimp only at h
      split at h
      · cases h
      · exact (Option.some.inj h).symm

/-- **A claim is read as passed when it says so, or when it is only truthy.** -/
theorem reviewPassed_eq (d : Obj) : reviewPassed d = (saysPassed d || onlyTruthy d) := by
  unfold reviewPassed saysPassed onlyTruthy claimedPassed
  obtain ⟨hnone, hempty⟩ | ⟨gate, hsome, hget⟩ := asDict_getOrEmpty d "gate_result"
  · rw [hnone]
    split
    · next gate hgate => rw [hempty gate hgate]; rfl
    · rfl
  · rw [hsome, hget]
    simp only [Option.bind_some, Obj.getBool]
    cases hp : gate.get? "passed" with
    | none => rfl
    | some x => rcases x with _ | (_ | _) | _ | _ | _ | _ | _ <;> simp [Json.truthy]

theorem onlyTruthy_of_saysPassed {d : Obj} (h : saysPassed d = true) : onlyTruthy d = false := by
  unfold saysPassed at h
  unfold onlyTruthy
  split at h
  · next hp => rw [hp]
  · cases h

/-! ### The five sites -/

/-- The nodes that store whether something passed. -/
inductive ReviewSite
  | pmPhase
  | planningPhase
  | devCodexReview
  | revDispatch
  | revCodexFinal
  deriving DecidableEq, Repr

namespace ReviewSite

/-- The node of a site. -/
def node : ReviewSite → Node
  | pmPhase => .pmPhase
  | planningPhase => .planningPhase
  | devCodexReview => .devCodexReview
  | revDispatch => .revDispatch
  | revCodexFinal => .revCodexFinal

/-- The signal a site has stored, `s` being the state it ran on. -/
def stored (s s' : WorkflowState) : ReviewSite → Option Bool
  | pmPhase => (s'.gateResults.get? "Gate 1").map GateResult.passed
  | planningPhase => (s'.gateResults.get? "Gate 1.5").map GateResult.passed
  | devCodexReview => (currentSubtask s).bind fun t =>
      (s'.subtaskResults.get? t.taskId).map SubtaskResult.reviewPassed
  | revDispatch => (s'.gateResults.get? "Gate 3 - rev_agent").map GateResult.passed
  | revCodexFinal => (s'.gateResults.get? "Gate 3").map GateResult.passed

end ReviewSite

section Signals

variable {env : Env} {w : World} {s s' : WorkflowState} {value : Json} {d : Obj}

/-- A site is handed an object that the guard accepts, and returns. -/
structure StoresSignal (env : Env) (w : World) (site : ReviewSite) (s : WorkflowState)
    (value : Json) (d : Obj) (s' : WorkflowState) : Prop where
  /-- The result is an object. -/
  isDict : value.asDict = some d
  /-- The guard accepts it. -/
  passes : ∃ t findings artifacts, site.node.target s = some t ∧
    guardFindings env w s value t.stage t.expectedArtifacts t.subagent =
      .ok (findings, artifacts) ∧ hasSevere findings = false
  returns : site.node.run env w s value = .ok s'

theorem passed_of_parseGateClaim {gateName : String} {g : GateResult}
    (h : parseGateClaim env d gateName = .ok g) : g.passed = reviewPassed d := by
  unfold parseGateClaim at h
  unfold reviewPassed
  split at h
  · cases h
  · next gate hgate =>
    rw [hgate]
    simp only [bind_eq_ok] at h
    obtain ⟨_, _, _, _, h⟩ := h
    cases h
    rfl

theorem passed_of_parseReviewClaim {gateName : String} {g : GateResult}
    (h : parseReviewClaim env d gateName = .ok g) : g.passed = reviewPassed d := by
  unfold parseReviewClaim at h
  simp only [bind_eq_ok] at h
  obtain ⟨_, _, h⟩ := h
  cases h
  rfl

/-- A dispatch node that returns on a result the guard accepts has accepted it. -/
theorem accept_of_dispatchNode {stage : Stage} {subagentName : String}
    {expectedArtifacts : List String} {findings : List GuardWarning}
    {artifacts : Dict String ArtifactRef}
    {accept : List GuardWarning → Dict String ArtifactRef → Except PyError WorkflowState}
    (hg : guardFindings env w s value stage expectedArtifacts subagentName =
      .ok (findings, artifacts)) (hsev : hasSevere findings = false)
    (h : dispatchNode env w s stage subagentName expectedArtifacts value accept = .ok s') :
    ∃ s'' p, accept findings artifacts = .ok s'' ∧ s' = clearPending p s'' := by
  obtain ⟨findings', artifacts', hg', hout | ⟨-, s'', hacc, rfl⟩⟩ := dispatchNode_cases env w h
  · rw [hg] at hg'
    cases hg'
    rw [(handleGuardOutcome_eq_none_iff w).mpr hsev] at hout
    cases hout
  · rw [hg] at hg'
    cases hg'
    exact ⟨s'', _, hacc, rfl⟩

/-- **Every site stores the truth value of the claim.** -/
theorem stored_eq_reviewPassed {site : ReviewSite} (h : StoresSignal env w site s value d s') :
    site.stored s s' = some (reviewPassed d) := by
  obtain ⟨hdict, ⟨t, findings, artifacts, ht, hg, hsev⟩, hrun⟩ := h
  -- the result that is stored is the one the claim was made in
  have hd : resultDict env value = d := by rw [resultDict, hdict, Option.getD_some]
  cases site with
  | pmPhase =>
    cases ht
    rw [ReviewSite.node, Node.run, pmPhaseNode] at hrun
    obtain ⟨s'', p, hacc, rfl⟩ := accept_of_dispatchNode hg hsev hrun
    simp only [bind_eq_ok] at hacc
    obtain ⟨consumed, hc, hacc⟩ := hacc
    obtain ⟨-, g, hclaim, hgates⟩ := consumeSubagentResult_spec hc
    cases hacc
    rw [hd] at hclaim
    simp [ReviewSite.stored, hgates, passed_of_parseGateClaim hclaim]
  | planningPhase =>
    cases ht
    rw [ReviewSite.node, Node.run, planningPhaseNode] at hrun
    obtain ⟨s'', p, hacc, rfl⟩ := accept_of_dispatchNode hg hsev hrun
    simp only [bind_eq_ok] at hacc
    obtain ⟨consumed, hc, hacc⟩ := hacc
    obtain ⟨-, g, hclaim, hgates⟩ := consumeSubagentResult_spec hc
    -- whatever the planner's result leads to, its gate results are those that were consumed
    have hstored : s''.gateResults = consumed.gateResults := by
      split at hacc
      · cases hacc; rfl
      split at hacc
      · cases hacc; rfl
      split at hacc
      · cases hacc; rfl
      · cases hacc; rfl
    rw [hd] at hclaim
    simp [ReviewSite.stored, hstored, hgates, passed_of_parseGateClaim hclaim]
  | devCodexReview =>
    cases hsub : currentSubtask s with
    | none => simp [ReviewSite.node, Node.target, hsub] at ht
    | some subtask =>
      simp only [ReviewSite.node, Node.target, hsub, Option.map_some] at ht
      cases ht
      simp only [ReviewSite.node, Node.run, devCodexReviewNode, hsub] at hrun
      obtain ⟨s'', p, hacc, rfl⟩ := accept_of_dispatchNode hg hsev hrun
      simp only [bind_eq_ok] at hacc
      obtain ⟨_, _, hacc⟩ := hacc
      cases hacc
      simp [ReviewSite.stored, hsub, codexMerged, hd]
  | revDispatch =>
    cases ht
    rw [ReviewSite.node, Node.run, revDispatchNode] at hrun
    obtain ⟨s'', p, hacc, rfl⟩ := accept_of_dispatchNode hg hsev hrun
    simp only [bind_eq_ok] at hacc
    obtain ⟨_, _, g, hclaim, hacc⟩ := hacc
    cases hacc
    rw [hd] at hclaim
    simp [ReviewSite.stored, passed_of_parseReviewClaim hclaim]
  | revCodexFinal =>
    cases ht
    rw [ReviewSite.node, Node.run, revCodexFinalNode] at hrun
    obtain ⟨s'', p, hacc, rfl⟩ := accept_of_dispatchNode hg hsev hrun
    simp only [bind_eq_ok] at hacc
    obtain ⟨_, _, g, hclaim, hacc⟩ := hacc
    cases hacc
    rw [hd] at hclaim
    simp [ReviewSite.stored, passed_of_parseReviewClaim hclaim]

theorem forall_passEntries {tasks : List SubtaskSpec} :
    ∀ {rs : List (Json × Json)}, rs.length = tasks.length →
      ((∀ e ∈ passEntries env tasks rs, e.2.reviewPassed = true) ↔
        ∀ r ∈ rs, reviewPassed (resultDict env r.2) = true) := by
  induction tasks with
  | nil =>
    intro rs h
    rw [List.length_nil, List.length_eq_zero_iff] at h
    simp [h, passEntries]
  | cons t tasks ih =>
    intro rs h
    cases rs with
    | nil => simp at h
    | cons r rs =>
      change (∀ e ∈ (t.taskId, reviewed env r.1 r.2) :: passEntries env tasks rs, _) ↔ _
      rw [List.forall_mem_cons, List.forall_mem_cons, ih (Nat.succ.inj h)]
      rfl

/-- **A stored pass is a claim of true, except where the claim is only truthy.**
At each site the signal stored for an accepted object is a pass only if its
`gate_result` is an object whose `passed` is true, and anything else is stored
as not passed, exactly when `passed` is not some other truthy value.  The
verdict of Gate 2 inherits this: it is a pass only if every review of the
current DEV pass says true, unless all are read as passed and one of them is
only truthy. -/
theorem signal_failsClosed_iff (env : Env) :
    (∀ w site s value d s', StoresSignal env w site s value d s' →
      (((site.stored s s' = some true → saysPassed d = true) ∧
          (saysPassed d = false → site.stored s s' = some false)) ↔ onlyTruthy d = false)) ∧
    ∀ tr c, (graph env).Run tr c → c.node = some .gate2 →
      ∃ rs gate2, rs.length = c.state.subtasks.length ∧
        sinceDevEntry env tr = passAccepts c.state.subtasks rs ∧
        c.state.gateResults.get? "Gate 2" = some gate2 ∧
        ((gate2.passed = true → ∀ r ∈ rs, saysPassed (resultDict env r.2) = true) ↔
          ¬((∀ r ∈ rs, reviewPassed (resultDict env r.2) = true) ∧
            ∃ r ∈ rs, onlyTruthy (resultDict env r.2) = true)) := by
  constructor
  · intro w site s value d s' h
    rw [stored_eq_reviewPassed h, reviewPassed_eq]
    cases hsaid : saysPassed d with
    | true => simp [onlyTruthy_of_saysPassed hsaid]
    | false => cases onlyTruthy d <;> simp
  · intro tr c hrun hn
    have hpass := (devInv_of_run hrun).pass
    rw [hn] at hpass
    obtain ⟨⟨rs, hin, hlen⟩, hgate, -⟩ := hpass
    -- the aggregate passes when every review of the pass was read as passed
    have hpassed : (gate2Result c.state).passed = true ↔
        ∀ r ∈ rs, reviewPassed (resultDict env r.2) = true := by
      rw [← forall_passEntries hlen, ← hin.entries]
      exact allPassed_iff c.state
    refine ⟨rs, _, hlen, hin.accepts, hgate, ?_⟩
    rw [hpassed]
    constructor
    -- a review that only looks passed spoils an aggregate that passed
    · rintro hsaid ⟨hall, r, hr, htruthy⟩
      have := onlyTruthy_of_saysPassed (hsaid hall r hr)
      rw [htruthy] at this
      cases this
    · intro hnot hall r hr
      have hread := hall r hr
      rw [reviewPassed_eq] at hread
      rcases Bool.or_eq_true_iff.mp hread with hsaid | htruthy
      · exact hsaid
      · exact absurd ⟨hall, r, hr, htruthy⟩ hnot

end Signals

/-- A review whose verdict is the text "false". -/
def textFalse : Json :=
  .obj [("status", .str "done"), ("gate_result", .obj [("passed", .str "false")])]

/-- A review whose verdict is true. -/
def boolTrue : Json :=
  .obj [("status", .str "done"), ("gate_result", .obj [("passed", .bool true)])]

/-- A final review that is accepted and stored, by computation. -/
theorem exists_storesSignal (value : Json) (passed : Bool) {d : Obj}
    (hdict : value.asDict = some d)
    (hguard : ((guardFindings sampleEnv sampleWorld sampleStart.state value .revPhase []
      "codex_final").toOption.map fun r => hasSevere r.1) = some false)
    (hreturns : ((Node.revCodexFinal.run sampleEnv sampleWorld sampleStart.state
      value).toOption.map fun s' => (s'.gateResults.get? "Gate 3").map GateResult.passed) =
        some (some passed)) :
    ∃ s', StoresSignal sampleEnv sampleWorld .revCodexFinal sampleStart.state value d s' ∧
      ReviewSite.revCodexFinal.stored sampleStart.state s' = some passed := by
  obtain ⟨⟨findings, artifacts⟩, hf, hsev⟩ := Option.map_eq_some_iff.mp hguard
  obtain ⟨s', hs', hstored⟩ := Option.map_eq_some_iff.mp hreturns
  exact ⟨s', ⟨hdict, ⟨_, findings, artifacts, rfl, ok_of_toOption hf, hsev⟩, ok_of_toOption hs'⟩,
    hstored⟩

/-- A verdict of true is stored as a pass, and says so. -/
theorem signal_failsClosed_iff_sample : ∃ d s',
    StoresSignal sampleEnv sampleWorld .revCodexFinal sampleStart.state boolTrue d s' ∧
    ReviewSite.revCodexFinal.stored sampleStart.state s' = some true ∧ saysPassed d = true := by
  obtain ⟨s', hsite, hstored⟩ := exists_storesSignal boolTrue true rfl (by decide +kernel)
    (by decide +kernel)
  have hclosed := (signal_failsClosed_iff sampleEnv).1 _ _ _ _ _ _ hsite
  exact ⟨_, s', hsite, hstored, (hclosed.mpr (by decide +kernel)).1 hstored⟩

/-- **A verdict of "false" is stored as a pass.** -/
theorem signal_failsClosed_counterexample :
    ¬∀ w site s value d s', StoresSignal sampleEnv w site s value d s' →
      site.stored s s' = some true → saysPassed d = true := by
  intro hclosed
  obtain ⟨s', hsite, hstored⟩ := exists_storesSignal textFalse true rfl (by decide +kernel)
    (by decide +kernel)
  have hsaid := hclosed _ _ _ _ _ _ hsite hstored
  exact absurd hsaid (by decide +kernel)

end Shrimp
