import Shrimp.Lib.Related
import Shrimp.Orchestrator.Diversion
import Shrimp.Orchestrator.Signals

/-!
# Malformed gate claims

Five of the dispatch nodes read a `gate_result`.  The review nodes take whatever
is not an object, or not a list of reasons, for a claim without content.  The PM
and the planning node expect an object whose reasons can be listed: anything
else is raised through the node, and what can be listed but is not a list is
taken for its characters or its keys.

## Main definitions

* `malformedClaim` — a `gate_result` that is not an object or whose reasons are
  not a list.
* `Node.claim` — what a node reads of a `gate_result`.
* `Node.handlesClaim` — the claims a node handles as a malformed claim is to be
  handled.
* `Survives` — a node returns, and takes a malformed claim for one that did not
  pass and gives no reasons.

## Main results

* `claim_isOk_iff` — which claims a node handles.
* `run_of_passes` — what a node makes of a result that passes the guard.
* `survives_iff` — **a node survives a gate claim** exactly when the files of the
  result can be looked at and the result is diverted or the node handles its
  claim.
-/

namespace Shrimp

/-! ### Reading a claim -/

/-- A `gate_result` that is an object. -/
def claimObject (d : Obj) : Option Obj := (d.get? "gate_result").bind Json.asDict

/-- A `gate_result` that is not an object, or whose reasons are not a list. -/
def malformedClaim (d : Obj) : Bool :=
  match claimObject d with
  | none => true
  | some gate =>
    match gate.get? "reasons" with
    | none => false
    | some reasons => reasons.asList.isNone

/-- A malformed claim is read as one that did not pass and gives no reasons. -/
def ReadRight (d : Obj) (claim : Bool × List String) : Prop :=
  malformedClaim d = true → claim = (false, [])

/-- The nodes that read a `gate_result`. -/
def Node.readsClaim : List Node :=
  [.pmPhase, .planningPhase, .devCodexReview, .revDispatch, .revCodexFinal]

/-- The nodes that dispatch. -/
def Node.dispatches : List Node := [.pmPhase, .planningPhase, .planningDevConsult,
  .devSubtaskDispatch, .devCodexReview, .revDispatch, .revCodexFinal]

/-- What the nodes read of a `gate_result`: whether it passed, and the reasons. -/
def Node.claim (env : Env) (d : Obj) : Node → Except PyError (Bool × List String)
  | .pmPhase => do
    let g ← parseGateClaim env d "Gate 1"
    return (g.passed, g.reasons)
  | .planningPhase => do
    let g ← parseGateClaim env d "Gate 1.5"
    return (g.passed, g.reasons)
  | .devCodexReview => do
    let reasons ← env.makeReasons (reviewReasons d)
    return (reviewPassed d, reasons)
  | .revDispatch => do
    let g ← parseReviewClaim env d "Gate 3 - rev_agent"
    return (g.passed, g.reasons)
  | .revCodexFinal => do
    let g ← parseReviewClaim env d "Gate 3"
    return (g.passed, g.reasons)
  | _ => return (false, [])

/-- What the nodes record of it. -/
def Node.recorded (s s' : WorkflowState) : Node → Option (Bool × List String)
  | .pmPhase => (s'.gateResults.get? "Gate 1").map fun g => (g.passed, g.reasons)
  | .planningPhase => (s'.gateResults.get? "Gate 1.5").map fun g => (g.passed, g.reasons)
  | .devCodexReview => (currentSubtask s).bind fun t =>
      (s'.subtaskResults.get? t.taskId).map fun r => (r.reviewPassed, r.reviewReasons)
  | .revDispatch => (s'.gateResults.get? "Gate 3 - rev_agent").map fun g => (g.passed, g.reasons)
  | .revCodexFinal => (s'.gateResults.get? "Gate 3").map fun g => (g.passed, g.reasons)
  | _ => none

/-- `list` makes an empty list of it. -/
def listsNothing (x : Json) : Bool :=
  match x.pyList with
  | .ok [] => true
  | _ => false

/-- The claims `_consume_subagent_result` handles: none or a falsy one, an object
without reasons or with a list of them, or an object that did not pass and whose
reasons are an empty string or object. -/
def handledByConsume (d : Obj) : Bool :=
  match claimObject d with
  | none => (d.get? "gate_result").all fun x => !x.truthy
  | some gate =>
    match gate.get? "reasons" with
    | none => true
    | some reasons => reasons.asList.isSome || (listsNothing reasons && !gate.getBool "passed")

/-- The claims the review nodes handle: all but an object that passed and whose
reasons are not a list. -/
def handledByReview (d : Obj) : Bool :=
  match claimObject d with
  | none => true
  | some gate =>
    match gate.get? "reasons" with
    | none => true
    | some reasons => reasons.asList.isSome || !gate.getBool "passed"

/-- The claims a node handles. -/
def Node.handlesClaim (d : Obj) : Node → Bool
  | .pmPhase => handledByConsume d
  | .planningPhase => handledByConsume d
  | .devCodexReview => handledByReview d
  | .revDispatch => handledByReview d
  | .revCodexFinal => handledByReview d
  | _ => true

/-- A list of reasons is a list of strings. -/
def StringReasons (d : Obj) : Prop :=
  ∀ gate xs, claimObject d = some gate → gate.get? "reasons" = some (.arr xs) →
    ∃ ss : List String, xs = ss.map .str

/-- The summary is absent, or an object that a `PhaseSummary` is made of. -/
def SummaryAccepted (env : Env) (d : Obj) : Prop :=
  d.get? "phase_summary" = none ∨ ∃ x fields, d.get? "phase_summary" = some x ∧
    x.asDict = some fields ∧ env.phaseSummary fields ≠ none

section Claim

variable {env : Env} {d : Obj}

theorem eq_arr_of_asList {x : Json} {xs : List Json} (h : x.asList = some xs) : x = .arr xs := by
  cases x with
  | arr ys =>
    cases h
    rfl
  | _ => cases h

/-- What is listed of a value that is not a list are strings. -/
theorem strings_of_pyList {x : Json} {xs : List Json} (hx : x.asList = none)
    (h : x.pyList = .ok xs) : ∃ ss : List String, xs = ss.map .str := by
  cases x with
  | str s =>
    cases h
    exact ⟨s.toList.map String.singleton, by rw [List.map_map]; rfl⟩
  | obj ms =>
    cases h
    exact ⟨_, rfl⟩
  | arr xs => cases hx
  | _ => cases h

theorem makeReasons_map_str (hreasons : ∀ ss : List String, env.reasons (ss.map .str) = some ss)
    (ss : List String) : env.makeReasons (ss.map .str) = .ok ss := by
  rw [Env.makeReasons, hreasons]

theorem getOrEmpty_of_claimObject {gate : Obj} (h : claimObject d = some gate) :
    (d.getOrEmpty "gate_result").asDict = some gate := by
  obtain ⟨hnone, -⟩ | ⟨gate', hgate, hget⟩ := asDict_getOrEmpty d "gate_result"
  · rw [claimObject, hnone] at h
    cases h
  · rw [claimObject, hgate] at h
    rw [hget, h]

/-- A claim that is no object is read as an empty one when it is falsy. -/
theorem getOrEmpty_of_falsy
    (hfalsy : (d.get? "gate_result").all (fun x => !x.truthy) = true) :
    (d.getOrEmpty "gate_result").asDict = some ∅ := by
  unfold Obj.getOrEmpty
  cases hget : d.get? "gate_result" with
  | none => rfl
  | some x =>
    rw [hget] at hfalsy
    have hx : x.truthy = false := by simpa using hfalsy
    simp only [hx, Bool.false_eq_true, if_false]
    rfl

theorem getOrEmpty_of_truthy (h : claimObject d = none)
    (htruthy : (d.get? "gate_result").all (fun x => !x.truthy) = false) :
    (d.getOrEmpty "gate_result").asDict = none := by
  unfold Obj.getOrEmpty
  cases hget : d.get? "gate_result" with
  | none =>
    rw [hget] at htruthy
    cases htruthy
  | some x =>
    rw [hget] at htruthy
    have hx : x.truthy = true := by simpa using htruthy
    simp only [hx, if_true]
    rw [claimObject, hget] at h
    exact h

theorem parseGateClaim_of_asDict {gate : Obj} {gateName : String}
    (h : (d.getOrEmpty "gate_result").asDict = some gate) (p : Bool × List String) :
    (∃ g, parseGateClaim env d gateName = .ok g ∧ (g.passed, g.reasons) = p) ↔
      ∃ xs, (gate.getD "reasons" (.arr [])).pyList = .ok xs ∧
        env.makeReasons xs = .ok p.2 ∧ gate.getBool "passed" = p.1 := by
  simp only [parseGateClaim, h, bind_eq_ok]
  constructor
  · rintro ⟨g, ⟨xs, hxs, reasons, hreasons, hg⟩, rfl⟩
    cases hg
    exact ⟨xs, hxs, hreasons, rfl⟩
  · rintro ⟨xs, hxs, hreasons, hpassed⟩
    exact ⟨_, ⟨xs, hxs, p.2, hreasons, rfl⟩, Prod.ext hpassed rfl⟩

theorem parseGateClaim_of_falsy (hreasons : ∀ ss : List String, env.reasons (ss.map .str) = some ss)
    {gateName : String} (hfalsy : (d.get? "gate_result").all (fun x => !x.truthy) = true) :
    ∃ g, parseGateClaim env d gateName = .ok g ∧ (g.passed, g.reasons) = (false, []) := by
  rw [parseGateClaim_of_asDict (getOrEmpty_of_falsy hfalsy)]
  exact ⟨[], rfl, makeReasons_map_str hreasons [], rfl⟩

/-- **Which claims `_consume_subagent_result` handles.** -/
theorem parseGateClaim_isOk_iff (hreasons : ∀ ss : List String, env.reasons (ss.map .str) = some ss)
    (hstrings : StringReasons d) {gateName : String} :
    (∃ g, parseGateClaim env d gateName = .ok g ∧ ReadRight d (g.passed, g.reasons)) ↔
      handledByConsume d = true := by
  unfold ReadRight
  cases hgate : claimObject d with
  | none =>
    simp only [malformedClaim, handledByConsume, hgate]
    constructor
    -- a truthy value that is no object is no claim: `parseGateClaim` raises
    · rintro ⟨g, hg, -⟩
      by_contra htruthy
      rw [Bool.not_eq_true] at htruthy
      have hnone := getOrEmpty_of_truthy hgate htruthy
      simp only [parseGateClaim, hnone] at hg
      cases hg
    · intro hfalsy
      obtain ⟨g, hg, hread⟩ := parseGateClaim_of_falsy hreasons hfalsy
      exact ⟨g, hg, fun _ => hread⟩
  | some gate =>
    -- a claim that is an object is read for its list of reasons and its `passed`
    have hread : ∀ p : Bool × List String,
        (∃ g, parseGateClaim env d gateName = .ok g ∧ (g.passed, g.reasons) = p) ↔
          ∃ xs, (gate.getD "reasons" (.arr [])).pyList = .ok xs ∧
            env.makeReasons xs = .ok p.2 ∧ gate.getBool "passed" = p.1 :=
      parseGateClaim_of_asDict (getOrEmpty_of_claimObject hgate)
    simp only [malformedClaim, handledByConsume, hgate]
    cases hget : gate.get? "reasons" with
    | none =>
      obtain ⟨g, hg, -⟩ := (hread (gate.getBool "passed", [])).mpr
        ⟨[], by rw [Dict.getD, hget]; rfl, makeReasons_map_str hreasons [], rfl⟩
      exact iff_of_true ⟨g, hg, fun h => by cases h⟩ rfl
    | some reasons =>
      have hD : gate.getD "reasons" (.arr []) = reasons := by rw [Dict.getD, hget]; rfl
      rw [hD] at hread
      -- a list of reasons is kept; of another value its members would be listed
      cases hlist : reasons.asList with
      | some xs =>
        obtain rfl := eq_arr_of_asList hlist
        obtain ⟨ss, rfl⟩ := hstrings gate xs hgate hget
        obtain ⟨g, hg, -⟩ := (hread (gate.getBool "passed", ss)).mpr
          ⟨_, rfl, makeReasons_map_str hreasons ss, rfl⟩
        exact iff_of_true ⟨g, hg, fun h => by cases h⟩ rfl
      | none =>
        simp only [hlist, Option.isNone_none, Option.isSome_none, Bool.false_or, forall_const,
          Bool.and_eq_true, Bool.not_eq_true']
        constructor
        · rintro ⟨g, hg, hempty⟩
          obtain ⟨xs, hxs, hmake, hpassed⟩ := (hread (false, [])).mp ⟨g, hg, hempty⟩
          obtain ⟨ss, rfl⟩ := strings_of_pyList hlist hxs
          rw [makeReasons_map_str hreasons] at hmake
          cases hmake
          exact ⟨by rw [listsNothing, hxs]; rfl, hpassed⟩
        -- a value that lists nothing, in a claim that did not pass, is read right
        · rintro ⟨hnothing, hpassed⟩
          have hxs : reasons.pyList = .ok [] := by
            unfold listsNothing at hnothing
            split at hnothing
            · assumption
            · cases hnothing
          exact (hread (false, [])).mpr ⟨[], hxs, makeReasons_map_str hreasons [], hpassed⟩

/-- A review of anything but an object did not pass and gives no reasons. -/
theorem review_of_none (h : claimObject d = none) :
    reviewPassed d = false ∧ reviewReasons d = [] := by
  unfold reviewPassed reviewReasons
  obtain ⟨-, hempty⟩ | ⟨gate, hgate, -⟩ := asDict_getOrEmpty d "gate_result"
  · split
    · next gate hgate => rw [hempty gate hgate]; exact ⟨rfl, rfl⟩
    · exact ⟨rfl, rfl⟩
  · rw [claimObject, hgate] at h
    cases h

theorem review_of_some {gate : Obj} (h : claimObject d = some gate) :
    reviewPassed d = gate.getBool "passed" ∧
      reviewReasons d = ((gate.get? "reasons").bind Json.asList).getD [] := by
  unfold reviewPassed reviewReasons
  rw [getOrEmpty_of_claimObject h]
  exact ⟨rfl, rfl⟩

/-- **Which claims the review nodes handle.**  They read every claim. -/
theorem review_isOk_iff (hreasons : ∀ ss : List String, env.reasons (ss.map .str) = some ss)
    (hstrings : StringReasons d) :
    ∃ ss, env.makeReasons (reviewReasons d) = .ok ss ∧
      (ReadRight d (reviewPassed d, ss) ↔ handledByReview d = true) := by
  unfold ReadRight
  cases hgate : claimObject d with
  | none =>
    obtain ⟨hpassed, hnil⟩ := review_of_none hgate
    refine ⟨[], ?_, iff_of_true (fun _ => by rw [hpassed]) (by rw [handledByReview, hgate])⟩
    rw [hnil]
    exact makeReasons_map_str hreasons []
  | some gate =>
    obtain ⟨hpassed, hlisted⟩ := review_of_some hgate
    simp only [malformedClaim, handledByReview, hgate, hpassed, hlisted]
    cases hget : gate.get? "reasons" with
    | none => exact ⟨[], makeReasons_map_str hreasons [], iff_of_true (fun h => by cases h) rfl⟩
    | some reasons =>
      cases hlist : reasons.asList with
      | some xs =>
        obtain rfl := eq_arr_of_asList hlist
        obtain ⟨ss, rfl⟩ := hstrings gate xs hgate hget
        exact ⟨ss, makeReasons_map_str hreasons ss, iff_of_true (fun h => by cases h) rfl⟩
      | none =>
        refine ⟨[], by simpa [hlist] using makeReasons_map_str hreasons [], ?_⟩
        simp [hlist]

theorem exists_claim_iff {x : Except PyError GateResult} {P : Bool × List String → Prop} :
    (∃ c, (do
        let g ← x
        return (g.passed, g.reasons)) = (.ok c : Except PyError (Bool × List String)) ∧ P c) ↔
      ∃ g, x = .ok g ∧ P (g.passed, g.reasons) := by
  simp only [bind_eq_ok]
  constructor
  · rintro ⟨c, ⟨g, hg, hc⟩, h⟩
    cases hc
    exact ⟨g, hg, h⟩
  · rintro ⟨g, hg, h⟩
    exact ⟨_, ⟨g, hg, rfl⟩, h⟩

theorem exists_parseReviewClaim_iff {gateName : String} {P : Bool × List String → Prop} :
    (∃ g, parseReviewClaim env d gateName = .ok g ∧ P (g.passed, g.reasons)) ↔
      ∃ ss, env.makeReasons (reviewReasons d) = .ok ss ∧ P (reviewPassed d, ss) := by
  simp only [parseReviewClaim, bind_eq_ok]
  constructor
  · rintro ⟨g, ⟨ss, hss, hg⟩, h⟩
    cases hg
    exact ⟨ss, hss, h⟩
  · rintro ⟨ss, hss, h⟩
    exact ⟨_, ⟨ss, hss, rfl⟩, h⟩

/-- **Which claims a node handles.** -/
theorem claim_isOk_iff (hreasons : ∀ ss : List String, env.reasons (ss.map .str) = some ss)
    (hstrings : StringReasons d) (n : Node) :
    (∃ c, n.claim env d = .ok c ∧ (n ∈ Node.readsClaim → ReadRight d c)) ↔
      n.handlesClaim d = true := by
  -- what the two kinds of review read, as one fact
  have hreview : (∃ ss, env.makeReasons (reviewReasons d) = .ok ss ∧
      ReadRight d (reviewPassed d, ss)) ↔ handledByReview d = true := by
    obtain ⟨ss, hss, hiff⟩ := review_isOk_iff hreasons hstrings
    rw [← hiff, hss]
    constructor
    · rintro ⟨ss', hss', h⟩
      cases hss'
      exact h
    · intro h
      exact ⟨ss, rfl, h⟩
  by_cases hn : n ∈ Node.readsClaim
  · simp only [hn, forall_const]
    cases n with
    | pmPhase =>
      rw [Node.claim, exists_claim_iff]
      exact parseGateClaim_isOk_iff hreasons hstrings
    | planningPhase =>
      rw [Node.claim, exists_claim_iff]
      exact parseGateClaim_isOk_iff hreasons hstrings
    | devCodexReview =>
      rw [Node.handlesClaim, ← hreview, Node.claim]
      simp only [bind_eq_ok]
      constructor
      · rintro ⟨c, ⟨ss, hss, hc⟩, h⟩
        cases hc
        exact ⟨ss, hss, h⟩
      · rintro ⟨ss, hss, h⟩
        exact ⟨_, ⟨ss, hss, rfl⟩, h⟩
    | revDispatch =>
      rw [Node.claim, exists_claim_iff, exists_parseReviewClaim_iff]
      exact hreview
    | revCodexFinal =>
      rw [Node.claim, exists_claim_iff, exists_parseReviewClaim_iff]
      exact hreview
    | _ => exact absurd hn (by decide)
  -- the other nodes read no claim, so that none is read wrongly
  · cases n with
    | pmPhase => exact absurd (by decide) hn
    | planningPhase => exact absurd (by decide) hn
    | devCodexReview => exact absurd (by decide) hn
    | revDispatch => exact absurd (by decide) hn
    | revCodexFinal => exact absurd (by decide) hn
    | _ => exact iff_of_true ⟨_, rfl, fun h => absurd h hn⟩ rfl

end Claim

/-! ### The nodes -/

section Run

variable {env : Env} {w : World} {n : Node} {t : Target} {s : WorkflowState} {value : Json}
  {d : Obj} {findings : List GuardWarning} {artifacts : Dict String ArtifactRef}

/-- What a node returns fits what it reads of a claim: it raises what the reading
raises, and records what it reads. -/
def Fits (n : Node) (s : WorkflowState) :
    Except PyError (Bool × List String) → Except PyError WorkflowState → Prop :=
  Except.Related fun c s' => n ∈ Node.readsClaim → n.recorded s s' = some c

theorem dispatchNode_of_passes (h : Passes env w t s value findings artifacts)
    (accept : List GuardWarning → Dict String ArtifactRef → Except PyError WorkflowState) :
    dispatchNode env w s t.stage t.subagent t.expectedArtifacts value accept =
      (accept findings artifacts).map
        (clearPending (consumePendingRetry s t.stage t.subagent)) := by
  have hout : handleGuardOutcome w s findings t.stage t.subagent = none :=
    (handleGuardOutcome_eq_none_iff w).mpr h.2
  rw [dispatchNode, runFullGuardCheck, h.1]
  simp only [bind, Except.bind, pure, Except.pure, hout]
  cases accept findings artifacts <;> rfl

/-- A summary that is absent or an object that is accepted. -/
theorem exists_phaseSummaryOf (hdefault : env.phaseSummary ∅ ≠ none)
    (hsummary : SummaryAccepted env d) :
    ∃ summary, env.phaseSummaryOf (d.getOrEmpty "phase_summary") = .ok summary := by
  have haccepted : ∀ {x : Json} {fields : Obj}, x.asDict = some fields →
      env.phaseSummary fields ≠ none → ∃ summary, env.phaseSummaryOf x = .ok summary := by
    intro x fields hx hfields
    obtain ⟨summary, hsome⟩ := Option.ne_none_iff_exists'.mp hfields
    exact ⟨summary, by simp only [Env.phaseSummaryOf, hx, Env.makePhaseSummary, hsome]⟩
  rcases hsummary with hnone | ⟨x, fields, hget, hx, hfields⟩
  · rw [Obj.getOrEmpty, hnone]
    exact haccepted rfl hdefault
  · rw [Obj.getOrEmpty, hget]
    by_cases htruthy : x.truthy = true
    · simp only [htruthy, if_true]
      exact haccepted hx hfields
    · simp only [htruthy]
      exact haccepted rfl hdefault

theorem consumeSubagentResult_eq {summary : PhaseSummary} {stage : Stage}
    {gateName question idDefault : String} (hd : value.asDict = some d)
    (hsummary : env.phaseSummaryOf (d.getOrEmpty "phase_summary") = .ok summary) :
    consumeSubagentResult env w s value stage gateName question idDefault =
      (parseGateClaim env d gateName).map
        (consumedOf env w s value stage gateName question idDefault summary) := by
  have hdict : resultDict env value = d := by rw [resultDict, hd, Option.getD_some]
  simp only [consumeSubagentResult, hdict, hsummary]
  cases parseGateClaim env d gateName with
  | error e => rfl
  | ok g =>
    change Except.ok _ = Except.ok (consumedOf env w s value stage gateName question idDefault
      summary g)
    rw [consumedOf, resultRecord, hdict]

/-- **What a node makes of a result that passes the guard**: it fits its claim. -/
theorem run_of_passes (ht : n.target s = some t) (h : Passes env w t s value findings artifacts)
    (hd : value.asDict = some d)
    (hsummary : ∃ summary, env.phaseSummaryOf (d.getOrEmpty "phase_summary") = .ok summary) :
    Fits n s (n.claim env d) (n.run env w s value) := by
  have hdict : resultDict env value = d := by rw [resultDict, hd, Option.getD_some]
  obtain ⟨summary, hsummary⟩ := hsummary
  cases n with
  | pmPhase =>
    cases ht
    rw [Node.claim, Node.run, pmPhaseNode, dispatchNode_of_passes h,
      consumeSubagentResult_eq hd hsummary]
    cases parseGateClaim env d "Gate 1" with
    | error e => exact .error e
    | ok g =>
      refine .ok fun _ => ?_
      simp [Node.recorded, consumedOf]
  | planningPhase =>
    cases ht
    rw [Node.claim, Node.run, planningPhaseNode, dispatchNode_of_passes h,
      consumeSubagentResult_eq hd hsummary]
    cases parseGateClaim env d "Gate 1.5" with
    | error e => exact .error e
    | ok g =>
      simp only [Except.map, bind, Except.bind, pure, Except.pure]
      -- the branches agree on what is recorded
      split_ifs
      all_goals
        refine .ok fun _ => ?_
        simp [Node.recorded, consumedOf, planningReturn]
  | planningDevConsult =>
    cases ht
    rw [Node.run, planningDevConsultNode, dispatchNode_of_passes h]
    exact .ok fun hn => absurd hn (by decide)
  | devSubtaskDispatch =>
    obtain ⟨subtask, hsub, rfl⟩ := Option.map_eq_some_iff.mp ht
    rw [Node.run, devSubtaskDispatchNode, hsub]
    refine Eq.mpr (congrArg (Fits _ s _) (dispatchNode_of_passes h _)) ?_
    exact .ok fun hn => absurd hn (by decide)
  | devCodexReview =>
    obtain ⟨subtask, hsub, rfl⟩ := Option.map_eq_some_iff.mp ht
    rw [Node.claim, Node.run, devCodexReviewNode, hsub]
    refine Eq.mpr (congrArg (Fits _ s _) (dispatchNode_of_passes h _)) ?_
    simp only [hdict]
    cases env.makeReasons (reviewReasons d) with
    | error e => exact .error e
    | ok ss =>
      refine .ok fun _ => ?_
      simp [Node.recorded, hsub, codexMerged]
  | revDispatch =>
    cases ht
    rw [Node.claim, Node.run, revDispatchNode, dispatchNode_of_passes h]
    simp only [hdict, hsummary]
    cases parseReviewClaim env d "Gate 3 - rev_agent" with
    | error e => exact .error e
    | ok g =>
      refine .ok fun _ => ?_
      simp [Node.recorded]
  | revCodexFinal =>
    cases ht
    rw [Node.claim, Node.run, revCodexFinalNode, dispatchNode_of_passes h]
    simp only [hdict, hsummary]
    cases parseReviewClaim env d "Gate 3" with
    | error e => exact .error e
    | ok g =>
      refine .ok fun _ => ?_
      simp [Node.recorded]
  | _ => cases ht

/-- A node returns, and a malformed claim it accepts is recorded as one that did
not pass and gives no reasons. -/
def Survives (env : Env) (w : World) (n : Node) (s : WorkflowState) (value : Json) (d : Obj) :
    Prop :=
  ∃ s', n.run env w s value = .ok s' ∧ ∀ t findings artifacts, n.target s = some t →
    Passes env w t s value findings artifacts → n ∈ Node.readsClaim →
    malformedClaim d = true → n.recorded s s' = some (false, [])

/-- A DEV node without a current subtask ignores its result. -/
theorem survives_of_no_target (hn : n ∈ Node.dispatches) (ht : n.target s = none) :
    Survives env w n s value d := by
  have hrun : ∃ s', n.run env w s value = .ok s' := by
    cases n with
    | devSubtaskDispatch =>
      rw [Node.run, devSubtaskDispatchNode, Option.map_eq_none_iff.mp ht]
      exact ⟨_, rfl⟩
    | devCodexReview =>
      rw [Node.run, devCodexReviewNode, Option.map_eq_none_iff.mp ht]
      exact ⟨_, rfl⟩
    | init => exact absurd hn (by decide)
    | gate1 => exact absurd hn (by decide)
    | gate15 => exact absurd hn (by decide)
    | devLoopRouter => exact absurd hn (by decide)
    | gate2 => exact absurd hn (by decide)
    | gate3 => exact absurd hn (by decide)
    | _ => cases ht
  obtain ⟨s', hrun⟩ := hrun
  refine ⟨s', hrun, ?_⟩
  intro t _ _ ht'
  rw [ht] at ht'
  cases ht'

/-- A result that passes the guard is survived by the nodes that handle its
claim. -/
theorem survives_of_passes (hreasons : ∀ ss : List String, env.reasons (ss.map .str) = some ss)
    (ht : n.target s = some t) (h : Passes env w t s value findings artifacts)
    (hd : value.asDict = some d)
    (hsummary : ∃ summary, env.phaseSummaryOf (d.getOrEmpty "phase_summary") = .ok summary)
    (hstrings : StringReasons d) :
    Survives env w n s value d ↔ n.handlesClaim d = true := by
  have hfits := run_of_passes ht h hd hsummary
  rw [← claim_isOk_iff hreasons hstrings]
  refine (hfits.exists_iff fun c s' hrec => ?_).symm
  constructor
  · intro hright t' _ _ _ _ hn hmal
    rw [hrec hn, hright hn hmal]
  · intro hread hn hmal
    exact Option.some.inj ((hrec hn).symm.trans (hread t findings artifacts ht h hn hmal))

/-- **A node survives a gate claim** exactly when the files of the result can be
looked at and the result is diverted or the node handles its claim. -/
theorem survives_iff (hdefault : env.phaseSummary ∅ ≠ none)
    (hreasons : ∀ ss : List String, env.reasons (ss.map .str) = some ss)
    (hn : n ∈ Node.dispatches) (hd : value.asDict = some d) (hsummary : SummaryAccepted env d)
    (hstrings : StringReasons d) :
    Survives env w n s value d ↔ ∀ t, n.target s = some t →
      (∀ path ∈ claimedPaths s.artifactPaths value, LooksAt w path) ∧
        (Rejectable env w s value t.stage ∨ n.handlesClaim d = true) := by
  -- a node that dispatches nobody does not look at the result
  cases ht : n.target s with
  | none => exact iff_of_true (survives_of_no_target hn ht) (fun t h => by cases h)
  | some t =>
    have hsummary := exists_phaseSummaryOf hdefault hsummary
    constructor
    · rintro ⟨s', hrun, hrec⟩ t' ⟨⟩
      have haccept : ∃ accept, n.run env w s value =
          dispatchNode env w s t.stage t.subagent t.expectedArtifacts value accept :=
        exists_accept_of_target ht
      obtain ⟨accept, haccept⟩ := haccept
      obtain ⟨findings, artifacts, hg, -⟩ := dispatchNode_cases env w (haccept.symm.trans hrun)
      refine ⟨guardFindings_isOk_iff.mp ⟨_, hg⟩, ?_⟩
      -- with a severe finding the claim is not read at all
      cases hsev : hasSevere findings with
      | true => exact Or.inl ((hasSevere_guardFindings hg).mp hsev)
      | false =>
        exact Or.inr ((survives_of_passes hreasons ht ⟨hg, hsev⟩ hd hsummary hstrings).mp
          ⟨s', hrun, hrec⟩)
    -- the look-ups return; then the result is diverted, or its claim is handled
    · intro hcond
      obtain ⟨hlooks, hcases⟩ := hcond t rfl
      obtain ⟨⟨findings, artifacts⟩, hg⟩ := guardFindings_isOk_iff.mpr hlooks
      cases hsev : hasSevere findings with
      | true =>
        obtain ⟨s', hrun, -⟩ := (exists_isDiversion_iff ht).mpr
          ⟨(hasSevere_guardFindings hg).mp hsev, hlooks⟩
        refine ⟨s', hrun, ?_⟩
        rintro t' findings' artifacts' ht' ⟨hg', hsev'⟩
        rw [ht] at ht'
        cases ht'
        rw [hg] at hg'
        cases hg'
        rw [hsev] at hsev'
        cases hsev'
      | false =>
        have hnot : ¬Rejectable env w s value t.stage := by
          rw [← hasSevere_guardFindings hg, hsev]
          exact Bool.false_ne_true
        exact (survives_of_passes hreasons ht ⟨hg, hsev⟩ hd hsummary hstrings).mpr
          (hcases.resolve_left hnot)

end Run

/-! ### A claim that is a string -/

theorem sampleEnv_reasons (ss : List String) : sampleEnv.reasons (ss.map .str) = some ss := by
  change (ss.map Json.str).mapM _ = some ss
  induction ss with
  | nil => rfl
  | cons s ss ih => simp [ih]

/-- A PM result with a gate claim. -/
def withClaim (claim : Json) : Json := .obj [("status", .str "done"), ("gate_result", claim)]

/-- A claim that did not pass and says why is survived. -/
theorem survives_iff_sample : ∃ d,
    (withClaim (.obj [("passed", .bool false), ("reasons", .arr [.str "r"])])).asDict = some d ∧
      Survives sampleEnv sampleWorld .pmPhase (initNode sampleWorld sampleStart.state)
        (withClaim (.obj [("passed", .bool false), ("reasons", .arr [.str "r"])])) d := by
  refine ⟨_, rfl, (survives_iff (fun h => by cases h) sampleEnv_reasons (by decide) rfl
    (Or.inl (by decide +kernel)) ?_).mpr ?_⟩
  · intro gate xs hgate hget
    cases hgate
    cases hget
    exact ⟨["r"], rfl⟩
  · rintro t ⟨⟩
    have hnone : claimedPaths (initNode sampleWorld sampleStart.state).artifactPaths
        (withClaim (.obj [("passed", .bool false), ("reasons", .arr [.str "r"])])) = [] := by
      decide +kernel
    refine ⟨fun path hpath => ?_, Or.inr (by decide +kernel)⟩
    rw [hnone] at hpath
    cases hpath

/-- **A claim that is a string crashes the PM node.** -/
theorem survives_counterexample :
    ¬∀ env w n s value d, env.phaseSummary ∅ ≠ none →
      (∀ ss : List String, env.reasons (ss.map .str) = some ss) → n ∈ Node.dispatches →
      value.asDict = some d → SummaryAccepted env d → StringReasons d →
      Survives env w n s value d := by
  intro hsurvives
  have hgate : claimObject (Dict.ofList [("status", Json.str "done"), ("gate_result", .str "ok")]) =
      none := by decide +kernel
  obtain ⟨s', hrun, -⟩ := hsurvives sampleEnv sampleWorld .pmPhase
    (initNode sampleWorld sampleStart.state) (withClaim (.str "ok")) _ (fun h => by cases h)
    sampleEnv_reasons (by decide) rfl (Or.inl (by decide +kernel)) (by
      intro gate xs h
      rw [hgate] at h
      cases h)
  have hraises : (Node.pmPhase.run sampleEnv sampleWorld (initNode sampleWorld sampleStart.state)
      (withClaim (.str "ok"))).toOption.isNone := by decide +kernel
  rw [hrun] at hraises
  cases hraises

end Shrimp
