import Shrimp.Orchestrator.History
import Shrimp.Orchestrator.Plan

/-!
# One pass through the DEV loop

The loop hands each subtask to the developer and then to the reviewer, records
both results under the subtask's identifier and aggregates the records for
Gate 2.  A pass is described by the results handed in since the loop was
entered, one pair for each subtask that is through; the records and the verdict
are functions of it.

## Main definitions

* `reviewed`, `passEntries`, `passAccepts` — what a pass records and what it was
  handed in.
* `sinceDevEntry` — the results accepted since the loop was entered.
* `InPass`, `DevInv` — the invariant of the loop.
* `openIssuesOf` — the open issues of one record.

## Main results

* `collectOpenIssues_eq` — the loop over the records is a `flatMap`.
* `gate2_of_run` — **the verdict shown at Gate 2 is about exactly this pass.**
-/

namespace Shrimp

/-! ### The aggregate -/

/-- The open issues of one record: one for each reason of a failed review, one
in their place when there is no reason. -/
def openIssuesOf (e : String × SubtaskResult) : List String :=
  if e.2.reviewPassed then []
  else if e.2.reviewReasons = [] then [noReasonIssue e.1]
  else e.2.reviewReasons.map (reasonIssue e.1)

/-- **The open issues of the aggregate are those of the records, in order.** -/
theorem collectOpenIssues_eq (es : List (String × SubtaskResult)) (issues : List String) :
    collectOpenIssues es issues = issues ++ es.flatMap openIssuesOf := by
  induction es generalizing issues with
  | nil => simp [collectOpenIssues]
  | cons e es ih =>
    obtain ⟨sid, r⟩ := e
    rw [collectOpenIssues, List.flatMap_cons, openIssuesOf]
    split
    · rw [ih, List.nil_append]
    · simp only [List.isEmpty_iff]
      split <;> rw [ih, List.append_assoc]

theorem allPassed_iff (s : WorkflowState) :
    allPassed s = true ↔ ∀ e ∈ s.subtaskResults.entries, e.2.reviewPassed = true := by
  simp [allPassed, Dict.values]

/-! ### The description of a pass -/

section Pass

variable (env : Env)

/-- The record of a subtask after the developer handed in `d` and the reviewer
`r`. -/
def reviewed (d r : Json) : SubtaskResult :=
  codexMerged env (devPartial env (resultDict env d)) (resultDict env r)
    ((env.reasons (reviewReasons (resultDict env r))).getD [])

/-- The records of a pass. -/
def passEntries (tasks : List SubtaskSpec) (rs : List (Json × Json)) :
    List (String × SubtaskResult) :=
  List.zipWith (fun t r => (t.taskId, reviewed env r.1 r.2)) tasks rs

/-- What was handed in during a pass. -/
def passAccepts (tasks : List SubtaskSpec) (rs : List (Json × Json)) : List (Target × Json) :=
  (List.zip tasks rs).flatMap fun x => [(devTarget x.1, x.2.1), (codexTarget x.1, x.2.2)]

/-- Does a move enter the DEV loop from a gate? -/
def entersDev (m : Lts.Move Config Event) : Bool :=
  (m.pre.node == some .gate15 || m.pre.node == some .gate3) && m.post.node == some .devLoopRouter

/-- The results accepted since the DEV loop was last entered. -/
def sinceDevEntry (tr : List (Lts.Move Config Event)) : List (Target × Json) :=
  (Lts.since entersDev tr).filterMap (acceptedResult env)

theorem zipWith_snoc {α β γ : Type} (f : α → β → γ) :
    ∀ {xs : List α} {ys : List β} {x : α} (y : β), xs[ys.length]? = some x →
      List.zipWith f xs (ys ++ [y]) = List.zipWith f xs ys ++ [f x y]
  | x' :: xs, [], x, y, h => by
    cases h
    simp
  | x' :: xs, y' :: ys, x, y, h => by
    rw [List.length_cons, List.getElem?_cons_succ] at h
    rw [List.cons_append, List.zipWith_cons_cons, zipWith_snoc f y h, List.zipWith_cons_cons,
      List.cons_append]

theorem passEntries_snoc {tasks : List SubtaskSpec} {rs : List (Json × Json)} {t : SubtaskSpec}
    (d r : Json) (h : tasks[rs.length]? = some t) :
    passEntries env tasks (rs ++ [(d, r)]) =
      passEntries env tasks rs ++ [(t.taskId, reviewed env d r)] :=
  zipWith_snoc _ _ h

theorem passAccepts_snoc {tasks : List SubtaskSpec} {rs : List (Json × Json)} {t : SubtaskSpec}
    (d r : Json) (h : tasks[rs.length]? = some t) :
    passAccepts tasks (rs ++ [(d, r)]) =
      passAccepts tasks rs ++ [(devTarget t, d), (codexTarget t, r)] := by
  rw [passAccepts, List.zip, zipWith_snoc _ _ h, List.flatMap_append]
  simp [passAccepts, List.zip]

/-- The keys of a pass are the identifiers of the subtasks that are through. -/
theorem map_fst_passEntries {tasks : List SubtaskSpec} :
    ∀ {rs : List (Json × Json)}, rs.length ≤ tasks.length →
      (passEntries env tasks rs).map Prod.fst = (tasks.map SubtaskSpec.taskId).take rs.length := by
  induction tasks with
  | nil => intro rs h; simp_all [passEntries]
  | cons t tasks ih =>
    intro rs h
    cases rs with
    | nil => simp [passEntries]
    | cons r rs =>
      have := ih (Nat.le_of_succ_le_succ h)
      simp only [passEntries] at this
      simp [passEntries, this]

end Pass

/-! ### The invariant of the loop -/

section Invariant

variable (env : Env)

/-- Inside a pass: `rs` has the results of the subtasks that are through. -/
structure InPass (tr : List (Lts.Move Config Event)) (s : WorkflowState)
    (rs : List (Json × Json)) : Prop where
  entries : s.subtaskResults.entries = passEntries env s.subtasks rs
  accepts : sinceDevEntry env tr = passAccepts s.subtasks rs
  le : rs.length ≤ s.subtasks.length

/-- Inside a pass, with the current subtask at the developer's stage done. -/
structure InReview (tr : List (Lts.Move Config Event)) (s : WorkflowState)
    (rs : List (Json × Json)) (t : SubtaskSpec) (d : Json) : Prop where
  entries : s.subtaskResults.entries =
    passEntries env s.subtasks rs ++ [(t.taskId, devPartial env (resultDict env d))]
  accepts : sinceDevEntry env tr = passAccepts s.subtasks rs ++ [(devTarget t, d)]
  current : s.subtasks[rs.length]? = some t

/-- What a pass has done when a node is about to run. -/
def PassAt (tr : List (Lts.Move Config Event)) (s : WorkflowState) : Option Node → Prop
  | some .gate15 => s.currentSubtaskIndex = -1 ∧ s.subtaskResults = ∅
  | some .devLoopRouter =>
    ∃ rs, InPass env tr s rs ∧ s.currentSubtaskIndex + 1 = rs.length
  | some .devSubtaskDispatch =>
    ∃ rs, InPass env tr s rs ∧ s.currentSubtaskIndex = rs.length
  | some .devCodexReview =>
    ∃ rs t d, InReview env tr s rs t d ∧ s.currentSubtaskIndex = rs.length
  | some .gate2 =>
    (∃ rs, InPass env tr s rs ∧ rs.length = s.subtasks.length) ∧
      s.gateResults.get? "Gate 2" = some (gate2Result s) ∧
      s.phaseSummaries.get? "DEV_PHASE" = some (devPhaseSummary s)
  | _ => True

/-- **The invariant of the DEV loop.** -/
structure DevInv (tr : List (Lts.Move Config Event)) (c : Config) : Prop where
  nodup : (c.state.subtasks.map SubtaskSpec.taskId).Nodup
  pass : PassAt env tr c.state c.node

variable {env}

theorem getElem?_of_currentSubtask {s : WorkflowState} {t : SubtaskSpec} {k : ℕ}
    (h : currentSubtask s = some t) (hk : s.currentSubtaskIndex = k) :
    s.subtasks[k]? = some t := by
  unfold currentSubtask at h
  split at h
  · rw [hk] at h
    exact h
  · cases h

theorem index_eq_of_taskId_eq {tasks : List SubtaskSpec}
    (hnodup : (tasks.map SubtaskSpec.taskId).Nodup) {i j : ℕ} {t t' : SubtaskSpec}
    (hi : tasks[i]? = some t) (hj : tasks[j]? = some t') (heq : t.taskId = t'.taskId) : i = j := by
  have hlt : i < (tasks.map SubtaskSpec.taskId).length := by
    rw [List.length_map]
    exact (List.getElem?_eq_some_iff.mp hi).1
  refine (List.getElem?_inj hlt hnodup).mp ?_
  rw [List.getElem?_map, List.getElem?_map, hi, hj, Option.map_some, Option.map_some, heq]

/-- The record of the current subtask is not there before its developer is
done. -/
theorem InPass.notMem {tr : List (Lts.Move Config Event)} {s : WorkflowState}
    {rs : List (Json × Json)} {t : SubtaskSpec} (h : InPass env tr s rs)
    (hnodup : (s.subtasks.map SubtaskSpec.taskId).Nodup)
    (ht : s.subtasks[rs.length]? = some t) : t.taskId ∉ s.subtaskResults.keys := by
  change t.taskId ∉ s.subtaskResults.entries.map Prod.fst
  rw [h.entries, map_fst_passEntries env h.le, ← List.map_take]
  intro hmem
  obtain ⟨t', hmem', heq⟩ := List.mem_map.mp hmem
  obtain ⟨i, hi⟩ := List.mem_iff_getElem?.mp hmem'
  have hlt : i < rs.length := by
    have := (List.getElem?_eq_some_iff.mp hi).1
    rw [List.length_take] at this
    omega
  rw [List.getElem?_take_of_lt hlt] at hi
  have := index_eq_of_taskId_eq hnodup hi ht heq
  omega

/-- What one move adds to the results since the loop was entered. -/
theorem sinceDevEntry_snoc (tr : List (Lts.Move Config Event)) (m : Lts.Move Config Event) :
    sinceDevEntry env (tr ++ [m]) =
      if entersDev m then [] else sinceDevEntry env tr ++ (acceptedResult env m).toList := by
  rw [sinceDevEntry, Lts.since_snoc]
  split
  · rfl
  · rw [List.filterMap_append]
    cases h : acceptedResult env m <;> simp [h, sinceDevEntry]

theorem acceptedResult_of_accepted {n : Node} {t : Target} {w : World} {s s' : WorkflowState}
    {value : Json} {c' : Config} (ht : n.target s = some t) (h : Accepted env w t s value s') :
    acceptedResult env ⟨⟨some n, s⟩, .resume w value, c'⟩ = some (t, value) := by
  rw [acceptedResult, handedIn_of_accepted ht h]

theorem acceptedResult_of_rejects {n : Node} {t : Target} {w : World} {s : WorkflowState}
    {value : Json} {c' : Config} {findings : List GuardWarning} (ht : n.target s = some t)
    (h : Rejects env w t s value findings) :
    acceptedResult env ⟨⟨some n, s⟩, .resume w value, c'⟩ = none := by
  rw [acceptedResult, handedIn_of_rejects ht h]

theorem PassAt.retry {tr : List (Lts.Move Config Event)} {n : Node} {t : Target} {w : World}
    {s : WorkflowState} {value : Json} {findings : List GuardWarning}
    (h : PassAt env tr s (some n)) (ht : n.target s = some t)
    (hr : Rejects env w t s value findings) :
    PassAt env (tr ++ [⟨⟨some n, s⟩, .resume w value,
      ⟨some n, guardRetry w s findings t.stage t.subagent⟩⟩])
      (guardRetry w s findings t.stage t.subagent) (some n) := by
  -- a rejected result neither enters the loop nor adds to what was accepted in it
  have hacc : sinceDevEntry env (tr ++ [⟨⟨some n, s⟩, .resume w value,
      ⟨some n, guardRetry w s findings t.stage t.subagent⟩⟩]) = sinceDevEntry env tr := by
    have henters : entersDev ⟨⟨some n, s⟩, .resume w value,
        ⟨some n, guardRetry w s findings t.stage t.subagent⟩⟩ = false := by
      cases n <;> rfl
    rw [sinceDevEntry_snoc, henters, if_neg (by simp), acceptedResult_of_rejects ht hr]
    simp
  cases n with
  | devSubtaskDispatch =>
    obtain ⟨rs, hin, hidx⟩ := h
    exact ⟨rs, ⟨hin.entries, hacc.trans hin.accepts, hin.le⟩, hidx⟩
  | devCodexReview =>
    obtain ⟨rs, t', d, hin, hidx⟩ := h
    exact ⟨rs, t', d, ⟨hin.entries, hacc.trans hin.accepts, hin.current⟩, hidx⟩
  | gate15 | devLoopRouter | gate2 => cases ht
  | _ => trivial

theorem PassAt.enter {tr : List (Lts.Move Config Event)} {m : Lts.Move Config Event}
    {s' : WorkflowState} (hent : entersDev m = true) (hidx : s'.currentSubtaskIndex = -1)
    (hres : s'.subtaskResults = ∅) : PassAt env (tr ++ [m]) s' (some .devLoopRouter) := by
  refine ⟨[], ⟨?_, ?_, Nat.zero_le _⟩, by rw [hidx]; rfl⟩
  · rw [hres]
    simp [passEntries]
  · rw [sinceDevEntry_snoc, if_pos hent]
    simp [passAccepts]

/-- The developer's result opens the record of the current subtask. -/
theorem PassAt.dev {tr : List (Lts.Move Config Event)} {subtask : SubtaskSpec} {w : World}
    {s s' : WorkflowState} {value : Json} (h : PassAt env tr s (some .devSubtaskDispatch))
    (hnodup : (s.subtasks.map SubtaskSpec.taskId).Nodup)
    (hsub : currentSubtask s = some subtask) (hacc : Accepted env w (devTarget subtask) s value s')
    (hsubs : s'.subtasks = s.subtasks) (hidx : s'.currentSubtaskIndex = s.currentSubtaskIndex)
    (hres : s'.subtaskResults =
      s.subtaskResults.insert subtask.taskId (devPartial env (resultDict env value))) :
    PassAt env (tr ++ [⟨⟨some .devSubtaskDispatch, s⟩, .resume w value,
      ⟨some .devCodexReview, s'⟩⟩]) s' (some .devCodexReview) := by
  obtain ⟨rs, hin, hk⟩ := h
  have ht := getElem?_of_currentSubtask hsub hk
  refine ⟨rs, subtask, value, ⟨?_, ?_, by rw [hsubs]; exact ht⟩, hidx.trans hk⟩
  · -- the key is new, so the record goes to the end
    rw [hres, Dict.entries_insert_of_notMem _ (hin.notMem hnodup ht), hin.entries, hsubs]
  · rw [sinceDevEntry_snoc, if_neg (by simp [entersDev]), hin.accepts, hsubs,
      acceptedResult_of_accepted (by rw [Node.target, hsub]; rfl) hacc]
    rfl

/-- The reviewer's result completes the record of the current subtask. -/
theorem PassAt.codex {tr : List (Lts.Move Config Event)} {subtask : SubtaskSpec}
    {reasons : List String} {w : World} {s s' : WorkflowState} {value : Json}
    (h : PassAt env tr s (some .devCodexReview)) (hsub : currentSubtask s = some subtask)
    (hacc : Accepted env w (codexTarget subtask) s value s')
    (hsubs : s'.subtasks = s.subtasks) (hidx : s'.currentSubtaskIndex = s.currentSubtaskIndex)
    (hr : env.makeReasons (reviewReasons (resultDict env value)) = .ok reasons)
    (hres : s'.subtaskResults = s.subtaskResults.insert subtask.taskId
      (codexMerged env (s.subtaskResults.getD subtask.taskId
        { devStatus := "", devHandoffNote := "", devDecisionSha256 := "" })
        (resultDict env value) reasons)) :
    PassAt env (tr ++ [⟨⟨some .devCodexReview, s⟩, .resume w value,
      ⟨some .devLoopRouter, s'⟩⟩]) s' (some .devLoopRouter) := by
  obtain ⟨rs, t, d, hin, hk⟩ := h
  have ht : s.subtasks[rs.length]? = some subtask := getElem?_of_currentSubtask hsub hk
  obtain rfl : t = subtask := Option.some.inj (hin.current.symm.trans ht)
  -- the review is merged into the record the developer's result left, not into the default
  have hprior : s.subtaskResults.getD t.taskId
      { devStatus := "", devHandoffNote := "", devDecisionSha256 := "" } =
        devPartial env (resultDict env d) := by
    have hget : s.subtaskResults.get? t.taskId = some (devPartial env (resultDict env d)) :=
      Dict.get?_of_mem (by rw [hin.entries]; simp)
    rw [Dict.getD, hget, Option.getD_some]
  have hreasons : env.reasons (reviewReasons (resultDict env value)) = some reasons := by
    unfold Env.makeReasons at hr
    split at hr
    · next rs' hrs' => rw [hrs', Except.ok.inj hr]
    · cases hr
  have hlt : rs.length < s.subtasks.length := (List.getElem?_eq_some_iff.mp ht).1
  refine ⟨rs ++ [(d, value)], ⟨?_, ?_, ?_⟩, ?_⟩
  · rw [hres, hprior, Dict.entries_insert_last hin.entries, hsubs, passEntries_snoc env d value ht,
      reviewed, hreasons, Option.getD_some]
  · rw [sinceDevEntry_snoc, if_neg (by simp [entersDev]), hin.accepts, hsubs,
      acceptedResult_of_accepted (by rw [Node.target, hsub]; rfl) hacc, passAccepts_snoc d value ht]
    simp
  · rw [hsubs, List.length_append]
    exact hlt
  · rw [hidx, hk, List.length_append]
    rfl

/-- Only the approval of Gate 1.5 and a rollback to DEV lead into the loop, and
either starts a pass; after any other answer nothing is asked of the records. -/
theorem PassAt.answered {tr : List (Lts.Move Config Event)} {gate : Gate} {n' : Node} {w : World}
    {s s' : WorkflowState} {value : Json} (h : PassAt env tr s (some gate.node))
    (hl : (gateAnswer env value, n') ∈ gate.leads)
    (hdev : if gateAnswer env value = "rollback_to_dev" then
        s'.currentSubtaskIndex = -1 ∧ s'.subtaskResults = ∅
      else s'.currentSubtaskIndex = s.currentSubtaskIndex ∧
        s'.subtaskResults = s.subtaskResults) :
    PassAt env (tr ++ [⟨⟨some gate.node, s⟩, .resume w value, ⟨some n', s'⟩⟩]) s' (some n') := by
  cases gate <;>
    simp only [Gate.leads, List.mem_cons, Prod.mk.injEq, List.not_mem_nil, or_false] at hl
  · rcases hl with ⟨-, rfl⟩ | ⟨-, rfl⟩ <;> trivial
  · rcases hl with ⟨ha, rfl⟩ | ⟨-, rfl⟩ | ⟨-, rfl⟩
    · -- the plan that led to Gate 1.5 has cleared the records
      rw [if_neg (by rw [ha]; simp)] at hdev
      exact .enter rfl (hdev.1.trans h.1) (hdev.2.trans h.2)
    · trivial
    · trivial
  · rcases hl with ⟨-, rfl⟩ | ⟨-, rfl⟩ | ⟨-, rfl⟩ <;> trivial
  · rcases hl with ⟨ha, rfl⟩ | ⟨-, rfl⟩ | ⟨-, rfl⟩
    · -- the rollback itself clears them
      rw [if_pos ha] at hdev
      exact .enter rfl hdev.1 hdev.2
    · trivial
    · trivial

/-- **A step keeps the invariant of the loop.** -/
theorem Step.devInv {tr : List (Lts.Move Config Event)} {c c' : Config} {e : Event}
    (h : Step env c e c') (hc : DevInv env tr c) : DevInv env (tr ++ [⟨c, e, c'⟩]) c' := by
  cases h with
  | init => exact ⟨hc.nodup, trivial⟩
  | guardBlocked ht hr hlim => exact ⟨hc.nodup, trivial⟩
  | guardRetry ht hr hlim => exact ⟨hc.nodup, hc.pass.retry ht hr⟩
  | @accepted n n' t w s s' value hon ht hacc hs hsame =>
    refine ⟨by rw [hsame.subtasks]; exact hc.nodup, ?_⟩
    simp only [onward, List.mem_cons, Prod.mk.injEq, List.not_mem_nil, or_false] at hon
    rcases hon with ⟨-, rfl⟩ | ⟨-, rfl⟩ | ⟨-, rfl⟩ | ⟨-, rfl⟩ | ⟨-, rfl⟩ <;> trivial
  | planBlocked ht hacc hs hsame => exact ⟨by rw [hsame.subtasks]; exact hc.nodup, trivial⟩
  | planned ht hacc hs hsub hidx hres =>
    exact ⟨by rw [hsub]; exact nodup_parseSubtaskPlan env _, hidx, hres⟩
  | dev hsub hacc hs hsubs hidx hres =>
    exact ⟨by rw [hsubs]; exact hc.nodup, hc.pass.dev hc.nodup hsub hacc hsubs hidx hres⟩
  | codex hsub hacc hs hsubs hidx hr hres =>
    exact ⟨by rw [hsubs]; exact hc.nodup, hc.pass.codex hsub hacc hsubs hidx hr hres⟩
  | answered hl hd hs hsubs hrc hdev =>
    exact ⟨by rw [hsubs]; exact hc.nodup, hc.pass.answered hl hdev⟩
  | done ha hd hs hsame => exact ⟨by rw [hsame.subtasks]; exact hc.nodup, trivial⟩
  | refused hd hs hsame => exact ⟨by rw [hsame.subtasks]; exact hc.nodup, trivial⟩
  | @loopNext w s note hlt =>
    refine ⟨hc.nodup, ?_⟩
    obtain ⟨rs, hin, hk⟩ := hc.pass
    refine ⟨rs, ⟨hin.entries, ?_, hin.le⟩, hk⟩
    rw [sinceDevEntry_snoc, if_neg (by simp [entersDev])]
    simpa [acceptedResult, handedIn] using hin.accepts
  | @loopExit w s note hge =>
    refine ⟨hc.nodup, ?_⟩
    obtain ⟨rs, hin, hk⟩ := hc.pass
    -- the index stands past the last subtask, so all of them are through
    have hlen : rs.length = s.subtasks.length := by
      have := hin.le
      dsimp only at this hk
      omega
    refine ⟨⟨rs, ⟨hin.entries, ?_, hin.le⟩, hlen⟩, Dict.get?_insert_self _ _ _,
      Dict.get?_insert_self _ _ _⟩
    rw [sinceDevEntry_snoc, if_neg (by simp [entersDev])]
    simpa [acceptedResult, handedIn] using hin.accepts

/-- Every run keeps the invariant of the loop. -/
theorem devInv_of_run {tr : List (Lts.Move Config Event)} {c : Config}
    (h : (graph env).Run tr c) : DevInv env tr c := by
  refine h.invariant (I := DevInv env) ?_ fun tr c e c' hrun hI hstep =>
    (step_of_run hrun hstep).devInv hI
  rintro c ⟨_, _, _, _, rfl⟩
  exact ⟨List.nodup_nil, trivial⟩

/-- **The verdict shown at Gate 2 is about exactly this pass.**  The records
are those of the subtasks, in order; each was written by the developer's and
then the reviewer's accepted result, and these are all the results accepted
since the DEV loop was entered; the verdict is that every review passed, and
the open issues are those of the failed ones. -/
theorem gate2_of_run {tr : List (Lts.Move Config Event)} {c : Config}
    (h : (graph env).Run tr c) (hn : c.node = some .gate2) :
    c.state.subtaskResults.keys = c.state.subtasks.map SubtaskSpec.taskId ∧
      (∃ rs : List (Json × Json), rs.length = c.state.subtasks.length ∧
        c.state.subtaskResults.entries = passEntries env c.state.subtasks rs ∧
        sinceDevEntry env tr = passAccepts c.state.subtasks rs) ∧
      (∃ gate2, c.state.gateResults.get? "Gate 2" = some gate2 ∧
        (gate2.passed = true ↔
          ∀ e ∈ c.state.subtaskResults.entries, e.2.reviewPassed = true)) ∧
      ∃ summary, c.state.phaseSummaries.get? "DEV_PHASE" = some summary ∧
        summary.openIssues = c.state.subtaskResults.entries.flatMap openIssuesOf := by
  have hpass := (devInv_of_run h).pass
  rw [hn] at hpass
  obtain ⟨⟨rs, hin, hlen⟩, hgate, hsummary⟩ := hpass
  refine ⟨?_, ⟨rs, hlen, hin.entries, hin.accepts⟩, ⟨_, hgate, allPassed_iff c.state⟩,
    ⟨_, hsummary, ?_⟩⟩
  · rw [Dict.keys, hin.entries, map_fst_passEntries env hin.le, hlen,
      List.take_of_length_le (by simp)]
  · rw [devPhaseSummary, collectOpenIssues_eq, List.nil_append]

end Invariant

/-- In the sample workflow Gate 2 is asked about the one subtask of the plan. -/
theorem gate2_of_run_sample : ∃ tr c, (graph sampleEnv).Run tr c ∧ c.node = some .gate2 ∧
    c.state.subtaskResults.keys = ["t1"] := by
  obtain ⟨tr, c, hrun, h⟩ := exists_sampleRun (sampleEvents.take 9)
    (fun r => (r.2.node, r.2.state.subtasks.map SubtaskSpec.taskId))
    (show _ = some (some Node.gate2, ["t1"]) by decide +kernel)
  obtain ⟨hn, htasks⟩ := Prod.mk.inj h
  exact ⟨tr, c, hrun, hn, by rw [(gate2_of_run hrun hn).1, htasks]⟩

end Shrimp
