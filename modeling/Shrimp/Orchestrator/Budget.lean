import Shrimp.Orchestrator.DevPass

/-!
# The retry budget

A severe finding is sent back once with a hint and blocks the workflow when the
budget of the dispatch is spent.  The budget is counted per stage, subagent and
number of rollbacks, so it is as large as the number of results sent back since
the last rollback.  Between two rollbacks five of the seven dispatches happen
once for each of their budgets; the planner's and the consultation's happen
again on every round, on a budget that is not renewed.

## Main definitions

* `guardUpdate`, `sentBack`, `blocksOn` — what the guard does in a move.
* `hintGiven` — the dispatch was shown with a hint.
* `sinceRollback` — the moves since the last rollback.
* `Spendable` — the budgets that may have been used when a node is about to run.
* `StaleBudget` — a severe finding for a new dispatch of the planner or the
  consultation, one of which was sent back since the last rollback.

## Main results

* `guardRetryKey_inj` — a budget's key determines the budget.
* `attemptsSoFar_eq_count` — a budget counts the results sent back.
* `spendable_of_run` — only those budgets were used.
* `blocks_after_hint_iff` — **the guard blocks only after a hinted retry, exactly
  when no stale budget is met.**
-/

namespace Shrimp

/-! ### Keys -/

theorem append_cons_inj_of_notMem {α : Type*} {x : α} :
    ∀ {a a' t t' : List α}, x ∉ a → x ∉ a' → a ++ x :: t = a' ++ x :: t' → a = a' ∧ t = t'
  | [], [], _, _, _, _, h => ⟨rfl, (List.cons.inj h).2⟩
  | [], y :: a', _, _, _, ha', h => absurd (by rw [(List.cons.inj h).1]; simp) ha'
  | y :: a, [], _, _, ha, _, h => absurd (by rw [← (List.cons.inj h).1]; simp) ha
  | y :: a, y' :: a', t, t', ha, ha', h => by
    rw [List.mem_cons, not_or] at ha ha'
    obtain ⟨hy, h⟩ := List.cons.inj h
    obtain ⟨rfl, rfl⟩ := append_cons_inj_of_notMem ha.2 ha'.2 h
    exact ⟨by rw [hy], rfl⟩

theorem Stage.value_injective : Function.Injective Stage.value := by
  intro a b h
  cases a <;> cases b <;> first | rfl | simp [Stage.value] at h

theorem toList_guardRetryKey (stage : Stage) (subagentName : String) (r : ℕ) :
    (guardRetryKey stage subagentName r).toList = stage.value.toList ++
      ':' :: (subagentName.toList ++ ':' :: ('r' :: (toString r).toList)) := by
  simp only [guardRetryKey, String.toList_append, List.append_assoc]
  rfl

theorem colon_notMem_counter (r : ℕ) : ':' ∉ 'r' :: (toString r).toList := by
  rw [List.mem_cons, not_or]
  refine ⟨by decide, ?_⟩
  intro h
  change ':' ∈ (Nat.repr r).toList at h
  rw [Nat.toList_repr] at h
  have := Nat.isDigit_of_mem_toDigits (by omega) (by omega) h
  revert this
  decide

/-- **A budget's key determines the budget.**  The name of the subagent may have
colons of its own; the stage ends at the first one, the counter begins after
the last one. -/
theorem guardRetryKey_inj {stage stage' : Stage} {sub sub' : String} {r r' : ℕ}
    (h : guardRetryKey stage sub r = guardRetryKey stage' sub' r') :
    stage = stage' ∧ sub = sub' ∧ r = r' := by
  have hl := congrArg String.toList h
  rw [toList_guardRetryKey, toList_guardRetryKey] at hl
  have hcolon : ∀ s : Stage, ':' ∉ s.value.toList := by
    intro s
    cases s <;> decide
  obtain ⟨hs, hl⟩ := append_cons_inj_of_notMem (hcolon _) (hcolon _) hl
  have hrev : ('r' :: (toString r).toList).reverse ++ ':' :: sub.toList.reverse =
      ('r' :: (toString r').toList).reverse ++ ':' :: sub'.toList.reverse := by
    simpa using congrArg List.reverse hl
  obtain ⟨hd, hsub⟩ := append_cons_inj_of_notMem (by simpa using colon_notMem_counter r)
    (by simpa using colon_notMem_counter r') hrev
  have hr := congrArg (fun ds => Nat.ofDigitChars 10 ds 0)
    (List.cons.inj (List.reverse_injective hd)).2
  exact ⟨Stage.value_injective (String.toList_injective hs),
    String.toList_injective (List.reverse_injective hsub), by simpa using hr⟩

/-- The names the developer and the reviewer are counted under tell the subtasks
apart, and each other. -/
theorem subagent_devTarget_inj {t t' : SubtaskSpec}
    (h : (devTarget t).subagent = (devTarget t').subagent) : t.taskId = t'.taskId := by
  have hl := congrArg String.toList h
  simp only [devTarget, String.toList_append] at hl
  exact String.toList_injective (List.append_cancel_left (List.append_cancel_right hl))

theorem subagent_codexTarget_inj {t t' : SubtaskSpec}
    (h : (codexTarget t).subagent = (codexTarget t').subagent) : t.taskId = t'.taskId := by
  have hl := congrArg String.toList h
  simp only [codexTarget, String.toList_append] at hl
  exact String.toList_injective (List.append_cancel_left (List.append_cancel_right hl))

theorem subagent_devTarget_ne_codexTarget (t t' : SubtaskSpec) :
    (devTarget t).subagent ≠ (codexTarget t').subagent := by
  intro h
  have hl := congrArg String.toList h
  simp only [devTarget, codexTarget, String.toList_append, List.append_assoc] at hl
  have hhead : some 'd' = some 'c' := congrArg List.head? hl
  exact absurd hhead (by decide)

/-! ### What the guard does in a move -/

section Moves

variable (env : Env)

/-- The update the guard returns in a move, with the dispatch it is about. -/
def guardUpdate (m : Lts.Move Config Event) : Option (Target × WorkflowState) :=
  match m.pre.node, m.label with
  | some n, .resume w value =>
    match n.target m.pre.state with
    | none => none
    | some t =>
      match runFullGuardCheck env w m.pre.state value t.stage t.expectedArtifacts t.subagent with
      | .ok (_, _, some s') => some (t, s')
      | _ => none
  | _, _ => none

/-- The dispatch the guard sends back with a hint in a move. -/
def sentBack (m : Lts.Move Config Event) : Option Target :=
  match guardUpdate env m with
  | some (t, s') => if s'.pendingGuardRetry.isSome then some t else none
  | none => none

/-- The dispatch on which the guard sets the stage to `BLOCKED` in a move. -/
def blocksOn (m : Lts.Move Config Event) : Option Target :=
  match guardUpdate env m with
  | some (t, s') => if s'.stage = .blocked then some t else none
  | none => none

/-- Was the payload the node of a move was resumed from shown with a hint? -/
def hintGiven (m : Lts.Move Config Event) : Bool :=
  match m.pre.node.bind (Node.payload env m.pre.state) with
  | some payload => !(guardFailureHint payload).isNull
  | none => false

/-- Does a move roll back? -/
def rollsBack (m : Lts.Move Config Event) : Bool :=
  m.post.state.retryCount != m.pre.state.retryCount

/-- The moves since the last rollback. -/
def sinceRollback (tr : List (Lts.Move Config Event)) : List (Lts.Move Config Event) :=
  Lts.since rollsBack tr

/-- Is a move one that sends a result back on this budget? -/
def sendsBack (stage : Stage) (subagentName : String) (m : Lts.Move Config Event) : Bool :=
  match sentBack env m with
  | some t => t.stage = stage ∧ t.subagent = subagentName
  | none => false

variable {env} {n : Node} {t : Target} {w : World} {s s' : WorkflowState} {value : Json}
  {c' : Config}

theorem guardUpdate_of_rejects {findings : List GuardWarning} (ht : n.target s = some t)
    (h : Rejects env w t s value findings)
    (hs' : handleGuardOutcome w s findings t.stage t.subagent = some s') :
    guardUpdate env ⟨⟨some n, s⟩, .resume w value, c'⟩ = some (t, s') := by
  obtain ⟨⟨artifacts, hg⟩, -⟩ := h
  have hfull : runFullGuardCheck env w s value t.stage t.expectedArtifacts t.subagent =
      .ok (findings, artifacts, some s') := by
    rw [runFullGuardCheck, hg, ← hs']
    rfl
  simp [guardUpdate, ht, hfull]

theorem guardUpdate_of_accepted (ht : n.target s = some t) (h : Accepted env w t s value s') :
    guardUpdate env ⟨⟨some n, s⟩, .resume w value, c'⟩ = none := by
  obtain ⟨findings, artifacts, hg, hsev⟩ := h.passes
  have hfull : runFullGuardCheck env w s value t.stage t.expectedArtifacts t.subagent =
      .ok (findings, artifacts, none) := by
    rw [runFullGuardCheck, hg, ← (handleGuardOutcome_eq_none_iff w).mpr hsev]
    rfl
  simp [guardUpdate, ht, hfull]

theorem guardUpdate_of_target (ht : n.target s = none) {e : Event} :
    guardUpdate env ⟨⟨some n, s⟩, e, c'⟩ = none := by
  cases e <;> simp [guardUpdate, ht]

theorem handleGuardOutcome_of_lt {findings : List GuardWarning} {stage : Stage}
    {subagentName : String} (hsev : hasSevere findings = true)
    (hlt : attemptsSoFar s stage subagentName < guardRetryLimit) :
    handleGuardOutcome w s findings stage subagentName =
      some (guardRetry w s findings stage subagentName) := by
  rw [handleGuardOutcome, if_pos hsev, if_neg (Nat.not_le.mpr hlt)]

theorem handleGuardOutcome_of_le {findings : List GuardWarning} {stage : Stage}
    {subagentName : String} (hsev : hasSevere findings = true)
    (hle : guardRetryLimit ≤ attemptsSoFar s stage subagentName) :
    handleGuardOutcome w s findings stage subagentName =
      some (guardBlocked w s findings stage subagentName) := by
  rw [handleGuardOutcome, if_pos hsev, if_pos hle]

theorem sentBack_guardRetry {findings : List GuardWarning} (ht : n.target s = some t)
    (h : Rejects env w t s value findings)
    (hlt : attemptsSoFar s t.stage t.subagent < guardRetryLimit) :
    sentBack env ⟨⟨some n, s⟩, .resume w value, c'⟩ = some t := by
  rw [sentBack, guardUpdate_of_rejects ht h (handleGuardOutcome_of_lt h.2 hlt)]
  rfl

theorem sentBack_guardBlocked {findings : List GuardWarning} (ht : n.target s = some t)
    (h : Rejects env w t s value findings)
    (hle : guardRetryLimit ≤ attemptsSoFar s t.stage t.subagent) :
    sentBack env ⟨⟨some n, s⟩, .resume w value, c'⟩ = none := by
  rw [sentBack, guardUpdate_of_rejects ht h (handleGuardOutcome_of_le h.2 hle)]
  rfl

theorem sentBack_of_guardUpdate {m : Lts.Move Config Event} (h : guardUpdate env m = none) :
    sentBack env m = none := by
  rw [sentBack, h]

theorem sinceRollback_snoc (tr : List (Lts.Move Config Event)) (m : Lts.Move Config Event) :
    sinceRollback (tr ++ [m]) = if rollsBack m then [] else sinceRollback tr ++ [m] :=
  Lts.since_snoc _ _ _

end Moves

/-! ### A budget counts the results sent back -/

section Count

variable {env : Env}

/-- **What a step does to the budgets**: it rolls back and so opens new ones, or
sends a result back, or leaves them alone. -/
theorem Step.guardEffect {c c' : Config} {e : Event} (h : Step env c e c') :
    (rollsBack ⟨c, e, c'⟩ = true ∧ c'.state.retryCount = c.state.retryCount + 1 ∧
        c'.state.guardRetries = c.state.guardRetries) ∨
      (rollsBack ⟨c, e, c'⟩ = false ∧ ∃ n t w findings, c.node = some n ∧ c'.node = some n ∧
        n.target c.state = some t ∧ sentBack env ⟨c, e, c'⟩ = some t ∧
        c'.state = Shrimp.guardRetry w c.state findings t.stage t.subagent) ∨
      rollsBack ⟨c, e, c'⟩ = false ∧ sentBack env ⟨c, e, c'⟩ = none ∧
        c'.state.retryCount = c.state.retryCount ∧
        c'.state.guardRetries = c.state.guardRetries := by
  have hstays : c'.state.retryCount = c.state.retryCount → rollsBack ⟨c, e, c'⟩ = false := by
    intro h
    simp [rollsBack, h]
  cases h with
  | init => exact Or.inr (Or.inr ⟨hstays rfl, rfl, rfl, rfl⟩)
  | guardBlocked ht hr hlim =>
    exact Or.inr (Or.inr ⟨hstays rfl, sentBack_guardBlocked ht hr hlim, rfl, rfl⟩)
  | guardRetry ht hr hlim =>
    exact Or.inr (Or.inl
      ⟨hstays rfl, _, _, _, _, rfl, rfl, ht, sentBack_guardRetry ht hr hlim, rfl⟩)
  | accepted hon ht hacc | planBlocked ht hacc | planned ht hacc =>
    exact Or.inr (Or.inr ⟨hstays hacc.retryCount,
      sentBack_of_guardUpdate (guardUpdate_of_accepted ht hacc), hacc.retryCount,
      hacc.guardRetries⟩)
  | dev hsub hacc | codex hsub hacc =>
    exact Or.inr (Or.inr ⟨hstays hacc.retryCount,
      sentBack_of_guardUpdate (guardUpdate_of_accepted (by rw [Node.target, hsub]; rfl) hacc),
      hacc.retryCount, hacc.guardRetries⟩)
  | @answered gate n' w s s' value hl hd hs hsub hrc hdev =>
    have hsent : sentBack env ⟨⟨some gate.node, s⟩, .resume w value, ⟨some n', s'⟩⟩ = none :=
      sentBack_of_guardUpdate (guardUpdate_of_target (by cases gate <;> rfl))
    -- the counter of rollbacks is part of every key, so counting one opens new budgets
    split at hrc
    · refine Or.inl ⟨?_, hrc, hd.guardRetries⟩
      simp [rollsBack, hrc]
    · exact Or.inr (Or.inr ⟨hstays hrc, hsent, hrc, hd.guardRetries⟩)
  | done ha hd hs hsame hrc =>
    exact Or.inr (Or.inr ⟨hstays hrc, sentBack_of_guardUpdate (guardUpdate_of_target rfl), hrc,
      hd.guardRetries⟩)
  | @refused gate w s s' value hd hs hsame hrc =>
    exact Or.inr (Or.inr ⟨hstays hrc,
      sentBack_of_guardUpdate (guardUpdate_of_target (by cases gate <;> rfl)), hrc,
      hd.guardRetries⟩)
  | loopNext => exact Or.inr (Or.inr ⟨hstays rfl, rfl, rfl, rfl⟩)
  | loopExit => exact Or.inr (Or.inr ⟨hstays rfl, rfl, rfl, rfl⟩)

/-- The budgets count what was sent back since the last rollback, and those of
later rollbacks are untouched. -/
structure Counts (env : Env) (tr : List (Lts.Move Config Event)) (s : WorkflowState) : Prop where
  counts : ∀ stage subagentName, attemptsSoFar s stage subagentName =
    ((sinceRollback tr).filter (sendsBack env stage subagentName)).length
  later : ∀ stage subagentName r, s.retryCount < r →
    s.guardRetries.get? (guardRetryKey stage subagentName r) = none

/-- **A step keeps the count.** -/
theorem Step.counts {tr : List (Lts.Move Config Event)} {c c' : Config} {e : Event}
    (h : Step env c e c') (hc : Counts env tr c.state) :
    Counts env (tr ++ [⟨c, e, c'⟩]) c'.state := by
  obtain ⟨hroll, hrc, hgr⟩ | ⟨hroll, n, t, w, findings, -, -, -, hsent, hs'⟩ |
    ⟨hroll, hsent, hrc, hgr⟩ := h.guardEffect
  · -- A rollback opens budgets nobody has used.
    refine ⟨?_, ?_⟩
    · intro stage sub
      rw [sinceRollback_snoc, if_pos hroll, attemptsSoFar, hrc, hgr, Dict.getD,
        hc.later stage sub _ (Nat.lt_succ_self _)]
      rfl
    · intro stage sub r hr
      rw [hgr]
      exact hc.later stage sub r (by omega)
  · -- A retry is counted on the budget of its dispatch and on no other.
    refine ⟨?_, ?_⟩
    · intro stage sub
      rw [sinceRollback_snoc, if_neg (by simp [hroll]), List.filter_append, List.length_append,
        ← hc.counts stage sub, hs']
      by_cases heq : t.stage = stage ∧ t.subagent = sub
      · obtain ⟨rfl, rfl⟩ := heq
        simp [sendsBack, hsent, attemptsSoFar, Shrimp.guardRetry, Dict.getD]
      · have hkey : guardRetryKey stage sub c.state.retryCount ≠
            guardRetryKey t.stage t.subagent c.state.retryCount := by
          intro h
          obtain ⟨h₁, h₂, -⟩ := guardRetryKey_inj h
          exact heq ⟨h₁.symm, h₂.symm⟩
        simp [sendsBack, hsent, heq, attemptsSoFar, Shrimp.guardRetry, Dict.getD,
          Dict.get?_insert_of_ne _ _ hkey]
    · intro stage sub r hr
      rw [hs'] at hr ⊢
      have hkey : guardRetryKey stage sub r ≠
          guardRetryKey t.stage t.subagent c.state.retryCount := by
        intro h
        obtain ⟨-, -, rfl⟩ := guardRetryKey_inj h
        exact Nat.lt_irrefl _ hr
      rw [Shrimp.guardRetry, Dict.get?_insert_of_ne _ _ hkey]
      exact hc.later stage sub r hr
  · -- Any other move is sent back to nobody.
    refine ⟨?_, ?_⟩
    · intro stage sub
      rw [sinceRollback_snoc, if_neg (by simp [hroll]), List.filter_append, List.length_append,
        ← hc.counts stage sub, attemptsSoFar, hrc, hgr]
      simp [sendsBack, hsent, attemptsSoFar]
    · intro stage sub r hr
      rw [hgr]
      exact hc.later stage sub r (by omega)

/-- The budgets of every run are counted. -/
theorem counts_of_run {tr : List (Lts.Move Config Event)} {c : Config}
    (h : (graph env).Run tr c) : Counts env tr c.state := by
  refine h.invariant (I := fun tr c => Counts env tr c.state) ?_ fun tr c e c' hrun hI hstep =>
    (step_of_run hrun hstep).counts hI
  rintro c ⟨_, _, _, _, rfl⟩
  exact ⟨fun _ _ => rfl, fun _ _ _ _ => rfl⟩

/-- **A budget is as large as the number of results sent back since the last
rollback.** -/
theorem attemptsSoFar_eq_count {tr : List (Lts.Move Config Event)} {c : Config}
    (h : (graph env).Run tr c) (stage : Stage) (subagentName : String) :
    attemptsSoFar c.state stage subagentName =
      ((sinceRollback tr).filter (sendsBack env stage subagentName)).length :=
  (counts_of_run h).counts stage subagentName

end Count

/-! ### The budgets that may have been used -/

section Spendable

variable {env : Env}

/-- A dispatch of one of the subtasks before `k`. -/
def SpentBefore (s : WorkflowState) (k : ℤ) (subagentName : String) : Prop :=
  ∃ (i : ℕ) (t : SubtaskSpec), (i : ℤ) < k ∧ s.subtasks[i]? = some t ∧
    (subagentName = (devTarget t).subagent ∨ subagentName = (codexTarget t).subagent)

/-- The budgets that may have been used since the last rollback when a node is
about to run: those of the phases before it, and inside the DEV and REV phases
those of the dispatches before it; its own only while its retry is pending. -/
def Spendable (s : WorkflowState) (stage : Stage) (subagentName : String) :
    Option Node → Prop
  | some .init => False
  | some .pmPhase => s.pendingGuardRetry.isSome ∧ stage ≠ .devPhase ∧ stage ≠ .revPhase
  | some .gate1 | some .planningPhase | some .planningDevConsult | some .gate15 =>
    stage ≠ .devPhase ∧ stage ≠ .revPhase
  | some .devLoopRouter => stage ≠ .revPhase ∧
    (stage = .devPhase → SpentBefore s (s.currentSubtaskIndex + 1) subagentName)
  | some .devSubtaskDispatch => stage ≠ .revPhase ∧
    (stage = .devPhase → SpentBefore s s.currentSubtaskIndex subagentName ∨
      s.pendingGuardRetry.isSome ∧
        ∃ t, currentSubtask s = some t ∧ subagentName = (devTarget t).subagent)
  | some .devCodexReview => stage ≠ .revPhase ∧
    (stage = .devPhase → SpentBefore s s.currentSubtaskIndex subagentName ∨
      ∃ t, currentSubtask s = some t ∧ (subagentName = (devTarget t).subagent ∨
        s.pendingGuardRetry.isSome ∧ subagentName = (codexTarget t).subagent))
  | some .gate2 => stage ≠ .revPhase
  | some .revDispatch =>
    stage = .revPhase → s.pendingGuardRetry.isSome ∧ subagentName = "rev_agent"
  | some .revCodexFinal => stage = .revPhase → subagentName = "rev_agent" ∨
    s.pendingGuardRetry.isSome ∧ subagentName = "codex_final"
  | some .gate3 | none => True

theorem SpentBefore.mono {s s' : WorkflowState} {k k' : ℤ} {subagentName : String}
    (h : SpentBefore s k subagentName) (hsub : s'.subtasks = s.subtasks) (hk : k ≤ k') :
    SpentBefore s' k' subagentName := by
  obtain ⟨i, t, hi, ht, hname⟩ := h
  exact ⟨i, t, by omega, by rw [hsub]; exact ht, hname⟩

theorem currentSubtask_congr {s s' : WorkflowState} (hsub : s'.subtasks = s.subtasks)
    (hidx : s'.currentSubtaskIndex = s.currentSubtaskIndex) :
    currentSubtask s' = currentSubtask s := by
  rw [currentSubtask, currentSubtask, hsub, hidx]

theorem spentBefore_current {s : WorkflowState} {t : SubtaskSpec} {subagentName : String}
    (ht : currentSubtask s = some t)
    (hname : subagentName = (devTarget t).subagent ∨ subagentName = (codexTarget t).subagent) :
    SpentBefore s (s.currentSubtaskIndex + 1) subagentName := by
  have hlow : 0 ≤ s.currentSubtaskIndex := by
    unfold currentSubtask at ht
    split at ht
    · next h => exact h.1
    · cases ht
  have hidx : s.currentSubtaskIndex = (s.currentSubtaskIndex.toNat : ℤ) := by omega
  exact ⟨_, t, by omega, getElem?_of_currentSubtask ht hidx, hname⟩

theorem spendable_guardRetry {n : Node} {t : Target} {s : WorkflowState} {w : World}
    {findings : List GuardWarning} (ht : n.target s = some t) :
    Spendable (guardRetry w s findings t.stage t.subagent) t.stage t.subagent (some n) := by
  cases n with
  | init | gate1 | gate15 | devLoopRouter | gate2 | gate3 => cases ht
  | pmPhase => cases ht; exact ⟨rfl, by simp, by simp⟩
  | planningPhase => cases ht; exact ⟨by simp, by simp⟩
  | planningDevConsult => cases ht; exact ⟨by simp, by simp⟩
  | devSubtaskDispatch =>
    obtain ⟨subtask, hsub, rfl⟩ := Option.map_eq_some_iff.mp ht
    exact ⟨by simp [devTarget], fun _ => Or.inr ⟨rfl, subtask, hsub, rfl⟩⟩
  | devCodexReview =>
    obtain ⟨subtask, hsub, rfl⟩ := Option.map_eq_some_iff.mp ht
    exact ⟨by simp [codexTarget], fun _ => Or.inr ⟨subtask, hsub, Or.inr ⟨rfl, rfl⟩⟩⟩
  | revDispatch => cases ht; exact fun _ => ⟨rfl, rfl⟩
  | revCodexFinal => cases ht; exact fun _ => Or.inr ⟨rfl, rfl⟩

theorem Spendable.retry {n : Node} {s : WorkflowState} {stage stage' : Stage}
    {sub sub' : String} {w : World} {findings : List GuardWarning}
    (h : Spendable s stage sub (some n)) :
    Spendable (guardRetry w s findings stage' sub') stage sub (some n) := by
  cases n with
  | init => exact h
  | pmPhase => exact ⟨rfl, h.2⟩
  | gate1 | planningPhase | planningDevConsult | gate15 | devLoopRouter | gate2 | gate3 => exact h
  -- a retry points at the dispatch it is for, which is the one that has used the budget
  | devSubtaskDispatch =>
    refine ⟨h.1, fun hdev => ?_⟩
    rcases h.2 hdev with hbefore | ⟨-, hcur⟩
    · exact Or.inl hbefore
    · exact Or.inr ⟨rfl, hcur⟩
  | devCodexReview =>
    refine ⟨h.1, fun hdev => ?_⟩
    rcases h.2 hdev with hbefore | ⟨t, ht, hname | ⟨-, hname⟩⟩
    · exact Or.inl hbefore
    · exact Or.inr ⟨t, ht, Or.inl hname⟩
    · exact Or.inr ⟨t, ht, Or.inr ⟨rfl, hname⟩⟩
  | revDispatch => exact fun hrev => ⟨rfl, (h hrev).2⟩
  -- the final review is reached with the budget of the other review
  | revCodexFinal =>
    intro hrev
    rcases h hrev with hname | ⟨-, hname⟩
    · exact Or.inl hname
    · exact Or.inr ⟨rfl, hname⟩

/-- **A step that does not roll back keeps the budgets that may have been
used.** -/
theorem Step.spendable {c c' : Config} {e : Event} (h : Step env c e c')
    (hroll : rollsBack ⟨c, e, c'⟩ = false) {stage : Stage} {subagentName : String}
    (hc : Spendable c.state stage subagentName c.node) :
    Spendable c'.state stage subagentName c'.node := by
  cases h with
  | init => exact hc.elim
  | guardBlocked | planBlocked | done | refused => trivial
  | guardRetry ht hr hlim => exact hc.retry
  | @accepted n n' t w s s' value hon ht hacc hs hsame =>
    simp only [onward, List.mem_cons, Prod.mk.injEq, List.not_mem_nil, or_false] at hon
    -- in the order of `onward`: PM, planner, consultation, REV, final review
    rcases hon with ⟨rfl, rfl⟩ | ⟨rfl, rfl⟩ | ⟨rfl, rfl⟩ | ⟨rfl, rfl⟩ | ⟨rfl, rfl⟩
    · exact hc.2
    · exact hc
    · exact hc
    · exact fun hrev => Or.inl (hc hrev).2
    · trivial
  | planned => exact hc
  | @dev subtask w s s' value hsub hacc hs hsubs hidx hres =>
    refine ⟨hc.1, fun hdev => ?_⟩
    rcases hc.2 hdev with hbefore | ⟨-, t, ht, hname⟩
    · exact Or.inl (hbefore.mono hsubs (by rw [hidx]))
    · exact Or.inr ⟨t, (currentSubtask_congr hsubs hidx).trans ht, Or.inl hname⟩
  | @codex subtask reasons w s s' value hsub hacc hs hsubs hidx hr hres =>
    refine ⟨hc.1, fun hdev => ?_⟩
    rcases hc.2 hdev with hbefore | ⟨t, ht, hname⟩
    · exact hbefore.mono hsubs (by rw [hidx]; exact Int.le_add_one (Int.le_refl _))
    · exact (spentBefore_current ht (hname.imp id And.right)).mono hsubs (by rw [hidx])
  | @answered gate n' w s s' value hl hd hs hsub hrc hdev =>
    have hnot : gateAnswer env value ∉ rollbacks := by
      intro hmem
      rw [if_pos hmem] at hrc
      simp [rollsBack, hrc] at hroll
    -- what is left are the approvals and `continue_planning`
    cases gate <;>
      simp only [Gate.leads, List.mem_cons, Prod.mk.injEq, List.not_mem_nil, or_false] at hl
    · rcases hl with ⟨-, rfl⟩ | ⟨ha, rfl⟩
      · exact hc
      · exact absurd (by rw [ha]; simp [rollbacks]) hnot
    · rcases hl with ⟨-, rfl⟩ | ⟨ha, rfl⟩ | ⟨-, rfl⟩
      · exact ⟨hc.2, fun h => absurd h hc.1⟩
      · exact absurd (by rw [ha]; simp [rollbacks]) hnot
      · exact hc
    · rcases hl with ⟨-, rfl⟩ | ⟨ha, rfl⟩ | ⟨ha, rfl⟩
      · exact fun h => absurd h hc
      · exact absurd (by rw [ha]; simp [rollbacks]) hnot
      · exact absurd (by rw [ha]; simp [rollbacks]) hnot
    · rcases hl with ⟨ha, rfl⟩ | ⟨ha, rfl⟩ | ⟨ha, rfl⟩ <;>
        exact absurd (by rw [ha]; simp [rollbacks]) hnot
  | loopNext hlt => exact ⟨hc.1, fun hdev => Or.inl (hc.2 hdev)⟩
  | loopExit => exact hc.1

/-- **Since the last rollback only these budgets were used.** -/
theorem spendable_of_run {tr : List (Lts.Move Config Event)} {c : Config}
    (h : (graph env).Run tr c) : ∀ m ∈ sinceRollback tr, ∀ t, sentBack env m = some t →
      Spendable c.state t.stage t.subagent c.node := by
  refine h.invariant (I := fun tr c => ∀ m ∈ sinceRollback tr, ∀ t, sentBack env m = some t →
    Spendable c.state t.stage t.subagent c.node) ?_ ?_
  · intro c _ m hm
    cases hm
  · intro tr c e c' hrun ih hstep m hm t hsent
    have hout := step_of_run hrun hstep
    rw [sinceRollback_snoc] at hm
    cases hroll : rollsBack ⟨c, e, c'⟩ with
    | true => simp [hroll] at hm
    | false =>
      rw [if_neg (by simp [hroll])] at hm
      -- a move before this one, or this one: then it is the retry of its own dispatch
      rcases List.mem_append.mp hm with hm | hm
      · exact hout.spendable hroll (ih m hm t hsent)
      · rw [List.mem_singleton.mp hm] at hsent
        obtain ⟨hroll', -⟩ | ⟨-, n, t', w, findings, -, hn', ht, hsent', hs'⟩ | ⟨-, hnone, -⟩ :=
          hout.guardEffect
        · rw [hroll] at hroll'
          cases hroll'
        · rw [hsent] at hsent'
          cases hsent'
          rw [hs', hn']
          exact spendable_guardRetry ht
        · rw [hnone] at hsent
          cases hsent

/-- The dispatches whose budgets are renewed before they happen again: all but
the planner's and the consultation's. -/
def Node.renewed (n : Node) : Prop := n ≠ .planningPhase ∧ n ≠ .planningDevConsult

/-- **A new dispatch of the other five has not used its budget.** -/
theorem not_spendable_of_new {s : WorkflowState} {n : Node} {t : Target}
    (hnodup : (s.subtasks.map SubtaskSpec.taskId).Nodup) (hn : n.renewed)
    (ht : n.target s = some t) (hp : s.pendingGuardRetry = none) :
    ¬Spendable s t.stage t.subagent (some n) := by
  have hpend : ¬s.pendingGuardRetry.isSome = true := by simp [hp]
  -- A subtask before the current one has another identifier.
  have hother : ∀ {cur t' : SubtaskSpec} {i : ℕ}, currentSubtask s = some cur →
      (i : ℤ) < s.currentSubtaskIndex → s.subtasks[i]? = some t' → t'.taskId ≠ cur.taskId := by
    intro cur t' i hcur hi ht' heq
    have hidx : s.currentSubtaskIndex = (s.currentSubtaskIndex.toNat : ℤ) := by omega
    have hsame := index_eq_of_taskId_eq hnodup ht' (getElem?_of_currentSubtask hcur hidx) heq
    omega
  intro hsp
  cases n with
  | init | gate1 | gate15 | devLoopRouter | gate2 | gate3 => cases ht
  | planningPhase => exact hn.1 rfl
  | planningDevConsult => exact hn.2 rfl
  | pmPhase => exact hpend hsp.1
  | devSubtaskDispatch =>
    obtain ⟨cur, hcur, rfl⟩ := Option.map_eq_some_iff.mp ht
    rcases hsp.2 rfl with ⟨i, t', hi, ht', hname | hname⟩ | ⟨hp', -⟩
    · exact hother hcur hi ht' (subagent_devTarget_inj hname).symm
    · exact subagent_devTarget_ne_codexTarget _ _ hname
    · exact hpend hp'
  | devCodexReview =>
    obtain ⟨cur, hcur, rfl⟩ := Option.map_eq_some_iff.mp ht
    rcases hsp.2 rfl with ⟨i, t', hi, ht', hname | hname⟩ | ⟨t', -, hname | ⟨hp', -⟩⟩
    · exact subagent_devTarget_ne_codexTarget _ _ hname.symm
    · exact hother hcur hi ht' (subagent_codexTarget_inj hname).symm
    · exact subagent_devTarget_ne_codexTarget _ _ hname.symm
    · exact hpend hp'
  | revDispatch => cases ht; exact hpend (hsp rfl).1
  | revCodexFinal =>
    cases ht
    rcases hsp rfl with hname | ⟨hp', -⟩
    · exact absurd hname (by simp)
    · exact hpend hp'

end Spendable

/-! ### Blocking -/

section Blocking

variable (env : Env)

/-- The history ends with the node having run for this target and been sent
back. -/
def EndedInRetry (tr : List (Lts.Move Config Event)) (n : Node) (t : Target) : Prop :=
  ∃ tr₀ m₀, tr = tr₀ ++ [m₀] ∧ m₀.pre.node = some n ∧ n.target m₀.pre.state = some t ∧
    sentBack env m₀ = some t

/-- Whenever the guard blocks, the dispatch was shown with a hint, and the
execution before was the one that was sent back. -/
def BlocksAfterHint (tr : List (Lts.Move Config Event)) : Prop :=
  ∀ tr₁ m tr₂ t, tr = tr₁ ++ m :: tr₂ → blocksOn env m = some t →
    hintGiven env m = true ∧ ∃ n, m.pre.node = some n ∧ EndedInRetry env tr₁ n t

/-- A severe finding in the result of a new dispatch of the planner or the
consultation, one of which was sent back since the last rollback. -/
def StaleBudget (tr₁ : List (Lts.Move Config Event)) (m : Lts.Move Config Event) : Prop :=
  (m.pre.node = some .planningPhase ∨ m.pre.node = some .planningDevConsult) ∧
    m.pre.state.pendingGuardRetry = none ∧
    ∃ t value, handedIn env m = some (t, value, false) ∧
      ∃ m₀ ∈ sinceRollback tr₁, sendsBack env t.stage t.subagent m₀ = true

variable {env} {tr : List (Lts.Move Config Event)} {c : Config} {n : Node} {t : Target}
  {s : WorkflowState}

/-- The payload of a dispatch carries the hint of the pending retry. -/
theorem payload_of_target (env : Env) (ht : n.target s = some t) :
    ∃ payload, n.payload env s = some payload ∧ guardFailureHint payload =
      dumpOr (GuardRetryPending.dump env) (consumePendingRetry s t.stage t.subagent) := by
  cases n with
  | init | gate1 | gate15 | devLoopRouter | gate2 | gate3 => cases ht
  | pmPhase => cases ht; exact ⟨_, rfl, guardFailureHint_dispatchPayload ..⟩
  | planningPhase => cases ht; exact ⟨_, rfl, guardFailureHint_dispatchPayload ..⟩
  | planningDevConsult => cases ht; exact ⟨_, rfl, guardFailureHint_dispatchPayload ..⟩
  | devSubtaskDispatch =>
    obtain ⟨cur, hcur, rfl⟩ := Option.map_eq_some_iff.mp ht
    exact ⟨_, by rw [Node.payload, hcur]; rfl, guardFailureHint_dispatchPayload ..⟩
  | devCodexReview =>
    obtain ⟨cur, hcur, rfl⟩ := Option.map_eq_some_iff.mp ht
    exact ⟨_, by rw [Node.payload, hcur]; rfl, guardFailureHint_dispatchPayload ..⟩
  | revDispatch => cases ht; exact ⟨_, rfl, guardFailureHint_dispatchPayload ..⟩
  | revCodexFinal => cases ht; exact ⟨_, rfl, guardFailureHint_dispatchPayload ..⟩

/-- **A dispatch is shown with a hint exactly when a retry is pending.** -/
theorem hintGiven_iff {m : Lts.Move Config Event} (hc : Control m.pre)
    (hn : m.pre.node = some n) (ht : n.target m.pre.state = some t) :
    hintGiven env m = true ↔ m.pre.state.pendingGuardRetry ≠ none := by
  obtain ⟨⟨node, s⟩, e, c'⟩ := m
  obtain rfl : node = some n := hn
  obtain ⟨payload, hp, hhint⟩ := payload_of_target env ht
  simp only [hintGiven, Option.bind_some, hp, hhint]
  cases hpend : s.pendingGuardRetry with
  | none => simp [consumePendingRetry, hpend, dumpOr, Json.isNull]
  | some p =>
    have hconsume : consumePendingRetry s t.stage t.subagent = some p := by
      simp [consumePendingRetry, hpend, Option.filter, hc.fits ht p hpend]
    simp [hconsume, dumpOr, GuardRetryPending.dump, Json.isNull]

/-- **A pending retry was left by the move before.** -/
theorem endedInRetry_of_run (h : (graph env).Run tr c) :
    c.state.pendingGuardRetry ≠ none →
      ∃ n t, c.node = some n ∧ n.target c.state = some t ∧ EndedInRetry env tr n t := by
  refine h.invariant (I := fun tr c => c.state.pendingGuardRetry ≠ none →
    ∃ n t, c.node = some n ∧ n.target c.state = some t ∧ EndedInRetry env tr n t) ?_ ?_
  · rintro c ⟨_, _, _, _, rfl⟩ hp
    exact absurd rfl hp
  · intro tr c e c' hrun _ hstep hp
    have hc := control_of_run hrun
    have hout := step_of_run hrun hstep
    cases hout with
    -- only a retry leaves something pending
    | @guardRetry n t w s value findings ht hr hlim =>
      refine ⟨n, t, rfl, (target_congr n rfl rfl).trans ht, tr, _, rfl, rfl, ht, ?_⟩
      exact sentBack_guardRetry ht hr hlim
    | init => exact absurd (hc.pending_eq_none rfl) hp
    | guardBlocked => exact absurd rfl hp
    | accepted hon ht hacc | planBlocked ht hacc | planned ht hacc | dev ht hacc | codex ht hacc =>
      exact absurd hacc.pending hp
    | @answered gate n' w s s' value hl hd =>
      exact absurd (hd.pending.trans (hc.pending_eq_none (by cases gate <;> rfl))) hp
    | done ha hd => exact absurd (hd.pending.trans (hc.pending_eq_none rfl)) hp
    | @refused gate w s s' value hd =>
      exact absurd (hd.pending.trans (hc.pending_eq_none (by cases gate <;> rfl))) hp
    | loopNext => exact absurd (hc.pending_eq_none rfl) hp
    | loopExit => exact absurd (hc.pending_eq_none rfl) hp

theorem exists_of_handedIn {m : Lts.Move Config Event} {value : Json}
    (h : handedIn env m = some (t, value, false)) :
    ∃ n w findings, m.pre.node = some n ∧ n.target m.pre.state = some t ∧
      m.label = .resume w value ∧ Rejects env w t m.pre.state value findings := by
  unfold handedIn at h
  split at h
  · next n w v hn hlabel =>
    split at h
    · cases h
    next t' ht =>
    split at h
    · next findings artifacts hg =>
      have hinj := Option.some.inj h
      obtain ⟨rfl, rfl, hsev⟩ : t' = t ∧ v = value ∧ (!hasSevere findings) = false := by
        simpa using hinj
      exact ⟨n, w, findings, hn, ht, hlabel, ⟨artifacts, hg⟩, by simpa using hsev⟩
    · cases h
  · cases h

/-- An update of the guard is the outcome of a rejected result. -/
theorem exists_of_guardUpdate {m : Lts.Move Config Event} {s' : WorkflowState}
    (h : guardUpdate env m = some (t, s')) :
    ∃ value w findings, handedIn env m = some (t, value, false) ∧
      handleGuardOutcome w m.pre.state findings t.stage t.subagent = some s' := by
  obtain ⟨⟨node, s⟩, e, c'⟩ := m
  unfold guardUpdate at h
  -- the guard has run on the result of a dispatch, and has spoken
  split at h
  · next n w value hn hlabel =>
    split at h
    · cases h
    next t' ht =>
    split at h
    · next findings artifacts s₁ hfull =>
      cases h
      simp only [runFullGuardCheck, bind_eq_ok] at hfull
      obtain ⟨⟨findings', artifacts'⟩, hg, hfull⟩ := hfull
      obtain ⟨rfl, hrest⟩ := Prod.mk.inj (Except.ok.inj hfull)
      obtain ⟨rfl, hout⟩ := Prod.mk.inj hrest
      obtain rfl : node = some n := hn
      obtain rfl : e = .resume w value := hlabel
      exact ⟨value, w, findings', handedIn_of_rejects ht
        ⟨⟨artifacts', hg⟩, (handleGuardOutcome_cases w hout).1⟩, hout⟩
    · cases h
  · cases h

/-- **The guard blocks exactly when it rejects a result on a spent budget.** -/
theorem blocksOn_iff {m : Lts.Move Config Event} (hc : Control m.pre) :
    blocksOn env m = some t ↔ (∃ value, handedIn env m = some (t, value, false)) ∧
      guardRetryLimit ≤ attemptsSoFar m.pre.state t.stage t.subagent := by
  constructor
  · intro h
    unfold blocksOn at h
    split at h
    · next t' s' hup =>
      split at h
      · next hblocked =>
        cases h
        obtain ⟨value, w, findings, hin, hout⟩ := exists_of_guardUpdate hup
        refine ⟨⟨value, hin⟩, ?_⟩
        obtain ⟨-, ⟨hle, -⟩ | ⟨-, rfl⟩⟩ := handleGuardOutcome_cases w hout
        · exact hle
        · -- A retry leaves the stage, which is not `BLOCKED` at a node.
          obtain ⟨n, -, -, hn, -⟩ := exists_of_handedIn hin
          have hstage := hc.stage
          rw [hn] at hstage
          change m.pre.state.stage = .blocked at hblocked
          rw [hstage] at hblocked
          cases n <;> cases hblocked
      · cases h
    · cases h
  -- a rejected result of a spent budget is blocked
  · rintro ⟨⟨value, hin⟩, hle⟩
    obtain ⟨⟨node, s⟩, e, c'⟩ := m
    obtain ⟨n, w, findings, hn, ht, hlabel, hr⟩ := exists_of_handedIn hin
    obtain rfl : node = some n := hn
    obtain rfl : e = .resume w value := hlabel
    rw [blocksOn, guardUpdate_of_rejects ht hr (handleGuardOutcome_of_le hr.2 hle)]
    rfl

/-- **The guard blocks only after a hinted retry, exactly when no stale budget is
met.**  In every run, each time the guard sets the stage to `BLOCKED` the
rejected result was returned for a dispatch shown with a hint, and the execution
before was of the same node for the same target and was sent back, if and only
if no severe finding comes back for a new dispatch of the planner or of the
consultation after one of the same was sent back since the last rollback. -/
theorem blocks_after_hint_iff (h : (graph env).Run tr c) :
    BlocksAfterHint env tr ↔
      ∀ tr₁ m tr₂, tr = tr₁ ++ m :: tr₂ → ¬StaleBudget env tr₁ m := by
  -- A spent budget was spent by a move since the last rollback.
  have hspent : ∀ {tr₁ m tr₂}, tr = tr₁ ++ m :: tr₂ → ∀ stage subagentName,
      guardRetryLimit ≤ attemptsSoFar m.pre.state stage subagentName ↔
        ∃ m₀ ∈ sinceRollback tr₁, sendsBack env stage subagentName m₀ = true := by
    rintro tr₁ m tr₂ rfl stage subagentName
    rw [attemptsSoFar_eq_count h.split.1]
    exact List.length_pos_iff_exists_mem.trans (by simp)
  constructor
  · rintro hafter tr₁ m tr₂ htr ⟨-, hpend, t, value, hin, hsent⟩
    have hrun : (graph env).Run tr₁ m.pre := by rw [htr] at h; exact h.split.1
    have hc := control_of_run hrun
    have hblocks : blocksOn env m = some t :=
      (blocksOn_iff hc).mpr ⟨⟨value, hin⟩, (hspent htr _ _).mpr hsent⟩
    obtain ⟨n, w, findings, hn, ht, -⟩ := exists_of_handedIn hin
    exact (hintGiven_iff hc hn ht).mp (hafter tr₁ m tr₂ t htr hblocks).1 hpend
  · intro hstale tr₁ m tr₂ t htr hblocks
    have hrun : (graph env).Run tr₁ m.pre := by rw [htr] at h; exact h.split.1
    have hc := control_of_run hrun
    obtain ⟨⟨value, hin⟩, hle⟩ := (blocksOn_iff hc).mp hblocks
    obtain ⟨n, w, findings, hn, ht, -⟩ := exists_of_handedIn hin
    by_cases hpend : m.pre.state.pendingGuardRetry = none
    · -- A new dispatch on a spent budget: only the planner and the consultation have one.
      have hsent := (hspent htr _ _).mp hle
      refine absurd ⟨?_, hpend, t, value, hin, hsent⟩ (hstale tr₁ m tr₂ htr)
      by_contra hother
      rw [hn, not_or] at hother
      obtain ⟨m₀, hm₀, hsends⟩ := hsent
      unfold sendsBack at hsends
      split at hsends
      · next t₀ hsent₀ =>
        have hsp := spendable_of_run hrun m₀ hm₀ t₀ hsent₀
        obtain ⟨hst, hsub⟩ : t₀.stage = t.stage ∧ t₀.subagent = t.subagent := by
          simpa using hsends
        rw [hst, hsub, hn] at hsp
        refine not_spendable_of_new (devInv_of_run hrun).nodup ⟨?_, ?_⟩ ht hpend hsp
        · rintro rfl
          exact hother.1 rfl
        · rintro rfl
          exact hother.2 rfl
      · cases hsends
    · -- A retry was pending, so the move before left it.
      refine ⟨(hintGiven_iff hc hn ht).mpr hpend, ?_⟩
      obtain ⟨n', t', hn', ht', hended⟩ := endedInRetry_of_run hrun hpend
      rw [hn] at hn'
      cases hn'
      rw [ht] at ht'
      cases ht'
      exact ⟨n, hn, hended⟩

end Blocking

/-- A result with a status that is none of the three. -/
def sampleIllegal (sha : String) : Event :=
  .resume sampleWorld
    (.obj [("status", .str "finished"), ("_decision_file_sha256", .str sha)])

/-- A PM whose retry is as bad as its first result is blocked after the hint. -/
theorem blocks_after_hint_iff_sample : ∃ tr c, (graph sampleEnv).Run tr c ∧
    c.state.stage = .blocked ∧ BlocksAfterHint sampleEnv tr := by
  obtain ⟨tr, c, hrun, h⟩ := exists_sampleRun
    [.tick sampleWorld, sampleIllegal "h1", sampleIllegal "h2"]
    (fun r => (r.2.state.stage, r.1.all fun m =>
      m.pre.node != some .planningPhase && m.pre.node != some .planningDevConsult))
    (show _ = some (Stage.blocked, true) by decide +kernel)
  obtain ⟨hs, hnodes⟩ := Prod.mk.inj h
  refine ⟨tr, c, hrun, hs, (blocks_after_hint_iff hrun).mpr ?_⟩
  rintro tr₁ m tr₂ rfl ⟨hn, -⟩
  have hm := List.all_eq_true.mp hnodes m (by simp)
  rcases hn with hn | hn <;> simp [hn] at hm

/-- **The second round of the planner is blocked at its first severe result**,
its budget spent on a retry in the first round. -/
theorem blocks_after_hint_counterexample :
    ¬∀ tr c, (graph sampleEnv).Run tr c → BlocksAfterHint sampleEnv tr := by
  intro hafter
  obtain ⟨tr, c, hrun, h⟩ := exists_sampleRun
    [.tick sampleWorld, sampleResult "h1" [], sampleAnswer "h2" "approve", sampleIllegal "h3",
      .resume sampleWorld (.obj [("status", .str "needs_input"),
        ("_decision_file_sha256", .str "h4"),
        ("dev_consultation", .obj [("question", .str "which port?")])]),
      sampleResult "h5" [], sampleIllegal "h6"]
    (fun r => r.1.getLast?.map fun m => ((blocksOn sampleEnv m).isSome, hintGiven sampleEnv m))
    (show _ = some (some (true, false)) by decide +kernel)
  obtain ⟨m, hlast, hm⟩ := Option.map_eq_some_iff.mp h
  obtain ⟨hblocks, hhint⟩ := Prod.mk.inj hm
  obtain ⟨t, ht⟩ := Option.isSome_iff_exists.mp hblocks
  obtain ⟨tr₁, rfl⟩ := List.getLast?_eq_some_iff.mp hlast
  have := (hafter _ c hrun tr₁ m [] t rfl ht).1
  rw [hhint] at this
  cases this

end Shrimp
