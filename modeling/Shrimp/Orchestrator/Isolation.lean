import Shrimp.Orchestrator.Budget

/-!
# Budgets do not leak

Every dispatch has a retry budget of its own in every rollback generation: the
owner of a budget is one of the five fixed dispatches or the developer or the
reviewer of one subtask, and the keys of the budgets tell the owners and the
generations apart whatever the identifiers of the subtasks are.

## Main definitions

* `BudgetOwner` — whom a budget is for, with the stage and the name the dispatch
  nodes use.
* `Node.budgetOwner` — the owner of the budget a node's dispatch is counted on.
* `budgetKey`, `remainingBudget` — the key of a budget and what is left of it.

## Main results

* `budgetKey_injective` — **different budgets have different keys.**
* `Step.spendsOnlyOwn` — what a severe result does to the budgets.
* `budgets_isolated` — **in every run a severe result touches no budget but its
  own.**
-/

namespace Shrimp

/-! ### Owners -/

/-- Whom a retry budget is for. -/
inductive BudgetOwner
  | pmAgent
  | planner
  | devConsult
  | devAgent (taskId : String)
  | codexReviewer (taskId : String)
  | revAgent
  | codexFinal
  deriving DecidableEq

namespace BudgetOwner

/-- The stage the dispatch node of an owner counts on. -/
def stage : BudgetOwner → Stage
  | pmAgent => .pmPhase
  | planner => .planningPhase
  | devConsult => .planningPhase
  | devAgent _ => .devPhase
  | codexReviewer _ => .devPhase
  | revAgent => .revPhase
  | codexFinal => .revPhase

/-- The name the dispatch node of an owner counts on. -/
def name : BudgetOwner → String
  | pmAgent => "pm_agent"
  | planner => "planner"
  | devConsult => "dev_agent[consult]"
  | devAgent taskId => s!"dev_agent[{taskId}]"
  | codexReviewer taskId => s!"codex_reviewer[{taskId}]"
  | revAgent => "rev_agent"
  | codexFinal => "codex_final"

theorem eq_of_stage_of_name {o o' : BudgetOwner} (hstage : o.stage = o'.stage)
    (hname : o.name = o'.name) : o = o' := by
  -- the developer and the reviewer of a subtask, as the targets of some subtask
  have hdev : ∀ t : String, (devAgent t).name = (devTarget ⟨t, "", ""⟩).subagent := fun _ => rfl
  have hcodex : ∀ t : String, (codexReviewer t).name = (codexTarget ⟨t, "", ""⟩).subagent :=
    fun _ => rfl
  cases o with
  | devAgent t =>
    cases o' with
    | devAgent t' =>
      rw [hdev, hdev] at hname
      exact congrArg devAgent (subagent_devTarget_inj hname)
    | codexReviewer t' =>
      rw [hdev, hcodex] at hname
      exact absurd hname (subagent_devTarget_ne_codexTarget _ _)
    | _ => cases hstage
  | codexReviewer t =>
    cases o' with
    | devAgent t' =>
      rw [hdev, hcodex] at hname
      exact absurd hname.symm (subagent_devTarget_ne_codexTarget _ _)
    | codexReviewer t' =>
      rw [hcodex, hcodex] at hname
      exact congrArg codexReviewer (subagent_codexTarget_inj hname)
    | _ => cases hstage
  | _ => cases o' <;> first | rfl | exact absurd hname (by decide) | cases hstage

end BudgetOwner

/-- The owner of the budget a node's dispatch is counted on. -/
def Node.budgetOwner (s : WorkflowState) : Node → Option BudgetOwner
  | pmPhase => some .pmAgent
  | planningPhase => some .planner
  | planningDevConsult => some .devConsult
  | devSubtaskDispatch => (currentSubtask s).map fun t => .devAgent t.taskId
  | devCodexReview => (currentSubtask s).map fun t => .codexReviewer t.taskId
  | revDispatch => some .revAgent
  | revCodexFinal => some .codexFinal
  | _ => none

/-- **The dispatch nodes count on the stage and the name of their owner.** -/
theorem budgetOwner_of_target {s : WorkflowState} {n : Node} {t : Target}
    (h : n.target s = some t) :
    ∃ o, n.budgetOwner s = some o ∧ t.stage = o.stage ∧ t.subagent = o.name := by
  cases n with
  | init | gate1 | gate15 | devLoopRouter | gate2 | gate3 => cases h
  | pmPhase | planningPhase | planningDevConsult | revDispatch | revCodexFinal =>
    cases h
    exact ⟨_, rfl, rfl, rfl⟩
  | devSubtaskDispatch | devCodexReview =>
    obtain ⟨cur, hcur, rfl⟩ := Option.map_eq_some_iff.mp h
    exact ⟨_, by rw [Node.budgetOwner, hcur]; rfl, rfl, rfl⟩

/-! ### Budgets -/

/-- The key of the budget of an owner after some rollbacks. -/
def budgetKey (o : BudgetOwner) (retryCount : ℕ) : String :=
  guardRetryKey o.stage o.name retryCount

/-- The retries left on the budget of an owner after some rollbacks. -/
def remainingBudget (s : WorkflowState) (o : BudgetOwner) (retryCount : ℕ) : ℕ :=
  guardRetryLimit - s.guardRetries.getD (budgetKey o retryCount) 0

/-- **Different budgets have different keys.** -/
theorem budgetKey_injective :
    Function.Injective fun b : BudgetOwner × ℕ => budgetKey b.1 b.2 := by
  rintro ⟨o, r⟩ ⟨o', r'⟩ h
  obtain ⟨hstage, hname, hr⟩ := guardRetryKey_inj h
  exact Prod.ext (BudgetOwner.eq_of_stage_of_name hstage hname) hr

/-- A state differs from the one before in one budget at most, which has lost a
retry if it had one. -/
structure SpendsOnly (o : BudgetOwner) (s s' : WorkflowState) : Prop where
  own : remainingBudget s' o s.retryCount = remainingBudget s o s.retryCount - 1
  others : ∀ o' r', (o', r') ≠ (o, s.retryCount) →
    remainingBudget s' o' r' = remainingBudget s o' r'

section Moves

variable {env : Env}

theorem SpendsOnly.of_handleGuardOutcome {w : World} {s s' : WorkflowState}
    {findings : List GuardWarning} {o : BudgetOwner}
    (h : handleGuardOutcome w s findings o.stage o.name = some s') : SpendsOnly o s s' := by
  obtain ⟨-, ⟨hle, rfl⟩ | ⟨-, rfl⟩⟩ := handleGuardOutcome_cases w h
  · -- the budget was spent, and none is written
    refine ⟨?_, fun _ _ _ => rfl⟩
    have hspent : remainingBudget s o s.retryCount = 0 := Nat.sub_eq_zero_of_le hle
    exact hspent.trans (by rw [hspent])
  · refine ⟨?_, fun o' r' hne => ?_⟩
    · simp only [remainingBudget, budgetKey, guardRetry, Dict.getD, Dict.get?_insert_self,
        Option.getD_some, attemptsSoFar]
      omega
    · have hkey : budgetKey o' r' ≠ budgetKey o s.retryCount := fun h =>
        hne (budgetKey_injective h)
      change guardRetryLimit - ((s.guardRetries.insert (budgetKey o s.retryCount) _).get?
        (budgetKey o' r')).getD 0 = _
      rw [Dict.get?_insert_of_ne _ _ hkey]
      rfl

/-- **The update of the guard is the state a move leads to.** -/
theorem Step.state_of_guardUpdate {c c' : Config} {e : Event} {t : Target} {s' : WorkflowState}
    (h : Step env c e c') (hup : guardUpdate env ⟨c, e, c'⟩ = some (t, s')) : c'.state = s' := by
  cases h with
  | guardBlocked ht hr hle =>
    rw [guardUpdate_of_rejects ht hr (handleGuardOutcome_of_le hr.2 hle)] at hup
    exact (Prod.mk.inj (Option.some.inj hup)).2
  | guardRetry ht hr hlt =>
    rw [guardUpdate_of_rejects ht hr (handleGuardOutcome_of_lt hr.2 hlt)] at hup
    exact (Prod.mk.inj (Option.some.inj hup)).2
  -- what is accepted is no outcome of the guard
  | accepted hon ht hacc | planBlocked ht hacc | planned ht hacc =>
    rw [guardUpdate_of_accepted ht hacc] at hup
    cases hup
  | dev hsub hacc | codex hsub hacc =>
    rw [guardUpdate_of_accepted (by rw [Node.target, hsub]; rfl) hacc] at hup
    cases hup
  -- a gate dispatches nobody
  | @answered gate | @refused gate =>
    rw [guardUpdate_of_target (by cases gate <;> rfl)] at hup
    cases hup
  | done =>
    rw [guardUpdate_of_target rfl] at hup
    cases hup
  | init | loopNext | loopExit => cases hup

/-- **What a severe result does to the budgets**: the dispatch it was returned
for loses a retry, and nobody else. -/
theorem Step.spendsOnlyOwn {c c' : Config} {e : Event} {t : Target} {s' : WorkflowState}
    (h : Step env c e c') (hup : guardUpdate env ⟨c, e, c'⟩ = some (t, s')) :
    ∃ n o, c.node = some n ∧ n.budgetOwner c.state = some o ∧ t.stage = o.stage ∧
      t.subagent = o.name ∧ SpendsOnly o c.state c'.state := by
  obtain ⟨value, w, findings, hin, hout⟩ := exists_of_guardUpdate hup
  obtain ⟨n, -, -, hn, ht, -⟩ := exists_of_handedIn hin
  obtain ⟨o, howner, hstage, hname⟩ := budgetOwner_of_target ht
  refine ⟨n, o, hn, howner, hstage, hname, ?_⟩
  rw [h.state_of_guardUpdate hup]
  rw [hstage, hname] at hout
  exact .of_handleGuardOutcome hout

/-- **Budgets do not leak into each other.**  The keys tell the owners and the
rollback generations apart, and in every run a severe result takes a retry from
the budget of the dispatch it was returned for and leaves what is left of every
other budget as it was. -/
theorem budgets_isolated {tr : List (Lts.Move Config Event)} {c : Config}
    (h : (graph env).Run tr c) :
    (Function.Injective fun b : BudgetOwner × ℕ => guardRetryKey b.1.stage b.1.name b.2) ∧
      ∀ m ∈ tr, ∀ t s', guardUpdate env m = some (t, s') →
        ∃ n o, m.pre.node = some n ∧ n.budgetOwner m.pre.state = some o ∧ t.stage = o.stage ∧
          t.subagent = o.name ∧ SpendsOnly o m.pre.state m.post.state := by
  refine ⟨budgetKey_injective, fun m hm t s' hup => ?_⟩
  obtain ⟨tr₁, hrun, hstep⟩ := h.step_of_mem hm
  exact (step_of_run hrun hstep).spendsOnlyOwn hup

end Moves

/-- A severe result of the PM leaves the budgets of a subtask with colons and
brackets in its identifier alone. -/
theorem budgets_isolated_sample : ∃ tr c m, (graph sampleEnv).Run tr c ∧ m ∈ tr ∧
    (guardUpdate sampleEnv m).isSome = true ∧
    remainingBudget m.post.state .pmAgent 0 = 0 ∧
    remainingBudget m.post.state (.devAgent "t]:r0") 0 =
      remainingBudget m.pre.state (.devAgent "t]:r0") 0 := by
  obtain ⟨tr, c, hrun, h⟩ := exists_sampleRun [.tick sampleWorld, sampleIllegal "h1"]
    (fun r => r.1.getLast?.map fun m => ((guardUpdate sampleEnv m).isSome, m.pre.node,
      m.pre.state.retryCount, remainingBudget m.pre.state .pmAgent 0))
    (show _ = some (some (true, some Node.pmPhase, 0, 1)) by decide +kernel)
  obtain ⟨m, hlast, hm⟩ := Option.map_eq_some_iff.mp h
  simp only [Prod.mk.injEq] at hm
  obtain ⟨hsome, hnode, hcount, hleft⟩ := hm
  obtain ⟨⟨t, s'⟩, hup⟩ := Option.isSome_iff_exists.mp hsome
  have hmem := List.mem_of_getLast? hlast
  obtain ⟨n, o, hn, ho, -, -, hspends⟩ := (budgets_isolated hrun).2 m hmem t s' hup
  rw [hnode] at hn
  cases hn
  cases ho
  refine ⟨tr, c, m, hrun, hmem, hsome, ?_, hspends.others _ _ (by simp)⟩
  have hown := hspends.own
  rw [hcount, hleft] at hown
  exact hown

end Shrimp
