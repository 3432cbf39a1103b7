import Shrimp.Orchestrator.Counters

/-!
# The length of a run

Four loops are nested in the graph: guard retries, consultations, returns to the
planning and the subtasks of DEV.  How often each node has been resumed is a
function of where the run stands and of what it counted on the way, so a run
without rollbacks has exactly the length its counts give it; and between two
answers at gates every move uses up something the run has only so much of.

## Main definitions

* `isResume`, `sendsBackAny` — what is counted beside the rounds.
* `Config.resumes`, `Config.accepts`, `Config.ticks` — the resumes, the accepted
  results and the nodes run through, in a run without loops.
* `Config.fuel` — the moves that can still be made before the next gate.

## Main results

* `Step.weigh` — **a step weighs what it is counted as.**
* `weighed_of_run` — the counting laws of a run without rollbacks.
* `consults_le`, `sentBack_le` — the loops are bounded.
* `Step.fuel_lt` — **a move that answers no gate uses up fuel.**
* `length_of_run` — **the exact length of a run without rollbacks, and the bound
  on what happens between two answers.**
-/

namespace Shrimp

section Length

variable (env : Env)

/-- Is a value resumed in this move? -/
def isResume (m : Lts.Move Config Event) : Bool :=
  match m.label with
  | .resume _ _ => true
  | .tick _ => false

/-- Is a result sent back by the guard in this move? -/
def sendsBackAny (m : Lts.Move Config Event) : Bool := (sentBack env m).isSome

/-- Is a result accepted in this move? -/
def acceptsAny (m : Lts.Move Config Event) : Bool := (acceptedResult env m).isSome

/-- The subtasks the DEV loop has been through when its router runs. -/
def subtasksDone (s : WorkflowState) : ℕ := (s.currentSubtaskIndex + 1).toNat

/-- The resumes of a run without loops that stands at a configuration. -/
def Config.resumes (c : Config) : ℕ :=
  match c.node with
  | some .init => 0
  | some .pmPhase => 0
  | some .gate1 => 1
  | some .planningPhase => 2
  | some .planningDevConsult => 3
  | some .gate15 => 3
  | some .devLoopRouter => 4 + 2 * subtasksDone c.state
  | some .devSubtaskDispatch => 2 + 2 * subtasksDone c.state
  | some .devCodexReview => 3 + 2 * subtasksDone c.state
  | some .gate2 => 4 + 2 * c.state.subtasks.length
  | some .revDispatch => 5 + 2 * c.state.subtasks.length
  | some .revCodexFinal => 6 + 2 * c.state.subtasks.length
  | some .gate3 => 7 + 2 * c.state.subtasks.length
  | none => 8 + 2 * c.state.subtasks.length

/-- The results accepted in a run without loops that stands at a configuration. -/
def Config.accepts (c : Config) : ℕ :=
  match c.node with
  | some .init => 0
  | some .pmPhase => 0
  | some .gate1 => 1
  | some .planningPhase => 1
  | some .planningDevConsult => 2
  | some .gate15 => 2
  | some .devLoopRouter => 2 + 2 * subtasksDone c.state
  | some .devSubtaskDispatch => 2 * subtasksDone c.state
  | some .devCodexReview => 1 + 2 * subtasksDone c.state
  | some .gate2 => 2 + 2 * c.state.subtasks.length
  | some .revDispatch => 2 + 2 * c.state.subtasks.length
  | some .revCodexFinal => 3 + 2 * c.state.subtasks.length
  | some .gate3 => 4 + 2 * c.state.subtasks.length
  | none => 4 + 2 * c.state.subtasks.length

/-- The executions of nodes that run through, in a run that stands at a
configuration: of the entry node and of the router of the DEV loop. -/
def Config.ticks (c : Config) : ℕ :=
  match c.node with
  | some .init => 0
  | some .pmPhase | some .gate1 | some .planningPhase | some .planningDevConsult | some .gate15 => 1
  | some .devLoopRouter | some .devSubtaskDispatch | some .devCodexReview =>
    1 + subtasksDone c.state
  | some .gate2 | some .revDispatch | some .revCodexFinal | some .gate3 | none =>
    2 + c.state.subtasks.length

/-- The attempt of a pending retry. -/
def pendingAttempt (s : WorkflowState) : ℕ :=
  (s.pendingGuardRetry.map GuardRetryPending.attempt).getD 0

/-- The retries a dispatch has left. -/
def attemptsLeft (s : WorkflowState) : ℕ := guardRetryLimit - pendingAttempt s

/-- The consultations a planning has left. -/
def roundsLeft (s : WorkflowState) : ℕ := maxPlanningConsultations - s.planningConsultationRound

/-- The subtasks the DEV loop has not entered. -/
def subtasksLeft (s : WorkflowState) : ℕ := s.subtasks.length - subtasksDone s

/-- The moves that can still be made before the next gate. -/
def Config.fuel (c : Config) : ℕ :=
  match c.node with
  | some .init => guardRetryLimit + 2
  | some .pmPhase => attemptsLeft c.state + 1
  | some .planningPhase =>
    attemptsLeft c.state + 1 + roundsLeft c.state * (2 * guardRetryLimit + 2)
  | some .planningDevConsult =>
    -- the consultation itself, then the planner, then the rounds after this one
    attemptsLeft c.state + guardRetryLimit + 2 +
      (roundsLeft c.state - 1) * (2 * guardRetryLimit + 2)
  | some .devLoopRouter => 1 + subtasksLeft c.state * (2 * guardRetryLimit + 3)
  | some .devSubtaskDispatch =>
    attemptsLeft c.state + guardRetryLimit + 3 +
      subtasksLeft c.state * (2 * guardRetryLimit + 3)
  | some .devCodexReview =>
    attemptsLeft c.state + 2 + subtasksLeft c.state * (2 * guardRetryLimit + 3)
  | some .revDispatch => attemptsLeft c.state + guardRetryLimit + 2
  | some .revCodexFinal => attemptsLeft c.state + 1
  | _ => 0

variable {env}

/-! ### The counting laws -/

variable (env) in
/-- What a move adds to the counts is what it moves the run on by. -/
structure Weighs (m : Lts.Move Config Event) : Prop where
  onResumes : m.post.resumes + 2 * (if consults env m then 1 else 0) +
      2 * (if continuesPlanning env m then 1 else 0) + (if sendsBackAny env m then 1 else 0) =
    m.pre.resumes + if isResume m then 1 else 0
  onAccepts : m.post.accepts + 2 * (if consults env m then 1 else 0) +
      (if continuesPlanning env m then 1 else 0) =
    m.pre.accepts + if acceptsAny env m then 1 else 0
  onTicks : m.post.ticks + (if isResume m then 1 else 0) = m.pre.ticks + 1

section Weighs

variable {n : Node} {t : Target} {w : World} {s s' : WorkflowState} {value : Json} {c' : Config}

theorem Weighs.of_tick (hn : n.gate? = none) (hne : n ≠ .planningDevConsult)
    (hres : c'.resumes = Config.resumes ⟨some n, s⟩)
    (hacc : c'.accepts = Config.accepts ⟨some n, s⟩)
    (hticks : c'.ticks = Config.ticks ⟨some n, s⟩ + 1) :
    Weighs env ⟨⟨some n, s⟩, .tick w, c'⟩ := by
  have haccepts : acceptsAny env ⟨⟨some n, s⟩, .tick w, c'⟩ = false := by
    simp [acceptsAny, acceptedResult, handedIn]
  have hsends : sendsBackAny env ⟨⟨some n, s⟩, .tick w, c'⟩ = false := by
    simp [sendsBackAny, sentBack, guardUpdate]
  have hcons : consults env ⟨⟨some n, s⟩, .tick w, c'⟩ = false := consults_of_ne hne
  have hcont : continuesPlanning env ⟨⟨some n, s⟩, .tick w, c'⟩ = false :=
    continuesPlanning_of_gate? hn
  exact ⟨by rw [hcons, hcont, hsends, hres]; rfl, by rw [hcons, hcont, haccepts, hacc]; rfl, hticks⟩

/-- An accepted result, which is one of the consultation or not. -/
theorem Weighs.of_accepted (ht : n.target s = some t) (h : Accepted env w t s value s')
    (hres : c'.resumes + 2 * (if n = .planningDevConsult then 1 else 0) =
      Config.resumes ⟨some n, s⟩ + 1)
    (hacc : c'.accepts + 2 * (if n = .planningDevConsult then 1 else 0) =
      Config.accepts ⟨some n, s⟩ + 1)
    (hticks : c'.ticks = Config.ticks ⟨some n, s⟩) :
    Weighs env ⟨⟨some n, s⟩, .resume w value, c'⟩ := by
  -- an accepted result is no retry and no answer; only the consultation's counts as one
  have haccepted : acceptedResult env ⟨⟨some n, s⟩, .resume w value, c'⟩ = some (t, value) :=
    acceptedResult_of_accepted ht h
  have haccepts : acceptsAny env ⟨⟨some n, s⟩, .resume w value, c'⟩ = true := by
    rw [acceptsAny, haccepted]
    rfl
  have hsends : sendsBackAny env ⟨⟨some n, s⟩, .resume w value, c'⟩ = false := by
    rw [sendsBackAny, sentBack_of_guardUpdate (guardUpdate_of_accepted ht h)]
    rfl
  have hcons : consults env ⟨⟨some n, s⟩, .resume w value, c'⟩ =
      decide (n = .planningDevConsult) := by
    rw [consults, haccepted]
    cases n <;> rfl
  have hcont : continuesPlanning env ⟨⟨some n, s⟩, .resume w value, c'⟩ = false :=
    continuesPlanning_of_gate? (gate?_eq_none_of_target ht)
  refine ⟨?_, ?_, congrArg (· + 1) hticks⟩
  · rw [hcons, hcont, hsends]
    simpa [isResume] using hres
  · rw [hcons, hcont, haccepts]
    simpa using hacc

/-- A result that is sent back leaves the run where it was. -/
theorem Weighs.of_guardRetry {findings : List GuardWarning} (ht : n.target s = some t)
    (h : Rejects env w t s value findings)
    (hlt : attemptsSoFar s t.stage t.subagent < guardRetryLimit)
    (hres : c'.resumes = Config.resumes ⟨some n, s⟩)
    (hacc : c'.accepts = Config.accepts ⟨some n, s⟩)
    (hticks : c'.ticks = Config.ticks ⟨some n, s⟩) :
    Weighs env ⟨⟨some n, s⟩, .resume w value, c'⟩ := by
  -- a result that is sent back is resumed, and counts as nothing else
  have haccepted : acceptedResult env ⟨⟨some n, s⟩, .resume w value, c'⟩ = none :=
    acceptedResult_of_rejects ht h
  have haccepts : acceptsAny env ⟨⟨some n, s⟩, .resume w value, c'⟩ = false := by
    rw [acceptsAny, haccepted]
    rfl
  have hsends : sendsBackAny env ⟨⟨some n, s⟩, .resume w value, c'⟩ = true := by
    rw [sendsBackAny, sentBack_guardRetry ht h hlt]
    rfl
  have hcons : consults env ⟨⟨some n, s⟩, .resume w value, c'⟩ = false := by
    rw [consults, haccepted]
    exact Bool.and_false _
  have hcont : continuesPlanning env ⟨⟨some n, s⟩, .resume w value, c'⟩ = false :=
    continuesPlanning_of_gate? (gate?_eq_none_of_target ht)
  exact ⟨by rw [hcons, hcont, hsends, hres]; rfl, by rw [hcons, hcont, haccepts, hacc]; rfl,
    congrArg (· + 1) hticks⟩

theorem Weighs.of_gate (gate : Gate) {cont : Bool}
    (hcont : continuesPlanning env ⟨⟨some gate.node, s⟩, .resume w value, c'⟩ = cont)
    (hres : c'.resumes + 2 * (if cont then 1 else 0) = Config.resumes ⟨some gate.node, s⟩ + 1)
    (hacc : c'.accepts + (if cont then 1 else 0) = Config.accepts ⟨some gate.node, s⟩)
    (hticks : c'.ticks = Config.ticks ⟨some gate.node, s⟩) :
    Weighs env ⟨⟨some gate.node, s⟩, .resume w value, c'⟩ := by
  -- a gate dispatches nobody, so that its answer is no result
  have ht : gate.node.target s = none := by cases gate <;> rfl
  have haccepts : acceptsAny env ⟨⟨some gate.node, s⟩, .resume w value, c'⟩ = false := by
    rw [acceptsAny, acceptedResult, handedIn_of_target ht]
    rfl
  have hsends : sendsBackAny env ⟨⟨some gate.node, s⟩, .resume w value, c'⟩ = false := by
    rw [sendsBackAny, sentBack_of_guardUpdate (guardUpdate_of_target ht)]
    rfl
  have hcons : consults env ⟨⟨some gate.node, s⟩, .resume w value, c'⟩ = false :=
    consults_gate gate
  refine ⟨?_, ?_, congrArg (· + 1) hticks⟩
  · rw [hcons, hcont, hsends]
    simpa [isResume] using hres
  · rw [hcons, hcont, haccepts]
    simpa using hacc

theorem Weighs.of_answer (gate : Gate) (hne : gateAnswer env value ≠ "continue_planning")
    (hres : c'.resumes = Config.resumes ⟨some gate.node, s⟩ + 1)
    (hacc : c'.accepts = Config.accepts ⟨some gate.node, s⟩)
    (hticks : c'.ticks = Config.ticks ⟨some gate.node, s⟩) :
    Weighs env ⟨⟨some gate.node, s⟩, .resume w value, c'⟩ :=
  Weighs.of_gate gate (continuesPlanning_gate_of_ne gate hne) hres hacc hticks

end Weighs

theorem subtasksDone_congr {s s' : WorkflowState}
    (h : s'.currentSubtaskIndex = s.currentSubtaskIndex) : subtasksDone s' = subtasksDone s := by
  rw [subtasksDone, subtasksDone, h]

theorem weighs_of_answered {gate : Gate} {n' : Node} {w : World} {s s' : WorkflowState}
    {value : Json} {tr : List (Lts.Move Config Event)}
    (hd : DevInv env tr ⟨some gate.node, s⟩)
    (hl : (gateAnswer env value, n') ∈ gate.leads) (hnot : gateAnswer env value ∉ rollbacks)
    (hsub : s'.subtasks = s.subtasks) (hidx : s'.currentSubtaskIndex = s.currentSubtaskIndex) :
    Weighs env ⟨⟨some gate.node, s⟩, .resume w value, ⟨some n', s'⟩⟩ := by
  have hrolls : ∀ answer ∈ rollbacks, gateAnswer env value ≠ answer :=
    fun answer hmem heq => hnot (heq ▸ hmem)
  have happroves : gateAnswer env value = "approve" →
      gateAnswer env value ≠ "continue_planning" := fun ha => by rw [ha]; decide
  cases gate <;>
    simp only [Gate.leads, List.mem_cons, Prod.mk.injEq, List.not_mem_nil, or_false] at hl
  · rcases hl with ⟨ha, rfl⟩ | ⟨ha, -⟩
    · exact Weighs.of_answer .gate1 (happroves ha) rfl rfl rfl
    · exact absurd ha (hrolls _ (by decide))
  · rcases hl with ⟨ha, rfl⟩ | ⟨ha, -⟩ | ⟨ha, rfl⟩
    · -- the plan that led to Gate 1.5 stands before its first subtask
      have hdone : subtasksDone s' = 0 := by
        rw [subtasksDone_congr hidx, subtasksDone, hd.pass.1]
        rfl
      refine Weighs.of_answer .gate15 (happroves ha) ?_ ?_ ?_ <;>
        simp [Config.resumes, Config.accepts, Config.ticks, hdone, Gate.node]
    · exact absurd ha (hrolls _ (by decide))
    -- continued planning goes back by the two moves of another round
    · have hcont : continuesPlanning env ⟨⟨some .gate15, s⟩, .resume w value,
          ⟨some .planningPhase, s'⟩⟩ = true := by
        have hans : gateAnswered env ⟨⟨some .gate15, s⟩, .resume w value,
            ⟨some .planningPhase, s'⟩⟩ = some (.gate15, gateAnswer env value) := rfl
        rw [continuesPlanning, hans, ha]
        rfl
      exact Weighs.of_gate .gate15 hcont rfl rfl rfl
  · rcases hl with ⟨ha, rfl⟩ | ⟨ha, -⟩ | ⟨ha, -⟩
    · refine Weighs.of_answer .gate2 (happroves ha) ?_ ?_ ?_
      · simp only [Config.resumes, hsub, Gate.node]
        omega
      · simp only [Config.accepts, hsub, Gate.node]
      · simp only [Config.ticks, hsub, Gate.node]
    · exact absurd ha (hrolls _ (by decide))
    · exact absurd ha (hrolls _ (by decide))
  · rcases hl with ⟨ha, -⟩ | ⟨ha, -⟩ | ⟨ha, -⟩ <;> exact absurd ha (hrolls _ (by decide))

/-- **A step weighs what it is counted as**, as long as nothing rolls back or
blocks. -/
theorem Step.weigh {tr : List (Lts.Move Config Event)} {c c' : Config} {e : Event}
    (h : Step env c e c') (hd : DevInv env tr c)
    (hroll : ∀ a, gateAnswered env ⟨c, e, c'⟩ = some a → a.2 ∉ rollbacks)
    (hb : c'.state.stage ≠ .blocked) : Weighs env ⟨c, e, c'⟩ := by
  cases h with
  | init => exact Weighs.of_tick rfl (by simp) rfl rfl rfl
  | guardBlocked => exact absurd rfl hb
  | planBlocked ht hacc hs => exact absurd hs hb
  | refused hd' hs => exact absurd hs hb
  | guardRetry ht hr hlt => exact Weighs.of_guardRetry ht hr hlt rfl rfl rfl
  -- the results that lead on: one move is used up, or two are added by a consultation
  | @accepted n n' t w s s' value hon ht hacc hs hsame =>
    simp only [onward, List.mem_cons, Prod.mk.injEq, List.not_mem_nil, or_false] at hon
    rcases hon with ⟨rfl, rfl⟩ | ⟨rfl, rfl⟩ | ⟨rfl, rfl⟩ | ⟨rfl, rfl⟩ | ⟨rfl, rfl⟩ <;>
      refine Weighs.of_accepted ht hacc ?_ ?_ ?_ <;>
      simp [Config.resumes, Config.accepts, Config.ticks, hsame.subtasks] <;> omega
  | planned ht hacc => exact Weighs.of_accepted ht hacc rfl rfl rfl
  | @dev subtask w s s' value hsub hacc hs hsubs hidx =>
    refine Weighs.of_accepted (by rw [Node.target, hsub]; rfl) hacc ?_ ?_ ?_ <;>
      simp [Config.resumes, Config.accepts, Config.ticks, subtasksDone_congr hidx] <;> omega
  | @codex subtask reasons w s s' value hsub hacc hs hsubs hidx =>
    refine Weighs.of_accepted (by rw [Node.target, hsub]; rfl) hacc ?_ ?_ ?_ <;>
      simp [Config.resumes, Config.accepts, Config.ticks, subtasksDone_congr hidx] <;> omega
  | @answered gate n' w s s' value hl hdec hs hsub hrc hdev =>
    have hnot := hroll _ gateAnswered_gate
    have hidx : s'.currentSubtaskIndex = s.currentSubtaskIndex := by
      rw [if_neg (fun heq => hnot (by simp [heq, rollbacks]))] at hdev
      exact hdev.1
    exact weighs_of_answered hd hl hnot hsub hidx
  | done ha hdec hs hsame =>
    refine Weighs.of_answer .gate3 (by rw [ha]; decide) ?_ ?_ ?_
    · simp only [Config.resumes, hsame.subtasks, Gate.node]
      omega
    · simp only [Config.accepts, hsame.subtasks, Gate.node]
    · simp only [Config.ticks, hsame.subtasks, Gate.node]
  -- the loop has as many results as subtasks it is through
  | @loopNext w s note hlt =>
    obtain ⟨rs, hin, hk⟩ := hd.pass
    dsimp only at hk
    refine Weighs.of_tick rfl (by simp) ?_ ?_ ?_ <;>
      simp only [Config.resumes, Config.accepts, Config.ticks, subtasksDone] <;> omega
  | @loopExit w s note hge =>
    obtain ⟨rs, hin, hk⟩ := hd.pass
    have hle := hin.le
    dsimp only at hk hle
    refine Weighs.of_tick rfl (by simp) ?_ ?_ ?_ <;>
      simp only [Config.resumes, Config.accepts, Config.ticks, subtasksDone] <;> omega

/-! ### The laws of a run -/

section Laws

variable {tr : List (Lts.Move Config Event)} {c : Config}

/-- No rollback is answered in a history. -/
def NoRollback (env : Env) (tr : List (Lts.Move Config Event)) : Prop :=
  ∀ a ∈ gateAnswers env tr, a.2 ∉ rollbacks

variable (env) in
/-- What a run has been counted as is where it stands. -/
structure Weighed (tr : List (Lts.Move Config Event)) (c : Config) : Prop where
  onResumes : tr.countP isResume = c.resumes + 2 * tr.countP (consults env) +
    2 * tr.countP (continuesPlanning env) + tr.countP (sendsBackAny env)
  onAccepts : tr.countP (acceptsAny env) = c.accepts + 2 * tr.countP (consults env) +
    tr.countP (continuesPlanning env)
  onTicks : tr.length = tr.countP isResume + c.ticks

theorem Weighed.snoc {m : Lts.Move Config Event} (h : Weighed env tr m.pre) (hm : Weighs env m) :
    Weighed env (tr ++ [m]) m.post := by
  obtain ⟨hres, hacc, hticks⟩ := h
  obtain ⟨hres', hacc', hticks'⟩ := hm
  refine ⟨?_, ?_, ?_⟩ <;>
    simp only [List.countP_append, List.countP_singleton, List.length_append,
      List.length_singleton] <;>
    omega

theorem Control.not_blocked {n : Node} (h : Control c) (hn : c.node = some n) :
    c.state.stage ≠ .blocked := by
  intro hb
  have hstage := h.stage
  rw [hn] at hstage
  rw [show c.state.stage = n.stage from hstage] at hb
  cases n <;> cases hb

theorem exists_node_of_advance {c c' : Config} {e : Event} (h : advance env c e = some c') :
    ∃ n, c.node = some n := by
  obtain ⟨n, hn, -⟩ := returns_of_advance h
  exact ⟨n, hn⟩

/-- **A run without rollbacks weighs what it is counted as**, unless it ended
blocked. -/
theorem weighed_of_run (h : (graph env).Run tr c) (hroll : NoRollback env tr)
    (hb : c.state.stage ≠ .blocked) : Weighed env tr c := by
  have hall : ∀ m ∈ tr, ∀ a, gateAnswered env m = some a → a.2 ∉ rollbacks := by
    intro m hm a ha
    exact hroll a (List.mem_filterMap.mpr ⟨m, hm, ha⟩)
  refine (h.invariant_of (I := fun tr c => c.state.stage ≠ .blocked → Weighed env tr c)
    ?_ ?_ hall) hb
  · rintro c ⟨_, _, _, _, rfl⟩ -
    exact ⟨rfl, rfl, rfl⟩
  · intro tr c e c' hrun ih hs hno hb
    obtain ⟨n, hn⟩ := exists_node_of_advance hs
    have hpre := ih ((control_of_run hrun).not_blocked hn)
    exact hpre.snoc ((step_of_run hrun hs).weigh (devInv_of_run hrun) hno hb)

/-- **There are at most as many consultations as the continued plannings leave
room for.** -/
theorem consults_le (h : (graph env).Run tr c) :
    tr.countP (consults env) ≤
      maxPlanningConsultations * (tr.countP (continuesPlanning env) + 1) := by
  have hround : tr.countP (consults env) ≤
      maxPlanningConsultations * tr.countP (continuesPlanning env) +
        c.state.planningConsultationRound := by
    refine h.invariant (I := fun tr c => tr.countP (consults env) ≤
      maxPlanningConsultations * tr.countP (continuesPlanning env) +
        c.state.planningConsultationRound) (fun _ _ => Nat.zero_le _) ?_
    intro tr c e c' hrun ih hs
    have hcounted := (counted_of_advance hs).round
    have hle := (round_le hrun).1
    dsimp only at hcounted
    simp only [List.countP_append, List.countP_singleton]
    rw [hcounted]
    -- a consultation makes a round, and an answer that continues the planning starts them anew
    cases hcont : continuesPlanning env ⟨c, e, c'⟩ with
    | true =>
      rw [consults_of_continuesPlanning hcont, if_pos rfl, if_pos rfl, if_neg (by simp),
        Nat.mul_add]
      omega
    | false =>
      simp only [Bool.false_eq_true, if_false, Nat.add_zero]
      omega
  have hle := (round_le h).1
  rw [Nat.mul_add]
  omega

theorem pendingAttempt_eq_zero {s : WorkflowState} (h : s.pendingGuardRetry = none) :
    pendingAttempt s = 0 := by
  rw [pendingAttempt, h]
  rfl

theorem Control.pendingAttempt_le {n : Node} {t : Target} {s : WorkflowState}
    (h : Control ⟨some n, s⟩) (ht : n.target s = some t) :
    pendingAttempt s ≤ attemptsSoFar s t.stage t.subagent := by
  rw [pendingAttempt]
  cases hp : s.pendingGuardRetry with
  | none => exact Nat.zero_le _
  | some p =>
    obtain ⟨n', t', hn, ht', -, -, hget⟩ := h.pending p hp
    cases hn
    obtain rfl : t' = t := Option.some.inj (ht'.symm.trans ht)
    rw [attemptsSoFar, Dict.getD, hget]
    exact Nat.le_refl _

theorem pendingAttempt_le (h : (graph env).Run tr c) :
    pendingAttempt c.state ≤ guardRetryLimit := by
  rw [pendingAttempt]
  cases hp : c.state.pendingGuardRetry with
  | none => exact Nat.zero_le _
  | some p =>
    obtain ⟨n, t, -, -, -, -, hget⟩ := (control_of_run h).pending p hp
    exact (guardRetries_le h _ _ hget).1

theorem pendingAttempt_guardRetry (w : World) (s : WorkflowState) (findings : List GuardWarning)
    (t : Target) : pendingAttempt (guardRetry w s findings t.stage t.subagent) =
      attemptsSoFar s t.stage t.subagent + 1 :=
  rfl

/-- **What a step does to the pending attempt**: a result is sent back for one
more attempt, or a result is accepted, or nothing happens to it. -/
theorem Step.pendingEffect {c' : Config} {e : Event} (h : Step env c e c') (hc : Control c)
    (hb : c'.state.stage ≠ .blocked) :
    (sendsBackAny env ⟨c, e, c'⟩ = true ∧ pendingAttempt c.state < pendingAttempt c'.state) ∨
      (sendsBackAny env ⟨c, e, c'⟩ = false ∧ (acceptsAny env ⟨c, e, c'⟩ = true ∨
        pendingAttempt c'.state = pendingAttempt c.state)) := by
  -- an accepted result makes room for what was pending; an answer leaves it
  have haccepted : ∀ {n t w s s' value next}, n.target s = some t → Accepted env w t s value s' →
      sendsBackAny env ⟨⟨some n, s⟩, .resume w value, ⟨next, s'⟩⟩ = false ∧
        (acceptsAny env ⟨⟨some n, s⟩, .resume w value, ⟨next, s'⟩⟩ = true ∨
          pendingAttempt s' = pendingAttempt s) := by
    intro n t w s s' value next ht hacc
    refine ⟨?_, Or.inl ?_⟩
    · rw [sendsBackAny, sentBack_of_guardUpdate (guardUpdate_of_accepted ht hacc)]
      rfl
    · rw [acceptsAny, acceptedResult_of_accepted ht hacc]
      rfl
  have hdecided : ∀ {gate : Gate} {w s s' value next}, Decided env w gate s value s' →
      sendsBackAny env ⟨⟨some gate.node, s⟩, .resume w value, ⟨next, s'⟩⟩ = false ∧
        (acceptsAny env ⟨⟨some gate.node, s⟩, .resume w value, ⟨next, s'⟩⟩ = true ∨
          pendingAttempt s' = pendingAttempt s) := by
    intro gate w s s' value next hdec
    refine ⟨?_, Or.inr (by rw [pendingAttempt, hdec.pending]; rfl)⟩
    rw [sendsBackAny, sentBack_of_guardUpdate (guardUpdate_of_target (by cases gate <;> rfl))]
    rfl
  cases h with
  | init | loopNext | loopExit => exact Or.inr ⟨rfl, Or.inr rfl⟩
  | guardBlocked => exact absurd rfl hb
  | @guardRetry n t w s value findings ht hr hlt =>
    refine Or.inl ⟨?_, ?_⟩
    · rw [sendsBackAny, sentBack_guardRetry ht hr hlt]
      rfl
    · rw [pendingAttempt_guardRetry]
      exact Nat.lt_succ_of_le (hc.pendingAttempt_le ht)
  | accepted _ ht hacc | planBlocked ht hacc | planned ht hacc => exact Or.inr (haccepted ht hacc)
  | dev hsub hacc | codex hsub hacc =>
    exact Or.inr (haccepted (by rw [Node.target, hsub]; rfl) hacc)
  | answered _ hdec | done _ hdec | refused hdec => exact Or.inr (hdecided hdec)

/-- **Between two accepted results there are no more retries than attempts.** -/
theorem sentBack_le (h : (graph env).Run tr c) (hb : c.state.stage ≠ .blocked) :
    tr.countP (sendsBackAny env) ≤
      guardRetryLimit * tr.countP (acceptsAny env) + pendingAttempt c.state := by
  refine (h.invariant (I := fun tr c => c.state.stage ≠ .blocked →
    tr.countP (sendsBackAny env) ≤
      guardRetryLimit * tr.countP (acceptsAny env) + pendingAttempt c.state) ?_ ?_) hb
  · intro c _ _
    exact Nat.zero_le _
  · intro tr c e c' hrun ih hs hb
    obtain ⟨n, hn⟩ := exists_node_of_advance hs
    have hpre := ih ((control_of_run hrun).not_blocked hn)
    have hle := pendingAttempt_le hrun
    simp only [List.countP_append, List.countP_singleton, Nat.mul_add]
    rcases (step_of_run hrun hs).pendingEffect (control_of_run hrun) hb with
      ⟨hsent, hlt⟩ | ⟨hsent, hacc | heq⟩
    · rw [if_pos hsent]
      omega
    · -- the accepted result makes room for the attempts that were pending
      rw [hsent, if_pos hacc, Nat.mul_one, if_neg (by simp)]
      omega
    · rw [hsent, heq, if_neg (by simp)]
      omega

/-! ### Between two gates -/

theorem attemptsLeft_of_pending {s : WorkflowState} (h : s.pendingGuardRetry = none) :
    attemptsLeft s = guardRetryLimit := by
  rw [attemptsLeft, pendingAttempt_eq_zero h, Nat.sub_zero]

theorem fuel_guardRetry {n : Node} {t : Target} {w : World} {s : WorkflowState}
    {findings : List GuardWarning} (hc : Control ⟨some n, s⟩) (ht : n.target s = some t)
    (hlt : attemptsSoFar s t.stage t.subagent < guardRetryLimit) :
    Config.fuel ⟨some n, guardRetry w s findings t.stage t.subagent⟩ < Config.fuel ⟨some n, s⟩ := by
  have hleft : attemptsLeft (guardRetry w s findings t.stage t.subagent) < attemptsLeft s := by
    have hle := hc.pendingAttempt_le ht
    rw [attemptsLeft, attemptsLeft, pendingAttempt_guardRetry]
    omega
  -- nothing else the measure looks at is changed
  have hrounds : roundsLeft (guardRetry w s findings t.stage t.subagent) = roundsLeft s := rfl
  have hsubtasks : subtasksLeft (guardRetry w s findings t.stage t.subagent) = subtasksLeft s := rfl
  generalize guardRetry w s findings t.stage t.subagent = s' at *
  cases n with
  | init | gate1 | gate15 | devLoopRouter | gate2 | gate3 => cases ht
  | _ =>
    simp only [Config.fuel, hrounds, hsubtasks]
    omega

theorem fuel_accepted {n n' : Node} {s s' : WorkflowState} (hon : (n, n') ∈ onward)
    (hp : s'.pendingGuardRetry = none)
    (hpre : n = .planningDevConsult →
      roundsLeft s = roundsLeft s' + 1)
    (hpost : n' = .planningDevConsult → roundsLeft s' = roundsLeft s ∧ 0 < roundsLeft s') :
    Config.fuel ⟨some n', s'⟩ < Config.fuel ⟨some n, s⟩ := by
  have hleft := attemptsLeft_of_pending hp
  simp only [onward, List.mem_cons, Prod.mk.injEq, List.not_mem_nil, or_false] at hon
  rcases hon with ⟨rfl, rfl⟩ | ⟨rfl, rfl⟩ | ⟨rfl, rfl⟩ | ⟨rfl, rfl⟩ | ⟨rfl, rfl⟩
  · exact Nat.succ_pos _
  · -- the round that is asked for is one of those left
    obtain ⟨hsame, hpos⟩ := hpost rfl
    obtain ⟨k, hk⟩ := Nat.exists_eq_add_of_lt hpos
    rw [Nat.zero_add] at hk
    simp only [Config.fuel, hleft, ← hsame, hk, Nat.add_sub_cancel, Nat.add_mul]
    omega
  · simp only [Config.fuel, hleft, hpre rfl, Nat.add_sub_cancel]
    omega
  · simp only [Config.fuel, hleft]
    omega
  · exact Nat.succ_pos _

/-- **A move that answers no gate uses up fuel.** -/
theorem Step.fuel_lt {c' : Config} {e : Event} (h : Step env c e c') (hc : Control c)
    (hd : DevInv env tr c) (hcount : Counted env ⟨c, e, c'⟩)
    (hle : c'.state.planningConsultationRound ≤ maxPlanningConsultations)
    (hpost : c'.node = some .planningDevConsult →
      c'.state.planningConsultationRound < maxPlanningConsultations)
    (hno : gateAnswered env ⟨c, e, c'⟩ = none) : c'.fuel < c.fuel := by
  cases h with
  | @init w s =>
    have hleft := attemptsLeft_of_pending (s := initNode w s) (hc.pending_eq_none rfl)
    simp only [Config.fuel, hleft]
    omega
  | @guardBlocked n t w s value findings ht =>
    cases n with
    | init | gate1 | gate15 | devLoopRouter | gate2 | gate3 => cases ht
    | _ =>
      simp only [Config.fuel]
      omega
  | guardRetry ht hr hlt => exact fuel_guardRetry hc ht hlt
  | @accepted n n' t w s s' value hon ht hacc hs hsame =>
    have hround := hcount.round
    have hcont : continuesPlanning env ⟨⟨some n, s⟩, .resume w value, ⟨some n', s'⟩⟩ = false :=
      continuesPlanning_of_gate? (gate?_eq_none_of_target ht)
    rw [hcont, if_neg (by simp)] at hround
    dsimp only at hround hle hpost
    refine fuel_accepted hon hacc.pending ?_ ?_
    · rintro rfl
      have hcons : consults env ⟨⟨some .planningDevConsult, s⟩, .resume w value,
          ⟨some n', s'⟩⟩ = true := by
        rw [consults, acceptedResult_of_accepted ht hacc]
        rfl
      rw [hcons, if_pos rfl] at hround
      rw [roundsLeft, roundsLeft]
      omega
    · rintro rfl
      have hne : n ≠ .planningDevConsult := by
        rintro rfl
        simp [onward] at hon
      rw [consults_of_ne hne, if_neg (by simp)] at hround
      have hlt := hpost rfl
      rw [roundsLeft, roundsLeft]
      omega
  | planBlocked | planned =>
    simp only [Config.fuel]
    omega
  | @dev subtask w s s' value hsub hacc hs hsubs hidx =>
    have hleft := attemptsLeft_of_pending hacc.pending
    have hsame : subtasksLeft s' = subtasksLeft s := by
      rw [subtasksLeft, subtasksLeft, hsubs, subtasksDone_congr hidx]
    simp only [Config.fuel, hleft, hsame]
    omega
  | @codex subtask reasons w s s' value hsub hacc hs hsubs hidx =>
    have hsame : subtasksLeft s' = subtasksLeft s := by
      rw [subtasksLeft, subtasksLeft, hsubs, subtasksDone_congr hidx]
    simp only [Config.fuel, hsame]
    omega
  | @answered gate | @refused gate =>
    rw [gateAnswered_gate] at hno
    cases hno
  | done => cases hno
  | @loopNext w s note hlt =>
    obtain ⟨rs, hin, hk⟩ := hd.pass
    dsimp only at hk
    have hleft := attemptsLeft_of_pending (hc.pending_eq_none rfl)
    -- the subtask that is entered is one of those left
    have hnext : subtasksLeft s = subtasksLeft
        { s with currentSubtaskIndex := s.currentSubtaskIndex + 1 } + 1 := by
      simp only [subtasksLeft, subtasksDone]
      omega
    change attemptsLeft s + guardRetryLimit + 3 +
        subtasksLeft { s with currentSubtaskIndex := s.currentSubtaskIndex + 1 } *
          (2 * guardRetryLimit + 3) < 1 + subtasksLeft s * (2 * guardRetryLimit + 3)
    rw [hleft, hnext, Nat.add_mul]
    omega
  | loopExit =>
    simp only [Config.fuel]
    omega

/-- What can still be made before the next gate is bounded by the subtasks. -/
theorem Config.fuel_le (c : Config) : c.fuel ≤ 1 + guardRetryLimit +
    maxPlanningConsultations * (2 * guardRetryLimit + 2) +
    c.state.subtasks.length * (2 * guardRetryLimit + 3) := by
  obtain ⟨node, s⟩ := c
  -- what is left of attempts, rounds and subtasks is at most what there is of each
  have hattempts : attemptsLeft s ≤ guardRetryLimit := Nat.sub_le _ _
  have hrounds : roundsLeft s * (2 * guardRetryLimit + 2) ≤
      maxPlanningConsultations * (2 * guardRetryLimit + 2) :=
    Nat.mul_le_mul_right _ (Nat.sub_le _ _)
  have hround : (roundsLeft s - 1) * (2 * guardRetryLimit + 2) + (2 * guardRetryLimit + 2) ≤
      maxPlanningConsultations * (2 * guardRetryLimit + 2) := by
    have hmax : 0 < maxPlanningConsultations := by decide
    have hle : roundsLeft s ≤ maxPlanningConsultations := Nat.sub_le _ _
    rw [← Nat.succ_mul]
    exact Nat.mul_le_mul_right _ (by omega)
  have hsubtasks : subtasksLeft s * (2 * guardRetryLimit + 3) ≤
      s.subtasks.length * (2 * guardRetryLimit + 3) :=
    Nat.mul_le_mul_right _ (Nat.sub_le _ _)
  rcases node with _ | n
  · exact Nat.zero_le _
  · cases n <;> simp only [Config.fuel] <;> omega

/-- **Between two answers there are only so many moves.** -/
theorem length_le_of_gateAnswers {tr₁ tr₂ : List (Lts.Move Config Event)}
    {m : Lts.Move Config Event} (h : (graph env).Run (tr₁ ++ m :: tr₂) c)
    (hno : gateAnswers env (m :: tr₂) = []) :
    (m :: tr₂).length ≤ 1 + guardRetryLimit +
      maxPlanningConsultations * (2 * guardRetryLimit + 2) +
      m.pre.state.subtasks.length * (2 * guardRetryLimit + 3) := by
  have hall : ∀ m' ∈ m :: tr₂, gateAnswered env m' = none := List.filterMap_eq_nil_iff.mp hno
  have hle := Lts.Run.length_le_measure Config.fuel ?_ h hall
  · exact (Nat.le_of_add_right_le hle).trans m.pre.fuel_le
  · intro tr c e c' hrun hs hno
    have hrun' := hrun.snoc hs
    exact (step_of_run hrun hs).fuel_lt (control_of_run hrun) (devInv_of_run hrun)
      (counted_of_advance hs) (round_le hrun').1 (round_le hrun').2 hno

/-- The resumes that `n` subtasks, `k` continued plannings and the limits allow in a
run without rollbacks. -/
def resumeBound (n k : ℕ) : ℕ :=
  8 + 2 * n + 2 * (maxPlanningConsultations * (k + 1)) + 2 * k +
    guardRetryLimit * (4 + 2 * n + 2 * (maxPlanningConsultations * (k + 1)) + k)

theorem node_eq_none_of_done (h : Control c) (hs : c.state.stage = .done) : c.node = none := by
  obtain ⟨_ | n, s⟩ := c
  · rfl
  · have hstage : s.stage = n.stage := h.stage
    rw [show s.stage = .done from hs] at hstage
    cases n <;> cases hstage

/-- **The length of a run.**  A run to `DONE` in which no rollback is answered has
eight resumes, two for each subtask, two for each consultation, two for each
continued planning and one for each result that is sent back; the consultations
and the results sent back are bounded in turn, by the continued plannings and
the results accepted.  And in any run, rolled back or not, only so many moves
are made between two answers at gates. -/
theorem length_of_run (h : (graph env).Run tr c) :
    (c.state.stage = .done → NoRollback env tr →
      tr.countP isResume = 8 + 2 * c.state.subtasks.length + 2 * tr.countP (consults env) +
          2 * tr.countP (continuesPlanning env) + tr.countP (sendsBackAny env) ∧
        tr.length = tr.countP isResume + (2 + c.state.subtasks.length) ∧
        tr.countP (consults env) ≤
          maxPlanningConsultations * (tr.countP (continuesPlanning env) + 1) ∧
        tr.countP (sendsBackAny env) ≤ guardRetryLimit * (4 + 2 * c.state.subtasks.length +
          2 * tr.countP (consults env) + tr.countP (continuesPlanning env)) ∧
        tr.countP isResume ≤
          resumeBound c.state.subtasks.length (tr.countP (continuesPlanning env))) ∧
    ∀ tr₁ m tr₂, tr = tr₁ ++ m :: tr₂ → gateAnswers env (m :: tr₂) = [] →
      (m :: tr₂).length ≤ 1 + guardRetryLimit +
        maxPlanningConsultations * (2 * guardRetryLimit + 2) +
        m.pre.state.subtasks.length * (2 * guardRetryLimit + 3) := by
  refine ⟨fun hs hroll => ?_, fun tr₁ m tr₂ htr hno => ?_⟩
  · have hcontrol := control_of_run h
    have hb : c.state.stage ≠ .blocked := by
      rw [hs]
      simp
    obtain ⟨hres, hacc, hticks⟩ := weighed_of_run h hroll hb
    have hconsults := consults_le h
    have hsent := sentBack_le h hb
    have hnode := node_eq_none_of_done hcontrol hs
    obtain ⟨node, s⟩ := c
    obtain rfl : node = none := hnode
    -- at `END` nothing is pending any more
    rw [pendingAttempt_eq_zero hcontrol.pending_eq_none_of_end, Nat.add_zero, hacc] at hsent
    refine ⟨hres, hticks, hconsults, ?_, ?_⟩
    · exact hsent.trans (Nat.mul_le_mul_left _ (by simp only [Config.accepts]; omega))
    · have hsent' := hsent.trans (Nat.mul_le_mul_left _ (show _ ≤ 4 + 2 * s.subtasks.length +
        2 * (maxPlanningConsultations * (tr.countP (continuesPlanning env) + 1)) +
        tr.countP (continuesPlanning env) by simp only [Config.accepts]; omega))
      rw [hres, resumeBound]
      simp only [Config.resumes]
      omega
  · subst htr
    exact length_le_of_gateAnswers h hno

end Laws

end Length

/-- One subtask and one consultation make twelve resumes. -/
theorem length_of_run_sample : ∃ tr c, (graph sampleEnv).Run tr c ∧
    c.state.stage = .done ∧ c.state.subtasks.length = 1 ∧ tr.countP (consults sampleEnv) = 1 ∧
    tr.countP isResume = 12 := by
  obtain ⟨tr, c, hrun, h⟩ := exists_sampleRun
    (sampleEvents.take 3 ++ [sampleQuestion "q1" [], sampleResult "q2" []] ++ sampleEvents.drop 3)
    (fun r => (r.2.state.stage, r.2.state.subtasks.length,
      (gateAnswers sampleEnv r.1).map Prod.snd, r.1.countP (consults sampleEnv),
      r.1.countP (continuesPlanning sampleEnv),
      r.1.countP (sendsBackAny sampleEnv)))
    (show _ = some (Stage.done, 1, ["approve", "approve", "approve", "approve"], 1, 0, 0) by
      decide +kernel)
  simp only [Prod.mk.injEq] at h
  obtain ⟨hs, hn, hans, hconsults, hcont, hsent⟩ := h
  have hroll : NoRollback sampleEnv tr := by
    intro a ha
    have hmem : a.2 ∈ (gateAnswers sampleEnv tr).map Prod.snd := List.mem_map_of_mem ha
    rw [hans] at hmem
    generalize a.2 = answer at *
    revert answer
    decide
  obtain ⟨hlength, -⟩ := (length_of_run hrun).1 hs hroll
  refine ⟨tr, c, hrun, hs, hn, hconsults, ?_⟩
  rw [hlength, hn, hconsults, hcont, hsent]

end Shrimp
