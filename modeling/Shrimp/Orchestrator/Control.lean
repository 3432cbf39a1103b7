import Shrimp.Orchestrator.Step

/-!
# The control state of the graph

Every run keeps the control state consistent: the stage is that of the node
about to run, a pending guard retry is for that node's own dispatch, and inside
the DEV loop there is a current subtask.

## Main results

* `Step.control` — an outcome keeps the control state consistent.
* `control_of_run`, `step_of_run` — every configuration of a run is consistent,
  and every step from it is one of the outcomes.
* `controlState_of_run` — **what consistency says of the node about to run.**
-/

namespace Shrimp

section Control

variable {env : Env}

theorem control_of_fields {s : WorkflowState} {n : Node} (hs : s.stage = n.stage)
    (hp : s.pendingGuardRetry = none) (hlow : -1 ≤ s.currentSubtaskIndex)
    (hidx : n = .devSubtaskDispatch ∨ n = .devCodexReview →
      0 ≤ s.currentSubtaskIndex ∧ s.currentSubtaskIndex < s.subtasks.length) :
    Control ⟨some n, s⟩ where
  stage := hs
  pending p h := by rw [hp] at h; cases h
  indexLow := hlow
  index h := hidx (by simpa using h)

theorem control_of_end {s : WorkflowState} (hs : s.stage.terminal = true)
    (hp : s.pendingGuardRetry = none) (hlow : -1 ≤ s.currentSubtaskIndex) :
    Control ⟨none, s⟩ where
  stage := hs
  pending p h := by rw [hp] at h; cases h
  indexLow := hlow
  index h := by simp at h

theorem Control.pending_eq_none {n : Node} {s : WorkflowState} (h : Control ⟨some n, s⟩)
    (ht : n.target s = none) : s.pendingGuardRetry = none := by
  cases hp : s.pendingGuardRetry with
  | none => rfl
  | some p =>
    obtain ⟨n', t, hn, ht', -⟩ := h.pending p hp
    cases hn
    rw [ht] at ht'
    cases ht'

theorem Control.pending_eq_none_of_end {s : WorkflowState} (h : Control ⟨none, s⟩) :
    s.pendingGuardRetry = none := by
  cases hp : s.pendingGuardRetry with
  | none => rfl
  | some p =>
    obtain ⟨n', t, hn, -⟩ := h.pending p hp
    cases hn

/-- A dispatch depends on the subtasks and the index alone. -/
theorem target_congr {s s' : WorkflowState} (n : Node) (hsub : s'.subtasks = s.subtasks)
    (hidx : s'.currentSubtaskIndex = s.currentSubtaskIndex) : n.target s' = n.target s := by
  cases n <;> simp [Node.target, currentSubtask, hsub, hidx]

/-- Results and answers lead outside the DEV loop, or to its router. -/
theorem notDev_of_onward {n n' : Node} (h : (n, n') ∈ onward) :
    ¬(n' = .devSubtaskDispatch ∨ n' = .devCodexReview) := by
  simp only [onward, List.mem_cons, Prod.mk.injEq, List.not_mem_nil, or_false] at h
  rcases h with ⟨-, rfl⟩ | ⟨-, rfl⟩ | ⟨-, rfl⟩ | ⟨-, rfl⟩ | ⟨-, rfl⟩ <;> simp

theorem notDev_of_leads {gate : Gate} {answer : String} {n' : Node}
    (h : (answer, n') ∈ gate.leads) : ¬(n' = .devSubtaskDispatch ∨ n' = .devCodexReview) := by
  rintro (rfl | rfl) <;> cases gate <;> simp [Gate.leads] at h

/-- **An outcome keeps the control state consistent.** -/
theorem Step.control {c c' : Config} {e : Event} (h : Step env c e c') (hc : Control c) :
    Control c' := by
  cases h with
  | init =>
    exact control_of_fields rfl (hc.pending_eq_none rfl) hc.indexLow (by simp)
  | guardBlocked ht hr hlim =>
    exact control_of_end rfl rfl hc.indexLow
  | @guardRetry n t w s value findings ht hr hlim =>
    refine ⟨hc.stage, ?_, hc.indexLow, hc.index⟩
    -- the pending retry is the one just scheduled, on the budget just counted
    intro p hp
    cases hp
    refine ⟨n, t, rfl, ?_, rfl, rfl, Dict.get?_insert_self _ _ _⟩
    rw [← ht]
    exact target_congr n rfl rfl
  | accepted hon ht hacc hs hsame =>
    exact control_of_fields hs hacc.pending (by rw [hsame.currentSubtaskIndex]; exact hc.indexLow)
      fun hdev => absurd hdev (notDev_of_onward hon)
  | planBlocked ht hacc hs hsame =>
    exact control_of_end (by rw [hs]; rfl) hacc.pending
      (by rw [hsame.currentSubtaskIndex]; exact hc.indexLow)
  | planned ht hacc hs hsub hidx hres =>
    exact control_of_fields hs hacc.pending (by omega) (by simp)
  | dev hsub hacc hs hsubs hidx hres =>
    refine control_of_fields (hs.trans hc.stage) hacc.pending (by rw [hidx]; exact hc.indexLow)
      fun _ => ?_
    rw [hidx, hsubs]
    exact hc.index (Or.inl rfl)
  | codex hsub hacc hs hsubs hidx hr hres =>
    exact control_of_fields (hs.trans hc.stage) hacc.pending
      (by rw [hidx]; exact hc.indexLow) (by simp)
  | @answered gate n' w s s' value hl hd hs hsubs hrc hdev =>
    -- a gate clears nothing, but at a gate no retry was pending
    have hp : s'.pendingGuardRetry = none := by
      rw [hd.pending]
      exact hc.pending_eq_none (by cases gate <;> rfl)
    refine control_of_fields hs hp ?_ fun hdev => absurd hdev (notDev_of_leads hl)
    split at hdev
    · omega
    · rw [hdev.1]
      exact hc.indexLow
  | done ha hd hs hsame =>
    refine control_of_end (by rw [hs]; rfl) ?_
      (by rw [hsame.currentSubtaskIndex]; exact hc.indexLow)
    rw [hd.pending]
    exact hc.pending_eq_none rfl
  | @refused gate w s s' value hd hs hsame =>
    refine control_of_end (by rw [hs]; rfl) ?_
      (by rw [hsame.currentSubtaskIndex]; exact hc.indexLow)
    rw [hd.pending]
    exact hc.pending_eq_none (by cases gate <;> rfl)
  | loopNext hlt =>
    have hlow := hc.indexLow
    refine control_of_fields hc.stage (hc.pending_eq_none rfl) ?_ fun _ => ⟨?_, hlt⟩ <;>
      dsimp only at hlow ⊢ <;> omega
  | loopExit hge =>
    exact control_of_fields rfl (hc.pending_eq_none rfl) (by simp) (by simp)

theorem control_of_started {c : Config} (h : Started c) : Control c := by
  obtain ⟨workflowId, base, msgs, policies, rfl⟩ := h
  exact control_of_fields rfl rfl (by simp [WorkflowState.fresh]) (by simp)

/-- **Every configuration of a run is consistent.** -/
theorem control_of_run {tr : List (Lts.Move Config Event)} {c : Config}
    (h : (graph env).Run tr c) : Control c :=
  h.invariant (I := fun _ c => Control c) (fun _ hc => control_of_started hc)
    fun _ _ _ _ _ hc hstep => (step_of_advance hc hstep).control hc

/-- **Every step of a run is one of the outcomes.** -/
theorem step_of_run {tr : List (Lts.Move Config Event)} {c c' : Config} {e : Event}
    (h : (graph env).Run tr c) (hstep : advance env c e = some c') : Step env c e c' :=
  step_of_advance (control_of_run h) hstep

/-! ### The node about to run -/

/-- A move that accepts the developer's result for a subtask. -/
def AcceptsDev (m : Lts.Move Config Event) (subtask : SubtaskSpec) (value : Json) : Prop :=
  m.pre.node = some .devSubtaskDispatch ∧ m.post.node = some .devCodexReview ∧
    currentSubtask m.pre.state = some subtask ∧ ∃ w, m.label = .resume w value

/-- The result stored for the current subtask is what the developer last handed
in, and only retries of the review came after. -/
def HoldsDevResult (env : Env) (tr : List (Lts.Move Config Event)) (s : WorkflowState) : Prop :=
  ∃ subtask value tr₁ m tr₂, currentSubtask s = some subtask ∧ tr = tr₁ ++ m :: tr₂ ∧
    AcceptsDev m subtask value ∧
    (∀ m' ∈ tr₂, m'.pre.node = some .devCodexReview ∧ m'.post.node = some .devCodexReview) ∧
    s.subtaskResults.get? subtask.taskId = some (devPartial env (resultDict env value))

/-- At the review of a subtask the developer's result is there. -/
theorem holdsDevResult_of_run {tr : List (Lts.Move Config Event)} {c : Config}
    (h : (graph env).Run tr c) :
    c.node = some .devCodexReview → HoldsDevResult env tr c.state := by
  refine h.invariant (I := fun tr c => c.node = some .devCodexReview →
    HoldsDevResult env tr c.state) ?_ ?_
  · rintro c ⟨_, _, _, _, rfl⟩ hn
    cases hn
  · intro tr c e c' hrun ih hstep hn
    have hout := step_of_run hrun hstep
    cases hout with
    | @guardRetry n t w s value findings ht hr hlim =>
      -- A retry of the review keeps the result; it is one more move after it.
      cases hn
      obtain ⟨subtask, v, tr₁, m, tr₂, hsub, rfl, hm, htr₂, hget⟩ := ih rfl
      refine ⟨subtask, v, tr₁, m, tr₂ ++ [_], hsub, by rw [List.append_assoc]; rfl, hm, ?_, hget⟩
      intro m' hm'
      rcases List.mem_append.mp hm' with hm' | hm'
      · exact htr₂ m' hm'
      · rw [List.mem_singleton.mp hm']
        exact ⟨rfl, rfl⟩
    | accepted hon => exact absurd (Or.inr (Option.some.inj hn)) (notDev_of_onward hon)
    | answered hl => exact absurd (Or.inr (Option.some.inj hn)) (notDev_of_leads hl)
    | @dev subtask w s s' value hsub hacc hs hsubs hidx hres =>
      refine ⟨subtask, value, tr, _, [], ?_, rfl, ⟨rfl, rfl, hsub, w, rfl⟩, by simp, ?_⟩
      · rw [currentSubtask, hsubs, hidx]
        exact hsub
      · rw [hres, Dict.get?_insert_self]
    | init | planned | codex | loopNext | loopExit => cases hn
    | guardBlocked | planBlocked | done | refused => cases hn

/-- A workflow is at `END` exactly when it is done or blocked. -/
theorem Control.node_eq_none_iff {c : Config} (hc : Control c) :
    c.node = none ↔ c.state.stage = .done ∨ c.state.stage = .blocked := by
  obtain ⟨node, s⟩ := c
  have hstage := hc.stage
  cases node with
  | none => cases hs : s.stage <;> simp_all [StageFits, Stage.terminal]
  | some n => cases n <;> simp_all [StageFits, Node.stage]

/-- **The control state of every run is consistent**: the stage is that of the
node about to run; a pending retry is for that node's own dispatch and counts
the attempt of its budget, and none is pending at a gate, at the router of the
DEV loop or at the end; the DEV nodes have a current subtask; and the review of
a subtask finds the developer's result. -/
theorem controlState_of_run {tr : List (Lts.Move Config Event)} {c : Config}
    (h : (graph env).Run tr c) :
    (∀ n, c.node = some n → c.state.stage = n.stage) ∧
      (c.node = none ↔ c.state.stage = .done ∨ c.state.stage = .blocked) ∧
      (∀ p, c.state.pendingGuardRetry = some p →
        ∃ n t, c.node = some n ∧ n.target c.state = some t ∧
          p.stage = t.stage ∧ p.subagent = t.subagent ∧
          c.state.guardRetries.get? (guardRetryKey t.stage t.subagent c.state.retryCount) =
            some p.attempt) ∧
      ((∃ n, c.node = some n ∧ (n.gate?.isSome ∨ n = .devLoopRouter)) ∨
          c.state.stage = .done ∨ c.state.stage = .blocked →
        c.state.pendingGuardRetry = none) ∧
      (c.node = some .devSubtaskDispatch ∨ c.node = some .devCodexReview →
        0 ≤ c.state.currentSubtaskIndex ∧
          c.state.currentSubtaskIndex < c.state.subtasks.length ∧
          currentSubtask c.state ≠ none) ∧
      (c.node = some .devCodexReview → HoldsDevResult env tr c.state) := by
  have hc := control_of_run h
  have hend := hc.node_eq_none_iff
  obtain ⟨node, s⟩ := c
  refine ⟨?_, hend, hc.pending, ?_, ?_, holdsDevResult_of_run h⟩
  · rintro n rfl
    exact hc.stage
  · rintro (⟨n, rfl, hn⟩ | hterm)
    · refine hc.pending_eq_none ?_
      cases n <;> simp_all [Node.gate?, Node.target]
    · obtain rfl := hend.mpr hterm
      exact hc.pending_eq_none_of_end
  · intro hdev
    obtain ⟨hlow, hhigh⟩ := hc.index hdev
    obtain ⟨subtask, hsub⟩ := exists_currentSubtask hlow hhigh
    exact ⟨hlow, hhigh, by simp [hsub]⟩

end Control

/-! ### A workflow run through -/

/-- Surroundings in which results carry their own hashes and no artifact is on
disk. -/
def sampleEnv : Env where
  hexdigest _ := "e3b0c44298fc"
  isPrintable _ := true
  phaseSummary d := some {
    decisions := []
    openIssues := []
    risks := []
    handoffNote := match d.get? "handoff_note" with
      | some (.str s) => s
      | _ => "" }
  reasons xs := xs.mapM fun x => match x with
    | .str s => some s
    | _ => none
  decodeError _ := "invalid start byte"

/-- An empty disk. -/
def sampleWorld : World where
  now := "2026-01-01T00:00:00Z"
  pathExists _ := .ok false
  statSize _ := .error (.osError "No such file or directory")
  readBytes _ := .error (.osError "No such file or directory")

/-- A workflow that has not moved. -/
def sampleStart : Config := ⟨some .init, WorkflowState.fresh "wf" "" [] ∅⟩

/-- A stage result that is done. -/
def sampleResult (sha : String) (members : List (String × Json)) : Event :=
  .resume sampleWorld
    (.obj ([("status", .str "done"), ("_decision_file_sha256", .str sha)] ++ members))

/-- A gate decision. -/
def sampleAnswer (sha answer : String) : Event :=
  .resume sampleWorld (.obj [("answer", .str answer), ("_decision_file_sha256", .str sha)])

/-- The runner's part of a workflow with one subtask that is approved at every
gate. -/
def sampleEvents : List Event := [
  .tick sampleWorld, sampleResult "h1" [], sampleAnswer "h2" "approve",
  sampleResult "h3" [("subtask_plan", .arr [.obj [("task_id", .str "t1")]])],
  sampleAnswer "h4" "approve", .tick sampleWorld, sampleResult "h5" [],
  sampleResult "h6" [("gate_result", .obj [("passed", .bool true)])], .tick sampleWorld,
  sampleAnswer "h7" "approve", sampleResult "h8" [], sampleResult "h9" [],
  sampleAnswer "h10" "approve"]

theorem exists_sampleRun {α : Type} (es : List Event)
    (f : List (Lts.Move Config Event) × Config → α) {a : α}
    (h : (Lts.exec (advance sampleEnv) sampleStart es).map f = some a) :
    ∃ tr c, (graph sampleEnv).Run tr c ∧ f (tr, c) = a :=
  Lts.Run.exists_of_exec ⟨_, _, _, _, rfl⟩ f h

theorem controlState_of_run_sample : ∃ tr c, (graph sampleEnv).Run tr c ∧
    c.node = some .devCodexReview ∧ HoldsDevResult sampleEnv tr c.state := by
  obtain ⟨tr, c, hrun, hn⟩ := exists_sampleRun (sampleEvents.take 7) (fun r => r.2.node)
    (show _ = some (some Node.devCodexReview) by decide +kernel)
  exact ⟨tr, c, hrun, hn, (controlState_of_run hrun).2.2.2.2.2 hn⟩

end Shrimp
