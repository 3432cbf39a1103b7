import Shrimp.Lib.Ladder
import Shrimp.Orchestrator.History

/-!
# No gate can be bypassed

The gates are a ladder: each approval climbs one rung, a rollback or a return to
the planning takes the approvals after its phase back.  Every node stands on the
rung of the approvals it needs, so a workflow that is done has climbed them all.

## Main definitions

* `approvals` — the ladder of the four gates.
* `Node.rung` — the approvals a node stands on.

## Main results

* `held_of_run` — a run holds the approvals of the node it is at.
* `approved_of_done` — **a workflow that is done was approved at every gate, and
  no approval was taken back; at the end nothing runs any more.**
-/

namespace Shrimp

/-- The gates in their order. -/
def gateOrder : List Gate := [.gate1, .gate15, .gate2, .gate3]

/-- The answers that take back the approval a rung was reached by. -/
def revoking : ℕ → List String
  | 0 => []
  | 1 => ["rollback_to_pm"]
  | 2 => ["rollback_to_pm", "rollback_to_planning", "continue_planning"]
  | _ => ["rollback_to_pm", "rollback_to_planning", "continue_planning", "rollback_to_dev"]

/-- **The ladder of approvals.** -/
def approvals : Ladder (Gate × String) where
  climb k a := gateOrder[k]? = some a.1 ∧ a.2 = "approve"
  keep k a := a.2 ∉ revoking k
  keep_of_keep_succ k a h := by
    rcases k with _ | _ | _ | k
    · simp [revoking]
    · simp_all [revoking]
    · simp_all [revoking]
    · exact h
  keep_of_climb k a h := by
    rw [h.2]
    rcases k with _ | _ | _ | k <;> simp [revoking]

/-- The approvals a node stands on. -/
def Node.rung : Node → ℕ
  | init | pmPhase | gate1 => 0
  | planningPhase | planningDevConsult | gate15 => 1
  | devLoopRouter | devSubtaskDispatch | devCodexReview | gate2 => 2
  | revDispatch | revCodexFinal | gate3 => 3

section Approval

variable {env : Env}

/-- The approvals a configuration stands on. -/
def Stands (env : Env) (tr : List (Lts.Move Config Event)) (c : Config) : Prop :=
  match c.node with
  | some n => approvals.Held n.rung (gateAnswers env tr)
  | none => c.state.stage = .done →
    ∃ pre, gateAnswers env tr = pre ++ [(.gate3, "approve")] ∧ approvals.Held 3 pre

theorem rung_of_onward {n n' : Node} (h : (n, n') ∈ onward) : n'.rung = n.rung := by
  simp only [onward, List.mem_cons, Prod.mk.injEq, List.not_mem_nil, or_false] at h
  rcases h with ⟨rfl, rfl⟩ | ⟨rfl, rfl⟩ | ⟨rfl, rfl⟩ | ⟨rfl, rfl⟩ | ⟨rfl, rfl⟩ <;> rfl

/-- **An answer climbs to the rung it leads to, or leaves that rung reached.** -/
theorem held_of_leads {gate : Gate} {answer : String} {n' : Node} {h : List (Gate × String)}
    (hl : (answer, n') ∈ gate.leads) (hh : approvals.Held gate.node.rung h) :
    approvals.Held n'.rung (h ++ [(gate, answer)]) := by
  have hkeep : ∀ k, k ≤ gate.node.rung → answer ∉ revoking k →
      approvals.Held k (h ++ [(gate, answer)]) := fun k hk hrev => (hh.mono hk).keep hrev
  cases gate <;>
    simp only [Gate.leads, List.mem_cons, Prod.mk.injEq, List.not_mem_nil, or_false] at hl
  -- an approval climbs; any other answer leads to a rung it does not revoke
  · rcases hl with ⟨rfl, rfl⟩ | ⟨rfl, rfl⟩
    · exact hh.climb ⟨rfl, rfl⟩
    · exact hkeep 0 (Nat.zero_le _) (by simp [revoking])
  · rcases hl with ⟨rfl, rfl⟩ | ⟨rfl, rfl⟩ | ⟨rfl, rfl⟩
    · exact hh.climb ⟨rfl, rfl⟩
    · exact hkeep 0 (Nat.zero_le _) (by simp [revoking])
    · exact hkeep 1 (Nat.le_refl _) (by simp [revoking])
  · rcases hl with ⟨rfl, rfl⟩ | ⟨rfl, rfl⟩ | ⟨rfl, rfl⟩
    · exact hh.climb ⟨rfl, rfl⟩
    · exact hkeep 1 (by decide) (by simp [revoking])
    · exact hkeep 0 (Nat.zero_le _) (by simp [revoking])
  · rcases hl with ⟨rfl, rfl⟩ | ⟨rfl, rfl⟩ | ⟨rfl, rfl⟩
    · exact hkeep 2 (by decide) (by simp [revoking])
    · exact hkeep 1 (by decide) (by simp [revoking])
    · exact hkeep 0 (Nat.zero_le _) (by simp [revoking])

/-- One step keeps the approvals a configuration stands on. -/
theorem Step.stands {tr : List (Lts.Move Config Event)} {c c' : Config} {e : Event}
    (h : Step env c e c') (hc : Stands env tr c) : Stands env (tr ++ [⟨c, e, c'⟩]) c' := by
  -- Away from the gates nothing is answered.
  have hsame : ∀ {n n' : Node}, c.node = some n → c'.node = some n' → n'.rung = n.rung →
      gateAnswered env ⟨c, e, c'⟩ = none → Stands env (tr ++ [⟨c, e, c'⟩]) c' := by
    intro n n' hn hn' hrung hans
    simp only [Stands, hn] at hc
    simp only [Stands, hn', gateAnswers_snoc, hans, hrung, Option.toList_none, List.append_nil]
    exact hc
  cases h with
  | init => exact hsame rfl rfl rfl rfl
  | guardBlocked ht => intro hdone; cases hdone
  | guardRetry ht => exact hsame rfl rfl rfl (gateAnswered_eq_none ht)
  | accepted hon ht => exact hsame rfl rfl (rung_of_onward hon) (gateAnswered_eq_none ht)
  | planBlocked ht hacc hs => intro hdone; rw [hs] at hdone; cases hdone
  | planned ht => exact hsame rfl rfl rfl (gateAnswered_eq_none ht)
  | dev hsub => exact hsame rfl rfl rfl rfl
  | codex hsub => exact hsame rfl rfl rfl rfl
  | answered hl =>
    change approvals.Held _ _
    rw [gateAnswers_snoc, gateAnswered_gate]
    exact held_of_leads hl hc
  | done ha =>
    -- the last approval is added to a history that stands on the third rung
    intro _
    refine ⟨gateAnswers env tr, ?_, hc⟩
    rw [gateAnswers_snoc, ← ha]
    rfl
  | refused hd hs => intro hdone; rw [hs] at hdone; cases hdone
  | loopNext => exact hsame rfl rfl rfl rfl
  | loopExit => exact hsame rfl rfl rfl rfl

/-- **A run holds the approvals of the node it is at.** -/
theorem held_of_run {tr : List (Lts.Move Config Event)} {c : Config}
    (h : (graph env).Run tr c) : Stands env tr c := by
  refine h.invariant (I := Stands env) ?_ fun tr c e c' hrun hI hstep =>
    (step_of_run hrun hstep).stands hI
  rintro c ⟨_, _, _, _, rfl⟩
  exact trivial

/-- What the three rungs below the last gate say, spelled out. -/
theorem held_three {h : List (Gate × String)} (hh : approvals.Held 3 h) :
    ∃ before planning dev rev, h = before ++ (.gate1, "approve") :: planning ++
        (.gate15, "approve") :: dev ++ (.gate2, "approve") :: rev ∧
      (∀ a ∈ planning, a.2 ∉ revoking 1) ∧ (∀ a ∈ dev, a.2 ∉ revoking 2) ∧
      (∀ a ∈ rev, a.2 ∉ revoking 3) := by
  obtain ⟨h₂, ⟨g₂, a₂⟩, rev, rfl, ⟨hg₂, ha₂⟩, hrev, h₁, ⟨g₁, a₁⟩, dev, rfl, ⟨hg₁, ha₁⟩, hdev,
    before, ⟨g₀, a₀⟩, planning, rfl, ⟨hg₀, ha₀⟩, hplanning, -⟩ := hh
  cases hg₂
  cases hg₁
  cases hg₀
  cases ha₂
  cases ha₁
  cases ha₀
  exact ⟨before, planning, dev, rev, by simp, hplanning, hdev, hrev⟩

/-- **A workflow that is done was approved at every gate.**  The approvals stand
in the order of the gates; after that of Gate 1 nothing rolled back to PM, after
that of Gate 1.5 nothing went back to PM or to the planning, after that of
Gate 2 nothing rolled back at all, and that of Gate 3 is the last answer.  Once
a workflow is done or blocked, no node runs. -/
theorem approved_of_done {tr : List (Lts.Move Config Event)} {c : Config}
    (h : (graph env).Run tr c) :
    (c.state.stage = .done → ∃ before planning dev rev,
      gateAnswers env tr = before ++ (.gate1, "approve") :: planning ++
        (.gate15, "approve") :: dev ++ (.gate2, "approve") :: rev ++ [(.gate3, "approve")] ∧
      (∀ a ∈ planning ++ dev ++ rev, a.2 ≠ "rollback_to_pm") ∧
      (∀ a ∈ dev ++ rev, a.2 ≠ "rollback_to_planning" ∧ a.2 ≠ "continue_planning") ∧
      (∀ a ∈ rev, a.2 ∉ rollbacks)) ∧
    (c.state.stage = .done ∨ c.state.stage = .blocked → ∀ e, advance env c e = none) := by
  have hterm : c.state.stage = .done ∨ c.state.stage = .blocked → c.node = none :=
    (control_of_run h).node_eq_none_iff.mpr
  constructor
  · intro hdone
    have hstands := held_of_run h
    rw [Stands, hterm (Or.inl hdone)] at hstands
    obtain ⟨pre, hpre, hheld⟩ := hstands hdone
    obtain ⟨before, planning, dev, rev, rfl, hplanning, hdev, hrev⟩ := held_three hheld
    simp only [revoking, List.mem_cons, List.not_mem_nil, or_false, not_or] at hplanning hdev hrev
    refine ⟨before, planning, dev, rev, hpre, ?_, ?_, ?_⟩
    · intro a ha
      rcases List.mem_append.mp ha with ha | ha
      · rcases List.mem_append.mp ha with ha | ha
        · exact hplanning a ha
        · exact (hdev a ha).1
      · exact (hrev a ha).1
    · intro a ha
      rcases List.mem_append.mp ha with ha | ha
      · exact (hdev a ha).2
      · exact ⟨(hrev a ha).2.1, (hrev a ha).2.2.1⟩
    · intro a ha
      have := hrev a ha
      simp [rollbacks, this]
  · intro hover e
    rw [advance, hterm hover]

end Approval

/-- The sample workflow is done after an approval at each gate. -/
theorem approved_of_done_sample : ∃ tr c, (graph sampleEnv).Run tr c ∧ c.state.stage = .done ∧
    (.gate3, "approve") ∈ gateAnswers sampleEnv tr ∧ ∀ e, advance sampleEnv c e = none := by
  obtain ⟨tr, c, hrun, hs⟩ := exists_sampleRun sampleEvents (fun r => r.2.state.stage)
    (show _ = some Stage.done by decide +kernel)
  obtain ⟨hdone, hover⟩ := approved_of_done hrun
  obtain ⟨before, planning, dev, rev, hans, -⟩ := hdone hs
  exact ⟨tr, c, hrun, hs, by rw [hans]; simp, hover (Or.inl hs)⟩

end Shrimp
