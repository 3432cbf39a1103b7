import Shrimp.Orchestrator.Control

/-!
# What a run has seen

The history of a run as what is proved of it needs it: the answers given at the
gates, and the results handed in to a dispatch with what the guard said of them.

## Main definitions

* `gateAnswers` — the answers of a run.
* `handedIn` — the result a move hands in, and whether the guard lets it through.
* `acceptedResult`, `isRejected` — the two verdicts.

## Main results

* `handedIn_of_accepted`, `handedIn_of_rejects` — the verdict on an outcome.
-/

namespace Shrimp

section History

variable (env : Env)

/-- The answer a move gives at a gate. -/
def gateAnswered (m : Lts.Move Config Event) : Option (Gate × String) :=
  match m.pre.node.bind Node.gate?, m.label with
  | some gate, .resume _ value => some (gate, gateAnswer env value)
  | _, _ => none

/-- The answers of a run, oldest first. -/
def gateAnswers (tr : List (Lts.Move Config Event)) : List (Gate × String) :=
  tr.filterMap (gateAnswered env)

variable {env}

theorem gateAnswers_snoc (tr : List (Lts.Move Config Event)) (m : Lts.Move Config Event) :
    gateAnswers env (tr ++ [m]) = gateAnswers env tr ++ (gateAnswered env m).toList := by
  rw [gateAnswers, List.filterMap_append]
  cases h : gateAnswered env m <;> simp [h, gateAnswers]

theorem gateAnswered_eq_none {n : Node} {t : Target} {s : WorkflowState} {e : Event}
    {c' : Config} (ht : n.target s = some t) : gateAnswered env ⟨⟨some n, s⟩, e, c'⟩ = none := by
  have hg : n.gate? = none := by cases n <;> first | rfl | cases ht
  simp [gateAnswered, hg]

theorem gateAnswered_gate {gate : Gate} {w : World} {s : WorkflowState} {value : Json}
    {c' : Config} : gateAnswered env ⟨⟨some gate.node, s⟩, .resume w value, c'⟩ =
      some (gate, gateAnswer env value) := by
  cases gate <;> rfl

variable (env) in
/-- The result a move hands in to a dispatch, and whether the guard lets it
through. -/
def handedIn (m : Lts.Move Config Event) : Option (Target × Json × Bool) :=
  match m.pre.node, m.label with
  | some n, .resume w value =>
    match n.target m.pre.state with
    | none => none
    | some t =>
      match guardFindings env w m.pre.state value t.stage t.expectedArtifacts t.subagent with
      | .ok (findings, _) => some (t, value, !hasSevere findings)
      | .error _ => none
  | _, _ => none

variable (env) in
/-- The result a move hands in, when the guard lets it through. -/
def acceptedResult (m : Lts.Move Config Event) : Option (Target × Json) :=
  match handedIn env m with
  | some (t, value, true) => some (t, value)
  | _ => none

variable (env) in
/-- Does the guard reject the result a move hands in? -/
def isRejected (m : Lts.Move Config Event) : Bool :=
  match handedIn env m with
  | some (_, _, passes) => !passes
  | none => false

variable {n : Node} {t : Target} {w : World} {s s' : WorkflowState} {value : Json} {c' : Config}

theorem handedIn_of_accepted (ht : n.target s = some t) (h : Accepted env w t s value s') :
    handedIn env ⟨⟨some n, s⟩, .resume w value, c'⟩ = some (t, value, true) := by
  obtain ⟨findings, artifacts, hg, hsev⟩ := h.passes
  simp [handedIn, ht, hg, hsev]

theorem handedIn_of_rejects {findings : List GuardWarning} (ht : n.target s = some t)
    (h : Rejects env w t s value findings) :
    handedIn env ⟨⟨some n, s⟩, .resume w value, c'⟩ = some (t, value, false) := by
  obtain ⟨⟨artifacts, hg⟩, hsev⟩ := h
  simp [handedIn, ht, hg, hsev]

theorem handedIn_of_target (ht : n.target s = none) {e : Event} :
    handedIn env ⟨⟨some n, s⟩, e, c'⟩ = none := by
  cases e <;> simp [handedIn, ht]

end History

end Shrimp
