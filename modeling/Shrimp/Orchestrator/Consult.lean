import Shrimp.Orchestrator.DevPass
import Shrimp.Orchestrator.Returns

/-!
# Consultations

The consultation is given the planner's question as "the last decision", so
nothing may append a decision between the planner's result and the
consultation.  Nothing does: the node is reached from the planner or from a
retry of itself, and a retry appends no decision.

## Main definitions

* `Asks` — a planner result that asks the developer.
* `PointsAt` — the last decision is that of the planner's latest accepted result.
* `questionRefShown` — the reference the consultation is given.

## Main results

* `entersConsult` — how the consultation is reached.
* `pointsAt_of_run` — **at the consultation the last decision is the planner's.**
* `consultation_of_run` — what the developer is given and what is recorded.
-/

namespace Shrimp

section Consult

variable (env : Env)

/-- Did the planner attach a question that is not blank? -/
def AttachesQuestion (value : Json) : Prop :=
  ∃ d c, value.asDict = some d ∧ (d.get? "dev_consultation").bind Json.asDict = some c ∧
    strip (env.getStr c "question" "") ≠ ""

/-- The audit record of a planner result. -/
def plannerRecord (w : World) (value : Json) : Decision :=
  resultRecord env w value "PLANNING_PHASE subagent_dispatch result" "d_planning_dispatch"

/-- The planner asks the developer, within the limit of consultations. -/
structure Asks (w : World) (s : WorkflowState) (value : Json) (s' : WorkflowState) : Prop where
  answer : resultAnswer env (resultDict env value) = "needs_input"
  question : AttachesQuestion env value
  round : s.planningConsultationRound < maxPlanningConsultations
  same : s'.planningConsultationRound = s.planningConsultationRound
  decisions : s'.decisions = s.decisions ++ [plannerRecord env w value]

variable {env}

theorem attachesQuestion_of_hasConsultation {value : Json}
    (h : (value.asDict.map (hasConsultation env)).getD false = true) :
    AttachesQuestion env value := by
  cases hd : value.asDict with
  | none =>
    rw [hd] at h
    cases h
  | some d =>
    rw [hd] at h
    change hasConsultation env d = true at h
    unfold hasConsultation at h
    split at h
    · next c hc => exact ⟨d, c, hd, hc, by simpa using h⟩
    · cases h

theorem not_rejects_of_accepted {w : World} {t : Target} {s s' : WorkflowState} {value : Json}
    {findings : List GuardWarning} (h : Accepted env w t s value s') :
    ¬Rejects env w t s value findings := by
  rintro ⟨⟨artifacts, hg⟩, hsev⟩
  obtain ⟨findings', artifacts', hg', hpass⟩ := h.passes
  rw [hg] at hg'
  cases hg'
  rw [hsev] at hpass
  cases hpass

theorem gate_node_ne {gate : Gate} {n : Node} (hn : n.gate? = none) : gate.node ≠ n := by
  rintro rfl
  cases gate <;> cases hn

/-- What the planner's node returns when it goes on planning: the planner asks,
or the guard has spoken. -/
theorem Returns.asks {n : Node} {w : World} {s s' : WorkflowState} {value : Json}
    (h : Returns env w s value n s') (hn : n = .planningPhase) (hs : s'.stage = .planningPhase) :
    (∃ t findings, n.target s = some t ∧ Rejects env w t s value findings) ∨
      Asks env w s value s' := by
  -- only a planner that asks, or the guard, leaves the planner's node for itself
  cases h with
  | guard ht hr => exact Or.inl ⟨_, _, ht, hr⟩
  | planAsks _ _ _ hans hquestion hround =>
    exact Or.inr ⟨hans, attachesQuestion_of_hasConsultation hquestion, hround, rfl, rfl⟩
  | planBlocked | planned => cases hs
  | noCurrent hwhich =>
    obtain ⟨rfl, -⟩ | ⟨rfl, -⟩ := hwhich <;> cases hn
  | answered | refused | rolledBack => exact absurd hn (gate_node_ne rfl)
  | init | pm | consult | dev | codex | rev | codexFinal | rolledBackToDev | continued |
      loopNext | loopExit => cases hn

/-- **How the consultation is reached**: the planner asks, or the consultation is
retried. -/
theorem entersConsult {c c' : Config} {e : Event} (hc : Control c)
    (h : advance env c e = some c') (hn : c'.node = some .planningDevConsult) :
    (∃ w value findings t, c.node = some .planningDevConsult ∧ e = .resume w value ∧
        Node.planningDevConsult.target c.state = some t ∧ Rejects env w t c.state value findings ∧
        c'.state = guardRetry w c.state findings t.stage t.subagent) ∨
      ∃ w value t, c.node = some .planningPhase ∧ e = .resume w value ∧
        Node.planningPhase.target c.state = some t ∧ Accepted env w t c.state value c'.state ∧
        Asks env w c.state value c'.state := by
  have hout := step_of_advance hc h
  cases hout with
  | guardRetry ht hr hlim =>
    cases hn
    exact Or.inl ⟨_, _, _, _, rfl, rfl, ht, hr, rfl⟩
  | @accepted n n' t w s s' value hon ht hacc hs hsame =>
    cases hn
    -- of the accepted results only the planner's leads to the consultation
    obtain rfl : n = .planningPhase := by
      simp only [onward, List.mem_cons, Prod.mk.injEq, List.not_mem_nil, or_false] at hon
      rcases hon with ⟨-, h⟩ | ⟨h, -⟩ | ⟨-, h⟩ | ⟨-, h⟩ | ⟨-, h⟩
      · cases h
      · exact h
      · cases h
      · cases h
      · cases h
    obtain ⟨n, hn, hret, -⟩ := returns_of_advance h
    cases hn
    rcases hret.asks rfl hs with ⟨t', findings, ht', hr⟩ | hasks
    · rw [ht] at ht'
      cases ht'
      exact absurd hr (not_rejects_of_accepted hacc)
    · exact Or.inr ⟨w, value, t, rfl, rfl, ht, hacc, hasks⟩
  | @answered gate n' w s s' value hl =>
    cases hn
    cases gate <;> simp [Gate.leads] at hl
  | init | planned | dev | codex | loopNext | loopExit => cases hn
  | guardBlocked | planBlocked | done | refused => cases hn

/-! ### The question the consultation is given -/

variable (env) in
/-- The planner's latest accepted result. -/
def LatestPlan (tr : List (Lts.Move Config Event)) (w : World) (value : Json) : Prop :=
  ∃ tr₁ m tr₂ t, tr = tr₁ ++ m :: tr₂ ∧ m.pre.node = some .planningPhase ∧
    m.label = .resume w value ∧ acceptedResult env m = some (t, value) ∧
    ∀ m' ∈ tr₂, m'.pre.node = some .planningPhase → acceptedResult env m' = none

/-- A move of another node leaves it the latest. -/
theorem LatestPlan.snoc {tr : List (Lts.Move Config Event)} {m : Lts.Move Config Event}
    {w : World} {value : Json} (h : LatestPlan env tr w value)
    (hm : m.pre.node ≠ some .planningPhase) : LatestPlan env (tr ++ [m]) w value := by
  obtain ⟨tr₁, m₀, tr₂, t, rfl, hnode, hlabel, hacc, hlast⟩ := h
  refine ⟨tr₁, m₀, tr₂ ++ [m], t, by simp, hnode, hlabel, hacc, ?_⟩
  intro m' hm' hn'
  rcases List.mem_append.mp hm' with hm' | hm'
  · exact hlast m' hm' hn'
  · rw [List.mem_singleton.mp hm'] at hn'
    exact absurd hn' hm

variable (env) in
/-- The last decision is that of the planner's latest accepted result, which
asks the developer. -/
def PointsAt (tr : List (Lts.Move Config Event)) (s : WorkflowState) (record : Decision) : Prop :=
  ∃ w value, LatestPlan env tr w value ∧ AttachesQuestion env value ∧
    record = plannerRecord env w value ∧ record.answer = "needs_input" ∧
    s.decisions.getLast? = some record

/-- **At the consultation the last decision is the planner's.** -/
theorem pointsAt_of_run {tr : List (Lts.Move Config Event)} {c : Config}
    (h : (graph env).Run tr c) :
    c.node = some .planningDevConsult → ∃ record, PointsAt env tr c.state record := by
  refine h.invariant (I := fun tr c => c.node = some .planningDevConsult →
    ∃ record, PointsAt env tr c.state record) ?_ ?_
  · rintro c ⟨_, _, _, _, rfl⟩ hn
    cases hn
  · intro tr c e c' hrun ih hstep hn
    rcases entersConsult (control_of_run hrun) hstep hn with
      ⟨w, value, findings, t, hnode, -, -, -, hs'⟩ | ⟨w, value, t, hnode, rfl, ht, hacc, hasks⟩
    · -- a retry appends no decision
      obtain ⟨record, w₀, value₀, hlatest, hquestion, hrec, hans, hlast⟩ := ih hnode
      refine ⟨record, w₀, value₀, hlatest.snoc (by simp [hnode]), hquestion, hrec, hans, ?_⟩
      rw [hs']
      exact hlast
    · refine ⟨_, w, value, ⟨tr, _, [], t, rfl, hnode, rfl, ?_, by simp⟩, hasks.question, rfl,
        hasks.answer, ?_⟩
      · obtain ⟨_, s⟩ := c
        obtain rfl : _ = some Node.planningPhase := hnode
        exact acceptedResult_of_accepted ht hacc
      · rw [hasks.decisions, List.getLast?_concat]

/-- The reference to the planner's question a payload shows. -/
def questionRefShown : Json → Json
  | .obj members =>
    match members.lookup "input_payload" with
    | some (.obj input) => (input.lookup "planner_question_ref").getD .null
    | _ => .null
  | _ => .null

theorem questionRefShown_payload (s : WorkflowState) :
    questionRefShown (planningDevConsultPayload env s) =
      dumpOr plannerQuestionRefDump (plannerQuestionRef s) := rfl

/-- What the consultation's node returns: the guard has spoken, or the record of
the consultation is appended. -/
theorem Returns.consults {n : Node} {w : World} {s s' : WorkflowState} {value : Json}
    (h : Returns env w s value n s') (hn : n = .planningDevConsult) :
    (∃ t findings, n.target s = some t ∧ Rejects env w t s value findings) ∨
      ∃ consultation, s'.planningConsultations = s.planningConsultations ++ [consultation] ∧
        consultation.plannerQuestionSha256 =
          ((plannerQuestionRef s).map Decision.sha256).getD "" := by
  cases h with
  | guard ht hr => exact Or.inl ⟨_, _, ht, hr⟩
  | consult => exact Or.inr ⟨_, rfl, rfl⟩
  | noCurrent hwhich => obtain ⟨rfl, -⟩ | ⟨rfl, -⟩ := hwhich <;> cases hn
  | answered | refused | rolledBack => exact absurd hn (gate_node_ne rfl)
  | init | pm | planBlocked | planAsks | planned | dev | codex | rev | codexFinal |
      rolledBackToDev | continued | loopNext | loopExit => cases hn

/-- The record of a consultation stores the hash of the question it was given. -/
theorem consultation_of_advance {c c' : Config} {e : Event}
    (hn : c.node = some .planningDevConsult) (h : advance env c e = some c')
    (hacc : (acceptedResult env ⟨c, e, c'⟩).isSome) :
    ∃ consultation, c'.state.planningConsultations =
        c.state.planningConsultations ++ [consultation] ∧
      consultation.plannerQuestionSha256 =
        ((plannerQuestionRef c.state).map Decision.sha256).getD "" := by
  obtain ⟨n, hnode, hret, -, he⟩ := returns_of_advance h
  rw [hn] at hnode
  cases hnode
  -- a result the guard has rejected is not one that was accepted
  rcases hret.consults rfl with ⟨t, findings, ht, hr⟩ | hcons
  · obtain ⟨w, value, rfl⟩ : ∃ w value, e = .resume w value := ⟨_, _, he rfl⟩
    obtain ⟨_, s⟩ := c
    obtain rfl : _ = some Node.planningDevConsult := hn
    have hnone : acceptedResult env ⟨⟨some .planningDevConsult, s⟩, .resume w value, c'⟩ = none :=
      acceptedResult_of_rejects ht hr
    rw [hnone] at hacc
    cases hacc
  · exact hcons

/-- **The consultation points at the planner's question.**  Whenever the node of
the consultation is about to run, the last decision is the audit record of the
planner's latest accepted result, which asks for input with a question that is
not blank.  If the decision has a file, the reference shown has its path, its
hash and its identifier, and the record appended on acceptance stores that hash;
if it has none, no reference is shown and the empty text is stored. -/
theorem consultation_of_run {tr : List (Lts.Move Config Event)} {c : Config}
    (h : (graph env).Run tr c) (hn : c.node = some .planningDevConsult) :
    ∃ record, PointsAt env tr c.state record ∧
      Node.planningDevConsult.payload env c.state = some (planningDevConsultPayload env c.state) ∧
      questionRefShown (planningDevConsultPayload env c.state) =
        (if record.filePath.isSome then plannerQuestionRefDump record else .null) ∧
      ∀ e c', advance env c e = some c' → (acceptedResult env ⟨c, e, c'⟩).isSome →
        ∃ consultation, c'.state.planningConsultations =
            c.state.planningConsultations ++ [consultation] ∧
          consultation.plannerQuestionSha256 =
            if record.filePath.isSome then record.sha256 else "" := by
  obtain ⟨record, hpoints⟩ := pointsAt_of_run h hn
  have hlast : c.state.decisions.getLast? = some record := by
    obtain ⟨w, value, -, -, -, -, hlast⟩ := hpoints
    exact hlast
  -- the reference is that of the last record, if it has a file
  have href : plannerQuestionRef c.state =
      if record.filePath.isSome then some record else none := by
    rw [plannerQuestionRef, hlast, Option.filter]
  refine ⟨record, hpoints, rfl, ?_, ?_⟩
  · rw [questionRefShown_payload, href]
    split <;> rfl
  · intro e c' hstep hacc
    obtain ⟨consultation, hcons, hsha⟩ := consultation_of_advance hn hstep hacc
    refine ⟨consultation, hcons, ?_⟩
    rw [hsha, href]
    split <;> rfl

end Consult

/-- A planner result that asks the developer, with these members beside. -/
def sampleQuestion (sha : String) (members : List (String × Json)) : Event :=
  .resume sampleWorld (.obj ([("status", .str "needs_input"), ("_decision_file_sha256", .str sha),
    ("dev_consultation", .obj [("question", .str "which port?")])] ++ members))

/-- A question with a file is shown by its path, hash and identifier. -/
theorem consultation_of_run_sample : ∃ tr c, (graph sampleEnv).Run tr c ∧
    c.node = some .planningDevConsult ∧
    (c.state.decisions.getLast?.map Decision.filePath) = some (some "q.md") ∧
    ∃ record, PointsAt sampleEnv tr c.state record := by
  obtain ⟨tr, c, hrun, h⟩ := exists_sampleRun
    [.tick sampleWorld, sampleResult "h1" [], sampleAnswer "h2" "approve",
      sampleQuestion "h3" [("_decision_file_path", .str "q.md")]]
    (fun r => (r.2.node, r.2.state.decisions.getLast?.map Decision.filePath))
    (show _ = some (some Node.planningDevConsult, some (some "q.md")) by decide +kernel)
  obtain ⟨hn, hfile⟩ := Prod.mk.inj h
  obtain ⟨record, hpoints, -⟩ := consultation_of_run hrun hn
  exact ⟨tr, c, hrun, hn, hfile, record, hpoints⟩

/-- **Without a file the hash is not stored**: the consultation records the empty
text for a question whose decision has the hash `h3`. -/
theorem consultation_of_run_counterexample :
    ¬∀ tr c, (graph sampleEnv).Run tr c → c.node = some .planningDevConsult →
      ∀ record, c.state.decisions.getLast? = some record →
        ∀ e c', advance sampleEnv c e = some c' →
          (acceptedResult sampleEnv ⟨c, e, c'⟩).isSome →
            ∃ consultation, c'.state.planningConsultations =
                c.state.planningConsultations ++ [consultation] ∧
              consultation.plannerQuestionSha256 = record.sha256 := by
  intro hstores
  obtain ⟨tr, c, hrun, h⟩ := exists_sampleRun
    [.tick sampleWorld, sampleResult "h1" [], sampleAnswer "h2" "approve", sampleQuestion "h3" []]
    (fun r => (r.2.node, r.2.state.decisions.getLast?.map Decision.sha256,
      (advance sampleEnv r.2 (sampleResult "h4" [])).map fun c' =>
        ((acceptedResult sampleEnv ⟨r.2, sampleResult "h4" [], c'⟩).isSome,
          c'.state.planningConsultations.map ConsultationRecord.plannerQuestionSha256)))
    (show _ = some (some Node.planningDevConsult, some "h3", some (true, [""])) by decide +kernel)
  obtain ⟨hn, hrest⟩ := Prod.mk.inj h
  obtain ⟨hsha, hstep⟩ := Prod.mk.inj hrest
  obtain ⟨record, hlast, hrecord⟩ := Option.map_eq_some_iff.mp hsha
  obtain ⟨c', hc', hafter⟩ := Option.map_eq_some_iff.mp hstep
  obtain ⟨hacc, hshas⟩ := Prod.mk.inj hafter
  obtain ⟨consultation, hcons, hstored⟩ := hstores tr c hrun hn record hlast _ c' hc' hacc
  have hmem : consultation.plannerQuestionSha256 ∈
      c'.state.planningConsultations.map ConsultationRecord.plannerQuestionSha256 := by
    rw [hcons]
    simp
  rw [hshas, List.mem_singleton, hstored, hrecord] at hmem
  exact absurd hmem (by decide)

end Shrimp
