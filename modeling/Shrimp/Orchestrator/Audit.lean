import Shrimp.Orchestrator.History

/-!
# The audit trail

Each resumed decision file carries its hash, and each node that accepts a result
or an answer appends an audit record pinned to that hash.  The update of the
guard appends none, so the trail has the accepted files and no others.

## Main definitions

* `carriedSha`, `resumedShas` — the hashes of the resumed files.
* `acceptedShas` — those of the files the guard did not reject.

## Main results

* `decisions_eq_acceptedShas` — the audit trail of every run is the accepted
  files.
* `audit_complete_iff` — **the audit trail has every resumed file exactly when
  the guard rejected none.**
-/

namespace Shrimp

/-- The hash a resumed file carries. -/
def carriedSha : Event → Option String
  | .tick _ => none
  | .resume _ value =>
    match value.asDict.bind fun d => d.get? "_decision_file_sha256" with
    | some (.str sha) => if sha = "" then none else some sha
    | _ => none

/-- Does a move that resumes a file carry its hash? -/
def carries (m : Lts.Move Config Event) : Bool :=
  match m.label with
  | .tick _ => true
  | .resume w value => (carriedSha (.resume w value)).isSome

/-- The hashes of the resumed files, oldest first. -/
def resumedShas (tr : List (Lts.Move Config Event)) : List String :=
  tr.filterMap fun m => carriedSha m.label

/-- The hashes of the resumed files that the guard did not reject. -/
def acceptedShas (env : Env) (tr : List (Lts.Move Config Event)) : List String :=
  resumedShas (tr.filter fun m => !isRejected env m)

/-! ### The record of one resume -/

section Record

variable {env : Env} {w w' : World} {value : Json} {sha : String}

theorem exists_of_carriedSha (h : carriedSha (.resume w value) = some sha) :
    ∃ d, value.asDict = some d ∧ d.get? "_decision_file_sha256" = some (.str sha) ∧ sha ≠ "" := by
  simp only [carriedSha] at h
  split at h
  · next sha' hget =>
    obtain ⟨d, hd, hsha⟩ := Option.bind_eq_some_iff.mp hget
    split at h
    · cases h
    · next hne =>
      cases h
      exact ⟨d, hd, hsha, hne⟩
  · cases h

theorem sha256_makeDecision {d : Obj} {question answer idDefault : String}
    (hget : d.get? "_decision_file_sha256" = some (.str sha)) (hne : sha ≠ "") :
    (makeDecision env w d question answer idDefault).sha256 = sha := by
  have hfile : decisionFileSha env d = sha := Obj.getStr_of_get? hget
  simp only [makeDecision, hfile, if_neg hne]

theorem sha256_auditDecision {question idDefault : String}
    (h : carriedSha (.resume w value) = some sha) :
    (auditDecision env w' (resultDict env value) question idDefault).sha256 = sha := by
  obtain ⟨d, hd, hget, hne⟩ := exists_of_carriedSha h
  rw [auditDecision, resultDict, hd, Option.getD_some]
  exact sha256_makeDecision hget hne

theorem sha256_gateRecord {gate : Gate} (h : carriedSha (.resume w value) = some sha) :
    (gateRecord env w' gate value).sha256 = sha := by
  obtain ⟨d, hd, hget, hne⟩ := exists_of_carriedSha h
  simp only [gateRecord, consumeGateDecision, decisionDict, hd, Option.getD_some]
  exact sha256_makeDecision hget hne

end Record

/-! ### The trail of a run -/

section Trail

variable {env : Env}

theorem acceptedShas_snoc (tr : List (Lts.Move Config Event)) (m : Lts.Move Config Event) :
    acceptedShas env (tr ++ [m]) = acceptedShas env tr ++
      if isRejected env m then [] else (carriedSha m.label).toList := by
  rw [acceptedShas, List.filter_append, resumedShas, List.filterMap_append]
  cases hr : isRejected env m
  · cases hs : carriedSha m.label <;> simp [hr, hs, acceptedShas, resumedShas]
  · simp [hr, acceptedShas, resumedShas]

theorem isRejected_of_accepted {n : Node} {t : Target} {w : World} {s s' : WorkflowState}
    {value : Json} {c' : Config} (ht : n.target s = some t) (h : Accepted env w t s value s') :
    isRejected env ⟨⟨some n, s⟩, .resume w value, c'⟩ = false := by
  rw [isRejected, handedIn_of_accepted ht h]
  rfl

theorem isRejected_of_rejects {n : Node} {t : Target} {w : World} {s : WorkflowState}
    {value : Json} {c' : Config} {findings : List GuardWarning} (ht : n.target s = some t)
    (h : Rejects env w t s value findings) :
    isRejected env ⟨⟨some n, s⟩, .resume w value, c'⟩ = true := by
  rw [isRejected, handedIn_of_rejects ht h]
  rfl

theorem isRejected_of_gate {gate : Gate} {s : WorkflowState} {e : Event} {c' : Config} :
    isRejected env ⟨⟨some gate.node, s⟩, e, c'⟩ = false := by
  have ht : gate.node.target s = none := by cases gate <;> rfl
  rw [isRejected, handedIn_of_target ht]

/-- A move that appends no record resumes nothing or is rejected. -/
theorem shas_of_kept {tr : List (Lts.Move Config Event)} {c c' : Config} {e : Event}
    (hc : c.state.decisions.map Decision.sha256 = acceptedShas env tr)
    (hd : c'.state.decisions = c.state.decisions)
    (hnone : isRejected env ⟨c, e, c'⟩ = true ∨ carriedSha e = none) :
    c'.state.decisions.map Decision.sha256 = acceptedShas env (tr ++ [⟨c, e, c'⟩]) := by
  rw [acceptedShas_snoc, hd, hc]
  rcases hnone with hr | hs
  · rw [if_pos hr, List.append_nil]
  · simp [hs]

/-- A move that is not rejected appends a record with the carried hash. -/
theorem shas_of_append {tr : List (Lts.Move Config Event)} (c c' : Config) {e : Event}
    {record : Decision} (hc : c.state.decisions.map Decision.sha256 = acceptedShas env tr)
    (hd : c'.state.decisions = c.state.decisions ++ [record])
    (hr : isRejected env ⟨c, e, c'⟩ = false) (hs : carriedSha e = some record.sha256) :
    c'.state.decisions.map Decision.sha256 = acceptedShas env (tr ++ [⟨c, e, c'⟩]) := by
  rw [acceptedShas_snoc, hd, List.map_append, hc, if_neg (by simp [hr]), hs]
  rfl

theorem shas_of_accepted {tr : List (Lts.Move Config Event)} {n : Node} {next : Option Node}
    {t : Target} {w : World} {s s' : WorkflowState} {value : Json}
    (hc : s.decisions.map Decision.sha256 = acceptedShas env tr)
    (hcarry : (carriedSha (.resume w value)).isSome) (ht : n.target s = some t)
    (hacc : Accepted env w t s value s') :
    s'.decisions.map Decision.sha256 =
      acceptedShas env (tr ++ [⟨⟨some n, s⟩, .resume w value, ⟨next, s'⟩⟩]) := by
  obtain ⟨question, idDefault, hd⟩ := hacc.decisions
  obtain ⟨sha, hsha⟩ := Option.isSome_iff_exists.mp hcarry
  exact shas_of_append ⟨some n, s⟩ ⟨next, s'⟩ hc hd (isRejected_of_accepted ht hacc)
    (by rw [hsha, sha256_auditDecision hsha])

theorem shas_of_decided {tr : List (Lts.Move Config Event)} (gate : Gate) {next : Option Node}
    {w : World} {s s' : WorkflowState} {value : Json}
    (hc : s.decisions.map Decision.sha256 = acceptedShas env tr)
    (hcarry : (carriedSha (.resume w value)).isSome) (hd : Decided env w gate s value s') :
    s'.decisions.map Decision.sha256 =
      acceptedShas env (tr ++ [⟨⟨some gate.node, s⟩, .resume w value, ⟨next, s'⟩⟩]) := by
  obtain ⟨sha, hsha⟩ := Option.isSome_iff_exists.mp hcarry
  exact shas_of_append ⟨some gate.node, s⟩ ⟨next, s'⟩ hc hd.decisions isRejected_of_gate
    (by rw [hsha, sha256_gateRecord hsha])

/-- **A step appends the carried hash, unless the guard rejects the result.** -/
theorem Step.decisions {tr : List (Lts.Move Config Event)} {c c' : Config} {e : Event}
    (h : Step env c e c') (hcarry : carries ⟨c, e, c'⟩ = true)
    (hc : c.state.decisions.map Decision.sha256 = acceptedShas env tr) :
    c'.state.decisions.map Decision.sha256 = acceptedShas env (tr ++ [⟨c, e, c'⟩]) := by
  cases h with
  | init | loopNext | loopExit => exact shas_of_kept hc rfl (Or.inr rfl)
  -- neither update of the guard touches the decisions
  | guardBlocked ht hr | guardRetry ht hr =>
    exact shas_of_kept hc rfl (Or.inl (isRejected_of_rejects ht hr))
  | accepted hon ht hacc => exact shas_of_accepted hc hcarry ht hacc
  | planBlocked ht hacc | planned ht hacc => exact shas_of_accepted hc hcarry ht hacc
  | dev hsub hacc | codex hsub hacc =>
    exact shas_of_accepted hc hcarry (by rw [Node.target, hsub]; rfl) hacc
  | answered hl hd => exact shas_of_decided _ hc hcarry hd
  | done ha hd => exact shas_of_decided .gate3 hc hcarry hd
  | refused hd => exact shas_of_decided _ hc hcarry hd

/-- **The audit trail of a run is the accepted files.** -/
theorem decisions_eq_acceptedShas {tr : List (Lts.Move Config Event)} {c : Config}
    (h : (graph env).Run tr c) (hcarry : ∀ m ∈ tr, carries m = true) :
    c.state.decisions.map Decision.sha256 = acceptedShas env tr := by
  refine h.invariant_of (C := fun m => carries m = true)
    (I := fun tr c => c.state.decisions.map Decision.sha256 = acceptedShas env tr) ?_ ?_ hcarry
  · rintro c ⟨_, _, _, _, rfl⟩
    rfl
  · intro tr c e c' hrun hI hstep hm
    exact (step_of_run hrun hstep).decisions hm hI

/-- A filter that drops nothing from what `f` picks keeps all that `f` picks. -/
theorem forall_of_filterMap_filter_eq {α β : Type*} {p : α → Bool} {f : α → Option β} :
    ∀ {l : List α}, (l.filter p).filterMap f = l.filterMap f →
      ∀ a ∈ l, (f a).isSome → p a = true := by
  intro l
  induction l with
  | nil => simp
  | cons a l ih =>
    intro h
    have hle : ((l.filter p).filterMap f).length ≤ (l.filterMap f).length :=
      (List.filter_sublist.filterMap f).length_le
    rw [List.forall_mem_cons]
    cases hp : p a with
    | true =>
      rw [List.filter_cons_of_pos hp] at h
      cases hf : f a with
      | none =>
        rw [List.filterMap_cons_none hf, List.filterMap_cons_none hf] at h
        exact ⟨fun _ => rfl, ih h⟩
      | some b =>
        rw [List.filterMap_cons_some hf, List.filterMap_cons_some hf] at h
        exact ⟨fun _ => rfl, ih (List.cons.inj h).2⟩
    -- an element that is dropped must pick nothing, for the lengths to agree
    | false =>
      rw [List.filter_cons_of_neg (by simp [hp])] at h
      cases hf : f a with
      | none =>
        rw [List.filterMap_cons_none hf] at h
        exact ⟨fun hs => absurd hs (by simp), ih h⟩
      | some b =>
        rw [List.filterMap_cons_some hf] at h
        rw [h, List.length_cons] at hle
        omega

theorem isSome_carriedSha_of_isRejected {m : Lts.Move Config Event}
    (hr : isRejected env m = true) (hcarry : carries m = true) :
    (carriedSha m.label).isSome := by
  obtain ⟨pre, e, post⟩ := m
  cases e with
  | tick w =>
    have : handedIn env ⟨pre, .tick w, post⟩ = none := by
      unfold handedIn
      split
      · next h => cases h
      · rfl
    rw [isRejected, this] at hr
    cases hr
  | resume w value => exact hcarry

/-- **The audit trail has every resumed file exactly when the guard rejected
none.**  In a run whose resumed files all carry their hash, the hashes of the
recorded decisions are those of the files, one for one and in order, if and only
if no result was rejected by the guard. -/
theorem audit_complete_iff {tr : List (Lts.Move Config Event)} {c : Config}
    (h : (graph env).Run tr c) (hcarry : ∀ m ∈ tr, carries m = true) :
    c.state.decisions.map Decision.sha256 = resumedShas tr ↔
      ∀ m ∈ tr, isRejected env m = false := by
  rw [decisions_eq_acceptedShas h hcarry]
  constructor
  · intro heq m hm
    have hkept := forall_of_filterMap_filter_eq heq m hm
    cases hr : isRejected env m with
    | false => rfl
    | true =>
      have := hkept (isSome_carriedSha_of_isRejected hr (hcarry m hm))
      rw [hr] at this
      cases this
  · intro hnone
    rw [acceptedShas, List.filter_eq_self.mpr fun m hm => by rw [hnone m hm]; rfl]

end Trail

/-- The sample workflow records its ten files. -/
theorem audit_complete_iff_sample : ∃ tr c, (graph sampleEnv).Run tr c ∧
    c.state.decisions.map Decision.sha256 = resumedShas tr ∧ (resumedShas tr).length = 10 := by
  obtain ⟨tr, c, hrun, h⟩ := exists_sampleRun sampleEvents
    (fun r => (r.1.all carries, r.1.all fun m => !isRejected sampleEnv m,
      (resumedShas r.1).length))
    (show _ = some (true, true, 10) by decide +kernel)
  obtain ⟨hcarry, h⟩ := Prod.mk.inj h
  obtain ⟨hnone, hlen⟩ := Prod.mk.inj h
  rw [List.all_eq_true] at hcarry hnone
  exact ⟨tr, c, hrun, (audit_complete_iff hrun hcarry).mpr fun m hm => by simpa using hnone m hm,
    hlen⟩

/-- **A file the guard rejects leaves no audit record.** -/
theorem audit_complete_counterexample :
    ¬∀ tr c, (graph sampleEnv).Run tr c → (∀ m ∈ tr, carries m = true) →
      c.state.decisions.map Decision.sha256 = resumedShas tr := by
  intro hcomplete
  obtain ⟨tr, c, hrun, h⟩ := exists_sampleRun
    [.tick sampleWorld, .resume sampleWorld
      (.obj [("status", .str "finished"), ("_decision_file_sha256", .str "h1")])]
    (fun r => (r.1.all carries, r.2.state.decisions.map Decision.sha256, resumedShas r.1))
    (show _ = some (true, [], ["h1"]) by decide +kernel)
  obtain ⟨hcarry, h⟩ := Prod.mk.inj h
  obtain ⟨hdecisions, hresumed⟩ := Prod.mk.inj h
  have := hcomplete tr c hrun (List.all_eq_true.mp hcarry)
  rw [hdecisions, hresumed] at this
  cases this

end Shrimp
