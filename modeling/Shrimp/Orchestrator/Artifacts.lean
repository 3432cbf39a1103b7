import Shrimp.Orchestrator.Control

/-!
# Verified artifacts

Two checks cover the artifacts a dispatch expects: G5_DECL asks that each is
declared, G5_PROVE reads the file behind each declaration.  A declaration that
is not an object passes the first check and is skipped by the second.

## Main definitions

* `Detail.names` — the artifact keys a finding is about.
* `Covered` — an expected artifact is verified or named in a finding.
* `opaqueClaim` — an artifact is declared by something that is not an object.

## Main results

* `text_of_names` — a finding that is about a key quotes it.
* `mem_verifyArtifacts_iff`, `get?_verifyArtifacts` — the loop over the claims.
* `covered_iff` — **an expected artifact is covered exactly when its claim is not
  opaque.**
-/

namespace Shrimp

/-! ### What a finding names -/

/-- The keys of artifacts a finding is about. -/
def Detail.names : Detail → List String
  | .missingKeys missing => missing
  | .unknownKey key => [key]
  | .fileMissing key _ => [key]
  | .shaMismatch key _ _ => [key]
  | _ => []

/-- `x` stands in the text `t`. -/
def Quotes (t x : String) : Prop := ∃ pre post, t = pre ++ x ++ post

theorem Quotes.last (a x : String) : Quotes (a ++ x) x := ⟨a, "", String.append_empty.symm⟩

theorem Quotes.append {t x : String} (h : Quotes t x) (b : String) : Quotes (t ++ b) x := by
  obtain ⟨pre, post, rfl⟩ := h
  exact ⟨pre, post ++ b, String.append_assoc⟩

theorem Quotes.prepend {t x : String} (h : Quotes t x) (a : String) : Quotes (a ++ t) x := by
  obtain ⟨pre, post, rfl⟩ := h
  exact ⟨a ++ pre, post, by simp only [String.append_assoc]⟩

theorem quotes_intercalate {sep x : String} {xs : List String} (h : x ∈ xs) :
    Quotes (sep.intercalate xs) x := by
  induction xs with
  | nil => simp at h
  | cons y xs ih =>
    cases xs with
    | nil =>
      rw [List.mem_singleton] at h
      rw [String.intercalate_singleton, h]
      exact ⟨"", "", by simp⟩
    | cons z xs =>
      rw [String.intercalate_cons_cons]
      rcases List.mem_cons.mp h with rfl | h
      · rw [String.append_assoc]
        exact ⟨"", _, by rw [String.empty_append]⟩
      · exact (ih h).prepend _

/-- **A finding that is about a key quotes it.** -/
theorem text_of_names {p : Char → Bool} {detail : Detail} {key : String}
    (h : key ∈ detail.names) : Quotes (detail.text p) (reprStr p key) := by
  cases detail with
  | missingKeys missing =>
    have hmem : reprStr p key ∈ missing.map (reprStr p) := List.mem_map_of_mem h
    exact (((quotes_intercalate hmem).prepend "[").append "]").prepend _
  | unknownKey k =>
    obtain rfl := List.mem_singleton.mp h
    exact (Quotes.last _ _).append _
  | fileMissing k path =>
    obtain rfl := List.mem_singleton.mp h
    exact ((((Quotes.last _ _).append _).append _).append _).append _
  | shaMismatch k claimed actual =>
    obtain rfl := List.mem_singleton.mp h
    exact ((((Quotes.last _ _).append _).append _).append _).append _
  | _ => cases h

/-! ### The loop over the claims -/

section Loop

variable {env : Env} {w : World} {artifactPaths : Dict String String} {stage : Stage}
  {subagentName : String}

theorem names_verifyArtifact {key : String} {claim : Json} {fs : List GuardWarning}
    {ref : Option ArtifactRef}
    (h : verifyArtifact env w artifactPaths stage subagentName key claim = .ok (fs, ref)) :
    ∀ f ∈ fs, f.checkId = .g5Prove ∧ f.detail.names = [key] := by
  unfold verifyArtifact at h
  -- every round ends in one of these: no object, no file, or a file that is hashed
  split at h
  · cases h
    simp
  extract_lets path at h
  split at h
  · cases h
    simp [guardWarning, Detail.names]
  simp only [bind_eq_ok] at h
  obtain ⟨found, -, h⟩ := h
  split at h
  · simp only [bind_eq_ok] at h
    obtain ⟨bytes, -, h⟩ := h
    cases h
    split <;> simp [guardWarning, Detail.names]
  · cases h
    simp [guardWarning, Detail.names]

/-- One round finds something or verifies the file, unless it skips the claim. -/
theorem verifyArtifact_cases {key : String} {claim : Json} {fs : List GuardWarning}
    {ref : Option ArtifactRef}
    (h : verifyArtifact env w artifactPaths stage subagentName key claim = .ok (fs, ref)) :
    (claim.asDict = none ∧ fs = [] ∧ ref = none) ∨
      claim.asDict ≠ none ∧ (fs ≠ [] ∨ ∃ r bytes, ref = some r ∧
        w.readBytes (artifactPaths.getD key "") = .ok bytes ∧
        r.sha256 = env.hexdigest bytes) := by
  unfold verifyArtifact at h
  split at h
  · next hclaim =>
    cases h
    exact Or.inl ⟨hclaim, rfl, rfl⟩
  next c hclaim =>
  refine Or.inr ⟨by simp [hclaim], ?_⟩
  extract_lets path at h
  split at h
  · cases h
    exact Or.inl (by simp)
  simp only [bind_eq_ok] at h
  obtain ⟨found, -, h⟩ := h
  -- a file that is there is hashed; one that is missing is found
  split at h
  · simp only [bind_eq_ok] at h
    obtain ⟨bytes, hbytes, h⟩ := h
    cases h
    exact Or.inr ⟨_, bytes, rfl, hbytes, rfl⟩
  · cases h
    exact Or.inl (by simp)

/-- **What the loop finds is what its rounds find.** -/
theorem mem_verifyArtifacts_iff {entries : List (String × Json)} :
    ∀ {findings fs : List GuardWarning} {arts arts' : Dict String ArtifactRef},
      verifyArtifacts env w artifactPaths stage subagentName entries findings arts =
        .ok (fs, arts') →
      ∀ f, f ∈ fs ↔ f ∈ findings ∨ ∃ e ∈ entries, ∃ fk ref,
        verifyArtifact env w artifactPaths stage subagentName e.1 e.2 = .ok (fk, ref) ∧ f ∈ fk := by
  induction entries with
  | nil =>
    intro findings fs arts arts' h f
    cases h
    simp
  | cons e entries ih =>
    intro findings fs arts arts' h f
    simp only [verifyArtifacts, bind_eq_ok] at h
    -- the round of the first claim, and the loop over the others
    obtain ⟨⟨fk, ref⟩, hround, h⟩ := h
    rw [ih h f, List.mem_append]
    constructor
    · rintro ((hf | hf) | ⟨e', he', hrest⟩)
      · exact Or.inl hf
      · exact Or.inr ⟨e, List.mem_cons_self, fk, ref, hround, hf⟩
      · exact Or.inr ⟨e', List.mem_cons_of_mem _ he', hrest⟩
    · rintro (hf | ⟨e', he', fk', ref', hround', hf⟩)
      · exact Or.inl (Or.inl hf)
      · rcases List.mem_cons.mp he' with rfl | he'
        · rw [hround] at hround'
          cases hround'
          exact Or.inl (Or.inr hf)
        · exact Or.inr ⟨e', he', fk', ref', hround', hf⟩

theorem get?_verifyArtifacts_of_notMem {entries : List (String × Json)} {key : String}
    (hkey : key ∉ entries.map Prod.fst) :
    ∀ {findings fs : List GuardWarning} {arts arts' : Dict String ArtifactRef},
      verifyArtifacts env w artifactPaths stage subagentName entries findings arts =
        .ok (fs, arts') → arts'.get? key = arts.get? key := by
  induction entries with
  | nil =>
    intro findings fs arts arts' h
    cases h
    rfl
  | cons e entries ih =>
    intro findings fs arts arts' h
    rw [List.map_cons, List.mem_cons, not_or] at hkey
    simp only [verifyArtifacts, bind_eq_ok] at h
    obtain ⟨⟨fk, ref⟩, -, h⟩ := h
    rw [ih hkey.2 h]
    -- a later round of the same key cannot overwrite the reference: the keys are distinct
    cases ref with
    | none => rfl
    | some r => exact Dict.get?_insert_of_ne _ _ hkey.1

/-- **What the loop verifies of a claimed key is what its own round verifies.** -/
theorem get?_verifyArtifacts {entries : List (String × Json)}
    (hnodup : (entries.map Prod.fst).Nodup) {e : String × Json} (he : e ∈ entries) :
    ∀ {findings fs : List GuardWarning} {arts arts' : Dict String ArtifactRef},
      verifyArtifacts env w artifactPaths stage subagentName entries findings arts =
        .ok (fs, arts') → arts.get? e.1 = none →
      ∃ fk, verifyArtifact env w artifactPaths stage subagentName e.1 e.2 =
        .ok (fk, arts'.get? e.1) := by
  induction entries with
  | nil => simp at he
  | cons e' entries ih =>
    intro findings fs arts arts' h hnew
    rw [List.map_cons, List.nodup_cons] at hnodup
    simp only [verifyArtifacts, bind_eq_ok] at h
    obtain ⟨⟨fk, ref⟩, hround, h⟩ := h
    rcases List.mem_cons.mp he with rfl | he
    · refine ⟨fk, ?_⟩
      rw [get?_verifyArtifacts_of_notMem hnodup.1 h, hround]
      cases ref with
      | none => simp [hnew]
      | some r => simp
    · refine ih hnodup.2 he h ?_
      have hne : e.1 ≠ e'.1 := by
        intro heq
        exact hnodup.1 (heq ▸ List.mem_map_of_mem he)
      cases ref with
      | none => exact hnew
      | some r => exact (Dict.get?_insert_of_ne _ _ hne).trans hnew

end Loop

/-! ### Expected artifacts -/

section Expected

variable {env : Env} {w : World} {s : WorkflowState} {value : Json} {d : Obj} {stage : Stage}
  {expectedArtifacts : List String} {subagentName : String} {findings : List GuardWarning}
  {verified : Dict String ArtifactRef} {gh : Option WorkflowState}

/-- An expected artifact is verified, with the hash of the file now on disk, or
named in a finding of G5_DECL or G5_PROVE. -/
def Covered (env : Env) (w : World) (artifactPaths : Dict String String)
    (findings : List GuardWarning) (verified : Dict String ArtifactRef) (key : String) : Prop :=
  (∃ ref bytes, verified.get? key = some ref ∧
      w.readBytes (artifactPaths.getD key "") = .ok bytes ∧ ref.sha256 = env.hexdigest bytes) ∨
    ∃ f ∈ findings, (f.checkId = .g5Decl ∨ f.checkId = .g5Prove) ∧ key ∈ f.detail.names

/-- Is an artifact declared by something that is not an object? -/
def opaqueClaim (d : Obj) (key : String) : Bool :=
  match (artifactUpdates d).bind fun updates => updates.get? key with
  | some claim => claim.asDict.isNone
  | none => false

/-- An expected artifact that is not declared is named by G5_DECL. -/
theorem exists_g5Decl (hd : value.asDict = some d) {key : String}
    (h : key ∈ missingArtifacts d expectedArtifacts) :
    ∃ f ∈ runAntiDropGuard env w value stage expectedArtifacts subagentName,
      f.checkId = .g5Decl ∧ key ∈ f.detail.names := by
  have hmem : (CheckId.g5Decl, Severity.minor,
      Detail.missingKeys (missingArtifacts d expectedArtifacts)) ∈
        checkDeclared d expectedArtifacts := by
    unfold checkDeclared
    split
    · next hnil => rw [hnil] at h; cases h
    · exact List.mem_cons_self
  refine ⟨guardWarning w stage subagentName
    (.g5Decl, .minor, .missingKeys (missingArtifacts d expectedArtifacts)), ?_, rfl, h⟩
  rw [runAntiDropGuard, hd]
  exact List.mem_map_of_mem (by simp [hmem])

theorem mem_missing_of_names (hd : value.asDict = some d) {key : String} {f : GuardWarning}
    (hf : f ∈ runAntiDropGuard env w value stage expectedArtifacts subagentName)
    (hkey : key ∈ f.detail.names) : key ∈ missingArtifacts d expectedArtifacts := by
  -- the checks of the status, the stage, the gate and the summary name no key
  have hstatus : ∀ g ∈ checkStatus d, g.2.2.names = [] := by
    unfold checkStatus
    split
    · simp [Detail.names]
    · split <;> simp [Detail.names]
    · simp [Detail.names]
  have hstage : ∀ g ∈ checkStage env d stage, g.2.2.names = [] := by
    unfold checkStage
    split
    · simp
    · simp
    · split <;> simp [Detail.names]
  have hgate : ∀ g ∈ checkGate d, g.2.2.names = [] := by
    unfold checkGate
    repeat' split
    all_goals simp [Detail.names]
  -- only G5_DECL names keys, and those are the missing ones
  have hdecl : ∀ g ∈ checkDeclared d expectedArtifacts,
      g.2.2.names = missingArtifacts d expectedArtifacts := by
    unfold checkDeclared
    split
    · simp
    · simp [Detail.names]
  have hsummary : ∀ g ∈ checkSummary env d, g.2.2.names = [] := by
    unfold checkSummary
    split
    · simp [Detail.names]
    extract_lets note
    split
    · simp [Detail.names]
    · intro g hg
      rcases List.mem_append.mp hg with hg | hg
      · split at hg <;> simp_all [Detail.names]
      · split at hg <;> simp_all [Detail.names]
  rw [runAntiDropGuard, hd] at hf
  obtain ⟨g, hg, rfl⟩ := List.mem_map.mp hf
  change key ∈ g.2.2.names at hkey
  simp only [List.mem_append] at hg
  rcases hg with (((hg | hg) | hg) | hg) | hg
  · rw [hstatus g hg] at hkey; cases hkey
  · rw [hstage g hg] at hkey; cases hkey
  · rw [hgate g hg] at hkey; cases hkey
  · rwa [hdecl g hg] at hkey
  · rw [hsummary g hg] at hkey; cases hkey

theorem notMem_missing {updates : Obj} (hup : artifactUpdates d = some updates) {key : String}
    {claim : Json} (hget : updates.get? key = some claim) :
    key ∉ missingArtifacts d expectedArtifacts := by
  intro h
  have := (List.mem_filter.mp h).2
  simp [hup, Dict.contains, hget] at this

/-- A missing artifact is covered by G5_DECL, whatever the files are. -/
theorem covered_of_missing {artifactPaths : Dict String String} {proved : List GuardWarning}
    (hd : value.asDict = some d) {key : String} (h : key ∈ missingArtifacts d expectedArtifacts) :
    Covered env w artifactPaths
      (runAntiDropGuard env w value stage expectedArtifacts subagentName ++ proved) verified
      key := by
  obtain ⟨f, hf, hid, hnames⟩ := exists_g5Decl hd h
  exact Or.inr ⟨f, List.mem_append_left _ hf, Or.inl hid, hnames⟩

/-- Every finding of the loop about a key comes from the round of its claim. -/
theorem mem_round_of_names {updates : Obj} {artifactPaths : Dict String String} {key : String}
    {claim : Json} {f : GuardWarning}
    (hv : verifyArtifacts env w artifactPaths stage subagentName updates.entries [] ∅ =
      .ok (findings, verified)) (hget : updates.get? key = some claim)
    (hf : f ∈ findings) (hnames : key ∈ f.detail.names) :
    ∃ fk ref, verifyArtifact env w artifactPaths stage subagentName key claim = .ok (fk, ref) ∧
      f ∈ fk := by
  obtain hf | ⟨⟨key', claim'⟩, hmem, fk, ref, hround, hf⟩ := (mem_verifyArtifacts_iff hv f).mp hf
  · cases hf
  have hkey : key = key' := by
    rw [(names_verifyArtifact hround f hf).2] at hnames
    exact List.mem_singleton.mp hnames
  subst hkey
  have hclaim : updates.get? key = some claim' := Dict.get?_of_mem hmem
  rw [hget] at hclaim
  cases hclaim
  exact ⟨fk, ref, hround, hf⟩

/-- **An expected artifact is covered exactly when its claim is not opaque.**
Whatever the result, the paths and the files are: when the guard is through,
each expected artifact is verified with the hash of the file now on disk or
named in a finding, except one that is declared by something that is not an
object. -/
theorem covered_iff (hd : value.asDict = some d)
    (h : runFullGuardCheck env w s value stage expectedArtifacts subagentName =
      .ok (findings, verified, gh)) {key : String} (hkey : key ∈ expectedArtifacts) :
    Covered env w s.artifactPaths findings verified key ↔ opaqueClaim d key = false := by
  unfold runFullGuardCheck guardFindings at h
  simp only [bind_eq_ok] at h
  obtain ⟨⟨_, _⟩, ⟨⟨proved, arts⟩, hv, hfind⟩, h⟩ := h
  cases hfind
  cases h
  rw [verifyAndPersistArtifacts, hd, Option.bind_some] at hv
  cases hup : artifactUpdates d with
  | none =>
    refine iff_of_true (covered_of_missing hd ?_) (by simp [opaqueClaim, hup])
    exact List.mem_filter.mpr ⟨hkey, by simp [hup, Dict.contains]⟩
  | some updates =>
    rw [hup] at hv
    cases hget : updates.get? key with
    | none =>
      refine iff_of_true (covered_of_missing hd ?_) (by simp [opaqueClaim, hup, hget])
      exact List.mem_filter.mpr ⟨hkey, by simp [hup, Dict.contains, hget]⟩
    | some claim =>
      have he := Dict.mem_of_get? hget
      obtain ⟨fk, hround⟩ := get?_verifyArtifacts updates.nodup he hv rfl
      have hskips : opaqueClaim d key = claim.asDict.isNone := by
        rw [opaqueClaim, hup, Option.bind_some, hget]
      obtain ⟨hskip, hfk, hnone⟩ | ⟨hclaim, hfound⟩ := verifyArtifact_cases hround
      · -- the claim is skipped: nothing is verified, and no finding names the key
        refine iff_of_false ?_ (by simp [hskips, hskip])
        rintro (⟨ref, _, hver, -⟩ | ⟨f, hf, -, hnames⟩)
        · rw [hnone] at hver
          cases hver
        · rcases List.mem_append.mp hf with hf | hf
          · exact notMem_missing hup hget (mem_missing_of_names hd hf hnames)
          · obtain ⟨fk', ref', hround', hf'⟩ := mem_round_of_names hv hget hf hnames
            rw [hround] at hround'
            cases hround'
            rw [hfk] at hf'
            cases hf'
      · -- the claim is an object: its round finds something about it or verifies the file
        refine iff_of_true ?_
          (hskips.trans (Option.isNone_eq_false_iff.mpr (Option.isSome_iff_ne_none.mpr hclaim)))
        rcases hfound with hfound | ⟨r, bytes, href, hbytes, hsha⟩
        · obtain ⟨f, hf⟩ := List.exists_mem_of_ne_nil fk hfound
          obtain ⟨hid, hnames⟩ := names_verifyArtifact hround f hf
          have hmem := (mem_verifyArtifacts_iff hv f).mpr (Or.inr ⟨_, he, fk, _, hround, hf⟩)
          refine Or.inr ⟨f, List.mem_append_right _ hmem, Or.inr hid, ?_⟩
          rw [hnames]
          exact List.mem_singleton.mpr rfl
        · exact Or.inl ⟨r, bytes, href, hbytes, hsha⟩

end Expected

/-- A PM result that declares one artifact. -/
def declares (claim : Json) : Json :=
  .obj [("status", .str "done"), ("artifact_updates", .obj [("pm_spec", claim)])]

/-- An artifact that is declared but not on disk is covered by a finding. -/
theorem covered_iff_sample : ∃ findings verified gh,
    runFullGuardCheck sampleEnv sampleWorld (initNode sampleWorld sampleStart.state)
        (declares (.obj [])) .pmPhase ["pm_spec", "pm_risks"] "pm_agent" =
      .ok (findings, verified, gh) ∧
    Covered sampleEnv sampleWorld (initNode sampleWorld sampleStart.state).artifactPaths findings
      verified "pm_spec" := by
  have hruns : (runFullGuardCheck sampleEnv sampleWorld (initNode sampleWorld sampleStart.state)
      (declares (.obj [])) .pmPhase ["pm_spec", "pm_risks"] "pm_agent").toOption.isSome := by
    decide +kernel
  obtain ⟨⟨findings, verified, gh⟩, h⟩ := Option.isSome_iff_exists.mp hruns
  exact ⟨findings, verified, gh, ok_of_toOption h,
    (covered_iff rfl (ok_of_toOption h) (by simp)).mpr (by decide +kernel)⟩

/-- **A declaration that is not an object is neither verified nor named.** -/
theorem covered_counterexample :
    ¬∀ env w s value d stage expectedArtifacts subagentName findings verified gh,
      value.asDict = some d → (∀ key ∈ expectedArtifacts, s.artifactPaths.contains key) →
      runFullGuardCheck env w s value stage expectedArtifacts subagentName =
        .ok (findings, verified, gh) →
      ∀ key ∈ expectedArtifacts, Covered env w s.artifactPaths findings verified key := by
  -- the string "done" is no object, so that its round leaves no trace of the key
  intro hcovered
  have hruns : (runFullGuardCheck sampleEnv sampleWorld (initNode sampleWorld sampleStart.state)
      (declares (.str "done")) .pmPhase ["pm_spec", "pm_risks"] "pm_agent").toOption.map
        (fun r => ((r.2.1.get? "pm_spec").isNone, r.1.all fun f => "pm_spec" ∉ f.detail.names)) =
      some (true, true) := by decide +kernel
  obtain ⟨⟨findings, verified, gh⟩, h, hr⟩ := Option.map_eq_some_iff.mp hruns
  obtain ⟨hnone, hunnamed⟩ := Prod.mk.inj hr
  obtain ⟨ref, _, hget, -⟩ | ⟨f, hf, -, hnames⟩ :=
    hcovered _ _ _ _ _ _ _ _ _ _ _ rfl (by decide +kernel) (ok_of_toOption h) "pm_spec" (by simp)
  · rw [hget] at hnone
    cases hnone
  · exact absurd hnames (by simpa using List.all_eq_true.mp hunnamed f hf)

end Shrimp
