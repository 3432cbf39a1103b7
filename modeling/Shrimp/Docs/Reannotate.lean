import Shrimp.Docs.Fences

/-!
# Annotating twice (`doc_output/template_engine.py`)

The annotator goes through an annotated text as it has gone through the text itself.
Up to the first line break of what is left both texts agree, so a line that was no
opening line is none now; a fence is found with the same body; and above a fence that
has been annotated stands its comment, within the window the annotator looks back
through.  The comment of an author has no backtick in it, so it lies behind the fence
before it, where both texts are the same.

## Main definitions

* `comment` — a chart comment, without its line break.
* `Follows` — the text before the annotator, with earlier fences annotated.

## Main results

* `existingAnnotation_iff` — an annotation is looked for at the end of a text.
* `Follows.existingAnnotation` — it is found in the annotated text too.
* `renderFrom_renderFrom` — the second scan, along the first.
* `annotateMermaidBlocks_idempotent` — **annotation is idempotent.**
-/

namespace Shrimp
namespace Docs

/-- A chart comment. -/
def comment (chartCode : Text) : Text := "<!-- chart: ".toList ++ chartCode ++ " -->".toList

section

variable {t w before before' : Text}

theorem annotationLine_eq (chartCode : Text) :
    annotationLine chartCode = comment chartCode ++ ['\n'] := by
  unfold annotationLine comment
  rw [List.append_assoc _ " -->".toList]
  rfl

theorem comment_eq_spaced (chartCode : Text) :
    comment chartCode = spaced [' '] [' '] [' '] chartCode := by
  unfold comment spaced
  simp only [List.append_assoc]
  rfl

/-- **An annotated fence**: the comment line, and the fence with its closing line
indented like its opening line. -/
theorem annotatedFence_eq (chartCode : Text) (f : Fence) :
    annotatedFence chartCode f =
      ('\n' :: (f.indent ++ comment chartCode)) ++ f.written f.indent := by
  unfold annotatedFence Fence.written
  rw [annotationLine_eq]
  simp only [List.append_assoc, List.cons_append, List.nil_append]

/-! ### Looking back -/

/-- What an annotation at the end of a text looks like. -/
theorem annotationToEnd_cases (h : annotationToEnd w) :
    ∃ s₁ s₂ s₃ letters gap : Text, w = spaced s₁ s₂ s₃ ("D-".toList ++ letters) ++ gap ∧
      (∀ c ∈ letters, isUpper c = true) ∧ s₁.all isSpace ∧ s₂.all isSpace ∧ s₃.all isSpace ∧
        gap.all isSpace := by
  have hget : ∀ {o : Option Bool}, o.getD false = true → o = some true := by
    intro o ho
    cases o with
    | none => cases ho
    | some b => exact congrArg some ho
  have hb := hget h
  simp only [Option.bind_eq_bind, Option.bind_eq_some_iff, afterPrefix_eq_some_iff,
    Option.some.injEq, decide_eq_true_eq] at hb
  obtain ⟨t₁, rfl, t₂, h₂, t₃, h₃, t₄, h₄, -, hrest⟩ := hb
  obtain ⟨s₁, s₂, s₃, w₁, w₂, w₃, heq⟩ := spaced_of_read h₂ h₃ h₄
  exact ⟨s₁, s₂, s₃, t₃.takeWhile isUpper, t₄, heq, fun c hc => List.mem_takeWhile_imp hc, w₁, w₂,
    w₃, hrest⟩

/-- **An annotation begins at its only angle bracket**, and has no backtick. -/
theorem exists_of_annotationToEnd (h : annotationToEnd w) :
    ∃ v, w = '<' :: v ∧ '<' ∉ v ∧ '`' ∉ v := by
  obtain ⟨s₁, s₂, s₃, letters, gap, rfl, hupper, h₁, h₂, h₃, hgap⟩ := annotationToEnd_cases h
  exact exists_spaced_tail h₁ h₂ h₃ hgap (mem_code fun c hc => .inl (hupper c hc))

theorem suffix_preceding_iff : w <:+ preceding before ↔ w <:+ before.drop 1 ∧ w.length ≤ 200 := by
  unfold preceding
  dsimp only
  generalize before.drop 1 = start
  constructor
  · intro h
    have hle := h.length_le
    rw [List.length_drop] at hle
    exact ⟨h.trans (List.drop_suffix _ _), by omega⟩
  · rintro ⟨⟨front, rfl⟩, hle⟩
    refine ⟨front.drop ((front ++ w).length - 200), ?_⟩
    rw [List.length_append, List.drop_append_of_le_length]
    omega

/-- **An annotation is looked for at the end of a text**, not more than 200 characters
back. -/
theorem existingAnnotation_iff : existingAnnotation (preceding before) ↔
    ∃ w, annotationToEnd w ∧ w <:+ before.drop 1 ∧ w.length ≤ 200 := by
  unfold existingAnnotation
  rw [List.any_eq_true]
  constructor
  · rintro ⟨w, hw, hann⟩
    exact ⟨w, hann, suffix_preceding_iff.mp ((List.mem_tails w _).mp hw)⟩
  · rintro ⟨w, hann, hw⟩
    exact ⟨w, (List.mem_tails w _).mpr (suffix_preceding_iff.mpr hw), hann⟩

/-- A chart comment with one word, and spaces behind it, is an annotation. -/
theorem annotationToEnd_comment {letters ws : Text} (hne : letters ≠ [])
    (hupper : ∀ c ∈ letters, isUpper c = true) (hws : ws.all isSpace) :
    annotationToEnd (comment ("D-".toList ++ letters) ++ ws) := by
  let t₃ : Text := letters ++ ' ' :: ("-->".toList ++ ws)
  have htext : comment ("D-".toList ++ letters) ++ ws =
      "<!--".toList ++ (' ' :: ("chart:".toList ++ (' ' :: ("D-".toList ++ t₃)))) := by
    unfold comment
    simp only [List.append_assoc]
    rfl
  have hletters : t₃.takeWhile isUpper = letters ∧
      t₃.dropWhile isUpper = ' ' :: ("-->".toList ++ ws) := upper_cut hupper _
  have h₁ : afterPrefix "<!--".toList (comment ("D-".toList ++ letters) ++ ws) =
      some (' ' :: ("chart:".toList ++ (' ' :: ("D-".toList ++ t₃)))) :=
    afterPrefix_eq_some_iff.mpr htext
  have h₂ : afterPrefix "chart:".toList ((' ' :: ("chart:".toList ++ (' ' :: ("D-".toList ++
      t₃)))).dropWhile isSpace) = some (' ' :: ("D-".toList ++ t₃)) :=
    afterPrefix_eq_some_iff.mpr rfl
  have h₃ : afterPrefix "D-".toList ((' ' :: ("D-".toList ++ t₃)).dropWhile isSpace) = some t₃ :=
    afterPrefix_eq_some_iff.mpr rfl
  have h₄ : afterPrefix "-->".toList ((t₃.dropWhile isUpper).dropWhile isSpace) = some ws := by
    rw [hletters.2]
    exact afterPrefix_eq_some_iff.mpr rfl
  unfold annotationToEnd
  simp only [Option.bind_eq_bind, h₁, h₂, h₃, h₄, Option.bind_some, Option.getD_some, hletters.1,
    hws]
  simp [hne]

theorem length_comment_of_classify {isWord : Char → Bool} {body chartCode : Text}
    (h : classifyMermaidBody isWord body = some chartCode) : (comment chartCode).length ≤ 200 := by
  obtain ⟨letters, hin, rfl⟩ := exists_letters_of_classify h
  have hall : ∀ letters ∈ chartLetters, (comment ("D-".toList ++ letters)).length ≤ 200 := by
    decide
  exact hall letters hin

/-! ### What stands before the annotator -/

/-- **The text before a place, with earlier fences annotated**: the texts are the same,
or they are the same behind a backtick, the last of the fence annotated last. -/
def Follows (before before' : Text) : Prop :=
  before' = before ∨ ∃ q q' tail, before = q ++ '`' :: tail ∧ before' = q' ++ '`' :: tail

theorem Follows.append (h : Follows before before') (s : Text) :
    Follows (before ++ s) (before' ++ s) := by
  rcases h with rfl | ⟨q, q', tail, rfl, rfl⟩
  · exact .inl rfl
  · refine .inr ⟨q, q', tail ++ s, ?_, ?_⟩
    · rw [List.append_assoc, List.cons_append]
    · rw [List.append_assoc, List.cons_append]

theorem follows_written (f : Fence) (close close' : Text) :
    Follows (before ++ f.written close) (before' ++ f.written close') := by
  have hticks : ∀ g close : Text, ∃ q, g ++ f.written close = q ++ '`' :: [] := by
    intro g close
    refine ⟨g ++ '\n' :: (f.indent ++ (opening ++ (f.body ++ '\n' :: (close ++ "``".toList)))), ?_⟩
    unfold Fence.written
    simp only [List.append_assoc, List.cons_append]
    rfl
  obtain ⟨q, hq⟩ := hticks before close
  obtain ⟨q', hq'⟩ := hticks before' close'
  exact .inr ⟨q, q', [], hq, hq'⟩

theorem Follows.suffix (h : Follows before before') (hw : '`' ∉ w) (hsuffix : w <:+ before.drop 1) :
    w <:+ before'.drop 1 := by
  rcases h with rfl | ⟨q, q', tail, rfl, rfl⟩
  · exact hsuffix
  · have htail : w <:+ tail := by
      have hboth := hsuffix.trans (List.drop_suffix 1 _)
      rcases List.suffix_or_suffix_of_suffix hboth (List.suffix_append q ('`' :: tail))
        with hin | hout
      · rcases List.suffix_cons_iff.mp hin with rfl | hin
        · exact absurd List.mem_cons_self hw
        · exact hin
      · exact absurd (hout.subset List.mem_cons_self) hw
    refine htail.trans ?_
    cases q' with
    | nil => exact List.suffix_rfl
    | cons c q' => exact (List.suffix_cons '`' tail).trans (List.suffix_append q' _)

/-- **An annotation above a fence is found in the annotated text too.** -/
theorem Follows.existingAnnotation (h : Follows before before')
    (hann : existingAnnotation (preceding before)) : existingAnnotation (preceding before') := by
  obtain ⟨w, hw, hsuffix, hlen⟩ := existingAnnotation_iff.mp hann
  obtain ⟨v, rfl, -, htick⟩ := exists_of_annotationToEnd hw
  have htick' : '`' ∉ '<' :: v := List.not_mem_cons_of_ne_of_not_mem (by decide) htick
  exact existingAnnotation_iff.mpr ⟨_, hw, h.suffix htick' hsuffix, hlen⟩

/-- A fence that is not annotated is not annotated the second time. -/
theorem Follows.annotationOf_eq_none (h : Follows before before') {isWord : Char → Bool} {f : Fence}
    (hnone : annotationOf isWord before f = none) : annotationOf isWord before' f = none := by
  unfold annotationOf at hnone ⊢
  split
  · rfl
  · next chartCode hcode =>
    rw [hcode] at hnone
    dsimp only at hnone
    split at hnone
    · next hann => rw [if_pos (h.existingAnnotation hann)]
    · cases hnone

/-- A fence that has been annotated is not annotated again. -/
theorem annotationOf_below_comment {isWord : Char → Bool} {f : Fence} {chartCode : Text}
    (hcode : annotationOf isWord before f = some chartCode) (g : Text) :
    annotationOf isWord (before' ++ '\n' :: (g ++ comment chartCode)) f = none := by
  have hclassify := classify_of_annotationOf hcode
  obtain ⟨letters, hletters, hne, hupper⟩ := isChartCode_of_classify hclassify
  have hann : existingAnnotation (preceding (before' ++ '\n' :: (g ++ comment chartCode))) := by
    refine existingAnnotation_iff.mpr ⟨comment chartCode, ?_, ?_,
      length_comment_of_classify hclassify⟩
    · have hend := annotationToEnd_comment hne hupper (rfl : ([] : Text).all isSpace = true)
      rw [List.append_nil, ← hletters] at hend
      exact hend
    · refine (List.suffix_append g _).trans ?_
      cases before' with
      | nil => exact List.suffix_rfl
      | cons c before' => exact (List.suffix_cons '\n' _).trans (List.suffix_append before' _)
  unfold annotationOf
  rw [hclassify]
  exact if_pos hann

end

/-! ### The second scan -/

section

variable {isWord : Char → Bool} {before before' : Text}

theorem exists_replaceFence (f : Fence) (close : Text) :
    ∃ more, replaceFence isWord before (f.written close) f = '\n' :: more := by
  unfold replaceFence
  cases annotationOf isWord before f with
  | none => exact ⟨_, rfl⟩
  | some chartCode => exact ⟨_, rfl⟩

/-- **Up to the first line break, annotating a text changes nothing.** -/
theorem line_renderFrom (t : Text) (before : Text) :
    (Pattern.renderFrom (replaceFence isWord) before (mermaidFence.pieces t)).takeWhile
        (· ≠ '\n') = t.takeWhile (· ≠ '\n') ∧
      ('\n' ∈ Pattern.renderFrom (replaceFence isWord) before (mermaidFence.pieces t) ↔
        '\n' ∈ t) := by
  induction t using mermaidFence.induction generalizing before with
  | nil => exact ⟨rfl, Iff.rfl⟩
  | symbol a t hnone ih =>
    obtain ⟨hline, hmem⟩ := ih (before ++ [a])
    rw [Pattern.renderFrom_of_eq_none hnone]
    refine ⟨?_, ?_⟩
    · rw [List.takeWhile_cons, List.takeWhile_cons, hline]
    · rw [List.mem_cons, List.mem_cons, hmem]
  | found t n f hsome ih =>
    obtain ⟨close, rest, -, -, -, rfl, rfl⟩ := mermaidFenceAt_eq_some_iff.mp hsome
    obtain ⟨more, hmore⟩ := @exists_replaceFence isWord before f close
    have hnil : ∀ X : Text, ('\n' :: X).takeWhile (· ≠ '\n') = [] := fun _ => rfl
    rw [Pattern.renderFrom_of_eq_some hsome, List.take_left, hmore, Fence.written,
      List.cons_append, List.cons_append, hnil, hnil]
    exact ⟨rfl, iff_of_true List.mem_cons_self List.mem_cons_self⟩

/-- **Where no fence is found, none is found in the annotated text.** -/
theorem find_renderFrom_eq_none {a : Char} {t : Text} (h : mermaidFenceAt (a :: t) = none) :
    mermaidFenceAt (a :: Pattern.renderFrom (replaceFence isWord) before
      (mermaidFence.pieces t)) = none := by
  by_cases ha : a = '\n'
  · subst ha
    cases hopen : openingAt ('\n' :: t) with
    | none =>
      refine mermaidFenceAt_of_opening ?_
      by_contra hne
      have hsome := Option.isSome_iff_ne_none.mpr hne
      obtain ⟨hline, hmem⟩ := @line_renderFrom isWord t before
      rw [openingAt_isSome_iff, hline, hmem, ← openingAt_isSome_iff, hopen] at hsome
      cases hsome
    | some m =>
      -- an opening line that is not closed: no fence is left, and nothing changes
      obtain ⟨indent, inner⟩ := m
      have hinner : upTo closing inner = none := by
        rw [mermaidFenceAt_eq, hopen] at h
        exact Option.map_eq_none_iff.mp h
      rw [Pattern.renderFrom_eq_self (not_occurs_of_open hopen hinner)]
      exact h
  · exact mermaidFenceAt_of_opening (openingAt_of_ne ha _)

theorem find_comment_eq_none {g chartCode : Text} (hg : ∀ c ∈ g, isBlank c = true)
    (hcode : IsChartCode chartCode) (X : Text) {u : Text}
    (hu : u <:+ '\n' :: (g ++ comment chartCode)) (hne : u ≠ []) :
    mermaidFenceAt (u ++ '\n' :: X) = none := by
  obtain ⟨letters, rfl, -, hupper⟩ := hcode
  have hnobreak : '\n' ∉ g ++ comment ("D-".toList ++ letters) := by
    have hparts : '\n' ∉ "<!-- chart: ".toList ∧ '\n' ∉ "D-".toList ∧ '\n' ∉ " -->".toList := by
      decide
    have hletters : '\n' ∉ letters := fun hmem => absurd (hupper _ hmem) (by decide)
    have hblank : '\n' ∉ g := fun hmem => absurd (hg _ hmem) (by decide)
    unfold comment
    simp only [List.mem_append, not_or]
    exact ⟨hblank, ⟨hparts.1, hparts.2.1, hletters⟩, hparts.2.2⟩
  refine mermaidFenceAt_of_opening ?_
  rcases List.suffix_cons_iff.mp hu with rfl | hu
  -- from the line break on stands the comment, and not an opening line
  · by_contra hopen
    obtain ⟨-, indent, hblank, hline⟩ :=
      openingAt_isSome_iff.mp (Option.isSome_iff_ne_none.mpr hopen)
    change List.takeWhile _ ((g ++ comment _) ++ '\n' :: X) = _ at hline
    rw [(takeWhile_line hnobreak _).1] at hline
    have hmem : '<' ∈ indent ++ "```mermaid".toList := by
      rw [← hline]
      exact List.mem_append_right _ List.mem_cons_self
    rcases List.mem_append.mp hmem with hmem | hmem
    · exact absurd (hblank _ hmem) (by decide)
    · exact absurd hmem (by decide)
  · cases u with
    | nil => exact absurd rfl hne
    | cons c u =>
      refine openingAt_of_ne ?_ _
      rintro rfl
      exact hnobreak (hu.subset List.mem_cons_self)

theorem find_written {f : Fence} {close : Text} (hindent : ∀ c ∈ f.indent, isBlank c = true)
    (hbody : NotClosed f.body) (hclose : ∀ c ∈ close, isBlank c = true) (X : Text) :
    mermaidFence.find (f.written close ++ X) = some ((f.written close).length, f) :=
  mermaidFenceAt_eq_some_iff.mpr ⟨close, X, hindent, hbody, hclose, rfl, rfl⟩

theorem renderFrom_written {f : Fence} {close : Text} (hindent : ∀ c ∈ f.indent, isBlank c = true)
    (hbody : NotClosed f.body) (hclose : ∀ c ∈ close, isBlank c = true)
    (hnone : annotationOf isWord before f = none) (X : Text) :
    Pattern.renderFrom (replaceFence isWord) before (mermaidFence.pieces (f.written close ++ X)) =
      f.written close ++ Pattern.renderFrom (replaceFence isWord) (before ++ f.written close)
        (mermaidFence.pieces X) := by
  rw [Pattern.renderFrom_of_eq_some (find_written hindent hbody hclose X), List.take_left,
    List.drop_left, replaceFence, hnone]

/-- **The second scan changes nothing**, from any place on. -/
theorem renderFrom_renderFrom (h : Follows before before') (t : Text) :
    Pattern.renderFrom (replaceFence isWord) before' (mermaidFence.pieces
        (Pattern.renderFrom (replaceFence isWord) before (mermaidFence.pieces t))) =
      Pattern.renderFrom (replaceFence isWord) before (mermaidFence.pieces t) := by
  induction t using mermaidFence.induction generalizing before before' with
  | nil => rfl
  | symbol a t hnone ih =>
    rw [Pattern.renderFrom_of_eq_none hnone,
      Pattern.renderFrom_of_eq_none (find_renderFrom_eq_none hnone), ih (h.append [a])]
  | found t n f hsome ih =>
    obtain ⟨close, rest, hindent, hbody, hclose, rfl, rfl⟩ := mermaidFenceAt_eq_some_iff.mp hsome
    rw [Pattern.renderFrom_of_eq_some hsome, List.take_left, List.drop_left, replaceFence]
    rw [List.drop_left] at ih
    cases hcode : annotationOf isWord before f with
    | none =>
      dsimp only
      rw [renderFrom_written hindent hbody hclose (h.annotationOf_eq_none hcode),
        ih (h.append (f.written close))]
    | some chartCode =>
      dsimp only
      have hcomment : ∀ u, u <:+ '\n' :: (f.indent ++ comment chartCode) → u ≠ [] →
          mermaidFence.find (u ++ (f.written f.indent ++ Pattern.renderFrom (replaceFence isWord)
            (before ++ f.written close) (mermaidFence.pieces rest))) = none := fun u hu hne =>
        find_comment_eq_none hindent (isChartCode_of_annotationOf hcode) _ hu hne
      -- the comment is passed over, and the fence below it is annotated
      rw [annotatedFence_eq, List.append_assoc, Pattern.renderFrom_append hcomment,
        renderFrom_written hindent hbody hindent (annotationOf_below_comment hcode f.indent),
        ih (follows_written f close f.indent)]

/-- **Annotation is idempotent.** -/
theorem annotateMermaidBlocks_idempotent (isWord : Char → Bool) (content : Text) :
    annotateMermaidBlocks isWord (annotateMermaidBlocks isWord content) =
      annotateMermaidBlocks isWord content := by
  have hagain := @renderFrom_renderFrom isWord [] [] (.inl rfl) ('\n' :: content)
  have hfirst := cons_annotateMermaidBlocks isWord content
  have hsecond := cons_annotateMermaidBlocks isWord (annotateMermaidBlocks isWord content)
  unfold Pattern.subWith at hfirst hsecond
  rw [hfirst, hsecond] at hagain
  exact (List.cons.inj hagain).2

end

end Docs
end Shrimp
