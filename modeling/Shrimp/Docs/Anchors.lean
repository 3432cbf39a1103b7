import Shrimp.Docs.Authors
import Shrimp.Docs.Unfilled

/-!
# The anchors of inline whiteboards (`doc_output/chart_publisher.py`)

With `position="inline"` a whiteboard is inserted behind the comment of its chart, which
Feishu is to find by its text.  The text names the code of the chart and nothing else,
and has one blank in each of its gaps.  The annotator gives one code to any number of
fences, and the extractor reads comments with white space of any kind in the gaps.

## Main definitions

* `occurrences` — how often the selection text of a code stands in a document.
* `StandsAbove` — a text with only white space between it and a place.
* `Anchored` — the selection text stands once in the document, right above the fence of
  the chart.
* `annotatedWith` — how many fences the annotator gives a code.
* `SingleSpaced` — the comment of a chart has one blank in each of its gaps.
* `Tidy` — so has every comment of a content.

## Main results

* `occurrences_annotateMermaidBlocks` — the selection texts of an annotated content.
* `standsAbove_of_mem_annotations` — the annotator writes the selection text above a fence.
* `standsAbove_iff_singleSpaced` — which comments are selection texts.
* `singleSpaced_of_mem_annotations` — those of the annotator are.
* `Bracketed.infix_annotateMermaidBlocks` — a comment of an annotated content is of the
  content or of the annotator.
* `singleSpaced_of_tidy` — of a tidy content, every chart is single-spaced.
* `anchored_iff` — **the anchors are unambiguous exactly when every code that is upgraded
  is written by an author or given by the annotator once, and written with single blanks.**
-/

namespace Shrimp
namespace Docs

/-- What `publish_chart` sends to have a whiteboard inserted. -/
def selectionText (chartCode : Text) : Text :=
  (selectionWithEllipsis (String.ofList chartCode)).toList

theorem selectionText_eq (chartCode : Text) : selectionText chartCode = comment chartCode := by
  have hcode : (String.ofList chartCode).toList = chartCode := String.toList_ofList
  unfold selectionText selectionWithEllipsis comment
  rw [String.toList_append, String.toList_append, hcode]

theorem comment_ne_nil (chartCode : Text) : comment chartCode ≠ [] := List.cons_ne_nil _ _

theorem selectionText_ne_nil (chartCode : Text) : selectionText chartCode ≠ [] := by
  rw [selectionText_eq]
  exact comment_ne_nil chartCode

/-- How often the selection text of a code stands in a document. -/
def occurrences (chartCode t : Text) : ℕ :=
  (Pattern.literal (selectionText chartCode) (selectionText_ne_nil chartCode)).count t

/-- **A text right above a place**: only white space stands between them. -/
def StandsAbove (t w : Text) (place : ℕ) : Prop :=
  ∃ u gap rest, t = u ++ (w ++ (gap ++ rest)) ∧ gap.all isSpace ∧
    place = u.length + w.length + gap.length

/-- **The anchor of a chart is unambiguous**: its selection text stands once in the
document, and stands right above the fence of the chart. -/
structure Anchored (document : Text) (c : AnnotatedChart) : Prop where
  once : occurrences c.code document = 1
  own : StandsAbove document (selectionText c.code) c.place

/-- How many fences the annotator gives a code. -/
def annotatedWith (isWord : Char → Bool) (content chartCode : Text) : ℕ :=
  (annotations isWord content).countP fun a => a.chartCode = chartCode

/-- **The comment above a chart has one blank in each of its gaps**, where the extractor
reads white space of any kind. -/
def SingleSpaced (document : Text) (c : AnnotatedChart) : Prop :=
  ∀ s₁ s₂ s₃ : Text, s₁.all isSpace → s₂.all isSpace → s₃.all isSpace →
    StandsAbove document (spaced s₁ s₂ s₃ c.code) c.place →
      s₁ = [' '] ∧ s₂ = [' '] ∧ s₃ = [' ']

/-- **Every comment in a content for a chart that is upgraded has one blank in each of
its gaps.** -/
def Tidy (content : Text) : Prop :=
  ∀ code ∈ upgradeChartCodes, ∀ s₁ s₂ s₃ : Text, s₁.all isSpace → s₂.all isSpace →
    s₃.all isSpace → spaced s₁ s₂ s₃ code <:+: content → s₁ = [' '] ∧ s₂ = [' '] ∧ s₃ = [' ']

/-- A text between angle brackets, without a backtick or a further bracket that opens. -/
structure Bracketed (w : Text) : Prop where
  head : ∃ v, w = '<' :: v ∧ '<' ∉ v
  last : ∃ u, w = u ++ ['>']
  backtick : '`' ∉ w

section

variable {isWord : Char → Bool} {content t v w : Text} {code chartCode : Text}

/-! ### Reading a comment -/

theorem IsChartCode.mem (h : IsChartCode chartCode) :
    ∀ c ∈ chartCode, isUpper c = true ∨ c = '-' := by
  obtain ⟨letters, rfl, -, hupper⟩ := h
  exact mem_code fun c hc => .inl (hupper c hc)

/-- A comment has one angle bracket, at its head, and no backtick. -/
theorem exists_comment_tail (h : IsChartCode chartCode) :
    ∃ v, comment chartCode = '<' :: v ∧ '<' ∉ v ∧ '`' ∉ v := by
  obtain ⟨v, hv, hnot⟩ := @exists_spaced_tail [' '] [' '] [' '] chartCode [] rfl rfl rfl rfl h.mem
  rw [List.append_nil, ← comment_eq_spaced] at hv
  exact ⟨v, hv, hnot⟩

theorem isUpper_eq_false_of_isSpace {c : Char} (h : isSpace c = true) : isUpper c = false := by
  rw [isUpper, decide_eq_false_iff_not]
  rintro ⟨h₁, h₂⟩
  rw [Char.le_def] at h₁ h₂
  simp only [isSpace, Bool.or_eq_true, Bool.and_eq_true, decide_eq_true_eq, beq_iff_eq,
    UInt32.le_iff_toNat_le, ← UInt32.toNat_inj, UInt32.reduceToNat] at h
  simp only [UInt32.le_iff_toNat_le, Char.reduceVal, UInt32.reduceToNat] at h₁ h₂
  omega

/-- A run of a kind of symbols ends where a symbol is not of the kind. -/
theorem run_append_inj {p : Char → Bool} {s s' x y : Text} {c c' : Char} (hs : s.all p)
    (hs' : s'.all p) (hc : p c = false) (hc' : p c' = false)
    (h : s ++ c :: x = s' ++ c' :: y) : s = s' ∧ c :: x = c' :: y := by
  have hcut : ∀ {s x : Text} {c : Char}, s.all p → p c = false →
      (s ++ c :: x).takeWhile p = s := by
    intro s x c hs hc
    rw [List.takeWhile_append_cons hc, List.takeWhile_eq_self_iff.mpr (List.all_eq_true.mp hs)]
  have heq : s = s' := by rw [← hcut hs hc, h, hcut hs' hc']
  subst heq
  exact ⟨rfl, List.append_cancel_left h⟩

/-- What stands behind the letters of a code. -/
theorem exists_cons_of_spaces {s X : Text} (hs : s.all isSpace) :
    ∃ c y, isUpper c = false ∧ s ++ ("-->".toList ++ X) = c :: y := by
  cases s with
  | nil => exact ⟨'-', _, rfl, rfl⟩
  | cons c s =>
    rw [List.all_cons, Bool.and_eq_true] at hs
    exact ⟨c, _, isUpper_eq_false_of_isSpace hs.1, rfl⟩

/-- **Two comments at the head of one text are the same**, with their white space. -/
theorem spaced_append_inj (hcode : IsChartCode code) (hcode' : IsChartCode chartCode)
    {s₁ s₂ s₃ z₁ z₂ z₃ gap gap' : Text} (h₁ : s₁.all isSpace) (h₂ : s₂.all isSpace)
    (h₃ : s₃.all isSpace) (k₁ : z₁.all isSpace) (k₂ : z₂.all isSpace) (k₃ : z₃.all isSpace)
    (h : spaced s₁ s₂ s₃ code ++ gap = spaced z₁ z₂ z₃ chartCode ++ gap') :
    code = chartCode ∧ s₁ = z₁ ∧ s₂ = z₂ ∧ s₃ = z₃ := by
  obtain ⟨letters, rfl, -, hupper⟩ := hcode
  obtain ⟨letters', rfl, -, hupper'⟩ := hcode'
  unfold spaced at h
  simp only [List.append_assoc] at h
  obtain ⟨rfl, hchart⟩ := run_append_inj h₁ k₁ rfl rfl (List.append_cancel_left h)
  obtain ⟨rfl, hletters⟩ := run_append_inj h₂ k₂ rfl rfl
    (@List.append_cancel_left _ "chart:".toList _ _ hchart)
  have hbehind := @List.append_cancel_left _ "D-".toList _ _ hletters
  obtain ⟨c, y, hc, hcut⟩ := @exists_cons_of_spaces s₃ gap h₃
  obtain ⟨c', y', hc', hcut'⟩ := @exists_cons_of_spaces z₃ gap' k₃
  rw [hcut, hcut'] at hbehind
  obtain ⟨rfl, hend⟩ := run_append_inj (List.all_eq_true.mpr hupper) (List.all_eq_true.mpr hupper')
    hc hc' hbehind
  rw [← hcut, ← hcut'] at hend
  exact ⟨rfl, rfl, rfl, (run_append_inj h₃ k₃ rfl rfl hend).1⟩

theorem isChartCode_of_mem_upgradeChartCodes {chartCode : Text}
    (h : chartCode ∈ upgradeChartCodes) : IsChartCode chartCode := by
  have hall : ∀ code ∈ upgradeChartCodes, code = "D-".toList ++ code.drop 2 ∧ code.drop 2 ≠ [] ∧
      ∀ c ∈ code.drop 2, isUpper c = true := by
    decide
  exact ⟨_, hall chartCode h⟩

/-- What is read within a comment of the annotator is the comment. -/
theorem eq_of_infix_comment (hcode : IsChartCode code) (h : IsChartCode chartCode)
    {s₁ s₂ s₃ : Text} (h₁ : s₁.all isSpace) (h₂ : s₂.all isSpace) (h₃ : s₃.all isSpace)
    (hin : spaced s₁ s₂ s₃ code <:+: comment chartCode) :
    code = chartCode ∧ s₁ = [' '] ∧ s₂ = [' '] ∧ s₃ = [' '] := by
  obtain ⟨u, gap, huv⟩ := hin
  obtain ⟨w, hw, hnot, -⟩ := exists_comment_tail h
  cases u with
  | nil =>
    rw [List.nil_append, comment_eq_spaced, ← List.append_nil (spaced [' '] _ _ _)] at huv
    exact spaced_append_inj hcode h h₁ h₂ h₃ rfl rfl rfl huv
  | cons c u =>
    -- a comment has no bracket behind its head
    rw [hw, List.append_assoc] at huv
    refine absurd ?_ hnot
    rw [← (List.cons.inj huv).2]
    exact List.mem_append_right u List.mem_cons_self

/-! ### The count -/

theorem occurrences_eq (chartCode t : Text) :
    occurrences chartCode t =
      (Pattern.literal (comment chartCode) (comment_ne_nil chartCode)).count t := by
  unfold occurrences
  simp only [selectionText_eq]

theorem apart_comment (h : IsChartCode chartCode) : Apart (comment chartCode) '<' := by
  obtain ⟨v, hv, -, htick⟩ := exists_comment_tail h
  have hcode : '\n' ∉ chartCode := by
    intro hmem
    rcases h.mem _ hmem with hup | heq
    · exact absurd hup (by decide)
    · exact absurd heq (by decide)
  refine ⟨?_, ?_, List.mem_cons_self, by decide, by decide⟩
  · exact List.not_mem_append (List.not_mem_append (by decide) hcode) (by decide)
  · rw [hv]
    exact List.not_mem_cons_of_ne_of_not_mem (by decide) htick

/-- What a comment counts, behind the indentation of its fence. -/
theorem count_comment (hcode : IsChartCode code) (h : IsChartCode chartCode) {indent : Text}
    (hindent : ∀ c ∈ indent, isBlank c = true) :
    (Pattern.literal (comment code) (comment_ne_nil code)).count (indent ++ comment chartCode) =
      if chartCode = code then 1 else 0 := by
  have hhead : (comment code).head (comment_ne_nil code) ∉ indent :=
    (apart_comment hcode).notMem_blanks hindent
  rw [Pattern.count_literal_append_of_notMem hhead]
  split
  · next heq =>
    have hself := @Pattern.count_literal_append Char _ (comment code) (comment_ne_nil code) []
    rw [List.append_nil, Pattern.count_nil] at hself
    rw [heq, hself]
  · next hne =>
    refine Pattern.count_eq_zero_iff.mpr fun hocc => hne ?_
    have hin := Pattern.occurs_literal_iff.mp hocc
    rw [comment_eq_spaced code] at hin
    exact (eq_of_infix_comment hcode h rfl rfl rfl hin).1.symm

theorem countInComments_comment (hcode : IsChartCode code) {as : List Annotation}
    (has : ∀ a ∈ as, (∀ c ∈ a.fence.indent, isBlank c = true) ∧ IsChartCode a.chartCode) :
    countInComments (comment code) (comment_ne_nil code) as =
      as.countP fun a => a.chartCode = code := by
  induction as with
  | nil => rfl
  | cons a as ih =>
    obtain ⟨⟨hindent, hchart⟩, has⟩ := List.forall_mem_cons.mp has
    rw [countInComments_cons, count_comment hcode hchart hindent, ih has, List.countP_cons,
      Nat.add_comm]
    simp only [decide_eq_true_eq]

/-- **The selection texts of an annotated content**: those of the content, and one for
every fence that is given the code. -/
theorem occurrences_annotateMermaidBlocks (hcode : IsChartCode code) (isWord : Char → Bool)
    (content : Text) : occurrences code (annotateMermaidBlocks isWord content) =
      occurrences code content + annotatedWith isWord content code := by
  rw [occurrences_eq, occurrences_eq, count_annotated (apart_comment hcode),
    countInComments_comment hcode fun a ha => comment_of_mem_annotations ha]
  rfl

/-! ### Comments of the annotator -/

theorem isSpace_of_isBlank {c : Char} (h : isBlank c = true) : isSpace c = true := by
  rcases of_decide_eq_true h with rfl | rfl
  · rfl
  · rfl

theorem standsAbove_of_cons {place : ℕ}
    (h : StandsAbove ('\n' :: t) (comment chartCode) (place + 1)) :
    StandsAbove t (comment chartCode) place := by
  obtain ⟨u, gap, rest, htext, hgap, hplace⟩ := h
  cases u with
  | nil => exact absurd (List.cons.inj htext).1 (by decide)
  | cons c u =>
    rw [List.length_cons] at hplace
    exact ⟨u, gap, rest, (List.cons.inj htext).2, hgap, by omega⟩

/-- The comments of annotated fences, along the pieces of a text. -/
theorem standsAbove_of_mem_annotationsFrom {ps : List (Piece Char Fence)}
    (hfound : ∀ s f, Piece.found s f ∈ ps → FoundFence f) {i : ℕ} {before gap g : Text}
    (hg : g.length = i) {a : Annotation} (ha : a ∈ annotationsFrom isWord i before gap ps) :
    StandsAbove (g ++ Pattern.renderFrom (replaceFence isWord) before ps) (comment a.chartCode)
      (a.place + 1) := by
  induction ps generalizing i before gap g with
  | nil => cases ha
  | cons piece ps ih =>
    have hfound' : ∀ s f, Piece.found s f ∈ ps → FoundFence f := fun s f hmem =>
      hfound s f (List.mem_cons_of_mem _ hmem)
    cases piece with
    | symbol c =>
      have hlater := ih hfound' (g := g ++ [c]) (by rw [List.length_append, hg]; rfl) ha
      rwa [List.append_assoc, List.singleton_append] at hlater
    | found s f =>
      rw [Pattern.renderFrom, replaceFence]
      rw [annotationsFrom] at ha
      cases hcode : annotationOf isWord before f with
      | none =>
        rw [hcode] at ha
        dsimp only at ha ⊢
        have hlater := ih hfound' (g := g ++ s) (by rw [List.length_append, hg]) ha
        rwa [List.append_assoc] at hlater
      | some chartCode =>
        rw [hcode] at ha
        dsimp only at ha ⊢
        rcases List.mem_cons.mp ha with rfl | ha
        · refine ⟨g ++ '\n' :: f.indent, '\n' :: f.indent, opening ++ f.body ++
            '\n' :: (f.indent ++ "```".toList) ++
              Pattern.renderFrom (replaceFence isWord) (before ++ s) ps, ?_, ?_, ?_⟩
          · unfold annotatedFence
            rw [annotationLine_eq]
            simp only [List.append_assoc, List.cons_append, List.nil_append]
          · refine List.all_eq_true.mpr fun c hc => ?_
            rcases List.mem_cons.mp hc with rfl | hc
            · rfl
            · exact isSpace_of_isBlank ((hfound s f List.mem_cons_self).1 c hc)
          · rw [annotationLine_eq]
            simp only [List.length_append, List.length_cons, List.length_nil]
            omega
        · have hlater := ih hfound' (g := g ++ annotatedFence chartCode f)
            (by rw [List.length_append, hg]) ha
          rwa [List.append_assoc] at hlater

/-- **The annotator writes the selection text above a fence.** -/
theorem standsAbove_of_mem_annotations {a : Annotation} (ha : a ∈ annotations isWord content) :
    StandsAbove (annotateMermaidBlocks isWord content) (selectionText a.chartCode) a.place := by
  have habove := standsAbove_of_mem_annotationsFrom (g := [])
    (fun s f hmem => foundFence_of_mem_pieces hmem) rfl ha
  rw [List.nil_append] at habove
  change StandsAbove (mermaidFence.subWith _ _) _ _ at habove
  rw [cons_annotateMermaidBlocks] at habove
  rw [selectionText_eq]
  exact standsAbove_of_cons habove

/-! ### Comments of an author -/

/-- **Above every chart stands its comment**, with white space of some kind in it. -/
theorem exists_spaced_of_mem {c : AnnotatedChart} (hc : c ∈ annotatedCharts t) :
    IsChartCode c.code ∧ ∃ s₁ s₂ s₃ : Text, s₁.all isSpace ∧ s₂.all isSpace ∧ s₃.all isSpace ∧
      StandsAbove t (spaced s₁ s₂ s₃ c.code) c.place := by
  obtain ⟨u, v, fence, rfl, -, -, hcomment, hplace⟩ := comment_of_mem_chartsFrom (k := 0) hc
  obtain ⟨s₁, s₂, s₃, letters, gap, heq, hcode, hne, hupper, h₁, h₂, h₃, hgap, -⟩ :=
    exists_spaced_of_chartComment hcomment
  refine ⟨⟨letters, hcode, hne, hupper⟩, s₁, s₂, s₃, h₁, h₂, h₃, u, gap, fence, by rw [heq], hgap,
    ?_⟩
  rw [← List.append_assoc] at heq
  rw [hplace, List.append_cancel_right heq]
  simp only [List.length_append]
  omega

/-- Two comments right above one place are the same, with their white space. -/
theorem eq_of_standsAbove (hcode : IsChartCode code) {s₁ s₂ s₃ z₁ z₂ z₃ : Text} {place : ℕ}
    (h₁ : s₁.all isSpace) (h₂ : s₂.all isSpace) (h₃ : s₃.all isSpace) (k₁ : z₁.all isSpace)
    (k₂ : z₂.all isSpace) (k₃ : z₃.all isSpace)
    (h : StandsAbove t (spaced s₁ s₂ s₃ code) place)
    (h' : StandsAbove t (spaced z₁ z₂ z₃ code) place) : s₁ = z₁ ∧ s₂ = z₂ ∧ s₃ = z₃ := by
  obtain ⟨u, gap, rest, rfl, hgap, rfl⟩ := h
  obtain ⟨u', gap', rest', htext, hgap', hplace⟩ := h'
  -- the texts up to the place are the same
  have hends : u ++ (spaced s₁ s₂ s₃ code ++ gap) = u' ++ (spaced z₁ z₂ z₃ code ++ gap') := by
    rw [← List.append_assoc _ gap, ← List.append_assoc u, ← List.append_assoc _ gap',
      ← List.append_assoc u'] at htext
    refine (List.append_inj htext ?_).1
    simp only [List.length_append]
    omega
  obtain ⟨v, hv, hnot, -⟩ := exists_spaced_tail h₁ h₂ h₃ hgap hcode.mem
  obtain ⟨v', hv', hnot', -⟩ := exists_spaced_tail k₁ k₂ k₃ hgap' hcode.mem
  have hsuffix : '<' :: v <:+ u ++ (spaced s₁ s₂ s₃ code ++ gap) := by
    rw [hv]
    exact List.suffix_append u _
  have hsuffix' : '<' :: v' <:+ u ++ (spaced s₁ s₂ s₃ code ++ gap) := by
    rw [hends, hv']
    exact List.suffix_append u' _
  have hsame := eq_of_suffix hsuffix hsuffix' hnot hnot'
  have hspaced : spaced s₁ s₂ s₃ code ++ gap = spaced z₁ z₂ z₃ code ++ gap' := by
    rw [hv, hv', hsame]
  exact (spaced_append_inj hcode hcode h₁ h₂ h₃ k₁ k₂ k₃ hspaced).2

/-- **The comment of a chart is the selection text exactly when it has single blanks.** -/
theorem standsAbove_iff_singleSpaced {c : AnnotatedChart} (hc : c ∈ annotatedCharts t) :
    StandsAbove t (selectionText c.code) c.place ↔ SingleSpaced t c := by
  obtain ⟨hcode, s₁, s₂, s₃, h₁, h₂, h₃, habove⟩ := exists_spaced_of_mem hc
  rw [selectionText_eq, comment_eq_spaced]
  constructor
  · intro hown z₁ z₂ z₃ k₁ k₂ k₃ hother
    exact eq_of_standsAbove hcode k₁ k₂ k₃ rfl rfl rfl hother hown
  · intro hsingle
    obtain ⟨rfl, rfl, rfl⟩ := hsingle s₁ s₂ s₃ h₁ h₂ h₃ habove
    exact habove

/-- **The annotator writes its comments with single blanks**: what has other white space
is of an author. -/
theorem singleSpaced_of_mem_annotations {a : Annotation} (ha : a ∈ annotations isWord content)
    (hc : a.chart ∈ annotatedCharts (annotateMermaidBlocks isWord content)) :
    SingleSpaced (annotateMermaidBlocks isWord content) a.chart :=
  (standsAbove_iff_singleSpaced hc).mp (standsAbove_of_mem_annotations ha)

/-! ### Comments of a content -/

theorem exists_cons_replaceFence {before : Text} (f : Fence) (close : Text) :
    ∃ x more, (x = '<' ∨ x = '`') ∧
      replaceFence isWord before (f.written close) f = ('\n' :: f.indent) ++ x :: more := by
  unfold replaceFence
  cases annotationOf isWord before f with
  | none => exact ⟨'`', _, .inr rfl, rfl⟩
  | some chartCode =>
    refine ⟨'<', "!-- chart: ".toList ++ chartCode ++ " -->".toList ++ f.written f.indent,
      .inl rfl, ?_⟩
    dsimp only
    rw [annotatedFence_eq]
    unfold comment
    simp only [List.append_assoc, List.cons_append]
    rfl

/-- Up to a bracket or a backtick, the annotated text begins as the text does. -/
theorem prefix_of_prefix_renderFrom {before : Text} (hopen : '<' ∉ v) (htick : '`' ∉ v)
    (h : v <+: Pattern.renderFrom (replaceFence isWord) before (mermaidFence.pieces t)) :
    v <+: t := by
  induction t using mermaidFence.induction generalizing v before with
  | nil => exact h
  | symbol a t hnone ih =>
    rw [Pattern.renderFrom_of_eq_none hnone] at h
    cases v with
    | nil => exact List.nil_prefix
    | cons b v =>
      obtain ⟨rfl, hpre⟩ := List.cons_prefix_cons.mp h
      have hlater := ih (List.not_mem_of_not_mem_cons hopen) (List.not_mem_of_not_mem_cons htick)
        hpre
      exact List.cons_prefix_cons.mpr ⟨rfl, hlater⟩
  | found t n f hsome ih =>
    obtain ⟨close, rest, hindent, -, hclose, rfl, rfl⟩ := mermaidFenceAt_eq_some_iff.mp hsome
    rw [Pattern.renderFrom_of_eq_some hsome, List.take_left] at h
    obtain ⟨x, more, hx, hreplace⟩ := @exists_cons_replaceFence isWord before f close
    have hnot : x ∉ v := by
      rcases hx with rfl | rfl
      · exact hopen
      · exact htick
    rw [hreplace, List.append_assoc] at h
    -- both begin with the line break and the indentation
    refine ((List.prefix_append_cons_iff hnot _ _).mp h).trans ?_
    rw [Fence.written, List.cons_append, List.append_assoc]
    exact List.cons_prefix_cons.mpr ⟨rfl, List.prefix_append _ _⟩

theorem Bracketed.ne_nil (h : Bracketed w) : w ≠ [] := by
  obtain ⟨v, rfl, -⟩ := h.head
  exact List.cons_ne_nil _ _

theorem Bracketed.infix_left {p q : Text} (h : Bracketed w) (hp : '<' ∉ p) (hin : w <:+: p ++ q) :
    w <:+: q := by
  obtain ⟨v, rfl, -⟩ := h.head
  exact List.infix_of_infix_append_left hp hin

theorem Bracketed.infix_right {p q : Text} (h : Bracketed w) (hq : '>' ∉ q)
    (hin : w <:+: p ++ q) : w <:+: p := by
  obtain ⟨u, rfl⟩ := h.last
  exact List.infix_of_infix_append_right hq hin

/-- **A bracketed text lies before a fence, in its body, or behind it.** -/
theorem Bracketed.infix_written (h : Bracketed w) {f : Fence} {close g X : Text}
    (hindent : ∀ c ∈ f.indent, isBlank c = true) (hclose : ∀ c ∈ close, isBlank c = true)
    (hin : w <:+: g ++ (f.written close ++ X)) : w <:+: g ∨ w <:+: f.body ∨ w <:+: X := by
  have heq : g ++ (f.written close ++ X) = (g ++ '\n' :: f.indent) ++ '`' ::
      ("``mermaid\n".toList ++ (f.body ++ '\n' :: (close ++ "``".toList)) ++ '`' :: X) := by
    unfold Fence.written opening
    simp only [List.append_assoc, List.cons_append]
    rfl
  have hline : ∀ {s : Text}, (∀ c ∈ s, isBlank c = true) → '>' ∉ '\n' :: s := fun hs =>
    List.not_mem_cons_of_ne_of_not_mem (by decide) (notMem_blanks hs rfl)
  -- no backtick can stand in it, and of its ends none in a line of the fence
  rw [heq, List.infix_append_cons_iff h.backtick, List.infix_append_cons_iff h.backtick] at hin
  rcases hin with hg | hbody | hX
  · exact .inl (h.infix_right (hline hindent) hg)
  · have hend : '>' ∉ '\n' :: (close ++ "``".toList) := by
      rw [← List.cons_append]
      exact List.not_mem_append (hline hclose) (by decide)
    exact .inr (.inl (h.infix_right hend (h.infix_left (by decide) hbody)))
  · exact .inr (.inr hX)

/-- **A bracketed text of an annotated text** stands in the text or in a comment of the
annotator. -/
theorem Bracketed.infix_renderFrom (h : Bracketed w) {i : ℕ} {before gap : Text}
    (hin : w <:+: Pattern.renderFrom (replaceFence isWord) before (mermaidFence.pieces t)) :
    w <:+: t ∨ ∃ a ∈ annotationsFrom isWord i before gap (mermaidFence.pieces t),
      w <:+: comment a.chartCode := by
  induction t using mermaidFence.induction generalizing i before gap with
  | nil => exact .inl hin
  | symbol a t hnone ih =>
    rw [Pattern.renderFrom_of_eq_none hnone] at hin
    rw [Pattern.pieces_of_eq_none hnone, annotationsFrom]
    rcases List.infix_cons_iff.mp hin with hpre | hin
    · -- what begins here goes on as the text does, before any further bracket
      obtain ⟨v, rfl, hopen⟩ := h.head
      obtain ⟨rfl, hpre⟩ := List.cons_prefix_cons.mp hpre
      have hv := prefix_of_prefix_renderFrom hopen (List.not_mem_of_not_mem_cons h.backtick) hpre
      exact .inl (List.cons_prefix_cons.mpr ⟨rfl, hv⟩).isInfix
    · rcases ih hin with ht | hann
      · exact .inl (ht.trans (List.suffix_cons a t).isInfix)
      · exact .inr hann
  | found t n f hsome ih =>
    obtain ⟨close, rest, hindent, -, hclose, rfl, rfl⟩ := mermaidFenceAt_eq_some_iff.mp hsome
    rw [List.drop_left] at ih
    rw [Pattern.renderFrom_of_eq_some hsome, List.take_left, List.drop_left, replaceFence] at hin
    rw [Pattern.pieces_of_eq_some hsome, List.take_left, List.drop_left, annotationsFrom]
    have hbody : f.body <:+: f.written close ++ rest := by
      refine ⟨'\n' :: (f.indent ++ opening), '\n' :: (close ++ "```".toList) ++ rest, ?_⟩
      unfold Fence.written
      simp only [List.append_assoc, List.cons_append]
    have hrest : rest <:+: f.written close ++ rest := (List.suffix_append _ _).isInfix
    cases hcode : annotationOf isWord before f with
    | none =>
      rw [hcode] at hin
      dsimp only at hin ⊢
      rcases h.infix_written (g := []) hindent hclose hin with hnil | hb | hr
      · exact absurd (List.infix_nil.mp hnil) h.ne_nil
      · exact .inl (hb.trans hbody)
      · exact (ih hr).imp_left fun hr => hr.trans hrest
    | some chartCode =>
      rw [hcode] at hin
      dsimp only at hin ⊢
      rw [annotatedFence_eq, List.append_assoc] at hin
      rcases h.infix_written hindent hindent hin with hline | hb | hr
      · -- above the fence stands the comment of the annotator
        have hblanks : '<' ∉ '\n' :: f.indent :=
          List.not_mem_cons_of_ne_of_not_mem (by decide) (notMem_blanks hindent rfl)
        rw [← List.cons_append] at hline
        exact .inr ⟨_, List.mem_cons_self, h.infix_left hblanks hline⟩
      · exact .inl (hb.trans hbody)
      · rcases ih hr with hr | ⟨a, ha, hcomment⟩
        · exact .inl (hr.trans hrest)
        · exact .inr ⟨a, List.mem_cons_of_mem _ ha, hcomment⟩

/-- **A bracketed text of an annotated content** is of the content or of the annotator. -/
theorem Bracketed.infix_annotateMermaidBlocks (h : Bracketed w)
    (hin : w <:+: annotateMermaidBlocks isWord content) :
    w <:+: content ∨ ∃ a ∈ annotations isWord content, w <:+: comment a.chartCode := by
  have hrender : w <:+: mermaidFence.subWith (replaceFence isWord) ('\n' :: content) := by
    rw [cons_annotateMermaidBlocks]
    exact hin.trans (List.suffix_cons _ _).isInfix
  rcases @Bracketed.infix_renderFrom isWord _ w h 0 [] [] hrender with hcontent | hann
  · exact .inl (@Bracketed.infix_left w ['\n'] content h (by decide) hcontent)
  · exact .inr hann

theorem bracketed_spaced (hcode : IsChartCode code) {s₁ s₂ s₃ : Text} (h₁ : s₁.all isSpace)
    (h₂ : s₂.all isSpace) (h₃ : s₃.all isSpace) : Bracketed (spaced s₁ s₂ s₃ code) := by
  obtain ⟨v, hv, hopen, htick⟩ := @exists_spaced_tail s₁ s₂ s₃ code [] h₁ h₂ h₃ rfl hcode.mem
  rw [List.append_nil] at hv
  refine ⟨⟨v, hv, hopen⟩, ⟨"<!--".toList ++ (s₁ ++ ("chart:".toList ++ (s₂ ++ (code ++
    (s₃ ++ "--".toList))))), ?_⟩, ?_⟩
  · unfold spaced
    simp only [List.append_assoc]
    rfl
  · rw [hv]
    exact List.not_mem_cons_of_ne_of_not_mem (by decide) htick

/-- **Of a tidy content, every chart is single-spaced.** -/
theorem singleSpaced_of_tidy (htidy : Tidy content) {c : AnnotatedChart}
    (hupgrade : c.code ∈ upgradeChartCodes) :
    SingleSpaced (annotateMermaidBlocks isWord content) c := by
  have hcode := isChartCode_of_mem_upgradeChartCodes hupgrade
  rintro s₁ s₂ s₃ h₁ h₂ h₃ ⟨u, gap, rest, htext, -, -⟩
  have hin : spaced s₁ s₂ s₃ c.code <:+: annotateMermaidBlocks isWord content := by
    rw [htext]
    exact List.infix_append' u _ _
  rcases (bracketed_spaced hcode h₁ h₂ h₃).infix_annotateMermaidBlocks hin with hin | ⟨a, ha, hin⟩
  · exact htidy c.code hupgrade s₁ s₂ s₃ h₁ h₂ h₃ hin
  · exact (eq_of_infix_comment hcode (comment_of_mem_annotations ha).2 h₁ h₂ h₃ hin).2

end

/-! ### The anchors -/

/-- A chart that is upgraded has its anchor exactly when its code is written or given
once, and its comment has single blanks. -/
theorem anchored_iff_singleSpaced {isWord : Char → Bool} {content : Text} {c : AnnotatedChart}
    (hc : c ∈ upgradableCharts (annotateMermaidBlocks isWord content)) :
    Anchored (annotateMermaidBlocks isWord content) c ↔
      occurrences c.code content + annotatedWith isWord content c.code = 1 ∧
        SingleSpaced (annotateMermaidBlocks isWord content) c := by
  obtain ⟨hmem, hupgrade⟩ := List.mem_filter.mp hc
  have hcode := isChartCode_of_mem_upgradeChartCodes (of_decide_eq_true hupgrade)
  rw [← occurrences_annotateMermaidBlocks hcode, ← standsAbove_iff_singleSpaced hmem]
  exact ⟨fun h => ⟨h.once, h.own⟩, fun h => ⟨h.1, h.2⟩⟩

/-- **Of a tidy content, the anchors are unambiguous exactly when** the code of every
chart that is upgraded is written in the content or given by the annotator once. -/
theorem anchored_iff_of_tidy {isWord : Char → Bool} {content : Text} (htidy : Tidy content) :
    (∀ c ∈ upgradableCharts (annotateMermaidBlocks isWord content),
        Anchored (annotateMermaidBlocks isWord content) c) ↔
      ∀ c ∈ upgradableCharts (annotateMermaidBlocks isWord content),
        occurrences c.code content + annotatedWith isWord content c.code = 1 := by
  refine forall₂_congr fun c hc => ?_
  rw [anchored_iff_singleSpaced hc, and_iff_left]
  exact singleSpaced_of_tidy htidy (of_decide_eq_true (List.mem_filter.mp hc).2)

/-- **The anchors are unambiguous exactly when**, for every chart that is upgraded, the
selection texts in the content and the fences the annotator gives its code are one
together, and its comment has single blanks. -/
theorem anchored_iff (isWord : Char → Bool) (content : Text) :
    (∀ c ∈ upgradableCharts (annotateMermaidBlocks isWord content),
        Anchored (annotateMermaidBlocks isWord content) c) ↔
      ∀ c ∈ upgradableCharts (annotateMermaidBlocks isWord content),
        occurrences c.code content + annotatedWith isWord content c.code = 1 ∧
          SingleSpaced (annotateMermaidBlocks isWord content) c :=
  forall₂_congr fun _ hc => anchored_iff_singleSpaced hc

/-- Two sequence diagrams. -/
def twoSequences : Text :=
  "```mermaid\nsequenceDiagram\n```\n\n```mermaid\nsequenceDiagram\n```\n".toList

/-- Both are upgraded, and the selection text of both stands above each of them. -/
theorem anchored_counterexample :
    extractUpgradableCharts (annotateMermaidBlocks asciiWord twoSequences) =
        [("D-SEQ".toList, "sequenceDiagram\n".toList),
          ("D-SEQ".toList, "sequenceDiagram\n".toList)] ∧
      occurrences "D-SEQ".toList (annotateMermaidBlocks asciiWord twoSequences) = 2 ∧
      ¬∀ c ∈ upgradableCharts (annotateMermaidBlocks asciiWord twoSequences),
        Anchored (annotateMermaidBlocks asciiWord twoSequences) c := by
  have hcharts : extractUpgradableCharts (annotateMermaidBlocks asciiWord twoSequences) =
      [("D-SEQ".toList, "sequenceDiagram\n".toList),
        ("D-SEQ".toList, "sequenceDiagram\n".toList)] := by
    decide +kernel
  have htwice : occurrences "D-SEQ".toList (annotateMermaidBlocks asciiWord twoSequences) = 2 := by
    decide +kernel
  refine ⟨hcharts, htwice, fun h => ?_⟩
  rw [extractUpgradableCharts_eq] at hcharts
  obtain ⟨c, hc, heq⟩ := List.mem_map.mp
    (hcharts ▸ List.mem_cons_self : ("D-SEQ".toList, _) ∈ List.map _ _)
  have honce := (h c hc).once
  rw [(Prod.mk.inj heq).1, htwice] at honce
  exact absurd honce (by decide)

end Docs
end Shrimp
