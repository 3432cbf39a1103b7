import Shrimp.Lib.Count
import Shrimp.Docs.Slots

/-!
# The count of unfilled figures (`doc_output/doc_output.py`)

A figure that is still to be drawn is marked by a sentinel, and what is left to do is
the number of sentinels in the document.  A document without one is counted by the
sentinel of an earlier version.

## Main definitions

* `countUnfilledDiagrams` — `count_unfilled_diagrams`.
* `diagramsFilled` — the gate condition of that name.

## Main results

* `count_mermaidStub` — a placeholder figure counts once.
* `count_annotated` — what the annotator adds to the count of a text.
* `count_annotateMermaidBlocks` — **the annotator does not change what is counted.**
-/

namespace Shrimp
namespace Docs

/-- `_LEGACY_DIAGRAM_SENTINEL`. -/
def legacySentinel : Text := "%% PLACEHOLDER".toList

/-- What `content.count` counts, for the sentinel and for the earlier one. -/
def newSentinels : Pattern Char Unit := Pattern.literal sentinel (by decide +kernel)

def legacySentinels : Pattern Char Unit := Pattern.literal legacySentinel (by decide +kernel)

/-- `count_unfilled_diagrams`. -/
def countUnfilledDiagrams (content : Text) : ℕ :=
  if content = [] then 0
  else
    let newCount := newSentinels.count content
    if 0 < newCount then newCount else legacySentinels.count content

/-- `gate_conditions.diagrams_filled` of `_generate_output`. -/
def diagramsFilled (content : Text) : Bool := countUnfilledDiagrams content = 0

section

variable {t s : Text}

theorem countUnfilledDiagrams_eq (t : Text) : countUnfilledDiagrams t =
    if 0 < newSentinels.count t then newSentinels.count t else legacySentinels.count t := by
  unfold countUnfilledDiagrams
  split
  · next hnil =>
    rw [hnil]
    rfl
  · rfl

theorem count_append_of_plain (h : '%' ∉ s) (t : Text) :
    newSentinels.count (s ++ t) = newSentinels.count t :=
  Pattern.count_literal_append_of_notMem h t

theorem count_sentinel (t : Text) :
    newSentinels.count (sentinel ++ t) = newSentinels.count t + 1 :=
  Pattern.count_literal_append t

theorem count_eq_zero_of_plain (h : '%' ∉ t) :
    newSentinels.count t = 0 ∧ legacySentinels.count t = 0 :=
  ⟨Pattern.count_literal_eq_zero (by decide +kernel) h,
    Pattern.count_literal_eq_zero (by decide +kernel) h⟩

/-! ### Placeholder figures -/

/-- **A placeholder figure counts once.** -/
theorem count_mermaidStub {code : Text} (h : '%' ∉ code) (t : Text) :
    newSentinels.count (mermaidStub code ++ t) = newSentinels.count t + 1 := by
  unfold mermaidStub
  repeat rw [List.append_assoc]
  rw [count_append_of_plain (by decide), count_sentinel, count_append_of_plain (by decide),
    count_append_of_plain h, count_append_of_plain (by decide +kernel), count_append_of_plain h,
    count_append_of_plain (by decide +kernel)]

theorem count_diagramStub {code : Text} (h : '%' ∉ code) (t : Text) :
    newSentinels.count (diagramStub code ++ t) = newSentinels.count t + 1 := by
  have hcode : '%' ∉ (if code = [] then "GENERIC".toList else code) := by
    split
    · decide
    · exact h
  unfold diagramStub
  dsimp only
  repeat rw [List.append_assoc]
  rw [count_append_of_plain (by decide +kernel), count_append_of_plain hcode,
    count_append_of_plain (by decide +kernel), count_mermaidStub hcode]

theorem count_multiDiagramStub (t : Text) :
    newSentinels.count (multiDiagramStub ++ t) = newSentinels.count t + 2 := by
  unfold multiDiagramStub
  repeat rw [List.append_assoc]
  rw [count_append_of_plain (by decide +kernel), count_mermaidStub (by decide),
    count_append_of_plain (by decide), count_mermaidStub (by decide)]

/-! ### Behind the annotator -/

variable {old : Text} {hold : old ≠ []} {d : Char}

/-- A text that no line of a fence around its body has a part in. -/
structure Apart (old : Text) (d : Char) : Prop where
  line_break : '\n' ∉ old
  backtick : '`' ∉ old
  mem : d ∈ old
  not_blank : isBlank d = false
  notMem : d ∉ "``mermaid".toList

/-- A character of a text that no line of a fence around its body has. -/
structure Foreign (old : Text) (d : Char) : Prop where
  line_break : '\n' ∉ old
  backtick : '`' ∉ old
  mem : d ∈ old
  not_blank : isBlank d = false
  not_upper : isUpper d = false
  notMem : d ∉ "``mermaid<!-- chart: D- -->".toList

theorem Foreign.apart (h : Foreign old d) : Apart old d where
  line_break := h.line_break
  backtick := h.backtick
  mem := h.mem
  not_blank := h.not_blank
  notMem hmem := h.notMem (List.mem_append_left _ hmem)

theorem notMem_blanks {c : Char} (hs : ∀ c ∈ s, isBlank c = true) (hc : isBlank c = false) :
    c ∉ s := by
  intro hmem
  rw [hs c hmem] at hc
  cases hc

theorem Apart.notMem_blanks (h : Apart old d) (hs : ∀ c ∈ s, isBlank c = true) : d ∉ s :=
  Docs.notMem_blanks hs h.not_blank

/-- How often a text stands in the comment lines of annotated fences. -/
def countInComments (old : Text) (hold : old ≠ []) (as : List Annotation) : ℕ :=
  (as.map fun a => (Pattern.literal old hold).count (a.fence.indent ++ comment a.chartCode)).sum

theorem countInComments_cons (a : Annotation) (as : List Annotation) :
    countInComments old hold (a :: as) =
      (Pattern.literal old hold).count (a.fence.indent ++ comment a.chartCode) +
        countInComments old hold as :=
  List.sum_cons

/-- **What a fence in a text counts** is what its body counts. -/
theorem count_written (h : Apart old d) {f : Fence} {close : Text}
    (hindent : ∀ c ∈ f.indent, isBlank c = true) (hclose : ∀ c ∈ close, isBlank c = true)
    (g X : Text) : (Pattern.literal old hold).count (g ++ (f.written close ++ X)) =
      (Pattern.literal old hold).count g + (Pattern.literal old hold).count f.body +
        (Pattern.literal old hold).count X := by
  have hname : ∀ s : Text, s ⊆ "``mermaid".toList → d ∉ s := fun s hs hmem => h.notMem (hs hmem)
  have hfirst : d ∉ f.indent ++ "```mermaid".toList :=
    List.not_mem_append (h.notMem_blanks hindent) (hname _ (by decide))
  have hlast : d ∉ close ++ "``".toList :=
    List.not_mem_append (h.notMem_blanks hclose) (hname _ (by decide))
  have heq : f.written close ++ X = '\n' :: ((f.indent ++ "```mermaid".toList) ++
      '\n' :: (f.body ++ '\n' :: ((close ++ "``".toList) ++ '`' :: X))) := by
    rw [Fence.written, opening_append]
    simp only [List.cons_append, List.append_assoc]
    rfl
  -- neither a line break nor a backtick can stand in what is counted
  rw [heq, Pattern.count_literal_append_cons h.line_break,
    Pattern.count_literal_append_cons h.line_break, Pattern.count_literal_append_cons h.line_break,
    Pattern.count_literal_append_cons h.backtick, Pattern.count_literal_eq_zero h.mem hfirst,
    Pattern.count_literal_eq_zero h.mem hlast]
  omega

/-- An annotated fence counts what its body and the comment line above it count. -/
theorem count_annotatedFence (h : Apart old d) {f : Fence} (chartCode : Text)
    (hindent : ∀ c ∈ f.indent, isBlank c = true) (g X : Text) :
    (Pattern.literal old hold).count (g ++ (annotatedFence chartCode f ++ X)) =
      (Pattern.literal old hold).count g +
        (Pattern.literal old hold).count (f.indent ++ comment chartCode) +
        (Pattern.literal old hold).count f.body + (Pattern.literal old hold).count X := by
  rw [annotatedFence_eq, List.append_assoc, ← List.append_assoc g, count_written h hindent hindent,
    Pattern.count_literal_append_cons h.line_break]

/-- **What the annotator adds to a count**, behind every text before the place where a
scan stands. -/
theorem count_renderFrom (h : Apart old d) (isWord : Char → Bool) (i : ℕ)
    (t g before gap : Text) :
    (Pattern.literal old hold).count
        (g ++ Pattern.renderFrom (replaceFence isWord) before (mermaidFence.pieces t)) =
      (Pattern.literal old hold).count (g ++ t) +
        countInComments old hold (annotationsFrom isWord i before gap (mermaidFence.pieces t)) := by
  induction t using mermaidFence.induction generalizing i g before gap with
  | nil => rfl
  | symbol a t hnone ih =>
    have hg := ih (i + 1) (g ++ [a]) (before ++ [a]) (gap ++ [a])
    rw [Pattern.renderFrom_of_eq_none hnone, Pattern.pieces_of_eq_none hnone, annotationsFrom]
    simpa only [List.append_assoc, List.singleton_append] using hg
  | found t n f hsome ih =>
    obtain ⟨close, rest, hindent, -, hclose, rfl, rfl⟩ := mermaidFenceAt_eq_some_iff.mp hsome
    rw [List.drop_left] at ih
    rw [Pattern.renderFrom_of_eq_some hsome, Pattern.pieces_of_eq_some hsome, List.take_left,
      List.drop_left, count_written h hindent hclose, replaceFence, annotationsFrom]
    cases annotationOf isWord before f with
    | none =>
      have hrest := ih (i + (f.written close).length) [] (before ++ f.written close)
        (gap ++ f.written close)
      rw [List.nil_append, List.nil_append] at hrest
      dsimp only
      rw [count_written h hindent hclose, hrest]
      omega
    | some chartCode =>
      have hrest := ih (i + (annotatedFence chartCode f).length) [] (before ++ f.written close) []
      rw [List.nil_append, List.nil_append] at hrest
      dsimp only
      rw [count_annotatedFence h chartCode hindent, hrest, countInComments_cons]
      dsimp only
      omega

/-- **Annotated, a content counts what it counts and what the new comments count.** -/
theorem count_annotated (h : Apart old d) (isWord : Char → Bool) (content : Text) :
    (Pattern.literal old hold).count (annotateMermaidBlocks isWord content) =
      (Pattern.literal old hold).count content +
        countInComments old hold (annotations isWord content) := by
  have hcut : ∀ t, (Pattern.literal old hold).count ('\n' :: t) =
      (Pattern.literal old hold).count t := by
    intro t
    have hnil := @Pattern.count_literal_append_cons Char _ old hold '\n' h.line_break [] t
    rwa [List.nil_append, Pattern.count_nil, Nat.zero_add] at hnil
  have hrender := @count_renderFrom old hold d h isWord 0 ('\n' :: content) [] [] []
  rw [← hcut, ← cons_annotateMermaidBlocks, Pattern.subWith]
  rw [List.nil_append, List.nil_append, hcut content] at hrender
  exact hrender

/-- An annotated fence is a fence of the text, annotated with its code. -/
theorem exists_found_of_mem_annotationsFrom {isWord : Char → Bool} {i : ℕ} {before gap : Text}
    {ps : List (Piece Char Fence)} {a : Annotation}
    (ha : a ∈ annotationsFrom isWord i before gap ps) :
    ∃ s before', .found s a.fence ∈ ps ∧
      annotationOf isWord before' a.fence = some a.chartCode := by
  induction ps generalizing i before gap with
  | nil => cases ha
  | cons piece ps ih =>
    have hlater : ∀ {j : ℕ} {v w : Text}, a ∈ annotationsFrom isWord j v w ps →
        ∃ s before', .found s a.fence ∈ piece :: ps ∧
          annotationOf isWord before' a.fence = some a.chartCode := by
      intro j v w hmem
      obtain ⟨s, before', hfound, hcode⟩ := ih hmem
      exact ⟨s, before', List.mem_cons_of_mem _ hfound, hcode⟩
    cases piece with
    | symbol c => exact hlater ha
    | found s f =>
      rw [annotationsFrom] at ha
      split at ha
      · exact hlater ha
      · next hcode =>
        rcases List.mem_cons.mp ha with rfl | ha
        · exact ⟨s, before, List.mem_cons_self, hcode⟩
        · exact hlater ha

/-- The comment of an annotated fence: blanks, and a code of the classifier. -/
theorem comment_of_mem_annotations {isWord : Char → Bool} {content : Text} {a : Annotation}
    (ha : a ∈ annotations isWord content) :
    (∀ c ∈ a.fence.indent, isBlank c = true) ∧ IsChartCode a.chartCode := by
  obtain ⟨s, before, hfound, hcode⟩ := exists_found_of_mem_annotationsFrom ha
  exact ⟨(foundFence_of_mem_pieces hfound).1, isChartCode_of_annotationOf hcode⟩

theorem Foreign.countInComments_eq_zero (h : Foreign old d) (isWord : Char → Bool)
    (content : Text) : countInComments old hold (annotations isWord content) = 0 := by
  refine List.sum_eq_zero_iff_forall_eq_nat.mpr fun n hn => ?_
  obtain ⟨a, ha, rfl⟩ := List.mem_map.mp hn
  obtain ⟨hindent, letters, hletters, -, hupper⟩ := comment_of_mem_annotations ha
  have hname : ∀ s : Text, s ⊆ "``mermaid<!-- chart: D- -->".toList → d ∉ s :=
    fun s hs hmem => h.notMem (hs hmem)
  have hcode : d ∉ letters := by
    intro hmem
    have hd := hupper d hmem
    rw [h.not_upper] at hd
    cases hd
  refine Pattern.count_literal_eq_zero h.mem ?_
  rw [hletters]
  exact List.not_mem_append (h.apart.notMem_blanks hindent) (List.not_mem_append
    (List.not_mem_append (hname _ (by decide)) (List.not_mem_append (hname _ (by decide)) hcode))
    (hname _ (by decide)))

/-- **The annotator does not change what is counted.** -/
theorem count_annotateMermaidBlocks (h : Foreign old d) (isWord : Char → Bool) (content : Text) :
    (Pattern.literal old hold).count (annotateMermaidBlocks isWord content) =
      (Pattern.literal old hold).count content := by
  rw [count_annotated h.apart, h.countInComments_eq_zero, Nat.add_zero]

theorem countUnfilledDiagrams_annotateMermaidBlocks (isWord : Char → Bool) (content : Text) :
    countUnfilledDiagrams (annotateMermaidBlocks isWord content) =
      countUnfilledDiagrams content := by
  have hnew : Foreign sentinel '%' := by constructor <;> decide +kernel
  have hlegacy : Foreign legacySentinel '%' := by constructor <;> decide +kernel
  rw [countUnfilledDiagrams_eq, countUnfilledDiagrams_eq]
  unfold newSentinels legacySentinels
  rw [count_annotateMermaidBlocks hnew, count_annotateMermaidBlocks hlegacy]

theorem lbrace_notMem_annotateMermaidBlocks (isWord : Char → Bool) {content : Text}
    (h : '{' ∉ content) : '{' ∉ annotateMermaidBlocks isWord content := by
  have hbrace : Foreign ['{'] '{' := by constructor <;> decide
  have hzero :=
    @count_annotateMermaidBlocks ['{'] (List.cons_ne_nil _ _) '{' hbrace isWord content
  rw [Pattern.count_literal_eq_zero List.mem_cons_self h, Pattern.count_eq_zero_iff,
    Pattern.occurs_literal_iff, List.singleton_infix_iff] at hzero
  exact hzero

end

end Docs
end Shrimp
