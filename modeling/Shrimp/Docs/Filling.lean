import Mathlib.Algebra.Order.BigOperators.Group.List
import Shrimp.Docs.Unfilled
import Shrimp.Lib.Run

/-!
# Filling the placeholder figures (`doc_output/doc_output.py`)

The caller replaces the sentinel lines of a document by figures, one after another, and
counts again what is left.  The count looks for the sentinel of an earlier version once
no new one is left: what it then finds in the text of the document is counted as unfilled,
and no filling takes it away.

## Main definitions

* `Line`, `document` — a document, with the sentinel lines in it marked.
* `filling` — filling one of them after another.
* `DrivenToZero` — every filling lowers the count by one, and the last leaves nothing.
* `Unmarked` — neither sentinel stands in the text of the document.

## Main results

* `count_document` — what a document counts.
* `exists_run_filled` — the figures can all be filled.
* `drivenToZero_iff` — **filling drives the count to zero exactly when neither sentinel
  stands in the text.**
-/

namespace Shrimp
namespace Docs

/-- The code of a placeholder figure. -/
structure StubCode where
  text : Text
  plain : '%' ∉ text

/-- The sentinel line of a placeholder figure. -/
def StubCode.line (code : StubCode) : Text :=
  sentinel ++ " ".toList ++ code.text ++ " — 调用方按 §0.4 ".toList ++ code.text ++
    " 骨架替换".toList

/-- What is filled in: it contains no sentinel. -/
structure Figure where
  text : Text
  no_sentinel : ¬sentinel <:+: text
  no_legacy : ¬legacySentinel <:+: text

/-- A stretch of lines of a document. -/
inductive Line
  /-- Whatever the document contains. -/
  | text (t : Text)
  | stub (code : StubCode)
  | filled (figure : Figure)

namespace Line

/-- How it stands in the document. -/
def written : Line → Text
  | text t => t
  | stub code => code.line
  | filled figure => figure.text

def isStub : Line → Bool
  | stub _ => true
  | _ => false

end Line

/-- **The document.** -/
def document (lines : List Line) : Text := ['\n'].intercalate (lines.map Line.written)

/-- The number of figures to fill. -/
def stubs (lines : List Line) : ℕ := lines.countP Line.isStub

/-- Filling the placeholder figures one after another, in any order. -/
def filling (lines : List Line) : Lts (List Line) Figure where
  start := (· = lines)
  step before figure after := ∃ earlier code later,
    before = earlier ++ .stub code :: later ∧ after = earlier ++ .filled figure :: later

/-- **Filling drives the count to zero**: it decreases by one at each step, and is zero
when no placeholder figure is left. -/
structure DrivenToZero (lines : List Line) : Prop where
  decreases : ∀ tr after, (filling lines).Run tr after → ∀ m ∈ tr,
    countUnfilledDiagrams (document m.post) + 1 = countUnfilledDiagrams (document m.pre)
  zero : ∀ tr after, (filling lines).Run tr after → stubs after = 0 →
    countUnfilledDiagrams (document after) = 0

/-- The document is one that the engine renders. -/
def Rendered (lines : List Line) : Prop :=
  ∃ (e : Engine) (isWord : Char → Bool) (annotateMermaid : Bool) (day : Date) (template : Text),
    document lines = e.render isWord annotateMermaid day template

/-- Neither sentinel stands in the text of a document. -/
def Unmarked (lines : List Line) : Prop :=
  ∀ t, .text t ∈ lines → ¬sentinel <:+: t ∧ ¬legacySentinel <:+: t

/-! ### What a document counts -/

section

variable {old : Text} {hold : old ≠ []} {lines : List Line}

theorem count_intercalate (h : '\n' ∉ old) (ts : List Text) :
    (Pattern.literal old hold).count (['\n'].intercalate ts) =
      (ts.map (Pattern.literal old hold).count).sum := by
  induction ts with
  | nil => rfl
  | cons t ts ih =>
    cases ts with
    | nil => rw [List.intercalate_singleton, List.map_singleton, List.sum_singleton]
    | cons u ts =>
      rw [List.intercalate_cons_cons, List.append_assoc, List.singleton_append,
        Pattern.count_literal_append_cons h, ih, List.map_cons (l := u :: ts), List.sum_cons]

theorem count_literal_eq_zero_iff {t : Text} :
    (Pattern.literal old hold).count t = 0 ↔ ¬old <:+: t := by
  rw [Pattern.count_eq_zero_iff, Pattern.occurs_literal_iff]

end

section

variable {lines : List Line}

theorem StubCode.count_line (code : StubCode) : newSentinels.count code.line = 1 := by
  have hrest : '%' ∉ " ".toList ++ (code.text ++ (" — 调用方按 §0.4 ".toList ++ (code.text ++
      " 骨架替换".toList))) :=
    List.not_mem_append (by decide) (List.not_mem_append code.plain (List.not_mem_append
      (by decide +kernel) (List.not_mem_append code.plain (by decide +kernel))))
  unfold line
  repeat rw [List.append_assoc]
  rw [count_sentinel, (count_eq_zero_of_plain hrest).1]

/-- The sentinels in the text of a stretch. -/
def Line.marks : Line → ℕ
  | text t => newSentinels.count t
  | _ => 0

theorem Line.count_written (l : Line) :
    newSentinels.count l.written = (if l.isStub then 1 else 0) + l.marks := by
  cases l with
  | text t => exact (Nat.zero_add _).symm
  | stub code => exact code.count_line
  | filled figure => exact count_literal_eq_zero_iff.mpr figure.no_sentinel

/-- **What a document counts**: the figures to fill, and the sentinels in its text. -/
theorem count_document (lines : List Line) :
    newSentinels.count (document lines) = stubs lines + (lines.map Line.marks).sum := by
  have hlines : newSentinels.count (document lines) =
      ((lines.map Line.written).map newSentinels.count).sum :=
    count_intercalate (by decide +kernel) _
  rw [hlines]
  clear hlines
  induction lines with
  | nil => rfl
  | cons l lines ih =>
    rw [List.map_cons, List.map_cons, List.sum_cons, List.map_cons, List.sum_cons, ih,
      l.count_written, stubs, stubs, List.countP_cons]
    omega

theorem mem_of_stubs_eq_zero (h : stubs lines = 0) {l : Line} (hl : l ∈ lines) :
    (∃ t, l = .text t) ∨ ∃ figure, l = .filled figure := by
  have hnot := List.countP_eq_zero.mp h l hl
  cases l with
  | text t => exact .inl ⟨t, rfl⟩
  | stub code => exact absurd rfl hnot
  | filled figure => exact .inr ⟨figure, rfl⟩

/-- **Where neither sentinel stands in the text, what is counted is what is left.** -/
theorem countUnfilledDiagrams_document (h : Unmarked lines) :
    countUnfilledDiagrams (document lines) = stubs lines := by
  have hmarks : (lines.map Line.marks).sum = 0 := by
    refine List.sum_eq_zero_iff.mpr fun n hn => ?_
    obtain ⟨l, hl, rfl⟩ := List.mem_map.mp hn
    cases l with
    | text t => exact count_literal_eq_zero_iff.mpr (h t hl).1
    | stub code => rfl
    | filled figure => rfl
  rw [countUnfilledDiagrams_eq, count_document, hmarks, Nat.add_zero]
  split
  · rfl
  -- no new sentinel: the old one counts, and neither a filled figure nor the text has it
  · next hzero =>
    have hstubs : stubs lines = 0 := by omega
    have hlegacy : legacySentinels.count (document lines) = 0 := by
      refine (count_intercalate (by decide +kernel) _).trans (List.sum_eq_zero_iff.mpr ?_)
      intro n hn
      obtain ⟨t, ht, rfl⟩ := List.mem_map.mp hn
      obtain ⟨l, hl, rfl⟩ := List.mem_map.mp ht
      rcases mem_of_stubs_eq_zero hstubs hl with ⟨t, rfl⟩ | ⟨figure, rfl⟩
      · exact count_literal_eq_zero_iff.mpr (h t hl).2
      · exact count_literal_eq_zero_iff.mpr figure.no_legacy
    rw [hlegacy, hstubs]

/-- A document that counts nothing has no sentinel in its text. -/
theorem unmarked_of_count_eq_zero (h : countUnfilledDiagrams (document lines) = 0) :
    Unmarked lines := by
  rw [countUnfilledDiagrams_eq] at h
  split at h
  · omega
  · next hnew =>
    -- the text lines contribute nothing to either count, so that neither sentinel is in them
    have hzero : ∀ (old : Text) (hold : old ≠ []), '\n' ∉ old →
        (Pattern.literal old hold).count (document lines) = 0 →
        ∀ t, .text t ∈ lines → ¬old <:+: t := by
      intro old hold hbreak hcount t ht
      rw [document, count_intercalate hbreak, List.sum_eq_zero_iff] at hcount
      exact count_literal_eq_zero_iff.mp (hcount _ (List.mem_map_of_mem
        (List.mem_map_of_mem ht)))
    intro t ht
    exact ⟨hzero sentinel (by decide +kernel) (by decide +kernel) (Nat.eq_zero_of_not_pos hnew) t
        ht,
      hzero legacySentinel (by decide +kernel) (by decide +kernel) h t ht⟩

/-! ### Filling -/

theorem unmarked_step_iff {before after : List Line} {figure : Figure}
    (h : (filling lines).step before figure after) : Unmarked after ↔ Unmarked before := by
  obtain ⟨earlier, code, later, rfl, rfl⟩ := h
  simp [Unmarked]

theorem stubs_step {before after : List Line} {figure : Figure}
    (h : (filling lines).step before figure after) : stubs after + 1 = stubs before := by
  obtain ⟨earlier, code, later, rfl, rfl⟩ := h
  simp only [stubs, List.countP_append, List.countP_cons, Line.isStub, if_true, Bool.false_eq_true,
    if_false]
  omega

theorem unmarked_run_iff {tr : List (Lts.Move (List Line) Figure)} {after : List Line}
    (h : (filling lines).Run tr after) : Unmarked after ↔ Unmarked lines := by
  refine h.invariant (I := fun _ after => Unmarked after ↔ Unmarked lines) ?_ ?_
  · rintro c rfl
    rfl
  · intro tr c e c' _ hI hstep
    rw [unmarked_step_iff hstep, hI]

/-- **The figures can all be filled**, from wherever a run has come to. -/
theorem exists_run_filled {tr : List (Lts.Move (List Line) Figure)} {c : List Line}
    (h : (filling lines).Run tr c) :
    ∃ tr' after, (filling lines).Run tr' after ∧ stubs after = 0 := by
  induction hn : stubs c generalizing tr c with
  | zero => exact ⟨tr, c, h, hn⟩
  | succ n ih =>
    obtain ⟨l, hl, hstub⟩ := List.countP_pos_iff.mp (show 0 < stubs c by omega)
    cases l with
    | text t => cases hstub
    | filled figure => cases hstub
    -- a stub that is left is filled with an empty figure, which leaves one stub less
    | stub code =>
      obtain ⟨earlier, later, rfl⟩ := List.append_of_mem hl
      let figure : Figure := ⟨[], by decide +kernel, by decide +kernel⟩
      have hstep : (filling lines).step (earlier ++ .stub code :: later) figure
          (earlier ++ .filled figure :: later) := ⟨earlier, code, later, rfl, rfl⟩
      have hone := stubs_step hstep
      exact ih (h.snoc hstep) (by omega)

/-- **Filling drives the count to zero exactly when neither sentinel stands in the
text.** -/
theorem drivenToZero_iff (lines : List Line) : DrivenToZero lines ↔ Unmarked lines := by
  constructor
  · intro h
    obtain ⟨tr, after, hrun, hstubs⟩ :=
      exists_run_filled (.start rfl : (filling lines).Run [] lines)
    exact (unmarked_run_iff hrun).mp (unmarked_of_count_eq_zero (h.zero tr after hrun hstubs))
  · intro h
    refine ⟨fun tr after hrun m hm => ?_, fun tr after hrun hstubs => ?_⟩
    · obtain ⟨tr', hpre⟩ := hrun.step_of_mem hm
      have hbefore := (unmarked_run_iff hpre.1).mpr h
      have hafter := (unmarked_step_iff hpre.2).mpr hbefore
      rw [countUnfilledDiagrams_document hbefore, countUnfilledDiagrams_document hafter]
      exact stubs_step hpre.2
    · rw [countUnfilledDiagrams_document ((unmarked_run_iff hrun).mpr h), hstubs]

end

/-- An overview that explains the earlier sentinel, and a figure to draw. -/
def legacyNote : List Line := [
  .text "Old documents have %% PLACEHOLDER lines.".toList,
  .text "<!-- TODO: 补 GENERIC mermaid 图; 骨架见 TEMPLATES.md §0.4 -->".toList,
  .text "```mermaid".toList,
  .stub ⟨"GENERIC".toList, by decide⟩,
  .text "```".toList]

/-- **A document that mentions the earlier sentinel**: one figure is still counted when
its only figure is drawn. -/
theorem drivenToZero_counterexample :
    ¬∀ lines : List Line, Rendered lines → 1 ≤ stubs lines → DrivenToZero lines := by
  intro hall
  -- the text is what the engine makes of a plain content with an old sentinel in its prose
  have hrendered : Rendered legacyNote := by
    refine ⟨⟨"design_doc".toList, "Old documents have %% PLACEHOLDER lines.".toList, ∅, []⟩,
      asciiWord, true, ⟨2026, 1, 1⟩,
      placeholder "overview".toList ++ "\n".toList ++ placeholder "include_diagram".toList, ?_⟩
    decide +kernel
  have h := hall legacyNote hrendered (by decide +kernel)
  -- filling the one stub leaves the old sentinel as the only one, and it is counted
  let figure : Figure := ⟨"graph TD".toList, by decide +kernel, by decide +kernel⟩
  have hstep : (filling legacyNote).step legacyNote figure
      (legacyNote.take 3 ++ .filled figure :: legacyNote.drop 4) :=
    ⟨legacyNote.take 3, ⟨"GENERIC".toList, by decide⟩, legacyNote.drop 4, rfl, rfl⟩
  have hzero := h.zero _ _ (.snoc (.start rfl) hstep) (by decide +kernel)
  revert hzero
  decide +kernel

end Docs
end Shrimp
