import Shrimp.Docs.Mermaid

/-!
# Texts and their lines

`str.splitlines` ends a line at many characters, the line break among them; a regular
expression with `re.MULTILINE` begins one behind a line break only.  A text of lines
that are joined by line breaks, and in which no other boundary stands, is cut into the
same lines by both.

## Main definitions

* `splitlinesKeepends`, `splitlines` — `str.splitlines`, with and without the boundaries.
* `joined` — lines, joined by line breaks.
* `searchLines` — `re.search` for a pattern that begins at the beginning of a line.

## Main results

* `splitlinesKeepends_joined_cons` — a text of lines is cut into them.
* `splitlines_append_break` — a line break cuts the lines of a text in two.
* `searchLines_append` — a search goes from line to line.
* `suffix_joined` — where a line break stands in a text of lines.
-/

namespace Shrimp
namespace Docs

/-- The characters at which `str.splitlines` ends a line. -/
def isLineBoundary (c : Char) : Bool :=
  (0x0a ≤ c.val && c.val ≤ 0x0d) || (0x1c ≤ c.val && c.val ≤ 0x1e) || c.val == 0x85 ||
    c.val == 0x2028 || c.val == 0x2029

/-- A line ends at a character: a carriage return and the line feed behind it are one
boundary. -/
def endsLine (c : Char) (t : Text) : Bool :=
  isLineBoundary c && !(c = '\r' && t.head? = some '\n')

/-- `str.splitlines(keepends=True)`. -/
def splitlinesKeepends : Text → List Text
  | [] => []
  | c :: t =>
    if endsLine c t then [c] :: splitlinesKeepends t
    else match splitlinesKeepends t with
      | [] => [[c]]
      | l :: ls => (c :: l) :: ls

/-- `str.splitlines()`. -/
def splitlines : Text → List Text
  | [] => []
  | c :: t =>
    if endsLine c t then [] :: splitlines t
    else if isLineBoundary c then splitlines t
    else match splitlines t with
      | [] => [[c]]
      | l :: ls => (c :: l) :: ls

/-- A text in which no line ends. -/
def IsLine (l : Text) : Prop := ∀ c ∈ l, isLineBoundary c = false

instance (l : Text) : Decidable (IsLine l) :=
  inferInstanceAs (Decidable (∀ c ∈ l, isLineBoundary c = false))

/-- Lines, joined by line breaks. -/
def joined (ls : List Text) : Text := ['\n'].intercalate ls

/-- `re.search` for a pattern that begins at the beginning of a line; the flag says
whether the text does. -/
def searchLines {β : Type} (p : Text → Option β) : Bool → Text → Option β
  | atStart, [] => if atStart then p [] else none
  | atStart, c :: t => (if atStart then p (c :: t) else none).or (searchLines p (c = '\n') t)

theorem isSpace_of_isLineBoundary {c : Char} (h : isLineBoundary c = true) : isSpace c = true := by
  simp only [isLineBoundary, Bool.or_eq_true, Bool.and_eq_true, decide_eq_true_eq] at h
  simp only [isSpace, Bool.or_eq_true, Bool.and_eq_true, decide_eq_true_eq]
  rcases h with (((⟨h₁, h₂⟩ | ⟨h₁, h₂⟩) | h) | h) | h
  · have h₁' : 0x09 ≤ c.val := UInt32.le_trans (show (0x09 : UInt32) ≤ 0x0a by decide) h₁
    simp [h₁', h₂]
  · have h₂' : c.val ≤ 0x20 := UInt32.le_trans h₂ (show (0x1e : UInt32) ≤ 0x20 by decide)
    simp [h₁, h₂']
  · simp [h]
  · simp [h]
  · simp [h]

section

variable {l t : Text} {ls : List Text}

theorem IsLine.break_notMem (h : IsLine l) : '\n' ∉ l := fun hmem => by
  have hend := h _ hmem
  revert hend
  decide

theorem IsLine.suffix {u : Text} (h : IsLine l) (hu : u <:+ l) : IsLine u :=
  fun c hc => h c (hu.subset hc)

theorem takeWhile_line (h : '\n' ∉ l) (t : Text) :
    (l ++ '\n' :: t).takeWhile (· ≠ '\n') = l ∧
      (l ++ '\n' :: t).dropWhile (· ≠ '\n') = '\n' :: t := by
  have hall : ∀ c ∈ l, decide (c ≠ '\n') = true := by
    intro c hc
    refine decide_eq_true ?_
    rintro rfl
    exact h hc
  refine ⟨?_, ?_⟩
  · rw [List.takeWhile_append_cons (by decide), List.takeWhile_eq_self_iff.mpr hall]
  · rw [List.dropWhile_append_cons (by decide), List.dropWhile_eq_nil_iff.mpr hall,
      List.nil_append]

@[simp] theorem joined_singleton (l : Text) : joined [l] = l := List.intercalate_singleton

theorem joined_cons (l : Text) (h : ls ≠ []) : joined (l :: ls) = l ++ '\n' :: joined ls := by
  obtain ⟨l', ls, rfl⟩ := List.exists_cons_of_ne_nil h
  rw [joined, List.intercalate_cons_cons, List.append_assoc, List.singleton_append, joined]

theorem prefix_joined (l : Text) (ls : List Text) : l <+: joined (l :: ls) := by
  by_cases hnil : ls = []
  · rw [hnil, joined_singleton]
  · rw [joined_cons l hnil]
    exact List.prefix_append _ _

theorem joined_append {ls' : List Text} (h : ls ≠ []) (h' : ls' ≠ []) :
    joined (ls ++ ls') = joined ls ++ '\n' :: joined ls' := by
  induction ls with
  | nil => exact absurd rfl h
  | cons l ls ih =>
    by_cases hnil : ls = []
    · rw [hnil, List.singleton_append, joined_cons l h', joined_singleton]
    · rw [List.cons_append, joined_cons l (by simp [h']), ih hnil, joined_cons l hnil,
        List.append_assoc, List.cons_append]

theorem joined_cons_eq (l : Text) (ls : List Text) :
    joined (l :: ls) = (l ++ '\n' :: (ls.map (· ++ ['\n'])).flatten).dropLast := by
  induction ls generalizing l with
  | nil => rw [joined_singleton, List.map_nil, List.flatten_nil, List.dropLast_concat]
  | cons l' ls ih =>
    have hdrop : ∀ X : Text, X ≠ [] → (l ++ '\n' :: X).dropLast = l ++ '\n' :: X.dropLast := by
      intro X hX
      rw [List.dropLast_append_of_ne_nil (List.cons_ne_nil _ _), List.dropLast_cons_of_ne_nil hX]
    rw [joined_cons l (List.cons_ne_nil _ _), ih, List.map_cons, List.flatten_cons,
      List.append_assoc, List.singleton_append, hdrop _ (by simp)]

/-! ### Cutting a text into its lines -/

theorem splitlinesKeepends_append (h : IsLine l) (t : Text) :
    splitlinesKeepends (l ++ '\n' :: t) = (l ++ ['\n']) :: splitlinesKeepends t := by
  induction l with
  | nil => rfl
  | cons c l ih =>
    have hc : endsLine c (l ++ '\n' :: t) = false := by
      rw [endsLine, h c List.mem_cons_self, Bool.false_and]
    rw [List.cons_append, splitlinesKeepends, hc, if_neg Bool.false_ne_true,
      ih fun d hd => h d (List.mem_cons_of_mem _ hd)]
    rfl

theorem splitlinesKeepends_of_isLine (h : IsLine l) :
    splitlinesKeepends l = if l = [] then [] else [l] := by
  induction l with
  | nil => rfl
  | cons c l ih =>
    have hc : endsLine c l = false := by rw [endsLine, h c List.mem_cons_self, Bool.false_and]
    rw [splitlinesKeepends, hc, if_neg Bool.false_ne_true,
      ih fun d hd => h d (List.mem_cons_of_mem _ hd), if_neg (List.cons_ne_nil _ _)]
    by_cases hnil : l = []
    · rw [if_pos hnil, hnil]
    · rw [if_neg hnil]

/-- **A text of lines is cut into them.** -/
theorem splitlinesKeepends_joined_cons (hl : IsLine l) (h : ls ≠ []) :
    splitlinesKeepends (joined (l :: ls)) = (l ++ ['\n']) :: splitlinesKeepends (joined ls) := by
  rw [joined_cons l h, splitlinesKeepends_append hl]

/-! ### Cutting a text and joining its lines -/

/-- A boundary that does not end the line is a carriage return before a line feed. -/
theorem eq_carriageReturn {c : Char} (hend : endsLine c t = false)
    (hboundary : isLineBoundary c = true) : c = '\r' ∧ ∃ u, t = '\n' :: u := by
  rw [endsLine, hboundary, Bool.true_and, Bool.not_eq_false', Bool.and_eq_true,
    decide_eq_true_eq, decide_eq_true_eq] at hend
  exact ⟨hend.1, (List.head?_eq_some_iff.mp hend.2).imp fun u hu => hu⟩

theorem splitlines_of_endsLine {c : Char} (h : endsLine c t = true) :
    splitlines (c :: t) = [] :: splitlines t := by
  rw [splitlines, if_pos h]

theorem splitlines_of_boundary {c : Char} (hend : endsLine c t = false)
    (hboundary : isLineBoundary c = true) : splitlines (c :: t) = splitlines t := by
  rw [splitlines, hend, if_neg Bool.false_ne_true, if_pos hboundary]

theorem splitlines_of_not_boundary {c : Char} (h : isLineBoundary c = false) (t : Text) :
    splitlines (c :: t) = (c :: (splitlines t).headD []) :: (splitlines t).tail := by
  have hend : endsLine c t = false := by rw [endsLine, h, Bool.false_and]
  rw [splitlines, hend, h, if_neg Bool.false_ne_true, if_neg Bool.false_ne_true]
  cases splitlines t <;> rfl

theorem splitlines_ne_nil (h : t ≠ []) : splitlines t ≠ [] := by
  induction t with
  | nil => exact absurd rfl h
  | cons c t ih =>
    cases hboundary : isLineBoundary c with
    | false =>
      rw [splitlines_of_not_boundary hboundary]
      exact List.cons_ne_nil _ _
    | true =>
      cases hend : endsLine c t with
      | true =>
        rw [splitlines_of_endsLine hend]
        exact List.cons_ne_nil _ _
      | false =>
        obtain ⟨-, u, rfl⟩ := eq_carriageReturn hend hboundary
        rw [splitlines_of_boundary hend hboundary]
        exact ih (List.cons_ne_nil _ _)

/-- A line that ends stands before a line break, unless it is the last one. -/
theorem joined_splitlines_of_endsLine {c : Char} (h : endsLine c t = true) :
    joined (splitlines (c :: t)) = if t = [] then [] else '\n' :: joined (splitlines t) := by
  rw [splitlines_of_endsLine h]
  by_cases hnil : t = []
  · rw [if_pos hnil, hnil]
    rfl
  · rw [if_neg hnil, joined_cons [] (splitlines_ne_nil hnil), List.nil_append]

theorem joined_splitlines_of_not_boundary {c : Char} (h : isLineBoundary c = false) (t : Text) :
    joined (splitlines (c :: t)) = c :: joined (splitlines t) := by
  rw [splitlines_of_not_boundary h]
  cases splitlines t with
  | nil => rfl
  | cons l ls =>
    by_cases hnil : ls = []
    · rw [hnil, joined_singleton]
      exact joined_singleton (c :: l)
    · exact (joined_cons (c :: l) hnil).trans (congrArg (c :: ·) (joined_cons l hnil).symm)

theorem splitlines_append_break (s t : Text) :
    splitlines (s ++ '\n' :: t) = splitlines (s ++ ['\n']) ++ splitlines t := by
  induction s with
  | nil => rfl
  | cons c s ih =>
    have hend : endsLine c (s ++ '\n' :: t) = endsLine c (s ++ ['\n']) := by
      cases s <;> rfl
    rw [List.cons_append, List.cons_append, splitlines, splitlines, hend, ih]
    split
    · rfl
    · split
      · rfl
      · cases hsplit : splitlines (s ++ ['\n']) with
        | nil => exact absurd hsplit (splitlines_ne_nil (by simp))
        | cons l ls => rfl

/-- A line break behind a text ends its last line, or opens an empty one. -/
theorem splitlines_concat_break (s : Text) :
    splitlines (s ++ ['\n']) = splitlines s ∨ splitlines (s ++ ['\n']) = splitlines s ++ [[]] := by
  induction s with
  | nil => exact Or.inr rfl
  | cons c s ih =>
    by_cases hnil : s = []
    · rw [hnil, List.singleton_append]
      cases hboundary : isLineBoundary c with
      | false =>
        rw [splitlines_of_not_boundary hboundary, splitlines_of_not_boundary hboundary]
        exact Or.inl rfl
      | true =>
        by_cases hcr : c = '\r'
        -- the line feed is part of the boundary that the carriage return is
        · rw [hcr]
          exact Or.inl rfl
        · have hend : ∀ u : Text, endsLine c u = true := fun u => by
            rw [endsLine, decide_eq_false hcr, Bool.false_and, hboundary]
            rfl
          rw [splitlines_of_endsLine (hend _), splitlines_of_endsLine (hend _)]
          exact Or.inr rfl
    · have hend : endsLine c (s ++ ['\n']) = endsLine c s := by
        rw [endsLine, endsLine, List.head?_append_of_ne_nil _ hnil]
      have hsplit := splitlines_ne_nil hnil
      rw [List.cons_append, splitlines, splitlines, hend]
      rcases ih with ih | ih
      · rw [ih]
        exact Or.inl rfl
      · rw [ih]
        cases h : splitlines s with
        | nil => exact absurd h hsplit
        | cons l ls =>
          right
          split
          · rfl
          · split <;> rfl

/-! ### Searching line by line -/

variable {β : Type} {p : Text → Option β}

theorem searchLines_inside (h : '\n' ∉ l) (t : Text) :
    searchLines p false (l ++ '\n' :: t) = searchLines p true t := by
  induction l with
  | nil => rw [List.nil_append, searchLines, if_neg Bool.false_ne_true, Option.none_or]; rfl
  | cons c l ih =>
    have hc : c ≠ '\n' := by
      rintro rfl
      exact h List.mem_cons_self
    rw [List.cons_append, searchLines, if_neg Bool.false_ne_true, Option.none_or,
      decide_eq_false hc, ih fun hmem => h (List.mem_cons_of_mem _ hmem)]

/-- **A search goes from line to line.** -/
theorem searchLines_append (h : '\n' ∉ l) (t : Text) :
    searchLines p true (l ++ '\n' :: t) = (p (l ++ '\n' :: t)).or (searchLines p true t) := by
  cases l with
  | nil => rw [List.nil_append, searchLines, if_pos rfl]; rfl
  | cons c l =>
    have hc : c ≠ '\n' := by
      rintro rfl
      exact h List.mem_cons_self
    rw [List.cons_append, searchLines, if_pos rfl, decide_eq_false hc,
      searchLines_inside fun hmem => h (List.mem_cons_of_mem _ hmem)]

theorem searchLines_last (h : '\n' ∉ l) : searchLines p true l = p l := by
  have hinside : ∀ m : Text, '\n' ∉ m → searchLines p false m = none := by
    intro m
    induction m with
    | nil => exact fun _ => rfl
    | cons c m ih =>
      intro hm
      have hc : c ≠ '\n' := by
        rintro rfl
        exact hm List.mem_cons_self
      rw [searchLines, if_neg Bool.false_ne_true, Option.none_or, decide_eq_false hc]
      exact ih fun hmem => hm (List.mem_cons_of_mem _ hmem)
  cases l with
  | nil => rw [searchLines, if_pos rfl]
  | cons c l =>
    have hc : c ≠ '\n' := by
      rintro rfl
      exact h List.mem_cons_self
    rw [searchLines, if_pos rfl, decide_eq_false hc,
      hinside l fun hmem => h (List.mem_cons_of_mem _ hmem), Option.or_none]

theorem exists_of_searchLines {atStart : Bool} {b : β} (h : searchLines p atStart t = some b) :
    ∃ u, p u = some b := by
  induction t generalizing atStart with
  | nil =>
    rw [searchLines] at h
    split at h
    · exact ⟨_, h⟩
    · cases h
  | cons c t ih =>
    rw [searchLines, Option.or_eq_some_iff] at h
    rcases h with h | ⟨-, h⟩
    · split at h
      · exact ⟨_, h⟩
      · cases h
    · exact ih h

/-! ### Line breaks -/

/-- **Where a line break stands in a text of lines**: between two of them. -/
theorem suffix_joined {v : Text} (hls : ∀ l ∈ ls, '\n' ∉ l) (h : '\n' :: v <:+ joined ls) :
    ∃ before after, before ≠ [] ∧ after ≠ [] ∧ ls = before ++ after ∧ v = joined after := by
  induction ls with
  | nil =>
    obtain ⟨u, hu⟩ := h
    rw [joined] at hu
    simp at hu
  | cons l ls ih =>
    have hl := hls l List.mem_cons_self
    by_cases hnil : ls = []
    · rw [hnil, joined_singleton] at h
      exact absurd (h.subset List.mem_cons_self) hl
    · rw [joined_cons l hnil] at h
      rcases List.suffix_or_suffix_of_suffix h (List.suffix_append l _) with hin | hout
      · rcases List.suffix_cons_iff.mp hin with heq | hin
        · exact ⟨[l], ls, List.cons_ne_nil _ _, hnil, rfl, (List.cons.inj heq).2⟩
        · obtain ⟨before, after, hb, ha, rfl, rfl⟩ :=
            ih (fun m hm => hls m (List.mem_cons_of_mem _ hm)) hin
          exact ⟨l :: before, after, List.cons_ne_nil _ _, ha, rfl, rfl⟩
      · obtain ⟨u, hu⟩ := hout
        obtain ⟨w, hw⟩ := h
        cases u with
        | nil => exact ⟨[l], ls, List.cons_ne_nil _ _, hnil, rfl, (List.cons.inj hu).2.symm⟩
        | cons d u =>
          obtain ⟨rfl, -⟩ := List.cons.inj hu
          rw [← hu, ← List.append_assoc] at hw
          have hline := List.append_cancel_right hw
          refine absurd ?_ hl
          rw [← hline]
          exact List.mem_append_right _ List.mem_cons_self

end

end Docs
end Shrimp
