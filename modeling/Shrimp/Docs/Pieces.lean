import Shrimp.Docs.Lines

/-!
# The pieces of a text between its line breaks

The pieces between the line breaks of a text are its lines as long as no other boundary
stands in them but a carriage return before a line break.  Every other boundary makes a
line more than there are pieces.

## Main definitions

* `newlinePieces` — the pieces.
* `PlainPiece` — a piece with no boundary in it but a carriage return at its end.

## Main results

* `count_le_length_splitlines` — every line break ends a line of its own.
* `splitlines_of_plain_take` — **as far as the pieces are plain, they are the lines.**
-/

namespace Shrimp
namespace Docs

/-- The pieces between the line breaks of a text. -/
def newlinePieces (markdown : Text) : List Text := markdown.splitOn '\n'

/-- A piece without a carriage return at its end. -/
def chomp (l : Text) : Text := if l.getLast? = some '\r' then l.dropLast else l

/-- A piece with no boundary in it but a carriage return at its end. -/
def PlainPiece (l : Text) : Prop := IsLine (chomp l)

instance (l : Text) : Decidable (PlainPiece l) := inferInstanceAs (Decidable (IsLine (chomp l)))

section

variable {l t markdown : Text}

theorem count_le_length_splitlines (t : Text) : t.count '\n' ≤ (splitlines t).length := by
  induction t with
  | nil => exact Nat.le_refl _
  | cons c t ih =>
    -- a line break ends a line itself; another boundary only adds a line to the count
    by_cases hc : c = '\n'
    · subst hc
      rw [splitlines_of_endsLine (by cases t <;> rfl), List.count_cons_self, List.length_cons]
      exact Nat.succ_le_succ ih
    · rw [List.count_cons_of_ne hc]
      cases hboundary : isLineBoundary c with
      | false =>
        rw [splitlines_of_not_boundary hboundary, List.length_cons, List.length_tail]
        omega
      | true =>
        cases hend : endsLine c t with
        | true =>
          rw [splitlines_of_endsLine hend, List.length_cons]
          omega
        | false => rwa [splitlines_of_boundary hend hboundary]

theorem length_newlinePieces (t : Text) : (newlinePieces t).length = t.count '\n' + 1 := by
  induction t with
  | nil => rfl
  | cons c t ih =>
    rw [newlinePieces, List.splitOn_cons_eq_if_modifyHead]
    by_cases hc : c = '\n'
    · subst hc
      rw [if_pos (beq_self_eq_true _), List.length_cons, List.count_cons_self]
      exact congrArg (· + 1) ih
    · rw [if_neg (by simpa using hc), List.length_modifyHead, List.count_cons_of_ne hc]
      exact ih

theorem joined_newlinePieces (markdown : Text) : joined (newlinePieces markdown) = markdown :=
  List.intercalate_splitOn '\n'

theorem chomp_cases (l : Text) : l = chomp l ∨ l = chomp l ++ ['\r'] := by
  rw [chomp]
  split
  · next h => exact Or.inr (List.dropLast_append_getLast? _ h).symm
  · exact Or.inl rfl

theorem splitlines_line_append (h : IsLine l) {rest : List Text} (ht : splitlines t = [] :: rest) :
    splitlines (l ++ t) = l :: rest := by
  induction l with
  | nil => exact ht
  | cons c l ih =>
    rw [List.cons_append, splitlines_of_not_boundary (h c List.mem_cons_self),
      ih fun d hd => h d (List.mem_cons_of_mem _ hd)]
    rfl

theorem splitlines_plain_append (h : PlainPiece l) (t : Text) :
    splitlines (l ++ '\n' :: t) = chomp l :: splitlines t := by
  have hbreak : splitlines ('\n' :: t) = [] :: splitlines t :=
    splitlines_of_endsLine (by cases t <;> rfl)
  rcases chomp_cases l with hl | hl
  · conv_lhs => rw [hl]
    exact splitlines_line_append h hbreak
  · conv_lhs => rw [hl, List.append_assoc]
    exact splitlines_line_append h hbreak

theorem splitlines_plain (h : PlainPiece l) : splitlines l = if l = [] then [] else [chomp l] := by
  -- a line without a boundary is read whole
  have hline : ∀ l : Text, IsLine l → l ≠ [] → splitlines l = [l] := by
    intro l hl hne
    induction l with
    | nil => exact absurd rfl hne
    | cons c l ih =>
      rw [splitlines_of_not_boundary (hl c List.mem_cons_self)]
      by_cases hnil : l = []
      · rw [hnil]
        rfl
      · rw [ih (fun d hd => hl d (List.mem_cons_of_mem _ hd)) hnil]
        rfl
  by_cases hnil : l = []
  · rw [if_pos hnil, hnil]
    rfl
  · rw [if_neg hnil]
    rcases chomp_cases l with hl | hl
    · conv_lhs => rw [hl]
      refine hline _ h ?_
      rwa [← hl]
    · conv_lhs => rw [hl]
      exact splitlines_line_append h rfl

/-- **Plain pieces are the lines of a text.** -/
theorem splitlines_of_plain {ps qs : List Text} (hps : ∀ l ∈ ps, PlainPiece l) (hqs : qs ≠ []) :
    splitlines (joined (ps ++ qs)) = ps.map chomp ++ splitlines (joined qs) := by
  induction ps with
  | nil => rfl
  | cons l ps ih =>
    rw [List.cons_append, joined_cons l (by simp [hqs]),
      splitlines_plain_append (hps l List.mem_cons_self),
      ih fun l' hl' => hps l' (List.mem_cons_of_mem _ hl')]
    rfl

theorem subset_of_mem_splitlines (h : l ∈ splitlines t) : l ⊆ t := by
  induction t generalizing l with
  | nil => cases h
  | cons c t ih =>
    -- the first character ends a line, or goes on the line behind it
    cases hboundary : isLineBoundary c with
    | true =>
      cases hend : endsLine c t with
      | true =>
        rw [splitlines_of_endsLine hend] at h
        rcases List.mem_cons.mp h with rfl | h
        · exact List.nil_subset _
        · exact List.subset_cons_of_subset _ (ih h)
      | false =>
        rw [splitlines_of_boundary hend hboundary] at h
        exact List.subset_cons_of_subset _ (ih h)
    | false =>
      rw [splitlines_of_not_boundary hboundary] at h
      rcases List.mem_cons.mp h with rfl | h
      · refine List.cons_subset_cons _ ?_
        cases hsplit : splitlines t with
        | nil => exact List.nil_subset _
        | cons l ls => exact ih (by rw [hsplit]; exact List.mem_cons_self)
      · exact List.subset_cons_of_subset _ (ih (List.mem_of_mem_tail h))

/-- Where the first pieces of a text are plain, they are its first lines, and the other
lines are those of the rest. -/
theorem splitlines_of_plain_take {k : ℕ} (hk : k < (newlinePieces markdown).length)
    (h : ∀ l ∈ (newlinePieces markdown).take k, PlainPiece l) :
    splitlines markdown = ((newlinePieces markdown).take k).map chomp ++
      splitlines (joined ((newlinePieces markdown).drop k)) := by
  have hne : (newlinePieces markdown).drop k ≠ [] := by
    rw [ne_eq, List.drop_eq_nil_iff]
    omega
  rw [← splitlines_of_plain h hne, List.take_append_drop, joined_newlinePieces]

/-- A text of plain pieces has no line more than it has pieces. -/
theorem length_splitlines_le (h : ∀ l ∈ newlinePieces markdown, PlainPiece l) :
    (splitlines markdown).length ≤ (newlinePieces markdown).length := by
  obtain ⟨ps, l, hps⟩ := (List.eq_nil_or_concat' (newlinePieces markdown)).resolve_left
    (List.splitOn_ne_nil '\n' markdown)
  rw [hps] at h
  have hsplit : splitlines markdown = ps.map chomp ++ splitlines l := by
    rw [← joined_newlinePieces markdown, hps,
      splitlines_of_plain (fun l hl => h l (List.mem_append_left _ hl)) (List.cons_ne_nil _ _),
      joined_singleton]
  rw [hsplit, hps, splitlines_plain (h l (by simp)), List.length_append, List.length_append,
    List.length_map]
  split <;> simp

end

end Docs
end Shrimp
