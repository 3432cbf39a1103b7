import Shrimp.Lib.Scan

/-!
# How often a pattern is found

The number of matches of a scan: matches do not overlap, and are taken from the left.
So does `str.count` count a text in another.

## Main definitions

* `Pattern.count` — the number of matches.

## Main results

* `Pattern.count_append_of_eq_none` — a text in which no match begins does not count.
* `Pattern.count_eq_zero_iff` — where nothing is found.
* `Pattern.count_literal_append_cons` — **a symbol that a text does not have cuts the
  count in two.**
-/

namespace Pattern

variable {α β : Type*} {p : Pattern α β} {t : List α}

/-- **The number of matches.** -/
def count (p : Pattern α β) (t : List α) : ℕ := (p.finditer t).length

/-- The number of matches does not depend on the place where a text begins. -/
theorem length_finditerFrom (k : ℕ) (t : List α) :
    (finditerFrom k (p.pieces t)).length = p.count t := by
  have hadd := finditerFrom_add k 0 (p.pieces t)
  rw [Nat.add_zero] at hadd
  rw [hadd, List.length_map]
  rfl

@[simp] theorem count_nil : p.count [] = 0 := rfl

theorem count_of_eq_none {a : α} (h : p.find (a :: t) = none) : p.count (a :: t) = p.count t := by
  unfold count finditer
  rw [pieces_of_eq_none h, finditerFrom]
  exact length_finditerFrom 1 t

theorem count_of_eq_some {n : ℕ} {b : β} (h : p.find t = some (n, b)) :
    p.count t = p.count (t.drop n) + 1 := by
  unfold count finditer
  rw [pieces_of_eq_some h, finditerFrom, List.length_cons, length_finditerFrom]
  rfl

/-- **A text in which no match begins does not count.** -/
theorem count_append_of_eq_none {s : List α}
    (h : ∀ u, u <:+ s → u ≠ [] → p.find (u ++ t) = none) : p.count (s ++ t) = p.count t := by
  induction s with
  | nil => rfl
  | cons a s ih =>
    have hhead : p.find (a :: (s ++ t)) = none :=
      h (a :: s) List.suffix_rfl (List.cons_ne_nil _ _)
    rw [List.cons_append, count_of_eq_none hhead]
    exact ih fun u hu => h u (hu.trans (List.suffix_cons a s))

/-- Nothing is counted exactly where nothing is found. -/
theorem count_eq_zero_iff : p.count t = 0 ↔ ¬p.Occurs t := by
  induction t using p.induction with
  | nil => simp [not_occurs_nil]
  | symbol a t hnone ih =>
    rw [count_of_eq_none hnone, occurs_cons, hnone, ih]
    simp
  | found t n b hsome ih =>
    rw [count_of_eq_some hsome]
    have hocc : p.Occurs t := ⟨t, List.suffix_rfl, by rw [hsome]; rfl⟩
    simp [hocc]

theorem find_eq_none_of_mem_unmatched {u : List α} (h : u ∈ p.unmatched t) : p.find u = none := by
  induction t using p.induction with
  | nil => cases h
  | symbol a t hnone ih =>
    rw [unmatched_of_eq_none hnone] at h
    rcases List.mem_cons.mp h with rfl | h
    · exact hnone
    · exact ih h
  | found t n b hsome ih =>
    rw [unmatched_of_eq_some hsome] at h
    exact ih h

/-! ### Counting a text -/

section

variable [DecidableEq α] {old s : List α} {hold : old ≠ []} {a : α}

theorem find_literal_eq_none_iff : (literal old hold).find t = none ↔ ¬old <+: t := by
  constructor
  · intro h hpre
    rw [find_literal_eq_some_iff (b := ()) |>.mpr ⟨rfl, hpre⟩] at h
    cases h
  · intro h
    by_contra hne
    obtain ⟨⟨n, b⟩, hsome⟩ := Option.ne_none_iff_exists'.mp hne
    exact h (find_literal_eq_some_iff.mp hsome).2

theorem occurs_literal_iff : (literal old hold).Occurs t ↔ old <:+: t := by
  constructor
  · rintro ⟨s, hs, hsome⟩
    obtain ⟨⟨n, b⟩, h⟩ := Option.isSome_iff_exists.mp hsome
    exact (find_literal_eq_some_iff.mp h).2.isInfix.trans hs.isInfix
  · rintro ⟨u, v, rfl⟩
    refine ⟨old ++ v, ⟨u, (List.append_assoc u old v).symm⟩, ?_⟩
    rw [find_literal_eq_some_iff (b := ()) |>.mpr ⟨rfl, List.prefix_append old v⟩]
    rfl

theorem count_literal_append (t : List α) :
    (literal old hold).count (old ++ t) = (literal old hold).count t + 1 := by
  rw [count_of_eq_some (find_literal_eq_some_iff (b := ()) |>.mpr ⟨rfl, List.prefix_append old t⟩),
    List.drop_left]

/-- What has a symbol that a text does not have is not counted in it. -/
theorem count_literal_eq_zero (h : a ∈ old) (ht : a ∉ t) : (literal old hold).count t = 0 :=
  count_eq_zero_iff.mpr fun hocc => ht ((occurs_literal_iff.mp hocc).subset h)

/-- What begins with a symbol that a text does not have is not counted in it. -/
theorem count_literal_append_of_notMem (h : old.head hold ∉ s) (t : List α) :
    (literal old hold).count (s ++ t) = (literal old hold).count t := by
  refine count_append_of_eq_none fun u hu hne => find_literal_eq_none_iff.mpr fun hpre => h ?_
  cases u with
  | nil => exact absurd rfl hne
  | cons c u =>
    obtain ⟨d, old, rfl⟩ := List.exists_cons_of_ne_nil hold
    obtain ⟨rfl, -⟩ := List.cons_prefix_cons.mp hpre
    exact hu.subset List.mem_cons_self

/-- **A symbol that a text does not have cuts the count in two.** -/
theorem count_literal_append_cons (h : a ∉ old) (s t : List α) :
    (literal old hold).count (s ++ a :: t) =
      (literal old hold).count s + (literal old hold).count t := by
  -- the matches of the first part are matches of the whole
  have hsome : ∀ u n b, u <:+ s → (literal old hold).find u = some (n, b) →
      (literal old hold).find (u ++ a :: t) = some (n, b) := by
    intro u n b _ hu
    obtain ⟨rfl, hpre⟩ := find_literal_eq_some_iff.mp hu
    exact find_literal_eq_some_iff.mpr ⟨rfl, hpre.trans (List.prefix_append u _)⟩
  -- no match crosses the symbol, nor begins at it
  have hnone : ∀ u ∈ (literal old hold).unmatched s,
      (literal old hold).find (u ++ a :: t) = none := by
    intro u hu
    have hu := find_literal_eq_none_iff.mp (find_eq_none_of_mem_unmatched hu)
    exact find_literal_eq_none_iff.mpr fun hpre => hu ((List.prefix_append_cons_iff h u t).mp hpre)
  have hhead : (literal old hold).find (a :: t) = none := by
    refine find_literal_eq_none_iff.mpr fun hpre => hold ?_
    exact List.prefix_nil.mp ((List.prefix_append_cons_iff h [] t).mp hpre)
  have happ := congrArg List.length (finditerFrom_append hsome hnone 0)
  rw [List.length_append, length_finditerFrom, length_finditerFrom, length_finditerFrom,
    count_of_eq_none hhead] at happ
  exact happ

end

end Pattern
