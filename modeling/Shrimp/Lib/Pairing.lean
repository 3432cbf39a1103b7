import Mathlib.Data.List.Forall2
import Mathlib.Data.List.Perm.Subperm
import Mathlib.Data.List.Nodup

/-!
# Two lists that are paired off

Where the members of two lists are related place by place, what is known of the
members of the one list counts members of the other.

## Main results

* `List.Forall₂.exists_of_mem`, `List.Forall₂.eraseIdx` — a pair, and the pairs without
  one of them.
* `List.Forall₂.length_le_countP` — **the counting rule.**
-/

namespace List

variable {α β : Type*} {R : α → β → Prop} {l : List α} {m : List β}

/-- Every member has a partner. -/
theorem Forall₂.exists_of_mem (h : Forall₂ R l m) {a : α} (ha : a ∈ l) : ∃ b ∈ m, R a b := by
  induction h with
  | nil => cases ha
  | @cons a' b l m hR _ ih =>
    rcases mem_cons.mp ha with rfl | ha
    · exact ⟨b, mem_cons_self, hR⟩
    · obtain ⟨b', hb', hR'⟩ := ih ha
      exact ⟨b', mem_cons_of_mem _ hb', hR'⟩

/-- The pairs without one of them. -/
theorem Forall₂.eraseIdx (h : Forall₂ R l m) (k : ℕ) :
    Forall₂ R (l.eraseIdx k) (m.eraseIdx k) := by
  induction h generalizing k with
  | nil => exact .nil
  | cons hR hrest ih =>
    cases k with
    | zero => exact hrest
    | succ k => exact .cons hR (ih k)

/-- As many members have a property as have partners with it, at least. -/
theorem Forall₂.countP_le (h : Forall₂ R l m) {p : α → Bool} {q : β → Bool}
    (hpq : ∀ a b, R a b → p a = true → q b = true) : l.countP p ≤ m.countP q := by
  induction h with
  | nil => exact Nat.le_refl _
  | @cons a b l m hR _ ih =>
    rw [countP_cons, countP_cons]
    by_cases ha : p a = true
    · rw [if_pos ha, if_pos (hpq a b hR ha)]
      exact Nat.add_le_add_right ih 1
    · rw [if_neg ha]
      exact Nat.le_add_right_of_le ih

/-- **The counting rule**: different members whose partners all have a property are no
more than there are members with the property on the other side. -/
theorem Forall₂.length_le_countP [DecidableEq α] (h : Forall₂ R l m) {s : List α} (hs : s.Nodup)
    {q : β → Bool} (hmem : ∀ a ∈ s, a ∈ l) (hq : ∀ a ∈ s, ∀ b, R a b → q b = true) :
    s.length ≤ m.countP q := by
  have hsub : s ⊆ l.filter (· ∈ s) := fun a ha =>
    mem_filter.mpr ⟨hmem a ha, decide_eq_true ha⟩
  calc s.length ≤ (l.filter (· ∈ s)).length := (subperm_of_subset hs hsub).length_le
    _ = l.countP (· ∈ s) := countP_eq_length_filter.symm
    _ ≤ m.countP q := h.countP_le fun a b hR ha => hq a (of_decide_eq_true ha) b hR

end List
