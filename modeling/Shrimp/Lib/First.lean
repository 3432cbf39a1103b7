import Mathlib.Data.List.Infix
import Mathlib.Data.List.Nodup
import Mathlib.Order.Basic

/-!
# The first elements in an order

`SELECT … ORDER BY … LIMIT 1`: the element of a list that comes before all the
others in a total order.  The first elements of a list that is in order.  And
the elements of a list that are the first of their key.

## Main definitions

* `firstBy` — the element that comes first.
* `firstOccurrences` — the elements whose key no element before them has.
* `keepUnseen` — the loop that finds them with a set of the keys it has seen.

## Main results

* `firstBy_eq_some_iff` — when no two elements have the same place, the first
  one is the one that comes before every element.
* `firstBy_eq_none_iff` — only the empty list has no first element.
* `prefix_iff_of_pairwise` — when one list in order begins another.
* `keepUnseen_nil` — **the loop finds the first occurrences.**
* `firstOccurrences_eq_self_iff` — when all elements are.
-/

variable {α : Type*} (le : α → α → Prop) [DecidableRel le]

/-- The element of a list that comes first. -/
def firstBy : List α → Option α
  | [] => none
  | a :: as =>
    match firstBy as with
    | none => some a
    | some b => if le a b then some a else some b

variable {le}

theorem firstBy_eq_none_iff {as : List α} : firstBy le as = none ↔ as = [] := by
  cases as with
  | nil => simp [firstBy]
  | cons a as =>
    rw [firstBy]
    split
    · simp
    · split <;> simp

/-- The first element is one of the list, and it comes before every element. -/
theorem firstBy_spec (htotal : ∀ a b, le a b ∨ le b a)
    (htrans : ∀ a b c, le a b → le b c → le a c) {as : List α} {m : α}
    (h : firstBy le as = some m) : m ∈ as ∧ ∀ a ∈ as, le m a := by
  induction as generalizing m with
  | nil => cases h
  | cons a as ih =>
    have hself : le a a := (htotal a a).elim id id
    rw [firstBy] at h
    split at h
    · next hnone =>
      cases h
      rw [firstBy_eq_none_iff.mp hnone]
      simpa using hself
    · next b hb =>
      obtain ⟨hmem, hle⟩ := ih hb
      -- `b` is the first of the rest; `a` comes before it or after it
      split at h
      · next hab =>
        cases h
        refine ⟨List.mem_cons_self, fun x hx => ?_⟩
        rcases List.mem_cons.mp hx with rfl | hx
        · exact hself
        · exact htrans _ _ _ hab (hle x hx)
      · next hab =>
        cases h
        refine ⟨List.mem_cons_of_mem _ hmem, fun x hx => ?_⟩
        rcases List.mem_cons.mp hx with rfl | hx
        · exact (htotal x m).resolve_left hab
        · exact hle x hx

/-- **The first element**, in an order that separates the elements of the list. -/
theorem firstBy_eq_some_iff (htotal : ∀ a b, le a b ∨ le b a)
    (htrans : ∀ a b c, le a b → le b c → le a c) {as : List α}
    (hanti : ∀ a ∈ as, ∀ b ∈ as, le a b → le b a → a = b) {m : α} :
    firstBy le as = some m ↔ m ∈ as ∧ ∀ a ∈ as, le m a := by
  refine ⟨firstBy_spec htotal htrans, fun ⟨hmem, hle⟩ => ?_⟩
  cases h : firstBy le as with
  | none =>
    rw [firstBy_eq_none_iff.mp h] at hmem
    cases hmem
  | some b =>
    obtain ⟨hb, hbefore⟩ := firstBy_spec htotal htrans h
    rw [hanti b hb m hmem (hbefore m hmem) (hle b hb)]

/-! ### Lists in order -/

/-- **When one list in order begins another**: when it takes from the other every
element up to its own last one. -/
theorem prefix_iff_of_pairwise [Preorder α] {as fs : List α} (has : as.Pairwise (· < ·))
    (hfs : fs.Pairwise (· < ·)) :
    as <+: fs ↔ ∀ a ∈ as, a ∈ fs ∧ ∀ g ∈ fs, g < a → g ∈ as := by
  constructor
  · rintro ⟨rest, rfl⟩ a ha
    refine ⟨List.mem_append_left _ ha, fun g hg hlt => ?_⟩
    rcases List.mem_append.mp hg with hg | hg
    · exact hg
    · have hgt := (List.pairwise_append.mp hfs).2.2 a ha g hg
      exact absurd hgt (lt_asymm hlt)
  · intro h
    induction as generalizing fs with
    | nil => exact List.nil_prefix
    | cons a as ih =>
      obtain ⟨hlt, hrest⟩ := List.pairwise_cons.mp has
      obtain ⟨hmem, hfirst⟩ := h a List.mem_cons_self
      cases fs with
      | nil => cases hmem
      | cons g fs =>
        obtain ⟨hlt', hrest'⟩ := List.pairwise_cons.mp hfs
        -- the first of the other list is not before `a`, and `a` is not behind it
        have hhead : g = a := by
          rcases List.mem_cons.mp hmem with rfl | hmem
          · rfl
          · rcases List.mem_cons.mp (hfirst g List.mem_cons_self (hlt' a hmem)) with heq | hg
            · exact heq
            · have hga := hlt' a hmem
              have hag := hlt g hg
              exact absurd hag (lt_asymm hga)
        subst hhead
        refine List.cons_prefix_cons.mpr ⟨rfl, ih hrest hrest' fun x hx => ?_⟩
        obtain ⟨hxmem, hxdown⟩ := h x (List.mem_cons_of_mem _ hx)
        have hgx := hlt x hx
        refine ⟨(List.mem_cons.mp hxmem).resolve_left hgx.ne', fun y hy hyx => ?_⟩
        have hgy := hlt' y hy
        exact (List.mem_cons.mp (hxdown y (List.mem_cons_of_mem _ hy) hyx)).resolve_left hgy.ne'

/-! ### First occurrences -/

section FirstOccurrences

variable {κ : Type*} [DecidableEq κ] (key : α → κ)

/-- The elements of a list whose key no element before them has. -/
def firstOccurrences (as : List α) : List α :=
  (as.zipIdx.filter fun x => key x.1 ∉ (as.take x.2).map key).map Prod.fst

/-- The loop with a set of seen keys: an element is kept when its key is new. -/
def keepUnseen : List α → List κ → List α
  | [], _ => []
  | a :: as, seen =>
    if key a ∈ seen then keepUnseen as seen else a :: keepUnseen as (key a :: seen)

variable {key}

/-- What the loop keeps, and what it has seen. -/
theorem keepUnseen_spec (as : List α) (seen : List κ) :
    keepUnseen key as seen = (as.zipIdx.filter fun x =>
      key x.1 ∉ seen ∧ key x.1 ∉ (as.take x.2).map key).map Prod.fst := by
  induction as generalizing seen with
  | nil => rfl
  | cons a as ih =>
    -- behind the first element every place is one further, and has `a` before it
    have hbehind : ∀ seen' : List κ, (∀ k, k ∈ seen' ↔ k = key a ∨ k ∈ seen) →
        ((as.zipIdx 1).filter fun x => key x.1 ∉ seen ∧
          key x.1 ∉ ((a :: as).take x.2).map key).map Prod.fst = keepUnseen key as seen' := by
      intro seen' hseen'
      rw [ih, List.zipIdx_succ, List.filter_map, List.map_map]
      refine congrArg _ (List.filter_congr fun x _ => ?_)
      simp only [Function.comp_apply, List.take_succ_cons, List.map_cons, List.mem_cons, hseen',
        decide_eq_decide]
      tauto
    rw [keepUnseen, List.zipIdx_cons, List.filter_cons]
    simp only [List.take_zero, List.map_nil, List.not_mem_nil, not_false_iff, and_true]
    split
    · next hmem =>
      rw [if_neg (by simpa using hmem), Nat.zero_add, hbehind seen]
      intro k
      constructor
      · exact Or.inr
      · rintro (rfl | hk)
        · exact hmem
        · exact hk
    · next hnew =>
      rw [if_pos (by simpa using hnew), List.map_cons, Nat.zero_add, hbehind (key a :: seen)]
      intro k
      exact List.mem_cons

/-- **The loop finds the first occurrences.** -/
theorem keepUnseen_nil (as : List α) : keepUnseen key as [] = firstOccurrences key as := by
  rw [keepUnseen_spec, firstOccurrences]
  simp

theorem mem_of_mem_firstOccurrences {as : List α} {a : α} (h : a ∈ firstOccurrences key as) :
    a ∈ as := by
  obtain ⟨x, hx, rfl⟩ := List.mem_map.mp h
  exact List.fst_mem_of_mem_zipIdx (List.mem_filter.mp hx).1

/-- The loop keeps no key twice, and none it had seen. -/
theorem nodup_keepUnseen (as : List α) (seen : List κ) :
    ((keepUnseen key as seen).map key).Nodup ∧
      ∀ k ∈ (keepUnseen key as seen).map key, k ∉ seen := by
  induction as generalizing seen with
  | nil => simp [keepUnseen]
  | cons a as ih =>
    unfold keepUnseen
    split
    · exact ih seen
    · next hnew =>
      obtain ⟨hnodup, hseen⟩ := ih (key a :: seen)
      refine ⟨?_, ?_⟩
      · rw [List.map_cons, List.nodup_cons]
        exact ⟨fun hmem => hseen _ hmem List.mem_cons_self, hnodup⟩
      · intro k hk
        rcases List.mem_cons.mp hk with rfl | hk
        · exact hnew
        · exact fun h => hseen k hk (List.mem_cons_of_mem _ h)

/-- **No two first occurrences have one key.** -/
theorem nodup_firstOccurrences (as : List α) : ((firstOccurrences key as).map key).Nodup := by
  rw [← keepUnseen_nil]
  exact (nodup_keepUnseen as []).1

/-- **All elements are first occurrences** when no two of them have one key. -/
theorem firstOccurrences_eq_self_iff {as : List α} :
    firstOccurrences key as = as ↔ (as.map key).Nodup := by
  constructor
  · intro h
    rw [← h]
    exact nodup_firstOccurrences as
  · intro h
    rw [firstOccurrences, List.filter_eq_self.mpr, List.zipIdx_map_fst]
    rintro ⟨a, i⟩ hmem
    obtain ⟨hi, ha⟩ := List.mem_zipIdx' hmem
    dsimp only at hi ha ⊢
    rw [decide_eq_true_iff, ha]
    -- the key at `i` among the keys before `i` would be a repetition
    intro hrep
    obtain ⟨j, hj, hkey⟩ := List.mem_iff_getElem.mp hrep
    rw [List.length_map, List.length_take] at hj
    have hlt : j < (as.map key).length := by
      rw [List.length_map]
      omega
    have hlt' : i < (as.map key).length := by rwa [List.length_map]
    have hidx : j = i := by
      refine (@List.Nodup.getElem_inj_iff _ _ h j hlt i hlt').mp ?_
      simpa [List.getElem_take] using hkey
    omega

end FirstOccurrences
