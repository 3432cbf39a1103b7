import Mathlib.Algebra.Order.Ring.Nat
import Mathlib.Data.List.Basic
import Mathlib.Data.List.Nodup
import Mathlib.Data.Nat.Notation
import Mathlib.Order.Basic

/-!
# Insertion-ordered dictionaries

A dictionary that remembers the order in which its keys were first written: the
built-in dictionary of several scripting languages.  Writing a key that is
already there replaces its value in place; writing a new key appends it.  A
`Dict` carries the proof that its keys are distinct, so an association list
with a repeated key cannot be mistaken for one.

## Main definitions

* `Dict κ α` — the dictionaries with keys in `κ` and values in `α`.
* `Dict.get?`, `Dict.insert`, `Dict.keys`, `Dict.values` — the operations.
* `Dict.ofList` — the dictionary a sequence of writes builds.
* `Dict.merge` — one dictionary written over another.
* `Dict.updateWhere` — change the values of the entries that meet a condition.
* `Dict.erase` — drop a key.
* `Dict.Grows` — no key is lost and no value gets smaller.

## Main results

* `Dict.get?_insert`, `Dict.get?_updateWhere`, `Dict.get?_erase` — reading after a
  write.
* `Dict.entries_insert_of_notMem`, `Dict.entries_insert_last` — what a write does
  to the order of the entries.
-/

universe u v

/-- A dictionary: its entries in the order in which the keys were first
written, no key twice. -/
structure Dict (κ : Type u) (α : Type v) where
  /-- The entries, oldest key first. -/
  entries : List (κ × α)
  /-- No key occurs twice. -/
  nodup : (entries.map Prod.fst).Nodup

namespace Dict

variable {κ : Type u} {α : Type v}

instance : EmptyCollection (Dict κ α) := ⟨⟨[], List.nodup_nil⟩⟩

instance : Inhabited (Dict κ α) := ⟨∅⟩

@[simp] theorem entries_empty : (∅ : Dict κ α).entries = [] := rfl

/-- The keys, oldest first. -/
def keys (d : Dict κ α) : List κ := d.entries.map Prod.fst

/-- The values, in the order of their keys. -/
def values (d : Dict κ α) : List α := d.entries.map Prod.snd

/-- Change the value of every entry that meets `p`: the statement
`UPDATE … SET f WHERE p` on a table with a primary key. -/
def updateWhere (d : Dict κ α) (p : κ → α → Bool) (f : α → α) : Dict κ α where
  entries := d.entries.map fun e => (e.1, if p e.1 e.2 then f e.2 else e.2)
  nodup := by
    rw [List.map_map]
    exact d.nodup

@[simp] theorem keys_updateWhere (d : Dict κ α) (p : κ → α → Bool) (f : α → α) :
    (d.updateWhere p f).keys = d.keys := by
  unfold keys updateWhere
  rw [List.map_map]
  rfl

section Decidable

variable [DecidableEq κ]

/-- The value written last under a key. -/
def get? (d : Dict κ α) (k : κ) : Option α := d.entries.lookup k

/-- The value under a key, or a default. -/
def getD (d : Dict κ α) (k : κ) (v : α) : α := (d.get? k).getD v

/-- Is there a value under this key? -/
def contains (d : Dict κ α) (k : κ) : Bool := (d.get? k).isSome

/-- Write one entry into a list of entries: in place when the key is there,
at the end otherwise. -/
def setEntry (k : κ) (v : α) : List (κ × α) → List (κ × α)
  | [] => [(k, v)]
  | e :: es => if e.1 = k then (k, v) :: es else e :: setEntry k v es

theorem mem_map_fst_setEntry {k k' : κ} {v : α} {es : List (κ × α)} :
    k' ∈ (setEntry k v es).map Prod.fst ↔ k' = k ∨ k' ∈ es.map Prod.fst := by
  induction es with
  | nil => simp [setEntry]
  | cons e es ih =>
    unfold setEntry
    split
    · next h => subst h; simp
    · rw [List.map_cons, List.mem_cons, ih, List.map_cons, List.mem_cons]
      tauto

theorem nodup_setEntry {k : κ} {v : α} {es : List (κ × α)}
    (h : (es.map Prod.fst).Nodup) : ((setEntry k v es).map Prod.fst).Nodup := by
  induction es with
  | nil => simp [setEntry]
  | cons e es ih =>
    rw [List.map_cons, List.nodup_cons] at h
    unfold setEntry
    split
    · next he => rw [List.map_cons, List.nodup_cons]; exact ⟨he ▸ h.1, h.2⟩
    · next he =>
      rw [List.map_cons, List.nodup_cons, mem_map_fst_setEntry]
      exact ⟨by rintro (h' | h'); exacts [he h', h.1 h'], ih h.2⟩

theorem setEntry_of_notMem {k : κ} {v : α} {es : List (κ × α)}
    (h : k ∉ es.map Prod.fst) : setEntry k v es = es ++ [(k, v)] := by
  induction es with
  | nil => rfl
  | cons e es ih =>
    rw [List.map_cons, List.mem_cons, not_or] at h
    rw [setEntry, if_neg (Ne.symm h.1), ih h.2, List.cons_append]

theorem setEntry_append_of_notMem {k : κ} {v : α} {es fs : List (κ × α)}
    (h : k ∉ es.map Prod.fst) : setEntry k v (es ++ fs) = es ++ setEntry k v fs := by
  induction es with
  | nil => rfl
  | cons e es ih =>
    rw [List.map_cons, List.mem_cons, not_or] at h
    rw [List.cons_append, setEntry, if_neg (Ne.symm h.1), ih h.2, List.cons_append]

theorem lookup_cons_eq_ite (k : κ) (e : κ × α) (es : List (κ × α)) :
    (e :: es).lookup k = if k = e.1 then some e.2 else es.lookup k := by
  obtain ⟨a, b⟩ := e
  rw [List.lookup_cons]
  by_cases h : k = a
  · rw [if_pos h, beq_iff_eq.mpr h]
  · rw [if_neg h, beq_eq_false_iff_ne.mpr h]

theorem lookup_setEntry {k k' : κ} {v : α} {es : List (κ × α)} :
    (setEntry k v es).lookup k' = if k' = k then some v else es.lookup k' := by
  induction es with
  | nil => rw [setEntry, lookup_cons_eq_ite]
  | cons e es ih =>
    unfold setEntry
    split
    · next h =>
      rw [lookup_cons_eq_ite, lookup_cons_eq_ite, h]
      split <;> rfl
    · next h =>
      rw [lookup_cons_eq_ite, lookup_cons_eq_ite, ih]
      by_cases hk : k' = k
      · rw [if_pos hk, if_pos hk, if_neg (fun he => h (by rw [← he, hk]))]
      · rw [if_neg hk, if_neg hk]

/-- Write a key: `{**d, k: v}`. -/
def insert (d : Dict κ α) (k : κ) (v : α) : Dict κ α :=
  ⟨setEntry k v d.entries, nodup_setEntry d.nodup⟩

/-- The dictionary a sequence of writes builds. -/
def ofList (es : List (κ × α)) : Dict κ α := es.foldl (fun d e => d.insert e.1 e.2) ∅

/-- Write every entry of `d₂` over `d₁`: `{**d₁, **d₂}`. -/
def merge (d₁ d₂ : Dict κ α) : Dict κ α := d₂.entries.foldl (fun d e => d.insert e.1 e.2) d₁

@[simp] theorem get?_empty (k : κ) : (∅ : Dict κ α).get? k = none := rfl

/-- **Reading after a write.** -/
theorem get?_insert (d : Dict κ α) (k k' : κ) (v : α) :
    (d.insert k v).get? k' = if k' = k then some v else d.get? k' :=
  lookup_setEntry

@[simp] theorem get?_insert_self (d : Dict κ α) (k : κ) (v : α) :
    (d.insert k v).get? k = some v := by
  rw [get?_insert, if_pos rfl]

theorem get?_insert_of_ne (d : Dict κ α) {k k' : κ} (v : α) (h : k' ≠ k) :
    (d.insert k v).get? k' = d.get? k' := by
  rw [get?_insert, if_neg h]

theorem getD_insert (d : Dict κ α) (k k' : κ) (v w : α) :
    (d.insert k v).getD k' w = if k' = k then v else d.getD k' w := by
  rw [getD, get?_insert]
  split <;> rfl

/-- **Reading after a conditional update.** -/
theorem get?_updateWhere (d : Dict κ α) (p : κ → α → Bool) (f : α → α) (k : κ) :
    (d.updateWhere p f).get? k = (d.get? k).map fun v => if p k v then f v else v := by
  change (d.entries.map _).lookup k = (d.entries.lookup k).map _
  generalize d.entries = es
  induction es with
  | nil => rfl
  | cons e es ih =>
    rw [List.map_cons, lookup_cons_eq_ite, lookup_cons_eq_ite, ih]
    by_cases h : k = e.1
    · rw [if_pos h, if_pos h, h, Option.map_some]
    · rw [if_neg h, if_neg h]

/-- Drop a key. -/
def erase (d : Dict κ α) (k : κ) : Dict κ α where
  entries := d.entries.filter fun e => e.1 ≠ k
  nodup := d.nodup.sublist (List.filter_sublist.map _)

/-- **Reading after a key was dropped.** -/
theorem get?_erase (d : Dict κ α) (k k' : κ) :
    (d.erase k).get? k' = if k' = k then none else d.get? k' := by
  change (d.entries.filter _).lookup k' = if k' = k then none else d.entries.lookup k'
  generalize d.entries = es
  induction es with
  | nil => simp
  | cons e es ih =>
    -- an entry that is erased is not read back under its own key
    by_cases he : e.1 = k
    · rw [List.filter_cons_of_neg (by simpa using he), ih, lookup_cons_eq_ite]
      split
      · rfl
      · next hk => rw [if_neg (fun h => hk (h.trans he))]
    · rw [List.filter_cons_of_pos (by simpa using he), lookup_cons_eq_ite, ih, lookup_cons_eq_ite]
      by_cases hk : k' = e.1
      · rw [if_pos hk, if_neg (fun h => he (hk ▸ h)), if_pos hk]
      · rw [if_neg hk, if_neg hk]

/-- A key has a value exactly when it is one of the keys. -/
theorem mem_keys_iff {d : Dict κ α} {k : κ} : k ∈ d.keys ↔ d.contains k = true := by
  change k ∈ d.entries.map Prod.fst ↔ (d.entries.lookup k).isSome = true
  generalize d.entries = es
  induction es with
  | nil => simp
  | cons e es ih =>
    rw [List.map_cons, List.mem_cons, ih, lookup_cons_eq_ite]
    by_cases h : k = e.1 <;> simp [h]

/-- An entry is what its key reads back. -/
theorem get?_of_mem {d : Dict κ α} {k : κ} {v : α} (h : (k, v) ∈ d.entries) :
    d.get? k = some v := by
  have hnd := d.nodup
  change d.entries.lookup k = some v
  generalize d.entries = es at h hnd
  induction es with
  | nil => simp at h
  | cons e es ih =>
    rw [List.map_cons, List.nodup_cons] at hnd
    rw [lookup_cons_eq_ite]
    rcases List.mem_cons.mp h with rfl | h
    · simp
    -- a later entry has another key than the first
    · have hne : k ≠ e.1 := by
        rintro rfl
        exact hnd.1 (List.mem_map.mpr ⟨_, h, rfl⟩)
      rw [if_neg hne, ih h hnd.2]

/-- What a key reads back is an entry. -/
theorem mem_of_get? {d : Dict κ α} {k : κ} {v : α} (h : d.get? k = some v) :
    (k, v) ∈ d.entries := by
  change d.entries.lookup k = some v at h
  generalize d.entries = es at h
  induction es with
  | nil => simp at h
  | cons e es ih =>
    rw [lookup_cons_eq_ite] at h
    split at h
    · next hk =>
      rw [hk, ← Option.some.inj h]
      exact List.mem_cons_self
    · exact List.mem_cons_of_mem _ (ih h)

/-- **A new key goes to the end.** -/
theorem entries_insert_of_notMem {d : Dict κ α} {k : κ} (v : α) (h : k ∉ d.keys) :
    (d.insert k v).entries = d.entries ++ [(k, v)] :=
  setEntry_of_notMem h

/-- **The youngest key is replaced in place.** -/
theorem entries_insert_last {d : Dict κ α} {k : κ} {v w : α} {es : List (κ × α)}
    (h : d.entries = es ++ [(k, v)]) : (d.insert k w).entries = es ++ [(k, w)] := by
  have hnot : k ∉ es.map Prod.fst := by
    have hnd := d.nodup
    rw [h, List.map_append] at hnd
    intro hmem
    exact (List.nodup_append.mp hnd).2.2 k hmem k (by simp) rfl
  change setEntry k w d.entries = _
  rw [h, setEntry_append_of_notMem hnot]
  simp [setEntry]

/-- **Counting up one key counts up the sum.** -/
theorem sum_values_insert_add (d : Dict κ ℕ) (k : κ) (n : ℕ) :
    (d.insert k (d.getD k 0 + n)).values.sum = d.values.sum + n := by
  change ((setEntry k ((d.entries.lookup k).getD 0 + n) d.entries).map Prod.snd).sum =
    (d.entries.map Prod.snd).sum + n
  generalize d.entries = es
  induction es with
  | nil => simp [setEntry]
  | cons e es ih =>
    rw [lookup_cons_eq_ite]
    unfold setEntry
    -- the entry of the key grows in place, or one is added at the end
    by_cases h : k = e.1
    · rw [if_pos h, if_pos h.symm]
      simp only [List.map_cons, List.sum_cons, Option.getD_some]
      omega
    · rw [if_neg h, if_neg (Ne.symm h), List.map_cons, List.sum_cons, ih, List.map_cons,
        List.sum_cons, Nat.add_assoc]

/-! ### Dictionaries that only grow -/

/-- Every key of `d` is a key of `d'`, with a value that is no smaller. -/
def Grows [LE α] (d d' : Dict κ α) : Prop :=
  ∀ k v, d.get? k = some v → ∃ v', d'.get? k = some v' ∧ v ≤ v'

theorem Grows.refl [Preorder α] (d : Dict κ α) : d.Grows d := fun _ v h => ⟨v, h, le_rfl⟩

theorem Grows.trans [Preorder α] {d₁ d₂ d₃ : Dict κ α} (h : d₁.Grows d₂) (h' : d₂.Grows d₃) :
    d₁.Grows d₃ := by
  intro k v hv
  obtain ⟨v', hv', hle⟩ := h k v hv
  obtain ⟨v'', hv'', hle'⟩ := h' k v' hv'
  exact ⟨v'', hv'', hle.trans hle'⟩

/-- **A write that is no smaller than what was there lets a dictionary grow.** -/
theorem grows_insert [Preorder α] {d : Dict κ α} {k : κ} {v : α}
    (h : ∀ v', d.get? k = some v' → v' ≤ v) : d.Grows (d.insert k v) := by
  intro k' v' hv'
  rw [get?_insert]
  split
  · next hk =>
    rw [hk] at hv'
    exact ⟨v, rfl, h v' hv'⟩
  · exact ⟨v', hv', le_rfl⟩

end Decidable

end Dict
