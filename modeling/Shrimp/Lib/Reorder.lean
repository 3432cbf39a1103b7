import Mathlib.Data.List.Infix
import Mathlib.Data.List.Perm.Basic
import Shrimp.Lib.Dict

/-!
# What does not depend on the order

Contributions are put together one after another: lists by appending,
dictionaries by writing one over the other.  The result is the same for every
order exactly when any two contributions commute.  For dictionaries this says
that one list of keys begins with the other and that common keys have the same
value.

## Main definitions

* `Dict.write` — write a sequence of entries.
* `Dict.Compatible` — one dictionary's keys begin with the other's, and common
  keys have the same value.

## Main results

* `List.flatMap_eq_of_perm` — commuting lists may be appended in any order.
* `Dict.ofList_append` — a sequence of writes is a merge.
* `Dict.merge_comm_of_compatible`, `Dict.compatible_of_merge` — **two dictionaries
  commute exactly when they are compatible**, even when others are written before
  and after them.
* `Dict.ofList_flatMap_eq_of_perm` — compatible dictionaries may be merged in any
  order.
-/

theorem List.flatMap_eq_of_perm {α β : Type*} {f : α → List β} {l l' : List α} (hp : l.Perm l')
    (h : ∀ x ∈ l, ∀ y ∈ l, f x ++ f y = f y ++ f x) : l.flatMap f = l'.flatMap f := by
  rw [List.flatMap_eq_foldl, List.flatMap_eq_foldl]
  refine hp.foldl_eq' (fun x hx y hy z => ?_) []
  rw [List.append_assoc, List.append_assoc, h x hx y hy]

/-- Texts with separators between them, and one before them. -/
theorem List.append_intercalate {α : Type*} (sep : List α) {l : List (List α)} (h : l ≠ []) :
    sep ++ sep.intercalate l = l.flatMap (sep ++ ·) := by
  induction l with
  | nil => exact absurd rfl h
  | cons x l ih =>
    cases l with
    | nil => simp
    | cons y l =>
      rw [List.intercalate_cons_cons, List.flatMap_cons, ← ih (List.cons_ne_nil _ _)]
      simp only [List.append_assoc]

/-- Texts with separators between them are equal when they are with separators
before them. -/
theorem List.intercalate_eq_iff {α : Type*} (sep : List α) {l l' : List (List α)}
    (h : l = [] ↔ l' = []) :
    sep.intercalate l = sep.intercalate l' ↔ l.flatMap (sep ++ ·) = l'.flatMap (sep ++ ·) := by
  by_cases hl : l = []
  · rw [hl, h.mp hl]
    simp
  · rw [← List.append_intercalate sep hl, ← List.append_intercalate sep (mt h.mpr hl),
      List.append_cancel_left_eq]

/-- What distributes over appending distributes over a list of lists. -/
theorem List.flatMap_of_append {α β γ : Type*} {F : List β → List γ} (hnil : F [] = [])
    (happend : ∀ a b, F (a ++ b) = F a ++ F b) (f : α → List β) (l : List α) :
    F (l.flatMap f) = l.flatMap fun x => F (f x) := by
  induction l with
  | nil => exact hnil
  | cons x l ih => rw [List.flatMap_cons, happend, ih, List.flatMap_cons]

theorem List.infix_intercalate {α : Type*} (sep : List α) {x : List α} {l : List (List α)}
    (h : x ∈ l) : x <:+: sep.intercalate l := by
  induction l with
  | nil => cases h
  | cons y l ih =>
    cases l with
    | nil =>
      rw [List.mem_singleton.mp h, List.intercalate_singleton]
    | cons z l =>
      rw [List.intercalate_cons_cons]
      rcases List.mem_cons.mp h with rfl | h
      · rw [List.append_assoc]
        exact (List.prefix_append x _).isInfix
      · exact (ih h).trans (List.suffix_append _ _).isInfix

namespace Dict

universe u v

variable {κ : Type u} {α : Type v}

/-- A dictionary is its keys and what they read back. -/
theorem eq_of_keys_of_get? [DecidableEq κ] {d e : Dict κ α} (hkeys : d.keys = e.keys)
    (hget : ∀ k, d.get? k = e.get? k) : d = e := by
  obtain ⟨es, hes⟩ := d
  obtain ⟨fs, hfs⟩ := e
  have hentries : es = fs := by
    refine List.ext_getElem ?_ fun n hn hn' => ?_
    · simpa [keys] using congrArg List.length hkeys
    -- entries at one place have one key, and what the key reads back is the value of both
    · have hkey : es[n].1 = fs[n].1 := by
        have hn'' := congrArg (fun l => l[n]?) hkeys
        simpa [keys, hn, hn'] using hn''
      have hval := hget es[n].1
      have hleft := get?_of_mem (d := ⟨es, hes⟩) (k := es[n].1) (v := es[n].2) (List.getElem_mem hn)
      have hright := get?_of_mem (d := ⟨fs, hfs⟩) (k := fs[n].1) (v := fs[n].2)
        (List.getElem_mem hn')
      rw [hleft, hkey, hright] at hval
      exact Prod.ext hkey (Option.some.inj hval)
  cases hentries
  rfl

variable [DecidableEq κ]

/-- Write a sequence of entries, in order. -/
def write (d : Dict κ α) (es : List (κ × α)) : Dict κ α :=
  es.foldl (fun d e => d.insert e.1 e.2) d

theorem write_append (d : Dict κ α) (es fs : List (κ × α)) :
    d.write (es ++ fs) = (d.write es).write fs :=
  List.foldl_append

theorem keys_insert (d : Dict κ α) (k : κ) (v : α) :
    (d.insert k v).keys = if k ∈ d.keys then d.keys else d.keys ++ [k] := by
  change (setEntry k v d.entries).map Prod.fst = if k ∈ d.entries.map Prod.fst then
    d.entries.map Prod.fst else d.entries.map Prod.fst ++ [k]
  generalize d.entries = es
  induction es with
  | nil => rfl
  | cons e es ih =>
    unfold setEntry
    by_cases h : e.1 = k
    · rw [if_pos h, if_pos (by rw [List.map_cons, h]; exact List.mem_cons_self), List.map_cons,
        List.map_cons, h]
    · rw [if_neg h, List.map_cons, List.map_cons, ih]
      by_cases hmem : k ∈ es.map Prod.fst
      · rw [if_pos hmem, if_pos (List.mem_cons_of_mem _ hmem)]
      · have hnot : k ∉ e.1 :: es.map Prod.fst := by
          intro hin
          rcases List.mem_cons.mp hin with heq | hin
          · exact h heq.symm
          · exact hmem hin
        rw [if_neg hmem, if_neg hnot, List.cons_append]

/-- **Writing a key again.** -/
theorem insert_insert (d : Dict κ α) (k : κ) (v w : α) :
    (d.insert k v).insert k w = d.insert k w := by
  refine eq_of_keys_of_get? ?_ fun k' => ?_
  · rw [keys_insert, keys_insert d k w, keys_insert]
    by_cases h : k ∈ d.keys
    · rw [if_pos h, if_pos h]
    · rw [if_neg h, if_pos (List.mem_append_right _ (List.mem_singleton_self _))]
  · rw [get?_insert, get?_insert, get?_insert]
    split
    · rfl
    · rfl

/-- The last entry written under a key is read back. -/
theorem get?_write (d : Dict κ α) (es : List (κ × α)) (k : κ) :
    (d.write es).get? k = (es.reverse.lookup k).or (d.get? k) := by
  induction es generalizing d with
  | nil => rfl
  | cons e es ih =>
    have hcons : d.write (e :: es) = (d.insert e.1 e.2).write es := rfl
    rw [hcons, ih, get?_insert, List.reverse_cons, List.lookup_append, lookup_cons_eq_ite,
      Option.or_assoc]
    split
    · rfl
    · rfl

/-- New keys come after the old ones, in the order they are first written. -/
theorem keys_write (d : Dict κ α) (es : List (κ × α)) :
    (d.write es).keys = d.keys ++ (write ∅ es).keys.filter (· ∉ d.keys) := by
  induction es using List.reverseRecOn with
  | nil => exact (List.append_nil _).symm
  | append_singleton es e ih =>
    rw [write_append, write_append]
    change ((d.write es).insert e.1 e.2).keys =
      d.keys ++ ((write ∅ es).insert e.1 e.2).keys.filter _
    rw [keys_insert, keys_insert, ih]
    -- a key of `d` is written over, any other goes behind those before it
    by_cases hd : e.1 ∈ d.keys
    · rw [if_pos (List.mem_append_left _ hd)]
      split
      · rfl
      · rw [List.filter_append, List.filter_cons_of_neg (by simpa using hd), List.filter_nil,
          List.append_nil]
    · by_cases hes : e.1 ∈ (write ∅ es).keys
      · have hin : e.1 ∈ d.keys ++ (write ∅ es).keys.filter (· ∉ d.keys) :=
          List.mem_append_right _ (List.mem_filter.mpr ⟨hes, by simpa using hd⟩)
        rw [if_pos hes, if_pos hin]
      · have hnot : e.1 ∉ d.keys ++ (write ∅ es).keys.filter (· ∉ d.keys) := by
          intro hin
          rcases List.mem_append.mp hin with hin | hin
          · exact hd hin
          · exact hes (List.mem_filter.mp hin).1
        rw [if_neg hes, if_neg hnot, List.filter_append,
          List.filter_cons_of_pos (by simpa using hd), List.filter_nil, List.append_assoc]

theorem entries_write_of_nodup {d : Dict κ α} {es : List (κ × α)}
    (h : (d.keys ++ es.map Prod.fst).Nodup) : (d.write es).entries = d.entries ++ es := by
  induction es generalizing d with
  | nil => exact (List.append_nil _).symm
  | cons e es ih =>
    have hnot : e.1 ∉ d.keys := by
      intro hin
      exact (List.nodup_append.mp h).2.2 e.1 hin e.1 (by simp) rfl
    have hentries := entries_insert_of_notMem (d := d) e.2 hnot
    change ((d.insert e.1 e.2).write es).entries = _
    rw [ih, hentries, List.append_assoc, List.singleton_append]
    rw [keys_insert, if_neg hnot, List.append_assoc]
    exact h

/-- A dictionary is what writing its entries builds. -/
theorem ofList_entries (d : Dict κ α) : ofList d.entries = d := by
  obtain ⟨es, hes⟩ := d
  have hwrite : (ofList es).entries = es := entries_write_of_nodup (d := ∅) hes
  cases hd : ofList es with
  | mk fs hfs =>
    rw [hd] at hwrite
    cases hwrite
    rfl

/-- **Reading from one dictionary written over another.** -/
theorem get?_merge (d e : Dict κ α) (k : κ) :
    (d.merge e).get? k = (e.get? k).or (d.get? k) := by
  have hself : (write ∅ e.entries).get? k = e.get? k := congrArg (Dict.get? · k) (ofList_entries e)
  rw [get?_write, get?_empty, Option.or_none] at hself
  exact (get?_write d e.entries k).trans (by rw [hself])

theorem keys_merge (d e : Dict κ α) :
    (d.merge e).keys = d.keys ++ e.keys.filter (· ∉ d.keys) := by
  have hself : (write ∅ e.entries).keys = e.keys := congrArg Dict.keys (ofList_entries e)
  exact (keys_write d e.entries).trans (by rw [hself])

/-- Writing a sequence is merging what it builds. -/
theorem write_eq_merge (d : Dict κ α) (es : List (κ × α)) : d.write es = d.merge (ofList es) := by
  refine eq_of_keys_of_get? ?_ fun k => ?_
  · rw [keys_write, keys_merge]
    rfl
  · rw [get?_write, get?_merge]
    have hof : (ofList es).get? k = (es.reverse.lookup k).or none := get?_write ∅ es k
    rw [hof, Option.or_none]

/-- **A sequence of writes is a merge.** -/
theorem ofList_append (es fs : List (κ × α)) : ofList (es ++ fs) = (ofList es).merge (ofList fs) :=
  (write_append ∅ es fs).trans (write_eq_merge _ fs)

theorem merge_assoc (a b c : Dict κ α) : (a.merge b).merge c = a.merge (b.merge c) := by
  rw [← ofList_entries a, ← ofList_entries b, ← ofList_entries c, ← ofList_append,
    ← ofList_append, ← ofList_append, ← ofList_append, List.append_assoc]

/-- **The last entry written under a key is the one that stays.** -/
theorem mem_ofList_iff {es : List (κ × α)} {k : κ} {v : α} :
    (k, v) ∈ (ofList es).entries ↔
      ∃ before after, es = before ++ (k, v) :: after ∧ k ∉ after.map Prod.fst := by
  have hget : (k, v) ∈ (ofList es).entries ↔ (ofList es).get? k = some v :=
    ⟨get?_of_mem, mem_of_get?⟩
  rw [hget]
  clear hget
  induction es using List.reverseRecOn with
  | nil => simp [ofList]
  | append_singleton es e ih =>
    have hlast : ofList (es ++ [e]) = (ofList es).insert e.1 e.2 := write_append ∅ es [e]
    rw [hlast, get?_insert]
    -- the last entry is read back under its own key, and hides earlier ones of that key
    split
    · next hk =>
      refine ⟨fun hv => ⟨es, [], ?_, by simp⟩, ?_⟩
      · rw [hk, ← Option.some.inj hv]
      · rintro ⟨before, after, hes, hnot⟩
        cases after using List.reverseRecOn with
        | nil =>
          obtain ⟨-, he⟩ := List.append_inj' hes rfl
          cases he
          rfl
        | append_singleton after a =>
          rw [← List.cons_append, ← List.append_assoc] at hes
          obtain ⟨-, he⟩ := List.append_inj' hes rfl
          cases he
          exact absurd (by simp [hk]) hnot
    -- another key reads back what it did before the last entry
    · next hk =>
      refine Iff.trans ih ?_
      constructor
      · rintro ⟨before, after, rfl, hnot⟩
        exact ⟨before, after ++ [e], by simp, by simpa using ⟨by simpa using hnot, hk⟩⟩
      · rintro ⟨before, after, hes, hnot⟩
        cases after using List.reverseRecOn with
        | nil =>
          obtain ⟨-, he⟩ := List.append_inj' hes rfl
          cases he
          exact absurd rfl hk
        | append_singleton after a =>
          rw [← List.cons_append, ← List.append_assoc] at hes
          obtain ⟨hes, -⟩ := List.append_inj' hes rfl
          refine ⟨before, after, hes, fun hin => hnot ?_⟩
          rw [List.map_append]
          exact List.mem_append_left _ hin

/-- **Compatible dictionaries**: the keys of one begin with those of the other, and
common keys have the same value. -/
structure Compatible (d e : Dict κ α) : Prop where
  keys : d.keys <+: e.keys ∨ e.keys <+: d.keys
  values : ∀ k v w, d.get? k = some v → e.get? k = some w → v = w

theorem Compatible.symm {d e : Dict κ α} (h : d.Compatible e) : e.Compatible d :=
  ⟨h.keys.symm, fun k v w hv hw => (h.values k w v hw hv).symm⟩

/-- The keys of a dictionary written over one with fewer of its keys. -/
theorem keys_merge_of_begins {d e : Dict κ α} (h : d.keys <+: e.keys) :
    (d.merge e).keys = e.keys ∧ (e.merge d).keys = e.keys := by
  obtain ⟨more, hmore⟩ := h
  have hnd : (d.keys ++ more).Nodup := by
    rw [hmore]
    exact e.nodup
  rw [keys_merge, keys_merge, ← hmore, List.filter_append]
  -- the keys of `d` come first in both, so that neither merge adds one to them
  have hself : d.keys.filter (· ∉ d.keys) = [] :=
    List.filter_eq_nil_iff.mpr fun k hk => by simpa using hk
  have hnew : more.filter (· ∉ d.keys) = more :=
    List.filter_eq_self.mpr fun k hk => by
      simpa using fun hin => (List.nodup_append.mp hnd).2.2 k hin k hk rfl
  have hall : d.keys.filter (· ∉ d.keys ++ more) = [] :=
    List.filter_eq_nil_iff.mpr fun k hk => by simp [hk]
  rw [hself, hnew, hall, List.nil_append, List.append_nil]
  exact ⟨rfl, rfl⟩

/-- **Compatible dictionaries commute.** -/
theorem merge_comm_of_compatible {d e : Dict κ α} (h : d.Compatible e) :
    d.merge e = e.merge d := by
  refine eq_of_keys_of_get? ?_ fun k => ?_
  · rcases h.keys with hpre | hpre
    · rw [(keys_merge_of_begins hpre).1, (keys_merge_of_begins hpre).2]
    · rw [(keys_merge_of_begins hpre).1, (keys_merge_of_begins hpre).2]
  · rw [get?_merge, get?_merge]
    cases hd : d.get? k with
    | none => rw [Option.or_none, Option.none_or]
    | some v =>
      cases he : e.get? k with
      | none => rfl
      | some w => rw [h.values k v w hd he]

/-- **Dictionaries that commute are compatible**, also when one is written after
them and one before: the first shows the order of the keys, the second the
values. -/
theorem compatible_of_merge {d e after before : Dict κ α}
    (hafter : (d.merge e).merge after = (e.merge d).merge after)
    (hbefore : before.merge (d.merge e) = before.merge (e.merge d)) : d.Compatible e := by
  have hmem : ∀ k, k ∈ (d.merge e).keys ↔ k ∈ (e.merge d).keys := by
    intro k
    rw [mem_keys_iff, mem_keys_iff, contains, contains, get?_merge, get?_merge, Option.isSome_or,
      Option.isSome_or, Bool.or_comm]
  have hlen : (d.merge e).keys.length = (e.merge d).keys.length :=
    ((List.perm_ext_iff_of_nodup (d.merge e).nodup (e.merge d).nodup).mpr hmem).length_eq
  have hkeys : (d.merge e).keys = (e.merge d).keys := by
    have hall := congrArg Dict.keys hafter
    rw [keys_merge, keys_merge (e.merge d)] at hall
    exact (List.append_inj hall hlen).1
  refine ⟨?_, fun k v w hv hw => ?_⟩
  · have hd : d.keys <+: (d.merge e).keys := by
      rw [keys_merge]
      exact List.prefix_append _ _
    have he : e.keys <+: (d.merge e).keys := by
      rw [hkeys, keys_merge]
      exact List.prefix_append _ _
    exact List.prefix_or_prefix_of_prefix hd he
  · have hget := congrArg (Dict.get? · k) hbefore
    simp only [get?_merge, hv, hw, Option.some_or, Option.some.injEq] at hget
    exact hget.symm

/-- **Compatible dictionaries may be merged in any order.** -/
theorem ofList_flatMap_eq_of_perm {β : Type*} {f : β → List (κ × α)} {l l' : List β}
    (hp : l.Perm l')
    (h : ∀ x ∈ l, ∀ y ∈ l, (ofList (f x)).Compatible (ofList (f y))) :
    ofList (l.flatMap f) = ofList (l'.flatMap f) := by
  have hfold : ∀ (l : List β) (es : List (κ × α)),
      ofList (es ++ l.flatMap f) = l.foldl (fun d x => d.merge (ofList (f x))) (ofList es) := by
    intro l
    induction l with
    | nil => exact fun es => by rw [List.flatMap_nil, List.append_nil]; rfl
    | cons x l ih =>
      intro es
      rw [List.flatMap_cons, ← List.append_assoc, ih, List.foldl_cons, ofList_append]
  have hl := hfold l []
  have hl' := hfold l' []
  rw [List.nil_append] at hl hl'
  rw [hl, hl']
  refine hp.foldl_eq' (fun x hx y hy z => ?_) _
  rw [merge_assoc, merge_assoc, merge_comm_of_compatible (h x hx y hy)]

end Dict
