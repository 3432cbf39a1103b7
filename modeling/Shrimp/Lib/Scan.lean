import Mathlib.Data.List.Basic
import Mathlib.Data.List.Infix

/-!
# Scanning a text for a pattern

A scanner goes through a text from left to right and, where its pattern matches,
takes the match and goes on behind it: so do `re.sub`, `re.finditer` and
`str.replace` with patterns that match no empty text.  A pattern is a function of
the rest of the text; the pieces a scan cuts the text into are what substitution
and the list of matches are read off.

## Main definitions

* `Pattern α β` — what matches at the head of a text, with data `β` of the match.
* `Pattern.pieces` — the pieces a scan cuts a text into.
* `Pattern.sub` — every match replaced.
* `Pattern.subWith` — the same, by what may depend on the text before the match.
* `Pattern.finditer` — every match with its place.
* `Pattern.Occurs` — the pattern matches somewhere.
* `Pattern.unmatched` — where a scan stands and finds nothing.
* `Pattern.literal` — the pattern of one text.
* `Fading` — a rewriting that lowers the number of some symbols, or changes nothing.

## Main results

* `Pattern.induction` — induction along a scan.
* `Pattern.sub_append` — a text in which no match begins is passed over.
* `Pattern.sub_eq_self` — a text in which the pattern does not occur stays.
* `Pattern.pairwise_finditer` — the matches come in order and do not overlap.
* `Pattern.finditerFrom_append` — the matches of a text are those of its parts, where
  no match crosses from one to the other.
* `Pattern.fading_sub` — **a substitution that lowers the number of some symbols
  in every match changes every text in which its pattern occurs.**
* `Fading.foldl` — the same for one such rewriting after another.
-/

/-! ### Reading across a symbol -/

section

variable {α : Type*} {a : α}

/-- A text without a symbol does not begin across it. -/
theorem List.prefix_append_cons_iff {start : List α} (h : a ∉ start) (s t : List α) :
    start <+: s ++ a :: t ↔ start <+: s := by
  refine ⟨fun hpre => ?_, fun hpre => hpre.trans (List.prefix_append s _)⟩
  rcases List.prefix_or_prefix_of_prefix hpre (List.prefix_append s (a :: t)) with hs | ⟨w, rfl⟩
  · exact hs
  · have hw : w <+: a :: t := (List.prefix_append_right_inj s).mp hpre
    cases w with
    | nil => rw [List.append_nil]
    | cons b w =>
      obtain ⟨rfl, -⟩ := List.cons_prefix_cons.mp hw
      exact absurd (List.mem_append_right s List.mem_cons_self) h

/-- A text without a symbol lies on one side of it. -/
theorem List.infix_append_cons_iff {w : List α} (h : a ∉ w) (s t : List α) :
    w <:+: s ++ a :: t ↔ w <:+: s ∨ w <:+: t := by
  constructor
  · intro hin
    rcases List.infix_append_iff.mp hin with hs | ht | ⟨x, y, rfl, hx, hy⟩
    · exact .inl hs
    · rcases List.infix_cons_iff.mp ht with hpre | ht
      · have hnil : w <+: [] := (List.prefix_append_cons_iff h [] t).mp hpre
        exact .inl (hnil.isInfix.trans List.nil_infix)
      · exact .inr ht
    · have hnil : y <+: [] :=
        (List.prefix_append_cons_iff (fun hmem => h (List.mem_append_right x hmem)) [] t).mp hy
      rw [List.prefix_nil.mp hnil, List.append_nil]
      exact .inl hx.isInfix
  · rintro (hs | ht)
    · exact hs.trans (List.prefix_append s _).isInfix
    · exact ht.trans ((List.suffix_cons a t).trans (List.suffix_append s _)).isInfix

/-- A text that begins with a symbol lies behind what does not have it. -/
theorem List.infix_of_infix_append_left {v s t : List α} (h : a ∉ s)
    (hin : a :: v <:+: s ++ t) : a :: v <:+: t := by
  rcases List.infix_append_iff.mp hin with hs | ht | ⟨x, y, heq, hx, hy⟩
  · exact absurd (hs.subset List.mem_cons_self) h
  · exact ht
  · cases x with
    | nil =>
      rw [heq]
      exact hy.isInfix
    | cons b x =>
      rw [(List.cons.inj heq).1] at h
      exact absurd (hx.subset List.mem_cons_self) h

theorem List.infix_of_infix_append_right {v s t : List α} (h : a ∉ t)
    (hin : v ++ [a] <:+: s ++ t) : v ++ [a] <:+: s := by
  rw [← List.reverse_infix, List.reverse_append, List.reverse_append, List.reverse_singleton,
    List.singleton_append] at hin
  have hrev := List.infix_of_infix_append_left (fun hmem => h (List.mem_reverse.mp hmem)) hin
  rwa [← List.reverse_infix, List.reverse_append]

theorem List.takeWhile_append_cons {q : α → Bool} (h : q a = false) (s t : List α) :
    (s ++ a :: t).takeWhile q = s.takeWhile q := by
  induction s with
  | nil => exact List.takeWhile_cons_of_neg (by simp [h])
  | cons b s ih =>
    rw [List.cons_append, List.takeWhile_cons, List.takeWhile_cons]
    split
    · rw [ih]
    · rfl

theorem List.dropWhile_append_cons {q : α → Bool} (h : q a = false) (s t : List α) :
    (s ++ a :: t).dropWhile q = s.dropWhile q ++ a :: t := by
  induction s with
  | nil => exact List.dropWhile_cons_of_neg (by simp [h])
  | cons b s ih =>
    rw [List.cons_append, List.dropWhile_cons, List.dropWhile_cons]
    split
    · exact ih
    · rfl

end

/-- What matches at the head of a text: the length of the match and its data.  No
match is empty. -/
@[ext] structure Pattern (α β : Type*) where
  find : List α → Option (ℕ × β)
  pos : ∀ {t n b}, find t = some (n, b) → 0 < n
  le : ∀ {t n b}, find t = some (n, b) → n ≤ t.length

/-- A piece of a scanned text. -/
inductive Piece (α β : Type*)
  /-- A symbol at which no match begins. -/
  | symbol (a : α)
  | found (text : List α) (b : β)

namespace Piece

variable {α β : Type*}

/-- The text of a piece. -/
def text : Piece α β → List α
  | symbol a => [a]
  | found t _ => t

/-- A piece with a match replaced. -/
def render (r : β → List α) : Piece α β → List α
  | symbol a => [a]
  | found _ b => r b

end Piece

namespace Pattern

variable {α β : Type*} (p : Pattern α β)

/-- The pieces of a text behind the first `n` symbols, which the match before has
taken. -/
def piecesFrom : ℕ → List α → List (Piece α β)
  | _, [] => []
  | n + 1, _ :: t => piecesFrom n t
  | 0, a :: t =>
    match p.find (a :: t) with
    | none => .symbol a :: piecesFrom 0 t
    | some (n, b) => .found ((a :: t).take n) b :: piecesFrom (n - 1) t

/-- **The pieces of a text.** -/
def pieces (t : List α) : List (Piece α β) := p.piecesFrom 0 t

/-- Replace every match. -/
def sub (r : β → List α) (t : List α) : List α := (p.pieces t).flatMap (Piece.render r)

/-- The matches of a list of pieces that begins at a place, each with its own place. -/
def finditerFrom : ℕ → List (Piece α β) → List (ℕ × List α × β)
  | _, [] => []
  | i, .symbol _ :: ps => finditerFrom (i + 1) ps
  | i, .found t b :: ps => (i, t, b) :: finditerFrom (i + t.length) ps

/-- Every match of a text, with its place. -/
def finditer (t : List α) : List (ℕ × List α × β) := finditerFrom 0 (p.pieces t)

/-- The pattern matches somewhere. -/
def Occurs (t : List α) : Prop := ∃ s, s <:+ t ∧ (p.find s).isSome

instance (t : List α) : Decidable (p.Occurs t) :=
  decidable_of_iff (∃ s ∈ t.tails, (p.find s).isSome) (by simp [Occurs, List.mem_tails])

variable {p} {r : β → List α} {t : List α}

theorem piecesFrom_eq (n : ℕ) (t : List α) : p.piecesFrom n t = p.pieces (t.drop n) := by
  induction n generalizing t with
  | zero => rfl
  | succ n ih =>
    cases t with
    | nil => simp [piecesFrom, pieces]
    | cons a t => exact ih t

@[simp] theorem pieces_nil : p.pieces [] = [] := rfl

theorem pieces_of_eq_none {a : α} (h : p.find (a :: t) = none) :
    p.pieces (a :: t) = .symbol a :: p.pieces t := by
  simp only [pieces, piecesFrom, h]

theorem pieces_of_eq_some {n : ℕ} {b : β} (h : p.find t = some (n, b)) :
    p.pieces t = .found (t.take n) b :: p.pieces (t.drop n) := by
  cases t with
  | nil =>
    have hle := p.le h
    have hpos := p.pos h
    rw [List.length_nil] at hle
    omega
  | cons a t =>
    have hpos := p.pos h
    obtain ⟨m, rfl⟩ := Nat.exists_eq_succ_of_ne_zero hpos.ne'
    simp only [pieces, piecesFrom, h]
    rw [piecesFrom_eq]
    rfl

/-- **Induction along a scan.** -/
theorem induction (p : Pattern α β) {C : List α → Prop} (nil : C [])
    (symbol : ∀ a t, p.find (a :: t) = none → C t → C (a :: t))
    (found : ∀ t n b, p.find t = some (n, b) → C (t.drop n) → C t) (t : List α) : C t := by
  induction hn : t.length using Nat.strong_induction_on generalizing t with
  | h n ih =>
    cases t with
    | nil => exact nil
    | cons a t =>
      cases hf : p.find (a :: t) with
      | none =>
        refine symbol a t hf (ih t.length ?_ t rfl)
        rw [← hn, List.length_cons]
        omega
      | some m =>
        obtain ⟨m, b⟩ := m
        -- a match is not empty, so that the text behind it is shorter
        refine found _ m b hf (ih _ ?_ _ rfl)
        have hpos := p.pos hf
        rw [← hn, List.length_drop, List.length_cons]
        omega

/-- A match among the pieces is what the pattern finds somewhere. -/
theorem exists_find_of_mem_pieces {s : List α} {b : β} (h : .found s b ∈ p.pieces t) :
    ∃ u n, p.find u = some (n, b) := by
  induction t using p.induction with
  | nil => cases h
  | symbol a t hnone ih =>
    rw [pieces_of_eq_none hnone] at h
    rcases List.mem_cons.mp h with h | h
    · cases h
    · exact ih h
  | found t n b' hsome ih =>
    rw [pieces_of_eq_some hsome] at h
    rcases List.mem_cons.mp h with h | h
    · cases h
      exact ⟨t, n, hsome⟩
    · exact ih h

/-! ### Substitution -/

@[simp] theorem sub_nil : p.sub r [] = [] := rfl

theorem sub_of_eq_none {a : α} (h : p.find (a :: t) = none) :
    p.sub r (a :: t) = a :: p.sub r t := by
  simp only [sub, pieces_of_eq_none h, List.flatMap_cons, Piece.render, List.singleton_append]

theorem sub_of_eq_some {n : ℕ} {b : β} (h : p.find t = some (n, b)) :
    p.sub r t = r b ++ p.sub r (t.drop n) := by
  simp only [sub, pieces_of_eq_some h, List.flatMap_cons, Piece.render]

/-- **A text in which no match begins is passed over.** -/
theorem sub_append {s : List α} (h : ∀ u, u <:+ s → u ≠ [] → p.find (u ++ t) = none) :
    p.sub r (s ++ t) = s ++ p.sub r t := by
  induction s with
  | nil => rfl
  | cons a s ih =>
    have hhead : p.find (a :: (s ++ t)) = none :=
      h (a :: s) List.suffix_rfl (List.cons_ne_nil _ _)
    rw [List.cons_append, sub_of_eq_none hhead,
      ih fun u hu => h u (hu.trans (List.suffix_cons a s)), List.cons_append]

/-- A text in which the pattern does not occur stays. -/
theorem sub_eq_self (h : ¬p.Occurs t) : p.sub r t = t := by
  have hnone : ∀ u, u <:+ t → u ≠ [] → p.find (u ++ []) = none := by
    intro u hu _
    rw [List.append_nil]
    by_contra hne
    exact h ⟨u, hu, Option.isSome_iff_ne_none.mpr hne⟩
  have happ := sub_append (r := r) hnone
  rwa [sub_nil, List.append_nil] at happ

/-- An occurrence lies at the head or behind it. -/
theorem occurs_cons {a : α} : p.Occurs (a :: t) ↔ (p.find (a :: t)).isSome ∨ p.Occurs t := by
  constructor
  · rintro ⟨s, hs, hsome⟩
    rcases List.suffix_cons_iff.mp hs with rfl | hs
    · exact .inl hsome
    · exact .inr ⟨s, hs, hsome⟩
  · rintro (hsome | ⟨s, hs, hsome⟩)
    · exact ⟨_, List.suffix_rfl, hsome⟩
    · exact ⟨s, hs.trans (List.suffix_cons a t), hsome⟩

theorem not_occurs_nil : ¬p.Occurs [] := by
  rintro ⟨s, hs, hsome⟩
  obtain rfl := List.suffix_nil.mp hs
  obtain ⟨⟨n, b⟩, h⟩ := Option.isSome_iff_exists.mp hsome
  have hle := p.le h
  have hpos := p.pos h
  rw [List.length_nil] at hle
  omega

/-- A pattern that matches only where another does occurs only where it does. -/
theorem Occurs.imp {γ : Type*} {q : Pattern α γ}
    (h : ∀ t, (p.find t).isSome → (q.find t).isSome) : p.Occurs t → q.Occurs t := by
  rintro ⟨s, hs, hsome⟩
  exact ⟨s, hs, h s hsome⟩

/-! ### The matches -/

/-- **Where a match lies**: it is what the pattern finds there. -/
theorem mem_finditerFrom {k : ℕ} {m : ℕ × List α × β} (h : m ∈ finditerFrom k (p.pieces t)) :
    ∃ u v, t = u ++ (m.2.1 ++ v) ∧ m.1 = k + u.length ∧
      p.find (m.2.1 ++ v) = some (m.2.1.length, m.2.2) := by
  induction t using p.induction generalizing k with
  | nil => cases h
  | symbol a t hnone ih =>
    rw [pieces_of_eq_none hnone] at h
    obtain ⟨u, v, rfl, hk, hfind⟩ := ih h
    refine ⟨a :: u, v, rfl, ?_, hfind⟩
    rw [hk, List.length_cons]
    omega
  | found t n b hsome ih =>
    rw [pieces_of_eq_some hsome] at h
    rcases List.mem_cons.mp h with rfl | h
    -- the first match lies at the head
    · refine ⟨[], t.drop n, (List.take_append_drop n t).symm, rfl, ?_⟩
      rw [List.take_append_drop, hsome, List.length_take, Nat.min_eq_left (p.le hsome)]
    -- the others lie in what is left behind it
    · obtain ⟨u, v, hdrop, hk, hfind⟩ := ih h
      refine ⟨t.take n ++ u, v, ?_, ?_, hfind⟩
      · rw [List.append_assoc, ← hdrop, List.take_append_drop]
      · rw [hk, List.length_append]
        omega

/-- The places of the matches of a text that begins elsewhere. -/
theorem finditerFrom_add (k i : ℕ) (ps : List (Piece α β)) :
    finditerFrom (k + i) ps = (finditerFrom i ps).map fun m => (k + m.1, m.2) := by
  induction ps generalizing i with
  | nil => rfl
  | cons piece ps ih =>
    cases piece with
    | symbol a => exact ih (i + 1)
    | found s b =>
      rw [finditerFrom, finditerFrom, List.map_cons, ← ih, Nat.add_assoc]

/-- **The matches come in order** and do not overlap. -/
theorem pairwise_finditer (p : Pattern α β) (t : List α) :
    (p.finditer t).Pairwise fun m m' => m.1 + m.2.1.length ≤ m'.1 := by
  have hfrom : ∀ k, (finditerFrom k (p.pieces t)).Pairwise
      fun m m' => m.1 + m.2.1.length ≤ m'.1 := by
    induction t using p.induction with
    | nil => exact fun k => List.Pairwise.nil
    | symbol a t hnone ih =>
      intro k
      rw [pieces_of_eq_none hnone]
      exact ih (k + 1)
    | found t n b hsome ih =>
      intro k
      rw [pieces_of_eq_some hsome]
      refine List.Pairwise.cons (fun m hm => ?_) (ih _)
      -- a later match begins no earlier than the text behind the first one
      obtain ⟨u, v, -, hk, -⟩ := mem_finditerFrom hm
      rw [hk]
      exact Nat.le_add_right _ _
  exact hfrom 0

/-! ### A text in two parts -/

/-- The suffixes at which a scan stands and finds nothing, behind the first `n`
symbols. -/
def unmatchedFrom (p : Pattern α β) : ℕ → List α → List (List α)
  | _, [] => []
  | n + 1, _ :: t => unmatchedFrom p n t
  | 0, a :: t =>
    match p.find (a :: t) with
    | none => (a :: t) :: unmatchedFrom p 0 t
    | some (n, _) => unmatchedFrom p (n - 1) t

/-- **The suffixes at which a scan stands and finds nothing.** -/
def unmatched (p : Pattern α β) (t : List α) : List (List α) := p.unmatchedFrom 0 t

theorem unmatchedFrom_eq (n : ℕ) (t : List α) : p.unmatchedFrom n t = p.unmatched (t.drop n) := by
  induction n generalizing t with
  | zero => rfl
  | succ n ih =>
    cases t with
    | nil => simp [unmatchedFrom, unmatched]
    | cons a t => exact ih t

theorem unmatched_of_eq_none {a : α} (h : p.find (a :: t) = none) :
    p.unmatched (a :: t) = (a :: t) :: p.unmatched t := by
  simp only [unmatched, unmatchedFrom, h]

theorem unmatched_of_eq_some {n : ℕ} {b : β} (h : p.find t = some (n, b)) :
    p.unmatched t = p.unmatched (t.drop n) := by
  cases t with
  | nil =>
    have hle := p.le h
    have hpos := p.pos h
    rw [List.length_nil] at hle
    omega
  | cons a t =>
    have hpos := p.pos h
    obtain ⟨m, rfl⟩ := Nat.exists_eq_succ_of_ne_zero hpos.ne'
    simp only [unmatched, unmatchedFrom, h]
    rw [unmatchedFrom_eq]
    rfl

theorem ne_nil_of_mem_unmatched {u : List α} (h : u ∈ p.unmatched t) : u ≠ [] := by
  induction t using p.induction with
  | nil => cases h
  | symbol a t hfind ih =>
    rw [unmatched_of_eq_none hfind] at h
    rcases List.mem_cons.mp h with rfl | h
    · exact List.cons_ne_nil _ _
    · exact ih h
  | found t n b hfind ih =>
    rw [unmatched_of_eq_some hfind] at h
    exact ih h

/-- **The matches of a text in two parts**, where what matches in the first part
matches there too, and where nothing matches nothing does. -/
theorem finditerFrom_append {s : List α}
    (hsome : ∀ u n b, u <:+ s → p.find u = some (n, b) → p.find (u ++ t) = some (n, b))
    (hnone : ∀ u ∈ p.unmatched s, p.find (u ++ t) = none) (k : ℕ) :
    finditerFrom k (p.pieces (s ++ t)) =
      finditerFrom k (p.pieces s) ++ finditerFrom (k + s.length) (p.pieces t) := by
  induction s using p.induction generalizing k with
  | nil => rfl
  | symbol a s hfind ih =>
    rw [unmatched_of_eq_none hfind] at hnone
    -- where no match of the first part begins, none of the whole does
    have hhead : p.find (a :: (s ++ t)) = none := hnone _ List.mem_cons_self
    rw [List.cons_append, pieces_of_eq_none hhead, pieces_of_eq_none hfind, finditerFrom,
      finditerFrom, ih (fun u n b hu => hsome u n b (hu.trans (List.suffix_cons a s)))
        (fun u hu => hnone u (List.mem_cons_of_mem _ hu)), List.length_cons]
    congr 2
    omega
  -- a match of the first part ends within it
  | found s n b hfind ih =>
    rw [unmatched_of_eq_some hfind] at hnone
    have hle := p.le hfind
    rw [pieces_of_eq_some (hsome s n b List.suffix_rfl hfind), pieces_of_eq_some hfind,
      List.take_append_of_le_length hle, List.drop_append_of_le_length hle, finditerFrom,
      finditerFrom, ih (fun u m c hu => hsome u m c (hu.trans (List.drop_suffix n s))) hnone,
      List.cons_append, List.length_take, List.length_drop, Nat.min_eq_left hle]
    congr 3
    omega

/-! ### Substitution that looks back -/

/-- The pieces with every match replaced, by what may depend on the text before it and
the match itself. -/
def renderFrom (r : List α → List α → β → List α) : List α → List (Piece α β) → List α
  | _, [] => []
  | before, .symbol a :: ps => a :: renderFrom r (before ++ [a]) ps
  | before, .found s b :: ps => r before s b ++ renderFrom r (before ++ s) ps

/-- **Replace every match**, by what may depend on the text before it. -/
def subWith (p : Pattern α β) (r : List α → List α → β → List α) (t : List α) : List α :=
  renderFrom r [] (p.pieces t)

section

variable {r : List α → List α → β → List α} {before : List α}

theorem renderFrom_of_eq_none {a : α} (h : p.find (a :: t) = none) :
    renderFrom r before (p.pieces (a :: t)) = a :: renderFrom r (before ++ [a]) (p.pieces t) := by
  rw [pieces_of_eq_none h, renderFrom]

theorem renderFrom_of_eq_some {n : ℕ} {b : β} (h : p.find t = some (n, b)) :
    renderFrom r before (p.pieces t) =
      r before (t.take n) b ++ renderFrom r (before ++ t.take n) (p.pieces (t.drop n)) := by
  rw [pieces_of_eq_some h, renderFrom]

/-- A text in which no match begins is passed over, and looked back at. -/
theorem renderFrom_append {s : List α} (h : ∀ u, u <:+ s → u ≠ [] → p.find (u ++ t) = none) :
    renderFrom r before (p.pieces (s ++ t)) = s ++ renderFrom r (before ++ s) (p.pieces t) := by
  induction s generalizing before with
  | nil => rw [List.nil_append, List.nil_append, List.append_nil]
  | cons a s ih =>
    have hhead : p.find (a :: (s ++ t)) = none :=
      h (a :: s) List.suffix_rfl (List.cons_ne_nil _ _)
    rw [List.cons_append, renderFrom_of_eq_none hhead,
      ih fun u hu => h u (hu.trans (List.suffix_cons a s)), List.append_assoc,
      List.singleton_append, List.cons_append]

/-- The pieces of a text in two parts, replaced one part after the other. -/
theorem renderFrom_pieces_append (ps qs : List (Piece α β)) :
    renderFrom r before (ps ++ qs) =
      renderFrom r before ps ++ renderFrom r (before ++ ps.flatMap Piece.text) qs := by
  induction ps generalizing before with
  | nil => rw [List.nil_append, renderFrom, List.nil_append, List.flatMap_nil, List.append_nil]
  | cons piece ps ih =>
    rw [List.cons_append, List.flatMap_cons, ← List.append_assoc before]
    cases piece with
    | symbol a => rw [renderFrom, renderFrom, ih, List.cons_append, Piece.text]
    | found s b => rw [renderFrom, renderFrom, ih, ← List.append_assoc, Piece.text]

/-- A text in which the pattern does not occur stays. -/
theorem renderFrom_eq_self (h : ¬p.Occurs t) : renderFrom r before (p.pieces t) = t := by
  have hnone : ∀ u, u <:+ t → u ≠ [] → p.find (u ++ []) = none := by
    intro u hu _
    rw [List.append_nil]
    by_contra hne
    exact h ⟨u, hu, Option.isSome_iff_ne_none.mpr hne⟩
  have happ : renderFrom r before (p.pieces (t ++ [])) =
      t ++ renderFrom r (before ++ t) (p.pieces []) := renderFrom_append hnone
  rwa [List.append_nil, pieces_nil, renderFrom, List.append_nil] at happ

end

end Pattern

/-! ### Rewritings that fade a text -/

/-- A rewriting that lowers the number of the symbols `q` picks, or changes nothing. -/
def Fading {α : Type*} (q : α → Bool) (f : List α → List α) : Prop :=
  ∀ t, (f t).countP q ≤ t.countP q ∧ ((f t).countP q = t.countP q → f t = t)

namespace Fading

variable {α : Type*} {q : α → Bool}

/-- **One rewriting after another**: where the number of symbols is the same in the
end, each of them has left the text as it was. -/
theorem foldl {fs : List (List α → List α)} (h : ∀ f ∈ fs, Fading q f) (t : List α) :
    (fs.foldl (fun t f => f t) t).countP q ≤ t.countP q ∧
      ((fs.foldl (fun t f => f t) t).countP q = t.countP q → ∀ f ∈ fs, f t = t) := by
  induction fs generalizing t with
  | nil => exact ⟨le_rfl, fun _ f hf => by cases hf⟩
  | cons f fs ih =>
    obtain ⟨hle, heq⟩ := h f List.mem_cons_self t
    obtain ⟨hle', heq'⟩ := ih (fun g hg => h g (List.mem_cons_of_mem _ hg)) (f t)
    rw [List.foldl_cons]
    refine ⟨hle'.trans hle, fun hsame => ?_⟩
    have hf : f t = t := heq (le_antisymm hle (hsame ▸ hle'))
    rw [hf] at heq' hsame
    intro g hg
    rcases List.mem_cons.mp hg with rfl | hg
    · exact hf
    · exact heq' hsame g hg

end Fading

namespace Pattern

variable {α β : Type*} {p : Pattern α β} {q : α → Bool} {r : β → List α}

/-- The replacement of every match has fewer of the symbols than the match. -/
def Lowers (p : Pattern α β) (q : α → Bool) (r : β → List α) : Prop :=
  ∀ t n b, p.find t = some (n, b) → (r b).countP q < (t.take n).countP q

theorem Lowers.countP_sub (h : p.Lowers q r) (t : List α) :
    (p.sub r t).countP q ≤ t.countP q ∧ (p.Occurs t → (p.sub r t).countP q < t.countP q) := by
  induction t using p.induction with
  | nil => exact ⟨le_rfl, fun hocc => absurd hocc not_occurs_nil⟩
  | symbol a t hnone ih =>
    rw [sub_of_eq_none hnone, List.countP_cons, List.countP_cons, occurs_cons, hnone]
    refine ⟨Nat.add_le_add_right ih.1 _, fun hocc => ?_⟩
    exact Nat.add_lt_add_right (ih.2 (hocc.resolve_left (by simp))) _
  | found t n b hsome ih =>
    have hlt := h t n b hsome
    have hcut : t.countP q = (t.take n).countP q + (t.drop n).countP q := by
      rw [← List.countP_append, List.take_append_drop]
    rw [sub_of_eq_some hsome, List.countP_append]
    refine ⟨?_, fun _ => ?_⟩ <;> omega

/-- **A substitution that lowers the number of some symbols fades.** -/
theorem fading_sub (h : p.Lowers q r) : Fading q (p.sub r) := by
  intro t
  obtain ⟨hle, hlt⟩ := h.countP_sub t
  refine ⟨hle, fun heq => sub_eq_self fun hocc => ?_⟩
  have hlt' := hlt hocc
  omega

/-- It changes exactly the texts in which its pattern occurs. -/
theorem Lowers.sub_eq_self_iff (h : p.Lowers q r) (t : List α) :
    p.sub r t = t ↔ ¬p.Occurs t := by
  refine ⟨fun heq hocc => ?_, sub_eq_self⟩
  have hlt := (h.countP_sub t).2 hocc
  rw [heq] at hlt
  omega

/-! ### The pattern of one text -/

/-- The pattern that matches one text. -/
def literal [DecidableEq α] (old : List α) (h : old ≠ []) : Pattern α Unit where
  find t := if old <+: t then some (old.length, ()) else none
  pos {t n b} hf := by
    split at hf
    · cases hf
      exact List.length_pos_iff.mpr h
    · cases hf
  le {t n b} hf := by
    split at hf
    · next hpre =>
      cases hf
      exact hpre.length_le
    · cases hf

theorem find_literal_eq_some_iff [DecidableEq α] {old t : List α} {h : old ≠ []} {n : ℕ}
    {b : Unit} :
    (literal old h).find t = some (n, b) ↔ n = old.length ∧ old <+: t := by
  change (if old <+: t then some (old.length, ()) else none) = _ ↔ _
  split
  · next hpre => simp [hpre, eq_comm]
  · next hpre => simp [hpre]

end Pattern
