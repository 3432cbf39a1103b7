import Mathlib.Data.List.Induction

/-!
# Labelled transition systems and their runs

A system is a set of start states and a labelled step relation.  A run is kept
as the list of its moves, each with the state before it, its label and the
state after it, so that a property of a whole history (what was answered since
some point, which moves were of a kind) can be stated of the list and proved by
one induction.

## Main definitions

* `Lts σ ε` — a system with states `σ` and labels `ε`.
* `Lts.Run S tr c` — `tr` is the list of moves of a run of `S` that ends in `c`.
* `Lts.since p tr` — the moves after the last one that satisfies `p`.
* `Lts.ofStep`, `Lts.exec` — the system of a partial step function, and its runs
  computed from a list of labels.

## Main results

* `Lts.Run.invariant` — **the invariant rule**: what holds at the start and is
  preserved by every step of a run holds at the end of every run.
* `Lts.Run.invariant_of` — the same for the runs all of whose moves satisfy a
  condition.
* `Lts.Run.split` — a run can be cut at any of its moves.
* `Lts.Run.invariant_after` — what holds after some move and is preserved from
  there on holds at every later move.
* `Lts.Run.induction_after` — the same for a relation with the moves since.
* `Lts.Run.length_le_measure` — **the measure rule.**
* `Lts.Run.exists_following` — **the progress rule.**
* `Lts.Run.exists_reaching` — the progress rule for stretches of moves.
* `Lts.Run.map`, `Lts.Run.filterMap` — **the simulation rule**, without stuttering and
  with it.
-/

/-- A labelled transition system. -/
structure Lts (σ ε : Type*) where
  /-- The states a run starts in. -/
  start : σ → Prop
  /-- The step relation. -/
  step : σ → ε → σ → Prop

namespace Lts

/-- One move of a run. -/
structure Move (σ ε : Type*) where
  /-- The state before the move. -/
  pre : σ
  /-- The label of the move. -/
  label : ε
  /-- The state after the move. -/
  post : σ

variable {σ ε : Type*}

/-- The runs of a system, with the moves they made, oldest first. -/
inductive Run (S : Lts σ ε) : List (Move σ ε) → σ → Prop
  /-- The run that has not moved. -/
  | start {c : σ} : S.start c → Run S [] c
  /-- One more move. -/
  | snoc {tr : List (Move σ ε)} {c c' : σ} {e : ε} :
      Run S tr c → S.step c e c' → Run S (tr ++ [⟨c, e, c'⟩]) c'

variable {S : Lts σ ε}

/-- **The invariant rule, for runs whose moves satisfy a condition.**  The
property may speak of the moves made so far as well as of the state reached. -/
theorem Run.invariant_of {C : Move σ ε → Prop} {I : List (Move σ ε) → σ → Prop}
    (h0 : ∀ c, S.start c → I [] c)
    (hstep : ∀ tr c e c', Run S tr c → I tr c → S.step c e c' → C ⟨c, e, c'⟩ →
      I (tr ++ [⟨c, e, c'⟩]) c')
    {tr : List (Move σ ε)} {c : σ} (h : Run S tr c) (hC : ∀ m ∈ tr, C m) : I tr c := by
  induction h with
  | start hs => exact h0 _ hs
  | snoc hrun hs ih =>
    have hpre := ih fun m hm => hC m (List.mem_append_left _ hm)
    exact hstep _ _ _ _ hrun hpre hs (hC _ (by simp))

/-- **The invariant rule.** -/
theorem Run.invariant {I : List (Move σ ε) → σ → Prop} (h0 : ∀ c, S.start c → I [] c)
    (hstep : ∀ tr c e c', Run S tr c → I tr c → S.step c e c' → I (tr ++ [⟨c, e, c'⟩]) c')
    {tr : List (Move σ ε)} {c : σ} (h : Run S tr c) : I tr c :=
  Run.invariant_of (C := fun _ => True) h0
    (fun tr c e c' hrun hI hs _ => hstep tr c e c' hrun hI hs) h fun _ _ => trivial

/-- The last move of a run is a step from where the moves before have led. -/
theorem Run.last {tr : List (Move σ ε)} {m : Move σ ε} {c : σ} (h : Run S (tr ++ [m]) c) :
    Run S tr m.pre ∧ S.step m.pre m.label m.post ∧ m.post = c := by
  generalize htr : tr ++ [m] = tr' at h
  cases h with
  | start => simp at htr
  | snoc hrun hs =>
    obtain ⟨rfl, hm⟩ := List.append_inj' htr rfl
    cases hm
    exact ⟨hrun, hs, rfl⟩

/-- **A run can be cut at any of its moves.** -/
theorem Run.split {tr₁ tr₂ : List (Move σ ε)} {m : Move σ ε} {c : σ}
    (h : Run S (tr₁ ++ m :: tr₂) c) : Run S tr₁ m.pre ∧ S.step m.pre m.label m.post := by
  -- runs grow at their end, so the induction drops the last move
  induction tr₂ using List.reverseRecOn generalizing c with
  | nil =>
    obtain ⟨hrun, hs, -⟩ := h.last
    exact ⟨hrun, hs⟩
  | append_singleton tr₂ m' ih =>
    rw [← List.cons_append, ← List.append_assoc] at h
    exact ih h.last.1

/-- Two moves of a history, one before the other. -/
theorem exists_split_of_lt {tr : List (Move σ ε)} {a b : ℕ} {m m' : Move σ ε} (hab : a < b)
    (hm : tr[a]? = some m) (hm' : tr[b]? = some m') :
    ∃ tr₁ tr₂, tr = tr₁ ++ m :: tr₂ ∧ m' ∈ tr₂ := by
  obtain ⟨hlt, rfl⟩ := List.getElem?_eq_some_iff.mp hm
  refine ⟨tr.take a, tr.drop (a + 1), ?_, ?_⟩
  · rw [← List.drop_eq_getElem_cons hlt, List.take_append_drop]
  · refine List.mem_of_getElem? (i := b - (a + 1)) ?_
    rw [List.getElem?_drop, Nat.add_sub_cancel' hab]
    exact hm'

/-- Every move of a run is a step from a state some run reaches. -/
theorem Run.step_of_mem {tr : List (Move σ ε)} {c : σ} (h : Run S tr c) {m : Move σ ε}
    (hm : m ∈ tr) : ∃ tr₁, Run S tr₁ m.pre ∧ S.step m.pre m.label m.post := by
  obtain ⟨tr₁, tr₂, rfl⟩ := List.append_of_mem hm
  exact ⟨tr₁, h.split⟩

/-- **The invariant rule from a move on.** -/
theorem Run.invariant_after {C : Move σ ε → Prop} {I : σ → Prop}
    (hstep : ∀ c e c', I c → S.step c e c' → C ⟨c, e, c'⟩ → I c')
    {tr₁ tr₂ : List (Move σ ε)} {m : Move σ ε} {c : σ} (h : Run S (tr₁ ++ m :: tr₂) c)
    (h0 : I m.post) (hC : ∀ m' ∈ tr₂, C m') : I c ∧ ∀ m' ∈ tr₂, I m'.pre ∧ I m'.post := by
  induction tr₂ using List.reverseRecOn generalizing c with
  | nil =>
    obtain ⟨-, -, rfl⟩ := h.last
    exact ⟨h0, nofun⟩
  | append_singleton tr₂ m' ih =>
    rw [← List.cons_append, ← List.append_assoc] at h
    obtain ⟨hrun, hs, rfl⟩ := h.last
    obtain ⟨hpre, hall⟩ := ih hrun fun x hx => hC x (List.mem_append_left _ hx)
    -- `ih` has the moves before the last; the last starts where they end
    have hpost := hstep _ _ _ hpre hs (hC m' (by simp))
    refine ⟨hpost, fun x hx => ?_⟩
    rcases List.mem_append.mp hx with hx | hx
    · exact hall x hx
    · rw [List.mem_singleton.mp hx]
      exact ⟨hpre, hpost⟩

/-- **The rule for what a run does from a move on**: a relation between the state
a move leaves, the moves since and the state reached. -/
theorem Run.induction_after {R : σ → List (Move σ ε) → σ → Prop}
    (h0 : ∀ tr c e c', Run S tr c → S.step c e c' → R c' [] c')
    (hstep : ∀ a tr tr' c e c', Run S tr c → R a tr' c → S.step c e c' →
      R a (tr' ++ [⟨c, e, c'⟩]) c')
    {tr₁ tr₂ : List (Move σ ε)} {m : Move σ ε} {c : σ} (h : Run S (tr₁ ++ m :: tr₂) c) :
    R m.post tr₂ c := by
  induction tr₂ using List.reverseRecOn generalizing c with
  | nil =>
    obtain ⟨hrun, hs, rfl⟩ := h.last
    exact h0 _ _ _ _ hrun hs
  | append_singleton tr₂ m' ih =>
    rw [← List.cons_append, ← List.append_assoc] at h
    obtain ⟨hrun, hs, rfl⟩ := h.last
    exact hstep _ _ _ _ _ _ hrun (ih hrun) hs

/-- **The measure rule**: where every move of a kind lowers a measure, no stretch
of such moves is longer than the measure it begins with. -/
theorem Run.length_le_measure {C : Move σ ε → Prop} (μ : σ → ℕ)
    (hstep : ∀ tr c e c', Run S tr c → S.step c e c' → C ⟨c, e, c'⟩ → μ c' < μ c)
    {tr₁ tr₂ : List (Move σ ε)} {m : Move σ ε} {c : σ} (h : Run S (tr₁ ++ m :: tr₂) c)
    (hC : ∀ m' ∈ m :: tr₂, C m') : (m :: tr₂).length + μ c ≤ μ m.pre := by
  have hfirst : μ m.post < μ m.pre :=
    hstep _ _ _ _ h.split.1 h.split.2 (hC m List.mem_cons_self)
  have hrest : (∀ m' ∈ tr₂, C m') → tr₂.length + μ c ≤ μ m.post := by
    refine h.induction_after (R := fun a tr c => (∀ m' ∈ tr, C m') → tr.length + μ c ≤ μ a) ?_ ?_
    · intro tr c e c' _ _ _
      exact Nat.le_of_eq (Nat.zero_add _)
    · intro a tr tr' c e c' hrun ih hs hall
      have hle := ih fun m' hm' => hall m' (List.mem_append_left _ hm')
      have hlt := hstep _ _ _ _ hrun hs (hall _ (by simp))
      rw [List.length_append, List.length_singleton]
      omega
  have hle := hrest fun m' hm' => hC m' (List.mem_cons_of_mem _ hm')
  rw [List.length_cons]
  omega

/-- **The progress rule**: where a strategy always has a step that keeps an
invariant and lowers a measure by one, following it takes as many moves as the
measure says, to a state of measure zero that the last of them has made good. -/
theorem Run.exists_following (strategy : σ → ε) (μ : σ → ℕ) {I G : σ → Prop}
    (hstep : ∀ tr c n, Run S tr c → I c → μ c = n + 1 →
      ∃ c', S.step c (strategy c) c' ∧ I c' ∧ μ c' = n ∧ (n = 0 → G c'))
    {tr : List (Move σ ε)} {c : σ} (h : Run S tr c) (hI : I c) (hpos : 0 < μ c) :
    ∃ tr' d, Run S (tr ++ tr') d ∧ G d ∧ tr'.length = μ c ∧
      ∀ m ∈ tr', m.label = strategy m.pre := by
  obtain ⟨n, hn⟩ := Nat.exists_eq_add_of_lt hpos
  rw [Nat.zero_add] at hn
  induction n generalizing tr c with
  | zero =>
    obtain ⟨c', hs, -, -, hG⟩ := hstep tr c 0 h hI hn
    exact ⟨_, c', h.snoc hs, hG rfl, hn.symm, by simp⟩
  | succ n ih =>
    obtain ⟨c', hs, hI', hμ, -⟩ := hstep tr c (n + 1) h hI hn
    obtain ⟨tr', d, hrun, hG, hlen, hall⟩ := ih (h.snoc hs) hI' (by omega) hμ
    refine ⟨⟨c, strategy c, c'⟩ :: tr', d, ?_, hG, ?_, ?_⟩
    · rw [← List.singleton_append, ← List.append_assoc]
      exact hrun
    · rw [List.length_cons, hlen, hμ, hn]
    · intro m hm
      rcases List.mem_cons.mp hm with rfl | hm
      · rfl
      · exact hall m hm

/-- **The progress rule for stretches of moves**: where some moves of a kind always
keep an invariant and lower a measure, unless the goal is met, it can be met by moves
of that kind. -/
theorem Run.exists_reaching {C : Move σ ε → Prop} (μ : σ → ℕ) {I G : σ → Prop}
    (hstep : ∀ tr c, Run S tr c → I c → G c ∨ ∃ tr' c',
      Run S (tr ++ tr') c' ∧ I c' ∧ μ c' < μ c ∧ ∀ m ∈ tr', C m)
    {tr : List (Move σ ε)} {c : σ} (h : Run S tr c) (hI : I c) :
    ∃ tr' d, Run S (tr ++ tr') d ∧ I d ∧ G d ∧ ∀ m ∈ tr', C m := by
  -- on the measure, from which every stretch takes something
  induction hn : μ c using Nat.strongRecOn generalizing tr c with
  | ind n ih =>
    rcases hstep tr c h hI with hG | ⟨tr₁, c₁, hrun₁, hI₁, hlt, hC₁⟩
    · exact ⟨[], c, by rwa [List.append_nil], hI, hG, by simp⟩
    · obtain ⟨tr₂, d, hrun₂, hI₂, hG, hC₂⟩ := ih (μ c₁) (hn ▸ hlt) hrun₁ hI₁ rfl
      refine ⟨tr₁ ++ tr₂, d, by rwa [← List.append_assoc], hI₂, hG, fun m hm => ?_⟩
      exact (List.mem_append.mp hm).elim (hC₁ m) (hC₂ m)

/-- **The simulation rule**: where every step of a system is one of another, its
runs are runs of that one. -/
theorem Run.map {σ' ε' : Type*} {T : Lts σ' ε'} (f : σ → σ') (g : σ → ε → ε')
    (h0 : ∀ c, S.start c → T.start (f c))
    (hstep : ∀ c e c', S.step c e c' → T.step (f c) (g c e) (f c'))
    {tr : List (Move σ ε)} {c : σ} (h : Run S tr c) :
    Run T (tr.map fun m => ⟨f m.pre, g m.pre m.label, f m.post⟩) (f c) := by
  induction h with
  | start hs => exact .start (h0 _ hs)
  | snoc hrun hs ih =>
    rw [List.map_append, List.map_singleton]
    exact ih.snoc (hstep _ _ _ hs)

/-- **The simulation rule with stuttering**: where every step of a system is one of
another or leaves its state, its runs without the stutters are runs of that one. -/
theorem Run.filterMap {σ' ε' : Type*} {T : Lts σ' ε'} (f : σ → σ') (g : σ → ε → Option ε')
    (h0 : ∀ c, S.start c → T.start (f c))
    (hstep : ∀ c e c', S.step c e c' →
      (∃ e', g c e = some e' ∧ T.step (f c) e' (f c')) ∨ g c e = none ∧ f c' = f c)
    {tr : List (Move σ ε)} {c : σ} (h : Run S tr c) :
    Run T (tr.filterMap fun m => (g m.pre m.label).map fun e => ⟨f m.pre, e, f m.post⟩)
      (f c) := by
  induction h with
  | start hs => exact .start (h0 _ hs)
  | snoc hrun hs ih =>
    rw [List.filterMap_append]
    rcases hstep _ _ _ hs with ⟨e', hg, hT⟩ | ⟨hg, hsame⟩
    · rw [List.filterMap_cons, hg]
      exact ih.snoc hT
    · rw [List.filterMap_cons, hg, hsame]
      simpa using ih

/-! ### The recent part of a history -/

/-- The moves after the last one that satisfies `p`; all of them when none
does. -/
def since (p : Move σ ε → Bool) (tr : List (Move σ ε)) : List (Move σ ε) :=
  (tr.reverse.takeWhile fun m => !p m).reverse

/-- One more move either starts the recent part anew or is added to it. -/
theorem since_snoc (p : Move σ ε → Bool) (tr : List (Move σ ε)) (m : Move σ ε) :
    since p (tr ++ [m]) = if p m then [] else since p tr ++ [m] := by
  rw [since, List.reverse_append, List.reverse_singleton, List.singleton_append,
    List.takeWhile_cons]
  cases hp : p m
  · rw [if_pos (by simp), if_neg (by simp), List.reverse_cons, since]
  · rw [if_neg (by simp), if_pos rfl, List.reverse_nil]

/-- Nothing in the recent part satisfies `p`. -/
theorem mem_since {p : Move σ ε → Bool} {tr : List (Move σ ε)} {m : Move σ ε}
    (h : m ∈ since p tr) : p m = false := by
  have hall := List.all_eq_true.mp List.all_takeWhile m (List.mem_reverse.mp h)
  simpa using hall

/-- The recent part is the whole history, or begins after a move that satisfies
`p`. -/
theorem since_cases (p : Move σ ε → Bool) (tr : List (Move σ ε)) :
    since p tr = tr ∨ ∃ before m, p m = true ∧ tr = before ++ m :: since p tr := by
  induction tr using List.reverseRecOn with
  | nil => exact Or.inl rfl
  | append_singleton tr m ih =>
    rw [since_snoc]
    split
    · next hp => exact Or.inr ⟨tr, m, hp, rfl⟩
    · rcases ih with ih | ⟨before, m', hp, ih⟩
      · exact Or.inl (by rw [ih])
      · refine Or.inr ⟨before, m', hp, ?_⟩
        rw [← List.cons_append, ← List.append_assoc, ← ih]

/-- **The recent part is the last of the parts a history is cut into.** -/
theorem exists_splitOnP_eq (p : Move σ ε → Bool) (tr : List (Move σ ε)) :
    ∃ before, ∀ more, (∀ m ∈ more, p m = false) →
      (tr ++ more).splitOnP p = before ++ [since p tr ++ more] := by
  have hnone : ∀ more, (∀ m ∈ more, p m = false) → ∀ m ∈ since p tr ++ more, p m = false := by
    intro more hmore m hm
    rcases List.mem_append.mp hm with hm | hm
    · exact mem_since hm
    · exact hmore m hm
  rcases since_cases p tr with htr | ⟨before, m, hp, htr⟩
  · refine ⟨[], fun more hmore => ?_⟩
    rw [htr] at hnone ⊢
    exact List.splitOnP_eq_singleton (hnone more hmore)
  · refine ⟨before.splitOnP p, fun more hmore => ?_⟩
    conv_lhs => rw [htr]
    rw [List.append_assoc, List.cons_append, List.splitOnP_append_cons _ _ hp,
      List.splitOnP_eq_singleton (hnone more hmore)]

/-! ### Systems given by a step function -/

/-- The system of a partial step function. -/
def ofStep (start : σ → Prop) (step : σ → ε → Option σ) : Lts σ ε where
  start := start
  step c e c' := step c e = some c'

/-- Run a step function on a list of labels, recording the moves. -/
def exec (step : σ → ε → Option σ) : σ → List ε → Option (List (Move σ ε) × σ)
  | c, [] => some ([], c)
  | c, e :: es =>
    match step c e with
    | none => none
    | some c' =>
      match exec step c' es with
      | none => none
      | some (tr, d) => some (⟨c, e, c'⟩ :: tr, d)

theorem Run.exec_append {start : σ → Prop} {step : σ → ε → Option σ} :
    ∀ {es : List ε} {tr tr' : List (Move σ ε)} {c d : σ},
      Run (ofStep start step) tr c → exec step c es = some (tr', d) →
        Run (ofStep start step) (tr ++ tr') d := by
  intro es
  induction es with
  | nil =>
    intro tr tr' c d hrun h
    cases h
    rwa [List.append_nil]
  | cons e es ih =>
    intro tr tr' c d hrun h
    rw [exec] at h
    split at h
    · cases h
    · next c' hc =>
      split at h
      · cases h
      · next tr'' d' hd =>
        cases h
        have hrun' : Run (ofStep start step) (tr ++ [⟨c, e, c'⟩]) c' := hrun.snoc hc
        rw [← List.singleton_append, ← List.append_assoc]
        exact ih hrun' hd

/-- **What `exec` computes from a start state is a run.** -/
theorem Run.of_exec {start : σ → Prop} {step : σ → ε → Option σ} {es : List ε}
    {tr : List (Move σ ε)} {c d : σ} (hc : start c) (h : exec step c es = some (tr, d)) :
    Run (ofStep start step) tr d := by
  have h' := Run.exec_append (Run.start (S := ofStep start step) hc) h
  rwa [List.nil_append] at h'

/-- A run with what can be computed of it. -/
theorem Run.exists_of_exec {start : σ → Prop} {step : σ → ε → Option σ} {c : σ} (hc : start c)
    {es : List ε} {α : Type*} (f : List (Move σ ε) × σ → α) {a : α}
    (h : (exec step c es).map f = some a) :
    ∃ tr d, Run (ofStep start step) tr d ∧ f (tr, d) = a := by
  obtain ⟨⟨tr, d⟩, hexec, hf⟩ := Option.map_eq_some_iff.mp h
  exact ⟨tr, d, Run.of_exec hc hexec, hf⟩

end Lts
