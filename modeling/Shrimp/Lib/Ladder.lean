import Mathlib.Data.List.Basic

/-!
# Ladders of approvals

A history of events climbs a ladder: rung `k + 1` is reached from rung `k` by an
event that `climb k`, and stays reached as long as every later event `keep`s it.
An event that does not keep a rung revokes it.  What a ladder says of a history
is that the climbs stand in it in the order of the rungs, and that nothing after
the climb of a rung revoked that rung.

## Main definitions

* `Ladder α` — the climbing and keeping events of each rung.
* `Ladder.Held L k h` — the history `h` holds the rungs up to `k`.

## Main results

* `Ladder.Held.climb`, `Ladder.Held.keep`, `Ladder.Held.mono` — the three ways a
  history that holds a rung goes on.
-/

/-- A ladder over events of type `α`. -/
structure Ladder (α : Type*) where
  /-- The events that climb from rung `k` to rung `k + 1`. -/
  climb : ℕ → α → Prop
  /-- The events that leave rung `k` reached. -/
  keep : ℕ → α → Prop
  /-- What keeps a rung keeps every rung below it. -/
  keep_of_keep_succ : ∀ k a, keep (k + 1) a → keep k a
  /-- A climb from a rung does not revoke it. -/
  keep_of_climb : ∀ k a, climb k a → keep k a

namespace Ladder

variable {α : Type*} (L : Ladder α)

/-- `L.Held k h` says that `h` contains a climb of each rung up to `k`, in the
order of the rungs, none of them revoked afterwards. -/
def Held : ℕ → List α → Prop
  | 0, _ => True
  | k + 1, h => ∃ pre a post, h = pre ++ a :: post ∧ L.climb k a ∧
      (∀ b ∈ post, L.keep (k + 1) b) ∧ Held k pre

variable {L}

@[simp] theorem held_zero (h : List α) : L.Held 0 h := trivial

/-- An event that keeps a rung leaves it held. -/
theorem Held.keep {k : ℕ} {h : List α} (hh : L.Held k h) {a : α} (ha : L.keep k a) :
    L.Held k (h ++ [a]) := by
  cases k with
  | zero => trivial
  | succ k =>
    obtain ⟨pre, b, post, rfl, hb, hpost, hpre⟩ := hh
    refine ⟨pre, b, post ++ [a], by simp, hb, ?_, hpre⟩
    intro x hx
    rcases List.mem_append.mp hx with hx | hx
    · exact hpost x hx
    · rw [List.mem_singleton.mp hx]
      exact ha

/-- A climb from a held rung reaches the next one. -/
theorem Held.climb {k : ℕ} {h : List α} (hh : L.Held k h) {a : α} (ha : L.climb k a) :
    L.Held (k + 1) (h ++ [a]) :=
  ⟨h, a, [], rfl, ha, by simp, hh⟩

/-- A run of kept events leaves a rung held. -/
theorem Held.keep_all {k : ℕ} {h : List α} (hh : L.Held k h) :
    ∀ {es : List α}, (∀ a ∈ es, L.keep k a) → L.Held k (h ++ es) := by
  intro es
  induction es generalizing h with
  | nil => intro _; rwa [List.append_nil]
  | cons a es ih =>
    intro hes
    have ha : L.Held k (h ++ [a]) := hh.keep (hes a List.mem_cons_self)
    have := ih ha fun b hb => hes b (List.mem_cons_of_mem _ hb)
    rwa [List.append_assoc, List.singleton_append] at this

/-- A history that holds a rung holds the one below. -/
theorem Held.of_succ {k : ℕ} {h : List α} (hh : L.Held (k + 1) h) : L.Held k h := by
  obtain ⟨pre, a, post, rfl, ha, hpost, hpre⟩ := hh
  have hpre' : L.Held k (pre ++ [a]) := hpre.keep (L.keep_of_climb k a ha)
  have := hpre'.keep_all fun b hb => L.keep_of_keep_succ k b (hpost b hb)
  rwa [List.append_assoc, List.singleton_append] at this

/-- A history that holds a rung holds every rung below. -/
theorem Held.mono {j k : ℕ} (hjk : j ≤ k) {h : List α} (hh : L.Held k h) : L.Held j h := by
  induction k with
  | zero =>
    obtain rfl : j = 0 := Nat.le_zero.mp hjk
    exact hh
  | succ k ih =>
    rcases Nat.lt_or_ge k j with hlt | hge
    · obtain rfl : j = k + 1 := Nat.le_antisymm hjk hlt
      exact hh
    · exact ih hge hh.of_succ

end Ladder
