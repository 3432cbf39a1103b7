import Mathlib.Logic.Basic

/-!
# Two runs of a fallible computation

Two computations that may raise end alike when both raise the same or both
return, with values in a given relation.  Relational reasoning about a chain of
steps is then one use of the rule for `>>=` a step.

## Main definitions

* `Except.Related R x y` — `x` and `y` raise the same, or return values related
  by `R`.

## Main results

* `Except.Related.bind`, `Except.Related.bind_same` — **the rule for one more step.**
* `Except.Related.exists_iff` — what the two runs return, seen from either side.
-/

universe u v

namespace Except

variable {ε : Type u} {α α' β β' : Type v}

/-- Two computations raise the same, or return related values. -/
inductive Related (R : α → α' → Prop) : Except ε α → Except ε α' → Prop
  | ok {a : α} {a' : α'} : R a a' → Related R (.ok a) (.ok a')
  | error (e : ε) : Related R (.error e) (.error e)

namespace Related

variable {R : α → α' → Prop} {S : β → β' → Prop} {x : Except ε α} {x' : Except ε α'}

/-- A computation is related to itself by a reflexive relation. -/
theorem refl {R : α → α → Prop} (hR : ∀ a, R a a) (x : Except ε α) : Related R x x := by
  cases x with
  | error e => exact .error e
  | ok a => exact .ok (hR a)

theorem mono {R' : α → α' → Prop} (h : Related R x x') (hR : ∀ a a', R a a' → R' a a') :
    Related R' x x' := by
  cases h with
  | ok ha => exact .ok (hR _ _ ha)
  | error e => exact .error e

/-- **One more step.** -/
theorem bind (h : Related R x x') {f : α → Except ε β} {f' : α' → Except ε β'}
    (hf : ∀ a a', R a a' → Related S (f a) (f' a')) : Related S (x >>= f) (x' >>= f') := by
  cases h with
  | ok hR => exact hf _ _ hR
  | error e => exact .error e

/-- One more step behind the same computation. -/
theorem bind_same (y : Except ε α) {f : α → Except ε β} {f' : α → Except ε β'}
    (hf : ∀ a, Related S (f a) (f' a)) : Related S (y >>= f) (y >>= f') := by
  apply bind (refl (fun _ => rfl) y)
  rintro a _ rfl
  exact hf a

/-- When the one side returns, so does the other. -/
theorem exists_of_ok {a : α} (h : Related R (.ok a) x') : ∃ a', x' = .ok a' ∧ R a a' := by
  cases h with
  | ok ha => exact ⟨_, rfl, ha⟩

/-- **What the two runs return**, with a property that the relation carries from
one side to the other. -/
theorem exists_iff (h : Related R x x') {P : α → Prop} {Q : α' → Prop}
    (hPQ : ∀ a a', R a a' → (P a ↔ Q a')) :
    (∃ a, x = .ok a ∧ P a) ↔ ∃ a', x' = .ok a' ∧ Q a' := by
  cases h with
  | @ok a a' hR =>
    constructor
    · rintro ⟨_, ha, hP⟩
      cases ha
      exact ⟨a', rfl, (hPQ a a' hR).mp hP⟩
    · rintro ⟨_, ha, hQ⟩
      cases ha
      exact ⟨a, rfl, (hPQ a a' hR).mpr hQ⟩
  | error e =>
    constructor
    · rintro ⟨_, ha, -⟩
      cases ha
    · rintro ⟨_, ha, -⟩
      cases ha

end Related

end Except
