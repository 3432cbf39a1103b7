import Shrimp.Docs.Annotate
import Shrimp.Docs.Lines

/-!
# The fences the annotator finds

A fence is found by its opening line and the first closing behind it, and what is
found does not depend on what stands behind the closing.

## Main definitions

* `Fence.written` — a fence as it stands in a text, with its closing line.
* `NotClosed` — a body in which no closing begins.
* `openingAt` — the opening line of a fence.

## Main results

* `mermaidFenceAt_eq_some_iff` — **what the annotator finds.**
* `openingAt_isSome_iff` — an opening line is seen up to its line break.
* `not_occurs_of_open` — behind an opening line that is not closed there is no fence.
-/

namespace Shrimp
namespace Docs

/-- A fence in a text, from the line break before it: its closing line is indented by
blanks of its own. -/
def Fence.written (f : Fence) (close : Text) : Text :=
  '\n' :: (f.indent ++ (opening ++ (f.body ++ '\n' :: (close ++ "```".toList))))

/-- Nothing in a body closes the fence, whatever stands behind the line break at its
end. -/
def NotClosed (body : Text) : Prop :=
  ∀ u, u <:+ body → u ≠ [] → ∀ X, closing (u ++ '\n' :: X) = none

/-- Behind a line break: an opening line, with its indentation and what stands behind
it. -/
def openingAt (t : Text) : Option (Text × Text) := do
  let line ← afterPrefix ['\n'] t
  let inner ← afterPrefix opening (line.dropWhile isBlank)
  some (line.takeWhile isBlank, inner)

section

variable {t indent inner body close : Text}

/-! ### Opening lines -/

theorem mermaidFenceAt_eq (t : Text) :
    mermaidFenceAt t = (openingAt t).bind fun m => (upTo closing m.2).map fun b =>
      (1 + m.1.length + opening.length + b.1.length + b.2, ⟨m.1, b.1⟩) := by
  unfold mermaidFenceAt openingAt
  simp only [Option.bind_eq_bind]
  cases afterPrefix ['\n'] t with
  | none => rfl
  | some line =>
    simp only [Option.bind_some]
    cases afterPrefix opening (line.dropWhile isBlank) with
    | none => rfl
    | some inner => rfl

theorem takeWhile_blanks (h : ∀ c ∈ indent, isBlank c = true) (X : Text) :
    (indent ++ '`' :: X).takeWhile isBlank = indent ∧
      (indent ++ '`' :: X).dropWhile isBlank = '`' :: X := by
  refine ⟨?_, ?_⟩
  · rw [List.takeWhile_append_cons (by decide), List.takeWhile_eq_self_iff.mpr h]
  · rw [List.dropWhile_append_cons (by decide), List.dropWhile_eq_nil_iff.mpr h, List.nil_append]

theorem openingAt_eq_some_iff : openingAt t = some (indent, inner) ↔
    (∀ c ∈ indent, isBlank c = true) ∧ t = '\n' :: (indent ++ (opening ++ inner)) := by
  simp only [openingAt, Option.bind_eq_bind, Option.bind_eq_some_iff, afterPrefix_eq_some_iff]
  constructor
  · rintro ⟨line, rfl, inner', hinner, h⟩
    cases h
    refine ⟨fun c hc => List.mem_takeWhile_imp hc, ?_⟩
    rw [← hinner, List.takeWhile_append_dropWhile, List.singleton_append]
  · rintro ⟨hblank, rfl⟩
    obtain ⟨htake, hdrop⟩ := takeWhile_blanks hblank ("``mermaid\n".toList ++ inner)
    refine ⟨indent ++ (opening ++ inner), rfl, inner, hdrop, ?_⟩
    exact congrArg (fun i => some (i, inner)) htake

theorem openingAt_of_ne {c : Char} (h : c ≠ '\n') (t : Text) : openingAt (c :: t) = none := by
  by_contra hne
  obtain ⟨⟨indent, inner⟩, hsome⟩ := Option.ne_none_iff_exists'.mp hne
  have hcons := (openingAt_eq_some_iff.mp hsome).2
  exact h (List.cons.inj hcons).1

theorem mermaidFenceAt_of_opening (h : openingAt t = none) : mermaidFenceAt t = none := by
  rw [mermaidFenceAt_eq, h]
  rfl

/-- A text with a line break in it is its first line and the rest. -/
theorem exists_line (h : '\n' ∈ t) :
    ∃ rest, t = t.takeWhile (· ≠ '\n') ++ '\n' :: rest := by
  have hne : t.dropWhile (· ≠ '\n') ≠ [] := by
    intro hnil
    have hall := List.dropWhile_eq_nil_iff.mp hnil '\n' h
    simp at hall
  have hhead := List.head_dropWhile_not (· ≠ '\n') hne
  have hbreak : (t.dropWhile (· ≠ '\n')).head hne = '\n' := by simpa using hhead
  refine ⟨(t.dropWhile (· ≠ '\n')).tail, ?_⟩
  have hcut := List.takeWhile_append_dropWhile (p := (· ≠ '\n')) (l := t)
  rw [← List.cons_head_tail hne, hbreak] at hcut
  exact hcut.symm

theorem break_notMem_opening (h : ∀ c ∈ indent, isBlank c = true) :
    '\n' ∉ indent ++ "```mermaid".toList := by
  intro hmem
  rcases List.mem_append.mp hmem with hmem | hmem
  · exact absurd (h _ hmem) (by decide)
  · exact absurd hmem (by decide)

theorem opening_append (indent inner : Text) :
    indent ++ (opening ++ inner) = (indent ++ "```mermaid".toList) ++ '\n' :: inner := by
  rw [List.append_assoc]
  rfl

/-- **An opening line is seen up to its line break.** -/
theorem openingAt_isSome_iff : (openingAt ('\n' :: t)).isSome ↔ '\n' ∈ t ∧
    ∃ indent, (∀ c ∈ indent, isBlank c = true) ∧
      t.takeWhile (· ≠ '\n') = indent ++ "```mermaid".toList := by
  rw [Option.isSome_iff_exists]
  constructor
  · rintro ⟨⟨indent, inner⟩, h⟩
    obtain ⟨hblank, ht⟩ := openingAt_eq_some_iff.mp h
    have hcut := (List.cons.inj ht).2
    rw [opening_append] at hcut
    rw [hcut]
    exact ⟨List.mem_append_right _ List.mem_cons_self, indent, hblank,
      (takeWhile_line (break_notMem_opening hblank) inner).1⟩
  · rintro ⟨hbreak, indent, hblank, hline⟩
    obtain ⟨rest, hrest⟩ := exists_line hbreak
    refine ⟨(indent, rest), openingAt_eq_some_iff.mpr ⟨hblank, ?_⟩⟩
    rw [opening_append, ← hline, ← hrest]

/-! ### Closings -/

theorem closing_blanks (h : ∀ c ∈ close, isBlank c = true) (rest : Text) :
    closing ('\n' :: (close ++ ("```".toList ++ rest))) = some (1 + close.length + 3) := by
  obtain ⟨htake, hdrop⟩ := takeWhile_blanks h ("``".toList ++ rest)
  have hline : afterPrefix ['\n'] ('\n' :: (close ++ ("```".toList ++ rest))) =
      some (close ++ '`' :: ("``".toList ++ rest)) := afterPrefix_eq_some_iff.mpr rfl
  unfold closing
  rw [hline]
  dsimp only
  rw [htake, hdrop]
  exact if_pos (List.prefix_append "```".toList rest)

theorem closing_eq_some {n : ℕ} (h : closing t = some n) : ∃ close rest,
    (∀ c ∈ close, isBlank c = true) ∧ t = '\n' :: (close ++ ("```".toList ++ rest)) ∧
      n = 1 + close.length + 3 := by
  unfold closing at h
  split at h
  · cases h
  · next line hline =>
    split at h
    · next hpre =>
      cases h
      obtain ⟨rest, hrest⟩ := hpre
      refine ⟨line.takeWhile isBlank, rest, fun c hc => List.mem_takeWhile_imp hc, ?_, rfl⟩
      rw [afterPrefix_eq_some_iff.mp hline, hrest, List.takeWhile_append_dropWhile]
      rfl
    · cases h

theorem closing_append_break {u : Text} (h : u ≠ []) (X : Text) :
    closing (u ++ '\n' :: X) = closing u := by
  cases u with
  | nil => exact absurd rfl h
  | cons d u =>
    by_cases hd : d = '\n'
    · subst hd
      have hline : ∀ v, afterPrefix ['\n'] ('\n' :: v) = some v := fun v =>
        afterPrefix_eq_some_iff.mpr rfl
      unfold closing
      rw [List.cons_append, hline, hline]
      dsimp only
      rw [List.dropWhile_append_cons (by decide), List.takeWhile_append_cons (by decide)]
      simp only [List.prefix_append_cons_iff (show '\n' ∉ "```".toList by decide)]
    · have hnone : ∀ v, closing (d :: v) = none := by
        intro v
        by_contra hne
        obtain ⟨n, hsome⟩ := Option.ne_none_iff_exists'.mp hne
        obtain ⟨close, rest, -, hv, -⟩ := closing_eq_some hsome
        exact hd (List.cons.inj hv).1
      rw [List.cons_append, hnone, hnone]

/-- **The bodies the annotator finds are not closed.** -/
theorem notClosed_of_upTo {n : ℕ} (h : upTo closing inner = some (body, n)) : NotClosed body := by
  obtain ⟨rest, hinner, hstop⟩ := upTo_eq_some h
  obtain ⟨close, more, -, hrest, -⟩ := closing_eq_some hstop
  intro u hu hne X
  have hnone := stop_eq_none_of_upTo h hinner hu hne
  rw [hrest, closing_append_break hne] at hnone
  rw [closing_append_break hne, hnone]

theorem upTo_closing_eq_none_iff :
    upTo closing t = none ↔ ∀ u, u <:+ t → closing u = none := by
  induction t with
  | nil =>
    constructor
    · intro _ u hu
      rw [List.suffix_nil.mp hu]
      rfl
    · intro _
      rfl
  | cons c t ih =>
    rw [upTo]
    constructor
    · intro h u hu
      split at h
      · cases h
      · next hnone =>
        rcases List.suffix_cons_iff.mp hu with rfl | hu
        · exact hnone
        · exact ih.mp (Option.map_eq_none_iff.mp h) u hu
    · intro h
      rw [h _ List.suffix_rfl]
      exact Option.map_eq_none_iff.mpr (ih.mpr fun u hu => h u (hu.trans (List.suffix_cons c t)))

/-! ### Fences -/

/-- **What the annotator finds.** -/
theorem mermaidFenceAt_eq_some_iff {n : ℕ} {f : Fence} :
    mermaidFenceAt t = some (n, f) ↔ ∃ close rest, (∀ c ∈ f.indent, isBlank c = true) ∧
      NotClosed f.body ∧ (∀ c ∈ close, isBlank c = true) ∧ t = f.written close ++ rest ∧
        n = (f.written close).length := by
  have hlen : ∀ close : Text, (f.written close).length =
      1 + f.indent.length + opening.length + f.body.length + (1 + close.length + 3) := by
    intro close
    have hthree : "```".toList.length = 3 := rfl
    simp only [Fence.written, List.length_cons, List.length_append]
    omega
  have happ : ∀ close rest : Text, f.written close ++ rest = '\n' :: (f.indent ++ (opening ++
      (f.body ++ '\n' :: (close ++ ("```".toList ++ rest))))) := by
    intro close rest
    simp only [Fence.written, List.cons_append, List.append_assoc]
  rw [mermaidFenceAt_eq, Option.bind_eq_some_iff]
  constructor
  · rintro ⟨⟨indent, inner⟩, hopen, h⟩
    obtain ⟨⟨body, m⟩, hbody, heq⟩ := Option.map_eq_some_iff.mp h
    cases heq
    obtain ⟨hblank, rfl⟩ := openingAt_eq_some_iff.mp hopen
    -- the closing is the first one, so the body is not closed before it
    obtain ⟨stop, rfl, hstop⟩ := upTo_eq_some hbody
    obtain ⟨close, rest, hclose, rfl, rfl⟩ := closing_eq_some hstop
    exact ⟨close, rest, hblank, notClosed_of_upTo hbody, hclose, (happ close rest).symm,
      (hlen close).symm⟩
  · rintro ⟨close, rest, hblank, hbody, hclose, rfl, rfl⟩
    refine ⟨(f.indent, f.body ++ '\n' :: (close ++ ("```".toList ++ rest))),
      openingAt_eq_some_iff.mpr ⟨hblank, happ close rest⟩, ?_⟩
    rw [upTo_append (fun u hu hne => hbody u hu hne _) (closing_blanks hclose rest), hlen]
    rfl

/-- A fence among the pieces of a text stands there as it is written. -/
theorem exists_written_of_mem_pieces {found : Text} {f : Fence}
    (h : .found found f ∈ mermaidFence.pieces t) : ∃ close, found = f.written close := by
  induction t using mermaidFence.induction with
  | nil => cases h
  | symbol a t hnone ih =>
    rw [Pattern.pieces_of_eq_none hnone] at h
    rcases List.mem_cons.mp h with h | h
    · cases h
    · exact ih h
  | found t n f' hsome ih =>
    obtain ⟨close, rest, -, -, -, rfl, rfl⟩ := mermaidFenceAt_eq_some_iff.mp hsome
    rw [Pattern.pieces_of_eq_some hsome, List.take_left] at h
    rcases List.mem_cons.mp h with h | h
    · cases h
      exact ⟨close, rfl⟩
    · exact ih h

/-- **Behind an opening line that is not closed there is no fence.** -/
theorem not_occurs_of_open (h : openingAt ('\n' :: t) = some (indent, inner))
    (hnone : upTo closing inner = none) : ¬mermaidFence.Occurs t := by
  obtain ⟨hblank, ht⟩ := openingAt_eq_some_iff.mp h
  have hcut := (List.cons.inj ht).2
  rw [opening_append] at hcut
  rintro ⟨s, hs, hsome⟩
  obtain ⟨⟨n, f⟩, hfind⟩ := Option.isSome_iff_exists.mp hsome
  obtain ⟨close, rest, -, -, hclose, rfl, -⟩ := mermaidFenceAt_eq_some_iff.mp hfind
  -- the fence begins with a line break, and the first one ends the opening line
  have hbreak : f.written close ++ rest <:+ '\n' :: inner := by
    rw [hcut] at hs
    rcases List.suffix_or_suffix_of_suffix hs (List.suffix_append _ _) with hin | hout
    · exact hin
    · obtain ⟨more, hmore⟩ := hout
      obtain ⟨before, hbefore⟩ := hs
      rw [← hmore, ← List.append_assoc] at hbefore
      have hline := List.append_cancel_right hbefore
      cases more with
      | nil =>
        rw [List.nil_append] at hmore
        rw [← hmore]
      | cons c more =>
        have hc : c = '\n' := (List.cons.inj hmore).1
        refine absurd ?_ (break_notMem_opening hblank)
        rw [← hline, hc]
        exact List.mem_append_right _ List.mem_cons_self
  have hclosing : '\n' :: (close ++ ("```".toList ++ rest)) <:+ inner := by
    have htail : f.indent ++ (opening ++ (f.body ++ '\n' :: (close ++ ("```".toList ++ rest)))) <:+
        inner := by
      obtain ⟨before, hbefore⟩ := hbreak
      simp only [Fence.written, List.cons_append, List.append_assoc] at hbefore
      cases before with
      | nil => exact ⟨[], (List.cons.inj hbefore).2⟩
      | cons c before => exact ⟨before ++ ['\n'], by simpa using (List.cons.inj hbefore).2⟩
    exact (((List.suffix_append f.body _).trans (List.suffix_append opening _)).trans
      (List.suffix_append f.indent _)).trans htail
  have hopen := upTo_closing_eq_none_iff.mp hnone _ hclosing
  rw [closing_blanks hclose rest] at hopen
  cases hopen

end

end Docs
end Shrimp
