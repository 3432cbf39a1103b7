import Shrimp.Docs.Reannotate
import Shrimp.Docs.Template

/-!
# The passes of the engine as one substitution (`doc_output/template_engine.py`)

A template is a sequence of texts and slots.  The passes fill its slots one kind after
another; where nothing they put in opens a double brace, they are together one
substitution, which fills every slot by the first pass that knows its name and empties
the slots that no pass knows.

## Main definitions

* `Part` — a text of a template or a slot.
* `Engine.fills` — what the passes put in, for each name.
* `Engine.value` — what a slot is filled with.
* `Engine.render` — `render`, behind the loading of the template.

## Main results

* `Engine.passes_eq` — the passes are those of the fills.
* `foldl_passes` — **the passes are one substitution.**
* `Engine.replaceVariables_parts` — the document of a template.
-/

namespace Shrimp
namespace Docs

/-! ### Templates -/

/-- The name of a slot. -/
structure SlotName where
  text : Text
  ne_nil : text ≠ []
  plain : ∀ c ∈ text, c ≠ '{' ∧ c ≠ '}'

/-- A part of a template. -/
inductive Part
  | literal (text : Text)
  | slot (name : SlotName)

/-- How a part stands in a template. -/
def Part.text : Part → Text
  | literal t => t
  | slot name => placeholder name.text

/-- No double brace opens in a text, also not with what stands behind it. -/
def loose : Text → Bool
  | [] => true
  | ['{'] => false
  | '{' :: '{' :: _ => false
  | _ :: t => loose t

theorem loose_of_plain {t : Text} (h : '{' ∉ t) : loose t = true := by
  fun_induction loose t with
  | case1 => rfl
  | case2 => simp at h
  | case3 => simp at h
  | case4 c t _ _ ih => exact ih fun hmem => h (List.mem_cons_of_mem _ hmem)

theorem sub_braced_of_loose {β : Type} {accept : Text → Option β} {r : β → Text} {s t : Text}
    (h : loose s = true) : (braced accept).sub r (s ++ t) = s ++ (braced accept).sub r t := by
  fun_induction loose s with
  | case1 => rfl
  | case2 => cases h
  | case3 => cases h
  | case4 c s hsingle hdouble ih =>
    have hnone : (braced accept).find (c :: (s ++ t)) = none := by
      refine find_braced_eq_none_iff.mpr fun name rest _ heq => ?_
      rw [placeholder_append] at heq
      obtain ⟨hc, hrest⟩ := List.cons.inj heq
      cases s with
      | nil => exact (hsingle hc rfl).elim
      | cons d s => exact (hdouble s hc (by rw [(List.cons.inj hrest).1])).elim
    rw [List.cons_append, Pattern.sub_of_eq_none hnone, ih h, List.cons_append]

namespace SlotName

variable (name : SlotName)

theorem lbrace_notMem : '{' ∉ name.text := fun h => (name.plain _ h).1 rfl

theorem rbrace_notMem : '}' ∉ name.text := fun h => (name.plain _ h).2 rfl

end SlotName

/-! ### One pass -/

/-- The pass that puts in `f name` for every name it knows. -/
def pass (f : Text → Option Text) : Text → Text := (braced f).sub id

theorem sub_braced_eq_pass {β : Type} (accept : Text → Option β) (r : β → Text) :
    (braced accept).sub r = pass fun name => (accept name).map r := by
  funext t
  unfold pass
  induction t using (braced accept).induction with
  | nil => rfl
  | symbol a t hnone ih =>
    -- `r` does not change where a name is accepted
    have hnone' : (braced fun name => (accept name).map r).find (a :: t) = none := by
      refine find_braced_eq_none_iff.mpr fun name rest hname heq => ?_
      rw [find_braced_eq_none_iff.mp hnone name rest hname heq]
      rfl
    rw [Pattern.sub_of_eq_none hnone, Pattern.sub_of_eq_none hnone', ih]
  | found t n b hsome ih =>
    obtain ⟨name, rest, hname, rfl, hb, rfl⟩ := find_braced_eq_some_iff.mp hsome
    rw [List.drop_left] at ih
    rw [sub_placeholder_of_some hname hb, ih,
      sub_placeholder_of_some hname (show (accept name).map r = some (r b) by rw [hb]; rfl)]
    rfl

/-- A part with its slot filled, if the pass knows the name. -/
def Part.fill (f : Text → Option Text) : Part → Part
  | literal t => literal t
  | slot name => (f name.text).elim (slot name) literal

@[simp] theorem Part.fill_literal (f : Text → Option Text) (t : Text) :
    (literal t).fill f = literal t := rfl

@[simp] theorem Part.fill_slot (f : Text → Option Text) (name : SlotName) :
    (slot name).fill f = (f name.text).elim (slot name) literal := rfl

/-- **One pass over a template.** -/
theorem pass_parts {f : Text → Option Text} {parts : List Part}
    (h : ∀ t, .literal t ∈ parts → loose t = true) :
    pass f (parts.flatMap Part.text) = (parts.map (Part.fill f)).flatMap Part.text := by
  induction parts with
  | nil => rfl
  | cons part parts ih =>
    have ih := ih fun t ht => h t (List.mem_cons_of_mem _ ht)
    rw [List.flatMap_cons, List.map_cons, List.flatMap_cons, ← ih]
    unfold pass
    -- a literal is passed over, a slot is filled or left
    cases part with
    | literal t => exact sub_braced_of_loose (h t List.mem_cons_self)
    | slot name =>
      rw [Part.fill_slot, Part.text]
      cases hf : f name.text with
      | none => exact sub_placeholder_of_none name.lbrace_notMem name.rbrace_notMem hf
      | some t => exact sub_placeholder_of_some name.rbrace_notMem hf

/-! ### One pass after another -/

/-- What passes put in for a name: the first that knows it. -/
def firstFill (fs : List (Text → Option Text)) (name : Text) : Option Text :=
  fs.findSome? fun f => f name

theorem fill_firstFill_cons (f : Text → Option Text) (fs : List (Text → Option Text))
    (part : Part) : (part.fill f).fill (firstFill fs) = part.fill (firstFill (f :: fs)) := by
  cases part with
  | literal t => rfl
  | slot name =>
    rw [Part.fill_slot, Part.fill_slot, firstFill, List.findSome?_cons]
    cases f name.text with
    | none => rfl
    | some t => rfl

/-- A literal was there before, or is what a slot was filled with. -/
theorem Part.fill_eq_literal {f : Text → Option Text} {part : Part} {t : Text}
    (h : part.fill f = .literal t) :
    part = .literal t ∨ ∃ name, part = .slot name ∧ f name.text = some t := by
  cases part with
  | literal s => exact .inl h
  | slot name =>
    rw [Part.fill_slot] at h
    cases hf : f name.text with
    | none =>
      rw [hf] at h
      cases h
    | some s =>
      rw [hf] at h
      cases h
      exact .inr ⟨name, rfl, hf⟩

theorem Part.fill_eq_slot {f : Text → Option Text} {part : Part} {name : SlotName}
    (h : part.fill f = .slot name) : part = .slot name := by
  cases part with
  | literal s => cases h
  | slot name' =>
    rw [Part.fill_slot] at h
    cases hf : f name'.text with
    | none =>
      rw [hf] at h
      exact h
    | some s =>
      rw [hf] at h
      cases h

/-- **The passes are one substitution**, where what they put in for the slots opens no
double brace. -/
theorem foldl_passes {fs : List (Text → Option Text)} {parts : List Part}
    (hparts : ∀ t, .literal t ∈ parts → loose t = true)
    (hfs : ∀ f ∈ fs, ∀ name, .slot name ∈ parts → ∀ t, f name.text = some t → loose t = true) :
    (fs.map pass).foldl (fun t f => f t) (parts.flatMap Part.text) =
      (parts.map (Part.fill (firstFill fs))).flatMap Part.text := by
  induction fs generalizing parts with
  | nil =>
    have hself : parts.map (Part.fill (firstFill [])) = parts := by
      refine List.map_id'' (fun part => ?_) parts
      cases part <;> rfl
    rw [hself]
    rfl
  | cons f fs ih =>
    -- what the first pass puts in is loose, so that the other passes leave it
    have hfilled : ∀ t, .literal t ∈ parts.map (Part.fill f) → loose t = true := by
      intro t ht
      obtain ⟨part, hpart, heq⟩ := List.mem_map.mp ht
      rcases Part.fill_eq_literal heq with rfl | ⟨name, rfl, hf⟩
      · exact hparts t hpart
      · exact hfs f List.mem_cons_self name hpart t hf
    have hslots : ∀ name, .slot name ∈ parts.map (Part.fill f) → .slot name ∈ parts := by
      intro name hname
      obtain ⟨part, hpart, heq⟩ := List.mem_map.mp hname
      exact Part.fill_eq_slot heq ▸ hpart
    rw [List.map_cons, List.foldl_cons, pass_parts hparts,
      ih hfilled fun g hg name hname =>
        hfs g (List.mem_cons_of_mem _ hg) name (hslots name hname), List.map_map]
    congr 2
    exact funext (fill_firstFill_cons f fs)

/-! ### The passes of the engine -/

/-- The name is `a`, and is filled with a text. -/
def named (a new : Text) : Text → Option Text := fun name => (exactly a name).map fun _ => new

namespace Engine

variable (e : Engine) (date : Text)

/-- What the passes put in, in order. -/
def fills : List (Text → Option Text) := [
  named "title".toList e.getDocTitle,
  named "date".toList date,
  named "author".toList "Shrimp Team".toList,
  named "overview".toList e.formatOverview,
  named "details".toList e.formatDetails,
  named "references".toList e.formatReferences,
  fun name => (contentSourceName name).map fun _ => e.primarySourceLabel,
  fun name => (diagramName name).map diagramStub,
  named "include_diagram:multi".toList multiDiagramStub,
  named "include_diagram".toList (diagramStub []),
  fun name => (anyName name).map fun _ => []]

theorem passes_eq : e.passes date = (e.fills date).map pass := by
  have hslot : ∀ a new : Text, '}' ∉ a → replaceSlot a new = pass (named a new) := by
    intro a new ha
    funext t
    rw [replaceSlot_eq ha, sub_braced_eq_pass]
    rfl
  unfold passes fills
  rw [hslot _ _ (by decide), hslot _ _ (by decide), hslot _ _ (by decide), hslot _ _ (by decide),
    hslot _ _ (by decide), hslot _ _ (by decide), sub_braced_eq_pass, sub_braced_eq_pass,
    sub_braced_eq_pass, sub_braced_eq_pass, anyPlaceholder, sub_braced_eq_pass]
  rfl

/-- **What a slot is filled with.** -/
def value (name : SlotName) : Text := (firstFill (e.fills date) name.text).getD []

/-- A part of the document. -/
def partValue : Part → Text
  | .literal t => t
  | .slot name => e.value date name

theorem isSome_firstFill (name : SlotName) : (firstFill (e.fills date) name.text).isSome := by
  rw [firstFill, List.findSome?_isSome_iff]
  refine ⟨fun name => (anyName name).map fun _ => [], by simp [fills], ?_⟩
  simp [anyName, name.ne_nil]

/-- **The document of a template**, where what the passes put in for its slots opens no
double brace. -/
theorem replaceVariables_parts {parts : List Part}
    (hparts : ∀ t, .literal t ∈ parts → loose t = true)
    (hfills : ∀ f ∈ e.fills date, ∀ name, .slot name ∈ parts → ∀ t, f name.text = some t →
      loose t = true) :
    e.replaceVariables date (parts.flatMap Part.text) = parts.flatMap (e.partValue date) := by
  rw [replaceVariables, passes_eq, foldl_passes hparts hfills, List.flatMap_map]
  refine List.flatMap_congr fun part _ => ?_
  cases part with
  | literal t => rfl
  | slot name =>
    obtain ⟨t, ht⟩ := Option.isSome_iff_exists.mp (e.isSome_firstFill date name)
    rw [partValue, value, Part.fill_slot, ht]
    rfl

end Engine

/-! ### Rendering -/

/-- The day a document is rendered. -/
structure Date where
  year : ℕ
  month : ℕ
  day : ℕ

/-- A number in decimal, padded with zeros to a width. -/
def decimal (width n : ℕ) : Text := List.leftpad width '0' (Nat.toDigits 10 n)

/-- `strftime('%Y-%m-%d')`. -/
def Date.strftime (d : Date) : Text :=
  decimal 4 d.year ++ "-".toList ++ decimal 2 d.month ++ "-".toList ++ decimal 2 d.day

theorem isDigit_of_mem_decimal {width n : ℕ} {c : Char} (h : c ∈ decimal width n) :
    c.isDigit = true := by
  rcases List.mem_append.mp h with hpad | hdigit
  · rw [List.eq_of_mem_replicate hpad]
    rfl
  · exact Nat.isDigit_of_mem_toDigits (by omega) (by omega) hdigit

theorem Date.mem_strftime {d : Date} {c : Char} (h : c ∈ d.strftime) :
    c.isDigit = true ∨ c = '-' := by
  have hhyphen : c ∈ "-".toList → c = '-' := List.eq_of_mem_singleton
  simp only [strftime, List.mem_append] at h
  rcases h with (((hc | hc) | hc) | hc) | hc
  · exact .inl (isDigit_of_mem_decimal hc)
  · exact .inr (hhyphen hc)
  · exact .inl (isDigit_of_mem_decimal hc)
  · exact .inr (hhyphen hc)
  · exact .inl (isDigit_of_mem_decimal hc)

/-- `render`, on the template that is loaded. -/
def Engine.render (e : Engine) (isWord : Char → Bool) (annotateMermaid : Bool) (day : Date)
    (template : Text) : Text :=
  let content := e.replaceVariables day.strftime template
  if annotateMermaid then annotateMermaidBlocks isWord content else content

section

variable (e : Engine) (isWord : Char → Bool) (day : Date) (template : Text)

@[simp] theorem Engine.render_false : e.render isWord false day template =
    e.replaceVariables day.strftime template := by
  unfold Engine.render
  dsimp only
  rw [if_neg Bool.false_ne_true]

@[simp] theorem Engine.render_true : e.render isWord true day template =
    annotateMermaidBlocks isWord (e.replaceVariables day.strftime template) := by
  unfold Engine.render
  dsimp only
  rw [if_pos rfl]

end

end Docs
end Shrimp
