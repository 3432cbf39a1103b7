import Mathlib.Algebra.Order.BigOperators.Group.List
import Shrimp.Docs.Authors
import Shrimp.Docs.Unfilled

/-!
# The figures of a template (`doc_output/template_engine.py`)

The guide of the templates has three forms of a slot for a figure: without a code, for
several figures, and with a code, which may have several words.  The engine puts a
placeholder figure in for each of them, but for the codes of several words, which no
pass knows but the last: it deletes them.

## Main definitions

* `slotDiagrams` — the figures a slot stands for.
* `placedDiagrams` — the placeholder figures the engine puts in.
* `PlainContent` — a merged content without braces and per cent signs.
* `ExactCount` — the count of the document is the number of figures of the template.

## Main results

* `count_value_append` — what a slot is filled with counts what the engine puts in.
* `placedDiagrams_eq_iff` — where these are the figures the slot stands for.
* `exactCount_iff` — **the count is exact exactly when no code has several words.**
-/

namespace Shrimp
namespace Docs

/-! ### The figures of a slot -/

/-- A chart code of the guide, read. -/
def GuideCode.read (t : Text) : Option GuideCode :=
  (afterPrefix "D-".toList t).bind fun joined =>
    let words := joined.splitOn '-'
    if h : ∀ w ∈ words, w ≠ [] ∧ ∀ c ∈ w, isUpper c = true then
      some ⟨words, List.splitOn_ne_nil _ _, h⟩
    else none

/-- The code of a slot of the typed form. -/
def slotCode (name : Text) : Option GuideCode :=
  (afterPrefix "include_diagram:".toList name).bind GuideCode.read

/-- **The figures a slot stands for**, in the guide. -/
def slotDiagrams (name : Text) : ℕ :=
  if name = "include_diagram".toList then 1
  else if name = "include_diagram:multi".toList then 2
  else if (slotCode name).isSome then 1 else 0

/-- **The placeholder figures the engine puts in.** -/
def placedDiagrams (name : Text) : ℕ :=
  if name = "include_diagram".toList then 1
  else if name = "include_diagram:multi".toList then 2
  else if (diagramName name).isSome then 1 else 0

theorem GuideCode.read_eq_some_iff {t : Text} {g : GuideCode} :
    GuideCode.read t = some g ↔ t = g.text := by
  unfold read
  rw [Option.bind_eq_some_iff]
  constructor
  · rintro ⟨joined, hcut, h⟩
    dsimp only at h
    split at h
    · cases h
      rw [afterPrefix_eq_some_iff.mp hcut, text, GuideCode.joined, List.intercalate_splitOn]
    · cases h
  · rintro rfl
    have hsplit : g.joined.splitOn '-' = g.words := by
      refine List.splitOn_intercalate '-' (fun w hw hmem => ?_) g.ne_nil
      exact absurd ((g.upper w hw).2 '-' hmem) (by decide)
    refine ⟨g.joined, afterPrefix_eq_some_iff.mpr rfl, ?_⟩
    dsimp only
    rw [dif_pos (by rw [hsplit]; exact g.upper)]
    obtain ⟨words, ne_nil, upper⟩ := g
    congr 1
    rw [GuideCode.mk.injEq]
    exact hsplit

theorem slotCode_eq_some_iff {name : Text} {g : GuideCode} :
    slotCode name = some g ↔ name = "include_diagram:".toList ++ g.text := by
  unfold slotCode
  rw [Option.bind_eq_some_iff]
  constructor
  · rintro ⟨t, hcut, hread⟩
    rw [afterPrefix_eq_some_iff.mp hcut, GuideCode.read_eq_some_iff.mp hread]
  · rintro rfl
    exact ⟨g.text, afterPrefix_eq_some_iff.mpr rfl, GuideCode.read_eq_some_iff.mpr rfl⟩

/-- **The codes the engine knows** are those of one word. -/
theorem diagramName_eq_some_iff {name code : Text} : diagramName name = some code ↔
    ∃ g : GuideCode, slotCode name = some g ∧ g.words.length = 1 ∧ g.text = code := by
  have hsplit : "include_diagram:D-".toList = "include_diagram:".toList ++ "D-".toList := rfl
  have hdrop : ∀ letters : Text,
      ("include_diagram:D-".toList ++ letters).drop "include_diagram:D-".length = letters :=
    fun letters => List.drop_left' rfl
  constructor
  · intro h
    unfold diagramName at h
    dsimp only at h
    split at h
    · next hname =>
      cases h
      obtain ⟨⟨letters, rfl⟩, hne, hupper⟩ := hname
      rw [hdrop] at hne hupper ⊢
      have hword : ∀ w ∈ [letters], w ≠ [] ∧ ∀ c ∈ w, isUpper c = true := by
        simpa [isUpper] using ⟨hne, by simpa using hupper⟩
      let g : GuideCode := ⟨[letters], List.cons_ne_nil _ _, hword⟩
      have hjoined : g.joined = letters := List.intercalate_singleton
      refine ⟨g, slotCode_eq_some_iff.mpr ?_, rfl, by rw [GuideCode.text, hjoined]⟩
      rw [GuideCode.text, hjoined, hsplit, List.append_assoc]
    · cases h
  · rintro ⟨g, hcode, hlen, rfl⟩
    obtain rfl := slotCode_eq_some_iff.mp hcode
    obtain ⟨letters, hwords⟩ := List.length_eq_one_iff.mp hlen
    have hjoined : g.joined = letters := by
      rw [GuideCode.joined, hwords, List.intercalate_singleton]
    have hupper := g.upper letters (by rw [hwords]; exact List.mem_cons_self)
    rw [GuideCode.text, hjoined, ← List.append_assoc, ← hsplit]
    unfold diagramName
    dsimp only
    rw [hdrop, if_pos]
    refine ⟨List.prefix_append _ _, hupper.1, ?_⟩
    simpa [isUpper] using hupper.2

/-! ### Plain texts -/

/-- A text without braces and per cent signs. -/
def Plain (t : Text) : Prop := ∀ c ∈ t, c ≠ '{' ∧ c ≠ '}' ∧ c ≠ '%'

instance (t : Text) : Decidable (Plain t) :=
  inferInstanceAs (Decidable (∀ c ∈ t, c ≠ '{' ∧ c ≠ '}' ∧ c ≠ '%'))

namespace Plain

variable {s t : Text}

theorem append (hs : Plain s) (ht : Plain t) : Plain (s ++ t) := fun c hc =>
  (List.mem_append.mp hc).elim (hs c) (ht c)

theorem intercalate {sep : Text} (hsep : Plain sep) {ts : List Text} (h : ∀ t ∈ ts, Plain t) :
    Plain (sep.intercalate ts) := by
  induction ts with
  | nil =>
    intro c hc
    cases hc
  | cons t ts ih =>
    have ih := ih fun u hu => h u (List.mem_cons_of_mem _ hu)
    have ht := h t List.mem_cons_self
    cases ts with
    | nil => rwa [List.intercalate_singleton]
    | cons u ts =>
      rw [List.intercalate_cons_cons]
      exact (ht.append hsep).append ih

theorem lbrace_notMem (h : Plain t) : '{' ∉ t := fun hmem => (h _ hmem).1 rfl

theorem percent_notMem (h : Plain t) : '%' ∉ t := fun hmem => (h _ hmem).2.2 rfl

theorem getD {o : Option Text} (h : ∀ t, o = some t → Plain t) : Plain (o.getD []) := by
  cases o with
  | none =>
    intro c hc
    cases hc
  | some t => exact h t rfl

end Plain

/-- A merged content without braces and per cent signs. -/
structure PlainContent extends Engine where
  overview_plain : Plain overview
  details_plain : ∀ d ∈ details.entries, Plain d.1 ∧ ∀ t, d.2.content = some t → Plain t
  references_plain : ∀ r ∈ references,
    (∀ t, r.title = some t → Plain t) ∧ ∀ t, r.url = some t → Plain t

namespace PlainContent

variable (e : PlainContent)

theorem plain_of_sourceIcon {type icon : Text} (h : sourceIcon type = some icon) : Plain icon := by
  obtain ⟨l₁, l₂, hmem, -⟩ := List.lookup_eq_some_iff.mp h
  have hicons : ∀ p ∈ [("code_repository".toList, "📦".toList),
      ("feishu_doc".toList, "📄".toList), ("web".toList, "🌐".toList)], Plain p.2 := by
    decide +kernel
  exact hicons (type, icon) (by rw [hmem]; simp)

theorem plain_formatOverview : Plain e.formatOverview := by
  unfold Engine.formatOverview
  split
  · decide +kernel
  · exact e.overview_plain

theorem plain_formatDetails : Plain e.formatDetails := by
  unfold Engine.formatDetails
  dsimp only
  split
  · decide +kernel
  · refine Plain.intercalate (by decide) fun t ht => ?_
    obtain ⟨⟨key, value⟩, hmem, ht⟩ := List.mem_filterMap.mp ht
    obtain ⟨icon, hicon, rfl⟩ := Option.map_eq_some_iff.mp ht
    obtain ⟨hkey, hcontent⟩ := e.details_plain _ hmem
    have hhead : Plain "### ".toList := by decide
    exact ((((hhead.append (plain_of_sourceIcon hicon)).append (by decide)).append hkey).append
      (by decide)).append (Plain.getD hcontent)

theorem plain_formatReferences : Plain e.formatReferences := by
  unfold Engine.formatReferences
  split
  · decide +kernel
  · refine Plain.intercalate (by decide) fun t ht => ?_
    obtain ⟨ref, hmem, ht⟩ := List.mem_filterMap.mp ht
    obtain ⟨icon, hicon, rfl⟩ := Option.map_eq_some_iff.mp ht
    obtain ⟨htitle, hurl⟩ := e.references_plain _ hmem
    have hhead : Plain "- ".toList := by decide
    exact (((((hhead.append (plain_of_sourceIcon hicon)).append (by decide)).append
      (Plain.getD htitle)).append (by decide)).append (Plain.getD hurl)).append (by decide)

end PlainContent

/-- The title of a document is one of the engine's own texts. -/
theorem plain_getDocTitle (e : Engine) : Plain e.getDocTitle := by
  have htitles : ∀ p ∈ titles, Plain p.2 := by decide +kernel
  unfold Engine.getDocTitle
  cases hfind : titles.lookup e.docType with
  | none => decide
  | some title =>
    obtain ⟨l₁, l₂, hmem, -⟩ := List.lookup_eq_some_iff.mp hfind
    exact htitles (e.docType, title) (by rw [hmem]; simp)

theorem plain_primarySourceLabel (e : Engine) : Plain e.primarySourceLabel :=
  primarySourceLabel_of_labels (by decide +kernel) (by decide +kernel) (by decide +kernel) e

theorem plain_strftime (day : Date) : Plain day.strftime := by
  intro c hc
  rcases Date.mem_strftime hc with hdigit | rfl
  · refine ⟨?_, ?_, ?_⟩ <;>
      · rintro rfl
        exact absurd hdigit (by decide)
  · decide

/-! ### What the slots are filled with -/

theorem percent_notMem_of_diagramName {name code : Text} (h : diagramName name = some code) :
    '%' ∉ code := by
  obtain ⟨g, -, -, rfl⟩ := diagramName_eq_some_iff.mp h
  intro hmem
  rcases List.mem_append.mp hmem with hmem | hmem
  · exact absurd hmem (by decide)
  · rcases g.mem_joined hmem with hupper | heq
    · exact absurd hupper (by decide)
    · exact absurd heq (by decide)

theorem named_eq_some_iff {a new name t : Text} :
    named a new name = some t ↔ name = a ∧ new = t := by
  unfold named exactly
  split <;> simp [*]

theorem named_of_ne {a new name : Text} (h : name ≠ a) : named a new name = none := by
  rw [named, exactly, if_neg h]
  rfl

/-- The slots of the fetched material. -/
def fetchedSlots : List Text := ["overview".toList, "details".toList, "references".toList]

/-- **What the passes put in**: the fetched material, a plain text of the engine's own, or
the placeholder figures of the name. -/
theorem fill_cases (e : Engine) (day : Date) {f : Text → Option Text}
    (hf : f ∈ e.fills day.strftime) {name t : Text} (h : f name = some t) :
    (name ∈ fetchedSlots ∧ t ∈ [e.formatOverview, e.formatDetails, e.formatReferences]) ∨
      Plain t ∨ (∃ code, diagramName name = some code ∧ t = diagramStub code) ∨
      (name = "include_diagram:multi".toList ∧ t = multiDiagramStub) ∨
      (name = "include_diagram".toList ∧ t = diagramStub []) := by
  simp only [Engine.fills, List.mem_cons, List.not_mem_nil, or_false] at hf
  rcases hf with rfl | rfl | rfl | rfl | rfl | rfl | rfl | rfl | rfl | rfl | rfl
  · obtain ⟨-, rfl⟩ := named_eq_some_iff.mp h
    exact .inr (.inl (plain_getDocTitle e))
  · obtain ⟨-, rfl⟩ := named_eq_some_iff.mp h
    exact .inr (.inl (plain_strftime day))
  · obtain ⟨-, rfl⟩ := named_eq_some_iff.mp h
    exact .inr (.inl (by decide))
  · obtain ⟨rfl, rfl⟩ := named_eq_some_iff.mp h
    exact .inl ⟨by simp [fetchedSlots], by simp⟩
  · obtain ⟨rfl, rfl⟩ := named_eq_some_iff.mp h
    exact .inl ⟨by simp [fetchedSlots], by simp⟩
  · obtain ⟨rfl, rfl⟩ := named_eq_some_iff.mp h
    exact .inl ⟨by simp [fetchedSlots], by simp⟩
  · obtain ⟨-, -, rfl⟩ := Option.map_eq_some_iff.mp h
    exact .inr (.inl (plain_primarySourceLabel e))
  · obtain ⟨code, hcode, rfl⟩ := Option.map_eq_some_iff.mp h
    exact .inr (.inr (.inl ⟨code, hcode, rfl⟩))
  · obtain ⟨rfl, rfl⟩ := named_eq_some_iff.mp h
    exact .inr (.inr (.inr (.inl ⟨rfl, rfl⟩)))
  · obtain ⟨rfl, rfl⟩ := named_eq_some_iff.mp h
    exact .inr (.inr (.inr (.inr ⟨rfl, rfl⟩)))
  · obtain ⟨-, -, rfl⟩ := Option.map_eq_some_iff.mp h
    exact .inr (.inl (by decide))

theorem lbrace_notMem_of_fill (e : Engine) (day : Date) {f : Text → Option Text}
    (hf : f ∈ e.fills day.strftime) {name t : Text} (h : f name = some t)
    (hfetched : name ∈ fetchedSlots →
      t ∈ [e.formatOverview, e.formatDetails, e.formatReferences] → '{' ∉ t) : '{' ∉ t := by
  rcases fill_cases e day hf h with ⟨hname, ht⟩ | hplain | ⟨code, hcode, rfl⟩ | ⟨-, rfl⟩ | ⟨-, rfl⟩
  · exact hfetched hname ht
  · exact hplain.lbrace_notMem
  · exact lbrace_notMem_diagramStub (lbrace_notMem_of_diagramName hcode)
  · exact lbrace_notMem_multiDiagramStub
  · exact lbrace_notMem_diagramStub List.not_mem_nil

theorem plain_fetched (e : PlainContent) {t : Text}
    (h : t ∈ [e.formatOverview, e.formatDetails, e.formatReferences]) : Plain t := by
  simp only [List.mem_cons, List.not_mem_nil, or_false] at h
  rcases h with rfl | rfl | rfl
  · exact e.plain_formatOverview
  · exact e.plain_formatDetails
  · exact e.plain_formatReferences

theorem lbrace_notMem_fill (e : PlainContent) (day : Date) {f : Text → Option Text}
    (hf : f ∈ e.fills day.strftime) {name t : Text} (h : f name = some t) : '{' ∉ t :=
  lbrace_notMem_of_fill e.toEngine day hf h fun _ ht => (plain_fetched e ht).lbrace_notMem

/-- The passes before those of the figures know no name of theirs. -/
theorem firstFill_diagram (e : Engine) (date rest : Text) :
    firstFill (e.fills date) ("include_diagram".toList ++ rest) =
      firstFill ((e.fills date).drop 7) ("include_diagram".toList ++ rest) := by
  have hnamed : ∀ a new : Text, a.head? ≠ some 'i' →
      named a new ("include_diagram".toList ++ rest) = none := by
    intro a new ha
    refine named_of_ne ?_
    rintro rfl
    exact ha rfl
  have hsource : contentSourceName ("include_diagram".toList ++ rest) = none := by
    unfold contentSourceName
    refine if_neg ?_
    rintro (heq | ⟨hcut, -⟩)
    · exact absurd (List.cons.inj heq).1 (by decide)
    · exact absurd (List.cons_prefix_cons.mp hcut).1 (by decide)
  unfold firstFill Engine.fills
  simp only [List.findSome?_cons, hnamed _ _ (show "title".toList.head? ≠ some 'i' by decide),
    hnamed _ _ (show "date".toList.head? ≠ some 'i' by decide),
    hnamed _ _ (show "author".toList.head? ≠ some 'i' by decide),
    hnamed _ _ (show "overview".toList.head? ≠ some 'i' by decide),
    hnamed _ _ (show "details".toList.head? ≠ some 'i' by decide),
    hnamed _ _ (show "references".toList.head? ≠ some 'i' by decide), hsource, Option.map_none,
    List.drop_succ_cons, List.drop_zero]

section

variable (e : PlainContent) (day : Date) (name : SlotName)

theorem value_bare (h : name.text = "include_diagram".toList) :
    e.value day.strftime name = diagramStub [] := by
  have hcode : diagramName "include_diagram".toList = none := by decide +kernel
  have hmulti : named "include_diagram:multi".toList multiDiagramStub "include_diagram".toList =
      none := named_of_ne (by decide +kernel)
  rw [Engine.value, h, ← List.append_nil "include_diagram".toList, firstFill_diagram,
    List.append_nil]
  simp only [firstFill, Engine.fills, List.drop_succ_cons, List.drop_zero, List.findSome?_cons,
    hcode, hmulti, Option.map_none, named_eq_some_iff.mpr ⟨rfl, rfl⟩, Option.getD_some]

theorem value_multi (h : name.text = "include_diagram:multi".toList) :
    e.value day.strftime name = multiDiagramStub := by
  have hsplit : "include_diagram:multi".toList = "include_diagram".toList ++ ":multi".toList := rfl
  have hcode : diagramName "include_diagram:multi".toList = none := by decide +kernel
  rw [Engine.value, h, hsplit, firstFill_diagram, ← hsplit]
  simp only [firstFill, Engine.fills, List.drop_succ_cons, List.drop_zero, List.findSome?_cons,
    hcode, Option.map_none, named_eq_some_iff.mpr ⟨rfl, rfl⟩, Option.getD_some]

theorem value_typed {code : Text} (h : diagramName name.text = some code) :
    e.value day.strftime name = diagramStub code := by
  obtain ⟨g, hcode, -, -⟩ := diagramName_eq_some_iff.mp h
  have hsplit : name.text = "include_diagram".toList ++ (':' :: g.text) :=
    slotCode_eq_some_iff.mp hcode
  rw [Engine.value, hsplit, firstFill_diagram, ← hsplit]
  simp only [firstFill, Engine.fills, List.drop_succ_cons, List.drop_zero, List.findSome?_cons, h,
    Option.map_some, Option.getD_some]

theorem plain_value (h : placedDiagrams name.text = 0) : Plain (e.value day.strftime name) := by
  obtain ⟨t, ht⟩ := Option.isSome_iff_exists.mp (e.isSome_firstFill day.strftime name)
  rw [Engine.value, ht, Option.getD_some]
  obtain ⟨f, hf, hft⟩ := List.exists_of_findSome?_eq_some ht
  unfold placedDiagrams at h
  split_ifs at h with hbare hmulti hcode
  rcases fill_cases e.toEngine day hf hft with
    ⟨-, hfetched⟩ | hplain | ⟨code, hsome, -⟩ | ⟨hname, -⟩ | ⟨hname, -⟩
  · exact plain_fetched e hfetched
  · exact hplain
  · rw [hsome] at hcode
    exact absurd rfl hcode
  · exact absurd hname hmulti
  · exact absurd hname hbare

/-- **What a slot is filled with counts what the engine puts in.** -/
theorem count_value_append (t : Text) :
    newSentinels.count (e.value day.strftime name ++ t) =
      placedDiagrams name.text + newSentinels.count t := by
  by_cases hplaced : placedDiagrams name.text = 0
  · rw [hplaced, Nat.zero_add,
      count_append_of_plain (plain_value e day name hplaced).percent_notMem]
  · unfold placedDiagrams at hplaced ⊢
    split_ifs at hplaced ⊢ with hbare hmulti hcode
    · rw [value_bare e day name hbare, count_diagramStub List.not_mem_nil, Nat.add_comm]
    · rw [value_multi e day name hmulti, count_multiDiagramStub, Nat.add_comm]
    · obtain ⟨code, hsome⟩ := Option.isSome_iff_exists.mp hcode
      rw [value_typed e day name hsome, count_diagramStub (percent_notMem_of_diagramName hsome),
        Nat.add_comm]
    · exact absurd rfl hplaced

end

/-! ### The count of the document -/

/-- A template whose texts are plain. -/
structure SlotTemplate where
  parts : List Part
  plain : ∀ t, .literal t ∈ parts → Plain t

namespace Part

/-- The figures a part stands for. -/
def diagrams : Part → ℕ
  | literal _ => 0
  | slot name => slotDiagrams name.text

/-- The placeholder figures the engine puts in for a part. -/
def placed : Part → ℕ
  | literal _ => 0
  | slot name => placedDiagrams name.text

/-- The code of a part that is a slot of the typed form. -/
def code? : Part → Option GuideCode
  | literal _ => none
  | slot name => slotCode name.text

end Part

namespace SlotTemplate

variable (T : SlotTemplate)

/-- The template. -/
def text : Text := T.parts.flatMap Part.text

/-- **The figures of the template.** -/
def diagrams : ℕ := (T.parts.map Part.diagrams).sum

/-- The codes its slots ask for. -/
def codes : List GuideCode := T.parts.filterMap Part.code?

end SlotTemplate

/-- **The count of a document is exact**: no slot is left in it, it counts the figures of
the template, and all of them are there from the beginning only if there are none. -/
structure ExactCount (e : PlainContent) (isWord : Char → Bool) (annotateMermaid : Bool)
    (day : Date) (T : SlotTemplate) : Prop where
  clean : ¬anyPlaceholder.Occurs (e.render isWord annotateMermaid day T.text)
  exact : countUnfilledDiagrams (e.render isWord annotateMermaid day T.text) = T.diagrams
  filled : diagramsFilled (e.render isWord annotateMermaid day T.text) = true ↔
    ∀ name, .slot name ∈ T.parts → slotDiagrams name.text = 0

theorem placedDiagrams_le (name : Text) : placedDiagrams name ≤ slotDiagrams name := by
  unfold placedDiagrams slotDiagrams
  split_ifs with hbare hmulti hplaced hcode hcode
  · rfl
  · rfl
  · rfl
  · obtain ⟨code, hsome⟩ := Option.isSome_iff_exists.mp hplaced
    obtain ⟨g, hg, -⟩ := diagramName_eq_some_iff.mp hsome
    rw [hg] at hcode
    exact absurd rfl hcode
  · omega
  · rfl

/-- **A slot gets its figures** unless it asks for a code of several words. -/
theorem placedDiagrams_eq_iff (name : Text) : placedDiagrams name = slotDiagrams name ↔
    ∀ g, slotCode name = some g → g.words.length = 1 := by
  have hbare : (slotCode "include_diagram".toList).isSome = false := by decide +kernel
  have hmulti : (slotCode "include_diagram:multi".toList).isSome = false := by decide +kernel
  constructor
  · intro h g hg
    unfold placedDiagrams slotDiagrams at h
    split_ifs at h with hname hname' hplaced hcode hcode
    · rw [← hname, hg] at hbare
      cases hbare
    · rw [← hname', hg] at hmulti
      cases hmulti
    · obtain ⟨code, hsome⟩ := Option.isSome_iff_exists.mp hplaced
      obtain ⟨g', hg', hlen, -⟩ := diagramName_eq_some_iff.mp hsome
      rw [hg] at hg'
      cases hg'
      exact hlen
    · rw [hg] at hcode
      exact absurd rfl hcode
  · intro h
    unfold placedDiagrams slotDiagrams
    split_ifs with hbare hmulti hplaced hcode hcode
    · rfl
    · rfl
    · rfl
    · obtain ⟨code, hsome⟩ := Option.isSome_iff_exists.mp hplaced
      obtain ⟨g, hg, -⟩ := diagramName_eq_some_iff.mp hsome
      rw [hg] at hcode
      exact absurd rfl hcode
    -- the guide has the code, and no pass knows it
    · obtain ⟨g, hg⟩ := Option.isSome_iff_exists.mp hcode
      have hknown := diagramName_eq_some_iff.mpr ⟨g, hg, h g hg, rfl⟩
      rw [hknown] at hplaced
      exact absurd rfl hplaced
    · rfl

/-- Two sums are equal exactly when their summands are, where one is never above the
other. -/
theorem sum_map_eq_iff {α : Type} {f g : α → ℕ} {l : List α} (h : ∀ a ∈ l, f a ≤ g a) :
    (l.map f).sum = (l.map g).sum ↔ ∀ a ∈ l, f a = g a := by
  refine ⟨fun hsum => ?_, fun heq => congrArg List.sum (List.map_congr_left heq)⟩
  induction l with
  | nil =>
    intro a ha
    cases ha
  | cons b l ih =>
    have hb := h b List.mem_cons_self
    have hl := fun a ha => h a (List.mem_cons_of_mem b ha)
    have hle : (l.map f).sum ≤ (l.map g).sum := List.sum_le_sum hl
    rw [List.map_cons, List.map_cons, List.sum_cons, List.sum_cons] at hsum
    intro a ha
    rcases List.mem_cons.mp ha with rfl | ha
    · omega
    · exact ih hl (by omega) a ha

section

variable (e : PlainContent) (isWord : Char → Bool) (annotateMermaid : Bool) (day : Date)
  (T : SlotTemplate)

theorem replaceVariables_text :
    e.replaceVariables day.strftime T.text = T.parts.flatMap (e.partValue day.strftime) :=
  e.replaceVariables_parts day.strftime (fun t ht => loose_of_plain (T.plain t ht).lbrace_notMem)
    fun _ hf _ _ _ h => loose_of_plain (lbrace_notMem_fill e day hf h)

theorem lbrace_notMem_render : '{' ∉ e.render isWord annotateMermaid day T.text := by
  have hcontent : '{' ∉ e.replaceVariables day.strftime T.text := by
    rw [replaceVariables_text]
    intro hmem
    obtain ⟨part, hpart, hmem⟩ := List.mem_flatMap.mp hmem
    cases part with
    | literal t => exact (T.plain t hpart).lbrace_notMem hmem
    | slot name =>
      obtain ⟨t, ht⟩ := Option.isSome_iff_exists.mp (e.isSome_firstFill day.strftime name)
      obtain ⟨f, hf, hft⟩ := List.exists_of_findSome?_eq_some ht
      rw [Engine.partValue, Engine.value, ht] at hmem
      exact lbrace_notMem_fill e day hf hft hmem
  cases annotateMermaid with
  | false => rwa [Engine.render_false]
  | true =>
    rw [Engine.render_true]
    exact lbrace_notMem_annotateMermaidBlocks isWord hcontent

/-- The sentinels of a sequence of parts are the placeholder figures put in. -/
theorem count_parts {parts : List Part} (h : ∀ t, .literal t ∈ parts → Plain t) :
    newSentinels.count (parts.flatMap (e.partValue day.strftime)) =
      (parts.map Part.placed).sum := by
  induction parts with
  | nil => rfl
  | cons part parts ih =>
    have ih := ih fun t ht => h t (List.mem_cons_of_mem _ ht)
    rw [List.flatMap_cons, List.map_cons, List.sum_cons, ← ih]
    cases part with
    | literal t =>
      rw [Part.placed, Nat.zero_add]
      exact count_append_of_plain (h t List.mem_cons_self).percent_notMem _
    | slot name => exact count_value_append e day name _

theorem plain_parts {parts : List Part} (h : ∀ t, .literal t ∈ parts → Plain t)
    (hzero : (parts.map Part.placed).sum = 0) :
    Plain (parts.flatMap (e.partValue day.strftime)) := by
  induction parts with
  | nil =>
    intro c hc
    cases hc
  | cons part parts ih =>
    rw [List.map_cons, List.sum_cons] at hzero
    have ih := ih (fun t ht => h t (List.mem_cons_of_mem _ ht)) (by omega)
    rw [List.flatMap_cons]
    refine Plain.append ?_ ih
    cases part with
    | literal t => exact h t List.mem_cons_self
    | slot name => exact plain_value e day name (by rw [Part.placed] at hzero; omega)

/-- **The count of the document** is the number of placeholder figures put in. -/
theorem countUnfilledDiagrams_render :
    countUnfilledDiagrams (e.render isWord annotateMermaid day T.text) =
      (T.parts.map Part.placed).sum := by
  have hcontent : countUnfilledDiagrams (e.replaceVariables day.strftime T.text) =
      (T.parts.map Part.placed).sum := by
    rw [countUnfilledDiagrams_eq, replaceVariables_text, count_parts e day T.plain]
    split
    · rfl
    · next hzero =>
      have hplain := plain_parts e day T.plain (by omega)
      rw [(count_eq_zero_of_plain hplain.percent_notMem).2]
      omega
  cases annotateMermaid with
  | false => rw [Engine.render_false, hcontent]
  | true => rw [Engine.render_true, countUnfilledDiagrams_annotateMermaidBlocks, hcontent]

/-- **The count is exact exactly when no slot asks for a code of several words.** -/
theorem exactCount_iff : ExactCount e isWord annotateMermaid day T ↔
    ∀ g ∈ T.codes, g.words.length = 1 := by
  have hsum : (T.parts.map Part.placed).sum = T.diagrams ↔ ∀ g ∈ T.codes, g.words.length = 1 := by
    have hle : ∀ part ∈ T.parts, part.placed ≤ part.diagrams := by
      intro part _
      cases part with
      | literal t => exact le_rfl
      | slot name => exact placedDiagrams_le name.text
    -- no part places more than it asks for, so the sums agree part by part only
    rw [SlotTemplate.diagrams, sum_map_eq_iff hle]
    constructor
    · intro heq g hg
      obtain ⟨part, hpart, hcode⟩ := List.mem_filterMap.mp hg
      cases part with
      | literal t => cases hcode
      | slot name => exact (placedDiagrams_eq_iff name.text).mp (heq _ hpart) g hcode
    · intro hone part hpart
      cases part with
      | literal t => rfl
      | slot name =>
        refine (placedDiagrams_eq_iff name.text).mpr fun g hg => hone g ?_
        exact List.mem_filterMap.mpr ⟨_, hpart, hg⟩
  have hcount := countUnfilledDiagrams_render e isWord annotateMermaid day T
  constructor
  · intro h
    rw [← hsum, ← hcount, h.exact]
  · intro h
    have hexact := hcount.trans (hsum.mpr h)
    refine ⟨fun hocc => ?_, hexact, ?_⟩
    · obtain ⟨before, name, rest, -, -, heq⟩ := occurs_braced_iff.mp hocc
      refine lbrace_notMem_render e isWord annotateMermaid day T ?_
      rw [heq, placeholder_append]
      exact List.mem_append_right _ List.mem_cons_self
    · rw [diagramsFilled, decide_eq_true_eq, hexact, SlotTemplate.diagrams, List.sum_eq_zero_iff]
      simp only [List.mem_map, forall_exists_index, and_imp, forall_apply_eq_imp_iff₂]
      refine ⟨fun hzero name hname => hzero _ hname, fun hzero part hpart => ?_⟩
      cases part with
      | literal t => rfl
      | slot name => exact hzero name hpart

end

/-- A slot for the sequence diagram of existing code. -/
def reverseSlot : SlotTemplate where
  parts := [.slot ⟨"include_diagram:D-REVERSE-SEQ".toList, by decide, by decide⟩]
  plain t ht := by
    cases List.mem_singleton.mp ht

/-- **A code of two words**: its figure is dropped, and the document counts as complete. -/
theorem exactCount_counterexample : ¬∀ (e : PlainContent) (isWord : Char → Bool)
    (annotateMermaid : Bool) (day : Date) (T : SlotTemplate),
    ExactCount e isWord annotateMermaid day T := by
  intro hall
  let e : PlainContent := {
    docType := "design_doc".toList, overview := [], details := ∅, references := []
    overview_plain := by decide
    details_plain := by decide
    references_plain := by decide }
  have h := (hall e asciiWord true ⟨2026, 1, 1⟩ reverseSlot).exact
  revert h
  decide +kernel

end Docs
end Shrimp
