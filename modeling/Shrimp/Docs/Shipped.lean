import Shrimp.Docs.Diagrams
import Shrimp.Docs.Extract
import Shrimp.Docs.TemplatesMd

/-!
# The templates that ship with the engine (`doc_output/template_engine.py`)

The engine has slots for the overview, the details and the references of the merged
content; the templates of the file that ships with it have none of the three.  What is
rendered from them is the wording of the template, whatever has been fetched.

## Main definitions

* `readParts` — the parts of a template.
* `loadTemplate` — `_load_template`.
* `wording` — a template with everything filled in but the fetched material.
* `Carries` — the fetched material stands in a document.

## Main results

* `flatMap_readParts` — a template is its parts.
* `fixed_shipped` — the shipped templates have no slot for the fetched material.
* `render_shipped` — what is rendered from them is their wording.
* `carries_iff` — **a document carries the fetched material exactly when the wording of
  its template happens to have it.**
-/

namespace Shrimp
namespace Docs

/-! ### Reading a template -/

/-- A name between double braces. -/
def slotName (name : Text) : Option SlotName :=
  if h : name ≠ [] ∧ ∀ c ∈ name, c ≠ '{' ∧ c ≠ '}' then some ⟨name, h.1, h.2⟩ else none

/-- The parts of a scanned template. -/
def joinPieces : List (Piece Char SlotName) → List Part
  | [] => []
  | .found _ name :: pieces => .slot name :: joinPieces pieces
  | .symbol c :: pieces =>
    match joinPieces pieces with
    | .literal t :: parts => .literal (c :: t) :: parts
    | parts => .literal [c] :: parts

/-- **The parts of a template.** -/
def readParts (template : Text) : List Part := joinPieces ((braced slotName).pieces template)

theorem flatMap_joinPieces_symbol (c : Char) (pieces : List (Piece Char SlotName)) :
    (joinPieces (.symbol c :: pieces)).flatMap Part.text =
      c :: (joinPieces pieces).flatMap Part.text := by
  rw [joinPieces]
  split
  · next t parts h =>
    rw [h]
    rfl
  · rfl

theorem flatMap_readParts (template : Text) :
    (readParts template).flatMap Part.text = template := by
  unfold readParts
  induction template using (braced slotName).induction with
  | nil => rfl
  | symbol c t hnone ih =>
    rw [Pattern.pieces_of_eq_none hnone, flatMap_joinPieces_symbol, ih]
  -- a slot of the template, or a text between double braces that is none
  | found t n name hsome ih =>
    obtain ⟨text, rest, -, rfl, hname, rfl⟩ := find_braced_eq_some_iff.mp hsome
    rw [List.drop_left] at ih
    rw [Pattern.pieces_of_eq_some hsome, List.drop_left, joinPieces, List.flatMap_cons, ih,
      Part.text]
    unfold slotName at hname
    split at hname
    · cases hname
      rfl
    · cases hname

/-! ### The shipped templates -/

/-- `TEMPLATE_FILES`. -/
def templateFiles : List (Text × Text) := [
  ("tech_review".toList, "TEMPLATES.md".toList), ("design_doc".toList, "TEMPLATES.md".toList),
  ("research_report".toList, "TEMPLATES.md".toList), ("module_plan".toList, "TEMPLATES.md".toList),
  ("task_plan".toList, "TEMPLATES.md".toList), ("test_plan".toList, "TEMPLATES.md".toList)]

/-- `_load_template`, on the files of the template directory. -/
def loadTemplate (readFile : Text → Option Text) (defaultTemplate docType : Text) : Text :=
  match readFile ((templateFiles.lookup docType).getD "TEMPLATES.md".toList) with
  | none => defaultTemplate
  | some content => extractTemplateSection defaultTemplate content docType

/-- The template directory of the repository. -/
def shippedFile (name : Text) : Option Text :=
  if name = "TEMPLATES.md".toList then some templatesMd else none

/-- A part whose text does not depend on the fetched material. -/
def Part.fixed : Part → Bool
  | literal t => loose t
  | slot name => name.text ∉ fetchedSlots

/-- No section of the file has a heading without a number: one walk for all types. -/
def noMarker (markers : List Text) : Text → Bool
  | [] => true
  | c :: t =>
    (if c = '#' then markers.all fun m => !m.isPrefixOf (c :: t) else true) && noMarker markers t

theorem findText_eq_none {old t : Text} (hold : old.head? = some '#') {markers : List Text}
    (hmem : old ∈ markers) (h : noMarker markers t = true) : findText old t = none := by
  induction t with
  | nil =>
    rw [findText, if_neg]
    rintro rfl
    cases hold
  | cons c t ih =>
    rw [noMarker, Bool.and_eq_true] at h
    -- every marker begins with a number sign, and no marker stands here
    have hnot : ¬old <+: c :: t := by
      intro hpre
      obtain ⟨d, old, rfl⟩ : ∃ d old', old = d :: old' := by
        cases old with
        | nil => cases hold
        | cons d old => exact ⟨d, old, rfl⟩
      obtain ⟨rfl, -⟩ := List.cons_prefix_cons.mp hpre
      rw [if_pos (Option.some.inj hold)] at h
      have hnot := List.all_eq_true.mp h.1 _ hmem
      rw [List.isPrefixOf_iff_prefix.mpr hpre] at hnot
      cases hnot
    rw [findText, if_neg hnot, ih h.2]

set_option maxRecDepth 10000 in
theorem noMarker_templatesMd :
    noMarker ((templateFiles.map Prod.fst).map startMarker) templatesMd = true := by
  decide +kernel

set_option maxRecDepth 10000 in
/-- **The shipped templates have no slot for the fetched material.** -/
theorem fixed_numbered : ∀ docType ∈ templateFiles.map Prod.fst,
    (searchLines (numberedHeading docType) true templatesMd).any
      (fun start => (readParts (templateFrom start)).all Part.fixed) = true := by
  decide +kernel

/-- What is loaded for a document type: all headings of the file have a number. -/
theorem loadTemplate_shipped {docType : Text} (h : docType ∈ templateFiles.map Prod.fst)
    (defaultTemplate : Text) : loadTemplate shippedFile defaultTemplate docType =
      ((searchLines (numberedHeading docType) true templatesMd).map templateFrom).getD
        defaultTemplate := by
  have hfile : ∀ d ∈ templateFiles.map Prod.fst,
      (templateFiles.lookup d).getD "TEMPLATES.md".toList = "TEMPLATES.md".toList := by
    decide +kernel
  have hmarker : findText (startMarker docType) templatesMd = none :=
    findText_eq_none rfl (List.mem_map_of_mem h) noMarker_templatesMd
  rw [loadTemplate, hfile docType h, shippedFile, if_pos rfl]
  dsimp only
  rw [extractTemplateSection, findHeading, hmarker, Option.none_or]
  cases searchLines (numberedHeading docType) true templatesMd with
  | none => rfl
  | some start => rfl

theorem fixed_shipped {docType : Text} (h : docType ∈ templateFiles.map Prod.fst)
    (defaultTemplate : Text) :
    ∀ part ∈ readParts (loadTemplate shippedFile defaultTemplate docType), part.fixed = true := by
  have hfixed := fixed_numbered docType h
  rw [loadTemplate_shipped h]
  cases hstart : searchLines (numberedHeading docType) true templatesMd with
  | none =>
    rw [hstart] at hfixed
    cases hfixed
  | some start =>
    rw [hstart, Option.any_some] at hfixed
    exact List.all_eq_true.mp hfixed

/-! ### The wording of a template -/

/-- What the passes put in for the slots that are not of the fetched material. -/
def wordingFills (title label date : Text) : List (Text → Option Text) := [
  named "title".toList title,
  named "date".toList date,
  named "author".toList "Shrimp Team".toList,
  fun name => (contentSourceName name).map fun _ => label,
  fun name => (diagramName name).map diagramStub,
  named "include_diagram:multi".toList multiDiagramStub,
  named "include_diagram".toList (diagramStub []),
  fun name => (anyName name).map fun _ => []]

/-- A part of the wording. -/
def wordingPart (title label date : Text) : Part → Text
  | .literal t => t
  | .slot name => (firstFill (wordingFills title label date) name.text).getD []

/-- **The wording of a template**: its own text with the title, the day and the label of
the source, and with the placeholder figures. -/
def wording (isWord : Char → Bool) (annotateMermaid : Bool) (title label : Text) (day : Date)
    (template : Text) : Text :=
  let content := (readParts template).flatMap (wordingPart title label day.strftime)
  if annotateMermaid then annotateMermaidBlocks isWord content else content

section

variable (e : Engine) (day : Date)

theorem firstFill_fills {date name : Text} (h : name ∉ fetchedSlots) :
    firstFill (e.fills date) name =
      firstFill (wordingFills e.getDocTitle e.primarySourceLabel date) name := by
  simp only [fetchedSlots, List.mem_cons, List.not_mem_nil, or_false, not_or] at h
  obtain ⟨hoverview, hdetails, hreferences⟩ := h
  simp only [firstFill, Engine.fills, wordingFills, List.findSome?_cons, named_of_ne hoverview,
    named_of_ne hdetails, named_of_ne hreferences]

/-- **What is rendered from a template without slots for the fetched material is its
wording.** -/
theorem render_eq_wording (isWord : Char → Bool) (annotateMermaid : Bool) {template : Text}
    (h : ∀ part ∈ readParts template, part.fixed = true) :
    e.render isWord annotateMermaid day template =
      wording isWord annotateMermaid e.getDocTitle e.primarySourceLabel day template := by
  -- the slots of the engine's own texts are filled the same in the wording
  have hslot : ∀ name, .slot name ∈ readParts template → name.text ∉ fetchedSlots :=
    fun name hname => of_decide_eq_true (h _ hname)
  have hcontent : e.replaceVariables day.strftime template =
      (readParts template).flatMap
        (wordingPart e.getDocTitle e.primarySourceLabel day.strftime) := by
    conv_lhs => rw [← flatMap_readParts template]
    rw [e.replaceVariables_parts day.strftime (fun t ht => h _ ht)
      fun f hf name hname t ht => loose_of_plain <| lbrace_notMem_of_fill e day hf ht
        fun hfetched => absurd hfetched (hslot name hname)]
    refine List.flatMap_congr fun part hpart => ?_
    cases part with
    | literal t => rfl
    | slot name => rw [Engine.partValue, Engine.value, firstFill_fills e (hslot name hpart)]; rfl
  unfold wording
  cases annotateMermaid with
  | false => rw [Engine.render_false, hcontent, if_neg Bool.false_ne_true]
  | true => rw [Engine.render_true, hcontent, if_pos rfl]

end

/-! ### The fetched material -/

/-- An engine for one of the document types of the file. -/
structure ShippedEngine extends Engine where
  known : docType ∈ templateFiles.map Prod.fst

/-- The fetched material: the overview, the contents of the details that are printed and
the addresses of the references. -/
def Engine.fetched (e : Engine) : List Text :=
  e.overview :: e.details.values.filterMap
      (fun value => if (value.type.bind sourceIcon).isSome then value.content else none) ++
    e.references.filterMap (·.url)

/-- There is some of each, and nothing of it has a brace. -/
structure Engine.Fetched (e : Engine) : Prop where
  details_ne : e.details.entries ≠ []
  references_ne : e.references ≠ []
  texts : ∀ t ∈ e.fetched, t ≠ [] ∧ ∀ c ∈ t, c ≠ '{' ∧ c ≠ '}'

/-- **The fetched material stands in a document.** -/
def Engine.Carries (e : Engine) (document : Text) : Prop := ∀ t ∈ e.fetched, t <:+: document

/-- **What is rendered from a shipped template is its wording.** -/
theorem render_shipped (e : ShippedEngine) (isWord : Char → Bool) (annotateMermaid : Bool)
    (day : Date) (defaultTemplate : Text) :
    e.render isWord annotateMermaid day (loadTemplate shippedFile defaultTemplate e.docType) =
      wording isWord annotateMermaid e.getDocTitle e.primarySourceLabel day
        (loadTemplate shippedFile defaultTemplate e.docType) :=
  render_eq_wording e.toEngine day isWord annotateMermaid (fixed_shipped e.known defaultTemplate)

/-- **A document carries the fetched material exactly when the wording of its template
happens to have it.** -/
theorem carries_iff (e : ShippedEngine) (isWord : Char → Bool) (annotateMermaid : Bool)
    (day : Date) (defaultTemplate : Text) :
    e.Carries (e.render isWord annotateMermaid day
        (loadTemplate shippedFile defaultTemplate e.docType)) ↔
      ∀ t ∈ e.fetched, t <:+: wording isWord annotateMermaid e.getDocTitle e.primarySourceLabel
        day (loadTemplate shippedFile defaultTemplate e.docType) := by
  rw [Engine.Carries, render_shipped]

/-- The design of one repository. -/
def design : ShippedEngine where
  docType := "design_doc".toList
  overview := "∀ overview".toList
  details := Dict.ofList [("repo".toList, ⟨some "code_repository".toList, some "code".toList⟩)]
  references := [⟨some "web".toList, some "page".toList, some "https://example.org".toList⟩]
  known := by decide

set_option maxRecDepth 10000 in
/-- **Nothing of the overview reaches the document.** -/
theorem carries_counterexample : ¬∀ (e : ShippedEngine) (isWord : Char → Bool)
    (annotateMermaid : Bool) (day : Date) (defaultTemplate : Text), e.Fetched →
    e.Carries (e.render isWord annotateMermaid day
      (loadTemplate shippedFile defaultTemplate e.docType)) := by
  intro hall
  have hfetched : design.Fetched := by
    refine ⟨by decide +kernel, by decide, ?_⟩
    decide +kernel
  have h := hall design asciiWord true ⟨2026, 1, 1⟩ [] hfetched
  have hmem := (h design.overview List.mem_cons_self).subset (show '∀' ∈ design.overview by decide)
  rw [render_shipped, loadTemplate_shipped design.known] at hmem
  revert hmem
  decide +kernel

end Docs
end Shrimp
