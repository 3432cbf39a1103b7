import Shrimp.Lib.Scan
import Shrimp.Python

/-!
# Filling a template (`doc_output/template_engine.py`)

`_replace_variables` fills the slots of a template one kind after another, each
pass over the whole text of the pass before.  What an early pass has filled in is
text to the later ones: a slot name in the fetched material is filled too, and the
last pass deletes whatever still stands between double braces.

A text is a list of characters.  The details and references of the merged content
are taken with their `type`, `content`, `title` and `url`, which are texts when
they are there.

## Main definitions

* `braced` — the patterns of the engine: double braces around a name.
* `Engine.passes`, `Engine.replaceVariables` — `_replace_variables`.
* `Layout` — a template with an overview slot and a details slot.
* `Unchanged` — the merged content reaches the document as it is.

## Main results

* `find_braced_eq_some_iff` — what such a pattern matches.
* `unchanged_iff` — **the merged content reaches the document as it is exactly
  when the document has nothing between double braces.**
-/

namespace Shrimp
namespace Docs

/-! ### Double braces -/

/-- `{{name}}`. -/
def placeholder (name : Text) : Text := '{' :: '{' :: (name ++ ['}', '}'])

theorem placeholder_append (name rest : Text) :
    placeholder name ++ rest = '{' :: '{' :: (name ++ '}' :: '}' :: rest) := by
  simp [placeholder]

theorem takeWhile_name {name rest : Text} (h : '}' ∉ name) :
    (name ++ '}' :: rest).takeWhile (· ≠ '}') = name := by
  rw [List.takeWhile_append_of_pos]
  · simp
  · intro c hc
    refine decide_eq_true ?_
    rintro rfl
    exact h hc

theorem dropWhile_name {name rest : Text} (h : '}' ∉ name) :
    (name ++ '}' :: rest).dropWhile (· ≠ '}') = '}' :: rest := by
  rw [List.dropWhile_append_of_pos]
  · simp
  · intro c hc
    refine decide_eq_true ?_
    rintro rfl
    exact h hc

/-- The pattern of double braces around a name that `accept` takes.  No name has a
closing brace in it, so the name ends at the first one. -/
def braced {β : Type} (accept : Text → Option β) : Pattern Char β where
  find
    | '{' :: '{' :: rest =>
      let name := rest.takeWhile (· ≠ '}')
      if ['}', '}'] <+: rest.dropWhile (· ≠ '}') then
        (accept name).map fun b => (name.length + 4, b)
      else none
    | _ => none
  pos {t n b} h := by
    split at h
    · simp only at h
      split at h
      · obtain ⟨c, -, hc⟩ := Option.map_eq_some_iff.mp h
        cases hc
        omega
      · cases h
    · cases h
  le {t n b} h := by
    split at h
    · next rest =>
      simp only at h
      split at h
      · next hpre =>
        obtain ⟨c, -, hc⟩ := Option.map_eq_some_iff.mp h
        cases hc
        have hle := hpre.length_le
        have hcut := congrArg List.length
          (List.takeWhile_append_dropWhile (p := (· ≠ '}')) (l := rest))
        rw [List.length_append] at hcut
        simp only [List.length_cons, List.length_nil] at hle ⊢
        omega
      · cases h
    · cases h

section

variable {β : Type} {accept : Text → Option β} {t : Text} {n : ℕ} {b : β}

/-- **What a pattern of double braces matches.** -/
theorem find_braced_eq_some_iff :
    (braced accept).find t = some (n, b) ↔ ∃ name rest, '}' ∉ name ∧
      t = placeholder name ++ rest ∧ accept name = some b ∧ n = (placeholder name).length := by
  constructor
  · intro h
    simp only [braced] at h
    split at h
    · next rest =>
      split at h
      · next hpre =>
        obtain ⟨c, hc, hn⟩ := Option.map_eq_some_iff.mp h
        cases hn
        obtain ⟨more, hmore⟩ := hpre
        refine ⟨rest.takeWhile (· ≠ '}'), more, ?_, ?_, hc, by simp [placeholder]⟩
        · intro hmem
          have hne := List.all_eq_true.mp List.all_takeWhile _ hmem
          simp at hne
        · rw [placeholder_append]
          change ['}', '}'] ++ more = _ at hmore
          have hcut := List.takeWhile_append_dropWhile (p := (· ≠ '}')) (l := rest)
          rw [← hmore] at hcut
          exact congrArg (fun t => '{' :: '{' :: t) hcut.symm
      · cases h
    · cases h
  · rintro ⟨name, rest, hname, rfl, hb, rfl⟩
    simp only [braced, placeholder_append]
    rw [takeWhile_name hname, dropWhile_name hname, if_pos ⟨rest, rfl⟩, hb]
    simp [placeholder]

theorem find_braced_eq_none_iff :
    (braced accept).find t = none ↔
      ∀ name rest, '}' ∉ name → t = placeholder name ++ rest → accept name = none := by
  constructor
  · intro h name rest hname ht
    by_contra hne
    obtain ⟨b, hb⟩ := Option.ne_none_iff_exists'.mp hne
    rw [find_braced_eq_some_iff.mpr ⟨name, rest, hname, ht, hb, rfl⟩] at h
    cases h
  · intro h
    by_contra hne
    obtain ⟨⟨n, b⟩, hsome⟩ := Option.ne_none_iff_exists'.mp hne
    obtain ⟨name, rest, hname, ht, hb, -⟩ := find_braced_eq_some_iff.mp hsome
    rw [h name rest hname ht] at hb
    cases hb

theorem occurs_braced_iff :
    (braced accept).Occurs t ↔ ∃ before name rest, '}' ∉ name ∧ (accept name).isSome ∧
      t = before ++ (placeholder name ++ rest) := by
  constructor
  · rintro ⟨s, ⟨before, rfl⟩, hsome⟩
    obtain ⟨⟨n, b⟩, h⟩ := Option.isSome_iff_exists.mp hsome
    obtain ⟨name, rest, hname, rfl, hb, -⟩ := find_braced_eq_some_iff.mp h
    exact ⟨before, name, rest, hname, by rw [hb]; rfl, rfl⟩
  · rintro ⟨before, name, rest, hname, hsome, rfl⟩
    obtain ⟨b, hb⟩ := Option.isSome_iff_exists.mp hsome
    refine ⟨_, List.suffix_append _ _, ?_⟩
    rw [find_braced_eq_some_iff.mpr ⟨name, rest, hname, rfl, hb, rfl⟩]
    rfl

variable {r : β → Text}

theorem sub_braced_of_plain {s : Text} (h : '{' ∉ s) :
    (braced accept).sub r (s ++ t) = s ++ (braced accept).sub r t := by
  refine Pattern.sub_append fun u hu hne => find_braced_eq_none_iff.mpr ?_
  intro name rest _ heq
  cases u with
  | nil => exact absurd rfl hne
  | cons c u =>
    rw [placeholder_append, List.cons_append] at heq
    obtain ⟨rfl, -⟩ := List.cons.inj heq
    exact absurd (hu.subset List.mem_cons_self) h

theorem sub_braced_eq_self (h : '{' ∉ t) : (braced accept).sub r t = t := by
  have happ : (braced accept).sub r (t ++ []) = t ++ (braced accept).sub r [] :=
    sub_braced_of_plain h
  rwa [Pattern.sub_nil, List.append_nil] at happ

theorem sub_placeholder_of_some {name : Text} (hname : '}' ∉ name) (hb : accept name = some b) :
    (braced accept).sub r (placeholder name ++ t) = r b ++ (braced accept).sub r t := by
  have hfind := find_braced_eq_some_iff.mpr ⟨name, t, hname, rfl, hb, rfl⟩
  rw [Pattern.sub_of_eq_some hfind, List.drop_left]

theorem sub_placeholder_of_none {name : Text} (hopen : '{' ∉ name) (hname : '}' ∉ name)
    (hb : accept name = none) :
    (braced accept).sub r (placeholder name ++ t) =
      placeholder name ++ (braced accept).sub r t := by
  refine Pattern.sub_append fun u hu hne => find_braced_eq_none_iff.mpr ?_
  intro name' rest hname' heq
  rw [placeholder_append] at heq
  rcases List.suffix_cons_iff.mp hu with rfl | hu
  · -- the name ends at the first closing brace
    have hcut : name ++ '}' :: '}' :: t = name' ++ '}' :: '}' :: rest := by
      simpa using heq
    have htake := congrArg (List.takeWhile (· ≠ '}')) hcut
    rw [takeWhile_name hname, takeWhile_name hname'] at htake
    rw [← htake, hb]
  · exfalso
    rcases List.suffix_cons_iff.mp hu with rfl | hu
    · -- behind the first brace stands the name, or a closing brace
      cases name with
      | nil => simp at heq
      | cons c name =>
        simp only [List.cons_append, List.cons.injEq] at heq
        rw [heq.2.1] at hopen
        exact hopen List.mem_cons_self
    · cases u with
      | nil => exact hne rfl
      | cons c u =>
        rw [List.cons_append] at heq
        obtain ⟨rfl, -⟩ := List.cons.inj heq
        have hmem := hu.subset List.mem_cons_self
        rw [List.mem_append] at hmem
        rcases hmem with hmem | hmem
        · exact hopen hmem
        · simp at hmem

end

/-! ### The slots -/

/-- The name is `a`. -/
def exactly (a : Text) : Text → Option Unit := fun name => if name = a then some () else none

/-- `str.replace('{{a}}', new)`. -/
def replaceSlot (a new : Text) : Text → Text :=
  (Pattern.literal (placeholder a) nofun).sub fun _ => new

/-- The decimal digits of Unicode, by the first of each ten: `\d`. -/
def decimalZeros : List ℕ := [
  0x30, 0x660, 0x6F0, 0x7C0, 0x966, 0x9E6, 0xA66, 0xAE6, 0xB66, 0xBE6, 0xC66, 0xCE6, 0xD66, 0xDE6,
  0xE50, 0xED0, 0xF20, 0x1040, 0x1090, 0x17E0, 0x1810, 0x1946, 0x19D0, 0x1A80, 0x1A90, 0x1B50,
  0x1BB0, 0x1C40, 0x1C50, 0xA620, 0xA8D0, 0xA900, 0xA9D0, 0xA9F0, 0xAA50, 0xABF0, 0xFF10, 0x104A0,
  0x10D30, 0x11066, 0x110F0, 0x11136, 0x111D0, 0x112F0, 0x11450, 0x114D0, 0x11650, 0x116C0,
  0x11730, 0x118E0, 0x11950, 0x11C50, 0x11D50, 0x11DA0, 0x11F50, 0x16A60, 0x16AC0, 0x16B50,
  0x1D7CE, 0x1D7D8, 0x1D7E2, 0x1D7EC, 0x1D7F6, 0x1E140, 0x1E2F0, 0x1E4F0, 0x1E950, 0x1FBF0]

def isDecimal (c : Char) : Bool := decimalZeros.any fun z => z ≤ c.toNat ∧ c.toNat < z + 10

/-- `content_source(?:_\d+)?`. -/
def contentSourceName (name : Text) : Option Unit :=
  let digits := name.drop "content_source_".length
  if name = "content_source".toList ∨
      ("content_source_".toList <+: name ∧ digits ≠ [] ∧ digits.all isDecimal) then some ()
  else none

/-- `include_diagram:(D-[A-Z]+)`, with its group. -/
def diagramName (name : Text) : Option Text :=
  let letters := name.drop "include_diagram:D-".length
  if "include_diagram:D-".toList <+: name ∧ letters ≠ [] ∧
      letters.all (fun c => 'A' ≤ c ∧ c ≤ 'Z') then some ("D-".toList ++ letters) else none

/-- `[^}]+`. -/
def anyName (name : Text) : Option Unit := if name = [] then none else some ()

/-- `\{\{[^}]+\}\}`: whatever stands between double braces. -/
def anyPlaceholder : Pattern Char Unit := braced anyName

def sentinel : Text := "%% DOC_OUTPUT_DIAGRAM_PLACEHOLDER".toList

/-- The placeholder figure of a chart code. -/
def mermaidStub (code : Text) : Text :=
  "```mermaid\n".toList ++ sentinel ++ " ".toList ++ code ++ " — 调用方按 §0.4 ".toList ++ code ++
    " 骨架替换\n```".toList

/-- `_diagram_stub`, on group 1 of its match. -/
def diagramStub (group : Text) : Text :=
  let code := if group = [] then "GENERIC".toList else group
  "<!-- TODO: 补 ".toList ++ code ++ " mermaid 图; 骨架见 TEMPLATES.md §0.4 -->\n".toList ++
    mermaidStub code

/-- `_multi_diagram_stub`. -/
def multiDiagramStub : Text :=
  "<!-- TODO: 补 multi-diagram (典型: D-ARCH + D-SEQ); 骨架见 TEMPLATES.md §0.4 -->\n".toList ++
    mermaidStub "D-ARCH".toList ++ "\n\n".toList ++ mermaidStub "D-SEQ".toList

/-! ### The engine -/

/-- An item of `merged_content['details']`. -/
structure Detail where
  type : Option Text
  content : Option Text

/-- An item of `merged_content['references']`. -/
structure Reference where
  type : Option Text
  title : Option Text
  url : Option Text

/-- `TemplateEngine`: its document type and its merged content; what the content
lacks is empty. -/
structure Engine where
  docType : Text
  overview : Text
  details : Dict Text Detail
  references : List Reference

/-- The icon of a source type the engine prints. -/
def sourceIcon (type : Text) : Option Text :=
  [("code_repository".toList, "📦".toList), ("feishu_doc".toList, "📄".toList),
    ("web".toList, "🌐".toList)].lookup type

/-- The names of the source types, for `content_source`. -/
def typeLabels : List (Text × Text) := [
  ("code_repository".toList, "代码仓库分析".toList), ("feishu_doc".toList, "飞书文档".toList),
  ("web".toList, "Web 抓取".toList), ("internal".toList, "内部工具（AIME/Argos/Metrics）".toList),
  ("direct".toList, "直接输入".toList)]

def titles : List (Text × Text) := [
  ("tech_review".toList, "技术评审文档".toList), ("design_doc".toList, "设计文档".toList),
  ("research_report".toList, "调研报告".toList), ("module_plan".toList, "模块拆分文档".toList),
  ("task_plan".toList, "Task规划文档".toList), ("test_plan".toList, "测试计划".toList)]

namespace Engine

variable (e : Engine)

/-- `_get_doc_title`. -/
def getDocTitle : Text := (titles.lookup e.docType).getD "文档".toList

/-- `_format_overview`. -/
def formatOverview : Text := if e.overview = [] then "暂无概览信息".toList else e.overview

/-- `_format_details`. -/
def formatDetails : Text :=
  let parts := e.details.entries.filterMap fun (key, value) =>
    (sourceIcon (value.type.getD "unknown".toList)).map fun icon =>
      "### ".toList ++ icon ++ " ".toList ++ key ++ "\n\n".toList ++ value.content.getD []
  if parts = [] then "暂无详细信息".toList else "\n\n".toList.intercalate parts

/-- `_format_references`. -/
def formatReferences : Text :=
  if e.references = [] then "无参考资料".toList
  else "\n".toList.intercalate (e.references.filterMap fun ref =>
    (sourceIcon (ref.type.getD [])).map fun icon =>
      "- ".toList ++ icon ++ " [".toList ++ ref.title.getD [] ++ "](".toList ++ ref.url.getD [] ++
        ")".toList)

/-- `_primary_source_label`. -/
def primarySourceLabel : Text :=
  if e.details.entries = [] then "（来源：待标注）".toList
  else (e.details.values.findSome? fun value => value.type.bind (typeLabels.lookup ·)).getD
    "（来源：未识别类型）".toList

/-- The passes of `_replace_variables`, in order, on the date of the day. -/
def passes (date : Text) : List (Text → Text) := [
  replaceSlot "title".toList e.getDocTitle,
  replaceSlot "date".toList date,
  replaceSlot "author".toList "Shrimp Team".toList,
  replaceSlot "overview".toList e.formatOverview,
  replaceSlot "details".toList e.formatDetails,
  replaceSlot "references".toList e.formatReferences,
  (braced contentSourceName).sub fun _ => e.primarySourceLabel,
  (braced diagramName).sub diagramStub,
  (braced (exactly "include_diagram:multi".toList)).sub fun _ => multiDiagramStub,
  -- the group of this pattern is empty
  (braced (exactly "include_diagram".toList)).sub fun _ => diagramStub [],
  anyPlaceholder.sub fun _ => []]

/-- The document after the first `k` passes. -/
def stage (date : Text) (k : ℕ) (template : Text) : Text :=
  ((e.passes date).take k).foldl (fun t pass => pass t) template

/-- `_replace_variables`. -/
def replaceVariables (date template : Text) : Text :=
  (e.passes date).foldl (fun t pass => pass t) template

end Engine

/-! ### Templates with two slots -/

/-- A template with an overview slot, a details slot behind it, and no other brace. -/
structure Layout where
  pre : Text
  mid : Text
  post : Text
  plain : ∀ c ∈ pre ++ mid ++ post, c ≠ '{' ∧ c ≠ '}'

namespace Layout

variable (L : Layout)

/-- The layout with these texts in its slots. -/
def fill (overview details : Text) : Text := L.pre ++ (overview ++ (L.mid ++ (details ++ L.post)))

/-- The template. -/
def template : Text := L.fill (placeholder "overview".toList) (placeholder "details".toList)

end Layout

/-- The document with the merged content as it is. -/
def Engine.expected (e : Engine) (L : Layout) : Text := L.fill e.formatOverview e.formatDetails

/-- **The merged content reaches the document as it is**: no part of it is deleted,
expanded or replaced once the slots are filled, and the document is returned. -/
structure Unchanged (e : Engine) (date : Text) (L : Layout) : Prop where
  returned : e.replaceVariables date L.template = e.expected L
  untouched : ∀ k, 5 ≤ k → e.stage date k L.template = e.expected L

/-- A slot that is still to be filled stands in what has been filled in: the details
slot before its place, or the references slot. -/
def Reopened (e : Engine) (L : Layout) : Prop :=
  (braced (exactly "details".toList)).Occurs (L.pre ++ (e.formatOverview ++ L.mid)) ∨
    (braced (exactly "references".toList)).Occurs (e.expected L)

/-! ### Filling the slots -/

section

variable {a new rest x : Text}

theorem literal_placeholder (h : '}' ∉ a) :
    Pattern.literal (placeholder a) nofun = braced (exactly a) := by
  refine Pattern.ext (funext fun t => Option.ext fun ⟨n, b⟩ => ?_)
  rw [Pattern.find_literal_eq_some_iff, find_braced_eq_some_iff]
  constructor
  · rintro ⟨rfl, more, rfl⟩
    exact ⟨a, more, h, rfl, if_pos rfl, rfl⟩
  · rintro ⟨name, more, -, rfl, hname, rfl⟩
    rw [exactly] at hname
    split at hname
    · next heq => exact ⟨by rw [heq], more, by rw [heq]⟩
    · cases hname

theorem replaceSlot_eq (h : '}' ∉ a) (t : Text) :
    replaceSlot a new t = (braced (exactly a)).sub (fun _ => new) t := by
  rw [replaceSlot, literal_placeholder h]

/-- A slot does not overlap itself. -/
theorem not_border {u c more : Text} (hopen : '{' ∉ a) (hu : u ≠ []) (hc : c ≠ [])
    (h : placeholder a = u ++ c) : placeholder a ++ rest ≠ c ++ more := by
  intro h'
  obtain ⟨y, c, rfl⟩ := List.exists_cons_of_ne_nil hc
  rw [placeholder_append, List.cons_append] at h'
  obtain ⟨rfl, h'⟩ := List.cons.inj h'
  obtain ⟨z, u, rfl⟩ := List.exists_cons_of_ne_nil hu
  obtain ⟨-, h⟩ := List.cons.inj h
  cases u with
  | nil =>
    -- the second brace would be the first symbol of the name
    obtain ⟨-, rfl⟩ := List.cons.inj h
    cases a with
    | nil => simp at h'
    | cons d a =>
      obtain ⟨-, h'⟩ := List.cons.inj h'
      obtain ⟨rfl, -⟩ := List.cons.inj h'
      exact hopen List.mem_cons_self
  | cons w u =>
    obtain ⟨-, h⟩ := List.cons.inj h
    have hmem : '{' ∈ a ++ ['}', '}'] := by
      rw [h]
      simp
    simp [hopen] at hmem

/-- What stands before a slot and does not have it is passed over. -/
theorem sub_before_slot {r : Unit → Text} (hopen : '{' ∉ a)
    (hx : ¬(braced (exactly a)).Occurs x) :
    (braced (exactly a)).sub r (x ++ (placeholder a ++ rest)) =
      x ++ (braced (exactly a)).sub r (placeholder a ++ rest) := by
  refine Pattern.sub_append fun u hu hne => find_braced_eq_none_iff.mpr ?_
  intro name more hname heq
  by_contra hsome
  obtain rfl : name = a := by
    rw [exactly] at hsome
    split at hsome
    · assumption
    · exact absurd rfl hsome
  have hoccurs : ∀ {c}, u = placeholder name ++ c → False := by
    rintro c rfl
    obtain ⟨before, rfl⟩ := hu
    exact hx (occurs_braced_iff.mpr ⟨before, name, c, hname, by simp [exactly], rfl⟩)
  rcases List.append_eq_append_iff.mp heq with ⟨c, hc, hrest⟩ | ⟨c, hc, -⟩
  · by_cases hnil : c = []
    · subst hnil
      exact hoccurs (by rw [hc, List.append_nil, List.append_nil])
    · exact not_border hopen hne hnil hc hrest
  · exact hoccurs hc

/-- An occurrence of a slot is one of something between double braces. -/
theorem occurs_anyPlaceholder {β : Type} {accept : Text → Option β} {t : Text}
    (h : (braced accept).Occurs t) (hnil : accept [] = none) : anyPlaceholder.Occurs t := by
  obtain ⟨before, name, more, hname, hsome, rfl⟩ := occurs_braced_iff.mp h
  refine occurs_braced_iff.mpr ⟨before, name, more, hname, ?_, rfl⟩
  rw [anyName, if_neg]
  · rfl
  · rintro rfl
    rw [hnil] at hsome
    cases hsome

end

namespace Layout

variable (L : Layout) {a new : Text}

theorem lbrace_notMem : '{' ∉ L.pre ∧ '{' ∉ L.mid ∧ '{' ∉ L.post := by
  refine ⟨fun h => ?_, fun h => ?_, fun h => ?_⟩ <;>
    exact (L.plain '{' (by simp [h])).1 rfl

theorem replaceSlot_template (hclose : '}' ∉ a) (hov : a ≠ "overview".toList)
    (hdet : a ≠ "details".toList) : replaceSlot a new L.template = L.template := by
  obtain ⟨hpre, hmid, hpost⟩ := L.lbrace_notMem
  rw [replaceSlot_eq hclose, template, fill, sub_braced_of_plain hpre,
    sub_placeholder_of_none (by decide) (by decide) (if_neg hov.symm), sub_braced_of_plain hmid,
    sub_placeholder_of_none (by decide) (by decide) (if_neg hdet.symm), sub_braced_eq_self hpost]

theorem replaceSlot_overview :
    replaceSlot "overview".toList new L.template = L.fill new (placeholder "details".toList) := by
  obtain ⟨hpre, hmid, hpost⟩ := L.lbrace_notMem
  rw [replaceSlot_eq (by decide), template, fill, sub_braced_of_plain hpre,
    sub_placeholder_of_some (by decide) (if_pos rfl), sub_braced_of_plain hmid,
    sub_placeholder_of_none (by decide) (by decide) (if_neg (by decide)), sub_braced_eq_self hpost,
    fill]

/-- The details are filled in, and nothing else when the slot is in no text before. -/
theorem replaceSlot_details {overview : Text}
    (h : ¬(braced (exactly "details".toList)).Occurs (L.pre ++ (overview ++ L.mid))) :
    replaceSlot "details".toList new (L.fill overview (placeholder "details".toList)) =
      L.fill overview new := by
  obtain ⟨-, -, hpost⟩ := L.lbrace_notMem
  have hsub : (braced (exactly "details".toList)).sub (fun _ => new)
        (L.pre ++ (overview ++ L.mid) ++ (placeholder "details".toList ++ L.post)) = _ :=
    sub_before_slot (by decide) h
  rw [sub_placeholder_of_some (by decide) (if_pos rfl), sub_braced_eq_self hpost] at hsub
  rw [replaceSlot_eq (by decide)]
  simpa only [fill, List.append_assoc] using hsub

end Layout

/-! ### What the later passes put in -/

section

variable {code : Text}

theorem lbrace_notMem_mermaidStub (h : '{' ∉ code) : '{' ∉ mermaidStub code := by
  have hfirst : '{' ∉ "```mermaid\n".toList ++ sentinel ++ " ".toList := by decide +kernel
  have hmid : '{' ∉ " — 调用方按 §0.4 ".toList := by decide +kernel
  have hlast : '{' ∉ " 骨架替换\n```".toList := by decide +kernel
  exact List.not_mem_append (List.not_mem_append (List.not_mem_append
    (List.not_mem_append hfirst h) hmid) h) hlast

theorem lbrace_notMem_diagramStub (h : '{' ∉ code) : '{' ∉ diagramStub code := by
  have hcode : '{' ∉ (if code = [] then "GENERIC".toList else code) := by
    split
    · decide
    · exact h
  have hfirst : '{' ∉ "<!-- TODO: 补 ".toList := by decide +kernel
  have hmid : '{' ∉ " mermaid 图; 骨架见 TEMPLATES.md §0.4 -->\n".toList := by decide +kernel
  exact List.not_mem_append (List.not_mem_append (List.not_mem_append hfirst hcode) hmid)
    (lbrace_notMem_mermaidStub hcode)

theorem lbrace_notMem_multiDiagramStub : '{' ∉ multiDiagramStub := by decide +kernel

theorem lbrace_notMem_of_diagramName {name : Text} (h : diagramName name = some code) :
    '{' ∉ code := by
  simp only [diagramName] at h
  split at h
  · next hletters =>
    cases h
    intro hmem
    rcases List.mem_append.mp hmem with hmem | hmem
    · exact absurd hmem (by decide +kernel)
    · exact absurd (List.all_eq_true.mp hletters.2.2 _ hmem) (by decide +kernel)
  · cases h

/-- The label of a document is one of the engine's own texts. -/
theorem primarySourceLabel_of_labels {P : Text → Prop} (hnone : P "（来源：待标注）".toList)
    (hunknown : P "（来源：未识别类型）".toList) (hlabels : ∀ label ∈ typeLabels, P label.2)
    (e : Engine) : P e.primarySourceLabel := by
  unfold Engine.primarySourceLabel
  split
  · exact hnone
  · cases hfind : e.details.values.findSome? fun value => value.type.bind (typeLabels.lookup ·) with
    | none => exact hunknown
    | some label =>
      obtain ⟨value, -, hvalue⟩ := List.exists_of_findSome?_eq_some hfind
      obtain ⟨type, -, htype⟩ := Option.bind_eq_some_iff.mp hvalue
      obtain ⟨_, _, hmem, -⟩ := List.lookup_eq_some_iff.mp htype
      exact hlabels (type, label) (by rw [hmem]; simp)

theorem lbrace_notMem_primarySourceLabel (e : Engine) : '{' ∉ e.primarySourceLabel :=
  primarySourceLabel_of_labels (P := ('{' ∉ ·)) (by decide) (by decide) (by decide +kernel) e

/-- **A pass that puts in no opening brace fades.** -/
theorem lowers_braced {β : Type} {accept : Text → Option β} {r : β → Text}
    (h : ∀ name b, accept name = some b → '{' ∉ r b) : (braced accept).Lowers (· = '{') r := by
  intro t n b hfind
  obtain ⟨name, rest, -, rfl, hb, rfl⟩ := find_braced_eq_some_iff.mp hfind
  have hzero : (r b).countP (· = '{') = 0 := by
    refine List.countP_eq_zero.mpr fun c hc => ?_
    rw [decide_eq_true_eq]
    rintro rfl
    exact h name b hb hc
  rw [hzero, List.take_left]
  exact List.countP_pos_iff.mpr ⟨'{', List.mem_cons_self, rfl⟩

end

namespace Engine

variable (e : Engine) (date : Text)

theorem fading_passes : ∀ pass ∈ (e.passes date).drop 6, Fading (· = '{') pass := by
  intro pass hmem
  simp only [passes, List.drop_succ_cons, List.drop_zero, List.mem_cons, List.not_mem_nil,
    or_false] at hmem
  rcases hmem with rfl | rfl | rfl | rfl | rfl
  · exact Pattern.fading_sub (lowers_braced fun _ _ _ => lbrace_notMem_primarySourceLabel e)
  · exact Pattern.fading_sub (lowers_braced fun _ _ h =>
      lbrace_notMem_diagramStub (lbrace_notMem_of_diagramName h))
  · exact Pattern.fading_sub (lowers_braced fun _ _ _ => lbrace_notMem_multiDiagramStub)
  · exact Pattern.fading_sub (lowers_braced fun _ _ _ =>
      lbrace_notMem_diagramStub (by decide +kernel))
  · exact Pattern.fading_sub (lowers_braced fun _ _ _ => List.not_mem_nil)

/-- Behind the details the passes change what stands between double braces only. -/
theorem pass_eq_self {t : Text} (h : ¬anyPlaceholder.Occurs t) :
    ∀ pass ∈ (e.passes date).drop 5, pass t = t := by
  intro pass hmem
  simp only [passes, List.drop_succ_cons, List.drop_zero, List.mem_cons, List.not_mem_nil,
    or_false] at hmem
  rcases hmem with rfl | rfl | rfl | rfl | rfl | rfl
  · rw [replaceSlot_eq (by decide +kernel)]
    exact Pattern.sub_eq_self fun hocc => h (occurs_anyPlaceholder hocc (by decide +kernel))
  · exact Pattern.sub_eq_self fun hocc => h (occurs_anyPlaceholder hocc (by decide +kernel))
  · exact Pattern.sub_eq_self fun hocc => h (occurs_anyPlaceholder hocc (by decide +kernel))
  · exact Pattern.sub_eq_self fun hocc => h (occurs_anyPlaceholder hocc (by decide +kernel))
  · exact Pattern.sub_eq_self fun hocc => h (occurs_anyPlaceholder hocc (by decide +kernel))
  · exact Pattern.sub_eq_self h

theorem stage_five (L : Layout)
    (h : ¬(braced (exactly "details".toList)).Occurs (L.pre ++ (e.formatOverview ++ L.mid))) :
    e.stage date 5 L.template = e.expected L := by
  simp only [stage, passes, List.take_succ_cons, List.take_zero, List.foldl_cons, List.foldl_nil]
  rw [L.replaceSlot_template (by decide +kernel) (by decide +kernel) (by decide +kernel),
    L.replaceSlot_template (by decide +kernel) (by decide +kernel) (by decide +kernel),
    L.replaceSlot_template (by decide +kernel) (by decide +kernel) (by decide +kernel),
    L.replaceSlot_overview, L.replaceSlot_details h, expected]

end Engine

/-! ### The merged content in the document -/

theorem foldl_eq_self {fs : List (Text → Text)} {t : Text} (h : ∀ f ∈ fs, f t = t) :
    fs.foldl (fun t f => f t) t = t := by
  induction fs with
  | nil => rfl
  | cons f fs ih =>
    rw [List.foldl_cons, h f List.mem_cons_self]
    exact ih fun g hg => h g (List.mem_cons_of_mem _ hg)

namespace Engine

variable {e : Engine} {date : Text} {L : Layout}

/-- A stage behind another is what the passes between make of it. -/
theorem stage_add (k n : ℕ) (t : Text) :
    e.stage date (k + n) t =
      (((e.passes date).drop k).take n).foldl (fun t pass => pass t) (e.stage date k t) := by
  rw [stage, List.take_add, List.foldl_append, stage]

theorem replaceVariables_eq (k : ℕ) (t : Text) :
    e.replaceVariables date t =
      ((e.passes date).drop k).foldl (fun t pass => pass t) (e.stage date k t) := by
  rw [stage, ← List.foldl_append, List.take_append_drop, replaceVariables]

/-- A slot before its place would be something between double braces in the
document. -/
theorem not_occurs_before_details (h : ¬anyPlaceholder.Occurs (e.expected L)) :
    ¬(braced (exactly "details".toList)).Occurs (L.pre ++ (e.formatOverview ++ L.mid)) := by
  intro hocc
  obtain ⟨before, name, more, hname, hsome, heq⟩ :=
    occurs_braced_iff.mp (occurs_anyPlaceholder hocc (by decide))
  refine h (occurs_braced_iff.mpr
    ⟨before, name, more ++ (e.formatDetails ++ L.post), hname, hsome, ?_⟩)
  have hcut := congrArg (· ++ (e.formatDetails ++ L.post)) heq
  simpa only [expected, Layout.fill, List.append_assoc] using hcut

end Engine

variable {e : Engine} {date : Text} {L : Layout}

theorem unchanged_of_not_occurs (h : ¬anyPlaceholder.Occurs (e.expected L)) :
    Unchanged e date L := by
  have hfive := e.stage_five date L (Engine.not_occurs_before_details h)
  have hself := e.pass_eq_self date h
  constructor
  · rw [Engine.replaceVariables_eq 5, hfive]
    exact foldl_eq_self hself
  · intro k hk
    obtain ⟨n, rfl⟩ := Nat.exists_eq_add_of_le hk
    rw [Engine.stage_add, hfive]
    exact foldl_eq_self fun pass hpass => hself pass (List.mem_of_mem_take hpass)

/-- The last pass deletes what stands between double braces. -/
theorem sub_anyPlaceholder_eq_self_iff (t : Text) :
    (anyPlaceholder.sub fun _ => []) t = t ↔ ¬anyPlaceholder.Occurs t :=
  (lowers_braced fun _ _ _ => List.not_mem_nil).sub_eq_self_iff t

/-- Where no slot is reopened, the document that is returned tells. -/
theorem not_occurs_of_returned (hopen : ¬Reopened e L)
    (h : e.replaceVariables date L.template = e.expected L) :
    ¬anyPlaceholder.Occurs (e.expected L) := by
  obtain ⟨hdetails, hreferences⟩ := not_or.mp hopen
  have hsix : e.stage date 6 L.template = e.expected L := by
    rw [Engine.stage_add 5 1, e.stage_five date L hdetails]
    refine (replaceSlot_eq (by decide) _).trans (Pattern.sub_eq_self hreferences)
  rw [Engine.replaceVariables_eq 6, hsix] at h
  -- the passes that are left have changed nothing, or there would be fewer braces
  have hfade := Fading.foldl (e.fading_passes date) (e.expected L)
  rw [h] at hfade
  exact (sub_anyPlaceholder_eq_self_iff _).mp (hfade.2 rfl _ (by simp [Engine.passes]))

/-- **The merged content reaches the document as it is exactly when the document
then has nothing between double braces.**  Where no slot is reopened, the document
that is returned is the one expected in no other case. -/
theorem unchanged_iff (e : Engine) (date : Text) (L : Layout) :
    (Unchanged e date L ↔ ¬anyPlaceholder.Occurs (e.expected L)) ∧
      (¬Reopened e L → (e.replaceVariables date L.template = e.expected L ↔
        ¬anyPlaceholder.Occurs (e.expected L))) := by
  refine ⟨⟨fun h => ?_, unchanged_of_not_occurs⟩, fun hopen =>
    ⟨not_occurs_of_returned hopen, fun h => (unchanged_of_not_occurs h).returned⟩⟩
  -- the last pass finds the document it leaves
  have hten := h.untouched 10 (by omega)
  have hlast := h.returned
  rw [Engine.replaceVariables_eq 10, hten] at hlast
  exact (sub_anyPlaceholder_eq_self_iff _).mp hlast

/-- The layout of the two slots on lines of their own. -/
def twoSlots : Layout where
  pre := "# Doc\n\n".toList
  mid := "\n\n".toList
  post := "\n".toList
  plain c hc := by
    have hall : ("# Doc\n\n".toList ++ "\n\n".toList ++ "\n".toList).all
        fun c => c ≠ '{' ∧ c ≠ '}' := by
      decide +kernel
    exact of_decide_eq_true (List.all_eq_true.mp hall c hc)

/-- With a slot reopened, the references can put back what the last pass deletes. -/
example :
    let e : Engine := ⟨[], placeholder (placeholder "references".toList), ∅, [⟨
      some "web".toList,
      some "\x7d\x7d\x7b\x7b\x7b\x7breferences\x7d\x7b\x7ba\x7d\x7d\x7d\x7b\x7b".toList,
      some "\x7d\x7d\x7d\x7d\x7b\x7b".toList⟩]⟩
    e.replaceVariables [] twoSlots.template = e.expected twoSlots ∧
      anyPlaceholder.Occurs (e.expected twoSlots) := by
  decide +kernel

/-- **A line of Go in the details**: the template action it prints with is deleted. -/
theorem unchanged_counterexample : ¬∀ (e : Engine) (date : Text) (L : Layout),
    e.replaceVariables date L.template = e.expected L := by
  intro hall
  have h := hall ⟨"design_doc".toList, "an overview".toList, Dict.ofList [("main.go".toList,
    ⟨some "code_repository".toList, some "t.Parse(\"\x7b\x7b.Name\x7d\x7d\")".toList⟩)], []⟩
    "2026-01-01".toList twoSlots
  revert h
  decide +kernel

end Docs
end Shrimp
