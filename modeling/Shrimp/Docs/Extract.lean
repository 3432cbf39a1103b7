import Shrimp.Docs.Annotate
import Shrimp.Docs.Lines
import Shrimp.Docs.Template

/-!
# Taking a template out of its file (`doc_output/template_engine.py`)

The templates of all document types stand in one file, each in a section of its own and
there in a fenced block.  The end of a section is found by walking its lines, the end of
the block by a regular expression that stops at the first bare fence: where the block
has fenced blocks in it, the template ends with the first of them.

## Main definitions

* `extractTemplateSection` — `_extract_template_section`.
* `BodyItem`, `Section` — the sections of a templates file.
* `Lands` — where the marker of a type stands first in the file.

## Main results

* `sectionFrom_joined` — the section of a text of lines.
* `unwrapMarkdownFence_block` — what is taken out of a block.
* `extract_iff` — **the whole template is taken out exactly when it has a line and no
  fenced block in it.**
-/

namespace Shrimp
namespace Docs

/-! ### The extraction -/

/-- `\s+`, and what `p` takes behind it. -/
def spacesThen (p : Text → Bool) : Text → Bool
  | [] => false
  | c :: t => isSpace c && (p t || spacesThen p t)

/-- `\d+`, and what `p` takes behind it. -/
def digitsThen (p : Text → Bool) : Text → Bool
  | [] => false
  | c :: t => isDecimal c && (p t || digitsThen p t)

/-- The marker of a section without a number. -/
def startMarker (docType : Text) : Text := "## ".toList ++ docType ++ "（".toList

/-- `^##\s+\d+\.\s+{doc_type}（`, on a text that begins with a line. -/
def numberedHeading (docType t : Text) : Option Text :=
  let marker := docType ++ "（".toList
  let dot := fun t : Text => ['.'] <+: t && spacesThen (fun t => marker <+: t) (t.drop 1)
  if "##".toList <+: t && spacesThen (digitsThen dot) (t.drop 2) then some t else none

/-- `content[content.find(old):]`, if it is found. -/
def findText (old : Text) : Text → Option Text
  | [] => if old = [] then some [] else none
  | c :: t => if old <+: c :: t then some (c :: t) else findText old t

/-- The content from the heading of a document type on. -/
def findHeading (content docType : Text) : Option Text :=
  (findText (startMarker docType) content).or
    (searchLines (numberedHeading docType) true content)

/-- `line.lstrip().startswith('```')`. -/
def isFenceLine (line : Text) : Bool := "```".toList <+: line.dropWhile isSpace

/-- `line.startswith('## ')`. -/
def isHeadingLine (line : Text) : Bool := "## ".toList <+: line

/-- The lines before the next heading outside of a fence, if there is one. -/
def linesOfSection : Bool → List Text → Option (List Text)
  | _, [] => none
  | inFence, line :: lines =>
    if isFenceLine line then (linesOfSection (!inFence) lines).map (line :: ·)
    else if inFence then (linesOfSection inFence lines).map (line :: ·)
    else if isHeadingLine line then some []
    else (linesOfSection inFence lines).map (line :: ·)

/-- The section that begins a text: `content[start_idx:end_idx]`. -/
def sectionFrom : Text → Text
  | [] => []
  | c :: t =>
    match t.dropWhile (· ≠ '\n') with
    | [] => c :: t
    | _ :: remaining =>
      match linesOfSection false (splitlinesKeepends remaining) with
      | none => c :: t
      | some lines => (c :: t.takeWhile (· ≠ '\n') ++ '\n' :: lines.flatten).dropLast

/-- The opening line of the block: what stands behind its line break. -/
def markdownOpening (t : Text) : Option Text := do
  let rest ← afterPrefix "```markdown".toList (t.dropWhile isBlank)
  afterPrefix ['\n'] (rest.dropWhile isBlank)

/-- The blanks behind a fence, up to the end of its line. -/
def endsBare (t : Text) : Bool := (t.dropWhile isBlank).head?.all (· = '\n')

/-- `\n[ \t]*```[ \t]*$`, with its length. -/
def bareClosing (t : Text) : Option ℕ := do
  let line ← afterPrefix ['\n'] t
  let rest ← afterPrefix "```".toList (line.dropWhile isBlank)
  if endsBare rest then
    some (1 + (line.takeWhile isBlank).length + 3 + (rest.takeWhile isBlank).length)
  else none

/-- The block that begins a text, if one does. -/
def markdownBlock (t : Text) : Option Text :=
  (markdownOpening t).bind fun inner => (upTo bareClosing inner).map fun m => m.1

/-- `_unwrap_markdown_fence`. -/
def unwrapMarkdownFence (t : Text) : Option Text := searchLines markdownBlock true t

/-- The template of the section that begins a text. -/
def templateFrom (start : Text) : Text :=
  (unwrapMarkdownFence (sectionFrom start)).getD (sectionFrom start)

/-- `_extract_template_section`; without a section of the type the template is the
default one. -/
def extractTemplateSection (defaultTemplate content docType : Text) : Text :=
  match findHeading content docType with
  | none => defaultTemplate
  | some start => templateFrom start

/-! ### Templates files -/

/-- A line that is no fence. -/
structure PlainLine where
  text : Text
  isLine : IsLine text
  no_fence : isFenceLine text = false

/-- A line of prose: it is no heading. -/
structure ProseLine extends PlainLine where
  no_heading : isHeadingLine text = false

/-- A fenced block with its language. -/
structure FencedBlock where
  language : Text
  language_ne : language ≠ []
  language_word : ∀ c ∈ language, isSpace c = false
  content : List PlainLine

/-- A line of a template or a fenced block in it. -/
inductive BodyItem
  | line (l : PlainLine)
  | block (b : FencedBlock)

def FencedBlock.lines (b : FencedBlock) : List Text :=
  ("```".toList ++ b.language) :: b.content.map (·.text) ++ ["```".toList]

def BodyItem.lines : BodyItem → List Text
  | line l => [l.text]
  | block b => b.lines

/-- A section of a templates file. -/
structure Section where
  number : ℕ
  docType : Text
  title : Text
  docType_line : IsLine docType
  title_line : IsLine title
  prose : List ProseLine
  body : List BodyItem
  /-- What stands between the block and the next section. -/
  tail : List ProseLine

namespace Section

variable (s : Section)

def heading : Text :=
  "## ".toList ++ Nat.toDigits 10 s.number ++ ". ".toList ++ s.docType ++ "（".toList ++ s.title ++
    "）".toList

/-- The lines of the template. -/
def bodyLines : List Text := s.body.flatMap BodyItem.lines

/-- **The template**, as it stands in its block. -/
def template : Text := joined s.bodyLines

/-- The lines of the block and behind it. -/
def blockLines : List Text :=
  "```markdown".toList :: s.bodyLines ++ "```".toList :: s.tail.map (·.text)

/-- The lines before the block. -/
def headLines : List Text := s.heading :: s.prose.map (·.text)

def lines : List Text := s.headLines ++ s.blockLines

end Section

/-- A templates file. -/
def templatesFile (sections : List Section) : Text := joined (sections.flatMap Section.lines)

/-- **The marker of a type first stands before the block of its section**: in no line of
an earlier section, be it within a line (`### type（`), and in the heading or the prose of
its own; or it stands nowhere in the file, and no earlier line begins a numbered heading
of the type, which may run over white space into the lines behind it. -/
def Lands (earlier : List Section) (s : Section) (later : List Section) : Prop :=
  (∀ l ∈ earlier.flatMap Section.lines, ¬startMarker s.docType <:+: l) ∧
  ((∃ l ∈ s.headLines, startMarker s.docType <:+: l) ∨
    (∀ l ∈ (s :: later).flatMap Section.lines, ¬startMarker s.docType <:+: l) ∧
    ∀ ls, ls <:+ earlier.flatMap Section.lines → ls ≠ [] →
      numberedHeading s.docType (joined (ls ++ (s :: later).flatMap Section.lines)) = none)

/-- The template has a line, and no fenced block in it. -/
def Unfenced (s : Section) : Prop := s.body ≠ [] ∧ ∀ b, .block b ∉ s.body

/-! ### The section of a text of lines -/

section

variable {l start : Text} {ls pre rest : List Text} {inFence : Bool}

theorem isFenceLine_break (l : Text) : isFenceLine (l ++ ['\n']) = isFenceLine l := by
  unfold isFenceLine
  by_cases hall : ∀ c ∈ l, isSpace c = true
  · rw [List.dropWhile_append_of_pos hall, List.dropWhile_eq_nil_iff.mpr hall]
    rfl
  · have hne : l.dropWhile isSpace ≠ [] := fun h => hall (List.dropWhile_eq_nil_iff.mp h)
    have hdrop : (l ++ ['\n']).dropWhile isSpace = l.dropWhile isSpace ++ ['\n'] := by
      rw [List.dropWhile_append, if_neg (by simpa using hne)]
    rw [hdrop]
    exact decide_eq_decide.mpr (List.prefix_append_cons_iff (by decide) _ _)

theorem isHeadingLine_break (l : Text) : isHeadingLine (l ++ ['\n']) = isHeadingLine l :=
  decide_eq_decide.mpr (List.prefix_append_cons_iff (by decide) _ _)

theorem linesOfSection_joined (hls : ∀ l ∈ ls, IsLine l) (h : ls ≠ []) (inFence : Bool) :
    linesOfSection inFence (splitlinesKeepends (joined ls)) =
      (linesOfSection inFence ls).map fun ls => ls.map (· ++ ['\n']) := by
  induction ls generalizing inFence with
  | nil => exact absurd rfl h
  | cons l ls ih =>
    have hl := hls l List.mem_cons_self
    by_cases hnil : ls = []
    · subst hnil
      rw [joined_singleton, splitlinesKeepends_of_isLine hl]
      split
      · next hempty =>
        subst hempty
        cases inFence <;> rfl
      · simp only [linesOfSection]
        split
        · rfl
        · split
          · rfl
          · split <;> rfl
    · have ih := ih (fun m hm => hls m (List.mem_cons_of_mem _ hm)) hnil
      rw [splitlinesKeepends_joined_cons hl hnil]
      simp only [linesOfSection, isFenceLine_break, isHeadingLine_break, ih]
      have hmap : ∀ o : Option (List Text),
          (o.map fun ls => ls.map (· ++ ['\n'])).map ((l ++ ['\n']) :: ·) =
            (o.map (l :: ·)).map fun ls => ls.map (· ++ ['\n']) := by
        intro o
        cases o <;> rfl
      split
      · exact hmap _
      · split
        · exact hmap _
        · split
          · rfl
          · exact hmap _

/-- **The section of a text of lines.** -/
theorem sectionFrom_joined (hstart : start ≠ []) (hline : IsLine start)
    (hls : ∀ l ∈ ls, IsLine l) (h : ls ≠ []) :
    sectionFrom (joined (start :: ls)) = joined (start :: (linesOfSection false ls).getD ls) := by
  obtain ⟨c, t, rfl⟩ := List.exists_cons_of_ne_nil hstart
  have hbreak : '\n' ∉ t := fun hmem => hline.break_notMem (List.mem_cons_of_mem _ hmem)
  obtain ⟨htake, hdrop⟩ := takeWhile_line hbreak (joined ls)
  rw [joined_cons _ h, List.cons_append, sectionFrom, hdrop, htake]
  dsimp only
  rw [linesOfSection_joined hls h]
  cases linesOfSection false ls with
  | none => rw [Option.map_none, Option.getD_none, joined_cons _ h, List.cons_append]
  | some before => rw [Option.map_some, Option.getD_some, joined_cons_eq]

/-! ### The lines of a section -/

theorem linesOfSection_cons_fence (h : isFenceLine l = true) (inFence : Bool) (ls : List Text) :
    linesOfSection inFence (l :: ls) = (linesOfSection (!inFence) ls).map (l :: ·) := by
  rw [linesOfSection, if_pos h]

theorem linesOfSection_inside (h : ∀ l ∈ pre, isFenceLine l = false) (rest : List Text) :
    linesOfSection true (pre ++ rest) = (linesOfSection true rest).map (pre ++ ·) := by
  induction pre with
  | nil => simp
  | cons l pre ih =>
    rw [List.cons_append, linesOfSection, h l List.mem_cons_self, if_neg Bool.false_ne_true,
      if_pos rfl, ih fun m hm => h m (List.mem_cons_of_mem _ hm), Option.map_map]
    rfl

theorem linesOfSection_outside (h : ∀ l ∈ pre, isFenceLine l = false) (rest : List Text) :
    linesOfSection false (pre ++ rest) =
      if pre.any isHeadingLine then some (pre.takeWhile fun l => !isHeadingLine l)
      else (linesOfSection false rest).map (pre ++ ·) := by
  induction pre with
  | nil => simp
  | cons l pre ih =>
    rw [List.cons_append, linesOfSection, h l List.mem_cons_self, if_neg Bool.false_ne_true,
      if_neg Bool.false_ne_true, ih fun m hm => h m (List.mem_cons_of_mem _ hm)]
    rw [List.any_cons, List.takeWhile_cons]
    cases isHeadingLine l with
    | true => rfl
    | false =>
      rw [if_neg Bool.false_ne_true, Bool.false_or, Bool.not_false, if_pos rfl]
      split
      · rfl
      · rw [Option.map_map]
        rfl

end

/-! ### The block of a section -/

/-- A line that closes a block. -/
def isBareLine (l : Text) : Bool := (bareClosing ('\n' :: l)).isSome

section

variable {l t : Text} {ls pre post : List Text}

theorem bareClosing_of_ne {c : Char} (h : c ≠ '\n') (t : Text) : bareClosing (c :: t) = none := by
  have hnone : afterPrefix ['\n'] (c :: t) = none := by
    by_contra hne
    obtain ⟨rest, hsome⟩ := Option.ne_none_iff_exists'.mp hne
    exact h (List.cons.inj (afterPrefix_eq_some_iff.mp hsome)).1
  rw [bareClosing, hnone]
  rfl

theorem endsBare_break (t X : Text) : endsBare (t ++ '\n' :: X) = endsBare t := by
  rw [endsBare, endsBare, List.dropWhile_append_cons (by decide)]
  cases t.dropWhile isBlank <;> rfl

/-- **A closing is seen up to the end of its line.** -/
theorem bareClosing_break (l X : Text) :
    bareClosing ('\n' :: (l ++ '\n' :: X)) = bareClosing ('\n' :: l) := by
  have hline : ∀ v : Text, afterPrefix ['\n'] ('\n' :: v) = some v := fun v =>
    afterPrefix_eq_some_iff.mpr rfl
  unfold bareClosing
  simp only [Option.bind_eq_bind, hline, Option.bind_some]
  rw [List.dropWhile_append_cons (by decide), List.takeWhile_append_cons (by decide),
    afterPrefix_append_cons (by decide)]
  cases afterPrefix "```".toList (l.dropWhile isBlank) with
  | none => rfl
  | some rest =>
    rw [Option.map_some, Option.bind_some, Option.bind_some, endsBare_break,
      List.takeWhile_append_cons (by decide)]

theorem isSome_bareClosing_joined (l : Text) (ls : List Text) :
    (bareClosing ('\n' :: joined (l :: ls))).isSome = isBareLine l := by
  by_cases hnil : ls = []
  · rw [hnil, joined_singleton, isBareLine]
  · rw [joined_cons l hnil, bareClosing_break, isBareLine]

theorem isFenceLine_of_dropWhile {rest : Text} (h : l.dropWhile isBlank = "```".toList ++ rest) :
    isFenceLine l = true := by
  have hspace : l.dropWhile isSpace = "```".toList ++ rest := by
    conv_lhs => rw [← List.takeWhile_append_dropWhile (p := isBlank) (l := l), h]
    rw [List.dropWhile_append_of_pos]
    · rfl
    · intro c hc
      have hblank : isBlank c = true := List.mem_takeWhile_imp hc
      rcases of_decide_eq_true hblank with rfl | rfl <;> decide
  rw [isFenceLine, hspace, decide_eq_true (List.prefix_append _ _)]

theorem isBareLine_of_no_fence (h : isFenceLine l = false) : isBareLine l = false := by
  by_contra hne
  rw [Bool.not_eq_false, isBareLine, Option.isSome_iff_exists] at hne
  obtain ⟨n, hn⟩ := hne
  simp only [bareClosing, Option.bind_eq_bind, Option.bind_eq_some_iff,
    afterPrefix_eq_some_iff] at hn
  obtain ⟨line, hline, rest, hrest, -⟩ := hn
  obtain rfl := (List.cons.inj hline).2
  rw [isFenceLine_of_dropWhile hrest] at h
  cases h

/-- A bare fence closes a block, one with a language does not. -/
theorem isBareLine_fence {language : Text} (h : ∀ c ∈ language, isSpace c = false) :
    isBareLine ("```".toList ++ language) = decide (language = []) := by
  have hblank : language.dropWhile isBlank = language := by
    cases language with
    | nil => rfl
    | cons c language =>
      refine List.dropWhile_cons_of_neg fun hc => ?_
      have hspace := h c List.mem_cons_self
      rcases of_decide_eq_true hc with rfl | rfl <;> exact absurd hspace (by decide)
  have hline : ∀ v : Text, afterPrefix ['\n'] ('\n' :: v) = some v := fun v =>
    afterPrefix_eq_some_iff.mpr rfl
  have hfence : afterPrefix "```".toList (("```".toList ++ language).dropWhile isBlank) =
      some language := afterPrefix_eq_some_iff.mpr rfl
  unfold isBareLine bareClosing
  simp only [Option.bind_eq_bind, hline, Option.bind_some, hfence]
  rw [endsBare, hblank]
  cases language with
  | nil => rfl
  | cons c language =>
    have hc : c ≠ '\n' := by
      rintro rfl
      exact absurd (h '\n' List.mem_cons_self) (by decide)
    rw [List.head?_cons, Option.all_some, decide_eq_false hc]
    rfl

/-- **What is taken out of a block**: the lines up to the first bare fence. -/
theorem upTo_bareClosing {bs : List Text} (hb : '\n' ∉ l) (hbs : ∀ m ∈ bs, '\n' ∉ m)
    (hopen : ∀ m ∈ bs, isBareLine m = false) {closer : Text} (hcloser : isBareLine closer = true)
    (post : List Text) : (upTo bareClosing (joined (l :: bs ++ closer :: post))).map (·.1) =
      some (joined (l :: bs)) := by
  rw [joined_append (List.cons_ne_nil _ _) (List.cons_ne_nil _ _)]
  have hstop := isSome_bareClosing_joined closer post
  rw [hcloser, Option.isSome_iff_exists] at hstop
  obtain ⟨n, hn⟩ := hstop
  rw [upTo_append (fun u hu hne => ?_) hn]
  · rfl
  obtain ⟨c, u, rfl⟩ := List.exists_cons_of_ne_nil hne
  by_cases hc : c = '\n'
  · subst hc
    obtain ⟨before, after, hbefore, hafter, hcut, rfl⟩ := suffix_joined (fun m hm => by
      rcases List.mem_cons.mp hm with rfl | hm
      · exact hb
      · exact hbs m hm) hu
    obtain ⟨m, after, rfl⟩ := List.exists_cons_of_ne_nil hafter
    have hm : m ∈ bs := by
      obtain ⟨d, before, rfl⟩ := List.exists_cons_of_ne_nil hbefore
      rw [(List.cons.inj hcut).2]
      exact List.mem_append_right _ List.mem_cons_self
    have hnone : (bareClosing ('\n' :: joined (m :: after))).isSome = false := by
      rw [isSome_bareClosing_joined, hopen m hm]
    rw [Option.isSome_eq_false_iff, Option.isNone_iff_eq_none] at hnone
    rw [List.cons_append]
    by_cases hnil : after = []
    · subst hnil
      rw [joined_singleton] at hnone ⊢
      rwa [bareClosing_break]
    · rw [joined_cons m hnil] at hnone ⊢
      rw [List.append_assoc, List.cons_append, bareClosing_break]
      rwa [bareClosing_break] at hnone
  · rw [List.cons_append, bareClosing_of_ne hc]

/-- Without a bare fence behind the first line of a block the block does not end. -/
theorem upTo_bareClosing_eq_none (hls : ∀ m ∈ l :: ls, '\n' ∉ m)
    (h : ∀ m ∈ ls, isBareLine m = false) : upTo bareClosing (joined (l :: ls)) = none := by
  by_contra hne
  obtain ⟨⟨body, n⟩, hsome⟩ := Option.ne_none_iff_exists'.mp hne
  obtain ⟨rest, heq, hstop⟩ := upTo_eq_some hsome
  cases rest with
  | nil => cases hstop
  | cons c rest =>
    by_cases hc : c = '\n'
    · subst hc
      obtain ⟨before, after, hbefore, hafter, hcut, rfl⟩ :=
        suffix_joined hls ⟨body, heq.symm⟩
      obtain ⟨m, after, rfl⟩ := List.exists_cons_of_ne_nil hafter
      have hm : m ∈ ls := by
        obtain ⟨d, before, rfl⟩ := List.exists_cons_of_ne_nil hbefore
        rw [(List.cons.inj hcut).2]
        exact List.mem_append_right _ List.mem_cons_self
      have hbare := isSome_bareClosing_joined m after
      rw [hstop, h m hm] at hbare
      cases hbare
    · rw [bareClosing_of_ne hc] at hstop
      cases hstop

theorem markdownBlock_of_no_fence (h : isFenceLine l = false) (X : Text) :
    markdownBlock (l ++ '\n' :: X) = none ∧ markdownBlock l = none := by
  have hblank : ∀ t : Text, afterPrefix "```markdown".toList (t.dropWhile isBlank) = none →
      markdownBlock t = none := by
    intro t ht
    rw [markdownBlock, markdownOpening, Option.bind_eq_bind, ht]
    rfl
  have hnone : afterPrefix "```markdown".toList (l.dropWhile isBlank) = none := by
    by_contra hne
    obtain ⟨rest, hsome⟩ := Option.ne_none_iff_exists'.mp hne
    have hrest := afterPrefix_eq_some_iff.mp hsome
    have hfence : l.dropWhile isBlank = "```".toList ++ ("markdown".toList ++ rest) := hrest
    rw [isFenceLine_of_dropWhile hfence] at h
    cases h
  refine ⟨hblank _ ?_, hblank _ hnone⟩
  rw [List.dropWhile_append_cons (by decide), afterPrefix_append_cons (by decide), hnone]
  rfl

theorem markdownOpening_break (h : '\n' ∉ l) (X : Text) :
    markdownOpening (l ++ '\n' :: X) = none ∨ markdownOpening (l ++ '\n' :: X) = some X := by
  unfold markdownOpening
  rw [List.dropWhile_append_cons (by decide), afterPrefix_append_cons (by decide)]
  cases hrest : afterPrefix "```markdown".toList (l.dropWhile isBlank) with
  | none => exact .inl rfl
  | some rest =>
    rw [Option.map_some, Option.bind_eq_bind, Option.bind_some,
      List.dropWhile_append_cons (by decide)]
    cases hdrop : rest.dropWhile isBlank with
    | nil => exact .inr (afterPrefix_eq_some_iff.mpr rfl)
    | cons c rest' =>
      left
      by_contra hne
      obtain ⟨Y, hY⟩ := Option.ne_none_iff_exists'.mp hne
      obtain ⟨rfl, -⟩ := List.cons.inj (afterPrefix_eq_some_iff.mp hY)
      refine h ((List.dropWhile_sublist isBlank).subset ?_)
      rw [afterPrefix_eq_some_iff.mp hrest]
      refine List.mem_append_right _ ((List.dropWhile_sublist isBlank).subset ?_)
      rw [hdrop]
      exact List.mem_cons_self

theorem markdownBlock_of_line (h : '\n' ∉ l) : markdownBlock l = none := by
  have hopen : markdownOpening l = none := by
    by_contra hne
    obtain ⟨inner, hinner⟩ := Option.ne_none_iff_exists'.mp hne
    simp only [markdownOpening, Option.bind_eq_bind, Option.bind_eq_some_iff,
      afterPrefix_eq_some_iff] at hinner
    obtain ⟨rest, hrest, hbreak⟩ := hinner
    refine h ((List.dropWhile_sublist isBlank).subset ?_)
    rw [hrest]
    refine List.mem_append_right _ ((List.dropWhile_sublist isBlank).subset ?_)
    rw [hbreak]
    exact List.mem_cons_self
  rw [markdownBlock, hopen]
  rfl

/-- **The block of a section**: its lines up to the first bare fence behind the first of
them. -/
theorem unwrapMarkdownFence_block {bs : List Text} {closer : Text}
    (hpre : ∀ m ∈ pre, '\n' ∉ m ∧ isFenceLine m = false) (hb : '\n' ∉ l)
    (hbs : ∀ m ∈ bs, '\n' ∉ m) (hopen : ∀ m ∈ bs, isBareLine m = false)
    (hcloser : isBareLine closer = true) (post : List Text) :
    unwrapMarkdownFence (joined (pre ++ "```markdown".toList :: (l :: bs ++ closer :: post))) =
      some (joined (l :: bs)) := by
  unfold unwrapMarkdownFence
  induction pre with
  | nil =>
    have hopening : ∀ Y : Text, markdownBlock ("```markdown".toList ++ '\n' :: Y) =
        (upTo bareClosing Y).map (·.1) := fun Y => rfl
    rw [List.nil_append, joined_cons _ (by simp), searchLines_append (by decide), hopening,
      upTo_bareClosing hb hbs hopen hcloser post, Option.some_or]
  | cons m pre ih =>
    obtain ⟨hm, hfence⟩ := hpre m List.mem_cons_self
    rw [List.cons_append, joined_cons _ (by simp), searchLines_append hm,
      (markdownBlock_of_no_fence hfence _).1, Option.none_or]
    exact ih fun n hn => hpre n (List.mem_cons_of_mem _ hn)

/-- Without a bare fence behind the line below its opening no block is found. -/
theorem unwrapMarkdownFence_eq_none (hls : ∀ m ∈ ls, '\n' ∉ m)
    (h : ∀ pre m post, ls = pre ++ m :: post → isFenceLine m = true →
      ∀ n ∈ post.drop 1, isBareLine n = false) : unwrapMarkdownFence (joined ls) = none := by
  unfold unwrapMarkdownFence
  induction ls with
  | nil => rfl
  | cons m ls ih =>
    have hm := hls m List.mem_cons_self
    have hrest := fun n hn => hls n (List.mem_cons_of_mem m hn)
    by_cases hnil : ls = []
    · rw [hnil, joined_singleton, searchLines_last hm, markdownBlock_of_line hm]
    · have hnone : markdownBlock (m ++ '\n' :: joined ls) = none := by
        cases hfence : isFenceLine m with
        | false => exact (markdownBlock_of_no_fence hfence _).1
        -- a fence that opens a block has no bare line behind its first one
        | true =>
          rw [markdownBlock]
          rcases markdownOpening_break hm (joined ls) with hopen | hopen
          · rw [hopen]
            rfl
          · obtain ⟨b, bs, rfl⟩ := List.exists_cons_of_ne_nil hnil
            rw [hopen, Option.bind_some,
              upTo_bareClosing_eq_none hrest (h [] m (b :: bs) rfl hfence)]
            rfl
      rw [joined_cons m hnil, searchLines_append hm, hnone, Option.none_or]
      refine ih hrest fun pre n post hcut => h (m :: pre) n post ?_
      rw [hcut, List.cons_append]

end

/-! ### The lines of a templates file -/

theorem IsLine.append {l l' : Text} (h : IsLine l) (h' : IsLine l') : IsLine (l ++ l') :=
  fun c hc => (List.mem_append.mp hc).elim (h c) (h' c)

namespace FencedBlock

variable (b : FencedBlock)

theorem isLine_opening : IsLine ("```".toList ++ b.language) := by
  refine IsLine.append (by decide) fun c hc => ?_
  by_contra hne
  have hspace := isSpace_of_isLineBoundary (Bool.not_eq_false _ ▸ hne)
  rw [b.language_word c hc] at hspace
  cases hspace

theorem isFenceLine_opening : isFenceLine ("```".toList ++ b.language) = true :=
  isFenceLine_of_dropWhile rfl

theorem isLine_of_mem {l : Text} (h : l ∈ b.lines) : IsLine l := by
  simp only [lines, List.mem_append, List.mem_cons, List.mem_map, List.not_mem_nil, or_false] at h
  rcases h with (rfl | ⟨m, -, rfl⟩) | rfl
  · exact b.isLine_opening
  · exact m.isLine
  · decide

end FencedBlock

namespace Section

variable (s : Section)

theorem blockLines_eq : s.blockLines =
    "```markdown".toList :: (s.bodyLines ++ "```".toList :: s.tail.map (·.text)) := rfl

theorem isLine_heading : IsLine s.heading := by
  have hdigits : IsLine (Nat.toDigits 10 s.number) := by
    intro c hc
    have hdigit := Nat.isDigit_of_mem_toDigits (by omega) (by omega) hc
    simp only [Char.isDigit, Bool.and_eq_true, decide_eq_true_eq] at hdigit
    have hlow : (0x30 : UInt32) ≤ c.val := hdigit.1
    have hhigh : c.val ≤ (0x39 : UInt32) := hdigit.2
    simp only [isLineBoundary]
    grind
  exact ((((((IsLine.append (by decide) hdigits).append (by decide)).append
    s.docType_line).append (by decide)).append s.title_line).append (by decide))

theorem isHeadingLine_heading : isHeadingLine s.heading = true := by
  unfold heading isHeadingLine
  repeat rw [List.append_assoc]
  exact decide_eq_true (List.prefix_append _ _)

theorem isFenceLine_heading : isFenceLine s.heading = false := rfl

theorem isLine_bodyLines {l : Text} (h : l ∈ s.bodyLines) : IsLine l := by
  obtain ⟨item, -, hl⟩ := List.mem_flatMap.mp h
  cases item with
  | line m =>
    rw [List.mem_singleton.mp hl]
    exact m.isLine
  | block b => exact b.isLine_of_mem hl

theorem isLine_of_mem {l : Text} (h : l ∈ s.lines) : IsLine l := by
  simp only [lines, headLines, blockLines, List.mem_append, List.mem_cons, List.mem_map] at h
  rcases h with (rfl | ⟨m, -, rfl⟩) | (rfl | hbody) | (rfl | ⟨m, -, rfl⟩)
  · exact s.isLine_heading
  · exact m.isLine
  · decide
  · exact s.isLine_bodyLines hbody
  · decide
  · exact m.isLine

end Section

/-! ### The template in the block -/

theorem joined_injective {ls ls' : List Text} (hls : ∀ l ∈ ls, '\n' ∉ l)
    (hls' : ∀ l ∈ ls', '\n' ∉ l) (h : ls ≠ []) (h' : ls' ≠ [])
    (heq : joined ls = joined ls') : ls = ls' := by
  have hsplit := congrArg (List.splitOn '\n') heq
  rwa [joined, joined, List.splitOn_intercalate _ hls h, List.splitOn_intercalate _ hls' h']
    at hsplit

theorem prefix_of_findText {old content t : Text} (h : findText old content = some t) :
    old <+: t := by
  induction content with
  | nil =>
    rw [findText] at h
    split at h
    · next hnil =>
      rw [hnil]
      exact List.nil_prefix
    · cases h
  | cons c content ih =>
    rw [findText] at h
    split at h
    · next hpre =>
      cases h
      exact hpre
    · exact ih h

theorem exists_cons_of_findHeading {content docType t : Text}
    (h : findHeading content docType = some t) : ∃ u, t = '#' :: u := by
  have hpre : "##".toList <+: t := by
    rw [findHeading, Option.or_eq_some_iff] at h
    rcases h with h | ⟨-, h⟩
    · have hmarker : "##".toList <+: startMarker docType :=
        ⟨' ' :: (docType ++ "（".toList), rfl⟩
      exact hmarker.trans (prefix_of_findText h)
    · obtain ⟨u, hu⟩ := exists_of_searchLines h
      simp only [numberedHeading] at hu
      split at hu
      · next hnumber =>
        cases hu
        rw [Bool.and_eq_true, decide_eq_true_eq] at hnumber
        exact hnumber.1
      · cases hu
  obtain ⟨rest, rfl⟩ := hpre
  exact ⟨_, rfl⟩

section

variable {s : Section} {start : Text} {prose after : List Text}

theorem drop_suffix_of_fence {pre post rest : List Text} {m : Text}
    (hpre : ∀ l ∈ pre, isFenceLine l = false) {before : List Text}
    (heq : pre ++ rest = before ++ m :: post) (hm : isFenceLine m = true) :
    post.drop 1 <:+ rest.drop 2 := by
  have hpost : m :: post <:+ rest := by
    rcases List.append_eq_append_iff.mp heq with ⟨c, -, hrest⟩ | ⟨c, hcut, hrest⟩
    · exact ⟨c, hrest.symm⟩
    · cases c with
      | nil => exact ⟨[], hrest.symm ▸ rfl⟩
      | cons d c =>
        obtain ⟨rfl, -⟩ := List.cons.inj hrest
        rw [hpre m (by rw [hcut]; exact List.mem_append_right _ List.mem_cons_self)] at hm
        cases hm
  obtain ⟨u, rfl⟩ := hpost
  cases u with
  | nil => exact ⟨[], rfl⟩
  | cons d u =>
    have hpost : post <:+ (u ++ m :: post).drop 1 := by
      cases u with
      | nil => exact List.suffix_rfl
      | cons e u => exact (List.suffix_cons m post).trans (List.suffix_append u _)
    exact (List.drop_suffix 1 post).trans hpost

/-- What stands behind the sections of a file is nothing, or a heading. -/
theorem linesOfSection_later (later : List Section) :
    linesOfSection false (later.flatMap Section.lines) = if later = [] then none else some [] := by
  cases later with
  | nil => rfl
  | cons s later =>
    rw [List.flatMap_cons, Section.lines, Section.headLines, List.cons_append, List.cons_append,
      linesOfSection, s.isFenceLine_heading, s.isHeadingLine_heading]
    rfl

theorem no_fence_of_mem_texts {ps : List ProseLine} {l : Text} (h : l ∈ ps.map (·.text)) :
    IsLine l ∧ isFenceLine l = false ∧ isHeadingLine l = false := by
  obtain ⟨p, -, rfl⟩ := List.mem_map.mp h
  exact ⟨p.isLine, p.no_fence, p.no_heading⟩

theorem linesOfSection_prose (h : ∀ l ∈ prose, isFenceLine l = false ∧ isHeadingLine l = false)
    (rest : List Text) :
    linesOfSection false (prose ++ rest) = (linesOfSection false rest).map (prose ++ ·) := by
  rw [linesOfSection_outside (fun l hl => (h l hl).1), if_neg]
  simpa using fun l hl => (h l hl).2

/-- **The lines of a section whose template has no fenced block.** -/
theorem linesOfSection_unfenced
    (hprose : ∀ l ∈ prose, isFenceLine l = false ∧ isHeadingLine l = false)
    (hbody : ∀ l ∈ s.bodyLines, isFenceLine l = false) (later : List Section) :
    (linesOfSection false (prose ++ s.blockLines ++ later.flatMap Section.lines)).getD
        (prose ++ s.blockLines ++ later.flatMap Section.lines) = prose ++ s.blockLines := by
  have hlines : linesOfSection false (prose ++ s.blockLines ++ later.flatMap Section.lines) =
      if later = [] then none else some (prose ++ s.blockLines) := by
    rw [List.append_assoc, linesOfSection_prose hprose, Section.blockLines, List.cons_append,
      List.cons_append, linesOfSection_cons_fence (by decide), List.append_assoc, List.cons_append,
      Bool.not_false, linesOfSection_inside hbody, linesOfSection_cons_fence (by decide),
      Bool.not_true, linesOfSection_prose fun l hl => (no_fence_of_mem_texts hl).2,
      linesOfSection_later]
    split
    · rfl
    · simp
  rw [hlines]
  split
  · next hnil => rw [hnil, List.flatMap_nil, List.append_nil, Option.getD_none]
  · rfl

/-- A section is read from within its prose on. -/
structure Landed (s : Section) (start : Text) (prose after : List Text) : Prop where
  start_line : IsLine start
  start_sharp : ∃ u, start = '#' :: u
  prose_line : ∀ l ∈ prose, IsLine l
  prose_plain : ∀ l ∈ prose, isFenceLine l = false ∧ isHeadingLine l = false
  after_line : ∀ l ∈ after, IsLine l

namespace Landed

theorem start_plain (h : Landed s start prose after) : isFenceLine start = false := by
  obtain ⟨u, rfl⟩ := h.start_sharp
  rfl

theorem start_ne (h : Landed s start prose after) : start ≠ [] := by
  obtain ⟨u, rfl⟩ := h.start_sharp
  exact List.cons_ne_nil _ _

theorem head_plain (h : Landed s start prose after) :
    ∀ l ∈ start :: prose, '\n' ∉ l ∧ isFenceLine l = false := by
  intro l hl
  rcases List.mem_cons.mp hl with rfl | hl
  · exact ⟨h.start_line.break_notMem, h.start_plain⟩
  · exact ⟨(h.prose_line l hl).break_notMem, (h.prose_plain l hl).1⟩

theorem sectionFrom_eq (h : Landed s start prose after) :
    sectionFrom (joined (start :: prose ++ s.blockLines ++ after)) =
      joined (start :: (linesOfSection false (prose ++ s.blockLines ++ after)).getD
        (prose ++ s.blockLines ++ after)) := by
  refine sectionFrom_joined h.start_ne h.start_line (fun l hl => ?_) (by simp [Section.blockLines])
  rcases List.mem_append.mp hl with hl | hl
  · rcases List.mem_append.mp hl with hl | hl
    · exact h.prose_line l hl
    · exact s.isLine_of_mem (List.mem_append_right _ hl)
  · exact h.after_line l hl

end Landed

theorem no_fence_of_lines {items : List BodyItem} (h : ∀ b, .block b ∉ items) :
    ∀ l ∈ items.flatMap BodyItem.lines, isFenceLine l = false := by
  intro l hl
  obtain ⟨item, hitem, hl⟩ := List.mem_flatMap.mp hl
  cases item with
  | line m =>
    rw [List.mem_singleton.mp hl]
    exact m.no_fence
  | block b => exact absurd hitem (h b)

theorem bare_tail (s : Section) : ∀ l ∈ s.tail.map (·.text), isBareLine l = false :=
  fun _ hl => isBareLine_of_no_fence (no_fence_of_mem_texts hl).2.1

/-- **A template without fenced blocks is taken out whole.** -/
theorem templateFrom_unfenced {later : List Section}
    (h : Landed s start prose (later.flatMap Section.lines)) (hs : Unfenced s) :
    templateFrom (joined (start :: prose ++ s.blockLines ++ later.flatMap Section.lines)) =
      s.template := by
  have hplain := no_fence_of_lines hs.2
  obtain ⟨l, ls, hbody⟩ : ∃ l ls, s.bodyLines = l :: ls := by
    obtain ⟨item, items, hitems⟩ := List.exists_cons_of_ne_nil hs.1
    cases item with
    | line m => exact ⟨m.text, items.flatMap BodyItem.lines, by rw [Section.bodyLines, hitems]; rfl⟩
    | block b => exact absurd (hitems ▸ List.mem_cons_self) (hs.2 b)
  have hline : ∀ m ∈ l :: ls, '\n' ∉ m := fun m hm =>
    (s.isLine_bodyLines (hbody ▸ hm)).break_notMem
  have hcloser : isBareLine "```".toList = true := by decide
  have hblock := unwrapMarkdownFence_block h.head_plain
    (hline l List.mem_cons_self) (fun m hm => hline m (List.mem_cons_of_mem _ hm))
    (fun m hm => isBareLine_of_no_fence (hplain m (by
      rw [← Section.bodyLines, hbody]
      exact List.mem_cons_of_mem _ hm))) hcloser (s.tail.map (·.text))
  rw [← hbody] at hblock
  rw [templateFrom, h.sectionFrom_eq, linesOfSection_unfenced h.prose_plain hplain,
    ← List.cons_append, Section.blockLines_eq, hblock, Option.getD_some, Section.template]

/-- A template without a line is not taken out: the section is. -/
theorem templateFrom_empty {later : List Section}
    (h : Landed s start prose (later.flatMap Section.lines)) (hs : s.body = []) :
    templateFrom (joined (start :: prose ++ s.blockLines ++ later.flatMap Section.lines)) ≠
      s.template := by
  have hbody : s.bodyLines = [] := by rw [Section.bodyLines, hs]; rfl
  have hsection := h.sectionFrom_eq
  rw [linesOfSection_unfenced h.prose_plain (by rw [hbody]; exact fun _ hl => by cases hl)]
    at hsection
  have hnone : unwrapMarkdownFence (joined (start :: (prose ++ s.blockLines))) = none := by
    refine unwrapMarkdownFence_eq_none (fun l hl => ?_) fun before m post hcut hm n hn => ?_
    · rcases List.mem_cons.mp hl with rfl | hl
      · exact h.start_line.break_notMem
      · rcases List.mem_append.mp hl with hl | hl
        · exact (h.prose_line l hl).break_notMem
        · exact (s.isLine_of_mem (List.mem_append_right _ hl)).break_notMem
    · rw [← List.cons_append] at hcut
      have hsuffix := drop_suffix_of_fence (fun l hl => (h.head_plain l hl).2) hcut hm
      rw [Section.blockLines, hbody] at hsuffix
      exact bare_tail s n (hsuffix.subset hn)
  rw [templateFrom, hsection, hnone, Option.getD_none, Section.template, hbody]
  obtain ⟨u, rfl⟩ := h.start_sharp
  rw [joined_cons _ (by simp [Section.blockLines])]
  exact List.cons_ne_nil _ _

theorem exists_first_block {items : List BodyItem} {b : FencedBlock} (h : .block b ∈ items) :
    ∃ first b more, items = first ++ .block b :: more ∧ ∀ b', .block b' ∉ first := by
  induction items with
  | nil => cases h
  | cons item items ih =>
    cases item with
    | block b' => exact ⟨[], b', items, rfl, fun _ => List.not_mem_nil⟩
    | line m =>
      rcases List.mem_cons.mp h with h | h
      · cases h
      · obtain ⟨first, b', more, rfl, hfirst⟩ := ih h
        exact ⟨.line m :: first, b', more, rfl, by simpa using hfirst⟩

/-- The lines of a section, from a fenced block in its template on. -/
theorem blockLines_of_block {first more : List BodyItem} {b : FencedBlock}
    (hs : s.body = first ++ .block b :: more) : s.blockLines =
      "```markdown".toList :: (first.flatMap BodyItem.lines ++
        ("```".toList ++ b.language) :: (b.content.map (·.text) ++ "```".toList ::
          (more.flatMap BodyItem.lines ++ "```".toList :: s.tail.map (·.text)))) := by
  rw [Section.blockLines_eq, Section.bodyLines, hs, List.flatMap_append, List.flatMap_cons,
    BodyItem.lines, FencedBlock.lines]
  simp only [List.append_assoc, List.cons_append, List.nil_append]

theorem bodyLines_of_block {first more : List BodyItem} {b : FencedBlock}
    (hs : s.body = first ++ .block b :: more) : s.bodyLines =
      first.flatMap BodyItem.lines ++ ("```".toList ++ b.language) ::
        (b.content.map (·.text) ++ "```".toList :: more.flatMap BodyItem.lines) := by
  rw [Section.bodyLines, hs, List.flatMap_append, List.flatMap_cons, BodyItem.lines,
    FencedBlock.lines]
  simp only [List.append_assoc, List.cons_append, List.nil_append]

/-- The lines of a section up to the content of its first fenced block: there the walk
takes the text for being outside of a fence. -/
theorem linesOfSection_of_block (h : Landed s start prose after)
    {first more : List BodyItem} {b : FencedBlock} (hs : s.body = first ++ .block b :: more)
    (hfirst : ∀ b', .block b' ∉ first) :
    ∃ rest, (linesOfSection false (prose ++ s.blockLines ++ after)).getD
        (prose ++ s.blockLines ++ after) =
      prose ++ "```markdown".toList :: (first.flatMap BodyItem.lines ++
        ("```".toList ++ b.language) :: rest) ∧
      ((b.content.map (·.text)).any isHeadingLine = true ∧
          rest = (b.content.map (·.text)).takeWhile (fun l => !isHeadingLine l) ∨
        ∃ more', rest = b.content.map (·.text) ++ "```".toList :: more') := by
  have hcontent : ∀ l ∈ b.content.map (·.text), isFenceLine l = false := by
    intro l hl
    obtain ⟨m, -, rfl⟩ := List.mem_map.mp hl
    exact m.no_fence
  -- the nested fence closes the outer one: what it contains stands outside of both
  generalize hR : more.flatMap BodyItem.lines ++ "```".toList :: s.tail.map (·.text) ++ after = R
  have hall : prose ++ s.blockLines ++ after = prose ++ ("```markdown".toList ::
      (first.flatMap BodyItem.lines ++ ("```".toList ++ b.language) ::
        (b.content.map (·.text) ++ "```".toList :: R))) := by
    rw [blockLines_of_block hs, ← hR]
    simp only [List.append_assoc, List.cons_append]
  have hlines : linesOfSection false (prose ++ s.blockLines ++ after) =
      (linesOfSection false (b.content.map (·.text) ++ "```".toList :: R)).map fun rest =>
        prose ++ "```markdown".toList :: (first.flatMap BodyItem.lines ++
          ("```".toList ++ b.language) :: rest) := by
    rw [hall, linesOfSection_prose h.prose_plain, linesOfSection_cons_fence (by decide),
      Bool.not_false, linesOfSection_inside (no_fence_of_lines hfirst),
      linesOfSection_cons_fence b.isFenceLine_opening, Bool.not_true]
    simp only [Option.map_map]
    rfl
  rw [hlines, linesOfSection_outside hcontent]
  split
  · next hheading => exact ⟨_, rfl, .inl ⟨hheading, rfl⟩⟩
  · rw [linesOfSection_cons_fence (by decide), Bool.not_false]
    cases linesOfSection true R with
    | none =>
      refine ⟨_, ?_, .inr ⟨R, rfl⟩⟩
      rw [Option.map_none, Option.map_none, Option.map_none, Option.getD_none, hall]
    | some more' => exact ⟨_, rfl, .inr ⟨more', rfl⟩⟩

section

variable {first more : List BodyItem} {b : FencedBlock}

/-- The lines of the template up to its first fenced block, and those of the block, close
no block. -/
theorem not_bare_of_block (hfirst : ∀ b', .block b' ∉ first) :
    ∀ l ∈ first.flatMap BodyItem.lines ++ ("```".toList ++ b.language) :: b.content.map (·.text),
      isBareLine l = false := by
  intro l hl
  rcases List.mem_append.mp hl with hl | hl
  · exact isBareLine_of_no_fence (no_fence_of_lines hfirst l hl)
  · rcases List.mem_cons.mp hl with rfl | hl
    · rw [isBareLine_fence b.language_word, decide_eq_false b.language_ne]
    · obtain ⟨m, -, rfl⟩ := List.mem_map.mp hl
      exact isBareLine_of_no_fence m.no_fence

/-- The lines of a section that is cut within its first fenced block. -/
theorem mem_cut (h : Landed s start prose after) (hs : s.body = first ++ .block b :: more)
    {content : List Text} (hcontent : content <+: b.content.map (·.text)) :
    ∀ l ∈ start :: prose ++ "```markdown".toList :: (first.flatMap BodyItem.lines ++
      ("```".toList ++ b.language) :: content), '\n' ∉ l := by
  intro l hl
  rcases List.mem_append.mp hl with hl | hl
  · exact (h.head_plain l hl).1
  · rcases List.mem_cons.mp hl with rfl | hl
    · decide
    · refine (s.isLine_bodyLines ?_).break_notMem
      rw [bodyLines_of_block hs]
      simp only [List.mem_append, List.mem_cons] at hl ⊢
      exact hl.imp_right fun hl => hl.imp_right fun hl => .inl (hcontent.subset hl)

/-- No fence of such a section is bare, so that it is not unwrapped. -/
theorem unwrap_cut (h : Landed s start prose after) (hs : s.body = first ++ .block b :: more)
    (hfirst : ∀ b', .block b' ∉ first) {content : List Text}
    (hcontent : content <+: b.content.map (·.text)) :
    unwrapMarkdownFence (joined (start :: prose ++ "```markdown".toList ::
      (first.flatMap BodyItem.lines ++ ("```".toList ++ b.language) :: content))) = none := by
  have hbare : ∀ l ∈ "```markdown".toList :: (first.flatMap BodyItem.lines ++
      ("```".toList ++ b.language) :: content), isBareLine l = false := by
    intro l hl
    rcases List.mem_cons.mp hl with rfl | hl
    · decide
    · refine not_bare_of_block (b := b) hfirst l ?_
      simp only [List.mem_append, List.mem_cons] at hl ⊢
      exact hl.imp_right fun hl => hl.imp_right fun hl => hcontent.subset hl
  exact unwrapMarkdownFence_eq_none (mem_cut h hs hcontent) fun before m post hcut hm n hn =>
    hbare n (List.mem_of_mem_drop
      ((drop_suffix_of_fence (fun l hl => (h.head_plain l hl).2) hcut hm).subset hn))

/-- The second fence of such a section has a language, and the second fence of the
template is bare. -/
theorem cut_ne_bodyLines (h : Landed s start prose after)
    (hs : s.body = first ++ .block b :: more) (hfirst : ∀ b', .block b' ∉ first)
    (content : List Text) :
    start :: prose ++ "```markdown".toList :: (first.flatMap BodyItem.lines ++
      ("```".toList ++ b.language) :: content) ≠ s.bodyLines := by
  intro hlines
  have hfences := congrArg (List.filter isFenceLine) hlines
  have hhead : (start :: prose).filter isFenceLine = [] :=
    List.filter_eq_nil_iff.mpr fun l hl => by simp [(h.head_plain l hl).2]
  have hplain : (first.flatMap BodyItem.lines).filter isFenceLine = [] :=
    List.filter_eq_nil_iff.mpr fun l hl => by simp [no_fence_of_lines hfirst l hl]
  have htexts : (b.content.map (·.text)).filter isFenceLine = [] := by
    refine List.filter_eq_nil_iff.mpr fun l hl => ?_
    obtain ⟨m, -, rfl⟩ := List.mem_map.mp hl
    simp [m.no_fence]
  rw [bodyLines_of_block hs, List.filter_append, hhead, List.nil_append,
    List.filter_cons_of_pos (by decide), List.filter_append, hplain, List.nil_append,
    List.filter_cons_of_pos b.isFenceLine_opening, List.filter_append, hplain, List.nil_append,
    List.filter_cons_of_pos b.isFenceLine_opening, List.filter_append, htexts, List.nil_append,
    List.filter_cons_of_pos (by decide)] at hfences
  have hopening := (List.cons.inj (List.cons.inj hfences).2).1
  exact b.language_ne (List.append_right_eq_self.mp hopening)

/-- **Where a heading in the fenced block ends the section**, no block is found, and the
section is taken for the template. -/
theorem templateFrom_cut (h : Landed s start prose after) (hs : s.body = first ++ .block b :: more)
    (hfirst : ∀ b', .block b' ∉ first) {content : List Text}
    (hcontent : content <+: b.content.map (·.text))
    (hsection : sectionFrom (joined (start :: prose ++ s.blockLines ++ after)) =
      joined (start :: prose ++ "```markdown".toList :: (first.flatMap BodyItem.lines ++
        ("```".toList ++ b.language) :: content))) :
    templateFrom (joined (start :: prose ++ s.blockLines ++ after)) ≠ s.template := by
  rw [templateFrom, hsection, unwrap_cut h hs hfirst hcontent, Option.getD_none, Section.template]
  intro heq
  refine cut_ne_bodyLines h hs hfirst content ?_
  exact joined_injective (mem_cut h hs hcontent) (fun l hl => (s.isLine_bodyLines hl).break_notMem)
    (List.cons_ne_nil _ _) (by rw [bodyLines_of_block hs]; simp) heq

/-- **A template with a fenced block is not taken out whole**: it ends with the first
one. -/
theorem templateFrom_block (h : Landed s start prose after) (hb : .block b ∈ s.body) :
    templateFrom (joined (start :: prose ++ s.blockLines ++ after)) ≠ s.template := by
  obtain ⟨first, b, more, hs, hfirst⟩ := exists_first_block hb
  obtain ⟨rest, hrest, hcases⟩ := linesOfSection_of_block h hs hfirst
  have hsection := h.sectionFrom_eq
  rw [hrest, ← List.cons_append] at hsection
  rcases hcases with ⟨-, rfl⟩ | ⟨more', rfl⟩
  · exact templateFrom_cut h hs hfirst (List.takeWhile_prefix _) hsection
  · have hbody : ∀ l ∈ s.bodyLines, '\n' ∉ l := fun l hl => (s.isLine_bodyLines hl).break_notMem
    have hkept : ∀ l ∈ first.flatMap BodyItem.lines ++ ("```".toList ++ b.language) ::
        b.content.map (·.text), '\n' ∉ l := by
      intro l hl
      refine hbody l ?_
      rw [bodyLines_of_block hs]
      simp only [List.mem_append, List.mem_cons] at hl ⊢
      exact hl.imp_right fun hl => hl.imp_right .inl
    -- the block ends at the first bare fence, which is the closing of the nested one
    have hbare := not_bare_of_block (b := b) hfirst
    have hne : first.flatMap BodyItem.lines ++ ("```".toList ++ b.language) ::
        b.content.map (·.text) ≠ [] := by simp
    have hcut : first.flatMap BodyItem.lines ++ ("```".toList ++ b.language) ::
        (b.content.map (·.text) ++ "```".toList :: more') =
        (first.flatMap BodyItem.lines ++ ("```".toList ++ b.language) ::
          b.content.map (·.text)) ++ "```".toList :: more' := by
      rw [List.append_assoc, List.cons_append]
    have htemplate : s.bodyLines = (first.flatMap BodyItem.lines ++ ("```".toList ++ b.language) ::
        b.content.map (·.text)) ++ "```".toList :: more.flatMap BodyItem.lines := by
      rw [bodyLines_of_block hs, List.append_assoc, List.cons_append]
    rw [hcut] at hsection
    generalize first.flatMap BodyItem.lines ++ ("```".toList ++ b.language) ::
      b.content.map (·.text) = kept at *
    obtain ⟨l, bs, rfl⟩ := List.exists_cons_of_ne_nil hne
    have hcloser : isBareLine "```".toList = true := by decide
    have hblock := unwrapMarkdownFence_block h.head_plain
      (hkept l List.mem_cons_self) (fun m hm => hkept m (List.mem_cons_of_mem _ hm))
      (fun m hm => hbare m (List.mem_cons_of_mem _ hm)) hcloser more'
    rw [templateFrom, hsection, hblock, Option.getD_some, Section.template]
    intro heq
    have hlines := joined_injective hkept hbody hne (by rw [htemplate]; simp) heq
    rw [htemplate, List.self_eq_append_right] at hlines
    exact absurd hlines (List.cons_ne_nil _ _)

end

end

/-! ### Where the search ends -/

section

variable {old t : Text} {c : Char} {ls rest : List Text}

theorem findText_append_cons (hc : c ∉ old) (hne : old ≠ []) (l t : Text) :
    findText old (l ++ c :: t) = ((findText old l).map (· ++ c :: t)).or (findText old t) := by
  induction l with
  | nil =>
    have hpre : ¬old <+: c :: t := by
      intro hpre
      obtain ⟨d, old, rfl⟩ := List.exists_cons_of_ne_nil hne
      exact hc ((List.cons_prefix_cons.mp hpre).1 ▸ List.mem_cons_self)
    rw [List.nil_append, findText, findText, if_neg hpre, if_neg hne, Option.map_none,
      Option.none_or]
  | cons d l ih =>
    rw [List.cons_append, findText, findText, ← List.cons_append]
    simp only [List.prefix_append_cons_iff hc]
    split
    · rw [Option.map_some, Option.some_or]
    · exact ih

theorem findText_isSome_iff (hne : old ≠ []) (t : Text) :
    (findText old t).isSome ↔ old <:+: t := by
  induction t with
  | nil => rw [findText, if_neg hne, List.infix_nil]; simp [hne]
  | cons c t ih =>
    rw [findText, List.infix_cons_iff, ← ih]
    split
    · next hpre => simp [hpre]
    · next hpre => simp [hpre]

theorem suffix_of_findText {start : Text} (h : findText old t = some start) : start <:+ t := by
  induction t with
  | nil =>
    rw [findText] at h
    split at h
    · cases h
      exact List.suffix_rfl
    · cases h
  | cons c t ih =>
    rw [findText] at h
    split at h
    · cases h
      exact List.suffix_rfl
    · exact (ih h).trans (List.suffix_cons c t)

/-- **The first line that has the text in it.** -/
theorem findText_joined (hb : '\n' ∉ old) (hne : old ≠ []) (hrest : rest ≠ [])
    (h : ∃ l ∈ ls, old <:+: l) :
    ∃ before l after start, ls = before ++ l :: after ∧ start <:+ l ∧
      findText old (joined (ls ++ rest)) = some (joined (start :: after ++ rest)) := by
  induction ls with
  | nil =>
    obtain ⟨l, hl, -⟩ := h
    cases hl
  | cons l ls ih =>
    have hcut : findText old (joined (l :: ls ++ rest)) =
        ((findText old l).map (· ++ '\n' :: joined (ls ++ rest))).or
          (findText old (joined (ls ++ rest))) := by
      rw [List.cons_append, joined_cons l (by simp [hrest]), findText_append_cons hb hne]
    cases hfind : findText old l with
    -- the text is found in this line
    | some start =>
      refine ⟨[], l, ls, start, rfl, suffix_of_findText hfind, ?_⟩
      rw [hcut, hfind, Option.map_some, Option.some_or, List.cons_append,
        joined_cons start (by simp [hrest])]
    -- it is found further down
    | none =>
      have hnot : ¬old <:+: l := by rw [← findText_isSome_iff hne, hfind]; simp
      obtain ⟨m, hm, hold⟩ := h
      have hm : m ∈ ls := by
        rcases List.mem_cons.mp hm with rfl | hm
        · exact absurd hold hnot
        · exact hm
      obtain ⟨before, k, after, start, rfl, hstart, hk⟩ := ih ⟨m, hm, hold⟩
      refine ⟨l :: before, k, after, start, rfl, hstart, ?_⟩
      rw [hcut, hfind, Option.map_none, Option.none_or, hk]

theorem findText_joined_append (hb : '\n' ∉ old) (hne : old ≠ []) (hrest : rest ≠ [])
    (h : ∀ l ∈ ls, ¬old <:+: l) :
    findText old (joined (ls ++ rest)) = findText old (joined rest) := by
  induction ls with
  | nil => rfl
  | cons l ls ih =>
    have hnone : findText old l = none := by
      rw [← Option.not_isSome_iff_eq_none, findText_isSome_iff hne]
      exact h l List.mem_cons_self
    rw [List.cons_append, joined_cons l (by simp [hrest]), findText_append_cons hb hne, hnone,
      Option.map_none, Option.none_or, ih fun m hm => h m (List.mem_cons_of_mem _ hm)]

theorem findText_joined_eq_none (hb : '\n' ∉ old) (hne : old ≠ []) (h : ∀ l ∈ ls, ¬old <:+: l) :
    findText old (joined ls) = none := by
  by_cases hnil : ls = []
  · rw [hnil, joined, List.intercalate_nil, findText, if_neg hne]
  · obtain ⟨init, l, rfl⟩ := (List.eq_nil_or_concat' ls).resolve_left hnil
    rw [findText_joined_append hb hne (List.cons_ne_nil _ _) fun m hm =>
      h m (List.mem_append_left _ hm), joined_singleton, ← Option.not_isSome_iff_eq_none,
      findText_isSome_iff hne]
    exact h l (List.mem_append_right _ List.mem_cons_self)

end

theorem spacesThen_space {p : Text → Bool} {t : Text} (h : p t = true) :
    spacesThen p (' ' :: t) = true := by
  rw [spacesThen, h]
  rfl

theorem digitsThen_append {p : Text → Bool} {ds t : Text} (hne : ds ≠ [])
    (hds : ∀ c ∈ ds, isDecimal c = true) (h : p t = true) : digitsThen p (ds ++ t) = true := by
  induction ds with
  | nil => exact absurd rfl hne
  | cons d ds ih =>
    rw [List.cons_append, digitsThen, hds d List.mem_cons_self, Bool.true_and]
    cases ds with
    | nil => rw [List.nil_append, h, Bool.true_or]
    | cons e ds =>
      rw [ih (List.cons_ne_nil _ _) fun c hc => hds c (List.mem_cons_of_mem _ hc), Bool.or_true]

theorem isDecimal_of_mem_toDigits {n : ℕ} {c : Char} (h : c ∈ Nat.toDigits 10 n) :
    isDecimal c = true := by
  have hdigit := Nat.isDigit_of_mem_toDigits (by omega) (by omega) h
  simp only [Char.isDigit, Bool.and_eq_true, decide_eq_true_eq] at hdigit
  have hlow : 0x30 ≤ c.toNat := UInt32.le_iff_toNat_le.mp hdigit.1
  have hhigh : c.toNat ≤ 0x39 := UInt32.le_iff_toNat_le.mp hdigit.2
  refine List.any_eq_true.mpr ⟨0x30, List.mem_cons_self, decide_eq_true ⟨hlow, ?_⟩⟩
  omega

namespace Section

variable (s : Section)

/-- The heading of a section is a numbered heading of its type. -/
theorem numberedHeading_heading (X : Text) :
    numberedHeading s.docType (s.heading ++ X) = some (s.heading ++ X) := by
  have hmarker : (s.docType ++ "（".toList) <+:
      s.docType ++ ("（".toList ++ (s.title ++ ("）".toList ++ X))) := by
    rw [← List.append_assoc]
    exact List.prefix_append _ _
  have hdot : ['.'] <+: '.' :: ' ' :: (s.docType ++ ("（".toList ++ (s.title ++
        ("）".toList ++ X)))) ∧
      spacesThen (fun t => (s.docType ++ "（".toList) <+: t)
        (' ' :: (s.docType ++ ("（".toList ++ (s.title ++ ("）".toList ++ X))))) = true :=
    ⟨⟨_, rfl⟩, spacesThen_space (decide_eq_true hmarker)⟩
  have hheading : s.heading ++ X = "##".toList ++ ' ' :: (Nat.toDigits 10 s.number ++
      '.' :: ' ' :: (s.docType ++ ("（".toList ++ (s.title ++ ("）".toList ++ X))))) := by
    simp [heading]
  rw [hheading, numberedHeading, if_pos]
  rw [Bool.and_eq_true, decide_eq_true_eq]
  refine ⟨List.prefix_append _ _, ?_⟩
  refine spacesThen_space (digitsThen_append Nat.toDigits_ne_nil
    (fun c hc => isDecimal_of_mem_toDigits hc) ?_)
  rw [Bool.and_eq_true, decide_eq_true_eq]
  exact hdot

theorem break_notMem_startMarker : '\n' ∉ startMarker s.docType := by
  unfold startMarker
  simp only [List.mem_append, not_or]
  exact ⟨⟨by decide, s.docType_line.break_notMem⟩, by decide⟩

end Section

theorem startMarker_ne_nil (docType : Text) : startMarker docType ≠ [] := List.cons_ne_nil _ _

theorem searchLines_joined {p : Text → Option Text} {ls rest : List Text} (hrest : rest ≠ [])
    (hls : ∀ l ∈ ls, '\n' ∉ l)
    (h : ∀ ls', ls' <:+ ls → ls' ≠ [] → p (joined (ls' ++ rest)) = none) :
    searchLines p true (joined (ls ++ rest)) = searchLines p true (joined rest) := by
  induction ls with
  | nil => rfl
  | cons l ls ih =>
    have hfirst := h (l :: ls) List.suffix_rfl (List.cons_ne_nil _ _)
    rw [List.cons_append, joined_cons l (by simp [hrest])] at hfirst ⊢
    rw [searchLines_append (hls l List.mem_cons_self), hfirst, Option.none_or]
    exact ih (fun m hm => hls m (List.mem_cons_of_mem _ hm)) fun ls' hls' =>
      h ls' (hls'.trans (List.suffix_cons l ls))

section

variable {earlier later : List Section} {s : Section}

/-- **Where the marker first stands before the block, the search ends there.** -/
theorem Lands.exists_start (h : Lands earlier s later) :
    ∃ before l prose start, s.headLines = before ++ l :: prose ∧ start <:+ l ∧
      findHeading (templatesFile (earlier ++ s :: later)) s.docType =
        some (joined (start :: prose ++ s.blockLines ++ later.flatMap Section.lines)) := by
  obtain ⟨hearlier, hhere⟩ := h
  have hb := s.break_notMem_startMarker
  have hne := startMarker_ne_nil s.docType
  have hfile : templatesFile (earlier ++ s :: later) = joined (earlier.flatMap Section.lines ++
      (s.headLines ++ (s.blockLines ++ later.flatMap Section.lines))) := by
    rw [templatesFile, List.flatMap_append, List.flatMap_cons, Section.lines, List.append_assoc]
  have hhead : s.headLines ++ (s.blockLines ++ later.flatMap Section.lines) ≠ [] := by
    simp [Section.headLines]
  rcases hhere with hhere | ⟨hnowhere, hnumbered⟩
  -- the marker stands in the heading or in the prose
  · have hrest : s.blockLines ++ later.flatMap Section.lines ≠ [] := by simp [Section.blockLines]
    obtain ⟨before, l, prose, start, hlines, hstart, hfind⟩ := findText_joined hb hne hrest hhere
    refine ⟨before, l, prose, start, hlines, hstart, ?_⟩
    rw [findHeading, hfile, findText_joined_append hb hne hhead hearlier, hfind, Option.some_or,
      List.append_assoc]
  -- the marker stands nowhere: the heading is the first that is numbered
  · refine ⟨[], s.heading, s.prose.map (·.text), s.heading, rfl, List.suffix_rfl, ?_⟩
    have hnone : findText (startMarker s.docType) (templatesFile (earlier ++ s :: later)) =
        none := by
      refine findText_joined_eq_none hb hne fun l hl => ?_
      rw [List.flatMap_append] at hl
      exact (List.mem_append.mp hl).elim (hearlier l) (hnowhere l)
    have hbreaks : ∀ l ∈ earlier.flatMap Section.lines, '\n' ∉ l := by
      intro l hl
      obtain ⟨s', -, hs'⟩ := List.mem_flatMap.mp hl
      exact (s'.isLine_of_mem hs').break_notMem
    have hlines : (s :: later).flatMap Section.lines = s.heading :: (s.prose.map (·.text) ++
        (s.blockLines ++ later.flatMap Section.lines)) := by
      rw [List.flatMap_cons, Section.lines, Section.headLines, List.append_assoc, List.cons_append]
    have hrest : s.prose.map (·.text) ++ (s.blockLines ++ later.flatMap Section.lines) ≠ [] := by
      simp [Section.blockLines]
    rw [findHeading, hnone, Option.none_or, templatesFile, List.flatMap_append,
      searchLines_joined (by rw [hlines]; exact List.cons_ne_nil _ _) hbreaks hnumbered, hlines,
      joined_cons _ hrest, searchLines_append s.isLine_heading.break_notMem,
      s.numberedHeading_heading, Option.some_or, List.append_assoc, List.cons_append,
      joined_cons _ hrest]

/-- Where the search ends in a section, the section is read from there. -/
theorem exists_landed (h : Lands earlier s later) (defaultTemplate : Text) :
    ∃ start prose, Landed s start prose (later.flatMap Section.lines) ∧
      extractTemplateSection defaultTemplate (templatesFile (earlier ++ s :: later)) s.docType =
        templateFrom (joined (start :: prose ++ s.blockLines ++ later.flatMap Section.lines)) := by
  obtain ⟨before, l, prose, start, hhead, hstart, hfind⟩ := h.exists_start
  refine ⟨start, prose, ⟨?_, ?_, fun m hm => ?_, fun m hm => ?_, fun m hm => ?_⟩, ?_⟩
  · refine (s.isLine_of_mem (List.mem_append_left _ ?_)).suffix hstart
    rw [hhead]
    exact List.mem_append_right _ List.mem_cons_self
  · obtain ⟨u, hu⟩ := exists_cons_of_findHeading hfind
    rw [List.append_assoc, List.cons_append, joined_cons _ (by simp [Section.blockLines])] at hu
    cases start with
    | nil => exact absurd (List.cons.inj hu).1 (by decide)
    | cons c start => exact ⟨start, by rw [(List.cons.inj hu).1]⟩
  · refine s.isLine_of_mem (List.mem_append_left _ ?_)
    rw [hhead]
    exact List.mem_append_right _ (List.mem_cons_of_mem _ hm)
  · refine (no_fence_of_mem_texts (?_ : _ ∈ s.prose.map (·.text))).2
    cases before with
    | nil =>
      rw [(List.cons.inj hhead).2]
      exact hm
    | cons d before =>
      rw [(List.cons.inj hhead).2]
      exact List.mem_append_right _ (List.mem_cons_of_mem _ hm)
  · obtain ⟨s', -, hs'⟩ := List.mem_flatMap.mp hm
    exact s'.isLine_of_mem hs'
  · rw [extractTemplateSection, hfind]

/-- **The whole template is taken out exactly when it has a line and no fenced block in
it**, where the marker of its type first stands before the block. -/
theorem extract_iff (earlier : List Section) (s : Section) (later : List Section)
    (defaultTemplate : Text) :
    (Lands earlier s later ∧ Unfenced s →
      extractTemplateSection defaultTemplate (templatesFile (earlier ++ s :: later)) s.docType =
        s.template) ∧
    (extractTemplateSection defaultTemplate (templatesFile (earlier ++ s :: later)) s.docType =
        s.template → Lands earlier s later → Unfenced s) := by
  refine ⟨fun ⟨hlands, hs⟩ => ?_, fun heq hlands => ?_⟩
  · obtain ⟨start, prose, h, hextract⟩ := exists_landed hlands defaultTemplate
    rw [hextract, templateFrom_unfenced h hs]
  · obtain ⟨start, prose, h, hextract⟩ := exists_landed hlands defaultTemplate
    rw [hextract] at heq
    refine ⟨fun hnil => templateFrom_empty h hnil heq, fun b hb => ?_⟩
    exact templateFrom_block h hb heq

end

/-- A section with a heading in its template, and a line behind its block. -/
def reviewSection : Section where
  number := 2
  docType := "review".toList
  title := "评审".toList
  docType_line := by decide
  title_line := by decide
  prose := [⟨⟨"适用场景".toList, by decide, by decide⟩, by decide⟩]
  body := [.line ⟨"# Review".toList, by decide, by decide⟩,
    .line ⟨"## Summary".toList, by decide, by decide⟩]
  tail := [⟨⟨"---".toList, by decide, by decide⟩, by decide⟩]

/-- A section whose template has a figure in it. -/
def figureSection : Section where
  number := 1
  docType := "design_doc".toList
  title := "设计文档".toList
  docType_line := by decide
  title_line := by decide +kernel
  prose := []
  body := [.line ⟨"# Design".toList, by decide, by decide⟩,
    .block ⟨"mermaid".toList, by decide, by decide, [⟨"graph TD".toList, by decide, by decide⟩]⟩,
    .line ⟨"## End".toList, by decide, by decide⟩]
  tail := []

/-- The template of the second section of a file, behind one with a figure. -/
theorem extract_iff_sample :
    extractTemplateSection [] (templatesFile ([figureSection] ++ reviewSection :: []))
      reviewSection.docType = "# Review\n## Summary".toList := by
  refine ((extract_iff [figureSection] reviewSection [] []).1 ⟨⟨?_, .inr ⟨?_, ?_⟩⟩, ?_, ?_⟩).trans
    (by decide)
  · decide +kernel
  · decide +kernel
  · intro ls hls
    rw [← List.mem_tails] at hls
    revert ls
    decide +kernel
  · exact List.cons_ne_nil _ _
  · intro b hb
    simp [reviewSection] at hb

/-- **The template ends with the figure**, before its last line. -/
theorem extract_counterexample : ¬∀ (earlier : List Section) (s : Section) (later : List Section)
    (defaultTemplate : Text),
    extractTemplateSection defaultTemplate (templatesFile (earlier ++ s :: later)) s.docType =
      s.template := by
  intro hall
  have h := hall [] figureSection [] []
  revert h
  decide +kernel

end Docs
end Shrimp
