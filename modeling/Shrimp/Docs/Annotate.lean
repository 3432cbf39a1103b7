import Mathlib.Data.List.Sort
import Mathlib.Data.List.TakeWhile
import Shrimp.Docs.FeishuPublisher

/-!
# Annotating mermaid fences (`doc_output/template_engine.py`)

`annotate_mermaid_blocks` writes a chart comment before every mermaid fence whose
diagram it recognises, unless one stands there.  The publisher reads the comments
back with a pattern of its own (`feishu_publisher.py`), which is stricter: fence and
closing must stand at the start of a line, and it goes through the text in its own
steps, so that a comment may fall into the block of an earlier one.

## Main definitions

* `classifyMermaidBody`, `existingAnnotation`, `annotateMermaidBlocks` — the
  annotator.
* `annotations` — the fences it annotates, with their places in the annotated text.
* `StaysOpen` — a text the publisher's pattern leaves in the middle of a block.
* `Agrees` — every annotated fence is extracted, with its code and body.

## Main results

* `chartsFrom_append` — where no block stays open, a comment is read on its own.
* `place_ne_of_staysOpen` — where one does, the comment behind it falls into it.
* `forall_extracted_iff` — the annotated fences along the pieces of a content.
* `agrees_iff` — **annotator and extractor agree exactly when no annotated fence is
  indented and no block stays open before one.**
-/

namespace Shrimp
namespace Docs

/-! ### The classifier -/

/-- `str.strip`. -/
def stripText (t : Text) : Text :=
  ((t.dropWhile isSpace).reverse.dropWhile isSpace).reverse

/-- `\\b` between two characters. -/
def wordBoundary (isWord : Char → Bool) (before after : Option Char) : Bool :=
  before.any isWord != after.any isWord

/-- `\\bsubgraph\\s+Phase`, behind a character. -/
def phaseSubgraphAt (isWord : Char → Bool) (before : Option Char) (t : Text) : Bool :=
  wordBoundary isWord before t.head? &&
    match afterPrefix "subgraph".toList t with
    | none => false
    | some rest => rest.head?.any isSpace && "Phase".toList.isPrefixOf (rest.dropWhile isSpace)

/-- `\\bsubgraph\\b`, behind a character. -/
def subgraphAt (isWord : Char → Bool) (before : Option Char) (t : Text) : Bool :=
  wordBoundary isWord before t.head? &&
    match afterPrefix "subgraph".toList t with
    | none => false
    | some rest => wordBoundary isWord (some 'h') rest.head?

/-- `re.search`, for a pattern that looks at the character before. -/
def search (p : Option Char → Text → Bool) : Option Char → Text → Bool
  | before, [] => p before []
  | before, c :: t => p before (c :: t) || search p (some c) t

/-- `_classify_mermaid_body`, for the word characters `isWord`. -/
def classifyMermaidBody (isWord : Char → Bool) (body : Text) : Option Text :=
  let head := body.dropWhile isSpace
  let firstLine := stripText (head.takeWhile (· ≠ '\n'))
  if "sequenceDiagram".toList.isPrefixOf firstLine then some "D-SEQ".toList
  else if "classDiagram".toList.isPrefixOf firstLine then some "D-CLASS".toList
  else if "erDiagram".toList.isPrefixOf firstLine then some "D-CLASS".toList
  else if "stateDiagram".toList.isPrefixOf firstLine then some "D-STATE".toList
  else if "mindmap".toList.isPrefixOf firstLine then some "D-MIND".toList
  else if "gantt".toList.isPrefixOf firstLine then some "D-GANTT".toList
  else if "flowchart".toList.isPrefixOf firstLine || "graph".toList.isPrefixOf firstLine then
    if search (phaseSubgraphAt isWord) none body then some "D-DAG".toList
    else if search (subgraphAt isWord) none body then some "D-ARCH".toList
    else some "D-DECISION".toList
  else none

/-- The letters of the codes of the classifier. -/
def chartLetters : List Text := [
  "SEQ".toList, "CLASS".toList, "STATE".toList, "MIND".toList, "GANTT".toList, "DAG".toList,
  "ARCH".toList, "DECISION".toList]

/-! ### The annotator -/

/-- `<!--\\s*chart:\\s*D-[A-Z]+\\s*-->\\s*\\Z`. -/
def annotationToEnd (t : Text) : Bool :=
  (do
    let t ← afterPrefix "<!--".toList t
    let t ← afterPrefix "chart:".toList (t.dropWhile isSpace)
    let t ← afterPrefix "D-".toList (t.dropWhile isSpace)
    let rest ← afterPrefix "-->".toList ((t.dropWhile isUpper).dropWhile isSpace)
    some (t.takeWhile isUpper ≠ [] ∧ rest.all isSpace : Bool)).getD false

/-- `_EXISTING_ANNOTATION_RE.search`. -/
def existingAnnotation (preceding : Text) : Bool := preceding.tails.any annotationToEnd

/-- The last 200 characters of the content before a match.  What stands before a match
begins with the line break the content is read behind. -/
def preceding (before : Text) : Text :=
  let start := before.drop 1
  start.drop (start.length - 200)

/-- The code a fence is annotated with, if it is. -/
def annotationOf (isWord : Char → Bool) (before : Text) (f : Fence) : Option Text :=
  match classifyMermaidBody isWord f.body with
  | none => none
  | some chartCode => if existingAnnotation (preceding before) then none else some chartCode

/-- The comment of a code, with its line break. -/
def annotationLine (chartCode : Text) : Text :=
  "<!-- chart: ".toList ++ chartCode ++ " -->\n".toList

/-- What replaces an annotated fence and the line break before it. -/
def annotatedFence (chartCode : Text) (f : Fence) : Text :=
  '\n' :: (f.indent ++ annotationLine chartCode ++ f.indent ++ opening ++ f.body ++
    '\n' :: (f.indent ++ "```".toList))

/-- `_replace`. -/
def replaceFence (isWord : Char → Bool) (before found : Text) (f : Fence) : Text :=
  match annotationOf isWord before f with
  | none => found
  | some chartCode => annotatedFence chartCode f

/-- `annotate_mermaid_blocks`. -/
def annotateMermaidBlocks (isWord : Char → Bool) (content : Text) : Text :=
  (mermaidFence.subWith (replaceFence isWord) ('\n' :: content)).drop 1

/-! ### What is annotated -/

/-- An annotated fence: its code, what stands before it since the annotated fence
before, with the line break at the end, and the place of its opening line in the
annotated text. -/
structure Annotation where
  chartCode : Text
  fence : Fence
  gap : Text
  place : ℕ

/-- The fences that are annotated among the pieces of a text, with the length of the
text annotated so far. -/
def annotationsFrom (isWord : Char → Bool) :
    ℕ → Text → Text → List (Piece Char Fence) → List Annotation
  | _, _, _, [] => []
  | i, before, gap, .symbol c :: ps =>
    annotationsFrom isWord (i + 1) (before ++ [c]) (gap ++ [c]) ps
  | i, before, gap, .found s f :: ps =>
    match annotationOf isWord before f with
    | none => annotationsFrom isWord (i + s.length) (before ++ s) (gap ++ s) ps
    | some chartCode =>
      ⟨chartCode, f, gap ++ ['\n'],
          i + f.indent.length + (annotationLine chartCode).length + f.indent.length⟩ ::
        annotationsFrom isWord (i + (annotatedFence chartCode f).length) (before ++ s) [] ps

/-- **The fences that are annotated**, in the order of the content. -/
def annotations (isWord : Char → Bool) (content : Text) : List Annotation :=
  annotationsFrom isWord 0 [] [] (mermaidFence.pieces ('\n' :: content))

/-- The chart an annotated fence is to be extracted as. -/
def Annotation.chart (a : Annotation) : AnnotatedChart := ⟨a.chartCode, a.fence.body, a.place⟩

/-- The charts of `extract_upgradable_charts`, with their places. -/
def upgradableCharts (markdown : Text) : List AnnotatedChart :=
  (annotatedCharts markdown).filter fun c => c.code ∈ upgradeChartCodes

theorem extractUpgradableCharts_eq (markdown : Text) :
    extractUpgradableCharts markdown =
      (upgradableCharts markdown).map fun c => (c.code, c.source) := by
  unfold extractUpgradableCharts extractAllAnnotatedCharts upgradableCharts
  rw [List.filter_map]
  rfl

/-- **Annotator and extractor agree**: every annotated fence is extracted with its own
place, code and body, in the order of the content, and is upgraded exactly when its
code is to be. -/
structure Agrees (isWord : Char → Bool) (content : Text) : Prop where
  extracted : ∀ a ∈ annotations isWord content,
    a.chart ∈ annotatedCharts (annotateMermaidBlocks isWord content)
  inOrder :
    ((annotations isWord content).map fun a => (a.chartCode, a.fence.body ++ ['\n'])).Sublist
      (extractAllAnnotatedCharts (annotateMermaidBlocks isWord content))
  upgraded : ∀ a ∈ annotations isWord content,
    a.chart ∈ upgradableCharts (annotateMermaidBlocks isWord content) ↔
      a.chartCode ∈ upgradeChartCodes

/-! ### Blocks that stay open -/

/-- A chart comment with the opening line of a fence right below it, and what stands
behind the opening. -/
def openBlockAt (t : Text) : Option (Text × Text) := do
  let (code, fence) ← chartComment t
  let inner ← afterPrefix opening fence
  some (code, inner)

/-- **The publisher's pattern, going through a text, comes to a chart comment with an
opening line below it whose block is not closed in the text.** -/
def StaysOpen (t : Text) : Prop := ∃ s ∈ chartBlock.unmatched t, (openBlockAt s).isSome

instance (t : Text) : Decidable (StaysOpen t) :=
  inferInstanceAs (Decidable (∃ s ∈ chartBlock.unmatched t, (openBlockAt s).isSome))

/-! ### Reading on behind a text -/

section

variable {c : Char} {X : Text}

theorem afterPrefix_append_cons {start : Text} (h : c ∉ start) (s X : Text) :
    afterPrefix start (s ++ c :: X) = (afterPrefix start s).map (· ++ c :: X) := by
  unfold afterPrefix
  by_cases hpre : start <+: s
  · rw [if_pos hpre, if_pos ((List.prefix_append_cons_iff h s X).mpr hpre),
      List.drop_append_of_le_length hpre.length_le]
    rfl
  · rw [if_neg hpre, if_neg (mt (List.prefix_append_cons_iff h s X).mp hpre)]
    rfl

/-- The comment before a comment is read as if the text ended there. -/
theorem chartComment_append (s X : Text) (hs : s ≠ []) :
    chartComment (s ++ '<' :: X) = (chartComment s).map fun m => (m.1, m.2 ++ '<' :: X) := by
  have hfirst : afterPrefix "<!--".toList (s ++ '<' :: X) =
      (afterPrefix "<!--".toList s).map (· ++ '<' :: X) := by
    cases s with
    | nil => exact absurd rfl hs
    | cons d s =>
      have htail : "!--".toList <+: s ++ '<' :: X ↔ "!--".toList <+: s :=
        List.prefix_append_cons_iff (by decide) s X
      have hcons : ∀ u, "<!--".toList <+: d :: u ↔ '<' = d ∧ "!--".toList <+: u :=
        fun u => List.cons_prefix_cons
      unfold afterPrefix
      by_cases hpre : "<!--".toList <+: d :: s
      · have hpre' : "<!--".toList <+: d :: s ++ '<' :: X := hpre.trans (List.prefix_append _ _)
        rw [if_pos hpre, if_pos hpre', List.drop_append_of_le_length hpre.length_le]
        rfl
      · have hpre' : ¬"<!--".toList <+: d :: s ++ '<' :: X := by
          rw [List.cons_append, hcons, htail, ← hcons]
          exact hpre
        rw [if_neg hpre, if_neg hpre']
        rfl
  simp only [chartComment, Option.bind_eq_bind, hfirst]
  cases afterPrefix "<!--".toList s with
  | none => rfl
  | some t₁ =>
    simp only [Option.map_some, Option.bind_some]
    rw [List.dropWhile_append_cons (by decide), afterPrefix_append_cons (by decide)]
    cases afterPrefix "chart:".toList (t₁.dropWhile isSpace) with
    | none => rfl
    | some t₂ =>
      simp only [Option.map_some, Option.bind_some]
      rw [List.dropWhile_append_cons (by decide), afterPrefix_append_cons (by decide)]
      cases afterPrefix "D-".toList (t₂.dropWhile isSpace) with
      | none => rfl
      | some t₃ =>
        simp only [Option.map_some, Option.bind_some]
        rw [List.takeWhile_append_cons (by decide), List.dropWhile_append_cons (by decide),
          List.dropWhile_append_cons (by decide), afterPrefix_append_cons (by decide)]
        cases afterPrefix "-->".toList ((t₃.dropWhile isUpper).dropWhile isSpace) with
        | none => rfl
        | some t₄ =>
          simp only [Option.map_some, Option.bind_some]
          rw [List.takeWhile_append_cons (by decide), List.dropWhile_append_cons (by decide)]
          split
          · rfl
          · rfl

theorem openBlockAt_append (s X : Text) (hs : s ≠ []) :
    openBlockAt (s ++ '<' :: X) = (openBlockAt s).map fun m => (m.1, m.2 ++ '<' :: X) := by
  simp only [openBlockAt, Option.bind_eq_bind, chartComment_append s X hs]
  cases chartComment s with
  | none => rfl
  | some m =>
    simp only [Option.map_some, Option.bind_some]
    rw [afterPrefix_append_cons (by decide)]
    cases afterPrefix opening m.2 with
    | none => rfl
    | some inner => rfl

end

/-- The closing of a block does not begin across a character it does not have. -/
theorem flush_append_cons {c : Char} (h : c ∉ "\n```".toList) (s X : Text) :
    flush (s ++ c :: X) = flush s := by
  unfold flush
  simp only [List.prefix_append_cons_iff h s X]

theorem upTo_flush_append_cons {c : Char} (h : c ∉ "\n```".toList) (s X : Text) :
    upTo flush (s ++ c :: X) =
      (upTo flush s).or ((upTo flush (c :: X)).map fun m => (s ++ m.1, m.2)) := by
  induction s with
  | nil =>
    have hnil : upTo flush [] = none := by decide
    rw [hnil, Option.none_or, List.nil_append]
    cases upTo flush (c :: X) with
    | none => rfl
    | some m => rfl
  | cons d s ih =>
    have hhead : flush (d :: (s ++ c :: X)) = flush (d :: s) := flush_append_cons h (d :: s) X
    rw [List.cons_append, upTo, hhead, upTo]
    cases flush (d :: s) with
    | some n => rfl
    | none =>
      simp only [ih]
      cases upTo flush s with
      | some m => rfl
      | none =>
        simp only [Option.map_none, Option.none_or, Option.map_map]
        rfl

/-! ### What the publisher finds before an annotated fence -/

theorem chartBlockAt_eq (t : Text) :
    chartBlockAt t = (openBlockAt t).bind fun m => (upTo flush m.2).map fun b =>
      let offset := t.length - (opening.length + m.2.length)
      (offset + opening.length + b.1.length + b.2, ⟨m.1, b.1, offset⟩) := by
  simp only [chartBlockAt, openBlockAt, Option.bind_eq_bind]
  cases chartComment t with
  | none => rfl
  | some m =>
    simp only [Option.bind_some]
    cases hinner : afterPrefix opening m.2 with
    | none => rfl
    | some inner =>
      simp only [Option.bind_some]
      rw [afterPrefix_eq_some_iff.mp hinner, List.length_append]
      cases upTo flush inner with
      | none => rfl
      | some b => rfl

/-- **Where the publisher finds a block, it finds it before a comment too.** -/
theorem chartBlockAt_append {s : Text} {n : ℕ} {b : ChartBlock} (h : chartBlockAt s = some (n, b))
    (X : Text) : chartBlockAt (s ++ '<' :: X) = some (n, b) := by
  have hs : s ≠ [] := by
    rintro rfl
    cases h
  rw [chartBlockAt_eq] at h ⊢
  obtain ⟨⟨code, inner⟩, hopen, h⟩ := Option.bind_eq_some_iff.mp h
  obtain ⟨⟨body, k⟩, hbody, h⟩ := Option.map_eq_some_iff.mp h
  rw [openBlockAt_append s X hs, hopen, ← h]
  simp only [Option.map_some, Option.bind_some]
  rw [upTo_flush_append_cons (by decide), hbody, Option.some_or, Option.map_some]
  have hlen : (s ++ '<' :: X).length - (opening.length + (inner ++ '<' :: X).length) =
      s.length - (opening.length + inner.length) := by
    rw [List.length_append, List.length_append]
    omega
  simp only [hlen]

/-- **Where no block is open, the publisher finds none before a comment.** -/
theorem chartBlockAt_append_eq_none {s : Text} (hs : s ≠ []) (h : openBlockAt s = none) (X : Text) :
    chartBlockAt (s ++ '<' :: X) = none := by
  rw [chartBlockAt_eq, openBlockAt_append s X hs, h]
  rfl

/-- **A block that is open takes the text behind it in**, up to the next closing. -/
theorem chartBlockAt_append_of_open {s : Text} (hs : s ≠ []) (hnone : chartBlockAt s = none)
    (hopen : (openBlockAt s).isSome) {X within : Text} {k : ℕ}
    (hX : upTo flush ('<' :: X) = some (within, k)) :
    ∃ b : ChartBlock, chartBlockAt (s ++ '<' :: X) = some (s.length + within.length + k, b) ∧
      b.offset < s.length := by
  obtain ⟨⟨code, inner⟩, hinner⟩ := Option.isSome_iff_exists.mp hopen
  have hunclosed : upTo flush inner = none := by
    rw [chartBlockAt_eq, hinner] at hnone
    exact Option.map_eq_none_iff.mp hnone
  have hlen : opening.length + inner.length ≤ s.length := by
    simp only [openBlockAt, Option.bind_eq_bind, Option.bind_eq_some_iff] at hinner
    obtain ⟨⟨code', fence⟩, hcomment, inner', hfence, heq⟩ := hinner
    cases heq
    obtain ⟨v, rfl, -⟩ := chartComment_eq_some hcomment
    have hfence' : fence = opening ++ inner := afterPrefix_eq_some_iff.mp hfence
    rw [hfence', List.length_append, List.length_append]
    omega
  have hopening : 0 < opening.length := by decide
  refine ⟨⟨code, inner ++ within, s.length - (opening.length + inner.length)⟩, ?_, ?_⟩
  · rw [chartBlockAt_eq, openBlockAt_append s X hs, hinner]
    simp only [Option.map_some, Option.bind_some]
    rw [upTo_flush_append_cons (by decide), hunclosed, Option.none_or, hX]
    simp only [Option.map_some, List.length_append, List.length_cons, Option.some.injEq,
      Prod.mk.injEq, ChartBlock.mk.injEq, true_and]
    omega
  · simp only
    omega

/-! ### An annotated fence at the start of a line -/

/-- The body of a fence has no closing in it, whatever stands behind its line break. -/
def Unclosed (body : Text) : Prop :=
  ∀ u, u <:+ body → u ≠ [] → ∀ X, flush (u ++ '\n' :: X) = none

/-- **The fences the annotator finds have such bodies.** -/
theorem unclosed_of_mermaidFenceAt {t : Text} {n : ℕ} {f : Fence}
    (h : mermaidFenceAt t = some (n, f)) : Unclosed f.body := by
  unfold mermaidFenceAt at h
  split at h
  · cases h
  · simp only at h
    split at h
    · cases h
    · next inner _ =>
      obtain ⟨⟨body, m⟩, hbody, hf⟩ := Option.map_eq_some_iff.mp h
      cases hf
      obtain ⟨rest, rfl, -⟩ := upTo_eq_some hbody
      intro u hu hne X
      have hnone := stop_eq_none_of_upTo hbody rfl hu hne
      cases u with
      | nil => exact absurd rfl hne
      | cons d u =>
        unfold flush
        refine if_neg fun hpre => ?_
        obtain ⟨rfl, hticks⟩ : '\n' = d ∧ "```".toList <+: u ++ '\n' :: X :=
          List.cons_prefix_cons.mp hpre
        have hin : "```".toList <+: u := (List.prefix_append_cons_iff (by decide) u X).mp hticks
        obtain ⟨more, rfl⟩ := hin
        -- the three backticks would close the fence
        have hclosing : closing ('\n' :: ("```".toList ++ more) ++ rest) = some 4 := rfl
        rw [hclosing] at hnone
        cases hnone

theorem upper_cut {letters : Text} (h : ∀ c ∈ letters, isUpper c = true) (t : Text) :
    (letters ++ ' ' :: t).takeWhile isUpper = letters ∧
      (letters ++ ' ' :: t).dropWhile isUpper = ' ' :: t := by
  refine ⟨?_, ?_⟩
  · rw [List.takeWhile_append_cons (by decide), List.takeWhile_eq_self_iff.mpr h]
  · rw [List.dropWhile_append_cons (by decide), List.dropWhile_eq_nil_iff.mpr h]
    rfl

theorem chartComment_annotation {letters : Text} (hne : letters ≠ [])
    (hupper : ∀ c ∈ letters, isUpper c = true) {c : Char} (hc : isSpace c = false) (more : Text) :
    chartComment (annotationLine ("D-".toList ++ letters) ++ c :: more) =
      some ("D-".toList ++ letters, c :: more) := by
  let t₄ : Text := '\n' :: c :: more
  let t₃ : Text := letters ++ ' ' :: ("-->".toList ++ t₄)
  let t₂ : Text := ' ' :: ("D-".toList ++ t₃)
  let t₁ : Text := ' ' :: ("chart:".toList ++ t₂)
  have htext : annotationLine ("D-".toList ++ letters) ++ c :: more = "<!--".toList ++ t₁ := by
    unfold annotationLine
    rw [List.append_assoc, List.append_assoc, List.append_assoc]
    rfl
  have hletters : t₃.takeWhile isUpper = letters ∧
      t₃.dropWhile isUpper = ' ' :: ("-->".toList ++ t₄) := upper_cut hupper _
  have hspace : t₄.takeWhile isSpace = ['\n'] ∧ t₄.dropWhile isSpace = c :: more := by
    have hbreak : isSpace '\n' = true := by decide
    change ('\n' :: c :: more).takeWhile isSpace = _ ∧ ('\n' :: c :: more).dropWhile isSpace = _
    rw [List.takeWhile_cons_of_pos hbreak, List.dropWhile_cons_of_pos hbreak,
      List.takeWhile_cons_of_neg (by simp [hc]), List.dropWhile_cons_of_neg (by simp [hc])]
    exact ⟨rfl, rfl⟩
  have h₁ : afterPrefix "<!--".toList ("<!--".toList ++ t₁) = some t₁ :=
    afterPrefix_eq_some_iff.mpr rfl
  have h₂ : afterPrefix "chart:".toList (t₁.dropWhile isSpace) = some t₂ :=
    afterPrefix_eq_some_iff.mpr rfl
  have h₃ : afterPrefix "D-".toList (t₂.dropWhile isSpace) = some t₃ :=
    afterPrefix_eq_some_iff.mpr rfl
  have h₄ : afterPrefix "-->".toList ((t₃.dropWhile isUpper).dropWhile isSpace) = some t₄ := by
    rw [hletters.2]
    exact afterPrefix_eq_some_iff.mpr rfl
  rw [htext]
  simp only [chartComment, Option.bind_eq_bind, h₁, h₂, h₃, h₄, hletters.1, hspace.1, hspace.2,
    Option.bind_some]
  exact if_pos ⟨hne, rfl⟩

/-- **A fence right below its comment is extracted as it is.** -/
theorem chartBlockAt_annotation {letters body : Text} (hne : letters ≠ [])
    (hupper : ∀ c ∈ letters, isUpper c = true) (hbody : Unclosed body) (rest : Text) :
    chartBlockAt (annotationLine ("D-".toList ++ letters) ++ (opening ++ (body ++
        '\n' :: ("```".toList ++ rest)))) =
      some ((annotationLine ("D-".toList ++ letters)).length + opening.length + body.length + 4,
        ⟨"D-".toList ++ letters, body, (annotationLine ("D-".toList ++ letters)).length⟩) := by
  have hcomment := chartComment_annotation hne hupper (c := '`') (by decide)
    ("``mermaid\n".toList ++ (body ++ '\n' :: ("```".toList ++ rest)))
  have hinner : afterPrefix opening (opening ++ (body ++ '\n' :: ("```".toList ++ rest))) =
      some (body ++ '\n' :: ("```".toList ++ rest)) := afterPrefix_eq_some_iff.mpr rfl
  have hflush : upTo flush (body ++ '\n' :: ("```".toList ++ rest)) = some (body, 4) :=
    upTo_append (fun u hu hu' => hbody u hu hu' _) (if_pos (List.prefix_append _ rest))
  change chartComment (_ ++ (opening ++ _)) = some (_, opening ++ _) at hcomment
  simp only [chartBlockAt, Option.bind_eq_bind, hcomment, Option.bind_some, hinner, hflush]
  rw [List.length_append, Nat.add_sub_cancel]

/-- Up to its fence, the annotator's comment has no closing. -/
theorem upTo_flush_annotation {letters : Text} (hupper : ∀ c ∈ letters, isUpper c = true)
    (rest : Text) :
    upTo flush (annotationLine ("D-".toList ++ letters) ++ (opening ++ rest)) =
      some ("<!-- chart: ".toList ++ ("D-".toList ++ letters) ++ " -->".toList, 4) := by
  have htext : annotationLine ("D-".toList ++ letters) ++ (opening ++ rest) =
      ("<!-- chart: ".toList ++ ("D-".toList ++ letters) ++ " -->".toList) ++
        '\n' :: (opening ++ rest) := by
    unfold annotationLine
    simp only [List.append_assoc]
    rfl
  have hnobreak : '\n' ∉ "<!-- chart: ".toList ++ ("D-".toList ++ letters) ++ " -->".toList := by
    intro hmem
    rcases List.mem_append.mp hmem with hmem | hmem
    · rcases List.mem_append.mp hmem with hmem | hmem
      · exact absurd hmem (by decide)
      · rcases List.mem_append.mp hmem with hmem | hmem
        · exact absurd hmem (by decide)
        · exact absurd (hupper _ hmem) (by decide)
    · exact absurd hmem (by decide)
  rw [htext]
  refine upTo_append (fun u hu hne => ?_) (if_pos ?_)
  · cases u with
    | nil => exact absurd rfl hne
    | cons d u =>
      refine if_neg fun hpre => ?_
      obtain ⟨rfl, -⟩ : '\n' = d ∧ "```".toList <+: u ++ '\n' :: (opening ++ rest) :=
        List.cons_prefix_cons.mp hpre
      exact hnobreak (hu.subset List.mem_cons_self)
  · exact List.prefix_append "\n```".toList ("mermaid\n".toList ++ rest)

/-! ### The charts of a text that begins elsewhere -/

/-- The annotated fences of a text that begins at a place. -/
def chartsFrom (k : ℕ) (t : Text) : List AnnotatedChart :=
  (Pattern.finditerFrom k (chartBlock.pieces t)).map fun m =>
    ⟨m.2.2.code, m.2.2.body, m.1 + m.2.2.offset⟩

theorem chartsFrom_of_eq_none {k : ℕ} {c : Char} {t : Text} (h : chartBlockAt (c :: t) = none) :
    chartsFrom k (c :: t) = chartsFrom (k + 1) t := by
  unfold chartsFrom
  rw [Pattern.pieces_of_eq_none h, Pattern.finditerFrom]

theorem chartsFrom_of_eq_some {k n : ℕ} {t : Text} {b : ChartBlock}
    (h : chartBlockAt t = some (n, b)) :
    chartsFrom k t = ⟨b.code, b.body, k + b.offset⟩ :: chartsFrom (k + n) (t.drop n) := by
  have hle : n ≤ t.length := chartBlock.le h
  unfold chartsFrom
  rw [Pattern.pieces_of_eq_some h, Pattern.finditerFrom, List.map_cons, List.length_take,
    Nat.min_eq_left hle]

theorem chartsFrom_add (k i : ℕ) (t : Text) :
    chartsFrom (k + i) t = (chartsFrom i t).map fun c => { c with place := k + c.place } := by
  unfold chartsFrom
  rw [Pattern.finditerFrom_add, List.map_map, List.map_map]
  refine List.map_congr_left fun m _ => ?_
  simp only [Function.comp_apply, Nat.add_assoc]

theorem exists_break_of_chartComment {t code fence : Text}
    (h : chartComment t = some (code, fence)) : ∃ before, t = before ++ '\n' :: fence := by
  obtain ⟨v, rfl, -, hlast⟩ := chartComment_eq_some h
  obtain ⟨before, hbefore⟩ := List.getLast?_eq_some_iff.mp hlast
  exact ⟨before, by rw [hbefore, List.append_assoc, List.singleton_append]⟩

/-- **A chart lies within its text**, and the opening line of its fence begins behind
a line break. -/
theorem place_of_mem_chartsFrom {k : ℕ} {t : Text} {c : AnnotatedChart} (h : c ∈ chartsFrom k t) :
    k < c.place ∧ c.place < k + t.length ∧
      ∃ before rest, t = before ++ '\n' :: rest ∧ c.place = k + before.length + 1 := by
  obtain ⟨⟨i, s, b⟩, hm, rfl⟩ := List.mem_map.mp h
  obtain ⟨u, v, rfl, hi, hfind⟩ := Pattern.mem_finditerFrom hm
  have hblock : chartBlockAt (s ++ v) = some (s.length, b) := hfind
  obtain ⟨comment, rest, hne, -, hoffset, hlen⟩ := chartBlockAt_eq_some hblock
  have hpos : 0 < comment.length := List.length_pos_iff.mpr hne
  simp only [chartBlockAt, Option.bind_eq_bind, Option.bind_eq_some_iff] at hblock
  obtain ⟨⟨code, fence⟩, hcomment, inner, -, ⟨body, m⟩, -, heq⟩ := hblock
  obtain ⟨before, hbefore⟩ := exists_break_of_chartComment hcomment
  have hb : (s ++ v).length - fence.length = b.offset :=
    congrArg ChartBlock.offset (Prod.mk.inj (Option.some.inj heq)).2
  rw [hbefore, List.length_append, List.length_cons] at hb
  simp only at hi hlen ⊢
  refine ⟨by omega, ?_, u ++ before, fence, ?_, ?_⟩
  · simp only [List.length_append]
    omega
  · rw [hbefore, List.append_assoc]
  · rw [List.length_append]
    omega

/-- **Where no block stays open**, the charts of a text are found before a comment too. -/
theorem chartsFrom_append {s : Text} (h : ¬StaysOpen s) (k : ℕ) (X : Text) :
    chartsFrom k (s ++ '<' :: X) = chartsFrom k s ++ chartsFrom (k + s.length) ('<' :: X) := by
  unfold chartsFrom
  rw [Pattern.finditerFrom_append, List.map_append]
  · intro u n b _ hfind
    exact chartBlockAt_append hfind X
  · intro u hu
    refine chartBlockAt_append_eq_none (Pattern.ne_nil_of_mem_unmatched hu) ?_ X
    by_contra hopen
    exact h ⟨u, hu, Option.isSome_iff_ne_none.mpr hopen⟩

/-- **Where a block stays open, the comment behind it falls into the block**: no chart
has its place. -/
theorem place_ne_of_staysOpen {s X within : Text} (h : StaysOpen s)
    (hX : upTo flush ('<' :: X) = some (within, 4)) {k : ℕ} {c : AnnotatedChart}
    (hc : c ∈ chartsFrom k (s ++ '<' :: X)) : c.place ≠ k + s.length + within.length + 1 := by
  induction s using chartBlock.induction generalizing k with
  | nil =>
    obtain ⟨u, hu, -⟩ := h
    cases hu
  | symbol a s hfind ih =>
    have hne : a :: s ≠ [] := List.cons_ne_nil _ _
    cases hopen : openBlockAt (a :: s) with
    | none =>
      have hstays : StaysOpen s := by
        obtain ⟨u, hu, hsome⟩ := h
        rw [Pattern.unmatched_of_eq_none hfind] at hu
        rcases List.mem_cons.mp hu with rfl | hu
        · rw [hopen] at hsome
          cases hsome
        · exact ⟨u, hu, hsome⟩
      have hhead : chartBlockAt (a :: (s ++ '<' :: X)) = none :=
        chartBlockAt_append_eq_none hne hopen X
      rw [List.cons_append, chartsFrom_of_eq_none hhead] at hc
      have hplace := ih hstays hc
      rw [List.length_cons]
      omega
    | some m =>
      -- the block that is open here ends in the fence below the comment
      obtain ⟨b, hblock, hoffset⟩ := chartBlockAt_append_of_open hne hfind
        (Option.isSome_iff_exists.mpr ⟨m, hopen⟩) hX
      rw [chartsFrom_of_eq_some hblock] at hc
      rcases List.mem_cons.mp hc with rfl | hc
      · simp only
        omega
      · have hplace := (place_of_mem_chartsFrom hc).1
        omega
  | found s n b hfind ih =>
    have hstays : StaysOpen (s.drop n) := by
      obtain ⟨u, hu, hsome⟩ := h
      rw [Pattern.unmatched_of_eq_some hfind] at hu
      exact ⟨u, hu, hsome⟩
    have hle : n ≤ s.length := chartBlock.le hfind
    have hblock : chartBlockAt (s ++ '<' :: X) = some (n, b) := chartBlockAt_append hfind X
    obtain ⟨comment, rest, -, -, hoffset, hlen⟩ := chartBlockAt_eq_some hfind
    rw [chartsFrom_of_eq_some hblock, List.drop_append_of_le_length hle] at hc
    rcases List.mem_cons.mp hc with rfl | hc
    · simp only
      omega
    · have hplace := ih hstays hc
      rw [List.length_drop] at hplace
      omega

/-! ### Annotated fences one after another -/

/-- A chart code: `D-` and upper-case letters. -/
def IsChartCode (chartCode : Text) : Prop :=
  ∃ letters, chartCode = "D-".toList ++ letters ∧ letters ≠ [] ∧ ∀ c ∈ letters, isUpper c = true

/-- **The codes the classifier answers with.** -/
theorem exists_letters_of_classify {isWord : Char → Bool} {body chartCode : Text}
    (h : classifyMermaidBody isWord body = some chartCode) :
    ∃ letters ∈ chartLetters, chartCode = "D-".toList ++ letters := by
  unfold classifyMermaidBody at h
  simp only at h
  split at h
  · cases h
    exact ⟨"SEQ".toList, by decide, rfl⟩
  split at h
  · cases h
    exact ⟨"CLASS".toList, by decide, rfl⟩
  split at h
  · cases h
    exact ⟨"CLASS".toList, by decide, rfl⟩
  split at h
  · cases h
    exact ⟨"STATE".toList, by decide, rfl⟩
  split at h
  · cases h
    exact ⟨"MIND".toList, by decide, rfl⟩
  split at h
  · cases h
    exact ⟨"GANTT".toList, by decide, rfl⟩
  split at h
  · split at h
    · cases h
      exact ⟨"DAG".toList, by decide, rfl⟩
    split at h
    · cases h
      exact ⟨"ARCH".toList, by decide, rfl⟩
    · cases h
      exact ⟨"DECISION".toList, by decide, rfl⟩
  · cases h

theorem isChartCode_of_classify {isWord : Char → Bool} {body chartCode : Text}
    (h : classifyMermaidBody isWord body = some chartCode) : IsChartCode chartCode := by
  obtain ⟨letters, hin, rfl⟩ := exists_letters_of_classify h
  have hall : ∀ letters ∈ chartLetters, letters ≠ [] ∧ letters.all isUpper = true := by decide
  exact ⟨letters, rfl, (hall letters hin).1, List.all_eq_true.mp (hall letters hin).2⟩

theorem classify_of_annotationOf {isWord : Char → Bool} {before chartCode : Text} {f : Fence}
    (h : annotationOf isWord before f = some chartCode) :
    classifyMermaidBody isWord f.body = some chartCode := by
  unfold annotationOf at h
  split at h
  · cases h
  · next code hclassify =>
    split at h
    · cases h
    · rw [hclassify, Option.some.inj h]

theorem isChartCode_of_annotationOf {isWord : Char → Bool} {before chartCode : Text} {f : Fence}
    (h : annotationOf isWord before f = some chartCode) : IsChartCode chartCode :=
  isChartCode_of_classify (classify_of_annotationOf h)

/-- An annotated fence lies behind the text annotated before. -/
theorem lt_place_of_mem_annotationsFrom {isWord : Char → Bool} {i : ℕ} {before gap : Text}
    {ps : List (Piece Char Fence)} {a : Annotation}
    (h : a ∈ annotationsFrom isWord i before gap ps) : i < a.place := by
  induction ps generalizing i before gap with
  | nil => cases h
  | cons piece ps ih =>
    cases piece with
    | symbol c =>
      have hlt := ih (i := i + 1) h
      omega
    | found s f =>
      rw [annotationsFrom] at h
      split at h
      · have hlt := ih h
        omega
      · next chartCode _ =>
        have hpos : 0 < (annotationLine chartCode).length := Nat.succ_pos _
        rcases List.mem_cons.mp h with rfl | h
        · simp only
          omega
        · have hlt := ih h
          omega

/-- The text an annotated fence at the start of a line is written as. -/
theorem annotatedFence_of_flush {chartCode : Text} {f : Fence} (h : f.indent = []) (rest : Text) :
    annotatedFence chartCode f ++ rest =
      '\n' :: (annotationLine chartCode ++ (opening ++ (f.body ++
        '\n' :: ("```".toList ++ rest)))) := by
  unfold annotatedFence
  rw [h]
  simp only [List.nil_append, List.append_nil, List.append_assoc, List.cons_append]

/-- **An indented fence is not extracted**: no chart has its place. -/
theorem notMem_chartsFrom_of_indent {chartCode : Text} {f : Fence} (h : f.indent ≠ [])
    (hblank : ∀ c ∈ f.indent, isBlank c = true) {j : ℕ} {g rest : Text} {c : AnnotatedChart}
    (hc : c ∈ chartsFrom j (g ++ (annotatedFence chartCode f ++ rest))) :
    c.place ≠ j + g.length + f.indent.length + (annotationLine chartCode).length +
      f.indent.length + 1 := by
  intro hplace
  obtain ⟨-, -, before, after, htext, hbefore⟩ := place_of_mem_chartsFrom hc
  obtain ⟨indent, blank, hindent⟩ := (List.eq_nil_or_concat' f.indent).resolve_left h
  -- the character before the opening line is the last of the indentation
  have hcut : g ++ (annotatedFence chartCode f ++ rest) =
      (g ++ '\n' :: (f.indent ++ annotationLine chartCode ++ indent)) ++
        blank :: (opening ++ f.body ++ '\n' :: (f.indent ++ "```".toList) ++ rest) := by
    unfold annotatedFence
    rw [hindent]
    simp only [List.append_assoc, List.cons_append, List.nil_append]
  rw [hcut] at htext
  have hlen : (g ++ '\n' :: (f.indent ++ annotationLine chartCode ++ indent)).length =
      before.length := by
    have hsplit := congrArg List.length hindent
    simp only [List.length_append, List.length_cons, List.length_nil] at hsplit ⊢
    omega
  have hblank' := hblank blank (by rw [hindent]; simp)
  rw [(List.cons.inj (List.append_inj htext hlen).2).1] at hblank'
  exact absurd hblank' (by decide)

/-- A fence the annotator has found: blanks before it, and no closing in its body. -/
def FoundFence (f : Fence) : Prop :=
  (∀ c ∈ f.indent, isBlank c = true) ∧ Unclosed f.body

/-- **The charts of a text with an annotated fence** in it that is not indented, where
no block stays open before it. -/
theorem chartsFrom_annotatedFence {chartCode : Text} (hcode : IsChartCode chartCode) {f : Fence}
    (hindent : f.indent = []) (hbody : Unclosed f.body) {g : Text}
    (hopen : ¬StaysOpen (g ++ ['\n'])) (j : ℕ) (rest : Text) :
    chartsFrom j (g ++ (annotatedFence chartCode f ++ rest)) =
      chartsFrom j (g ++ ['\n']) ++
        ⟨chartCode, f.body, j + g.length + (annotationLine chartCode).length + 1⟩ ::
          chartsFrom (j + g.length + (annotatedFence chartCode f).length) rest := by
  let X : Text := "!-- chart: ".toList ++ chartCode ++ " -->\n".toList ++
    (opening ++ (f.body ++ '\n' :: ("```".toList ++ rest)))
  have hX : '<' :: X = annotationLine chartCode ++ (opening ++ (f.body ++
      '\n' :: ("```".toList ++ rest))) := rfl
  have htext : g ++ (annotatedFence chartCode f ++ rest) = (g ++ ['\n']) ++ '<' :: X := by
    rw [annotatedFence_of_flush hindent, hX, List.append_assoc, List.singleton_append]
  have hblock : chartBlockAt ('<' :: X) =
      some ((annotationLine chartCode).length + opening.length + f.body.length + 4,
        ⟨chartCode, f.body, (annotationLine chartCode).length⟩) := by
    obtain ⟨letters, rfl, hne, hupper⟩ := hcode
    exact chartBlockAt_annotation hne hupper hbody rest
  have hlen : (annotatedFence chartCode f).length =
      1 + ((annotationLine chartCode).length + opening.length + f.body.length + 4) := by
    unfold annotatedFence
    rw [hindent]
    simp only [List.length_cons, List.length_append, List.length_nil, List.nil_append]
    have hthree : "```".toList.length = 3 := rfl
    omega
  have hdrop : ('<' :: X).drop
      ((annotationLine chartCode).length + opening.length + f.body.length + 4) = rest := by
    have hparts : '<' :: X = (annotationLine chartCode ++ opening ++ f.body ++
        '\n' :: "```".toList) ++ rest := by
      rw [hX]
      simp only [List.append_assoc, List.cons_append]
    have hthree : "```".toList.length = 3 := rfl
    rw [hparts]
    refine List.drop_left' ?_
    simp only [List.length_append, List.length_cons]
    omega
  rw [htext, chartsFrom_append hopen, chartsFrom_of_eq_some hblock, hdrop, List.length_append,
    List.length_singleton]
  congr 3
  · simp only
    omega
  · omega

/-- **A fence in front of which a block stays open is not extracted.** -/
theorem notMem_chartsFrom_of_staysOpen {chartCode : Text} (hcode : IsChartCode chartCode)
    {f : Fence} (hindent : f.indent = []) {g : Text} (hopen : StaysOpen (g ++ ['\n'])) {j : ℕ}
    {rest : Text} {c : AnnotatedChart}
    (hc : c ∈ chartsFrom j (g ++ (annotatedFence chartCode f ++ rest))) :
    c.place ≠ j + g.length + (annotationLine chartCode).length + 1 := by
  obtain ⟨letters, rfl, -, hupper⟩ := hcode
  have hwithin := upTo_flush_annotation hupper (f.body ++ '\n' :: ("```".toList ++ rest))
  have htext : g ++ (annotatedFence ("D-".toList ++ letters) f ++ rest) =
      (g ++ ['\n']) ++ (annotationLine ("D-".toList ++ letters) ++ (opening ++ (f.body ++
        '\n' :: ("```".toList ++ rest)))) := by
    rw [annotatedFence_of_flush hindent, List.append_assoc, List.singleton_append]
  rw [htext] at hc
  have hplace := place_ne_of_staysOpen hopen hwithin hc
  have hlen : (annotationLine ("D-".toList ++ letters)).length =
      ("<!-- chart: ".toList ++ ("D-".toList ++ letters) ++ " -->".toList).length + 1 := by
    unfold annotationLine
    simp only [List.length_append]
    rfl
  rw [List.length_append, List.length_singleton] at hplace
  omega

/-- **The annotated fences are extracted exactly when none of them is indented and no
block stays open before one.**  Along the pieces of the content, the publisher stands
at the end of the fence annotated last. -/
theorem forall_extracted_iff (isWord : Char → Bool) {ps : List (Piece Char Fence)}
    (hfound : ∀ s f, Piece.found s f ∈ ps → FoundFence f) (j : ℕ) (before g : Text) :
    (∀ a ∈ annotationsFrom isWord (j + g.length) before g ps,
        { a.chart with place := a.place + 1 } ∈
          chartsFrom j (g ++ Pattern.renderFrom (replaceFence isWord) before ps)) ↔
      ∀ a ∈ annotationsFrom isWord (j + g.length) before g ps,
        a.fence.indent = [] ∧ ¬StaysOpen a.gap := by
  induction ps generalizing j before g with
  | nil =>
    refine iff_of_true ?_ ?_
    · intro a ha
      cases ha
    · intro a ha
      cases ha
  | cons piece ps ih =>
    have hfound' : ∀ s f, Piece.found s f ∈ ps → FoundFence f := fun s f h =>
      hfound s f (List.mem_cons_of_mem _ h)
    cases piece with
    | symbol c =>
      have hih := ih hfound' j (before ++ [c]) (g ++ [c])
      rw [List.length_append, List.append_assoc, List.singleton_append] at hih
      exact hih
    | found s f =>
      obtain ⟨hblank, hbody⟩ := hfound s f List.mem_cons_self
      rw [annotationsFrom, Pattern.renderFrom, replaceFence]
      cases hcode : annotationOf isWord before f with
      | none =>
        have hih := ih hfound' j (before ++ s) (g ++ s)
        rw [List.length_append, List.append_assoc, ← Nat.add_assoc] at hih
        exact hih
      | some chartCode =>
        simp only [List.forall_mem_cons]
        have hchart := isChartCode_of_annotationOf hcode
        by_cases hindent : f.indent = []
        · have hplace : j + g.length + f.indent.length + (annotationLine chartCode).length +
              f.indent.length = j + g.length + (annotationLine chartCode).length := by
            rw [hindent]
            rfl
          rw [hplace]
          by_cases hopen : StaysOpen (g ++ ['\n'])
          · refine iff_of_false (fun hall => ?_) fun hall => hall.1.2 hopen
            exact notMem_chartsFrom_of_staysOpen hchart hindent hopen hall.1 rfl
          · have hih := ih hfound' (j + g.length + (annotatedFence chartCode f).length)
              (before ++ s) []
            rw [List.length_nil, Nat.add_zero, List.nil_append] at hih
            rw [chartsFrom_annotatedFence hchart hindent hbody hopen, ← hih]
            refine ⟨fun hall => ⟨⟨hindent, hopen⟩, fun a ha => ?_⟩,
              fun hall => ⟨?_, fun a ha => ?_⟩⟩
            · -- the charts up to this fence have smaller places
              have hlt := lt_place_of_mem_annotationsFrom ha
              have hfence : (annotationLine chartCode).length <
                  (annotatedFence chartCode f).length := by
                unfold annotatedFence
                simp only [List.length_cons, List.length_append]
                omega
              rcases List.mem_append.mp (hall.2 a ha) with hmem | hmem
              · have hplace' := (place_of_mem_chartsFrom hmem).2.1
                rw [List.length_append, List.length_singleton] at hplace'
                simp only at hplace'
                omega
              · rcases List.mem_cons.mp hmem with heq | hmem
                · have hplace' := congrArg AnnotatedChart.place heq
                  simp only at hplace'
                  omega
                · exact hmem
            · exact List.mem_append_right _ List.mem_cons_self
            · exact List.mem_append_right _ (List.mem_cons_of_mem _ (hall.2 a ha))
        · refine iff_of_false (fun hall => ?_) fun hall => hindent hall.1.1
          exact notMem_chartsFrom_of_indent hindent hblank hall.1 rfl

/-! ### Agreement -/

theorem foundFence_of_mem_pieces {t s : Text} {f : Fence}
    (h : .found s f ∈ mermaidFence.pieces t) : FoundFence f := by
  obtain ⟨u, n, hfind⟩ := Pattern.exists_find_of_mem_pieces h
  refine ⟨?_, unclosed_of_mermaidFenceAt hfind⟩
  have hfence : mermaidFenceAt u = some (n, f) := hfind
  unfold mermaidFenceAt at hfence
  split at hfence
  · cases hfence
  · simp only at hfence
    split at hfence
    · cases hfence
    · obtain ⟨m, -, heq⟩ := Option.map_eq_some_iff.mp hfence
      cases heq
      exact fun c hc => List.mem_takeWhile_imp hc

/-- The annotated text still begins with the line break it is read behind. -/
theorem cons_annotateMermaidBlocks (isWord : Char → Bool) (content : Text) :
    mermaidFence.subWith (replaceFence isWord) ('\n' :: content) =
      '\n' :: annotateMermaidBlocks isWord content := by
  unfold annotateMermaidBlocks Pattern.subWith
  cases hfind : mermaidFence.find ('\n' :: content) with
  | none =>
    rw [Pattern.pieces_of_eq_none hfind]
    rfl
  | some m =>
    obtain ⟨n, f⟩ := m
    obtain ⟨k, rfl⟩ := Nat.exists_eq_succ_of_ne_zero (mermaidFence.pos hfind).ne'
    rw [Pattern.pieces_of_eq_some hfind, Pattern.renderFrom, replaceFence]
    cases annotationOf isWord [] f with
    | none => rfl
    | some chartCode => rfl

theorem mem_annotatedCharts_iff (c : AnnotatedChart) (t : Text) :
    c ∈ annotatedCharts t ↔ { c with place := c.place + 1 } ∈ chartsFrom 0 ('\n' :: t) := by
  have hhead : chartBlockAt ('\n' :: t) = none := rfl
  have hshift : chartsFrom 0 ('\n' :: t) =
      (annotatedCharts t).map fun c => { c with place := 1 + c.place } := by
    rw [chartsFrom_of_eq_none hhead, chartsFrom_add 1 0]
    rfl
  rw [hshift, List.mem_map]
  constructor
  · intro hc
    exact ⟨c, hc, by rw [Nat.add_comm]⟩
  · rintro ⟨d, hd, heq⟩
    obtain ⟨hcode, hbody, hplace⟩ := AnnotatedChart.mk.inj heq
    have hdc : d = c := by
      cases d
      cases c
      simp only at hcode hbody hplace
      rw [hcode, hbody]
      congr 1
      omega
    exact hdc ▸ hd

/-- **All annotated fences are extracted** exactly when none of them is indented and no
block stays open before one. -/
theorem extracted_iff (isWord : Char → Bool) (content : Text) :
    (∀ a ∈ annotations isWord content,
        a.chart ∈ annotatedCharts (annotateMermaidBlocks isWord content)) ↔
      ∀ a ∈ annotations isWord content, a.fence.indent = [] ∧ ¬StaysOpen a.gap := by
  have hiff := forall_extracted_iff isWord
    (fun s f (h : Piece.found s f ∈ mermaidFence.pieces ('\n' :: content)) =>
      foundFence_of_mem_pieces h) 0 [] []
  have htext : [] ++ Pattern.renderFrom (replaceFence isWord) []
      (mermaidFence.pieces ('\n' :: content)) = '\n' :: annotateMermaidBlocks isWord content :=
    cons_annotateMermaidBlocks isWord content
  rw [htext] at hiff
  refine Iff.trans ?_ hiff
  refine forall₂_congr fun a _ => ?_
  rw [mem_annotatedCharts_iff]
  rfl

theorem pairwise_annotationsFrom {isWord : Char → Bool} {i : ℕ} {before gap : Text}
    {ps : List (Piece Char Fence)} :
    (annotationsFrom isWord i before gap ps).Pairwise fun a a' => a.place < a'.place := by
  induction ps generalizing i before gap with
  | nil => exact List.Pairwise.nil
  | cons piece ps ih =>
    cases piece with
    | symbol c => exact ih
    | found s f =>
      rw [annotationsFrom]
      split
      · exact ih
      · refine List.Pairwise.cons (fun a ha => ?_) ih
        have hlt := lt_place_of_mem_annotationsFrom ha
        unfold annotatedFence at hlt
        simp only [List.length_cons, List.length_append] at hlt ⊢
        omega

/-- Charts in order, all of them charts of a text, are charts of it in its order. -/
theorem sublist_annotatedCharts {cs : List AnnotatedChart} {t : Text}
    (hcs : cs.Pairwise fun c c' => c.place < c'.place) (h : ∀ c ∈ cs, c ∈ annotatedCharts t) :
    cs.Sublist (annotatedCharts t) := by
  have hantisymm : Std.Antisymm fun c c' : AnnotatedChart => c.place < c'.place :=
    ⟨fun _ _ hlt hlt' => absurd hlt (Nat.lt_asymm hlt')⟩
  have hirrefl : Std.Irrefl fun c c' : AnnotatedChart => c.place < c'.place :=
    ⟨fun _ => Nat.lt_irrefl _⟩
  exact List.sublist_of_subperm_of_pairwise (List.subperm_of_subset hcs.nodup h) hcs
    (pairwise_annotatedCharts t)

/-- **Annotator and extractor agree exactly when no annotated fence is indented and no
block stays open before one.** -/
theorem agrees_iff (isWord : Char → Bool) (content : Text) :
    Agrees isWord content ↔
      ∀ a ∈ annotations isWord content, a.fence.indent = [] ∧ ¬StaysOpen a.gap := by
  rw [← extracted_iff]
  refine ⟨fun h => h.extracted, fun h => ⟨h, ?_, fun a ha => ?_⟩⟩
  · have hsub : ((annotations isWord content).map Annotation.chart).Sublist
        (annotatedCharts (annotateMermaidBlocks isWord content)) := by
      refine sublist_annotatedCharts (List.pairwise_map.mpr pairwise_annotationsFrom) ?_
      intro c hc
      obtain ⟨a, ha, rfl⟩ := List.mem_map.mp hc
      exact h a ha
    have hmap := hsub.map fun c => (c.code, c.source)
    rw [List.map_map] at hmap
    exact hmap
  · unfold upgradableCharts
    rw [List.mem_filter]
    exact ⟨fun hmem => of_decide_eq_true hmem.2, fun hcode => ⟨h a ha, decide_eq_true hcode⟩⟩

/-- The word characters of a text in ASCII. -/
def asciiWord (c : Char) : Bool := c.isAlphanum || c = '_'

/-- A fence closed by an indented line, below a comment of its own, stays open up to
the comment of the next fence. -/
example : ((annotations asciiWord ("<!-- chart: D-SEQ -->\n```mermaid\nsequenceDiagram\n  ```\n" ++
    "```mermaid\nmindmap\n```").toList).map fun a => decide (StaysOpen a.gap)) = [true] := by
  decide +kernel

/-- A diagram in a list item. -/
def indentedFence : Text := "  ```mermaid\n  sequenceDiagram\n  ```\n".toList

/-- An indented fence is annotated, and neither extracted nor upgraded. -/
theorem agrees_counterexample :
    annotateMermaidBlocks asciiWord indentedFence =
        "  <!-- chart: D-SEQ -->\n  ```mermaid\n  sequenceDiagram\n  ```\n".toList ∧
      extractAllAnnotatedCharts (annotateMermaidBlocks asciiWord indentedFence) = [] ∧
      ¬Agrees asciiWord indentedFence := by
  have hannotated : annotateMermaidBlocks asciiWord indentedFence =
      "  <!-- chart: D-SEQ -->\n  ```mermaid\n  sequenceDiagram\n  ```\n".toList := by
    decide +kernel
  have hnone : annotatedCharts (annotateMermaidBlocks asciiWord indentedFence) = [] := by
    decide +kernel
  refine ⟨hannotated, congrArg (List.map _) hnone, fun h => ?_⟩
  have hlen : (annotations asciiWord indentedFence).length = 1 := by decide +kernel
  obtain ⟨a, ha⟩ := List.exists_mem_of_length_pos (by rw [hlen]; exact Nat.one_pos)
  have hmem := h.extracted a ha
  rw [hnone] at hmem
  cases hmem

end Docs
end Shrimp
