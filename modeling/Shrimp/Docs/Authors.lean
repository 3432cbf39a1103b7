import Shrimp.Docs.Reannotate

/-!
# The annotations of an author (`doc_output/template_engine.py`)

The guide of the templates has chart codes of one word and of several, joined by
hyphens.  The annotator recognises those of one word only, and only when the comment
begins within the 200 characters before the fence.

## Main definitions

* `GuideCode` — a chart code of the guide.
* `MarkedFence` — a fence below the comment of an author.
* `AuthorWins` — it gets no further annotation, and is not upgraded as another chart.
* `MarkedFence.Recognized` — the annotator leaves it alone.

## Main results

* `eq_of_suffix` — a comment at the end of a text is the only one there.
* `existingAnnotation_marked_iff` — which comments are recognised.
* `code_of_marked` — a marked fence that is extracted is extracted with its own code.
* `authorWins_iff` — **the author wins exactly when the annotator recognises the code or
  does not recognise the diagram.**
-/

namespace Shrimp
namespace Docs

/-- A chart code of the guide: upper-case words, joined by hyphens. -/
structure GuideCode where
  words : List Text
  ne_nil : words ≠ []
  upper : ∀ w ∈ words, w ≠ [] ∧ ∀ c ∈ w, isUpper c = true

namespace GuideCode

/-- The words, joined. -/
def joined (g : GuideCode) : Text := ['-'].intercalate g.words

def text (g : GuideCode) : Text := "D-".toList ++ g.joined

variable (g : GuideCode)

theorem mem_joined {c : Char} (h : c ∈ g.joined) : isUpper c = true ∨ c = '-' := by
  have hall : ∀ ws : List Text, (∀ w ∈ ws, ∀ c ∈ w, isUpper c = true) →
      c ∈ ['-'].intercalate ws → isUpper c = true ∨ c = '-' := by
    intro ws
    induction ws with
    | nil =>
      intro _ hc
      cases hc
    | cons w ws ih =>
      intro hws hc
      cases ws with
      | nil =>
        rw [List.intercalate_singleton] at hc
        exact .inl (hws w List.mem_cons_self c hc)
      | cons w' ws =>
        rw [List.intercalate_cons_cons, List.append_assoc] at hc
        rcases List.mem_append.mp hc with hc | hc
        · exact .inl (hws w List.mem_cons_self c hc)
        · rcases List.mem_cons.mp hc with rfl | hc
          · exact .inr rfl
          · exact ih (fun w hw => hws w (List.mem_cons_of_mem _ hw)) hc
  exact hall g.words (fun w hw => (g.upper w hw).2) h

/-- A code of several words goes on with a hyphen and a letter. -/
theorem joined_cases : (∃ w, g.words = [w] ∧ g.joined = w) ∨
    ∃ w c more, g.words.length ≠ 1 ∧ (∀ d ∈ w, isUpper d = true) ∧ isUpper c = true ∧
      g.joined = w ++ '-' :: c :: more := by
  unfold joined
  rcases hwords : g.words with _ | ⟨w, _ | ⟨w', ws⟩⟩
  · exact absurd hwords g.ne_nil
  · exact .inl ⟨w, rfl, List.intercalate_singleton⟩
  · have hw := g.upper w (by rw [hwords]; simp)
    have hw' := g.upper w' (by rw [hwords]; simp)
    obtain ⟨c, v, hv⟩ := List.exists_cons_of_ne_nil hw'.1
    have hmore : ∃ more, ['-'].intercalate (w' :: ws) = c :: more := by
      cases ws with
      | nil => exact ⟨v, by rw [List.intercalate_singleton, hv]⟩
      | cons w'' ws =>
        refine ⟨v ++ (['-'] ++ ['-'].intercalate (w'' :: ws)), ?_⟩
        rw [List.intercalate_cons_cons, List.append_assoc, hv, List.cons_append]
    obtain ⟨more, hmore⟩ := hmore
    refine .inr ⟨w, c, more, by simp, hw.2, hw'.2 c (by rw [hv]; simp), ?_⟩
    rw [List.intercalate_cons_cons, hmore, List.append_assoc]
    rfl

/-- **Reading a code up to the end of its comment**: it has one word. -/
theorem read_joined {X rest : Text}
    (h : afterPrefix "-->".toList
      (((g.joined ++ ' ' :: X).dropWhile isUpper).dropWhile isSpace) = some rest) :
    (g.joined ++ ' ' :: X).takeWhile isUpper = g.joined ∧ g.words.length = 1 := by
  rcases g.joined_cases with ⟨w, hwords, hjoined⟩ | ⟨w, c, more, -, hw, hc, hjoined⟩
  · have hupper := (g.upper w (by rw [hwords]; simp)).2
    rw [hjoined, List.takeWhile_append_cons (by decide), List.takeWhile_eq_self_iff.mpr hupper,
      hwords]
    exact ⟨rfl, rfl⟩
  · exfalso
    rw [hjoined, List.append_assoc, List.cons_append, List.dropWhile_append_cons (by decide),
      List.dropWhile_eq_nil_iff.mpr hw, List.nil_append, List.cons_append,
      List.dropWhile_cons_of_neg (by decide)] at h
    have heq := afterPrefix_eq_some_iff.mp h
    obtain ⟨-, heq⟩ := List.cons.inj heq
    rw [(List.cons.inj heq).1] at hc
    exact absurd hc (by decide)

theorem comment_append (Y : Text) : comment g.text ++ Y =
    "<!--".toList ++ (' ' :: ("chart:".toList ++ (' ' :: ("D-".toList ++
      (g.joined ++ ' ' :: ("-->".toList ++ Y)))))) := by
  unfold comment text
  simp only [List.append_assoc]
  rfl

theorem chart_append (Z : Text) :
    afterPrefix "chart:".toList ((' ' :: ("chart:".toList ++ Z)).dropWhile isSpace) = some Z :=
  afterPrefix_eq_some_iff.mpr rfl

theorem code_append (Z : Text) :
    afterPrefix "D-".toList ((' ' :: ("D-".toList ++ Z)).dropWhile isSpace) = some Z :=
  afterPrefix_eq_some_iff.mpr rfl

theorem length_words_of_annotationToEnd {ws : Text}
    (h : annotationToEnd (comment g.text ++ ws)) : g.words.length = 1 := by
  have h₁ : afterPrefix "<!--".toList (comment g.text ++ ws) = some _ :=
    afterPrefix_eq_some_iff.mpr (g.comment_append ws)
  unfold annotationToEnd at h
  simp only [Option.bind_eq_bind, h₁, Option.bind_some, chart_append, code_append] at h
  cases hread : afterPrefix "-->".toList
      (((g.joined ++ ' ' :: ("-->".toList ++ ws)).dropWhile isUpper).dropWhile isSpace) with
  | none =>
    rw [hread] at h
    cases h
  | some rest => exact (g.read_joined hread).2

/-- A chart comment that is read has the code that stands there. -/
theorem code_of_chartComment {Y code fence : Text}
    (h : chartComment (comment g.text ++ Y) = some (code, fence)) : code = g.text := by
  have h₁ : afterPrefix "<!--".toList (comment g.text ++ Y) = some _ :=
    afterPrefix_eq_some_iff.mpr (g.comment_append Y)
  unfold chartComment at h
  simp only [Option.bind_eq_bind, h₁, Option.bind_some, chart_append, code_append] at h
  obtain ⟨rest, hread, h⟩ := Option.bind_eq_some_iff.mp h
  split at h
  · cases h
    rw [(g.read_joined hread).1, text]
  · cases h

/-- A comment and spaces have one angle bracket, at their head, and no backtick. -/
theorem exists_comment {gap : Text} (hgap : gap.all isSpace) :
    ∃ v, comment g.text ++ gap = '<' :: v ∧ '<' ∉ v ∧ '`' ∉ v := by
  rw [comment_eq_spaced]
  exact exists_spaced_tail rfl rfl rfl hgap (mem_code fun _ hc => g.mem_joined hc)

end GuideCode

/-- **A comment at the end of a text is the only one there**: what begins with a symbol
that it has nowhere else ends a text in one way. -/
theorem eq_of_suffix {α : Type} {a : α} {v v' t : List α} (h : a :: v <:+ t) (h' : a :: v' <:+ t)
    (hv : a ∉ v) (hv' : a ∉ v') : v = v' := by
  have hlt : ∀ {v v' : List α}, a :: v <:+ a :: v' → a ∉ v' → v = v' := by
    intro v v' hs hnot
    rcases List.suffix_cons_iff.mp hs with heq | hs
    · exact (List.cons.inj heq).2
    · exact absurd (hs.subset List.mem_cons_self) hnot
  rcases List.suffix_or_suffix_of_suffix h h' with hs | hs
  · exact hlt hs hv'
  · exact (hlt hs hv).symm

/-! ### Marked fences -/

/-- **A fence of a content below the comment of an author**: the comment stands on a line
of its own, and up to the fence there are blank lines only. -/
structure MarkedFence (content : Text) where
  earlier : List (Piece Char Fence)
  found : Text
  fence : Fence
  later : List (Piece Char Fence)
  pieces_eq : mermaidFence.pieces ('\n' :: content) = earlier ++ .found found fence :: later
  code : GuideCode
  /-- The lines above the comment. -/
  above : Text
  above_line : above = [] ∨ above.getLast? = some '\n'
  /-- The indentation of the comment. -/
  lead : Text
  lead_blank : ∀ c ∈ lead, isBlank c = true
  /-- What stands between the comment and the line break before the fence. -/
  gap : Text
  gap_space : gap.all isSpace
  before_eq : earlier.flatMap Piece.text = '\n' :: (above ++ (lead ++ (comment code.text ++ gap)))

namespace MarkedFence

variable {content : Text} (m : MarkedFence content) (isWord : Char → Bool)

/-- The text before the fence. -/
def before : Text := m.earlier.flatMap Piece.text

/-- The text before the fence, annotated. -/
def before' : Text := Pattern.renderFrom (replaceFence isWord) [] m.earlier

/-- The place of the opening line in the annotated text, when the fence is left as it
is. -/
def place : ℕ := (m.before' isWord).length + m.fence.indent.length

/-- **The annotator leaves the fence alone**: it does not know the diagram, or the code
has one word and its comment is near enough. -/
def Recognized : Prop :=
  classifyMermaidBody isWord m.fence.body = none ∨
    m.code.words.length = 1 ∧ (comment m.code.text ++ m.gap).length ≤ 200

end MarkedFence

/-- **The author wins**: the fence stays as it stands, without a further annotation, and
with a code that is not to be upgraded it is not picked up. -/
structure AuthorWins (isWord : Char → Bool) {content : Text} (m : MarkedFence content) : Prop where
  leftAlone : replaceFence isWord m.before m.found m.fence = m.found
  plain : m.code.text ∉ upgradeChartCodes →
    ∀ c ∈ upgradableCharts (annotateMermaidBlocks isWord content), c.place ≠ m.place isWord

section

variable {content : Text} {isWord : Char → Bool} {m : MarkedFence content}

theorem MarkedFence.found_eq (m : MarkedFence content) :
    ∃ close, m.found = m.fence.written close := by
  have hmem : Piece.found m.found m.fence ∈ mermaidFence.pieces ('\n' :: content) := by
    rw [m.pieces_eq]
    exact List.mem_append_right _ List.mem_cons_self
  exact exists_written_of_mem_pieces hmem

theorem MarkedFence.comment_suffix (m : MarkedFence content) :
    comment m.code.text ++ m.gap <:+ m.before.drop 1 := by
  rw [MarkedFence.before, m.before_eq]
  exact (List.suffix_append m.lead _).trans (List.suffix_append m.above _)

/-- **Which comments are recognised.** -/
theorem existingAnnotation_marked_iff (m : MarkedFence content) :
    existingAnnotation (preceding m.before) ↔
      m.code.words.length = 1 ∧ (comment m.code.text ++ m.gap).length ≤ 200 := by
  obtain ⟨v, hv, hnot, -⟩ := m.code.exists_comment m.gap_space
  rw [existingAnnotation_iff]
  constructor
  · rintro ⟨w, hann, hsuffix, hlen⟩
    obtain ⟨v', rfl, hnot', -⟩ := exists_of_annotationToEnd hann
    have hcomment := m.comment_suffix
    rw [hv] at hcomment
    rw [eq_of_suffix hsuffix hcomment hnot' hnot, ← hv] at hann hlen
    exact ⟨m.code.length_words_of_annotationToEnd hann, hlen⟩
  · rintro ⟨hone, hlen⟩
    obtain ⟨w, hwords⟩ := List.length_eq_one_iff.mp hone
    obtain ⟨hne, hupper⟩ := m.code.upper w (by rw [hwords]; simp)
    refine ⟨_, ?_, m.comment_suffix, hlen⟩
    have hjoined : m.code.joined = w := by
      rw [GuideCode.joined, hwords, List.intercalate_singleton]
    rw [GuideCode.text, hjoined]
    exact annotationToEnd_comment hne hupper m.gap_space

theorem annotatedFence_ne_written (chartCode : Text) (f : Fence) (close : Text) :
    annotatedFence chartCode f ≠ f.written close := by
  intro heq
  have hcut := (List.cons.inj heq).2
  simp only [List.append_assoc] at hcut
  have hhead := List.append_cancel_left hcut
  have hbracket : '<' = '`' := (List.cons.inj hhead).1
  exact absurd hbracket (by decide)

/-- **The fence stays as it stands exactly when the annotator leaves it alone.** -/
theorem leftAlone_iff : replaceFence isWord m.before m.found m.fence = m.found ↔
    m.Recognized isWord := by
  obtain ⟨close, hfound⟩ := m.found_eq
  unfold replaceFence annotationOf MarkedFence.Recognized
  cases hclassify : classifyMermaidBody isWord m.fence.body with
  | none => exact iff_of_true rfl (.inl rfl)
  | some chartCode =>
    dsimp only
    by_cases hann : existingAnnotation (preceding m.before)
    · rw [if_pos hann]
      exact iff_of_true rfl (.inr ((existingAnnotation_marked_iff m).mp hann))
    · rw [if_neg hann]
      refine iff_of_false ?_ ?_
      · rw [hfound]
        exact annotatedFence_ne_written chartCode m.fence close
      · rintro (hnone | hrec)
        · cases hnone
        · exact hann ((existingAnnotation_marked_iff m).mpr hrec)

/-! ### What is extracted -/

theorem comment_of_mem_chartsFrom {k : ℕ} {t : Text} {c : AnnotatedChart}
    (h : c ∈ chartsFrom k t) : ∃ u v fence, t = u ++ ('<' :: v ++ fence) ∧ '<' ∉ v ∧
      ('<' :: v).getLast? = some '\n' ∧ chartComment ('<' :: v ++ fence) = some (c.code, fence) ∧
        c.place = k + (u ++ '<' :: v).length := by
  obtain ⟨⟨i, s, b⟩, hm, rfl⟩ := List.mem_map.mp h
  obtain ⟨u, rest, rfl, hi, hfind⟩ := Pattern.mem_finditerFrom hm
  have hblock : chartBlockAt (s ++ rest) = some (s.length, b) := hfind
  simp only [chartBlockAt, Option.bind_eq_bind, Option.bind_eq_some_iff] at hblock
  obtain ⟨⟨code, fence⟩, hcomment, inner, -, ⟨body, n⟩, -, heq⟩ := hblock
  obtain ⟨v, hv, hnot, hlast⟩ := chartComment_eq_some hcomment
  obtain ⟨-, hb⟩ := Prod.mk.inj (Option.some.inj heq)
  have hoffset := congrArg ChartBlock.offset hb
  rw [hv, List.length_append, Nat.add_sub_cancel] at hoffset
  refine ⟨u, v, fence, by rw [← hv], hnot, hlast, ?_, ?_⟩
  · rw [← hv, hcomment, ← hb]
  · simp only at hi hoffset ⊢
    rw [List.length_append, hi, ← hoffset]
    omega

theorem follows_pieces {before before' : Text} (h : Follows before before')
    {ps : List (Piece Char Fence)} (hps : ∀ s f, .found s f ∈ ps → ∃ close, s = f.written close) :
    Follows (before ++ ps.flatMap Piece.text)
      (before' ++ Pattern.renderFrom (replaceFence isWord) before ps) := by
  induction ps generalizing before before' with
  | nil => exact h.append []
  | cons piece ps ih =>
    have hps' : ∀ s f, Piece.found s f ∈ ps → ∃ close, s = f.written close := fun s f hmem =>
      hps s f (List.mem_cons_of_mem _ hmem)
    rw [List.flatMap_cons, ← List.append_assoc]
    cases piece with
    | symbol c =>
      rw [Pattern.renderFrom, ← List.singleton_append, ← List.append_assoc]
      exact ih (h.append [c]) hps'
    | found s f =>
      obtain ⟨close, rfl⟩ := hps s f List.mem_cons_self
      rw [Pattern.renderFrom, ← List.append_assoc, replaceFence]
      refine ih ?_ hps'
      cases annotationOf isWord before f with
      | none => exact h.append _
      | some chartCode =>
        dsimp only
        rw [annotatedFence_eq, ← List.append_assoc]
        exact follows_written f close f.indent

/-- A marked fence that is left alone stands in the annotated text as it was. -/
theorem exists_text_of_alone (halone : replaceFence isWord m.before m.found m.fence = m.found) :
    ∃ close rest, '\n' :: annotateMermaidBlocks isWord content =
      m.before' isWord ++ (m.fence.written close ++ rest) := by
  obtain ⟨close, hfound⟩ := m.found_eq
  refine ⟨close, Pattern.renderFrom (replaceFence isWord) (m.before ++ m.found) m.later, ?_⟩
  rw [← cons_annotateMermaidBlocks, Pattern.subWith, m.pieces_eq,
    Pattern.renderFrom_pieces_append, Pattern.renderFrom, List.nil_append, ← hfound]
  exact congrArg (m.before' isWord ++ ·) (congrArg (· ++ _) halone)

theorem indent_eq_nil {u : Text} (h : (u ++ '\n' :: m.fence.indent).getLast? = some '\n') :
    m.fence.indent = [] := by
  have hmem : Piece.found m.found m.fence ∈ mermaidFence.pieces ('\n' :: content) := by
    rw [m.pieces_eq]
    exact List.mem_append_right _ List.mem_cons_self
  have hblank := (foundFence_of_mem_pieces hmem).1
  rcases List.eq_nil_or_concat' m.fence.indent with hnil | ⟨indent, blank, hindent⟩
  · exact hnil
  · rw [hindent, ← List.cons_append, ← List.append_assoc, List.getLast?_concat] at h
    have hb := hblank blank (by rw [hindent]; simp)
    rw [Option.some.inj h] at hb
    exact absurd hb (by decide)

/-- **A marked fence that is left alone is extracted with its own code**, if it is. -/
theorem code_of_marked (halone : replaceFence isWord m.before m.found m.fence = m.found)
    {c : AnnotatedChart} (hc : c ∈ annotatedCharts (annotateMermaidBlocks isWord content))
    (hplace : c.place = m.place isWord) : c.code = m.code.text := by
  obtain ⟨close, rest, htext⟩ := exists_text_of_alone halone
  have hfollows : Follows m.before (m.before' isWord) := by
    refine @follows_pieces isWord [] [] (.inl rfl) _ fun s f hmem => ?_
    refine exists_written_of_mem_pieces (t := '\n' :: content) ?_
    rw [m.pieces_eq]
    exact List.mem_append_left _ hmem
  rw [mem_annotatedCharts_iff] at hc
  obtain ⟨u, v, fence, hcut, hnot, hlast, hcomment, hlen⟩ := comment_of_mem_chartsFrom hc
  -- the comment of the chart ends where the opening line of this fence begins
  have hends : u ++ '<' :: v = m.before' isWord ++ '\n' :: m.fence.indent := by
    have hsame : (u ++ '<' :: v) ++ fence = (m.before' isWord ++ '\n' :: m.fence.indent) ++
        (opening ++ (m.fence.body ++ '\n' :: (close ++ "```".toList)) ++ rest) := by
      rw [List.append_assoc, ← hcut, htext]
      simp only [Fence.written, List.append_assoc, List.cons_append]
    refine (List.append_inj hsame ?_).1
    simp only [MarkedFence.place] at hplace
    simp only at hlen
    simp only [List.length_append, List.length_cons] at hlen ⊢
    omega
  have hindent : m.fence.indent = [] := by
    refine @indent_eq_nil content m (m.before' isWord) ?_
    rw [← hends, List.getLast?_append, hlast, Option.some_or]
  obtain ⟨v', hv', hnot', htick⟩ := m.code.exists_comment m.gap_space
  -- the comment of the author ends there too
  have hauthor : '<' :: (v' ++ ['\n']) <:+ u ++ '<' :: v := by
    have htick' : '`' ∉ comment m.code.text ++ m.gap := by
      rw [hv']
      exact List.not_mem_cons_of_ne_of_not_mem (by decide) htick
    obtain ⟨front, hfront⟩ := (hfollows.suffix htick' m.comment_suffix).trans
      (List.drop_suffix 1 _)
    refine ⟨front, ?_⟩
    rw [hends, hindent, ← hfront, hv', List.append_assoc, List.cons_append]
  have hsame := eq_of_suffix (List.suffix_append u _) hauthor hnot (by simp [hnot'])
  rw [hsame, ← List.cons_append, ← hv', List.append_assoc, List.append_assoc] at hcomment
  exact m.code.code_of_chartComment hcomment

/-- **The author wins exactly when the annotator leaves the fence alone.** -/
theorem authorWins_iff : AuthorWins isWord m ↔ m.Recognized isWord := by
  rw [← leftAlone_iff]
  refine ⟨fun h => h.leftAlone, fun halone => ⟨halone, fun hplain c hc hplace => ?_⟩⟩
  obtain ⟨hmem, hupgrade⟩ := List.mem_filter.mp hc
  rw [decide_eq_true_eq, code_of_marked halone hmem hplace] at hupgrade
  exact hplain hupgrade

end

deriving instance DecidableEq for Fence, Piece

/-- A code of two words. -/
def reverseSeq : GuideCode where
  words := ["REVERSE".toList, "SEQ".toList]
  ne_nil := by decide
  upper := by decide

/-- A sequence diagram that is to stay plain. -/
def plainDiagram : Text :=
  "<!-- chart: D-REVERSE-SEQ -->\n```mermaid\nsequenceDiagram\n```\n".toList

/-- The fence of the diagram, below its comment. -/
def plainFence : MarkedFence plainDiagram where
  earlier := ('\n' :: "<!-- chart: D-REVERSE-SEQ -->".toList).map Piece.symbol
  found := "\n```mermaid\nsequenceDiagram\n```".toList
  fence := ⟨[], "sequenceDiagram".toList⟩
  later := [.symbol '\n']
  pieces_eq := by decide +kernel
  code := reverseSeq
  above := []
  above_line := .inl rfl
  lead := []
  lead_blank c hc := by cases hc
  gap := []
  gap_space := rfl
  before_eq := by decide +kernel

/-- **The diagram is annotated once more**, below the comment of its author, and is
upgraded. -/
theorem authorWins_counterexample :
    annotateMermaidBlocks asciiWord plainDiagram = ("<!-- chart: D-REVERSE-SEQ -->\n" ++
      "<!-- chart: D-SEQ -->\n```mermaid\nsequenceDiagram\n```\n").toList ∧
    extractUpgradableCharts (annotateMermaidBlocks asciiWord plainDiagram) =
      [("D-SEQ".toList, "sequenceDiagram\n".toList)] ∧
    ¬AuthorWins asciiWord plainFence := by
  refine ⟨by decide +kernel, by decide +kernel, fun h => ?_⟩
  have halone := h.leftAlone
  revert halone
  decide +kernel

end Docs
end Shrimp
