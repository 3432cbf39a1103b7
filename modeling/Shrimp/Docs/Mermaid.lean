import Mathlib.Data.List.TakeWhile
import Shrimp.Lib.Scan
import Shrimp.Python

/-!
# Mermaid fences in a markdown text

The two patterns by which the document generator finds its diagrams: the fences
themselves (`_MERMAID_FENCE_RE` of `template_engine.py`), and the fences below a
`<!-- chart: D-XXX -->` comment (`_CHART_BLOCK_RE` of `feishu_publisher.py`).
Where a part of a pattern is followed by a symbol it cannot match, it takes all it
can, so both are read from left to right without going back.

## Main definitions

* `mermaidFence`, `chartBlock` — the patterns.
* `mermaidFences`, `annotatedCharts` — the fences and the annotated fences of a
  text, with their places.

## Main results

* `chartBlockAt_eq_some` — what an annotated fence looks like.
* `pairwise_annotatedCharts` — annotated fences stand at different places, in order.
-/

namespace Shrimp
namespace Docs

/-! ### Reading a text -/

/-- What stands behind a text at the head. -/
def afterPrefix (start t : Text) : Option Text :=
  if start <+: t then some (t.drop start.length) else none

/-- The text up to the first place at which `stop` matches, and the length it matches
there. -/
def upTo (stop : Text → Option ℕ) : Text → Option (Text × ℕ)
  | [] => (stop []).map fun n => ([], n)
  | c :: t =>
    match stop (c :: t) with
    | some n => some ([], n)
    | none => (upTo stop t).map fun (body, n) => (c :: body, n)

theorem afterPrefix_eq_some_iff {start t rest : Text} :
    afterPrefix start t = some rest ↔ t = start ++ rest := by
  unfold afterPrefix
  split
  · next h =>
    obtain ⟨more, rfl⟩ := h
    simp [eq_comm]
  · next h =>
    refine iff_of_false nofun ?_
    rintro rfl
    exact h (List.prefix_append _ _)

theorem upTo_eq_some {stop : Text → Option ℕ} {t body : Text} {n : ℕ}
    (h : upTo stop t = some (body, n)) : ∃ rest, t = body ++ rest ∧ stop rest = some n := by
  induction t generalizing body with
  | nil =>
    obtain ⟨m, hm, hb⟩ := Option.map_eq_some_iff.mp h
    cases hb
    exact ⟨[], rfl, hm⟩
  | cons c t ih =>
    rw [upTo] at h
    split at h
    · next m hm =>
      cases h
      exact ⟨c :: t, rfl, hm⟩
    · obtain ⟨⟨body', m⟩, hm, hb⟩ := Option.map_eq_some_iff.mp h
      cases hb
      obtain ⟨rest, rfl, hstop⟩ := ih hm
      exact ⟨rest, rfl, hstop⟩

theorem stop_eq_none_of_upTo {stop : Text → Option ℕ} {t body : Text} {n : ℕ}
    (h : upTo stop t = some (body, n)) {rest : Text} (ht : t = body ++ rest) {u : Text}
    (hu : u <:+ body) (hne : u ≠ []) : stop (u ++ rest) = none := by
  induction t generalizing body with
  | nil =>
    rw [(List.append_eq_nil_iff.mp ht.symm).1] at hu
    exact absurd (List.suffix_nil.mp hu) hne
  | cons c t ih =>
    rw [upTo] at h
    split at h
    · cases h
      exact absurd (List.suffix_nil.mp hu) hne
    · next hnone =>
      obtain ⟨⟨body', m⟩, hm, hb⟩ := Option.map_eq_some_iff.mp h
      cases hb
      have ht' : t = body' ++ rest := (List.cons.inj ht).2
      rcases List.suffix_cons_iff.mp hu with rfl | hu'
      · rw [List.cons_append, ← ht']
        exact hnone
      · exact ih hm ht' hu'

/-- A text before which `stop` does not match is taken as a whole. -/
theorem upTo_append {stop : Text → Option ℕ} {body rest : Text} {n : ℕ}
    (hnone : ∀ u, u <:+ body → u ≠ [] → stop (u ++ rest) = none) (hstop : stop rest = some n) :
    upTo stop (body ++ rest) = some (body, n) := by
  induction body with
  | nil =>
    rw [List.nil_append]
    cases rest with
    | nil => rw [upTo, hstop]; rfl
    | cons c rest => rw [upTo, hstop]
  | cons c body ih =>
    have hhead : stop (c :: (body ++ rest)) = none :=
      hnone (c :: body) List.suffix_rfl (List.cons_ne_nil _ _)
    rw [List.cons_append, upTo, hhead,
      ih fun u hu => hnone u (hu.trans (List.suffix_cons c body))]
    rfl

def isBlank (c : Char) : Bool := c = ' ' ∨ c = '\t'

def isUpper (c : Char) : Bool := 'A' ≤ c ∧ c ≤ 'Z'

/-- The opening line of a mermaid fence. -/
def opening : Text := "```mermaid\n".toList

/-! ### Fences -/

/-- `\n[ \t]*` and three backticks: the end of a fence, with its length. -/
def closing (t : Text) : Option ℕ :=
  match afterPrefix ['\n'] t with
  | none => none
  | some rest =>
    if "```".toList <+: rest.dropWhile isBlank then
      some (1 + (rest.takeWhile isBlank).length + 3)
    else none

/-- A mermaid fence. -/
structure Fence where
  indent : Text
  body : Text

/-- A line break, blanks, and a mermaid fence, with the length of it all. -/
def mermaidFenceAt (t : Text) : Option (ℕ × Fence) :=
  match afterPrefix ['\n'] t with
  | none => none
  | some line =>
    let indent := line.takeWhile isBlank
    match afterPrefix opening (line.dropWhile isBlank) with
    | none => none
    | some inner =>
      (upTo closing inner).map fun (body, n) =>
        (1 + indent.length + opening.length + body.length + n, ⟨indent, body⟩)

theorem length_le_of_closing {t : Text} {n : ℕ} (h : closing t = some n) : n ≤ t.length := by
  unfold closing at h
  split at h
  · cases h
  · next rest hrest =>
    split at h
    · next hpre =>
      cases h
      rw [afterPrefix_eq_some_iff.mp hrest]
      have hcut := congrArg List.length
        (List.takeWhile_append_dropWhile (p := isBlank) (l := rest))
      have hle := hpre.length_le
      have hthree : "```".toList.length = 3 := rfl
      rw [List.length_append] at hcut ⊢
      rw [List.length_singleton]
      omega
    · cases h

/-- A mermaid fence behind a line break. -/
def mermaidFence : Pattern Char Fence where
  find := mermaidFenceAt
  pos {t n b} h := by
    unfold mermaidFenceAt at h
    split at h
    · cases h
    · dsimp only at h
      split at h
      · cases h
      · obtain ⟨⟨body, m⟩, hm, hb⟩ := Option.map_eq_some_iff.mp h
        cases hb
        omega
  le {t n b} h := by
    unfold mermaidFenceAt at h
    split at h
    · cases h
    · next line hline =>
      dsimp only at h
      split at h
      · cases h
      · next inner hinner =>
        obtain ⟨⟨body, m⟩, hm, hb⟩ := Option.map_eq_some_iff.mp h
        cases hb
        obtain ⟨rest, hrest, hclose⟩ := upTo_eq_some hm
        have hcut := congrArg List.length
          (List.takeWhile_append_dropWhile (p := isBlank) (l := line))
        have hle := length_le_of_closing hclose
        rw [afterPrefix_eq_some_iff.mp hline]
        rw [afterPrefix_eq_some_iff.mp hinner, hrest] at hcut
        simp only [List.length_append, List.length_singleton] at hcut ⊢
        omega

/-- The places of the mermaid fences of a text. -/
def mermaidFences (content : Text) : List ℕ :=
  -- a fence may open the text, so the text is read behind a line break
  (mermaidFence.finditer ('\n' :: content)).map fun m => m.1 + m.2.2.indent.length

/-! ### Annotated fences -/

/-- `<!--\s*chart:\s*(D-[A-Z]+)\s*-->\s*\n`, with its group and what stands behind
it. -/
def chartComment (t : Text) : Option (Text × Text) := do
  let t ← afterPrefix "<!--".toList t
  let t ← afterPrefix "chart:".toList (t.dropWhile isSpace)
  let t ← afterPrefix "D-".toList (t.dropWhile isSpace)
  let letters := t.takeWhile isUpper
  let t ← afterPrefix "-->".toList ((t.dropWhile isUpper).dropWhile isSpace)
  if letters ≠ [] ∧ (t.takeWhile isSpace).getLast? = some '\n' then
    some ("D-".toList ++ letters, t.dropWhile isSpace)
  else none

/-- An annotated mermaid fence, and where in the match its opening line stands. -/
structure ChartBlock where
  code : Text
  body : Text
  offset : ℕ

/-- A line break and three backticks: the end of an annotated fence. -/
def flush (t : Text) : Option ℕ := if "\n```".toList <+: t then some 4 else none

/-- A chart comment and the mermaid fence below it, with the length of it all. -/
def chartBlockAt (t : Text) : Option (ℕ × ChartBlock) := do
  let (code, fence) ← chartComment t
  let inner ← afterPrefix opening fence
  let (body, n) ← upTo flush inner
  let offset := t.length - fence.length
  some (offset + opening.length + body.length + n, ⟨code, body, offset⟩)

/-- A chart comment with the white space in its gaps. -/
def spaced (s₁ s₂ s₃ chartCode : Text) : Text :=
  "<!--".toList ++ (s₁ ++ ("chart:".toList ++ (s₂ ++ (chartCode ++ (s₃ ++ "-->".toList)))))

/-- A chart comment has one angle bracket, at its head, and no backtick. -/
theorem exists_spaced_tail {s₁ s₂ s₃ code gap : Text} (h₁ : s₁.all isSpace) (h₂ : s₂.all isSpace)
    (h₃ : s₃.all isSpace) (hgap : gap.all isSpace)
    (hcode : ∀ c ∈ code, isUpper c = true ∨ c = '-') :
    ∃ v, spaced s₁ s₂ s₃ code ++ gap = '<' :: v ∧ '<' ∉ v ∧ '`' ∉ v := by
  have hnot : ∀ c, isSpace c = false → isUpper c = false → c ∉ "!--chart:>".toList →
      c ∉ "!--".toList ++ (s₁ ++ ("chart:".toList ++ (s₂ ++ (code ++ (s₃ ++
        ("-->".toList ++ gap)))))) := by
    intro c hspace hupper hname
    have hwhite : ∀ {s : Text}, s.all isSpace → c ∉ s := by
      intro s hs hmem
      rw [List.all_eq_true.mp hs c hmem] at hspace
      cases hspace
    have hfixed : ∀ s : Text, s ⊆ "!--chart:>".toList → c ∉ s := fun s hs hmem => hname (hs hmem)
    have hletters : c ∉ code := by
      intro hmem
      rcases hcode c hmem with hup | rfl
      · rw [hupper] at hup
        cases hup
      · exact hname (by decide)
    simp only [List.mem_append, not_or]
    exact ⟨hfixed _ (by decide), hwhite h₁, hfixed _ (by decide), hwhite h₂, hletters, hwhite h₃,
      hfixed _ (by decide), hwhite hgap⟩
  refine ⟨_, ?_, hnot '<' (by decide) (by decide) (by decide),
    hnot '`' (by decide) (by decide) (by decide)⟩
  unfold spaced
  simp only [List.append_assoc]
  rfl

theorem spaced_of_read {t₁ t₂ t₃ t₄ : Text} (h₂ : t₁.dropWhile isSpace = "chart:".toList ++ t₂)
    (h₃ : t₂.dropWhile isSpace = "D-".toList ++ t₃)
    (h₄ : (t₃.dropWhile isUpper).dropWhile isSpace = "-->".toList ++ t₄) :
    ∃ s₁ s₂ s₃ : Text, s₁.all isSpace ∧ s₂.all isSpace ∧ s₃.all isSpace ∧
      "<!--".toList ++ t₁ = spaced s₁ s₂ s₃ ("D-".toList ++ t₃.takeWhile isUpper) ++ t₄ := by
  refine ⟨t₁.takeWhile isSpace, t₂.takeWhile isSpace, (t₃.dropWhile isUpper).takeWhile isSpace,
    List.all_takeWhile, List.all_takeWhile, List.all_takeWhile, ?_⟩
  unfold spaced
  simp only [List.append_assoc]
  rw [← h₄, List.takeWhile_append_dropWhile, List.takeWhile_append_dropWhile, ← h₃,
    List.takeWhile_append_dropWhile, ← h₂, List.takeWhile_append_dropWhile]

/-- **What a chart comment looks like.** -/
theorem exists_spaced_of_chartComment {t code fence : Text}
    (h : chartComment t = some (code, fence)) : ∃ s₁ s₂ s₃ letters gap : Text,
      t = spaced s₁ s₂ s₃ code ++ (gap ++ fence) ∧ code = "D-".toList ++ letters ∧
        letters ≠ [] ∧ (∀ c ∈ letters, isUpper c = true) ∧ s₁.all isSpace ∧ s₂.all isSpace ∧
          s₃.all isSpace ∧ gap.all isSpace ∧ gap.getLast? = some '\n' := by
  simp only [chartComment, Option.bind_eq_bind, Option.bind_eq_some_iff,
    afterPrefix_eq_some_iff] at h
  obtain ⟨t₁, rfl, t₂, h₂, t₃, h₃, t₄, h₄, h⟩ := h
  split at h
  · next hcond =>
    cases h
    obtain ⟨s₁, s₂, s₃, w₁, w₂, w₃, heq⟩ := spaced_of_read h₂ h₃ h₄
    refine ⟨s₁, s₂, s₃, t₃.takeWhile isUpper, t₄.takeWhile isSpace, ?_, rfl, hcond.1,
      fun c hc => List.mem_takeWhile_imp hc, w₁, w₂, w₃, List.all_takeWhile, hcond.2⟩
    rw [List.takeWhile_append_dropWhile, heq]
  · cases h

theorem mem_code {letters : Text} (h : ∀ c ∈ letters, isUpper c = true ∨ c = '-') :
    ∀ c ∈ "D-".toList ++ letters, isUpper c = true ∨ c = '-' := by
  have hname : ∀ c ∈ "D-".toList, isUpper c = true ∨ c = '-' := by decide
  intro c hc
  rcases List.mem_append.mp hc with hc | hc
  · exact hname c hc
  · exact h c hc

/-- A chart comment has one angle bracket, at its head, and ends with a line break. -/
theorem chartComment_eq_some {t code fence : Text} (h : chartComment t = some (code, fence)) :
    ∃ v, t = '<' :: v ++ fence ∧ '<' ∉ v ∧ ('<' :: v).getLast? = some '\n' := by
  obtain ⟨s₁, s₂, s₃, letters, gap, rfl, rfl, -, hupper, h₁, h₂, h₃, hgap, hlast⟩ :=
    exists_spaced_of_chartComment h
  obtain ⟨v, hv, hnot, -⟩ := exists_spaced_tail h₁ h₂ h₃ hgap
    (mem_code fun c hc => .inl (hupper c hc))
  refine ⟨v, by rw [← hv, List.append_assoc], hnot, ?_⟩
  rw [← hv, List.getLast?_append, hlast, Option.some_or]

/-- **What an annotated fence looks like.** -/
theorem chartBlockAt_eq_some {t : Text} {n : ℕ} {b : ChartBlock}
    (h : chartBlockAt t = some (n, b)) :
    ∃ comment rest, comment ≠ [] ∧
      t = comment ++ (opening ++ (b.body ++ ("\n```".toList ++ rest))) ∧
      b.offset = comment.length ∧ n = b.offset + opening.length + b.body.length + 4 := by
  simp only [chartBlockAt, Option.bind_eq_bind, Option.bind_eq_some_iff] at h
  obtain ⟨⟨code, fence⟩, hcomment, inner, hinner, ⟨body, m⟩, hbody, h⟩ := h
  cases h
  obtain ⟨v, rfl, -⟩ := chartComment_eq_some hcomment
  obtain ⟨stop, rfl, hstop⟩ := upTo_eq_some hbody
  rw [flush] at hstop
  split at hstop
  · next hpre =>
    cases hstop
    obtain ⟨rest, rfl⟩ := hpre
    have hfence : fence = _ := afterPrefix_eq_some_iff.mp hinner
    subst hfence
    refine ⟨'<' :: v, rest, List.cons_ne_nil _ _, rfl, ?_, rfl⟩
    dsimp only
    rw [List.length_append]
    omega
  · cases hstop

/-- A chart comment with a mermaid fence right below it. -/
def chartBlock : Pattern Char ChartBlock where
  find := chartBlockAt
  pos {t n b} h := by
    obtain ⟨comment, rest, hne, -, hoffset, rfl⟩ := chartBlockAt_eq_some h
    omega
  le {t n b} h := by
    obtain ⟨comment, rest, hne, rfl, hoffset, rfl⟩ := chartBlockAt_eq_some h
    have hfour : "\n```".toList.length = 4 := rfl
    simp only [List.length_append]
    omega

/-- An annotated chart of a text, with the place of its fence. -/
structure AnnotatedChart where
  code : Text
  body : Text
  place : ℕ
  deriving DecidableEq

/-- The annotated fences of a text. -/
def annotatedCharts (content : Text) : List AnnotatedChart :=
  (chartBlock.finditer content).map fun m => ⟨m.2.2.code, m.2.2.body, m.1 + m.2.2.offset⟩

/-- **Annotated fences stand at different places, in order.** -/
theorem pairwise_annotatedCharts (content : Text) :
    (annotatedCharts content).Pairwise fun c c' => c.place < c'.place := by
  refine List.pairwise_map.mpr ((chartBlock.pairwise_finditer content).imp_of_mem ?_)
  rintro ⟨i, s, b⟩ ⟨j, s', b'⟩ hm _ hle
  obtain ⟨u, v, -, -, hfind⟩ := Pattern.mem_finditerFrom hm
  obtain ⟨comment, rest, -, -, hoffset, hlength⟩ := chartBlockAt_eq_some hfind
  have hopening : 0 < opening.length := by decide
  dsimp only at *
  omega

end Docs
end Shrimp
