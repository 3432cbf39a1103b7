import Shrimp.Docs.Annotate
import Shrimp.Docs.Pieces

/-!
# Charts between prose and caption (`doc_output/feishu_publisher.py`)

`validate_chart_prose_interleaving` warns of every annotated fence that has no prose
above it or no caption below it.  It numbers the lines of the text by the line breaks
before a place, and reads them in the list `str.splitlines` makes, which has a line
more for every other boundary in the text.

## Main definitions

* `validateBlock`, `validateChartProseInterleaving` — the check.
* `Reason.text` — the texts of the warnings.
* `hasProse`, `hasCaption` — the two things a fence is checked for.
* `specified` — the warnings by the definition, on the pieces between line breaks.
* `Interleaving` — the check equals its definition.
* `PlainTo` — no other boundary stands before the line that decides of a caption.

## Main results

* `validate_eq` — the check never runs out of the list of lines.
* `PlainTo.judgedAlike` — plain pieces are judged as the lines are.
* `interleaving_iff` — **when the check equals its definition.**
-/

namespace Shrimp
namespace Docs

/-! ### Lines -/

/-- `not line.strip()`. -/
def isBlankLine (l : Text) : Bool := (stripText l).isEmpty

/-- `line.lstrip().startswith("#")`. -/
def isHeading (l : Text) : Bool := (l.dropWhile isSpace).head? = some '#'

/-- `_CAPTION_RE`: `^\s*>\s*图说明` and a colon of either width. -/
def isCaption (l : Text) : Bool :=
  match afterPrefix ['>'] (l.dropWhile isSpace) with
  | none => false
  | some rest =>
    match afterPrefix "图说明".toList (rest.dropWhile isSpace) with
    | none => false
    | some rest => rest.head? = some ':' ∨ rest.head? = some '：'

/-- The nearest line above that is not blank is there, and no heading. -/
def hasProse (above : List Text) : Bool :=
  match above.reverse.find? fun l => !isBlankLine l with
  | none => false
  | some l => !isHeading l

/-- The nearest line below that is not blank is there, and a caption. -/
def hasCaption (below : List Text) : Bool :=
  match below.find? fun l => !isBlankLine l with
  | none => false
  | some l => isCaption l

/-! ### The check -/

/-- What a warning is about. -/
inductive WarningKind
  | prose
  | caption
  deriving DecidableEq

/-- Why a fence is warned of, with the line that was found. -/
inductive Reason
  | topOfDoc
  | heading (line : Text)
  | endOfDoc
  | noCaption (actual : Option Text)
  deriving DecidableEq

namespace Reason

def kind : Reason → WarningKind
  | topOfDoc => .prose
  | heading _ => .prose
  | endOfDoc => .caption
  | noCaption _ => .caption

/-- The text of a reason. -/
def text (isPrintable : Char → Bool) : Reason → String
  | topOfDoc => "no prose line before annotation (block at top of doc)"
  | heading line =>
    "annotation directly follows a heading (" ++
      reprStr isPrintable (String.ofList ((stripText line).take 30)) ++
      "); add ≥1 prose line in between"
  | endOfDoc => "no `> 图说明:` caption after block (block at end of doc)"
  | noCaption actual =>
    "missing `> 图说明:` caption right after block (got " ++
      reprStr isPrintable (((actual.map fun l => String.ofList (l.take 30))).getD "<EOF>") ++ ")"

end Reason

/-- A warning. -/
structure ChartWarning where
  chartCode : Text
  line : ℕ
  reason : Reason
  deriving DecidableEq

/-- A match of `_ANNOTATED_BLOCK_RE`, with its place. -/
abbrev ChartSite := ℕ × Text × ChartBlock

namespace ChartSite

/-- `m.start()`. -/
def start (m : ChartSite) : ℕ := m.1

/-- `m.end()`. -/
def stop (m : ChartSite) : ℕ := m.1 + m.2.1.length

/-- `m.group(1)`. -/
def chartCode (m : ChartSite) : Text := m.2.2.code

end ChartSite

/-- `_ANNOTATED_BLOCK_RE.finditer`: the pattern is that of the annotated fences. -/
def chartSites (markdown : Text) : List ChartSite := chartBlock.finditer markdown

/-- `markdown.count("\n", 0, pos)`. -/
def lineIdx (markdown : Text) (pos : ℕ) : ℕ := (markdown.take pos).count '\n'

/-- The scan upward past blank lines, from the line above. -/
def scanUp (lines : List Text) : ℕ → Except PyError (Option Text)
  | 0 => .ok none
  | k + 1 =>
    match lines[k]? with
    | none => .error .indexError
    | some l => if isBlankLine l then scanUp lines k else .ok (some l)

/-- The scan downward past blank lines. -/
def scanDown (lines : List Text) (k : ℕ) : Option Text :=
  (lines.drop k).find? fun l => !isBlankLine l

/-- The first check of a fence. -/
def proseWarnings : Option Text → List Reason
  | none => [.topOfDoc]
  | some l => if isHeading l then [.heading l] else []

/-- The second check of a fence. -/
def captionWarnings (markdown : Text) (lines : List Text) (m : ChartSite) : List Reason :=
  if markdown.length ≤ m.stop then [.endOfDoc]
  else match scanDown lines (lineIdx markdown m.stop + 1) with
    | none => [.noCaption none]
    | some l => if isCaption l then [] else [.noCaption (some l)]

/-- The body of the loop. -/
def validateBlock (markdown : Text) (lines : List Text) (m : ChartSite) :
    Except PyError (List ChartWarning) := do
  let annotationLineIdx := lineIdx markdown m.start
  let prev ← scanUp lines annotationLineIdx
  return (proseWarnings prev ++ captionWarnings markdown lines m).map fun reason =>
    ⟨m.chartCode, annotationLineIdx + 1, reason⟩

/-- `validate_chart_prose_interleaving`. -/
def validateChartProseInterleaving (markdown : Text) : Except PyError (List ChartWarning) := do
  let lines := splitlines markdown
  return (← (chartSites markdown).mapM (validateBlock markdown lines)).flatten

/-! ### The definition -/

/-- The lines above the line of an annotation. -/
def linesAbove (lines : List Text) (markdown : Text) (m : ChartSite) : List Text :=
  lines.take (lineIdx markdown m.start)

/-- The lines below the line of a closing fence. -/
def linesBelow (lines : List Text) (markdown : Text) (m : ChartSite) : List Text :=
  lines.drop (lineIdx markdown m.stop + 1)

/-- What a fence lacks. -/
def lacks (prose caption : Bool) : List WarningKind :=
  (if prose then [] else [.prose]) ++ if caption then [] else [.caption]

/-- What is warned of at a fence, with its code and its line. -/
def marks (markdown : Text) (m : ChartSite) (prose caption : Bool) :
    List (Text × ℕ × WarningKind) :=
  (lacks prose caption).map fun kind => (m.chartCode, lineIdx markdown m.start + 1, kind)

/-- A fence has prose above its annotation, by the definition. -/
def ProseAbove (markdown : Text) (m : ChartSite) : Bool :=
  hasProse (linesAbove (newlinePieces markdown) markdown m)

/-- A fence has a caption below it, by the definition. -/
def CaptionBelow (markdown : Text) (m : ChartSite) : Bool :=
  hasCaption (linesBelow (newlinePieces markdown) markdown m)

/-- The warnings by the definition. -/
def specified (markdown : Text) : List (Text × ℕ × WarningKind) :=
  (chartSites markdown).flatMap fun m =>
    marks markdown m (ProseAbove markdown m) (CaptionBelow markdown m)

/-- **The check equals its definition**: it returns the warnings of the definition, in
order, and none exactly when every fence has both. -/
structure Interleaving (markdown : Text) : Prop where
  exact : ∃ ws, validateChartProseInterleaving markdown = .ok ws ∧
    (ws.map fun w => (w.chartCode, w.line, w.reason.kind)) = specified markdown
  clean : validateChartProseInterleaving markdown = .ok [] ↔
    ∀ m ∈ chartSites markdown, ProseAbove markdown m ∧ CaptionBelow markdown m

/-- The lines `str.splitlines` has at the numbers of the definition are judged as the
pieces are. -/
structure JudgedAlike (markdown : Text) (m : ChartSite) : Prop where
  prose : hasProse (linesAbove (splitlines markdown) markdown m) = ProseAbove markdown m
  caption : m.stop < markdown.length →
    hasCaption (linesBelow (splitlines markdown) markdown m) = CaptionBelow markdown m

/-- **No boundary but a line break stands before the line that decides of a fence**:
not above its annotation, nor, unless the text ends with it, up to the line of its
closing fence and in the nearest line below that is not blank. -/
structure PlainTo (markdown : Text) (m : ChartSite) : Prop where
  above : ∀ l ∈ linesAbove (newlinePieces markdown) markdown m, PlainPiece l
  through : m.stop < markdown.length →
    ∀ l ∈ (newlinePieces markdown).take (lineIdx markdown m.stop + 1), PlainPiece l
  deciding : m.stop < markdown.length →
    ∀ l, (linesBelow (newlinePieces markdown) markdown m).find? (fun l => !isBlankLine l) =
      some l → PlainPiece l

/-! ### The lines the check reads -/

section Reading

variable {markdown : Text} {lines : List Text} {m : ChartSite}

theorem isBlankLine_iff {l : Text} : isBlankLine l = true ↔ ∀ c ∈ l, isSpace c = true := by
  rw [isBlankLine, List.isEmpty_iff, stripText, List.reverse_eq_nil_iff, List.dropWhile_eq_nil_iff]
  constructor
  · intro h c hc
    rw [← List.takeWhile_append_dropWhile (p := isSpace) (l := l)] at hc
    rcases List.mem_append.mp hc with hc | hc
    · exact List.mem_takeWhile_imp hc
    · exact h c (List.mem_reverse.mpr hc)
  · intro h c hc
    exact h c ((List.dropWhile_suffix isSpace).subset (List.mem_reverse.mp hc))

/-- **The scan upward** finds the nearest line above that is not blank. -/
theorem scanUp_eq {k : ℕ} (h : k ≤ lines.length) :
    scanUp lines k = .ok ((lines.take k).reverse.find? fun l => !isBlankLine l) := by
  induction k with
  | zero => rfl
  | succ k ih =>
    have hk : k < lines.length := h
    rw [scanUp, List.getElem?_eq_getElem hk, List.take_succ_eq_append_getElem hk,
      List.reverse_append, List.reverse_singleton, List.singleton_append, List.find?_cons]
    dsimp only
    cases hblank : isBlankLine lines[k] with
    | true => exact ih (Nat.le_of_lt hk)
    | false => rfl

theorem lineIdx_le (markdown : Text) (pos : ℕ) :
    lineIdx markdown pos ≤ (splitlines markdown).length :=
  ((List.take_sublist pos markdown).count_le _).trans (count_le_length_splitlines markdown)

/-- The warnings of a fence. -/
def warningsAt (markdown : Text) (m : ChartSite) : List ChartWarning :=
  (proseWarnings ((linesAbove (splitlines markdown) markdown m).reverse.find?
    fun l => !isBlankLine l) ++ captionWarnings markdown (splitlines markdown) m).map
      fun reason => ⟨m.chartCode, lineIdx markdown m.start + 1, reason⟩

theorem validateBlock_eq (markdown : Text) (m : ChartSite) :
    validateBlock markdown (splitlines markdown) m = .ok (warningsAt markdown m) := by
  rw [validateBlock, scanUp_eq (lineIdx_le markdown m.start)]
  rfl

/-- **The check never runs out of the list of lines**: it returns the warnings of the
fences, in order. -/
theorem validate_eq (markdown : Text) : validateChartProseInterleaving markdown =
    .ok ((chartSites markdown).flatMap (warningsAt markdown)) := by
  have hmap : ∀ ms : List ChartSite, ms.mapM (validateBlock markdown (splitlines markdown)) =
      .ok (ms.map (warningsAt markdown)) := by
    intro ms
    induction ms with
    | nil => rfl
    | cons m ms ih =>
      rw [List.mapM_cons, validateBlock_eq, ih]
      rfl
  rw [validateChartProseInterleaving, hmap, List.flatMap]
  rfl

theorem marks_warningsAt (markdown : Text) (m : ChartSite) :
    ((warningsAt markdown m).map fun w => (w.chartCode, w.line, w.reason.kind)) =
      marks markdown m (hasProse (linesAbove (splitlines markdown) markdown m))
        (decide (m.stop < markdown.length) &&
          hasCaption (linesBelow (splitlines markdown) markdown m)) := by
  have hprose : ∀ above : List Text,
      (proseWarnings (above.reverse.find? fun l => !isBlankLine l)).map Reason.kind =
        if hasProse above then [] else [.prose] := by
    intro above
    rw [hasProse]
    cases above.reverse.find? fun l => !isBlankLine l with
    | none => rfl
    | some l => cases h : isHeading l <;> simp [proseWarnings, h, Reason.kind]
  have hcaption : (captionWarnings markdown (splitlines markdown) m).map Reason.kind =
      if decide (m.stop < markdown.length) &&
        hasCaption (linesBelow (splitlines markdown) markdown m) then [] else [.caption] := by
    rw [captionWarnings, scanDown, hasCaption, linesBelow]
    by_cases hend : markdown.length ≤ m.stop
    · rw [if_pos hend, decide_eq_false (Nat.not_lt.mpr hend)]
      rfl
    · rw [if_neg hend, decide_eq_true (Nat.lt_of_not_le hend), Bool.true_and]
      cases ((splitlines markdown).drop (lineIdx markdown m.stop + 1)).find?
          fun l => !isBlankLine l with
      | none => rfl
      | some l => cases h : isCaption l <;> simp [h, Reason.kind]
  rw [warningsAt, List.map_map, marks, lacks, ← hprose, ← hcaption, ← List.map_append,
    List.map_map]
  rfl

end Reading

/-! ### Fence by fence -/

section

/-- Two lists put together from parts, whose elements tell the parts apart, are equal
part by part. -/
theorem flatMap_eq_iff_of_key {α β κ : Type*} [DecidableEq κ] {key : β → κ} {k : α → κ}
    {f g : α → List β} {xs : List α} (hf : ∀ x ∈ xs, ∀ b ∈ f x, key b = k x)
    (hg : ∀ x ∈ xs, ∀ b ∈ g x, key b = k x) (hne : xs.Pairwise fun x y => k x ≠ k y) :
    xs.flatMap f = xs.flatMap g ↔ ∀ x ∈ xs, f x = g x := by
  refine ⟨?_, List.flatMap_congr⟩
  induction xs with
  | nil => exact fun _ => nofun
  | cons x xs ih =>
    obtain ⟨hx, hxs⟩ := List.pairwise_cons.mp hne
    -- the elements of the first part are the ones with its key
    have hfirst : ∀ {h : α → List β}, (∀ y ∈ x :: xs, ∀ b ∈ h y, key b = k y) →
        ((x :: xs).flatMap h).filter (fun b => key b = k x) = h x := by
      intro h hkey
      rw [List.flatMap_cons, List.filter_append, List.filter_eq_self.mpr,
        List.filter_eq_nil_iff.mpr, List.append_nil]
      · intro b hb
        obtain ⟨y, hy, hby⟩ := List.mem_flatMap.mp hb
        rw [hkey y (List.mem_cons_of_mem _ hy) b hby, decide_eq_true_eq]
        exact Ne.symm (hx y hy)
      · intro b hb
        exact decide_eq_true (hkey x List.mem_cons_self b hb)
    intro heq
    have hhead : f x = g x := by
      rw [← hfirst hf, heq, hfirst hg]
    rw [List.flatMap_cons, List.flatMap_cons, hhead] at heq
    have hrest := ih (fun y hy => hf y (List.mem_cons_of_mem _ hy))
      (fun y hy => hg y (List.mem_cons_of_mem _ hy)) hxs (List.append_cancel_left heq)
    intro y hy
    rcases List.mem_cons.mp hy with rfl | hy
    · exact hhead
    · exact hrest y hy

variable {markdown : Text} {m : ChartSite}

/-- Where an annotated fence lies; it has a line break in it. -/
theorem exists_of_mem_chartSites (h : m ∈ chartSites markdown) :
    ∃ u v, markdown = u ++ (m.2.1 ++ v) ∧ m.start = u.length ∧ '\n' ∈ m.2.1 := by
  obtain ⟨u, v, rfl, hstart, hfind⟩ := Pattern.mem_finditerFrom h
  refine ⟨u, v, rfl, by rw [ChartSite.start, hstart, Nat.zero_add], ?_⟩
  obtain ⟨comment, rest, -, heq, hoffset, hlength⟩ := chartBlockAt_eq_some hfind
  -- the opening line ends inside the match
  have hopening : comment ++ opening <+: m.2.1 ++ v := by
    rw [heq, ← List.append_assoc]
    exact List.prefix_append _ _
  have hle : comment ++ opening <+: m.2.1 := by
    refine List.prefix_of_prefix_length_le hopening (List.prefix_append _ _) ?_
    rw [List.length_append]
    omega
  exact hle.subset (List.mem_append_right _ (by decide))

/-- The line of an annotation is above that of the closing fence. -/
theorem lineIdx_start_lt (h : m ∈ chartSites markdown) :
    lineIdx markdown m.start < lineIdx markdown m.stop := by
  obtain ⟨u, v, rfl, hstart, hmem⟩ := exists_of_mem_chartSites h
  have hstop : m.stop = (u ++ m.2.1).length := by
    rw [List.length_append, ← hstart]
    rfl
  rw [lineIdx, lineIdx, hstop, hstart, List.take_left, ← List.append_assoc, List.take_left,
    List.count_append]
  have hpos := List.count_pos_iff.mpr hmem
  omega

theorem lineIdx_mono (markdown : Text) {i j : ℕ} (h : i ≤ j) :
    lineIdx markdown i ≤ lineIdx markdown j :=
  (List.take_sublist_take_left h).count_le _

theorem pairwise_lineIdx (markdown : Text) :
    (chartSites markdown).Pairwise fun m m' =>
      lineIdx markdown m.start + 1 ≠ lineIdx markdown m'.start + 1 := by
  refine (chartBlock.pairwise_finditer markdown).imp_of_mem fun hm _ hle heq => ?_
  have hlt := lineIdx_start_lt hm
  have hmono := lineIdx_mono markdown hle
  simp only [ChartSite.start, ChartSite.stop] at *
  omega

theorem marks_inj {p c p' c' : Bool} :
    marks markdown m p c = marks markdown m p' c' ↔ p = p' ∧ c = c' := by
  have hinj : Function.Injective fun kind : WarningKind =>
      (m.chartCode, lineIdx markdown m.start + 1, kind) := by
    intro kind kind' h
    exact (Prod.mk.inj (Prod.mk.inj h).2).2
  rw [marks, marks, (List.map_injective_iff.mpr hinj).eq_iff]
  revert p c p' c'
  decide

theorem mem_marks {p c : Bool} {x : Text × ℕ × WarningKind} (h : x ∈ marks markdown m p c) :
    x.2.1 = lineIdx markdown m.start + 1 := by
  obtain ⟨kind, -, rfl⟩ := List.mem_map.mp h
  rfl

theorem captionBelow_of_end (h : markdown.length ≤ m.stop) : CaptionBelow markdown m = false := by
  have hnil : linesBelow (newlinePieces markdown) markdown m = [] := by
    refine List.drop_of_length_le ?_
    rw [length_newlinePieces, lineIdx, List.take_of_length_le h]
  rw [CaptionBelow, hnil]
  rfl

/-- The warnings by the definition are none exactly when every fence has both. -/
theorem specified_eq_nil_iff (markdown : Text) : specified markdown = [] ↔
    ∀ m ∈ chartSites markdown, ProseAbove markdown m ∧ CaptionBelow markdown m := by
  rw [specified, List.flatMap_eq_nil_iff]
  refine forall₂_congr fun m _ => ?_
  rw [marks, List.map_eq_nil_iff]
  cases ProseAbove markdown m <;> cases CaptionBelow markdown m <;> simp [lacks]

/-- **The check equals its definition exactly when each fence is judged alike** by the
lines and by the pieces of the same numbers. -/
theorem interleaving_iff_judgedAlike (markdown : Text) :
    Interleaving markdown ↔ ∀ m ∈ chartSites markdown, JudgedAlike markdown m := by
  have hmarks : (((chartSites markdown).flatMap (warningsAt markdown)).map
      fun w => (w.chartCode, w.line, w.reason.kind)) = (chartSites markdown).flatMap fun m =>
        marks markdown m (hasProse (linesAbove (splitlines markdown) markdown m))
          (decide (m.stop < markdown.length) &&
            hasCaption (linesBelow (splitlines markdown) markdown m)) := by
    rw [List.map_flatMap]
    exact List.flatMap_congr fun m _ => marks_warningsAt markdown m
  have hexact : ((chartSites markdown).flatMap (warningsAt markdown)).map
      (fun w => (w.chartCode, w.line, w.reason.kind)) = specified markdown ↔
      ∀ m ∈ chartSites markdown, JudgedAlike markdown m := by
    rw [hmarks, specified, flatMap_eq_iff_of_key (fun _ _ _ => mem_marks) (fun _ _ _ => mem_marks)
      (pairwise_lineIdx markdown)]
    refine forall₂_congr fun m _ => ?_
    rw [marks_inj]
    constructor
    · rintro ⟨hprose, hcaption⟩
      refine ⟨hprose, fun hlt => ?_⟩
      rwa [decide_eq_true hlt, Bool.true_and] at hcaption
    · intro h
      refine ⟨h.prose, ?_⟩
      by_cases hlt : m.stop < markdown.length
      · rw [decide_eq_true hlt, Bool.true_and]
        exact h.caption hlt
      · rw [decide_eq_false hlt, captionBelow_of_end (Nat.le_of_not_lt hlt)]
        rfl
  constructor
  · intro h
    obtain ⟨ws, hws, heq⟩ := h.exact
    rw [validate_eq] at hws
    cases hws
    exact hexact.mp heq
  · intro h
    have heq := hexact.mpr h
    refine ⟨⟨_, validate_eq markdown, heq⟩, ?_⟩
    rw [← specified_eq_nil_iff, ← heq, List.map_eq_nil_iff, validate_eq]
    exact ⟨fun hok => Except.ok.inj hok, congrArg Except.ok⟩

end

/-! ### Plain pieces -/

section Plain

variable {l t : Text} {ls : List Text}

theorem dropWhile_concat_return (x : Text) : (x ++ ['\r']).dropWhile isSpace =
    if x.dropWhile isSpace = [] then [] else x.dropWhile isSpace ++ ['\r'] := by
  rw [List.dropWhile_append]
  by_cases h : x.dropWhile isSpace = []
  · rw [if_pos h, h]
    decide
  · rw [if_neg h, if_neg (by simpa using h)]

theorem isBlankLine_concat_return (x : Text) : isBlankLine (x ++ ['\r']) = isBlankLine x := by
  have hreturn : isSpace '\r' = true := by decide
  rw [Bool.eq_iff_iff, isBlankLine_iff, isBlankLine_iff]
  simp [or_imp, forall_and, hreturn]

theorem isHeading_concat_return (x : Text) : isHeading (x ++ ['\r']) = isHeading x := by
  rw [isHeading, isHeading, dropWhile_concat_return]
  split
  · next h => rw [h]
  · next h => rw [List.head?_append_of_ne_nil _ h]

theorem isCaption_concat_return (x : Text) : isCaption (x ++ ['\r']) = isCaption x := by
  rw [isCaption, isCaption, dropWhile_concat_return]
  by_cases hx : x.dropWhile isSpace = []
  · rw [if_pos hx, hx]
  rw [if_neg hx, afterPrefix_append_cons (by decide)]
  cases afterPrefix ['>'] (x.dropWhile isSpace) with
  | none => rfl
  | some rest =>
    rw [Option.map_some]
    dsimp only
    rw [dropWhile_concat_return]
    by_cases hrest : rest.dropWhile isSpace = []
    · rw [if_pos hrest, hrest]
    rw [if_neg hrest, afterPrefix_append_cons (by decide)]
    cases afterPrefix "图说明".toList (rest.dropWhile isSpace) with
    | none => rfl
    | some more => cases more <;> rfl

/-- A carriage return at the end of a line changes nothing of what it is checked
for. -/
theorem judged_chomp (l : Text) : isBlankLine (chomp l) = isBlankLine l ∧
    isHeading (chomp l) = isHeading l ∧ isCaption (chomp l) = isCaption l := by
  rcases chomp_cases l with h | h
  · rw [← h]
    exact ⟨rfl, rfl, rfl⟩
  · conv => enter [1, 2]; rw [h]
    conv => enter [2, 1, 2]; rw [h]
    conv => enter [2, 2, 2]; rw [h]
    exact ⟨(isBlankLine_concat_return _).symm, (isHeading_concat_return _).symm,
      (isCaption_concat_return _).symm⟩

theorem find?_map_chomp (ls : List Text) : (ls.map chomp).find? (fun l => !isBlankLine l) =
    (ls.find? fun l => !isBlankLine l).map chomp := by
  rw [List.find?_map]
  congr 1
  refine congrArg (fun q => ls.find? q) (funext fun l => ?_)
  rw [Function.comp_apply, (judged_chomp l).1]

theorem hasProse_map_chomp (ls : List Text) : hasProse (ls.map chomp) = hasProse ls := by
  rw [hasProse, hasProse, ← List.map_reverse, find?_map_chomp]
  cases ls.reverse.find? fun l => !isBlankLine l with
  | none => rfl
  | some l =>
    rw [Option.map_some]
    dsimp only
    rw [(judged_chomp l).2.1]

theorem find?_splitlines_of_blank (h : isBlankLine l = true) :
    (splitlines (l ++ ['\n'])).find? (fun l => !isBlankLine l) = none ∧
      (splitlines l).find? (fun l => !isBlankLine l) = none := by
  have hblank : ∀ t : Text, (∀ c ∈ t, isSpace c = true) →
      (splitlines t).find? (fun l => !isBlankLine l) = none := by
    intro t ht
    refine List.find?_eq_none.mpr fun l' hl' => ?_
    rw [isBlankLine_iff.mpr fun c hc => ht c (subset_of_mem_splitlines hl' hc)]
    simp
  have hl := isBlankLine_iff.mp h
  refine ⟨hblank _ fun c hc => ?_, hblank _ hl⟩
  rcases List.mem_append.mp hc with hc | hc
  · exact hl c hc
  · rw [List.mem_singleton.mp hc]
    decide

/-- **The nearest line that is not blank** is the nearest piece that is not, where that
one is plain. -/
theorem find?_splitlines_joined {qs : List Text}
    (h : ∀ l, qs.find? (fun l => !isBlankLine l) = some l → PlainPiece l) :
    (splitlines (joined qs)).find? (fun l => !isBlankLine l) =
      (qs.find? fun l => !isBlankLine l).map chomp := by
  induction qs with
  | nil => rfl
  | cons q qs ih =>
    rw [List.find?_cons] at h ⊢
    cases hblank : isBlankLine q with
    | true =>
      rw [hblank] at h
      refine Eq.trans ?_ (ih h)
      obtain ⟨hbroken, hlast⟩ := find?_splitlines_of_blank hblank
      by_cases hnil : qs = []
      · rw [hnil, joined_singleton, hlast]
        rfl
      · rw [joined_cons q hnil, splitlines_append_break, List.find?_append, hbroken, Option.none_or]
    | false =>
      rw [hblank] at h
      have hplain := h q rfl
      have hfirst : ∀ ls : List Text,
          (chomp q :: ls).find? (fun l => !isBlankLine l) = some (chomp q) := by
        intro ls
        rw [List.find?_cons, (judged_chomp q).1, hblank]
        rfl
      have hne : q ≠ [] := by
        rintro rfl
        cases hblank
      by_cases hnil : qs = []
      · rw [hnil, joined_singleton, splitlines_plain hplain, if_neg hne, hfirst]
        rfl
      · rw [joined_cons q hnil, splitlines_plain_append hplain, hfirst]
        rfl

theorem hasCaption_splitlines_joined {qs : List Text}
    (h : ∀ l, qs.find? (fun l => !isBlankLine l) = some l → PlainPiece l) :
    hasCaption (splitlines (joined qs)) = hasCaption qs := by
  rw [hasCaption, hasCaption, find?_splitlines_joined h]
  cases qs.find? fun l => !isBlankLine l with
  | none => rfl
  | some l =>
    rw [Option.map_some]
    dsimp only
    rw [(judged_chomp l).2.2]

end Plain

/-! ### When the check equals its definition -/

section Exact

variable {markdown : Text} {m : ChartSite}

theorem lineIdx_lt (markdown : Text) (pos : ℕ) :
    lineIdx markdown pos < (newlinePieces markdown).length := by
  rw [length_newlinePieces]
  exact Nat.lt_succ_of_le ((List.take_sublist pos markdown).count_le _)

/-- **A fence is judged alike** where no boundary but a line break stands before the
line that decides. -/
theorem PlainTo.judgedAlike (h : PlainTo markdown m) : JudgedAlike markdown m where
  prose := by
    have hlt := lineIdx_lt markdown m.start
    rw [ProseAbove, linesAbove, linesAbove, splitlines_of_plain_take hlt h.above,
      List.take_left' (by rw [List.length_map, List.length_take]; omega), hasProse_map_chomp]
  caption hend := by
    have hthrough := h.through hend
    rw [CaptionBelow, linesBelow, linesBelow]
    by_cases hlt : lineIdx markdown m.stop + 1 < (newlinePieces markdown).length
    · rw [splitlines_of_plain_take hlt hthrough,
        List.drop_left' (by rw [List.length_map, List.length_take]; omega)]
      exact hasCaption_splitlines_joined (h.deciding hend)
    · -- the closing fence stands on the last line
      have hge := Nat.le_of_not_lt hlt
      rw [List.take_of_length_le hge] at hthrough
      rw [List.drop_of_length_le hge,
        List.drop_of_length_le ((length_splitlines_le hthrough).trans hge)]

/-- **When the check equals its definition.**  It does where no boundary but a line
break, or a carriage return before one, stands before the line that decides of a fence;
and in general exactly when every fence is judged alike by the lines of the same
numbers. -/
theorem interleaving_iff (markdown : Text) :
    ((∀ m ∈ chartSites markdown, PlainTo markdown m) → Interleaving markdown) ∧
      (Interleaving markdown ↔ ∀ m ∈ chartSites markdown, JudgedAlike markdown m) :=
  ⟨fun h => (interleaving_iff_judgedAlike markdown).mpr fun m hm => (h m hm).judgedAlike,
    interleaving_iff_judgedAlike markdown⟩

/-- A chart with its caption, below a line that ends with a carriage return. -/
def plainChart : Text := ("Orders and payments.\r\n<!-- chart: D-SEQ -->\n" ++
  "```mermaid\nsequenceDiagram\n```\n\n> 图说明: one call.\n").toList

/-- The chart is found and judged as it should be. -/
theorem interleaving_iff_sample :
    (chartSites plainChart).length = 1 ∧ Interleaving plainChart := by
  refine ⟨by decide +kernel, (interleaving_iff plainChart).1 fun m hm => ?_⟩
  constructor
  case above => revert m; decide +kernel
  case through => intro _; revert m; decide +kernel
  case deciding =>
    intro _ l hl
    rw [← Option.mem_def] at hl
    revert l
    revert m
    decide +kernel

/-- A chart with its caption, below a line with a line separator in it. -/
def separatedChart : Text := ("Orders\u2028and payments.\n<!-- chart: D-SEQ -->\n" ++
  "```mermaid\nsequenceDiagram\n```\n> 图说明: one call.\n").toList

/-- **The chart is warned of though it has both**, prose and caption: where its caption
is looked for stands the closing line of its fence. -/
theorem interleaving_counterexample :
    validateChartProseInterleaving separatedChart =
        .ok [⟨"D-SEQ".toList, 2, .noCaption (some "```".toList)⟩] ∧
      specified separatedChart = [] ∧ ¬Interleaving separatedChart := by
  have hwarned : (chartSites separatedChart).flatMap (warningsAt separatedChart) =
      [⟨"D-SEQ".toList, 2, .noCaption (some "```".toList)⟩] := by decide +kernel
  have hnone : specified separatedChart = [] := by decide +kernel
  refine ⟨by rw [validate_eq, hwarned], hnone, fun h => ?_⟩
  have hclean := h.clean.mpr ((specified_eq_nil_iff separatedChart).mp hnone)
  rw [validate_eq, hwarned] at hclean
  cases hclean

end Exact

end Docs
end Shrimp
