import Shrimp.Docs.Reannotate

/-!
# What annotation inserts (`doc_output/template_engine.py`)

An annotated fence is not the fence with a comment line above it: it is rebuilt from
its parts, and its closing line comes back with the indentation of its opening line.

## Main definitions

* `Stretch`, `stretches` — the annotated text, as what is kept and what is inserted.
* `withoutComments` — the annotated text with the inserted lines deleted.
* `InsertsOnly` — that is the content, and every inserted line stands above its fence.
* `annotatedFences` — the annotated fences, as they stand in the content.

## Main results

* `text_stretches` — the stretches are the annotated text.
* `above_of_inserted` — where an inserted line stands.
* `insertsOnly_iff` — **annotation only inserts lines exactly when the closing line of
  every annotated fence is indented like its opening line.**
-/

namespace Shrimp
namespace Docs

/-- A stretch of an annotated text. -/
inductive Stretch
  | kept (t : Text)
  /-- The comment line of a fence, with its indentation and its line break. -/
  | inserted (chartCode : Text) (f : Fence)

namespace Stretch

def text : Stretch → Text
  | kept t => t
  | inserted chartCode f => f.indent ++ annotationLine chartCode

/-- What is left when the inserted lines are deleted. -/
def remaining : Stretch → Text
  | kept t => t
  | inserted .. => []

end Stretch

/-- The stretches a fence is annotated as: what `_replace` returns. -/
def fenceStretches (isWord : Char → Bool) (before found : Text) (f : Fence) : List Stretch :=
  match annotationOf isWord before f with
  | none => [.kept found]
  | some chartCode =>
    [.kept ['\n'], .inserted chartCode f,
      .kept (f.indent ++ opening ++ f.body ++ '\n' :: (f.indent ++ "```".toList))]

/-- The stretches of the pieces of a text. -/
def stretchesFrom (isWord : Char → Bool) : Text → List (Piece Char Fence) → List Stretch
  | _, [] => []
  | before, .symbol c :: ps => .kept [c] :: stretchesFrom isWord (before ++ [c]) ps
  | before, .found s f :: ps =>
    fenceStretches isWord before s f ++ stretchesFrom isWord (before ++ s) ps

/-- **The stretches of an annotated content**, from the line break it is read behind. -/
def stretches (isWord : Char → Bool) (content : Text) : List Stretch :=
  stretchesFrom isWord [] (mermaidFence.pieces ('\n' :: content))

/-- The annotated text with the inserted lines deleted. -/
def withoutComments (isWord : Char → Bool) (content : Text) : Text :=
  ((stretches isWord content).flatMap Stretch.remaining).drop 1

/-- **A line that is inserted stands right above the opening line of its fence**, the
fence it was chosen for. -/
structure Above (isWord : Char → Bool) (content : Text) (before : List Stretch) (chartCode : Text)
    (f : Fence) (after : List Stretch) : Prop where
  chosen : classifyMermaidBody isWord f.body = some chartCode
  fence : ∃ s, .found s f ∈ mermaidFence.pieces ('\n' :: content)
  line : (before.flatMap Stretch.text).getLast? = some '\n'
  next : f.indent ++ (opening ++ f.body) <+: after.flatMap Stretch.text

/-- **Annotation only inserts comment lines.** -/
structure InsertsOnly (isWord : Char → Bool) (content : Text) : Prop where
  /-- The stretches are the annotated text, behind the line break. -/
  annotated : (stretches isWord content).flatMap Stretch.text =
    '\n' :: annotateMermaidBlocks isWord content
  restored : withoutComments isWord content = content
  above : ∀ before chartCode f after,
    stretches isWord content = before ++ .inserted chartCode f :: after →
      Above isWord content before chartCode f after

/-- The fences that are annotated among the pieces of a text, with the text found. -/
def annotatedFrom (isWord : Char → Bool) : Text → List (Piece Char Fence) → List (Text × Fence)
  | _, [] => []
  | before, .symbol c :: ps => annotatedFrom isWord (before ++ [c]) ps
  | before, .found s f :: ps =>
    if (annotationOf isWord before f).isSome then
      (s, f) :: annotatedFrom isWord (before ++ s) ps
    else annotatedFrom isWord (before ++ s) ps

/-- **The fences that are annotated**, as they stand in the content. -/
def annotatedFences (isWord : Char → Bool) (content : Text) : List (Text × Fence) :=
  annotatedFrom isWord [] (mermaidFence.pieces ('\n' :: content))

/-- The indentation of the closing line: the blanks before the last three characters. -/
def closingIndent (found : Text) : Text :=
  ((found.reverse.drop 3).takeWhile isBlank).reverse

section

variable {isWord : Char → Bool} {before : Text}

/-! ### The annotated text -/

theorem text_fenceStretches (found : Text) (f : Fence) :
    (fenceStretches isWord before found f).flatMap Stretch.text =
      replaceFence isWord before found f := by
  unfold fenceStretches replaceFence
  cases annotationOf isWord before f with
  | none => exact List.append_nil found
  | some chartCode =>
    simp only [List.flatMap_cons, List.flatMap_nil, Stretch.text, annotatedFence,
      List.append_nil, List.append_assoc, List.cons_append, List.nil_append]

/-- **The stretches are the annotated text.** -/
theorem text_stretches (isWord : Char → Bool) (content : Text) :
    (stretches isWord content).flatMap Stretch.text =
      '\n' :: annotateMermaidBlocks isWord content := by
  have hfrom : ∀ (ps : List (Piece Char Fence)) (before : Text),
      (stretchesFrom isWord before ps).flatMap Stretch.text =
        Pattern.renderFrom (replaceFence isWord) before ps := by
    intro ps
    induction ps with
    | nil => exact fun _ => rfl
    | cons piece ps ih =>
      intro before
      cases piece with
      | symbol c => rw [stretchesFrom, List.flatMap_cons, ih, Pattern.renderFrom]; rfl
      | found s f =>
        rw [stretchesFrom, List.flatMap_append, text_fenceStretches, ih, Pattern.renderFrom]
  rw [stretches, hfrom]
  exact cons_annotateMermaidBlocks isWord content

/-! ### Where the lines stand -/

theorem getLast?_text_append {xs ys : List Stretch}
    (h : (ys.flatMap Stretch.text).getLast? = some '\n') :
    ((xs ++ ys).flatMap Stretch.text).getLast? = some '\n' := by
  rw [List.flatMap_append, List.getLast?_append, h]
  rfl

/-- An inserted line of a fence, or one behind it. -/
theorem inserted_cases {found : Text} {f g : Fence} {chartCode : Text}
    {rest before' after : List Stretch}
    (h : fenceStretches isWord before found f ++ rest =
      before' ++ .inserted chartCode g :: after) :
    (∃ more, before' = fenceStretches isWord before found f ++ more ∧
        rest = more ++ .inserted chartCode g :: after) ∨
      annotationOf isWord before f = some chartCode ∧ g = f ∧ before' = [.kept ['\n']] ∧
        after = .kept (f.indent ++ opening ++ f.body ++ '\n' :: (f.indent ++ "```".toList)) ::
          rest := by
  unfold fenceStretches at h ⊢
  cases hcode : annotationOf isWord before f with
  | none =>
    rw [hcode] at h
    cases before' with
    | nil => cases h
    | cons x before' =>
      obtain ⟨rfl, hrest⟩ := List.cons.inj h
      exact .inl ⟨before', rfl, hrest⟩
  | some code =>
    rw [hcode] at h
    rcases before' with _ | ⟨x, _ | ⟨y, _ | ⟨z, before'⟩⟩⟩ <;>
      simp only [List.cons_append, List.nil_append, List.cons.injEq, reduceCtorEq, false_and,
        and_false, Stretch.inserted.injEq] at h
    · obtain ⟨rfl, ⟨rfl, rfl⟩, rfl⟩ := h
      exact .inr ⟨rfl, rfl, rfl, rfl⟩
    · obtain ⟨rfl, rfl, rfl, hrest⟩ := h
      exact .inl ⟨before', rfl, hrest⟩

/-- **Where an inserted line stands.** -/
theorem above_of_inserted {ps : List (Piece Char Fence)} {before' after : List Stretch}
    {chartCode : Text} {f : Fence}
    (h : stretchesFrom isWord before ps = before' ++ .inserted chartCode f :: after) :
    classifyMermaidBody isWord f.body = some chartCode ∧ (∃ s, .found s f ∈ ps) ∧
      (before'.flatMap Stretch.text).getLast? = some '\n' ∧
        f.indent ++ (opening ++ f.body) <+: after.flatMap Stretch.text := by
  induction ps generalizing before before' with
  | nil => simp [stretchesFrom] at h
  | cons piece ps ih =>
    cases piece with
    | symbol c =>
      cases before' with
      | nil => cases h
      | cons x before' =>
        obtain ⟨rfl, hrest⟩ := List.cons.inj h
        obtain ⟨hclassify, ⟨s, hs⟩, hline, hnext⟩ := ih hrest
        exact ⟨hclassify, ⟨s, List.mem_cons_of_mem _ hs⟩,
          @getLast?_text_append [.kept [c]] _ hline, hnext⟩
    | found s g =>
      rcases inserted_cases h with ⟨more, rfl, hrest⟩ | ⟨hcode, rfl, rfl, rfl⟩
      · obtain ⟨hclassify, ⟨s', hs'⟩, hline, hnext⟩ := ih hrest
        exact ⟨hclassify, ⟨s', List.mem_cons_of_mem _ hs'⟩, getLast?_text_append hline, hnext⟩
      · refine ⟨classify_of_annotationOf hcode, ⟨s, List.mem_cons_self⟩, rfl, ?_⟩
        rw [List.flatMap_cons, Stretch.text, ← List.append_assoc f.indent]
        exact (List.prefix_append _ _).trans (List.prefix_append _ _)

/-! ### The content restored -/

theorem closingIndent_written {f : Fence} {close : Text} (h : ∀ c ∈ close, isBlank c = true) :
    closingIndent (f.written close) = close := by
  have hrev : (f.written close).reverse = ['`', '`', '`'] ++ (close.reverse ++
      '\n' :: ('\n' :: (f.indent ++ (opening ++ f.body))).reverse) := by
    unfold Fence.written
    simp
  unfold closingIndent
  rw [hrev, List.drop_left' (by rfl), List.takeWhile_append_cons (by decide),
    List.takeWhile_eq_self_iff.mpr fun c hc => h c (List.mem_reverse.mp hc), List.reverse_reverse]

/-- Two fences that differ in their closing lines make different texts. -/
theorem written_append_inj {f : Fence} {close close' : Text}
    (h : ∀ c ∈ close, isBlank c = true) (h' : ∀ c ∈ close', isBlank c = true) {X Y : Text} :
    f.written close ++ X = f.written close' ++ Y ↔ close = close' ∧ X = Y := by
  constructor
  · intro heq
    unfold Fence.written at heq
    simp only [List.cons_append, List.append_assoc] at heq
    have htail := (List.cons.inj (List.append_cancel_left (List.append_cancel_left
      (List.append_cancel_left (List.cons.inj heq).2)))).2
    obtain ⟨htake, hdrop⟩ := takeWhile_blanks h ("``".toList ++ X)
    obtain ⟨htake', hdrop'⟩ := takeWhile_blanks h' ("``".toList ++ Y)
    change close ++ '`' :: ("``".toList ++ X) = close' ++ '`' :: ("``".toList ++ Y) at htail
    rw [htail] at htake hdrop
    refine ⟨htake.symm.trans htake', ?_⟩
    exact List.append_cancel_left (List.cons.inj (hdrop.symm.trans hdrop')).2
  · rintro ⟨rfl, rfl⟩
    rfl

theorem remaining_fenceStretches (found : Text) (f : Fence) :
    (fenceStretches isWord before found f).flatMap Stretch.remaining =
      if (annotationOf isWord before f).isSome then f.written f.indent else found := by
  unfold fenceStretches
  cases annotationOf isWord before f with
  | none => exact List.append_nil found
  | some chartCode =>
    simp only [List.flatMap_cons, List.flatMap_nil, Stretch.remaining, Fence.written,
      Option.isSome_some, if_true, List.append_nil, List.append_assoc, List.cons_append,
      List.nil_append]

/-- **Along the scan**: what is left is the text exactly when every annotated fence is
closed as it is opened. -/
theorem remaining_stretchesFrom_iff (t : Text) (before : Text) :
    (stretchesFrom isWord before (mermaidFence.pieces t)).flatMap Stretch.remaining = t ↔
      ∀ m ∈ annotatedFrom isWord before (mermaidFence.pieces t),
        closingIndent m.1 = m.2.indent := by
  induction t using mermaidFence.induction generalizing before with
  | nil => exact iff_of_true rfl fun m hm => by cases hm
  | symbol a t hnone ih =>
    rw [Pattern.pieces_of_eq_none hnone, stretchesFrom, annotatedFrom, ← ih (before ++ [a])]
    exact List.cons_inj_right a
  | found t n f hsome ih =>
    obtain ⟨close, rest, hindent, -, hclose, rfl, rfl⟩ := mermaidFenceAt_eq_some_iff.mp hsome
    rw [List.drop_left] at ih
    rw [Pattern.pieces_of_eq_some hsome, List.take_left, List.drop_left, stretchesFrom,
      annotatedFrom, List.flatMap_append, remaining_fenceStretches]
    split
    · rw [List.forall_mem_cons, ← ih (before ++ f.written close), closingIndent_written hclose,
        written_append_inj hindent hclose, eq_comm (a := f.indent)]
    · rw [← ih (before ++ f.written close), List.append_right_inj]

end

/-- **Annotation only inserts comment lines exactly when the closing line of every
annotated fence is indented like its opening line.** -/
theorem insertsOnly_iff (isWord : Char → Bool) (content : Text) :
    InsertsOnly isWord content ↔
      ∀ m ∈ annotatedFences isWord content, closingIndent m.1 = m.2.indent := by
  have habove : ∀ before chartCode f after,
      stretches isWord content = before ++ .inserted chartCode f :: after →
        Above isWord content before chartCode f after := by
    intro before chartCode f after h
    obtain ⟨hchosen, hfence, hline, hnext⟩ := above_of_inserted h
    exact ⟨hchosen, hfence, hline, hnext⟩
  -- the first character left is the line break the content is read behind
  have hhead : (stretches isWord content).flatMap Stretch.remaining =
      '\n' :: withoutComments isWord content := by
    unfold withoutComments stretches
    cases hfind : mermaidFence.find ('\n' :: content) with
    | none =>
      rw [Pattern.pieces_of_eq_none hfind]
      rfl
    | some m =>
      obtain ⟨n, f⟩ := m
      have hfence : mermaidFenceAt ('\n' :: content) = some (n, f) := hfind
      obtain ⟨close, rest, -, -, -, heq, rfl⟩ := mermaidFenceAt_eq_some_iff.mp hfence
      rw [Pattern.pieces_of_eq_some hfind, heq, List.take_left, List.drop_left, stretchesFrom,
        List.flatMap_append, remaining_fenceStretches]
      split
      · rfl
      · rfl
  rw [annotatedFences, ← remaining_stretchesFrom_iff, ← stretches, hhead, List.cons_inj_right]
  exact ⟨fun h => h.restored, fun h => ⟨text_stretches isWord content, h, habove⟩⟩

/-- A fence whose closing line is indented and whose opening line is not. -/
def unevenFence : Text := "```mermaid\nsequenceDiagram\n  ```\n".toList

/-- The closing line loses its indentation. -/
theorem insertsOnly_counterexample :
    annotateMermaidBlocks asciiWord unevenFence =
        "<!-- chart: D-SEQ -->\n```mermaid\nsequenceDiagram\n```\n".toList ∧
      ¬InsertsOnly asciiWord unevenFence := by
  refine ⟨by decide +kernel, fun h => ?_⟩
  have hrestored := h.restored
  revert hrestored
  decide +kernel

end Docs
end Shrimp
