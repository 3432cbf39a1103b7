import Shrimp.Docs.Lines
import Shrimp.Lib.JsonText

/-!
# What `lark-cli` prints (`doc_output/chart_publisher.py`)

`lark-cli` prints notices before the JSON object that is its answer.  The output is cut
into lines, the lines before the first that begins with a brace are dropped, and the
others are glued together by line breaks and parsed.

`str.splitlines` ends a line at characters that may stand raw in a JSON string, and a
line break may not: an answer with one of them cannot be parsed.

## Main definitions

* `parseLarkJson` — `_parse_lark_json`.
* `LarkOutput` — notices and the text of an object, which is valid JSON.
* `isRawBoundary` — the boundaries that may stand raw in a JSON string.

## Main results

* `loads_joined_splitlines` — what cutting and gluing does to a JSON text.
* `splitlines_stdout` — the lines of the output.
* `parseLarkJson_iff` — **the output is parsed to the value of the object exactly when
  no line of a notice begins with a brace, and the text has no raw boundary.**
-/

namespace Shrimp
namespace Docs

open JsonText (Lexer Value)

/-! ### Parsing -/

/-- The exceptions of `_parse_lark_json`. -/
inductive LarkError
  /-- `ChartPublishError` with its text. -/
  | chartPublishError (text : Text)
  /-- `json.JSONDecodeError`. -/
  | jsonDecodeError

/-- `json.loads`. -/
def jsonLoads (t : Text) : Except LarkError Value :=
  match JsonText.loads t with
  | some v => .ok v
  | none => .error .jsonDecodeError

/-- `line.lstrip().startswith("{")`. -/
def startsObject (line : Text) : Bool := (line.dropWhile isSpace).head? = some '{'

/-- The loop of `_parse_lark_json`, at the lines that are left. -/
def parseFrom (stdout : Text) : List Text → Except LarkError Value
  | [] => .error (.chartPublishError
      ("could not find JSON object in lark-cli output:\n".toList ++ stdout))
  | line :: lines =>
    if startsObject line then jsonLoads (joined (line :: lines)) else parseFrom stdout lines

/-- `_parse_lark_json`. -/
def parseLarkJson (stdout : Text) : Except LarkError Value := parseFrom stdout (splitlines stdout)

/-! ### The output -/

/-- Notices before the text of an object. -/
structure LarkOutput where
  notices : List Text
  notice_line : ∀ n ∈ notices, '\n' ∉ n
  notice_plain : ∀ n ∈ notices, startsObject n = false
  text : Text
  text_brace : text.head? = some '{'
  value : Value
  /-- The text is valid JSON. -/
  valid : JsonText.loads text = some value

/-- What `lark-cli` prints. -/
def LarkOutput.stdout (o : LarkOutput) : Text := joined (o.notices ++ [o.text])

/-- The boundaries of lines that may stand raw in a JSON string. -/
def isRawBoundary (c : Char) : Bool := c.val == 0x85 || c.val == 0x2028 || c.val == 0x2029

/-! ### Cutting and gluing a JSON text -/

section

variable {c : Char} {t : Text} {st : Lexer}

theorem isGraphic_of_isSpace (h : isSpace c = true) : JsonText.isGraphic c = false := by
  rw [JsonText.isGraphic, Bool.eq_false_iff]
  intro hgraphic
  simp only [isSpace, Bool.or_eq_true, Bool.and_eq_true, decide_eq_true_eq, beq_iff_eq,
    UInt32.le_iff_toNat_le, ← UInt32.toNat_inj, UInt32.reduceToNat] at h hgraphic
  omega

theorem isGraphic_of_isLineBoundary (h : isLineBoundary c = true) :
    JsonText.isGraphic c = false :=
  isGraphic_of_isSpace (isSpace_of_isLineBoundary h)

theorem isRawBoundary_cases (h : isRawBoundary c = true) :
    isLineBoundary c = true ∧ JsonText.isBlank c = false := by
  have hval : c.val = 0x85 ∨ c.val = 0x2028 ∨ c.val = 0x2029 := by
    simpa only [isRawBoundary, Bool.or_eq_true, beq_iff_eq, or_assoc] using h
  have hchar : c = '\u0085' ∨ c = '\u2028' ∨ c = '\u2029' :=
    hval.imp Char.ext (Or.imp Char.ext Char.ext)
  rcases hchar with rfl | rfl | rfl <;> exact ⟨rfl, rfl⟩

theorem isControl_of_isLineBoundary (h : isLineBoundary c = true) (hraw : isRawBoundary c = false) :
    JsonText.isControl c = true := by
  rw [isRawBoundary, Bool.or_eq_false_iff, Bool.or_eq_false_iff] at hraw
  rw [isLineBoundary, hraw.1.1, hraw.1.2, hraw.2, Bool.or_false, Bool.or_false, Bool.or_false] at h
  simp only [Bool.or_eq_true, Bool.and_eq_true, decide_eq_true_eq, UInt32.le_iff_toNat_le,
    UInt32.reduceToNat] at h
  simp only [JsonText.isControl, decide_eq_true_eq, UInt32.lt_iff_toNat_lt, UInt32.reduceToNat]
  omega

theorem eq_str_of_isRawBoundary {r : Lexer × List JsonText.Token} (h : isRawBoundary c = true)
    (hstep : st.step c = some r) : ∃ s, st = .str s := by
  by_contra hst
  obtain ⟨hboundary, hblank⟩ := isRawBoundary_cases h
  rw [Lexer.step_of_isGraphic_eq_false (isGraphic_of_isLineBoundary hboundary)
    fun s hs => hst ⟨s, hs⟩, hblank] at hstep
  cases hstep

/-- The other boundaries are line feeds and carriage returns between tokens. -/
theorem break_of_step {r : Lexer × List JsonText.Token} (h : isLineBoundary c = true)
    (hraw : isRawBoundary c = false) (hstep : st.step c = some r) : c = '\n' ∨ c = '\r' := by
  have hgraphic := isGraphic_of_isLineBoundary h
  by_cases hst : ∃ s, st = .str s
  · obtain ⟨s, rfl⟩ := hst
    rw [Lexer.step_str_of_isGraphic_eq_false hgraphic, 
      if_pos (isControl_of_isLineBoundary h hraw)] at hstep
    cases hstep
  · rw [Lexer.step_of_isGraphic_eq_false hgraphic fun s hs => hst ⟨s, hs⟩] at hstep
    split at hstep
    next hblank =>
      simp only [JsonText.isBlank, Bool.or_eq_true, decide_eq_true_eq] at hblank
      rcases hblank with ((rfl | rfl) | hn) | hr
      · cases h
      · cases h
      · exact Or.inl hn
      · exact Or.inr hr
    next => cases hstep

/-- Gluing at a line that ends: a line break, unless the text ends there. -/
theorem run_joined_of_endsLine (hend : endsLine c t = true) :
    st.run (joined (splitlines (c :: t))) =
      st.finish.bind fun tokens => (Lexer.start.run (joined (splitlines t))).map (tokens ++ ·) := by
  rw [joined_splitlines_of_endsLine hend]
  by_cases hnil : t = []
  · rw [if_pos hnil, hnil]
    cases h : st.finish with
    | none => exact h
    | some tokens =>
      refine h.trans ?_
      rw [Option.bind_some]
      exact congrArg some (List.append_nil tokens).symm
  · rw [if_neg hnil, Lexer.run_break (Or.inl rfl)]

/-- **What cutting and gluing does to the tokens.** -/
theorem run_joined_splitlines {tokens : List JsonText.Token} (h : st.run t = some tokens) :
    st.run (joined (splitlines t)) = if t.any isRawBoundary then none else some tokens := by
  induction t generalizing st tokens with
  | nil => exact h
  | cons c t ih =>
    obtain ⟨r, hstep, hrun⟩ := Option.bind_eq_some_iff.mp h
    obtain ⟨tokens', htail, rfl⟩ := Option.map_eq_some_iff.mp hrun
    rw [List.any_cons]
    cases hboundary : isLineBoundary c with
    | false =>
      have hraw : isRawBoundary c = false := Bool.eq_false_iff.mpr fun hraw => by
        rw [(isRawBoundary_cases hraw).1] at hboundary
        cases hboundary
      rw [joined_splitlines_of_not_boundary hboundary, Lexer.run, hstep, Option.bind_some, hraw,
        Bool.false_or]
      show (r.1.run (joined (splitlines t))).map (r.2 ++ ·) = _
      rw [ih htail]
      split <;> rfl
    | true =>
      cases hraw : isRawBoundary c with
      | true =>
        -- a string that is not closed
        obtain ⟨s, rfl⟩ := eq_str_of_isRawBoundary hraw hstep
        have hend : endsLine c t = true := by
          by_contra hend
          obtain ⟨rfl, -⟩ := eq_carriageReturn (Bool.not_eq_true _ ▸ hend) hboundary
          cases hraw
        rw [run_joined_of_endsLine hend, Bool.true_or, if_pos rfl]
        rfl
      | false =>
        have hbreak := break_of_step hboundary hraw hstep
        rw [Lexer.run_break hbreak] at h
        obtain ⟨first, hfirst, hrest⟩ := Option.bind_eq_some_iff.mp h
        obtain ⟨rest, hrest, heq⟩ := Option.map_eq_some_iff.mp hrest
        rw [Bool.false_or, ← heq]
        cases hend : endsLine c t with
        | true =>
          rw [run_joined_of_endsLine hend, hfirst, Option.bind_some, ih hrest]
          split <;> rfl
        | false =>
          -- the line feed behind the carriage return ends the token as well
          obtain ⟨-, u, rfl⟩ := eq_carriageReturn hend hboundary
          rw [splitlines_of_boundary hend hboundary]
          refine ih ?_
          rw [Lexer.run_break (Or.inl rfl), Lexer.finish] at hrest
          rw [Lexer.run_break (Or.inl rfl), hfirst]
          simpa using hrest

end

theorem loads_joined_splitlines {t : Text} {v : Value} (h : JsonText.loads t = some v) :
    JsonText.loads (joined (splitlines t)) = if t.any isRawBoundary then none else some v := by
  obtain ⟨tokens, htokens, hvalue⟩ := Option.bind_eq_some_iff.mp h
  rw [JsonText.loads, run_joined_splitlines htokens]
  split
  · rfl
  · exact hvalue

/-! ### The lines of the output -/

theorem jsonLoads_eq_ok_iff {t : Text} {v : Value} :
    jsonLoads t = .ok v ↔ JsonText.loads t = some v := by
  unfold jsonLoads
  cases JsonText.loads t <;> simp

theorem parseFrom_append {ls : List Text} (h : ∀ l ∈ ls, startsObject l = false) (stdout : Text)
    (ls' : List Text) : parseFrom stdout (ls ++ ls') = parseFrom stdout ls' := by
  induction ls with
  | nil => rfl
  | cons l ls ih =>
    rw [List.cons_append, parseFrom, h l List.mem_cons_self, if_neg Bool.false_ne_true]
    exact ih fun m hm => h m (List.mem_cons_of_mem _ hm)

theorem run_ne_nil_of_startsObject {l : Text} (h : startsObject l = true) (t : Text) :
    Lexer.start.run (l ++ t) ≠ some [] := by
  induction l with
  | nil => cases h
  | cons c l ih =>
    intro hrun
    rw [List.cons_append, Lexer.run] at hrun
    obtain ⟨r, hstep, hrest⟩ := Option.bind_eq_some_iff.mp hrun
    obtain ⟨tokens, htail, hnil⟩ := Option.map_eq_some_iff.mp hrest
    cases hspace : isSpace c with
    | true =>
      rw [startsObject, List.dropWhile_cons_of_pos hspace] at h
      -- white space that JSON does not know is an error
      rw [Lexer.step_of_isGraphic_eq_false (isGraphic_of_isSpace hspace)
        fun s hs => by cases hs] at hstep
      split at hstep
      · cases hstep
        rw [List.nil_append] at hnil
        exact ih h (hnil ▸ htail)
      · cases hstep
    | false =>
      rw [startsObject, List.dropWhile_cons_of_neg (by rw [hspace]; exact Bool.false_ne_true),
        List.head?_cons, decide_eq_true_eq, Option.some_inj] at h
      rw [h] at hstep
      cases hstep
      cases hnil

/-- The lines of notices, each with its line break. -/
def noticeLines (notices : List Text) : List Text :=
  notices.flatMap fun n => splitlines (n ++ ['\n'])

theorem splitlines_joined_append (notices : List Text) (t : Text) :
    splitlines (joined (notices ++ [t])) = noticeLines notices ++ splitlines t := by
  induction notices with
  | nil =>
    rw [List.nil_append, joined_singleton]
    rfl
  | cons n notices ih =>
    rw [List.cons_append, joined_cons n (by simp), splitlines_append_break, ih]
    exact (List.append_assoc _ _ _).symm

theorem forall_noticeLines_iff {notices : List Text} :
    (∀ l ∈ noticeLines notices, startsObject l = false) ↔
      ∀ n ∈ notices, ∀ l ∈ splitlines n, startsObject l = false := by
  have hlines : ∀ n : Text, (∀ l ∈ splitlines (n ++ ['\n']), startsObject l = false) ↔
      ∀ l ∈ splitlines n, startsObject l = false := by
    intro n
    rcases splitlines_concat_break n with h | h
    · rw [h]
    · rw [h, List.forall_mem_append]
      exact and_iff_left fun l hl => List.mem_singleton.mp hl ▸ rfl
  simp only [noticeLines, List.forall_mem_flatMap, hlines]

namespace LarkOutput

variable (o : LarkOutput)

theorem splitlines_stdout :
    splitlines o.stdout = noticeLines o.notices ++ splitlines o.text :=
  splitlines_joined_append o.notices o.text

theorem splitlines_text_ne_nil : splitlines o.text ≠ [] :=
  splitlines_ne_nil fun h => by
    have hbrace := o.text_brace
    rw [h] at hbrace
    cases hbrace

theorem parseFrom_text :
    parseFrom o.stdout (splitlines o.text) = jsonLoads (joined (splitlines o.text)) := by
  obtain ⟨t, ht⟩ := List.head?_eq_some_iff.mp o.text_brace
  rw [ht, splitlines_of_not_boundary (by decide), parseFrom]
  rfl

/-- Nothing is parsed when a token stands before the object. -/
theorem loads_append_text {t : Text} (h : Lexer.start.run t ≠ some []) :
    JsonText.loads (t ++ '\n' :: joined (splitlines o.text)) = none := by
  have hglued := loads_joined_splitlines o.valid
  split at hglued
  next hraw =>
    obtain ⟨tokens, htokens, -⟩ := Option.bind_eq_some_iff.mp o.valid
    rw [JsonText.loads, Lexer.run_append_break, run_joined_splitlines htokens, if_pos hraw]
    cases Lexer.start.run t <;> rfl
  next =>
    refine JsonText.loads_append_break h ?_
    rw [hglued]
    rfl

/-- A line of a notice that begins with a brace spoils the text. -/
theorem parseFrom_ne_ok {ls : List Text} (h : ∃ l ∈ ls, startsObject l = true) :
    parseFrom o.stdout (ls ++ splitlines o.text) ≠ .ok o.value := by
  induction ls with
  | nil =>
    obtain ⟨l, hl, -⟩ := h
    cases hl
  | cons l ls ih =>
    rw [List.cons_append, parseFrom]
    split
    next hl =>
      obtain ⟨rest, hrest⟩ := prefix_joined l ls
      have htoken : Lexer.start.run (joined (l :: ls)) ≠ some [] := by
        rw [← hrest]
        exact run_ne_nil_of_startsObject hl rest
      rw [Ne, jsonLoads_eq_ok_iff, ← List.cons_append,
        joined_append (List.cons_ne_nil _ _) o.splitlines_text_ne_nil, o.loads_append_text htoken]
      intro h
      cases h
    next hl =>
      refine ih ?_
      obtain ⟨m, hm, hbrace⟩ := h
      rcases List.mem_cons.mp hm with rfl | hm
      · exact absurd hbrace hl
      · exact ⟨m, hm, hbrace⟩

end LarkOutput

/-- **The output is parsed to the value of the object** exactly when no line of a notice
begins with a brace, and the text has no raw boundary. -/
theorem parseLarkJson_iff (o : LarkOutput) :
    parseLarkJson o.stdout = .ok o.value ↔
      (∀ n ∈ o.notices, ∀ line ∈ splitlines n, startsObject line = false) ∧
        ∀ c ∈ o.text, isRawBoundary c = false := by
  rw [parseLarkJson, o.splitlines_stdout, ← forall_noticeLines_iff]
  by_cases hnotices : ∀ line ∈ noticeLines o.notices, startsObject line = false
  · rw [and_iff_right hnotices, parseFrom_append hnotices, o.parseFrom_text, jsonLoads_eq_ok_iff,
      loads_joined_splitlines o.valid]
    cases hraw : o.text.any isRawBoundary with
    | true =>
      rw [List.any_eq_true] at hraw
      obtain ⟨c, hc, hc'⟩ := hraw
      refine iff_of_false (fun h => by cases h) fun h => ?_
      rw [h c hc] at hc'
      cases hc'
    | false =>
      exact iff_of_true rfl fun c hc => Bool.eq_false_iff.mpr (List.any_eq_false.mp hraw c hc)
  · refine iff_of_false (o.parseFrom_ne_ok ?_) fun h => hnotices h.1
    simpa only [not_forall, Bool.not_eq_false, exists_prop] using hnotices

/-- An answer with a next line character in a string. -/
def nextLineAnswer : LarkOutput where
  notices := []
  notice_line := fun n hn => by cases hn
  notice_plain := fun n hn => by cases hn
  text := "\x7b\"a\":\"x\u0085y\"\x7d".toList
  text_brace := rfl
  value := .obj [([0x61], .str [0x78, 0x85, 0x79])]
  valid := rfl

theorem parseLarkJson_counterexample :
    ¬∀ o : LarkOutput, parseLarkJson o.stdout = .ok o.value := by
  intro h
  have hok := h nextLineAnswer
  have herr : parseLarkJson nextLineAnswer.stdout = .error .jsonDecodeError := rfl
  rw [herr] at hok
  cases hok

end Docs
end Shrimp
