import Mathlib.Data.List.Basic
import Mathlib.Data.Nat.Notation

/-!
# JSON texts

A reader of JSON texts in two layers.  A lexer goes over the characters and gives out
tokens; a stack machine goes over the tokens and builds a value.  The reader is strict
about strings, where control characters must be escaped, and takes `NaN`, `Infinity`
and `-Infinity` for numbers.

A string is the sequence of its code points, since an escape may name half of a
surrogate pair.  A number is kept as its literal.

## Main definitions

* `Value` — what a JSON text says.
* `Token`, `Lexer`, `Lexer.step`, `Lexer.run` — the tokens, and the lexer.
* `Parser`, `Parser.step`, `Parser.run` — the stack machine.
* `loads` — the value of a JSON text.

## Main results

* `Lexer.step_of_isGraphic_eq_false` — **outside a string, a character that is not a
  graphic one of ASCII is a blank or an error.**
* `Lexer.run_append_break` — **a line break cuts a text in two.**
* `Parser.depth_run` — the brackets that are open are those opened and not closed.
* `loads_append_break` — **a text with a value has none behind another token.**
-/

namespace JsonText

/-- What a JSON text says. -/
inductive Value
  | null
  | bool (b : Bool)
  | int (literal : List Char)
  | float (literal : List Char)
  | str (s : List ℕ)
  | arr (items : List Value)
  /-- An object, as the sequence of its members. -/
  | obj (members : List (List ℕ × Value))
  deriving Inhabited

/-- The tokens of a JSON text. -/
inductive Token
  | lbrace | rbrace | lbracket | rbracket | colon | comma
  | null
  | bool (b : Bool)
  | int (literal : List Char)
  | float (literal : List Char)
  | str (s : List ℕ)
  deriving DecidableEq

/-! ### The lexer -/

/-- The blanks between tokens. -/
def isBlank (c : Char) : Bool := c = ' ' || c = '\t' || c = '\n' || c = '\r'

/-- The characters of ASCII that print, but for the space. -/
def isGraphic (c : Char) : Bool := 0x21 ≤ c.val && c.val ≤ 0x7e

/-- A character that must not stand raw in a string. -/
def isControl (c : Char) : Bool := c.val < 0x20

/-- How far a number has been read. -/
inductive Phase
  | minus | zero | int | point | frac | exp | expSign | expDigits

/-- The next character of a number. -/
def Phase.next (p : Phase) (c : Char) : Option Phase :=
  match p with
  | minus => if c = '0' then some zero else if c.isDigit then some int else none
  | zero => if c = '.' then some point else if c = 'e' ∨ c = 'E' then some exp else none
  | int =>
    if c.isDigit then some int else if c = '.' then some point
    else if c = 'e' ∨ c = 'E' then some exp else none
  | point => if c.isDigit then some frac else none
  | frac => if c.isDigit then some frac else if c = 'e' ∨ c = 'E' then some exp else none
  | exp =>
    if c.isDigit then some expDigits else if c = '+' ∨ c = '-' then some expSign else none
  | expSign => if c.isDigit then some expDigits else none
  | expDigits => if c.isDigit then some expDigits else none

/-- The number that ends here. -/
def Phase.token (p : Phase) (literal : List Char) : Option Token :=
  match p with
  | zero | int => some (.int literal)
  | frac | expDigits => some (.float literal)
  | minus | point | exp | expSign => none

/-- The words. -/
inductive Word
  | nullWord | trueWord | falseWord | nan | infinity | minusInfinity

/-- The letters of a word. -/
def Word.letters : Word → List Char
  | nullWord => ['n', 'u', 'l', 'l']
  | trueWord => ['t', 'r', 'u', 'e']
  | falseWord => ['f', 'a', 'l', 's', 'e']
  | nan => ['N', 'a', 'N']
  | infinity | minusInfinity => ['I', 'n', 'f', 'i', 'n', 'i', 't', 'y']

/-- What a word stands for. -/
def Word.token : Word → Token
  | nullWord => .null
  | trueWord => .bool true
  | falseWord => .bool false
  | nan => .float ['N', 'a', 'N']
  | infinity => .float ['I', 'n', 'f', 'i', 'n', 'i', 't', 'y']
  | minusInfinity => .float ['-', 'I', 'n', 'f', 'i', 'n', 'i', 't', 'y']

/-- The value of a hexadecimal digit. -/
def hexDigit (c : Char) : Option ℕ :=
  if c.isDigit then some (c.toNat - 0x30)
  else if 'a' ≤ c ∧ c ≤ 'f' then some (c.toNat - 0x61 + 10)
  else if 'A' ≤ c ∧ c ≤ 'F' then some (c.toNat - 0x41 + 10)
  else none

/-- The code point a short escape stands for. -/
def shortEscape : Char → Option ℕ
  | '"' => some 0x22
  | '\\' => some 0x5c
  | '/' => some 0x2f
  | 'b' => some 0x08
  | 'f' => some 0x0c
  | 'n' => some 0x0a
  | 'r' => some 0x0d
  | 't' => some 0x09
  | _ => none

/-- The two halves of a surrogate pair are one code point. -/
def joinSurrogates : List ℕ → List ℕ
  | high :: low :: s =>
    if 0xd800 ≤ high ∧ high ≤ 0xdbff ∧ 0xdc00 ≤ low ∧ low ≤ 0xdfff then
      (0x10000 + (high - 0xd800) * 0x400 + (low - 0xdc00)) :: joinSurrogates s
    else high :: joinSurrogates (low :: s)
  | s => s

/-- Where the lexer is. -/
inductive Lexer
  /-- Between two tokens. -/
  | start
  /-- In a string. -/
  | str (s : List ℕ)
  /-- Behind a backslash. -/
  | escape (s : List ℕ)
  /-- In the four hexadecimal digits of an escape. -/
  | unicode (s : List ℕ) (digits n : ℕ)
  /-- In a number. -/
  | number (phase : Phase) (literal : List Char)
  /-- In a word of which some letters are read. -/
  | word (w : Word) (read : ℕ)

namespace Lexer

/-- The first character of a token. -/
def first : Char → Option (Lexer × List Token)
  | '{' => some (start, [.lbrace])
  | '}' => some (start, [.rbrace])
  | '[' => some (start, [.lbracket])
  | ']' => some (start, [.rbracket])
  | ':' => some (start, [.colon])
  | ',' => some (start, [.comma])
  | '"' => some (str [], [])
  | 'n' => some (word .nullWord 1, [])
  | 't' => some (word .trueWord 1, [])
  | 'f' => some (word .falseWord 1, [])
  | 'N' => some (word .nan 1, [])
  | 'I' => some (word .infinity 1, [])
  | '-' => some (number .minus ['-'], [])
  | '0' => some (number .zero ['0'], [])
  | c =>
    if c.isDigit then some (number .int [c], [])
    else if isBlank c then some (start, [])
    else none

/-- The tokens that are complete when the text ends here. -/
def finish : Lexer → Option (List Token)
  | start => some []
  | number phase literal => (phase.token literal).map ([·])
  | str _ | escape _ | unicode _ _ _ | word _ _ => none

/-- One character: the state behind it, and the tokens it completes. -/
def step : Lexer → Char → Option (Lexer × List Token)
  | start, c => first c
  | str s, c =>
    if c = '"' then some (start, [.str (joinSurrogates s)])
    else if c = '\\' then some (escape s, [])
    else if isControl c then none
    else some (str (s ++ [c.toNat]), [])
  | escape s, c =>
    if c = 'u' then some (unicode s 0 0, [])
    else (shortEscape c).map fun n => (str (s ++ [n]), [])
  | unicode s digits n, c =>
    (hexDigit c).map fun d =>
      if digits = 3 then (str (s ++ [16 * n + d]), [])
      else (unicode s (digits + 1) (16 * n + d), [])
  | number phase literal, c =>
    match phase.next c with
    | some phase' => some (number phase' (literal ++ [c]), [])
    | none =>
      if phase matches .minus ∧ c = 'I' then some (word .minusInfinity 1, [])
      else (phase.token literal).bind fun token =>
        (first c).map fun (st, tokens) => (st, token :: tokens)
  | word w read, c =>
    if w.letters[read]? = some c then
      if read + 1 = w.letters.length then some (start, [w.token]) else some (word w (read + 1), [])
    else none

/-- The tokens of a text. -/
def run (st : Lexer) : List Char → Option (List Token)
  | [] => st.finish
  | c :: t => (st.step c).bind fun (st', tokens) => (st'.run t).map (tokens ++ ·)

end Lexer

/-! ### What stands outside a string -/

section

variable {c : Char}

theorem ne_of_isGraphic {d : Char} (hd : isGraphic d = true) (h : isGraphic c = false) :
    c ≠ d := by
  rintro rfl
  rw [hd] at h
  cases h

theorem isDigit_eq_false (h : isGraphic c = false) : c.isDigit = false := by
  refine Bool.eq_false_iff.mpr fun hdigit => ?_
  rw [Char.isDigit, Bool.and_eq_true, decide_eq_true_eq, decide_eq_true_eq] at hdigit
  have hgraphic : isGraphic c = true := by
    rw [isGraphic, Bool.and_eq_true, decide_eq_true_eq, decide_eq_true_eq]
    exact ⟨UInt32.le_trans (by decide) hdigit.1, UInt32.le_trans hdigit.2 (by decide)⟩
  rw [hgraphic] at h
  cases h

theorem Phase.next_eq_none (h : isGraphic c = false) (p : Phase) : p.next c = none := by
  have hdigit := isDigit_eq_false h
  have hzero : c ≠ '0' := ne_of_isGraphic rfl h
  have hpoint : c ≠ '.' := ne_of_isGraphic rfl h
  have hexp : ¬(c = 'e' ∨ c = 'E') :=
    not_or.mpr ⟨ne_of_isGraphic rfl h, ne_of_isGraphic rfl h⟩
  have hsign : ¬(c = '+' ∨ c = '-') :=
    not_or.mpr ⟨ne_of_isGraphic rfl h, ne_of_isGraphic rfl h⟩
  cases p <;>
    simp only [next, hdigit, if_neg hzero, if_neg hpoint, if_neg hexp, if_neg hsign,
      if_neg Bool.false_ne_true]

theorem Word.isGraphic_of_mem (w : Word) : ∀ d ∈ w.letters, isGraphic d = true := by
  have hall : w.letters.all isGraphic = true := by cases w <;> rfl
  exact List.all_eq_true.mp hall

theorem hexDigit_eq_none (h : isGraphic c = false) : hexDigit c = none := by
  have hrange : ∀ a b : Char, 0x21 ≤ a.val → b.val ≤ 0x7e → ¬(a ≤ c ∧ c ≤ b) := by
    rintro a b ha hb ⟨hac, hcb⟩
    have hgraphic : isGraphic c = true := by
      rw [isGraphic, Bool.and_eq_true, decide_eq_true_eq, decide_eq_true_eq]
      exact ⟨UInt32.le_trans ha hac, UInt32.le_trans hcb hb⟩
    rw [hgraphic] at h
    cases h
  rw [hexDigit, isDigit_eq_false h, if_neg Bool.false_ne_true,
    if_neg (hrange 'a' 'f' (by decide) (by decide)),
    if_neg (hrange 'A' 'F' (by decide) (by decide))]

theorem shortEscape_eq_none (h : isGraphic c = false) : shortEscape c = none := by
  unfold shortEscape
  split <;> first | rfl | cases h

namespace Lexer

theorem first_of_isGraphic_eq_false (h : isGraphic c = false) :
    first c = if isBlank c then some (start, []) else none := by
  have hdigit := isDigit_eq_false h
  unfold first
  split
  all_goals first | cases h | rw [hdigit, if_neg Bool.false_ne_true]

/-- **Outside a string, a character that is not a graphic one of ASCII is a blank or an
error.** -/
theorem step_of_isGraphic_eq_false (h : isGraphic c = false) {st : Lexer}
    (hst : ∀ s, st ≠ .str s) :
    st.step c = if isBlank c then st.finish.map fun tokens => (start, tokens) else none := by
  cases st with
  | start => exact first_of_isGraphic_eq_false h
  | str s => exact absurd rfl (hst s)
  | escape s =>
    rw [step, if_neg (ne_of_isGraphic rfl h), shortEscape_eq_none h]
    exact (ite_self _).symm
  | unicode s digits n =>
    rw [step, hexDigit_eq_none h]
    exact (ite_self _).symm
  | number phase literal =>
    have hI : c ≠ 'I' := ne_of_isGraphic rfl h
    simp only [step, phase.next_eq_none h, hI, and_false, if_false,
      first_of_isGraphic_eq_false h, finish]
    cases phase.token literal <;> by_cases hblank : isBlank c = true <;> simp [hblank]
  | word w read =>
    have hletter : w.letters[read]? ≠ some c := fun hc => by
      have hgraphic := w.isGraphic_of_mem c (List.mem_of_getElem? hc)
      rw [h] at hgraphic
      cases hgraphic
    rw [step, if_neg hletter]
    exact (ite_self _).symm

theorem step_str_of_isGraphic_eq_false (h : isGraphic c = false) (s : List ℕ) :
    (str s).step c = if isControl c then none else some (str (s ++ [c.toNat]), []) := by
  rw [step, if_neg (ne_of_isGraphic rfl h), if_neg (ne_of_isGraphic rfl h)]

/-- A line break ends whatever token it stands behind. -/
theorem step_break (h : c = '\n' ∨ c = '\r') (st : Lexer) :
    st.step c = st.finish.map fun tokens => (start, tokens) := by
  have hgraphic : isGraphic c = false := by rcases h with rfl | rfl <;> rfl
  have hblank : isBlank c = true := by rcases h with rfl | rfl <;> rfl
  have hcontrol : isControl c = true := by rcases h with rfl | rfl <;> rfl
  cases st with
  | str s => rw [step_str_of_isGraphic_eq_false hgraphic, if_pos hcontrol]; rfl
  | start | escape s | unicode s digits n | number phase literal | word w read =>
    rw [step_of_isGraphic_eq_false hgraphic (fun _ h => by cases h), if_pos hblank]

theorem run_break (h : c = '\n' ∨ c = '\r') (st : Lexer) (t : List Char) :
    st.run (c :: t) = st.finish.bind fun tokens => (start.run t).map (tokens ++ ·) := by
  rw [run, step_break h, Option.bind_map]
  rfl

/-- **A line break cuts a text in two.** -/
theorem run_append_break (st : Lexer) (t u : List Char) :
    st.run (t ++ '\n' :: u) =
      (st.run t).bind fun tokens => (start.run u).map (tokens ++ ·) := by
  induction t generalizing st with
  | nil => exact run_break (Or.inl rfl) st u
  | cons c t ih =>
    rw [List.cons_append, run, run]
    cases st.step c with
    | none => rfl
    | some r =>
      simp only [Option.bind_some, ih]
      cases r.1.run t with
      | none => rfl
      | some tokens =>
        cases start.run u <;> simp

end Lexer

end

/-! ### The stack machine -/

/-- An array or an object that is not complete. -/
inductive Frame
  | arr (items : List Value)
  | obj (members : List (List ℕ × Value)) (key : List ℕ)

/-- What comes next, and the arrays and objects it stands in, innermost first. -/
inductive Parser
  /-- A value. -/
  | value (stack : List Frame)
  /-- The first value of an array, or its end. -/
  | firstItem (stack : List Frame)
  /-- The first key of an object, or its end. -/
  | firstKey (stack : List Frame)
  /-- A key. -/
  | key (members : List (List ℕ × Value)) (stack : List Frame)
  /-- The colon behind a key. -/
  | colon (members : List (List ℕ × Value)) (key : List ℕ) (stack : List Frame)
  /-- What follows a value. -/
  | after (v : Value) (stack : List Frame)

namespace Parser

/-- The first token of a value. -/
def begin (stack : List Frame) : Token → Option Parser
  | .null => some (after .null stack)
  | .bool b => some (after (.bool b) stack)
  | .int literal => some (after (.int literal) stack)
  | .float literal => some (after (.float literal) stack)
  | .str s => some (after (.str s) stack)
  | .lbracket => some (firstItem stack)
  | .lbrace => some (firstKey stack)
  | .rbrace | .rbracket | .colon | .comma => none

/-- One token. -/
def step : Parser → Token → Option Parser
  | value stack, token => begin stack token
  | firstItem stack, .rbracket => some (after (.arr []) stack)
  | firstItem stack, token => begin (.arr [] :: stack) token
  | firstKey stack, .rbrace => some (after (.obj []) stack)
  | firstKey stack, .str k => some (colon [] k stack)
  | key members stack, .str k => some (colon members k stack)
  | colon members k stack, .colon => some (value (.obj members k :: stack))
  | after v (.arr items :: stack), .comma => some (value (.arr (items ++ [v]) :: stack))
  | after v (.arr items :: stack), .rbracket => some (after (.arr (items ++ [v])) stack)
  | after v (.obj members k :: stack), .comma => some (key (members ++ [(k, v)]) stack)
  | after v (.obj members k :: stack), .rbrace => some (after (.obj (members ++ [(k, v)])) stack)
  | _, _ => none

/-- Token after token. -/
def run (st : Parser) : List Token → Option Parser
  | [] => some st
  | token :: tokens => (st.step token).bind fun st' => st'.run tokens

/-- The value, when it is complete. -/
def result : Parser → Option Value
  | after v [] => some v
  | _ => none

end Parser

/-- The value of a sequence of tokens. -/
def valueOf (tokens : List Token) : Option Value :=
  ((Parser.value []).run tokens).bind Parser.result

/-- **The value of a JSON text.** -/
def loads (t : List Char) : Option Value := (Lexer.start.run t).bind valueOf

/-- The brackets that are open. -/
def Parser.depth : Parser → ℕ
  | value stack | after _ stack => stack.length
  | firstItem stack | firstKey stack | key _ stack | colon _ _ stack => stack.length + 1

/-- The brackets a token opens. -/
def Token.opens (token : Token) : Bool := token matches .lbrace | .lbracket

/-- The brackets a token closes. -/
def Token.closes (token : Token) : Bool := token matches .rbrace | .rbracket

namespace Parser

variable {st st' : Parser} {token : Token} {tokens tokens' : List Token}

@[simp] theorem depth_value_nil : depth (value []) = 0 := rfl

@[simp] theorem depth_after_nil (v : Value) : depth (after v []) = 0 := rfl

/-- What begins a value closes no bracket. -/
theorem depth_begin {stack : List Frame} (h : begin stack token = some st) :
    st.depth + token.closes.toNat = stack.length + token.opens.toNat ∧
      ∀ stack', st ≠ value stack' := by
  cases token <;> cases h <;> exact ⟨rfl, fun _ h => by cases h⟩

/-- **One token** opens a bracket, closes one, or does neither; behind it, a bracket is
open where a value must come. -/
theorem depth_step (h : st.step token = some st') :
    st'.depth + token.closes.toNat = st.depth + token.opens.toNat ∧ st' ≠ value [] := by
  cases st with
  | value stack =>
    obtain ⟨hdepth, hne⟩ := depth_begin h
    exact ⟨hdepth, hne []⟩
  | firstItem stack =>
    by_cases htoken : token = .rbracket
    · rw [htoken] at h ⊢
      cases h
      exact ⟨rfl, fun h => by cases h⟩
    · have hbegin : begin (.arr [] :: stack) token = some st' := by
        rw [← h]
        cases token <;> first | rfl | exact absurd rfl htoken
      obtain ⟨hdepth, hne⟩ := depth_begin hbegin
      exact ⟨hdepth, hne []⟩
  | firstKey stack => cases token <;> cases h <;> exact ⟨rfl, fun h => by cases h⟩
  | key members stack =>
    cases token <;> cases h
    exact ⟨rfl, fun h => by cases h⟩
  | colon members k stack =>
    cases token <;> cases h
    exact ⟨rfl, fun h => by cases h⟩
  | after v stack =>
    cases stack with
    | nil => cases h
    | cons frame stack =>
      cases frame <;> cases token <;> cases h <;> exact ⟨rfl, fun h => by cases h⟩

/-- Every bracket is open between the token that opens it and the one that closes it. -/
theorem depth_run (h : st.run tokens = some st') :
    st'.depth + tokens.countP Token.closes = st.depth + tokens.countP Token.opens := by
  induction tokens generalizing st with
  | nil =>
    cases h
    rfl
  | cons token tokens ih =>
    obtain ⟨mid, hstep, hrun⟩ := Option.bind_eq_some_iff.mp h
    have hhead := (depth_step hstep).1
    have htail := ih hrun
    rw [List.countP_cons, List.countP_cons]
    cases hcloses : token.closes <;> cases hopens : token.opens <;>
      rw [hcloses, hopens] at hhead <;> simp at hhead ⊢ <;> omega

theorem run_append (st : Parser) (tokens tokens' : List Token) :
    st.run (tokens ++ tokens') = (st.run tokens).bind fun mid => mid.run tokens' := by
  induction tokens generalizing st with
  | nil => rfl
  | cons token tokens ih =>
    rw [List.cons_append, run, run, Option.bind_assoc]
    exact congrArg _ (funext fun mid => ih mid)

/-- Behind a token, no value must come but within a bracket. -/
theorem run_ne_value_nil (hne : tokens ≠ []) (h : st.run tokens = some st') : st' ≠ value [] := by
  induction tokens generalizing st with
  | nil => exact absurd rfl hne
  | cons token tokens ih =>
    obtain ⟨mid, hstep, hrun⟩ := Option.bind_eq_some_iff.mp h
    cases tokens with
    | nil =>
      cases hrun
      exact (depth_step hstep).2
    | cons token' tokens => exact ih (List.cons_ne_nil _ _) hrun

theorem eq_after_of_result {v : Value} (h : st.result = some v) : st = after v [] := by
  cases st with
  | after v' stack =>
    cases stack with
    | nil => cases h; rfl
    | cons frame stack => cases h
  | value _ | firstItem _ | firstKey _ | key _ _ | colon _ _ _ => cases h

theorem eq_after_of_depth (h : st.depth = 0) (hne : st ≠ value []) : ∃ v, st = after v [] := by
  cases st with
  | value stack => exact absurd (congrArg value (List.length_eq_zero_iff.mp h)) hne
  | after v stack => exact ⟨v, congrArg (after v) (List.length_eq_zero_iff.mp h)⟩
  | firstItem _ | firstKey _ | key _ _ | colon _ _ _ => cases h

end Parser

/-- **A value is complete once**: behind a token, no complete value can stand. -/
theorem valueOf_append {tokens tokens' : List Token} (hne : tokens ≠ [])
    (h : (valueOf tokens').isSome) : valueOf (tokens ++ tokens') = none := by
  obtain ⟨v, hv⟩ := Option.isSome_iff_exists.mp h
  obtain ⟨st, hst, hresult⟩ := Option.bind_eq_some_iff.mp hv
  have hbalance := Parser.depth_run hst
  rw [Parser.eq_after_of_result hresult] at hbalance
  refine Option.eq_none_iff_forall_ne_some.mpr fun v' hv' => ?_
  obtain ⟨st', hst', hresult'⟩ := Option.bind_eq_some_iff.mp hv'
  rw [Parser.run_append] at hst'
  obtain ⟨mid, hmid, hrun⟩ := Option.bind_eq_some_iff.mp hst'
  -- the brackets of the second value match, so that none is open before it
  have hdepth := Parser.depth_run hrun
  rw [Parser.eq_after_of_result hresult'] at hdepth
  have hzero : mid.depth = 0 := by
    simp only [Parser.depth_value_nil, Parser.depth_after_nil] at hbalance hdepth
    omega
  obtain ⟨w, rfl⟩ := Parser.eq_after_of_depth hzero (Parser.run_ne_value_nil hne hmid)
  cases tokens' with
  | nil =>
    cases hst
    cases hresult
  | cons token tokens' =>
    obtain ⟨_, hstep, -⟩ := Option.bind_eq_some_iff.mp hrun
    cases hstep

/-- **A text with a value has none behind another token**, when a line break stands
between them. -/
theorem loads_append_break {t u : List Char} (ht : Lexer.start.run t ≠ some [])
    (hu : (loads u).isSome) : loads (t ++ '\n' :: u) = none := by
  obtain ⟨v, hv⟩ := Option.isSome_iff_exists.mp hu
  obtain ⟨tokens', htokens', hvalue⟩ := Option.bind_eq_some_iff.mp hv
  rw [loads, Lexer.run_append_break, htokens']
  cases htokens : Lexer.start.run t with
  | none => rfl
  | some tokens =>
    have hne : tokens ≠ [] := by
      rintro rfl
      exact ht htokens
    exact valueOf_append hne (Option.isSome_iff_exists.mpr ⟨v, hvalue⟩)

end JsonText
