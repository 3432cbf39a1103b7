import Mathlib.Data.List.Basic
import Mathlib.Data.Int.Notation
import Mathlib.Data.Nat.Notation
import Shrimp.Lib.Dict

/-!
# The Python the orchestrator is written in

The orchestrator reads parsed JSON and formats it into texts.  This module
embeds the built-ins it does that with: truth values, `str`, `repr`, `list`,
`str.strip`, and the exceptions they raise.

A float is kept as the text `repr` prints for it, which determines it.  Which
characters beyond ASCII `repr` prints raw depends on the Unicode tables of the
interpreter, so `str.isprintable` is a parameter.

## Main definitions

* `Json` — a parsed JSON value; an object is the sequence of its members, and
  `Json.asDict` is the dictionary `json.loads` builds from it.
* `Json.truthy` — the truth value.
* `Json.pyStr`, `Json.pyRepr` — `str` and `repr`.
* `Json.pyList` — `list`.
* `strip` — `str.strip`.
-/

universe u v

namespace Shrimp

/-- The exceptions the modelled code can raise. -/
inductive PyError
  /-- `AttributeError`: a method of a value that has none of that name. -/
  | attributeError
  /-- `TypeError`: iterating over something that cannot be iterated. -/
  | typeError
  /-- The `ValidationError` of a data model. -/
  | validationError
  /-- `IndexError`: a list index out of range. -/
  | indexError
  /-- `OSError` with its text. -/
  | osError (text : String)
  /-- `ValueError` with its text. -/
  | valueError (text : String)
  deriving DecidableEq, Repr, Inhabited

/-- A `str`, as its characters. -/
abbrev Text := List Char

/-- The membership tests on lists of texts share this instance. -/
instance : LawfulBEq Text := inferInstance

/-- What all characters of a text have is decided character by character. -/
instance (t : Text) (p : Char → Prop) [DecidablePred p] : Decidable (∀ c ∈ t, p c) :=
  List.decidableBAll p t

/-- A parsed JSON value. -/
inductive Json
  | null
  | bool (b : Bool)
  | int (n : ℤ)
  /-- A float, as the text `repr` prints for it. -/
  | float (text : String)
  | str (s : String)
  | arr (xs : List Json)
  /-- An object, as the sequence of its members. -/
  | obj (members : List (String × Json))
  deriving Inhabited

/-- A Python dictionary of JSON values. -/
abbrev Obj := Dict String Json

/-- `True` and `False` as `str` prints them. -/
def pyBool (b : Bool) : String := if b then "True" else "False"

/-! ### `repr` of a string -/

/-- A number in hexadecimal, padded with zeros to a width. -/
def hexPad (width n : ℕ) : String := String.ofList (List.leftpad width '0' (Nat.toDigits 16 n))

/-- One character of `repr`, inside the quotation mark `q`. -/
def reprChar (isPrintable : Char → Bool) (q c : Char) : String :=
  if c = q ∨ c = '\\' then String.ofList ['\\', c]
  else if c = '\n' then "\\n"
  else if c = '\r' then "\\r"
  else if c = '\t' then "\\t"
  else if c.val < 0x20 ∨ c.val = 0x7f then "\\x" ++ hexPad 2 c.toNat
  else if c.val < 0x7f then String.singleton c
  else if isPrintable c then String.singleton c
  else if c.val < 0x100 then "\\x" ++ hexPad 2 c.toNat
  else if c.val < 0x10000 then "\\u" ++ hexPad 4 c.toNat
  else "\\U" ++ hexPad 8 c.toNat

/-- The quotation mark `repr` chooses: a single one unless the text has single
quotation marks and no double ones. -/
def reprQuote (cs : List Char) : Char :=
  if cs.contains '\'' && !cs.contains '"' then '"' else '\''

/-- `repr` of a string. -/
def reprStr (isPrintable : Char → Bool) (s : String) : String :=
  let q := reprQuote s.toList
  String.singleton q ++ String.join (s.toList.map (reprChar isPrintable q)) ++ String.singleton q

/-- `repr` of a list of strings. -/
def reprStrs (isPrintable : Char → Bool) (ss : List String) : String :=
  "[" ++ ", ".intercalate (ss.map (reprStr isPrintable)) ++ "]"

/-! ### Whitespace -/

/-- `str.isspace` of one character. -/
def isSpace (c : Char) : Bool :=
  (0x09 ≤ c.val && c.val ≤ 0x0d) || (0x1c ≤ c.val && c.val ≤ 0x20) || c.val == 0x85 ||
    c.val == 0xa0 || c.val == 0x1680 || (0x2000 ≤ c.val && c.val ≤ 0x200a) ||
    c.val == 0x2028 || c.val == 0x2029 || c.val == 0x202f || c.val == 0x205f || c.val == 0x3000

/-- `str.strip()`. -/
def strip (s : String) : String :=
  String.ofList (((s.toList.dropWhile isSpace).reverse.dropWhile isSpace).reverse)

/-- Universal newlines: what reading a file in text mode does to its text. -/
def translateNewlines : List Char → List Char
  | '\r' :: '\n' :: cs => '\n' :: translateNewlines cs
  | '\r' :: cs => '\n' :: translateNewlines cs
  | c :: cs => c :: translateNewlines cs
  | [] => []

namespace Json

/-- The truth value of a JSON value. -/
def truthy : Json → Bool
  | null => false
  | bool b => b
  | int n => n != 0
  | float t => t != "0.0" && t != "-0.0"
  | str s => s != ""
  | arr xs => !xs.isEmpty
  | obj ms => !ms.isEmpty

/-- `isinstance(x, dict)`, with the dictionary: a repeated member name keeps its
first place and takes its last value. -/
def asDict : Json → Option Obj
  | obj ms => some (Dict.ofList ms)
  | _ => none

/-- `isinstance(x, list)`, with the list. -/
def asList : Json → Option (List Json)
  | arr xs => some xs
  | _ => none

/-- `x is None`. -/
def isNull : Json → Bool
  | null => true
  | _ => false

/-- `type(x).__name__`. -/
def typeName : Json → String
  | null => "NoneType"
  | bool _ => "bool"
  | int _ => "int"
  | float _ => "float"
  | str _ => "str"
  | arr _ => "list"
  | obj _ => "dict"

section Repr

variable (isPrintable : Char → Bool)

mutual

/-- `repr` of a JSON value. -/
def pyRepr : Json → String
  | null => "None"
  | bool b => pyBool b
  | int n => toString n
  | float t => t
  | str s => reprStr isPrintable s
  | arr xs => "[" ++ ", ".intercalate (pyReprList xs) ++ "]"
  | obj ms =>
    let shown := (Dict.ofList (pyReprMembers ms)).entries
    "\x7b" ++ ", ".intercalate (shown.map fun e => reprStr isPrintable e.1 ++ ": " ++ e.2) ++ "\x7d"

/-- `repr` of each element of a list. -/
def pyReprList : List Json → List String
  | [] => []
  | x :: xs => pyRepr x :: pyReprList xs

/-- `repr` of each member value of an object. -/
def pyReprMembers : List (String × Json) → List (String × String)
  | [] => []
  | (k, x) :: ms => (k, pyRepr x) :: pyReprMembers ms

end

/-- `str` of a JSON value: a string is itself, anything else is its `repr`. -/
def pyStr : Json → String
  | str s => s
  | x => pyRepr isPrintable x

end Repr

@[simp] theorem pyStr_str (p : Char → Bool) (s : String) : pyStr p (str s) = s := rfl

/-- `list` of a JSON value: the elements of a list, the characters of a string,
the keys of a dictionary. -/
def pyList : Json → Except PyError (List Json)
  | arr xs => .ok xs
  | str s => .ok (s.toList.map fun c => str (String.singleton c))
  | obj ms => .ok ((Dict.ofList ms).keys.map str)
  | _ => .error .typeError

/-- A list of strings as a JSON value. -/
def strs (ss : List String) : Json := arr (ss.map str)

/-- An optional string as a JSON value. -/
def optStr : Option String → Json
  | none => null
  | some s => str s

end Json

namespace Obj

/-- `str(d.get(k, v))`. -/
def getStr (p : Char → Bool) (d : Obj) (k v : String) : String :=
  match d.get? k with
  | none => v
  | some x => x.pyStr p

/-- `d.get(k) or {}`. -/
def getOrEmpty (d : Obj) (k : String) : Json :=
  match d.get? k with
  | none => .obj []
  | some x => if x.truthy then x else .obj []

/-- `bool(d.get(k, False))`. -/
def getBool (d : Obj) (k : String) : Bool :=
  match d.get? k with
  | none => false
  | some x => x.truthy

theorem getStr_of_get? {p : Char → Bool} {d : Obj} {k v s : String}
    (h : d.get? k = some (.str s)) : Obj.getStr p d k v = s := by
  simp only [getStr, h, Json.pyStr_str]

end Obj

/-- What a chain of fallible steps returned, its first step returned. -/
theorem bind_eq_ok {ε : Type u} {α β : Type v} {x : Except ε α} {f : α → Except ε β} {b : β} :
    x >>= f = .ok b ↔ ∃ a, x = .ok a ∧ f a = .ok b := by
  cases x with
  | error e =>
    constructor
    · intro h; cases h
    · rintro ⟨a, h, -⟩; cases h
  | ok a =>
    constructor
    · intro h; exact ⟨a, rfl, h⟩
    · rintro ⟨a', h, h'⟩; cases h; exact h'

theorem ok_of_toOption {ε : Type u} {α : Type v} {x : Except ε α} {a : α}
    (h : x.toOption = some a) : x = .ok a := by
  cases x with
  | error e => cases h
  | ok b => rw [Option.some.inj h]

end Shrimp
