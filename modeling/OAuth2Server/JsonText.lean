import OAuth2Server.Text
import Mathlib.Algebra.Group.Nat.Defs
import Mathlib.Data.Rat.Defs
import Mathlib.Algebra.Order.Ring.Unbundled.Rat
import Mathlib.Data.List.Sort

/-!
# JSON values, `json.loads` and `json.dumps`

Objects are insertion-ordered dictionaries. Integers are unbounded, floats are
kept as exact rationals, and the three non-finite literals the parser accepts
are kept apart. A lone surrogate escape has no scalar value and reads as
U+FFFD; where a proof's claims are read, it is told apart by
`JwtLibrary.loneTexts`.
-/

namespace OAuth2Server.JsonText

open OAuth2Server

set_option autoImplicit false

inductive Json where
  | null
  | bool (value : Bool)
  | int (value : Int)
  | float (value : ℚ)
  | nonFinite (literal : String)
  | str (value : String)
  | arr (items : List Json)
  | obj (members : List (String × Json))

/-- What `json.loads` raises. -/
inductive LoadError where
  | decode
  | recursion
  | digits
  deriving DecidableEq, Repr

namespace Json

/-- `value.get(key)` on a dictionary, `none` on anything else. -/
def get? (value : Json) (key : String) : Option Json :=
  match value with
  | .obj members => members.lookup key
  | _ => none

def isObj : Json → Bool
  | .obj _ => true
  | _ => false

def str? : Json → Option String
  | .str value => some value
  | _ => none

/-- `isinstance(value, (int, float)) and not isinstance(value, bool)`, when
`float(value)` is finite. -/
def number? : Json → Option ℚ
  | .int value => some value
  | .float value => some value
  | _ => none

/-- Python truthiness. -/
def truthy : Json → Bool
  | .null => false
  | .bool value => value
  | .int value => value != 0
  | .float value => value != 0
  | .nonFinite _ => true
  | .str value => value != ""
  | .arr items => !items.isEmpty
  | .obj members => !members.isEmpty

/-- The list of strings of an array of strings. -/
def strings? : Json → Option (List String)
  | .arr items => items.mapM str?
  | _ => none

/-- `text in value`: list membership, dictionary keys, or a substring test; any
other value raises `TypeError`. -/
def containsText (value : Json) (text : String) : Option Bool :=
  match value with
  | .arr items => some (items.any fun item => item.str? == some text)
  | .obj members => some (members.any fun member => member.1 == text)
  | .str whole => some (Text.contains whole text)
  | _ => none

/-- Python equality of a JSON value with a string. -/
def equalsText (value : Json) (text : String) : Bool := value.str? == some text

/-- `d[key] = value`: an existing key keeps its place. -/
def setMember (key : String) (value : Json) : List (String × Json) → List (String × Json)
  | [] => [(key, value)]
  | member :: rest =>
      if member.1 == key then (key, value) :: rest else member :: setMember key value rest

end Json

/-! ### Parsing -/

def isWhite (char : Char) : Bool := char == ' ' || char == '\t' || char == '\n' || char == '\r'

def skipWhite (text : List Char) : List Char := text.dropWhile isWhite

def digitsValue (digits : List Char) : Nat :=
  digits.foldl (fun total digit => total * 10 + (digit.toNat - '0'.toNat)) 0

def isDigit (char : Char) : Bool := '0' ≤ char && char ≤ '9'

/-- `int()` refuses decimal strings above this many digits. -/
def intMaxStrDigits : Nat := 4300

/-- The integer part of a number literal: `0` or digits without a leading zero. -/
def takeIntPart (text : List Char) : Option (List Char × List Char) :=
  match text with
  | '0' :: rest => some (['0'], rest)
  | digit :: rest =>
      if isDigit digit then some (digit :: rest.takeWhile isDigit, rest.dropWhile isDigit) else none
  | [] => none

/-- A fraction part, empty when there is none. -/
def takeFraction (text : List Char) : List Char × List Char :=
  match text with
  | '.' :: rest =>
      if (rest.takeWhile isDigit).isEmpty then ([], text)
      else (rest.takeWhile isDigit, rest.dropWhile isDigit)
  | _ => ([], text)

/-- An exponent part, `none` when there is none. -/
def takeExponent (text : List Char) : Option Int × List Char :=
  match text with
  | mark :: rest =>
      if mark == 'e' || mark == 'E' then
        let sign : Int := if rest.head? == some '-' then -1 else 1
        let body := if rest.head? == some '-' || rest.head? == some '+' then rest.tail else rest
        if (body.takeWhile isDigit).isEmpty then (none, text)
        else (some (sign * digitsValue (body.takeWhile isDigit)), body.dropWhile isDigit)
      else (none, text)
  | [] => (none, text)

def scale (mantissa : ℚ) : Int → ℚ
  | .ofNat exponent => mantissa * (10 ^ exponent : ℕ)
  | .negSucc exponent => mantissa / (10 ^ (exponent + 1) : ℕ)

/-- From here on a number rounds to an infinite double. -/
def floatOverflow : ℚ := 2 ^ 1024 - 2 ^ 970

def parseNumber (text : List Char) : Except LoadError (Json × List Char) :=
  let negative := text.head? == some '-'
  let sign : Int := if negative then -1 else 1
  match takeIntPart (if negative then text.tail else text) with
  | none => .error .decode
  | some (whole, afterWhole) =>
      let (fraction, afterFraction) := takeFraction afterWhole
      let (exponent, rest) := takeExponent afterFraction
      if fraction.isEmpty && exponent.isNone then
        if intMaxStrDigits < whole.length then .error .digits
        else .ok (.int (sign * digitsValue whole), rest)
      else
        let mantissa : ℚ := sign * digitsValue (whole ++ fraction)
        let value := scale mantissa (exponent.getD 0 - fraction.length)
        if floatOverflow ≤ |value| then
          .ok (.nonFinite (if negative then "-Infinity" else "Infinity"), rest)
        else .ok (.float value, rest)

/-- Four hex digits. -/
def takeHex4 : List Char → Option (Nat × List Char)
  | a :: b :: c :: d :: rest => do
      let a ← Text.hexDigit a
      let b ← Text.hexDigit b
      let c ← Text.hexDigit c
      let d ← Text.hexDigit d
      some (((a * 16 + b) * 16 + c) * 16 + d, rest)
  | _ => none

/-- The character named by a `\u` escape, joining a surrogate pair. -/
def takeUnicodeEscape (text : List Char) : Option (Char × List Char) := do
  let (first, rest) ← takeHex4 text
  if 0xd800 ≤ first ∧ first < 0xdc00 then
    match rest with
    | '\\' :: 'u' :: low =>
        let (second, after) ← takeHex4 low
        if 0xdc00 ≤ second ∧ second < 0xe000 then
          some (Char.ofNat (0x10000 + (first - 0xd800) * 1024 + (second - 0xdc00)), after)
        else some (Char.ofNat 0xfffd, rest)
    | _ => some (Char.ofNat 0xfffd, rest)
  else if 0xdc00 ≤ first ∧ first < 0xe000 then some (Char.ofNat 0xfffd, rest)
  else some (Char.ofNat first, rest)

def simpleEscape (char : Char) : Option Char :=
  if char == '"' || char == '\\' || char == '/' then some char
  else if char == 'b' then some (Char.ofNat 8)
  else if char == 'f' then some (Char.ofNat 12)
  else if char == 'n' then some '\n'
  else if char == 'r' then some '\r'
  else if char == 't' then some '\t'
  else none

/-- The characters of a string literal after its opening quote. -/
def parseString : Nat → List Char → Except LoadError (List Char × List Char)
  | 0, _ => .error .decode
  | _ + 1, [] => .error .decode
  | fuel + 1, char :: rest =>
      if char == '"' then .ok ([], rest)
      else if char.toNat < 32 then .error .decode
      else if char == '\\' then
        match rest with
        | 'u' :: after =>
            match takeUnicodeEscape after with
            | none => .error .decode
            | some (value, tail) => (parseString fuel tail).map fun result =>
                (value :: result.1, result.2)
        | escape :: after =>
            match simpleEscape escape with
            | none => .error .decode
            | some value => (parseString fuel after).map fun result =>
                (value :: result.1, result.2)
        | [] => .error .decode
      else (parseString fuel rest).map fun result => (char :: result.1, result.2)

def literals : List (String × Json) :=
  [("null", .null), ("true", .bool true), ("false", .bool false), ("NaN", .nonFinite "NaN"),
    ("Infinity", .nonFinite "Infinity"), ("-Infinity", .nonFinite "-Infinity")]

/-- A literal or a number. -/
def parseScalar (text : List Char) : Except LoadError (Json × List Char) :=
  match literals.find? fun literal => literal.1.toList.isPrefixOf text with
  | some (word, value) => .ok (value, text.drop word.length)
  | none => parseNumber text

mutual

/-- `depth` is the interpreter's remaining recursion allowance. -/
def parseValue : Nat → Nat → List Char → Except LoadError (Json × List Char)
  | 0, _, _ => .error .decode
  | fuel + 1, depth, text =>
      match text with
      | '"' :: rest => (parseString (rest.length + 1) rest).map fun result =>
          (.str (String.ofList result.1), result.2)
      | '[' :: rest =>
          match depth with
          | 0 => .error .recursion
          | depth + 1 =>
              match skipWhite rest with
              | ']' :: after => .ok (.arr [], after)
              | items => (parseItems fuel depth items).map fun result => (.arr result.1, result.2)
      | '{' :: rest =>
          match depth with
          | 0 => .error .recursion
          | depth + 1 =>
              match skipWhite rest with
              | '}' :: after => .ok (.obj [], after)
              | members => (parseMembers fuel depth [] members).map fun result =>
                  (.obj result.1, result.2)
      | other => parseScalar other

def parseItems : Nat → Nat → List Char → Except LoadError (List Json × List Char)
  | 0, _, _ => .error .decode
  | fuel + 1, depth, text =>
      match parseValue fuel depth text with
      | .error error => .error error
      | .ok (item, rest) =>
          match skipWhite rest with
          | ']' :: after => .ok ([item], after)
          | ',' :: after => (parseItems fuel depth (skipWhite after)).map fun result =>
              (item :: result.1, result.2)
          | _ => .error .decode

def parseMembers : Nat → Nat → List (String × Json) → List Char →
    Except LoadError (List (String × Json) × List Char)
  | 0, _, _, _ => .error .decode
  | fuel + 1, depth, members, text =>
      match text with
      | '"' :: quoted =>
          match parseString (quoted.length + 1) quoted with
          | .error error => .error error
          | .ok (key, afterKey) =>
              match skipWhite afterKey with
              | ':' :: rest =>
                  match parseValue fuel depth (skipWhite rest) with
                  | .error error => .error error
                  | .ok (value, afterValue) =>
                      let grown := Json.setMember (String.ofList key) value members
                      match skipWhite afterValue with
                      | '}' :: after => .ok (grown, after)
                      | ',' :: after => parseMembers fuel depth grown (skipWhite after)
                      | _ => .error .decode
              | _ => .error .decode
      | _ => .error .decode

end

/-- `json.loads(text)` with `limit` levels of recursion available. The fuel
covers every value of the text, each of which takes at least one character. -/
def loads (limit : Nat) (text : String) : Except LoadError Json :=
  match parseValue (2 * text.toList.length + 2) limit (skipWhite text.toList) with
  | .error error => .error error
  | .ok (value, rest) => if (skipWhite rest).isEmpty then .ok value else .error .decode

/-! ### Serialising -/

def hexText (width value : Nat) : List Char :=
  let digits := Nat.toDigits 16 value
  List.replicate (width - digits.length) '0' ++ digits

/-- One character under `ensure_ascii`. -/
def escapeChar (char : Char) : List Char :=
  let code := char.toNat
  if char == '"' then ['\\', '"']
  else if char == '\\' then ['\\', '\\']
  else if char == '\n' then ['\\', 'n']
  else if char == '\r' then ['\\', 'r']
  else if char == '\t' then ['\\', 't']
  else if code == 8 then ['\\', 'b']
  else if code == 12 then ['\\', 'f']
  else if 32 ≤ code && code < 127 then [char]
  else if code < 0x10000 then '\\' :: 'u' :: hexText 4 code
  else
    '\\' :: 'u' :: hexText 4 (0xd800 + (code - 0x10000) / 1024) ++
      '\\' :: 'u' :: hexText 4 (0xdc00 + (code - 0x10000) % 1024)

def quoteText (text : String) : String :=
  String.ofList ('"' :: text.toList.flatMap escapeChar ++ ['"'])

/-- How `json.dumps` was called, and the interpreter's `repr` of a float. -/
structure DumpStyle where
  itemSeparator : String := ", "
  keySeparator : String := ": "
  sortKeys : Bool := false
  floatRepr : ℚ → String

mutual

def dumps (style : DumpStyle) : Json → String
  | .null => "null"
  | .bool value => if value then "true" else "false"
  | .int value => toString value
  | .float value => style.floatRepr value
  | .nonFinite literal => literal
  | .str value => quoteText value
  | .arr items => "[" ++ style.itemSeparator.intercalate (dumpsItems style items) ++ "]"
  | .obj members =>
      let pairs := dumpsMembers style members
      let ordered := if style.sortKeys then
          pairs.insertionSort fun left right => left.1 ≤ right.1
        else pairs
      "\x7b" ++ style.itemSeparator.intercalate (ordered.map fun pair =>
        quoteText pair.1 ++ style.keySeparator ++ pair.2) ++ "\x7d"

def dumpsItems (style : DumpStyle) : List Json → List String
  | [] => []
  | item :: rest => dumps style item :: dumpsItems style rest

def dumpsMembers (style : DumpStyle) : List (String × Json) → List (String × String)
  | [] => []
  | (key, value) :: rest => (key, dumps style value) :: dumpsMembers style rest

end

end OAuth2Server.JsonText
