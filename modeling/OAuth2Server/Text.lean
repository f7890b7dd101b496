import Mathlib.Data.List.Basic

/-!
# Strings as the interpreter sees them

The string methods the server calls, on code points: `str.split()`,
`str.strip()`, `str.lower()` on the ASCII range, prefix tests, and the byte
codecs behind HTTP Basic (`base64.b64decode`, UTF-8, `unquote_plus`).
-/

namespace OAuth2Server.Text

set_option autoImplicit false

/-- The characters of a text are checked one by one, not all code points. -/
instance (priority := high) decidableEachChar {text : List Char} {holds : Char → Prop}
    [DecidablePred holds] : Decidable (∀ char ∈ text, holds char) :=
  List.decidableBAll holds text

/-- `str.isspace` for one code point. -/
def isSpace (char : Char) : Bool :=
  let code := char.toNat
  (9 ≤ code && code ≤ 13) || (28 ≤ code && code ≤ 32) || code == 0x85 || code == 0xa0 ||
    code == 0x1680 || (0x2000 ≤ code && code ≤ 0x200a) || code == 0x2028 || code == 0x2029 ||
    code == 0x202f || code == 0x205f || code == 0x3000

/-- Maximal runs of characters outside `separator`, left to right. `current`
is the run being read, reversed. -/
def splitRuns (separator : Char → Bool) : List Char → List Char → List (List Char)
  | current, [] => if current.isEmpty then [] else [current.reverse]
  | current, char :: rest =>
      if separator char then
        if current.isEmpty then splitRuns separator [] rest
        else current.reverse :: splitRuns separator [] rest
      else splitRuns separator (char :: current) rest

/-- `text.split()`. -/
def split (text : String) : List String :=
  (splitRuns isSpace [] text.toList).map String.ofList

/-- `text.strip()`. -/
def strip (text : String) : String :=
  String.ofList ((text.toList.dropWhile isSpace).reverse.dropWhile isSpace).reverse

/-- `text.lower()` on ASCII letters; other characters are left alone. -/
def lower (text : String) : String := String.ofList (text.toList.map Char.toLower)

/-- `text.rstrip("/")`. -/
def rstripSlash (text : String) : String :=
  String.ofList ((text.toList.reverse.dropWhile (· == '/')).reverse)

def startsWith (text : String) (start : String) : Bool := start.toList.isPrefixOf text.toList

/-- `text[n:]`. -/
def drop (text : String) (n : Nat) : String := String.ofList (text.toList.drop n)

/-- `needle in text`, a substring test. -/
def contains (text needle : String) : Bool :=
  text.toList.tails.any fun suffix => needle.toList.isPrefixOf suffix

/-- `text.partition(char)` without the separator; `none` when it is absent. -/
def cut (char : Char) (text : List Char) : Option (List Char × List Char) :=
  match text.dropWhile (· != char) with
  | [] => none
  | _ :: after => some (text.takeWhile (· != char), after)

/-- Python truthiness of an optional string. -/
def truthy : Option String → Bool
  | none => false
  | some text => text != ""

/-! ### Bytes -/

def hexDigit (char : Char) : Option Nat :=
  if '0' ≤ char ∧ char ≤ '9' then some (char.toNat - '0'.toNat)
  else if 'a' ≤ char ∧ char ≤ 'f' then some (char.toNat - 'a'.toNat + 10)
  else if 'A' ≤ char ∧ char ≤ 'F' then some (char.toNat - 'A'.toNat + 10)
  else none

/-- Reads one UTF-8 scalar: the character with the bytes after it, or how many
bytes form the invalid prefix that decoding replaces. -/
def utf8Head (first : Nat) (rest : List Nat) : Except Nat (Char × List Nat) :=
  let continuation (low high byte : Nat) : Bool := low ≤ byte && byte ≤ high
  if first < 0x80 then .ok (Char.ofNat first, rest)
  else if 0xc2 ≤ first ∧ first ≤ 0xdf then
    match rest with
    | b₁ :: after =>
        if continuation 0x80 0xbf b₁ then
          .ok (Char.ofNat ((first - 0xc0) * 64 + (b₁ - 0x80)), after)
        else .error 1
    | [] => .error 1
  else if 0xe0 ≤ first ∧ first ≤ 0xef then
    let low := if first = 0xe0 then 0xa0 else 0x80
    let high := if first = 0xed then 0x9f else 0xbf
    match rest with
    | b₁ :: b₂ :: after =>
        if continuation low high b₁ then
          if continuation 0x80 0xbf b₂ then
            .ok (Char.ofNat ((first - 0xe0) * 4096 + (b₁ - 0x80) * 64 + (b₂ - 0x80)), after)
          else .error 2
        else .error 1
    | [b₁] => .error (if continuation low high b₁ then 2 else 1)
    | [] => .error 1
  else if 0xf0 ≤ first ∧ first ≤ 0xf4 then
    let low := if first = 0xf0 then 0x90 else 0x80
    let high := if first = 0xf4 then 0x8f else 0xbf
    match rest with
    | b₁ :: tail =>
        if continuation low high b₁ then
          match tail with
          | b₂ :: b₃ :: after =>
              if continuation 0x80 0xbf b₂ then
                if continuation 0x80 0xbf b₃ then
                  .ok (Char.ofNat ((first - 0xf0) * 262144 + (b₁ - 0x80) * 4096 +
                    (b₂ - 0x80) * 64 + (b₃ - 0x80)), after)
                else .error 3
              else .error 2
          | [b₂] => .error (if continuation 0x80 0xbf b₂ then 3 else 2)
          | [] => .error 2
        else .error 1
    | [] => .error 1
  else .error 1

/-- `bytes.decode("utf-8")`; `none` is `UnicodeDecodeError`. The fuel is the
number of bytes, each step reads at least one. -/
def utf8Decode (bytes : List Nat) : Option (List Char) :=
  go bytes.length bytes
where
  go : Nat → List Nat → Option (List Char)
    | _, [] => some []
    | 0, _ :: _ => none
    | fuel + 1, first :: rest =>
        match utf8Head first rest with
        | .ok (char, after) => (go fuel after).map (char :: ·)
        | .error _ => none

/-- `bytes.decode("utf-8", "replace")`. -/
def utf8DecodeReplace (bytes : List Nat) : List Char :=
  go bytes.length bytes
where
  go : Nat → List Nat → List Char
    | _, [] => []
    | 0, _ :: _ => []
    | fuel + 1, first :: rest =>
        match utf8Head first rest with
        | .ok (char, after) => char :: go fuel after
        | .error width => Char.ofNat 0xfffd :: go fuel (rest.drop (width - 1))

/-- The UTF-8 bytes of a string. -/
def utf8Encode (text : List Char) : List Nat :=
  text.flatMap fun char =>
    let code := char.toNat
    if code < 0x80 then [code]
    else if code < 0x800 then [0xc0 + code / 64, 0x80 + code % 64]
    else if code < 0x10000 then
      [0xe0 + code / 4096, 0x80 + code / 64 % 64, 0x80 + code % 64]
    else
      [0xf0 + code / 262144, 0x80 + code / 4096 % 64, 0x80 + code / 64 % 64, 0x80 + code % 64]

/-- The six bits of a standard base64 character. -/
def base64Value (char : Char) : Option Nat :=
  if 'A' ≤ char ∧ char ≤ 'Z' then some (char.toNat - 'A'.toNat)
  else if 'a' ≤ char ∧ char ≤ 'z' then some (char.toNat - 'a'.toNat + 26)
  else if '0' ≤ char ∧ char ≤ '9' then some (char.toNat - '0'.toNat + 52)
  else if char = '+' then some 62
  else if char = '/' then some 63
  else none

/-- `binascii.a2b_base64` in its lenient mode: characters outside the alphabet
are skipped, padding that completes a quantum ends the data, and an incomplete
last quantum is `binascii.Error`. `phase` counts the characters of the current
quantum, `held` its bits not yet emitted, `pads` the padding seen in it. -/
def a2bBase64 : Nat → Nat → Nat → List Char → Option (List Nat)
  | phase, _, _, [] => if phase = 0 then some [] else none
  | phase, held, pads, char :: rest =>
      if char = '=' then
        if 2 ≤ phase ∧ 4 ≤ phase + (pads + 1) then some []
        else a2bBase64 phase held (pads + 1) rest
      else
        match base64Value char with
        | none => a2bBase64 phase held pads rest
        | some bits =>
            match phase with
            | 0 => a2bBase64 1 bits 0 rest
            | 1 => (a2bBase64 2 (bits % 16) 0 rest).map ((held * 4 + bits / 16) :: ·)
            | 2 => (a2bBase64 3 (bits % 4) 0 rest).map ((held * 16 + bits / 4) :: ·)
            | _ => (a2bBase64 0 0 0 rest).map ((held * 64 + bits) :: ·)

/-- `base64.b64decode(text)` for a `str`: a non-ASCII character is an error
before decoding starts. -/
def b64decode (text : String) : Option (List Nat) :=
  if text.toList.all fun char => char.toNat < 128 then a2bBase64 0 0 0 text.toList else none

def base64UrlChar (bits : Nat) : Char :=
  if bits < 26 then Char.ofNat ('A'.toNat + bits)
  else if bits < 52 then Char.ofNat ('a'.toNat + (bits - 26))
  else if bits < 62 then Char.ofNat ('0'.toNat + (bits - 52))
  else if bits = 62 then '-'
  else '_'

/-- `base64.urlsafe_b64encode(data).rstrip(b"=")`. -/
def b64urlEncode : List Nat → List Char
  | a :: b :: c :: rest =>
      base64UrlChar (a / 4) :: base64UrlChar (a % 4 * 16 + b / 16) ::
        base64UrlChar (b % 16 * 4 + c / 64) :: base64UrlChar (c % 64) :: b64urlEncode rest
  | [a, b] =>
      [base64UrlChar (a / 4), base64UrlChar (a % 4 * 16 + b / 16), base64UrlChar (b % 16 * 4)]
  | [a] => [base64UrlChar (a / 4), base64UrlChar (a % 4 * 16)]
  | [] => []

/-- `base64.urlsafe_b64decode(text + "=" * (-len(text) % 4))`. -/
def b64urlDecode (text : String) : Option (List Nat) :=
  let chars := text.toList
  let padding := List.replicate ((4 - chars.length % 4) % 4) '='
  b64decode (String.ofList ((chars ++ padding).map fun char =>
    if char = '-' then '+' else if char = '_' then '/' else char))

/-- Percent-decoding to bytes: a `%` not followed by two hex digits stays. -/
def unquoteToBytes : List Char → List Nat
  | [] => []
  | '%' :: high :: low :: rest =>
      match hexDigit high, hexDigit low with
      | some h, some l => (h * 16 + l) :: unquoteToBytes rest
      | _, _ => 0x25 :: unquoteToBytes (high :: low :: rest)
  | char :: rest => utf8Encode [char] ++ unquoteToBytes rest

/-- `urllib.parse.unquote_plus`. -/
def unquotePlus (text : String) : String :=
  String.ofList (utf8DecodeReplace (unquoteToBytes
    (text.toList.map fun char => if char = '+' then ' ' else char)))

end OAuth2Server.Text
