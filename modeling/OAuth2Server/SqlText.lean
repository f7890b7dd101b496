import Mathlib.Data.List.Basic

/-!
# Statements of an SQL text

A grammar cuts a text into statements at some of its semicolons: joined by
semicolons the pieces are the text again. Cutting at every semicolon is one such
way, and agrees with a grammar exactly where no piece holds one.

The lexical level is given for the two dialects: quoted texts and identifiers,
comments and dollar-quoted bodies hide the semicolons inside them. So are bind
parameters, which a library may look for in the text before it is sent, without
regard to that level.
-/

namespace OAuth2Server.SqlText

set_option autoImplicit false

/-- A way to cut a text at some of its separators. -/
structure Grammar (separator : Char) where
  pieces : List Char → List (List Char)
  present : ∀ text, pieces text ≠ []
  joined : ∀ text, [separator].intercalate (pieces text) = text

variable {separator : Char}

/-- The cut at every separator. -/
def everySeparator (separator : Char) : Grammar separator where
  pieces text := text.splitOn separator
  present text := List.splitOn_ne_nil separator text
  joined _ := List.intercalate_splitOn separator

inductive Dialect
  | sqlite
  | postgresql
deriving DecidableEq, Repr

/-- What the character before the next one left open. -/
inductive Mode
  | plain
  | word
  | quoted (close : Char) (escapes : Bool)
  | line
  | block (depth : Nat)
  | dollar (tag : List Char)
  | skip (characters : Nat) (later : Mode)
deriving DecidableEq, Repr

def isWordStart (char : Char) : Bool := char.isAlpha || char == '_' || 0x80 ≤ char.toNat

def isWordPart (char : Char) : Bool := isWordStart char || char.isDigit || char == '$'

/-- The tag of a text that opens a dollar quotation, its first `$` read. -/
def dollarTag (text : List Char) : Option (List Char) :=
  let tag := text.takeWhile fun char => isWordStart char || char.isDigit
  match text.drop tag.length with
  | '$' :: _ => if tag.head?.any Char.isDigit then none else some tag
  | _ => none

/-- The mode after `char` where a token may start. -/
def opening (dialect : Dialect) (char : Char) (rest : List Char) : Mode :=
  if char = '\'' then .quoted '\'' false
  else if char = '"' then .quoted '"' false
  else if char = '\x60' ∧ dialect = .sqlite then .quoted '\x60' false
  else if char = '[' ∧ dialect = .sqlite then .quoted ']' false
  else if char = '-' ∧ rest.head? = some '-' then .line
  else if char = '/' ∧ rest.head? = some '*' then .skip 1 (.block 1)
  else if char = '$' ∧ dialect = .postgresql then
    match dollarTag rest with
    | some tag => .skip (tag.length + 1) (.dollar tag)
    | none => .plain
  else if (char = 'E' ∨ char = 'e') ∧ rest.head? = some '\'' ∧ dialect = .postgresql then
    .skip 1 (.quoted '\'' true)
  else if isWordStart char then .word
  else .plain

/-- The mode after `char`, which `rest` follows. -/
def Mode.next (dialect : Dialect) (char : Char) (rest : List Char) : Mode → Mode
  | .plain => opening dialect char rest
  | .word => if isWordPart char then .word else opening dialect char rest
  | .quoted close escapes =>
      if escapes && char == '\\' then .skip 1 (.quoted close escapes)
      else if char = close then
        if rest.head? = some close then .skip 1 (.quoted close escapes) else .plain
      else .quoted close escapes
  | .line => if char = '\n' then .plain else .line
  | .block depth =>
      if char = '*' ∧ rest.head? = some '/' then
        .skip 1 (if depth ≤ 1 then .plain else .block (depth - 1))
      -- comments nest on PostgreSQL only
      else if char = '/' ∧ rest.head? = some '*' ∧ dialect = .postgresql then
        .skip 1 (.block (depth + 1))
      else .block depth
  | .dollar tag =>
      if ('$' :: tag ++ ['$']).isPrefixOf (char :: rest) then .skip (tag.length + 1) .plain
      else .dollar tag
  | .skip characters later => if characters ≤ 1 then later else .skip (characters - 1) later

/-- A semicolon separates statements outside every quotation and comment. -/
def Mode.separates : Mode → Bool
  | .plain => true
  | .word => true
  | _ => false

end OAuth2Server.SqlText
