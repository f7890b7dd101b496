import Mathlib.Algebra.Group.Nat.Defs
import Mathlib.Data.List.Sort
import OAuth2Server.SqlText
import OAuth2Server.Text

/-!
# The migration runner

`run_migrations` applies the `V*.sql` files that `py_schema_version` does not
list, in one transaction. The database library and the server are parameters:
what `text` makes of a statement, and what a statement does to the content
outside the version table. The server's transactions are those of the dialect:
on PostgreSQL a failed statement aborts the transaction, after which every
statement fails and a commit rolls back.
-/

namespace OAuth2Server.Migrations

open SqlText (Dialect Grammar)

set_option autoImplicit false

/-! ### Files -/

structure MigrationFile where
  name : String
  text : String
deriving DecidableEq, Repr

/-- The code points of the decimal zeros; the nine digits follow each. -/
def decimalZeros : List Nat :=
  [0x30, 0x660, 0x6f0, 0x7c0, 0x966, 0x9e6, 0xa66, 0xae6, 0xb66, 0xbe6, 0xc66, 0xce6, 0xd66,
    0xde6, 0xe50, 0xed0, 0xf20, 0x1040, 0x1090, 0x17e0, 0x1810, 0x1946, 0x19d0, 0x1a80, 0x1a90,
    0x1b50, 0x1bb0, 0x1c40, 0x1c50, 0xa620, 0xa8d0, 0xa900, 0xa9d0, 0xa9f0, 0xaa50, 0xabf0,
    0xff10, 0x104a0, 0x10d30, 0x11066, 0x110f0, 0x11136, 0x111d0, 0x112f0, 0x11450, 0x114d0,
    0x11650, 0x116c0, 0x11730, 0x118e0, 0x11950, 0x11c50, 0x11d50, 0x11da0, 0x11f50, 0x16a60,
    0x16ac0, 0x16b50, 0x1d7ce, 0x1d7d8, 0x1d7e2, 0x1d7ec, 0x1d7f6, 0x1e140, 0x1e2f0, 0x1e4f0,
    0x1e950, 0x1fbf0]

/-- The value of a character `\d` matches. -/
def decimalDigit (char : Char) : Option Nat :=
  (decimalZeros.find? fun base => base ≤ char.toNat && char.toNat ≤ base + 9).map
    fun base => char.toNat - base

/-- `_VERSION_RE`, `^V(\d+)__`, with `int` of its group. -/
def versionOf (name : String) : Option Nat :=
  match name.toList with
  | 'V' :: rest =>
      let digits := rest.takeWhile fun char => (decimalDigit char).isSome
      if digits.isEmpty then none
      else if ['_', '_'].isPrefixOf (rest.drop digits.length) then
        some (digits.foldl (fun value char => value * 10 + (decimalDigit char).getD 0) 0)
      else none
  | _ => none

/-- A migration file with the version its name carries. -/
structure Migration where
  file : MigrationFile
  version : Nat
  versioned : versionOf file.name = some version
deriving DecidableEq

/-- `SQLITE_REWRITES`. -/
def sqliteRewrites : List (String × String) :=
  [("TIMESTAMPTZ", "TEXT"),
   ("BYTEA", "BLOB"),
   ("NOW()", "CURRENT_TIMESTAMP"),
   ("ADD COLUMN IF NOT EXISTS", "ADD COLUMN")]

/-- `str.replace` for a nonempty `old`; `skipped` characters of a match are left. -/
def replaceFrom (old new : List Char) : Nat → List Char → List Char
  | _, [] => []
  | skipped + 1, _ :: rest => replaceFrom old new skipped rest
  | 0, char :: rest =>
      if old.isPrefixOf (char :: rest) then new ++ replaceFrom old new (old.length - 1) rest
      else char :: replaceFrom old new 0 rest

def replace (text old new : String) : String :=
  String.ofList (replaceFrom old.toList new.toList 0 text.toList)

/-- `_V6_SQLITE_OVERRIDE`. -/
def v6SqliteOverride : List String :=
  ["
    CREATE TABLE tokens_new (
        id TEXT PRIMARY KEY,
        access_token TEXT NOT NULL UNIQUE,
        refresh_token TEXT,
        token_type TEXT NOT NULL,
        expires_in INTEGER NOT NULL,
        scope TEXT NOT NULL,
        client_id TEXT NOT NULL,
        user_id TEXT,
        created_at TEXT NOT NULL,
        expires_at TEXT NOT NULL,
        revoked BOOLEAN NOT NULL DEFAULT FALSE,
        FOREIGN KEY (client_id) REFERENCES clients(client_id),
        FOREIGN KEY (user_id) REFERENCES users(id)
    )
    ",
   "INSERT INTO tokens_new SELECT * FROM tokens",
   "DROP TABLE tokens",
   "ALTER TABLE tokens_new RENAME TO tokens",
   "CREATE INDEX idx_tokens_access_token ON tokens(access_token)",
   "CREATE INDEX idx_tokens_refresh_token ON tokens(refresh_token)",
   "CREATE INDEX idx_tokens_client_id ON tokens(client_id)",
   "CREATE INDEX idx_tokens_user_id ON tokens(user_id)"]

/-- `SQLITE_VERSION_OVERRIDES`, where the dialect uses it. -/
def override (dialect : Dialect) (version : Nat) : Option (List String) :=
  match dialect with
  | .sqlite => if version = 6 then some v6SqliteOverride else none
  | .postgresql => none

/-- The text of a file as the dialect reads it. -/
def dialectText (dialect : Dialect) (text : String) : String :=
  match dialect with
  | .sqlite => sqliteRewrites.foldl (fun sql (old, new) => replace sql old new) text
  | .postgresql => text

/-- `[s.strip() for s in pieces if s.strip()]`. -/
def trimmed (pieces : List (List Char)) : List String :=
  (pieces.map fun piece => Text.strip (String.ofList piece)).filter fun statement => statement ≠ ""

/-- The statements of a migration, its text cut the given way. -/
def statementsBy (grammar : Grammar ';') (dialect : Dialect) (migration : Migration) :
    List String :=
  match override dialect migration.version with
  | some statements => statements
  | none => trimmed (grammar.pieces (dialectText dialect migration.file.text).toList)

/-- The statements as the runner cuts them: `sql.split(";")`. -/
def statementsOf (dialect : Dialect) (migration : Migration) : List String :=
  statementsBy (SqlText.everySeparator ';') dialect migration

/-! ### The transaction -/

/-- The database: the rows of `py_schema_version` and everything else. -/
structure Database (σ : Type) where
  content : σ
  versions : Option (List Nat)

/-- The engine: its dialect, the text it sends for `text(statement)` without
values, and what a text sent does to the content. In `text` a `:name` is a bind
parameter, also inside a literal, and without a value for it nothing is sent
and an exception raised; a backslash before a colon is taken away. -/
structure Engine (σ : Type) where
  dialect : Dialect
  send : String → Option String
  perform : σ → String → Option σ
  colonless : ∀ statement, ':' ∉ statement.toList → send statement = some statement
  removes : ∀ statement sent, send statement = some sent →
    sent.toList.Sublist statement.toList

inductive Entry
  | statement (text : String)
  | recorded (version : Nat)
deriving DecidableEq, Repr

/-- An open transaction with what it has executed of the migrations. -/
structure Transaction (σ : Type) where
  database : Database σ
  aborted : Bool
  log : List Entry

variable {σ : Type}

/-- What the version column holds: 64 bits on SQLite, 32 on PostgreSQL, signed. -/
def versionLimit : Dialect → Nat
  | .sqlite => 2 ^ 63
  | .postgresql => 2 ^ 31

def probe : String := "SELECT 1 FROM clients LIMIT 1"

/-- What a run leaves: the database and what was executed of the migrations. -/
structure Outcome (σ : Type) where
  database : Database σ
  log : List Entry

/-- `sorted(files, key=_version_of)`. -/
def inOrder (files : List Migration) : List Migration :=
  files.insertionSort fun first second => first.version ≤ second.version

end OAuth2Server.Migrations
