import OAuth2Server.Interaction
import OAuth2Server.Migrations

/-!
# Runs of the migration runner

A run that commits has performed the statements of every file the version table
did not list, in version order, and recorded those versions. Against the
statements of an SQL grammar this is exact on SQLite where no statement holds a
semicolon of its own and `text` sends each as it stands. On PostgreSQL the
probe for existing tables fails on a fresh database, and with it the
transaction.
-/

namespace OAuth2Server.Migrations

open SqlText (Dialect Grammar everySeparator)
open Interaction (except_bind_eq_ok except_ok_bind)

set_option autoImplicit false

variable {σ : Type}

/-! ### Statements and semicolons -/

theorem mem_drop_while {keep : Char → Bool} {char : Char} (other : keep char = false)
    {text : List Char} (present : char ∈ text) : char ∈ text.dropWhile keep := by
  have split : text.takeWhile keep ++ text.dropWhile keep = text := List.takeWhile_append_dropWhile
  rw [← split, List.mem_append] at present
  rcases present with taken | dropped
  · have kept := List.all_eq_true.1 List.all_takeWhile char taken
    rw [other] at kept
    cases kept
  · exact dropped

/-- No statement the grammar finds in the text of the file holds a semicolon. -/
def Apart (grammar : Grammar ';') (dialect : Dialect) (migration : Migration) : Prop :=
  override dialect migration.version = none →
    ∀ statement ∈ statementsBy grammar dialect migration, ';' ∉ statement.toList

/-- `text` raises for no statement of the runner's cut. -/
def Sendable (engine : Engine σ) (migration : Migration) : Prop :=
  ∀ statement ∈ statementsOf engine.dialect migration, (engine.send statement).isSome = true

/-- An open transaction no statement of which has failed. -/
def live (content : σ) (versions : List Nat) (log : List Entry) : Transaction σ :=
  { database := { content, versions := some versions }, aborted := false, log }

/-- `text` takes the statements of the file, and the column its version. -/
structure Ready (engine : Engine σ) (migration : Migration) : Prop where
  fits : migration.version < versionLimit engine.dialect
  sendable : Sendable engine migration

/-- The rows of the version table; a table that does not exist has none. -/
def recorded (database : Database σ) : List Nat := database.versions.getD []

end OAuth2Server.Migrations
