import Mathlib.Data.List.Nodup
import Mathlib.Data.List.Basic

/-!
# Tables with unique indexes

Rows in insertion order, together with the uniqueness that the database keeps
on the indexed columns: a table that violates an index cannot be built. The
updates are the ones a store offers: `UPDATE ... WHERE` over every matching
row, the single-document update, and the insertion that refuses a duplicate.
-/

namespace OAuth2Server.Tables

set_option autoImplicit false

structure Table (Row : Type) (indexes : List (Row → String)) where
  rows : List Row
  unique : ∀ index ∈ indexes, (rows.map index).Nodup

variable {Row : Type} {indexes : List (Row → String)}

namespace Table

def empty : Table Row indexes where
  rows := []
  unique := by simp

instance : Membership Row (Table Row indexes) := ⟨fun table row => row ∈ table.rows⟩

/-- `SELECT ... WHERE ...` followed by `.first()`, and `find_one`. -/
def first (table : Table Row indexes) (matching : Row → Bool) : Option Row :=
  table.rows.find? matching

/-- Whether inserting `row` would duplicate an indexed value. -/
def conflicts (table : Table Row indexes) (row : Row) : Bool :=
  indexes.any fun index => (table.rows.map index).contains (index row)

/-- An insertion; `none` when a unique index refuses it. -/
def insert (table : Table Row indexes) (row : Row) : Option (Table Row indexes) :=
  if fresh : table.conflicts row = false then
    some
      { rows := table.rows ++ [row]
        unique := by
          intro index member
          have absent : index row ∉ table.rows.map index := by
            simp only [conflicts, List.any_eq_false] at fresh
            simpa using fresh index member
          rw [List.map_append, List.map_singleton]
          exact List.Nodup.append (table.unique index member) (List.nodup_singleton _)
            (by simpa using absent) }
  else none

/-- `UPDATE ... WHERE matching`: every matching row is rewritten. The rewrite
may not touch an indexed column. -/
def updateAll (table : Table Row indexes) (matching : Row → Bool) (change : Row → Row)
    (keeps : ∀ index ∈ indexes, ∀ row, matching row = true → index (change row) = index row) :
    Table Row indexes where
  rows := table.rows.map fun row => if matching row then change row else row
  unique := by
    intro index member
    have same : (table.rows.map fun row => if matching row then change row else row).map index =
        table.rows.map index := by
      rw [List.map_map]
      apply List.map_congr_left
      intro row _
      by_cases hit : matching row = true
      · simp [hit, keeps index member row hit]
      · simp [hit]
    rw [same]
    exact table.unique index member

/-- How many rows `UPDATE ... WHERE matching` reports. -/
def count (table : Table Row indexes) (matching : Row → Bool) : Nat :=
  table.rows.countP matching

/-- Rewrites the first matching row of a list. -/
def changeFirst (matching : Row → Bool) (change : Row → Row) : List Row → List Row
  | [] => []
  | row :: rest => if matching row then change row :: rest else row :: changeFirst matching change rest

theorem map_change_first (matching : Row → Bool) (change : Row → Row) (index : Row → String)
    (keeps : ∀ row, matching row = true → index (change row) = index row) (rows : List Row) :
    (changeFirst matching change rows).map index = rows.map index := by
  induction rows with
  | nil => rfl
  | cons row rest induction =>
      by_cases hit : matching row = true
      · simp [changeFirst, hit, keeps row hit]
      · simp [changeFirst, hit, induction]

/-- `update_one` / `find_one_and_update`: the first matching document. -/
def updateFirst (table : Table Row indexes) (matching : Row → Bool) (change : Row → Row)
    (keeps : ∀ index ∈ indexes, ∀ row, matching row = true → index (change row) = index row) :
    Table Row indexes where
  rows := changeFirst matching change table.rows
  unique := by
    intro index member
    rw [map_change_first matching change index (keeps index member)]
    exact table.unique index member

/-- `DELETE ... WHERE matching`. -/
def deleteAll (table : Table Row indexes) (matching : Row → Bool) : Table Row indexes where
  rows := table.rows.filter fun row => !matching row
  unique := by
    intro index member
    exact (table.unique index member).sublist ((List.filter_sublist).map index)

/-- `delete_one`: the first matching document. -/
def deleteFirst (table : Table Row indexes) (matching : Row → Bool) : Table Row indexes where
  rows := table.rows.eraseP matching
  unique := by
    intro index member
    exact (table.unique index member).sublist ((List.eraseP_sublist).map index)

theorem eq_of_rows {left right : Table Row indexes} (same : left.rows = right.rows) :
    left = right := by
  cases left
  cases right
  cases same
  rfl

/-! ### What the unique indexes give -/

/-- Two rows with the same indexed value are one row. -/
theorem eq_of_index (table : Table Row indexes) {index : Row → String} (indexed : index ∈ indexes)
    {left right : Row} (leftIn : left ∈ table.rows) (rightIn : right ∈ table.rows)
    (same : index left = index right) : left = right :=
  List.inj_on_of_nodup_map (table.unique index indexed) leftIn rightIn same

/-- A lookup by an indexed value finds the row that has it. -/
theorem first_of_mem (table : Table Row indexes) {index : Row → String} (indexed : index ∈ indexes)
    {row : Row} (member : row ∈ table.rows) :
    table.first (fun other => index other == index row) = some row := by
  cases found : table.first (fun other => index other == index row) with
  | none =>
      have absent := List.find?_eq_none.1 found row member
      simp at absent
  | some other =>
      have same := List.find?_some found
      exact congrArg some (eq_of_index table indexed (List.mem_of_find?_eq_some found) member
        (by simpa using same))

theorem mem_of_first {table : Table Row indexes} {matching : Row → Bool} {row : Row}
    (found : table.first matching = some row) : row ∈ table.rows ∧ matching row = true :=
  ⟨List.mem_of_find?_eq_some found, List.find?_some found⟩

/-- Where at most one row matches, rewriting the first is rewriting all. -/
theorem change_first_eq_map (matching : Row → Bool) (change : Row → Row) (index : Row → String)
    (key : String) (keyed : ∀ row, matching row = true → index row = key) (rows : List Row)
    (unique : (rows.map index).Nodup) :
    changeFirst matching change rows = rows.map fun row => if matching row then change row else row := by
  induction rows with
  | nil => rfl
  | cons row rest induction =>
      simp only [List.map_cons, List.nodup_cons] at unique
      by_cases hit : matching row = true
      · have others : rest.map (fun other => if matching other then change other else other) = rest := by
          rw [List.map_congr_left (g := id), List.map_id]
          intro other member
          have missed : matching other ≠ true := by
            intro also
            apply unique.1
            rw [keyed row hit, ← keyed other also]
            exact List.mem_map_of_mem member
          simp [missed]
        simp [changeFirst, hit, others]
      · simp [changeFirst, hit, induction unique.2]

/-- Where at most one row matches, deleting the first is deleting all. -/
theorem erase_first_eq_filter (matching : Row → Bool) (index : Row → String) (key : String)
    (keyed : ∀ row, matching row = true → index row = key) (rows : List Row)
    (unique : (rows.map index).Nodup) :
    rows.eraseP matching = rows.filter fun row => !matching row := by
  induction rows with
  | nil => rfl
  | cons row rest induction =>
      simp only [List.map_cons, List.nodup_cons] at unique
      by_cases hit : matching row = true
      · have others : rest.filter (fun other => !matching other) = rest := by
          apply List.filter_eq_self.2
          intro other member
          have missed : matching other ≠ true := by
            intro also
            apply unique.1
            rw [keyed row hit, ← keyed other also]
            exact List.mem_map_of_mem member
          simpa using missed
        simp [hit, others]
      · simp [hit, induction unique.2]

/-- An insertion appends its row, or is refused. -/
theorem insert_cases (table : Table Row indexes) (row : Row) :
    table.insert row = none ∨
      ∃ grown, table.insert row = some grown ∧ grown.rows = table.rows ++ [row] := by
  unfold insert
  split
  · exact Or.inr ⟨_, rfl, rfl⟩
  · exact Or.inl rfl

end Table

/-! ### Rows over time -/

/-- How one write changes a table: every row is rewritten within `evolves`, or
one `fresh` row is appended. -/
inductive Step (evolves : Row → Row → Prop) (fresh : Row → Prop) (before later : List Row) : Prop
  | rewrite (change : Row → Row) (within : ∀ row, evolves row (change row))
      (rows : later = before.map change)
  | append (row : Row) (new : fresh row) (rows : later = before ++ [row])

section Steps

variable {evolves : Row → Row → Prop} {fresh : Row → Prop} {before later : List Row}

theorem Step.unchanged (reflexive : ∀ row, evolves row row) (rows : later = before) :
    Step evolves fresh before later :=
  .rewrite id reflexive (by rw [rows, List.map_id])

theorem Step.mono {wider : Row → Prop} (step : Step evolves fresh before later)
    (within : ∀ row, fresh row → wider row) : Step evolves wider before later := by
  cases step with
  | rewrite change evolved rows => exact .rewrite change evolved rows
  | append row new rows => exact .append row (within row new) rows

/-- No row disappears. -/
theorem Step.persists (step : Step evolves fresh before later) (reflexive : ∀ row, evolves row row)
    {row : Row} (member : row ∈ before) : ∃ next ∈ later, evolves row next := by
  cases step with
  | rewrite change within rows => exact ⟨change row, rows ▸ List.mem_map_of_mem member, within row⟩
  | append added new rows => exact ⟨row, rows ▸ List.mem_append_left _ member, reflexive row⟩

/-- A row was there before, or is the one appended. -/
theorem Step.origin (step : Step evolves fresh before later) (reflexive : ∀ row, evolves row row)
    {next : Row} (member : next ∈ later) : (∃ row ∈ before, evolves row next) ∨ fresh next := by
  cases step with
  | rewrite change within rows =>
      rw [rows] at member
      obtain ⟨row, old, rfl⟩ := List.mem_map.1 member
      exact Or.inl ⟨row, old, within row⟩
  | append added new rows =>
      rw [rows, List.mem_append, List.mem_singleton] at member
      rcases member with old | rfl
      · exact Or.inl ⟨next, old, reflexive next⟩
      · exact Or.inr new

/-- A lookup that found a row goes on finding it. -/
theorem Step.find (step : Step evolves fresh before later) (reflexive : ∀ row, evolves row row)
    {matching : Row → Bool} (stable : ∀ row next, evolves row next → matching next = matching row)
    {row : Row} (found : before.find? matching = some row) :
    ∃ next, later.find? matching = some next ∧ evolves row next := by
  cases step with
  | rewrite change within rows =>
      have same : matching ∘ change = matching := funext fun other => stable _ _ (within other)
      exact ⟨change row, by rw [rows, List.find?_map, same, found]; rfl, within row⟩
  | append added new rows =>
      exact ⟨row, by rw [rows, List.find?_append, found]; rfl, reflexive row⟩

end Steps

end OAuth2Server.Tables
