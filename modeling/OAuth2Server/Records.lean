import Mathlib.Data.List.Nodup
import Mathlib.Tactic.Cases

/-!
# Rows and documents

The statements of a relational store and of a document store over records of
named values: SQL conditions are three-valued and see a column that is `NULL`,
document filters see a field that may be missing. Neither store promises an
order without `ORDER BY`, so the order in which records are visited is a
parameter.
-/

namespace OAuth2Server.Records

open OAuth2Server

set_option autoImplicit false

inductive Value where
  | null
  | text (content : String)
  | int (number : Int)
  | bool (flag : Bool)
  | time (instant : Int)
  deriving DecidableEq, Repr

/-- The columns of a row, or the fields of a document. -/
abbrev Record := List (String × Value)

/-! ### Visiting order -/

/-- The order in which a store visits the records of a table. -/
structure Scan where
  order : List Record → List Nat
  complete : ∀ records, (order records).Perm (List.range records.length)

namespace Scan

/-- The position of the record a store finds first. -/
def position (scan : Scan) (records : List Record) (matching : Record → Bool) : Option Nat :=
  (scan.order records).find? fun index => records[index]?.any matching

/-- `SELECT ... WHERE` with `.first()`, and `find_one`. -/
def first (scan : Scan) (records : List Record) (matching : Record → Bool) : Option Record :=
  (scan.position records matching).bind fun index => records[index]?

/-- `update_one` and `find_one_and_update`. -/
def updateOne (scan : Scan) (records : List Record) (matching : Record → Bool)
    (change : Record → Record) : List Record :=
  match scan.position records matching with
  | some index => records.modify index change
  | none => records

/-- Insertion order. -/
def natural : Scan where
  order records := List.range records.length
  complete _ := List.Perm.refl _

/-- The latest record first. -/
def latest : Scan where
  order records := (List.range records.length).reverse
  complete _ := List.reverse_perm _

variable {scan : Scan} {records : List Record} {matching : Record → Bool}

theorem position_some {index : Nat} (found : scan.position records matching = some index) :
    ∃ record, records[index]? = some record ∧ matching record = true := by
  have hit := List.find?_some found
  exact (Option.any_eq_true _ _).1 hit

theorem position_none (absent : scan.position records matching = none) {index : Nat} {record : Record}
    (present : records[index]? = some record) : matching record = false := by
  have visited : index ∈ scan.order records := by
    rw [(scan.complete records).mem_iff, List.mem_range]
    exact (List.getElem?_eq_some_iff.1 present).1
  have missed := List.find?_eq_none.1 absent index visited
  simpa [present] using missed

end Scan

/-! ### Records that encode models -/

section Encoded

variable {Model : Type} {encode : Model → Record} {models : List Model}
  {selects : Record → Bool} {matching : Model → Bool} {scan : Scan}

/-- At most one of the models matches. -/
def AtMostOne (matching : Model → Bool) (models : List Model) : Prop :=
  models.Pairwise fun left right => ¬(matching left = true ∧ matching right = true)

theorem AtMostOne.index_eq (single : AtMostOne matching models) {left right : Nat}
    {first second : Model} (leftAt : models[left]? = some first) (leftHit : matching first = true)
    (rightAt : models[right]? = some second) (rightHit : matching second = true) : left = right := by
  obtain ⟨leftBound, rfl⟩ := List.getElem?_eq_some_iff.1 leftAt
  obtain ⟨rightBound, rfl⟩ := List.getElem?_eq_some_iff.1 rightAt
  have apart := List.pairwise_iff_getElem.1 single
  rcases Nat.lt_trichotomy left right with before | same | after
  · exact absurd ⟨leftHit, rightHit⟩ (apart left right leftBound rightBound before)
  · exact same
  · exact absurd ⟨rightHit, leftHit⟩ (apart right left rightBound leftBound after)

/-- A model that matches is the one with the key. -/
theorem at_most_one_of_key {Key : Type} {key : Model → Option Key} {wanted : Key}
    (distinct : (models.filterMap key).Nodup)
    (keyed : ∀ model, matching model = true → key model = some wanted) :
    AtMostOne matching models := by
  have apart := List.pairwise_filterMap.1 distinct
  refine apart.imp ?_
  intro left right differs both
  exact differs wanted (keyed left both.1) wanted (keyed right both.2) rfl

/-- The position a store finds holds the model that is found in the list. -/
theorem find_of_position (agrees : ∀ model, selects (encode model) = matching model)
    (single : AtMostOne matching models) {index : Nat}
    (found : scan.position (models.map encode) selects = some index) :
    ∃ model, models[index]? = some model ∧ matching model = true ∧
      models.find? matching = some model := by
  obtain ⟨record, present, hit⟩ := Scan.position_some found
  rw [List.getElem?_map] at present
  obtain ⟨model, modelAt, rfl⟩ := Option.map_eq_some_iff.1 present
  rw [agrees] at hit
  refine ⟨model, modelAt, hit, ?_⟩
  cases other : models.find? matching with
  | none =>
      have missed := List.find?_eq_none.1 other model (List.mem_of_getElem? modelAt)
      exact absurd hit missed
  | some earlier =>
      obtain ⟨place, placeAt⟩ := List.getElem?_of_mem (List.mem_of_find?_eq_some other)
      have same := single.index_eq modelAt hit placeAt (List.find?_some other)
      subst same
      rw [modelAt] at placeAt
      exact placeAt.symm

theorem find_of_no_position (agrees : ∀ model, selects (encode model) = matching model)
    (absent : scan.position (models.map encode) selects = none) (model : Model)
    (member : model ∈ models) : matching model = false := by
  obtain ⟨place, placeAt⟩ := List.getElem?_of_mem member
  have present : (models.map encode)[place]? = some (encode model) := by
    rw [List.getElem?_map, placeAt]
    rfl
  rw [← agrees]
  exact Scan.position_none absent present

theorem first_encoded (agrees : ∀ model, selects (encode model) = matching model)
    (single : AtMostOne matching models) :
    scan.first (models.map encode) selects = (models.find? matching).map encode := by
  unfold Scan.first
  cases found : scan.position (models.map encode) selects with
  | none =>
      have missed : models.find? matching = none := by
        apply List.find?_eq_none.2
        intro model member
        simp [find_of_no_position agrees found model member]
      rw [missed]
      rfl
  | some index =>
      obtain ⟨model, modelAt, _, same⟩ := find_of_position agrees single found
      rw [same, Option.bind_some, List.getElem?_map, modelAt]

theorem update_one_encoded {change : Record → Record} {changed : Model → Model}
    (agrees : ∀ model, selects (encode model) = matching model)
    (single : AtMostOne matching models)
    (changes : ∀ model, change (encode model) = encode (changed model)) :
    scan.updateOne (models.map encode) selects change =
      (models.map fun model => if matching model then changed model else model).map encode := by
  unfold Scan.updateOne
  cases found : scan.position (models.map encode) selects with
  | none =>
      dsimp only
      rw [List.map_map]
      apply List.map_congr_left
      intro model member
      simp [find_of_no_position agrees found model member]
  | some index =>
      obtain ⟨target, targetAt, hit, _⟩ := find_of_position agrees single found
      dsimp only
      apply List.ext_getElem?
      intro place
      rw [List.getElem?_modify]
      simp only [List.getElem?_map]
      by_cases here : index = place
      · subst here
        simp [targetAt, hit, changes]
      · cases modelAt : models[place]? with
        | none => simp [here]
        | some model =>
            have missed : matching model = false := by
              cases outcome : matching model with
              | false => rfl
              | true => exact absurd (single.index_eq targetAt hit modelAt outcome) here
            simp [here, missed]

theorem position_is_some (agrees : ∀ model, selects (encode model) = matching model) :
    (scan.position (models.map encode) selects).isSome = models.any matching := by
  cases found : scan.position (models.map encode) selects with
  | none =>
      symm
      apply List.any_eq_false.2
      intro model member
      simp [find_of_no_position agrees found model member]
  | some index =>
      obtain ⟨record, present, hit⟩ := Scan.position_some found
      rw [List.getElem?_map] at present
      obtain ⟨model, modelAt, rfl⟩ := Option.map_eq_some_iff.1 present
      symm
      apply List.any_eq_true.2
      exact ⟨model, List.mem_of_getElem? modelAt, by rw [← agrees, hit]⟩

theorem count_of_at_most_one (single : AtMostOne matching models) :
    models.countP matching = if models.any matching then 1 else 0 := by
  induction models with
  | nil => rfl
  | cons model rest induction =>
      obtain ⟨apart, restSingle⟩ := List.pairwise_cons.1 single
      have counted := induction restSingle
      cases hit : matching model with
      | false => simpa [List.countP_cons, hit] using counted
      | true =>
          have none : rest.countP matching = 0 := by
            apply List.countP_eq_zero.2
            intro other member both
            exact apart other member ⟨hit, both⟩
          simp [hit, none]

end Encoded

/-! ### SQL -/

inductive Condition where
  | equals (column : String) (value : Value)
  | either (left right : Condition)
  | both (left right : Condition)

/-- Three-valued disjunction. -/
def eitherTruth : Option Bool → Option Bool → Option Bool
  | some true, _ => some true
  | _, some true => some true
  | some false, some false => some false
  | _, _ => none

/-- Three-valued conjunction. -/
def bothTruth : Option Bool → Option Bool → Option Bool
  | some false, _ => some false
  | _, some false => some false
  | some true, some true => some true
  | _, _ => none

/-- A comparison with `NULL` is unknown. -/
def Condition.truth (row : Record) : Condition → Option Bool
  | .equals column value =>
      match row.lookup column with
      | none | some .null => none
      | some stored => if value = .null then none else some (decide (stored = value))
  | .either left right => eitherTruth (left.truth row) (right.truth row)
  | .both left right => bothTruth (left.truth row) (right.truth row)

/-- `WHERE` keeps the rows for which the condition is true, not unknown. -/
def Condition.holds (condition : Condition) (row : Record) : Bool :=
  condition.truth row == some true

/-- `UPDATE ... SET` on one row. -/
def setColumns (changes : Record) (row : Record) : Record :=
  row.map fun column => (column.1, (changes.lookup column.1).getD column.2)

/-- `UPDATE ... SET ... WHERE`: the row count and the table. -/
def update (rows : List Record) (condition : Condition) (changes : Record) : Nat × List Record :=
  (rows.countP condition.holds,
    rows.map fun row => if condition.holds row then setColumns changes row else row)

/-- `INSERT`, with the primary key and the other unique columns. -/
def insert (rows : List Record) (unique : List String) (row : Record) : Option (List Record) :=
  if unique.any fun column => rows.any fun other =>
      row.lookup column != some .null && other.lookup column == row.lookup column then none
  else some (rows ++ [row])

/-! ### Documents -/

inductive Filter where
  | field (name : String) (value : Value)
  | all (left right : Filter)
  | any (left right : Filter)

/-- A missing field is equal to `null` only. -/
def Filter.selects (document : Record) : Filter → Bool
  | .field name value => (document.lookup name).getD .null == value
  | .all left right => left.selects document && right.selects document
  | .any left right => left.selects document || right.selects document

/-- `$set` on one document; fields that are not there are added. -/
def setFields (changes : Record) (document : Record) : Record :=
  setColumns changes document ++
    changes.filter fun change => (document.lookup change.1).isNone

/-- `update_many`: `modified_count` and the collection. -/
def updateMany (documents : List Record) (filter : Filter) (changes : Record) :
    Nat × List Record :=
  (documents.countP fun document =>
      filter.selects document && setFields changes document != document,
    documents.map fun document =>
      if filter.selects document then setFields changes document else document)

/-- `insert_one` with unique indexes, which see a missing field as `null`. -/
def insertOne (documents : List Record) (unique : List String) (document : Record) :
    Option (List Record) :=
  if unique.any fun name => documents.any fun other =>
      (other.lookup name).getD .null == (document.lookup name).getD .null then none
  else some (documents ++ [document])

/-! ### Statements over encoded models -/

section Statements

variable {Model : Type} {encode : Model → Record} {models : List Model} {matching : Model → Bool}
  {changed : Model → Model} {changes : Record}

theorem update_encoded {condition : Condition}
    (agrees : ∀ model, condition.holds (encode model) = matching model)
    (changing : ∀ model, setColumns changes (encode model) = encode (changed model)) :
    update (models.map encode) condition changes =
      (models.countP matching,
        (models.map fun model => if matching model then changed model else model).map encode) := by
  unfold update
  rw [Prod.mk.injEq]
  constructor
  · rw [List.countP_map]
    apply List.countP_congr
    intro model _
    simp [agrees]
  · rw [List.map_map, List.map_map]
    apply List.map_congr_left
    intro model _
    by_cases hit : matching model = true <;> simp [agrees, hit, changing]

theorem update_many_encoded {filter : Filter}
    (agrees : ∀ model, filter.selects (encode model) = matching model)
    (changing : ∀ model, setFields changes (encode model) = encode (changed model)) :
    updateMany (models.map encode) filter changes =
      (models.countP fun model => matching model && encode (changed model) != encode model,
        (models.map fun model => if matching model then changed model else model).map encode) := by
  unfold updateMany
  rw [Prod.mk.injEq]
  constructor
  · rw [List.countP_map]
    apply List.countP_congr
    intro model _
    simp [agrees, changing]
  · rw [List.map_map, List.map_map]
    apply List.map_congr_left
    intro model _
    by_cases hit : matching model = true <;> simp [agrees, hit, changing]

theorem insert_fresh {rows : List Record} {unique : List String} {row : Record}
    (fresh : ∀ column ∈ unique, ∀ other ∈ rows, other.lookup column ≠ row.lookup column) :
    insert rows unique row = some (rows ++ [row]) := by
  unfold insert
  rw [if_neg]
  rw [Bool.not_eq_true, List.any_eq_false]
  intro column listed
  rw [Bool.not_eq_true, List.any_eq_false]
  intro other member
  simp [fresh column listed other member]

theorem insert_one_fresh {documents : List Record} {unique : List String} {document : Record}
    (fresh : ∀ name ∈ unique, ∀ other ∈ documents,
      (other.lookup name).getD .null ≠ (document.lookup name).getD .null) :
    insertOne documents unique document = some (documents ++ [document]) := by
  unfold insertOne
  rw [if_neg]
  rw [Bool.not_eq_true, List.any_eq_false]
  intro name listed
  rw [Bool.not_eq_true, List.any_eq_false]
  intro other member
  simp [fresh name listed other member]

end Statements

/-! ### Encodings -/

/-- `_to_doc`: the named fields are left out when they are `None`. -/
def omitNone (names : List String) (document : Record) : Record :=
  document.filter fun field => !(names.contains field.1 && field.2 == .null)

theorem lookup_filter {α : Type} {key : String} (keep : String × α → Bool)
    {record : List (String × α)} (distinct : (record.map Prod.fst).Nodup) :
    (record.filter keep).lookup key = (record.lookup key).filter fun value => keep (key, value) := by
  induction record with
  | nil => rfl
  | cons entry rest induction =>
      obtain ⟨name, value⟩ := entry
      simp only [List.map_cons, List.nodup_cons] at distinct
      have rested := induction distinct.2
      by_cases here : key = name
      · subst here
        have absent : rest.lookup key = none := by
          rw [List.lookup_eq_none_iff]
          intro other member
          have apart : other.1 ≠ key := by
            rintro rfl
            exact distinct.1 (List.mem_map_of_mem member)
          simpa using fun same : key = other.1 => apart same.symm
        cases kept : keep (key, value) with
        | true => simp [kept, Option.filter]
        | false => simp [kept, rested, absent, Option.filter]
      · have differs : (key == name) = false := by simpa using here
        cases kept : keep (name, value) with
        | true => simp [kept, List.lookup_cons, differs, rested]
        | false => simp [kept, List.lookup_cons, differs, rested]

/-- The fields of a document are read through `null` or through their absence. -/
theorem lookup_omit (names : List String) {document : Record} (key : String)
    (distinct : (document.map Prod.fst).Nodup) :
    ((omitNone names document).lookup key).getD .null = (document.lookup key).getD .null := by
  unfold omitNone
  rw [lookup_filter _ distinct]
  cases document.lookup key with
  | none => rfl
  | some value =>
      rw [Option.filter_some]
      split
      · rfl
      · rename_i dropped
        have null : value = .null := by
          simp at dropped
          exact dropped.2
        rw [null]
        rfl

theorem lookup_kept {names : List String} {document : Record} {key : String}
    (distinct : (document.map Prod.fst).Nodup) (kept : key ∉ names) :
    (omitNone names document).lookup key = document.lookup key := by
  unfold omitNone
  rw [lookup_filter _ distinct]
  cases document.lookup key <;> simp [kept]

/-- Setting fields that are there and are never left out. -/
theorem set_fields_omit {names : List String} {changes document : Record}
    (distinct : (document.map Prod.fst).Nodup)
    (kept : ∀ change ∈ changes, change.1 ∉ names)
    (present : ∀ change ∈ changes, (document.lookup change.1).isSome = true) :
    setFields changes (omitNone names document) = omitNone names (setColumns changes document) := by
  have added : (changes.filter fun change =>
      ((omitNone names document).lookup change.1).isNone) = [] := by
    rw [List.filter_eq_nil_iff]
    intro change member
    rw [lookup_kept distinct (kept change member)]
    simpa using present change member
  unfold setFields
  rw [added, List.append_nil]
  unfold setColumns omitNone
  rw [List.filter_map]
  congr 1
  apply List.filter_congr
  rintro ⟨name, value⟩ _
  cases changing : changes.lookup name with
  | none => simp [changing]
  | some replaced =>
      obtain ⟨before, after, split, _⟩ := List.lookup_eq_some_iff.1 changing
      have outside : name ∉ names := kept (name, replaced) (by simp [split])
      simp [outside]

end OAuth2Server.Records
