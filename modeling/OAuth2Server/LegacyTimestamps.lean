import Mathlib.Logic.Function.Basic
import OAuth2Server.IsoTexts
import OAuth2Server.StoredDatetimes
import OAuth2Server.Tables

/-!
# Healing legacy timestamps

At startup `_normalize_legacy_timestamps` reads the documents that hold a BSON date
and writes the date back as a text, while other processes heal the same documents
and serve requests. A reader sees none of it, unless a request writes a field
between a healer's read and its write.
-/

namespace OAuth2Server.LegacyTimestamps

open OAuth2Server Models Tables IsoDates IsoTexts StoredDatetimes TimestampText

set_option autoImplicit false

/-! ### Values -/

/-- A datetime is one of those there are. -/
def Genuine : Stored → Prop
  | .datetime value => Valid value
  | _ => True

/-- A value of a document. -/
structure Value where
  stored : Stored
  genuine : Genuine stored

/-- A naive value is UTC's. -/
def inUtc (value : Moment) : Moment := { value with offset := some (value.offset.getD 0) }

/-- What a healer writes for a value. -/
def healed : Stored → Stored
  | .datetime value => .text (isoformat (inUtc value))
  | other => other

def isLegacy : Stored → Bool
  | .datetime _ => true
  | _ => false

theorem genuine_healed (value : Stored) : Genuine (healed value) := by
  cases value <;> trivial

theorem valid_in_utc {value : Moment} (valid : Valid value) : Valid (inUtc value) := by
  refine ⟨valid.positive, valid.early, ?_⟩
  intro offset same
  cases stated : value.offset with
  | none =>
      rw [inUtc, stated] at same
      cases same
      decide
  | some given =>
      rw [inUtc, stated] at same
      cases same
      exact valid.offset given stated

/-- A reader takes the text for what it took the date for. -/
theorem coerce_healed (value : Value) :
    coerceDatetime (healed value.stored) = coerceDatetime value.stored := by
  obtain ⟨stored, genuine⟩ := value
  cases stored with
  | datetime moment =>
      change fromIsoFormat (isoformat (inUtc moment)) = _
      rw [from_iso_isoformat (valid_in_utc genuine)]
      obtain ⟨wall, offset⟩ := moment
      cases offset <;> rfl
  | text => rfl
  | document => rfl

/-- Whatever text the storage writes a datetime as, the model built from the row holds
that datetime: single fields are written with `isoformat`, whole rows in pydantic's
JSON form. -/
theorem written_read_back {moment : Moment} (valid : Valid moment) :
    coerceDatetime (.text (isoformat moment)) = some moment ∧
      ∀ instant, nowUtc instant = moment →
        coerceDatetime (.text (storedText instant)) = some moment ∧
          isoformat moment = boundText instant := by
  refine ⟨from_iso_isoformat valid, ?_⟩
  intro instant same
  have datetime : Datetime instant := by
    rw [← same] at valid
    exact ⟨valid.positive, valid.early⟩
  rw [← same]
  exact ⟨from_iso_stored datetime, isoformat_utc instant⟩

/-- 2024-04-27T14:30:45.123456+02:00. -/
def summerMoment : Moment := ⟨sinceYearOne 1714228245123456, some 7200000000⟩

theorem summer_valid : Valid summerMoment where
  positive := by decide
  early := by decide
  offset := by
    rintro offset ⟨⟩
    decide

theorem moments_read_back :
    coerceDatetime (.text (isoformat summerMoment)) = some summerMoment ∧
      coerceDatetime (.text (storedText 1714221045123456)) = some (nowUtc 1714221045123456) ∧
      isoformat (nowUtc 1714221045123456) = boundText 1714221045123456 :=
  ⟨(written_read_back summer_valid).1,
    (written_read_back ⟨by decide, by decide, by simp [nowUtc, dayMicros]⟩).2 _ rfl⟩

/-! ### Documents -/

/-- A document: its natural key and its datetimes. In a collection the natural keys are
distinct, which an index ensures but for `users.id`. -/
structure Doc where
  key : String
  fields : String → Option Value

def Doc.set (doc : Doc) (field : String) (value : Value) : Doc :=
  { doc with fields := Function.update doc.fields field (some value) }

@[simp] theorem fields_set (doc : Doc) (field : String) (value : Value) :
    (doc.set field value).fields = Function.update doc.fields field (some value) := rfl

abbrev Docs := Table Doc [Doc.key]

/-- `update_one({key_field: key}, {"$set": {field: value}})`. -/
def setField (docs : Docs) (key field : String) (value : Value) : Docs :=
  docs.updateFirst (·.key == key) (·.set field value) (by simp [Doc.set])

theorem rows_set_field (docs : Docs) (key field : String) (value : Value) :
    (setField docs key field value).rows =
      docs.rows.map fun doc => if doc.key == key then doc.set field value else doc := by
  apply Table.change_first_eq_map _ _ Doc.key key
  · intro doc same
    exact beq_iff_eq.1 same
  · exact docs.unique Doc.key (by simp)

/-- What a request does to a collection. -/
inductive Change where
  | insert (doc : Doc)
  | set (key field : String) (value : Value)
  | remove (key : String)

def Change.apply (docs : Docs) : Change → Docs
  | .insert doc => (docs.insert doc).getD docs
  | .set key field value => setField docs key field value
  | .remove key => docs.deleteFirst (·.key == key)

/-! ### What readers see -/

/-- A document as a reader takes it: every datetime coerced. -/
abbrev Reading := String × (String → Option (Option Moment))

def Doc.read (doc : Doc) : Reading :=
  (doc.key, fun field => (doc.fields field).map fun value => coerceDatetime value.stored)

def view (docs : Docs) : List Reading := docs.rows.map Doc.read

/-- A request's change, in the terms of readers. -/
def Change.seen (readings : List Reading) : Change → List Reading
  | .insert doc =>
      if readings.any (·.1 == doc.key) then readings else readings ++ [doc.read]
  | .set key field value =>
      readings.map fun reading =>
        if reading.1 == key then
          (reading.1, Function.update reading.2 field (some (coerceDatetime value.stored)))
        else reading
  | .remove key => readings.filter fun reading => reading.1 != key

theorem read_set (doc : Doc) (field : String) (value : Value) :
    (doc.set field value).read =
      (doc.key, Function.update doc.read.2 field (some (coerceDatetime value.stored))) := by
  unfold Doc.read Doc.set
  congr 1
  funext other
  by_cases same : other = field
  · subst same
    simp
  · simp [Function.update_of_ne same]

/-- Readers see of a request what it says in their terms. -/
theorem view_apply (docs : Docs) (change : Change) :
    view (change.apply docs) = change.seen (view docs) := by
  cases change with
  | insert doc =>
      have keys : (view docs).any (·.1 == doc.key) = docs.conflicts doc := by
        rw [Bool.eq_iff_iff]
        simp [view, Doc.read, Table.conflicts]
      unfold Change.apply Change.seen Table.insert
      dsimp only
      rw [keys]
      by_cases fresh : docs.conflicts doc = false
      · rw [dif_pos fresh, if_neg (by rw [fresh]; decide)]
        exact List.map_append
      · rw [dif_neg fresh, if_pos (by simpa using fresh)]
        rfl
  | set key field value =>
      change ((setField docs key field value).rows).map Doc.read = _
      rw [rows_set_field, view, List.map_map, Change.seen, List.map_map]
      apply List.map_congr_left
      intro doc _
      by_cases named : doc.key = key
      · simp only [Function.comp_apply, named, beq_self_eq_true, if_true, read_set]
        simp [Doc.read, named]
      · simp [named, Doc.read]
  | remove key =>
      have rows : (docs.deleteFirst (·.key == key)).rows =
          docs.rows.filter fun doc => !(doc.key == key) := by
        apply Table.erase_first_eq_filter _ Doc.key key
        · intro doc same
          exact beq_iff_eq.1 same
        · exact docs.unique Doc.key (by simp)
      change (docs.deleteFirst (·.key == key)).rows.map Doc.read = _
      rw [rows, view, Change.seen, List.filter_map]
      rfl

/-! ### Healers and requests -/

/-- `_TIMESTAMP_HEAL_SPECS`, without the names of the natural keys. -/
def timestampHealSpecs : List (String × List String) :=
  [("clients", ["created_at", "updated_at"]), ("users", ["created_at", "updated_at"]),
    ("tokens", ["created_at", "expires_at"]), ("authorization_codes", ["created_at", "expires_at"]),
    ("device_authorizations", ["created_at", "expires_at"])]

/-- The cells that are healed. -/
def columns : List (String × String) :=
  timestampHealSpecs.flatMap fun spec => spec.2.map fun field => (spec.1, field)

/-- A date that a healer has read and not yet written back. -/
structure Found where
  collection : String
  key : String
  field : String
  value : Value

/-- The collections, and what all the healers are about to write. -/
structure System where
  db : String → Docs
  pending : List Found

/-- A cursor gives a document, one of the writes that are due is made or given up,
or a request is served. -/
inductive Move where
  | find (collection key field : String)
  | write (index : Nat)
  | skip (index : Nat)
  | serve (collection : String) (change : Change)

/-- The legacy value of a cell. -/
def legacy (docs : Docs) (key field : String) : Option Value :=
  (((docs.first (·.key == key)).bind fun doc => doc.fields field).filter fun value =>
    isLegacy value.stored)

def healedValue (value : Value) : Value where
  stored := healed value.stored
  genuine := genuine_healed value.stored

def System.step (system : System) : Move → System
  | .find collection key field =>
      match (legacy (system.db collection) key field).filter fun _ =>
          columns.contains (collection, field) with
      | none => system
      | some value =>
          { system with pending := system.pending ++ [⟨collection, key, field, healedValue value⟩] }
  | .write index =>
      match system.pending[index]? with
      | none => system
      | some found =>
          { db := Function.update system.db found.collection
              (setField (system.db found.collection) found.key found.field found.value)
            pending := system.pending.eraseIdx index }
  | .skip index => { system with pending := system.pending.eraseIdx index }
  | .serve collection change =>
      { system with
        db := Function.update system.db collection (change.apply (system.db collection)) }

def System.run (system : System) (moves : List Move) : System := moves.foldl System.step system

/-- What all readers see. -/
def System.readers (system : System) : String → List Reading :=
  fun collection => view (system.db collection)

/-- The readers' own account of a move: healing does nothing. -/
def Move.seen (readers : String → List Reading) : Move → String → List Reading
  | .serve collection change =>
      Function.update readers collection (change.seen (readers collection))
  | _ => readers

/-- The change gives a cell a value of its own. -/
def Change.Touches (key field : String) : Change → Prop
  | .insert doc => doc.key = key
  | .set changed column _ => changed = key ∧ column = field
  | .remove _ => False

/-- A request keeps off what the healers are about to write. -/
def Clear (system : System) : Move → Prop
  | .serve collection change => ∀ found ∈ system.pending, found.collection = collection →
      ¬change.Touches found.key found.field
  | _ => True

/-- What is due is what readers see already. -/
def Settled (readings : List Reading) (found : Found) : Prop :=
  ∀ reading ∈ readings, reading.1 = found.key →
    reading.2 found.field = some (coerceDatetime found.value.stored)

def Owed (system : System) : Prop :=
  ∀ found ∈ system.pending, Settled (system.readers found.collection) found

/-! ### One move -/

section Steps

variable {system : System}

/-- A write of what is seen already is not seen. -/
theorem seen_settled {readings : List Reading} {found : Found} (settled : Settled readings found) :
    Change.seen readings (.set found.key found.field found.value) = readings := by
  unfold Change.seen
  dsimp only
  have same : ∀ reading ∈ readings, (if reading.1 == found.key then
      (reading.1, Function.update reading.2 found.field (some (coerceDatetime found.value.stored)))
      else reading) = reading := by
    intro reading member
    split
    · rename_i named
      have held := settled reading member (beq_iff_eq.1 named)
      rw [← held, Function.update_eq_self]
    · rfl
  rw [List.map_congr_left same, List.map_id']

/-- A change that keeps off a cell leaves what is due there settled. -/
theorem settled_seen {readings : List Reading} {found : Found} {change : Change}
    (settled : Settled readings found) (apart : ¬change.Touches found.key found.field) :
    Settled (change.seen readings) found := by
  intro reading member named
  cases change with
  | insert doc =>
      unfold Change.seen at member
      dsimp only at member
      split at member
      · exact settled reading member named
      · rcases List.mem_append.1 member with old | new
        · exact settled reading old named
        · rw [List.mem_singleton.1 new] at named
          exact absurd named apart
  | set key field value =>
      obtain ⟨before, old, rfl⟩ := List.mem_map.1 member
      split at named
      · rename_i changed
        have held := settled before old named
        rw [if_pos changed]
        have other : found.field ≠ field := by
          intro same
          exact apart ⟨(beq_iff_eq.1 changed).symm.trans named, same.symm⟩
        dsimp only
        rw [Function.update_of_ne other, held]
      · rename_i kept
        rw [if_neg kept]
        exact settled before old named
  | remove key => exact settled reading (List.mem_of_mem_filter member) named

theorem legacy_settled {docs : Docs} {collection key field : String} {value : Value}
    (read : legacy docs key field = some value) :
    Settled (view docs) ⟨collection, key, field, healedValue value⟩ := by
  intro reading member named
  obtain ⟨other, held, rfl⟩ := List.mem_map.1 member
  obtain ⟨cell, _⟩ := Option.filter_eq_some_iff.1 read
  obtain ⟨doc, found, stored⟩ := Option.bind_eq_some_iff.1 cell
  have one : docs.first (·.key == key) = some other := by
    have first : docs.first (fun doc => doc.key == other.key) = some other :=
      Table.first_of_mem docs (by simp) held
    change other.key = key at named
    rwa [named] at first
  rw [one] at found
  cases found
  change (other.fields field).map _ = _
  rw [stored, Option.map_some]
  exact congrArg some (coerce_healed value).symm

/-- One move of a system that owes nothing new: healing is not seen, and a request
is seen as it says. -/
theorem step_seen {move : Move} (owed : Owed system) (clear : Clear system move) :
    Owed (system.step move) ∧
      (system.step move).readers = move.seen system.readers := by
  cases move with
  | find collection key field =>
      unfold System.step
      dsimp only
      cases read : (legacy (system.db collection) key field).filter fun _ =>
          columns.contains (collection, field) with
      | none => exact ⟨owed, rfl⟩
      | some value =>
          refine ⟨?_, rfl⟩
          intro found due
          rcases List.mem_append.1 due with old | new
          · exact owed found old
          · rw [List.mem_singleton.1 new]
            exact legacy_settled (Option.filter_eq_some_iff.1 read).1
  | write index =>
      unfold System.step
      dsimp only
      cases due : system.pending[index]? with
      | none => exact ⟨owed, rfl⟩
      | some found =>
          have settled := owed found (List.mem_of_getElem? due)
          have same : ∀ collection, view (Function.update system.db found.collection
              (setField (system.db found.collection) found.key found.field found.value) collection) =
              view (system.db collection) := by
            intro collection
            by_cases here : collection = found.collection
            · subst here
              rw [Function.update_self]
              exact (view_apply _ (.set found.key found.field found.value)).trans
                (seen_settled settled)
            · rw [Function.update_of_ne here]
          refine ⟨?_, funext same⟩
          intro other still
          have before := owed other (List.mem_of_mem_eraseIdx still)
          unfold System.readers at before ⊢
          rw [same]
          exact before
  | skip index =>
      refine ⟨?_, rfl⟩
      intro found still
      exact owed found (List.mem_of_mem_eraseIdx still)
  | serve collection change =>
      have seen : (system.step (.serve collection change)).readers =
          Move.seen system.readers (.serve collection change) := by
        funext other
        unfold System.readers System.step Move.seen
        dsimp only
        by_cases here : other = collection
        · subst here
          rw [Function.update_self, Function.update_self]
          exact view_apply _ _
        · rw [Function.update_of_ne here, Function.update_of_ne here]
      refine ⟨?_, seen⟩
      intro found due
      rw [seen]
      unfold Move.seen
      dsimp only
      by_cases here : found.collection = collection
      · rw [here, Function.update_self, ← here]
        exact settled_seen (owed found due) (clear found due here)
      · rw [Function.update_of_ne here]
        exact owed found due

end Steps

/-! ### Runs -/

/-- Every request of the run keeps off what is due at its time. -/
def ClearRun : System → List Move → Prop
  | _, [] => True
  | system, move :: rest => Clear system move ∧ ClearRun (system.step move) rest

/-- Whatever healers do and in whatever order, the readers' account of the run is that
of its requests alone, and what is due is what they see. -/
theorem run_seen {system : System} {moves : List Move} (owed : Owed system)
    (clear : ClearRun system moves) :
    Owed (system.run moves) ∧
      (system.run moves).readers = moves.foldl Move.seen system.readers := by
  induction moves generalizing system with
  | nil => exact ⟨owed, rfl⟩
  | cons move rest induction =>
      obtain ⟨first, others⟩ := clear
      obtain ⟨later, seen⟩ := step_seen owed first
      obtain ⟨still, whole⟩ := induction later others
      refine ⟨still, ?_⟩
      change ((system.step move).run rest).readers = _
      rw [whole, seen]
      rfl

/-- The last of two writes to a cell is what is seen. -/
theorem seen_set_set (readings : List Reading) (key field : String) (first last : Value) :
    Change.seen (Change.seen readings (.set key field first)) (.set key field last) =
      Change.seen readings (.set key field last) := by
  unfold Change.seen
  dsimp only
  rw [List.map_map]
  apply List.map_congr_left
  intro reading _
  by_cases named : reading.1 = key
  · simp [named]
  · simp [named]

/-- A request that writes a cell between a healer's read and its write is undone. -/
theorem write_between_lost {system : System} (owed : Owed system) {index : Nat} {found : Found}
    (due : system.pending[index]? = some found) (new : Value) :
    (system.run [.serve found.collection (.set found.key found.field new),
      .write index]).readers = system.readers := by
  have settled := owed found (List.mem_of_getElem? due)
  funext other
  unfold System.run System.readers
  simp only [List.foldl_cons, List.foldl_nil, System.step, due]
  by_cases here : other = found.collection
  · subst here
    rw [Function.update_self, Function.update_self]
    change Settled (view (system.db found.collection)) found at settled
    generalize system.db found.collection = docs at settled ⊢
    have last := view_apply (setField docs found.key found.field new)
      (.set found.key found.field found.value)
    have first := view_apply docs (.set found.key found.field new)
    change view (setField (setField docs found.key found.field new) found.key found.field
      found.value) = _
    change view (setField (setField docs found.key found.field new) found.key found.field
      found.value) = _ at last
    change view (setField docs found.key found.field new) = _ at first
    rw [last, first, seen_set_set]
    exact seen_settled settled
  · rw [Function.update_of_ne here, Function.update_of_ne here]

theorem owed_nothing (db : String → Docs) : Owed { db := db, pending := [] } :=
  fun _ none => (nomatch none)

/-- Any number of healers, their reads and writes in any order: while requests keep off
the cells that are due to be written, readers see the requests and nothing else. A
request that writes such a cell is undone when the healer writes. -/
theorem healing_unseen {system : System} (owed : Owed system) {moves : List Move}
    (clear : ClearRun system moves) :
    (system.run moves).readers = moves.foldl Move.seen system.readers ∧
      ∀ index found new, (system.run moves).pending[index]? = some found →
        ((system.run moves).run [.serve found.collection (.set found.key found.field new),
          .write index]).readers = (system.run moves).readers := by
  obtain ⟨later, seen⟩ := run_seen owed clear
  exact ⟨seen, fun _ _ new due => write_between_lost later due new⟩

/-! A user's date is found by two healers; one of them has written it back when the user
is changed. -/

def legacyUsers : Docs where
  rows := [{
    key := "alice"
    fields := fun field => if field = "created_at" then
      some ⟨.datetime summerMoment, summer_valid⟩ else none }]
  unique := by simp

def legacySystem : System where
  db := fun collection => if collection = "users" then legacyUsers else Table.empty
  pending := []

def twoHealers : List Move :=
  [.find "users" "alice" "created_at", .find "users" "alice" "created_at", .write 0]

/-- What the other healer is about to write. -/
def secondFound : Found where
  collection := "users"
  key := "alice"
  field := "created_at"
  value := healedValue ⟨.datetime summerMoment, summer_valid⟩

theorem user_change_undone :
    (legacySystem.run twoHealers).readers = legacySystem.readers ∧
      ∀ new, ((legacySystem.run twoHealers).run [.serve "users" (.set "alice" "created_at" new),
        .write 0]).readers = legacySystem.readers := by
  have clear : ClearRun legacySystem twoHealers := ⟨trivial, trivial, trivial, trivial⟩
  have due : (legacySystem.run twoHealers).pending[0]? = some secondFound := rfl
  obtain ⟨healed, undone⟩ := healing_unseen (owed_nothing _) clear
  exact ⟨healed, fun new => (undone 0 secondFound new due).trans healed⟩

/-! ### One healer -/

/-- No document with one of the keys holds a date in the field. -/
def Clean (docs : Docs) (field : String) (keys : List String) : Prop :=
  ∀ doc ∈ docs.rows, doc.key ∈ keys → ∀ value, doc.fields field = some value →
    isLegacy value.stored = false

/-- The documents are the same, and none has become legacy. -/
structure Progress (before after : String → Docs) : Prop where
  keys : ∀ collection, (after collection).rows.map Doc.key = (before collection).rows.map Doc.key
  clean : ∀ collection field keys, Clean (before collection) field keys →
    Clean (after collection) field keys

theorem Progress.refl (db : String → Docs) : Progress db db :=
  ⟨fun _ => rfl, fun _ _ _ clean => clean⟩

theorem Progress.trans {first second third : String → Docs} (earlier : Progress first second)
    (later : Progress second third) : Progress first third :=
  ⟨fun collection => (later.keys collection).trans (earlier.keys collection),
    fun collection field keys clean =>
      later.clean collection field keys (earlier.clean collection field keys clean)⟩

/-- `_normalize_legacy_timestamps`, one field of a collection. -/
def sweep (collection field : String) (keys : List String) : List Move :=
  keys.flatMap fun key => [.find collection key field, .write 0]

/-- `_normalize_legacy_timestamps`, alone. -/
def normalizeLegacyTimestamps (db : String → Docs) : List Move :=
  columns.flatMap fun column => sweep column.1 column.2 ((db column.1).rows.map Doc.key)

section Sweeps

variable {db : String → Docs} {collection field : String}

theorem progress_set_healed (db : String → Docs) (collection key field : String) (value : Value) :
    Progress db (Function.update db collection
      (setField (db collection) key field (healedValue value))) ∧
    Clean (setField (db collection) key field (healedValue value)) field [key] := by
  have harmless : isLegacy (healedValue value).stored = false := by
    obtain ⟨stored, _⟩ := value
    cases stored <;> rfl
  constructor
  · constructor
    · intro other
      by_cases here : other = collection
      · subst here
        rw [Function.update_self, rows_set_field, List.map_map]
        apply List.map_congr_left
        intro doc _
        simp only [Function.comp_apply]
        split <;> rfl
      · rw [Function.update_of_ne here]
    · intro other column keys clean
      by_cases here : other = collection
      · subst here
        rw [Function.update_self]
        intro doc member named held stored
        rw [rows_set_field] at member
        obtain ⟨before, old, rfl⟩ := List.mem_map.1 member
        split at stored
        · rename_i changed
          rw [if_pos changed] at named
          by_cases same : column = field
          · subst same
            rw [fields_set, Function.update_self] at stored
            cases stored
            exact harmless
          · rw [fields_set, Function.update_of_ne same] at stored
            exact clean before old named held stored
        · rename_i kept
          rw [if_neg kept] at named
          exact clean before old named held stored
      · rw [Function.update_of_ne here]
        exact clean
  · intro doc member named held stored
    rw [rows_set_field] at member
    obtain ⟨before, old, rfl⟩ := List.mem_map.1 member
    split at stored
    · rw [fields_set, Function.update_self] at stored
      cases stored
      exact harmless
    · rename_i kept
      rw [if_neg kept, List.mem_singleton] at named
      exact absurd (beq_iff_eq.2 named) kept

/-- A document is read and written back before the next. -/
theorem one_healed (db : String → Docs) (column : (collection, field) ∈ columns) (key : String) :
    ∃ later, System.run { db := db, pending := [] } [.find collection key field, .write 0] =
        { db := later, pending := [] } ∧ Progress db later ∧ Clean (later collection) field [key] := by
  have listed : columns.contains (collection, field) = true := List.contains_iff_mem.2 column
  cases read : legacy (db collection) key field with
  | none =>
      refine ⟨db, ?_, Progress.refl db, ?_⟩
      · unfold System.run
        simp [System.step, read]
      · intro doc member named held stored
        rw [List.mem_singleton] at named
        have first : (db collection).first (fun other => other.key == doc.key) = some doc :=
          Table.first_of_mem _ (by simp) member
        unfold legacy at read
        rw [← named, first, Option.bind_some, stored] at read
        simpa [Option.filter] using read
  | some value =>
      obtain ⟨progress, clean⟩ := progress_set_healed db collection key field value
      refine ⟨_, ?_, progress, ?_⟩
      · unfold System.run
        simp only [List.foldl_cons, List.foldl_nil, System.step, read, Option.filter, listed,
          if_true, List.nil_append, List.getElem?_cons_zero, List.eraseIdx_cons_zero]
      · rw [Function.update_self]
        exact clean

theorem swept (db : String → Docs) (column : (collection, field) ∈ columns) (keys : List String) :
    ∃ later, System.run { db := db, pending := [] } (sweep collection field keys) =
        { db := later, pending := [] } ∧ Progress db later ∧ Clean (later collection) field keys := by
  induction keys generalizing db with
  | nil => exact ⟨db, rfl, Progress.refl db, fun _ _ none => (nomatch none)⟩
  | cons key rest induction =>
      obtain ⟨middle, first, begun, one⟩ := one_healed db column key
      obtain ⟨later, others, progress, clean⟩ := induction middle
      refine ⟨later, ?_, begun.trans progress, ?_⟩
      · have split : System.run { db := db, pending := [] } (sweep collection field (key :: rest)) =
            (System.run { db := db, pending := [] } [.find collection key field, .write 0]).run
              (sweep collection field rest) := List.foldl_append
        rw [split, first, others]
      · intro doc member named
        rcases List.mem_cons.1 named with same | named
        · exact progress.clean collection field [key] one doc member (List.mem_singleton.2 same)
        · exact clean doc member named

/-- No document of the collection holds a date in the field. -/
def Healed (db : String → Docs) (column : String × String) : Prop :=
  ∀ doc ∈ (db column.1).rows, ∀ value, doc.fields column.2 = some value →
    isLegacy value.stored = false

theorem healed_of_clean {column : String × String}
    (clean : Clean (db column.1) column.2 ((db column.1).rows.map Doc.key)) : Healed db column :=
  fun doc member => clean doc member (List.mem_map_of_mem member)

/-- Column after column, with the keys the documents had at the start. -/
theorem swept_columns (start db : String → Docs) (todo : List (String × String))
    (listed : ∀ column ∈ todo, column ∈ columns) (same : Progress start db) :
    ∃ later, System.run { db := db, pending := [] } (todo.flatMap fun column =>
          sweep column.1 column.2 ((start column.1).rows.map Doc.key)) =
        { db := later, pending := [] } ∧ Progress db later ∧ ∀ column ∈ todo, Healed later column := by
  induction todo generalizing db with
  | nil => exact ⟨db, rfl, Progress.refl db, fun _ none => (nomatch none)⟩
  | cons column rest induction =>
      have here : (column.1, column.2) ∈ columns := listed column List.mem_cons_self
      obtain ⟨middle, first, begun, clean⟩ := swept db here ((start column.1).rows.map Doc.key)
      have others : ∀ column ∈ rest, column ∈ columns :=
        fun column member => listed column (List.mem_cons_of_mem _ member)
      obtain ⟨later, ran, progress, healed⟩ := induction middle others (same.trans begun)
      refine ⟨later, ?_, begun.trans progress, ?_⟩
      · rw [List.flatMap_cons]
        unfold System.run at first ran ⊢
        rw [List.foldl_append, first, ran]
      · intro other member
        rcases List.mem_cons.1 member with rfl | member
        · have keys := (progress.keys other.1).trans ((same.trans begun).keys other.1)
          apply healed_of_clean
          rw [keys]
          exact progress.clean _ _ _ clean
        · exact healed other member

/-- Moves of healers alone. -/
def Move.heals : Move → Bool
  | .serve _ _ => false
  | _ => true

theorem healers_clear {moves : List Move} (alone : ∀ move ∈ moves, move.heals = true)
    (system : System) (readers : String → List Reading) :
    ClearRun system moves ∧ moves.foldl Move.seen readers = readers := by
  induction moves generalizing system with
  | nil => exact ⟨trivial, rfl⟩
  | cons move rest induction =>
      have here := alone move List.mem_cons_self
      obtain ⟨clear, unseen⟩ :=
        induction (fun other member => alone other (List.mem_cons_of_mem _ member)) (system.step move)
      cases move with
      | serve collection change => cases here
      | find collection key field => exact ⟨⟨trivial, clear⟩, unseen⟩
      | write index => exact ⟨⟨trivial, clear⟩, unseen⟩
      | skip index => exact ⟨⟨trivial, clear⟩, unseen⟩

end Sweeps

/-- A healer that runs alone leaves no date in any of the healed fields, and readers
see what they saw before. -/
theorem normalized (db : String → Docs) :
    ∃ later, System.run { db := db, pending := [] } (normalizeLegacyTimestamps db) =
        { db := later, pending := [] } ∧ (∀ column ∈ columns, Healed later column) ∧
      ∀ collection, view (later collection) = view (db collection) := by
  obtain ⟨later, ran, _, healed⟩ :=
    swept_columns db db columns (fun _ member => member) (Progress.refl db)
  have alone : ∀ move ∈ normalizeLegacyTimestamps db, move.heals = true := by
    intro move member
    obtain ⟨column, _, swept⟩ := List.mem_flatMap.1 member
    obtain ⟨key, _, one⟩ := List.mem_flatMap.1 swept
    rcases List.mem_cons.1 one with rfl | one
    · rfl
    · rw [List.mem_singleton.1 one]
      rfl
  obtain ⟨clear, idle⟩ := healers_clear alone { db := db, pending := [] }
    (System.readers { db := db, pending := [] })
  obtain ⟨-, unseen⟩ := run_seen (owed_nothing db) clear
  change System.run _ (normalizeLegacyTimestamps db) = _ at ran
  rw [ran, idle] at unseen
  exact ⟨later, ran, healed, fun collection => congrFun unseen collection⟩

end OAuth2Server.LegacyTimestamps
