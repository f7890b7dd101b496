import OAuth2Server.Authorize
import OAuth2Server.Doubles
import OAuth2Server.IsoDates
import OAuth2Server.TimestampText

/-!
# The datetimes of stored rows

`_coerce_datetime` runs before every datetime field of a row is validated: drivers
give datetimes, SQLite and Mongo give ISO texts, and exported documents give
numbers of milliseconds, which are divided by a thousand as doubles.
-/

namespace OAuth2Server.StoredDatetimes

open OAuth2Server Models JsonText IsoDates TimestampText

set_option autoImplicit false

/-- What a row holds in the place of a datetime. -/
inductive Stored where
  | datetime (value : Moment)
  | text (value : String)
  | document (members : List (String × Json))

/-- `int(raw)`; `none` is an exception. -/
def intOf : Json → Option Int
  | .int number => some number
  | .bool value => some (if value then 1 else 0)
  | .float value => some (Doubles.truncate value)
  | .str text => Authorize.pyInt text
  | _ => none

/-- The milliseconds of an extended-JSON date. -/
def millisOf (members : List (String × Json)) : Option Int :=
  (members.lookup "$date").bind fun raw =>
    match raw with
    | .obj inner => (inner.lookup "$numberLong").bind intOf
    | raw => intOf raw

/-- `datetime.fromtimestamp(seconds, tz=UTC)`; `none` is an exception. -/
def fromTimestamp (seconds : ℚ) : Option Moment :=
  let instant := Doubles.microseconds seconds
  if Datetime instant then some ⟨sinceYearOne instant, some 0⟩ else none

/-- `_coerce_datetime` with the validation of its result: a document without `$date`
is no datetime. -/
def coerceDatetime : Stored → Option Moment
  | .datetime value =>
      match value.offset with
      | none => some { value with offset := some 0 }
      | some _ => some value
  | .text value => fromIsoFormat value
  | .document members =>
      (millisOf members).bind fun millis => fromTimestamp (Doubles.ofMillis millis)

/-- What a stored value denotes, in microseconds since year one; a clock without an
offset is UTC's. A text denotes what the parser reads of it. -/
def denotes : Stored → Option Int
  | .datetime value => some value.utc
  | .text value => (fromIsoFormat value).map Moment.utc
  | .document members => (millisOf members).map fun millis => sinceYearOne (millis * 1000)

/-- `datetime.now(UTC)`. -/
def nowUtc (instant : Instant) : Moment := ⟨sinceYearOne instant, some 0⟩

/-- The values that come back as they were meant. -/
def Faithful : Stored → Prop
  | .datetime _ => True
  | .text value => statesOffset value = true
  | .document members => ∀ millis, millisOf members = some millis →
      Doubles.Survives millis.natAbs

/-- The field is aware, is the instant the value denotes, and is compared with the
present time without an exception. -/
structure Comparable (value : Stored) (field : Moment) : Prop where
  aware : field.offset.isSome = true
  same : denotes value = some field.utc
  before : ∀ now, (field.before (nowUtc now)).isSome = true
  after : ∀ now, ((nowUtc now).before field).isSome = true

/-- An aware datetime is compared with another. -/
theorem compared_of_aware {field : Moment} (aware : field.offset.isSome = true) (now : Instant) :
    (field.before (nowUtc now)).isSome = true ∧ ((nowUtc now).before field).isSome = true := by
  unfold Moment.before
  rw [aware]
  exact ⟨rfl, rfl⟩

theorem comparable_iff {value : Stored} {field : Moment} :
    Comparable value field ↔ field.offset.isSome = true ∧ denotes value = some field.utc := by
  constructor
  · intro comparable
    exact ⟨comparable.aware, comparable.same⟩
  · intro ⟨aware, same⟩
    exact ⟨aware, same, fun now => (compared_of_aware aware now).1,
      fun now => (compared_of_aware aware now).2⟩

theorem coerced_datetime (value : Moment) : ∃ offset,
    coerceDatetime (.datetime value) = some ⟨value.wall, some offset⟩ ∧
      value.utc = value.wall - offset := by
  obtain ⟨wall, stated⟩ := value
  cases stated with
  | none => exact ⟨0, rfl, rfl⟩
  | some offset => exact ⟨offset, rfl, rfl⟩

/-- The milliseconds of a date in range are few enough for their double. -/
theorem millis_bounded {millis : Int}
    (accepted : Datetime (Doubles.microseconds (Doubles.ofMillis millis))) :
    millis.natAbs / 1000 < 2 ^ 44 := by
  by_contra huge
  have large := Doubles.microseconds_of_huge (Nat.le_of_not_lt huge)
  unfold Datetime sinceYearOne epochMicros at accepted
  rcases Int.natAbs_eq millis with same | same
  · rw [← same] at large
    omega
  · rw [same, Doubles.of_millis_neg, Doubles.microseconds_neg] at accepted
    omega

/-- A stored value comes back aware, as the instant it denotes and comparable exactly
when it is a datetime, a text with an offset, or milliseconds that survive. -/
theorem stored_datetime_iff {value : Stored} {field : Moment}
    (accepted : coerceDatetime value = some field) : Comparable value field ↔ Faithful value := by
  rw [comparable_iff]
  cases value with
  | datetime value =>
      obtain ⟨offset, coerced, same⟩ := coerced_datetime value
      cases coerced.symm.trans accepted
      have denoted : denotes (.datetime value) = some (value.wall - offset) := congrArg some same
      exact iff_of_true ⟨rfl, denoted⟩ trivial
  | text value =>
      have aware := offset_isSome accepted
      have same : denotes (.text value) = some field.utc := congrArg (Option.map Moment.utc) accepted
      rw [aware]
      exact and_iff_left same
  | document members =>
      obtain ⟨millis, read, converted⟩ := Option.bind_eq_some_iff.1 accepted
      have denoted : denotes (.document members) = some (sinceYearOne (millis * 1000)) :=
        congrArg (Option.map fun millis => sinceYearOne (millis * 1000)) read
      unfold fromTimestamp at converted
      dsimp only at converted
      split_ifs at converted with range
      cases converted
      have back := Doubles.microseconds_of_int (millis_bounded range)
      rw [denoted]
      constructor
      · intro ⟨_, same⟩ other found
        cases read.symm.trans found
        apply back.1
        have equal := Option.some.inj same
        simp only [Moment.utc, Option.getD_some, sinceYearOne] at equal
        omega
      · intro survives
        refine ⟨rfl, ?_⟩
        have exact := back.2 (survives millis read)
        simp only [Moment.utc, Option.getD_some, sinceYearOne, exact]
        congr 1
        omega

theorem zulu_text_comparable :
    Comparable (.text "2024-04-27T12:00:00.5Z") ⟨63849816000500000, some 0⟩ :=
  (stored_datetime_iff (by decide +kernel)).2 (by unfold Faithful; decide +kernel)

/-- A text without an offset comes back naive. -/
theorem bare_text_naive :
    ¬∀ value field, coerceDatetime value = some field → Comparable value field := by
  intro always
  have accepted : coerceDatetime (.text "2024-04-27T12:00:00") = some ⟨63849816000000000, none⟩ := by
    decide +kernel
  have aware := (always _ _ accepted).aware
  cases aware

/-- In 2242 the first millisecond after a second is lost to the division. -/
example : ¬Doubles.Survives 8589934592001 ∧ Doubles.Survives 8589934592000 := by decide +kernel

end OAuth2Server.StoredDatetimes
