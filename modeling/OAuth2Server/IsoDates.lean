import Mathlib.Algebra.Order.Ring.Nat
import Mathlib.Data.List.TakeWhile
import OAuth2Server.Calendar
import OAuth2Server.FixedDigits

/-!
# Dates and times written by ISO 8601

`datetime.fromisoformat`: calendar and week dates, with or without separators, any
one character before the time, a fraction of a second, and an offset from UTC.
A datetime without an offset is naive.
-/

namespace OAuth2Server.IsoDates

open OAuth2Server Calendar

set_option autoImplicit false

/-- A `datetime`: the microseconds since year one on its own clock, and how far that
clock is ahead of UTC. -/
structure Moment where
  wall : Int
  offset : Option Int
  deriving DecidableEq

/-- The microseconds since year one in UTC, taken as the clock of a naive value. -/
def Moment.utc (moment : Moment) : Int := moment.wall - moment.offset.getD 0

/-- `one < other`; `none` is the `TypeError` of a naive and an aware value. -/
def Moment.before (one other : Moment) : Option Bool :=
  if one.offset.isSome == other.offset.isSome then some (decide (one.utc < other.utc)) else none

/-! ### Digits -/

def digitOf (char : Char) : Option Nat :=
  if '0' ≤ char ∧ char ≤ '9' then some (char.toNat - '0'.toNat) else none

/-- The number of the next digits, exactly so many. -/
def readDigits : Nat → Nat → List Char → Option (Nat × List Char)
  | 0, number, text => some (number, text)
  | count + 1, number, char :: text =>
      (digitOf char).bind fun digit => readDigits count (number * 10 + digit) text
  | _ + 1, _, [] => none

def isDigit (char : Char) : Bool := (digitOf char).isSome

/-! ### The date -/

/-- `_find_isoformat_datetime_separator`. -/
def separatorAt (text : List Char) : Option Nat :=
  if text.length < 7 then none
  else if text.length == 7 then some 7
  else if text[4]? == some '-' then
    if text[5]? == some 'W' then
      if text[8]? == some '-' then
        if text.length == 9 then none
        -- Between a week and a digit the hyphen is taken for the separator.
        else if (text[10]?).any isDigit then some 8
        else some 10
      else some 8
    else some 10
  else if text[4]? == some 'W' then
    let last := 7 + ((text.drop 7).takeWhile isDigit).length
    if last < 9 then some last else if last % 2 == 0 then some 7 else some 8
  else some 8

/-- The number of a calendar date. -/
def dayNumber (year month day : Nat) : Option Nat :=
  if 1 ≤ year ∧ 1 ≤ month ∧ month ≤ 12 ∧ 1 ≤ day ∧ day ≤ daysInMonth (isLeap year) month then
    some (daysBeforeYear year + (daysBeforeMonth (isLeap year) month + (day - 1)))
  else none

/-- `_isoweek1monday`. -/
def firstMonday (year : Nat) : Int :=
  let first : Int := daysBeforeYear year
  let weekday := first % 7
  if weekday > 3 then first - weekday + 7 else first - weekday

/-- `_isoweek_to_gregorian`: a year has a 53rd week when it starts on a Thursday, or
on a Wednesday and is a leap year. -/
def weekNumber (year week day : Nat) : Option Nat :=
  let weekday := daysBeforeYear year % 7
  let long := weekday == 3 || (weekday == 2 && isLeap year)
  if 1 ≤ year ∧ 1 ≤ week ∧ (week ≤ 52 ∨ week = 53 ∧ long = true) ∧ 1 ≤ day ∧ day ≤ 7 then
    let number := firstMonday year + ((week : Int) - 1) * 7 + (day - 1)
    if 0 ≤ number then some number.toNat else none
  else none

/-- The separator that has to stand here, or has not to. -/
def skipSeparator (separator : Char) (separated : Bool) (text : List Char) :
    Option (List Char) :=
  if separated then (if text.head? == some separator then some text.tail else none)
  else if text.head? == some separator then none else some text

/-- `_parse_isoformat_date`. -/
def parseDate (text : List Char) : Option Nat := do
  let (year, rest) ← readDigits 4 0 text
  let separated := rest.head? == some '-'
  let rest := if separated then rest.tail else rest
  if rest.head? == some 'W' then
    let (week, rest) ← readDigits 2 0 rest.tail
    if rest.isEmpty then weekNumber year week 1
    else
      let rest ← skipSeparator '-' separated rest
      let (day, rest) ← readDigits 1 0 rest
      if rest.isEmpty then weekNumber year week day else none
  else
    let (month, rest) ← readDigits 2 0 rest
    let rest ← skipSeparator '-' separated rest
    let (day, rest) ← readDigits 2 0 rest
    if rest.isEmpty then dayNumber year month day else none

/-! ### The time -/

structure Clock where
  hour : Nat
  minute : Nat
  second : Nat
  micro : Nat

def Clock.micros (clock : Clock) : Nat :=
  ((clock.hour * 60 + clock.minute) * 60 + clock.second) * 1000000 + clock.micro

/-- The digits after a point or comma; those after the sixth are dropped. -/
def parseFraction : List Char → Option Nat
  | [] => some 0
  | mark :: digits =>
      if (mark == '.' || mark == ',') && !digits.isEmpty && digits.all isDigit then
        let kept := min 6 digits.length
        (readDigits kept 0 digits).map fun read => read.1 * 10 ^ (6 - kept)
      else none

/-- `_parse_hh_mm_ss_ff`: hours, then minutes, then seconds with a fraction. The
library's parser in C takes a few texts more, such as `12,5`. -/
def parseClock (text : List Char) : Option Clock := do
  let (hour, rest) ← readDigits 2 0 text
  let separated := rest.head? == some ':'
  if rest.isEmpty then return ⟨hour, 0, 0, 0⟩
  let (minute, rest) ← readDigits 2 0 (if separated then rest.tail else rest)
  if rest.isEmpty then return ⟨hour, minute, 0, 0⟩
  let rest ← if separated then
      (if rest.head? == some ':' then some rest.tail else none)
    else some rest
  let (second, rest) ← readDigits 2 0 rest
  let micro ← parseFraction rest
  return ⟨hour, minute, second, micro⟩

def dayMicros : Nat := 86400000000

/-- The offset after its sign: shorter than a day. -/
def parseOffset (sign : Int) (text : List Char) : Option Int :=
  (parseClock text).bind fun clock =>
    if clock.micros < dayMicros then some (sign * clock.micros) else none

/-- What stands before the first such character, and after it. -/
def cutAt (mark : Char) (text : List Char) : Option (List Char × List Char) :=
  match text.dropWhile (· != mark) with
  | [] => none
  | _ :: after => some (text.takeWhile (· != mark), after)

/-- The clock's text and the offset. -/
def splitOffset (text : List Char) : Option (List Char × Option Int) :=
  match cutAt '-' text with
  | some (clock, offset) => (parseOffset (-1) offset).map fun offset => (clock, some offset)
  | none =>
      match cutAt '+' text with
      | some (clock, offset) => (parseOffset 1 offset).map fun offset => (clock, some offset)
      | none =>
          match cutAt 'Z' text with
          | some (clock, after) => if after.isEmpty then some (clock, some 0) else none
          | none => some (text, none)

/-- The time of day in microseconds. -/
def timeOfDay (clock : Clock) : Option Nat :=
  if clock.hour ≤ 23 ∧ clock.minute ≤ 59 ∧ clock.second ≤ 59 then some clock.micros else none

/-- `_parse_isoformat_time`. -/
def parseTime (text : List Char) : Option (Nat × Option Int) := do
  let (clock, offset) ← splitOffset text
  let time ← (parseClock clock).bind timeOfDay
  return (time, offset)

/-- The text after the date and the character that follows it. -/
def timePart (text : List Char) : Option (List Char) :=
  (separatorAt text).bind fun place =>
    if place < text.length then some (text.drop (place + 1)) else none

/-- The time of day and the offset, midnight where there is only a date. -/
def timeOf (text : List Char) : Option (Nat × Option Int) :=
  match timePart text with
  | none => some (0, none)
  | some rest => parseTime rest

/-- `datetime.fromisoformat(text)`; `none` is `ValueError`. -/
def fromIsoFormat (text : String) : Option Moment := do
  let place ← separatorAt text.toList
  let number ← parseDate (text.toList.take place)
  let (time, offset) ← timeOf text.toList
  if number < 3652059 then return ⟨number * dayMicros + time, offset⟩ else none

/-! ### Whether there is an offset -/

/-- A sign or a `Z` in the time. -/
def statesOffset (text : String) : Bool :=
  (timePart text.toList).any fun rest =>
    rest.any fun char => char == '-' || char == '+' || char == 'Z'

theorem cut_at_isSome (mark : Char) (text : List Char) :
    (cutAt mark text).isSome = text.any (· == mark) := by
  unfold cutAt
  rw [Bool.eq_iff_iff, List.any_eq_true]
  cases rest : text.dropWhile (· != mark) with
  | nil =>
      have every := List.dropWhile_eq_nil_iff.1 rest
      have absent : mark ∉ text := fun member => bne_iff_ne.1 (every mark member) rfl
      simpa using absent
  | cons head after =>
      have some : ¬∀ char ∈ text, (char != mark) = true := by
        intro every
        rw [List.dropWhile_eq_nil_iff.2 every] at rest
        cases rest
      simpa using some

theorem split_offset_isSome {text clock : List Char} {offset : Option Int}
    (split : splitOffset text = some (clock, offset)) :
    offset.isSome = text.any fun char => char == '-' || char == '+' || char == 'Z' := by
  have marks : (text.any fun char => char == '-' || char == '+' || char == 'Z') =
      ((cutAt '-' text).isSome || (cutAt '+' text).isSome || (cutAt 'Z' text).isSome) := by
    rw [Bool.eq_iff_iff]
    simp only [cut_at_isSome, List.any_eq_true, Bool.or_eq_true]
    constructor
    · intro ⟨char, member, either⟩
      exact either.imp (Or.imp (fun same => ⟨char, member, same⟩) fun same => ⟨char, member, same⟩)
        fun same => ⟨char, member, same⟩
    · intro either
      rcases either with (⟨char, member, same⟩ | ⟨char, member, same⟩) | ⟨char, member, same⟩
      · exact ⟨char, member, .inl (.inl same)⟩
      · exact ⟨char, member, .inl (.inr same)⟩
      · exact ⟨char, member, .inr same⟩
  rw [marks]
  unfold splitOffset at split
  cases minus : cutAt '-' text with
  | some parts =>
      rw [minus] at split
      obtain ⟨read, _, same⟩ := Option.map_eq_some_iff.1 split
      cases same
      rfl
  | none =>
      rw [minus] at split
      cases plus : cutAt '+' text with
      | some parts =>
          rw [plus] at split
          obtain ⟨read, _, same⟩ := Option.map_eq_some_iff.1 split
          cases same
          rfl
      | none =>
          rw [plus] at split
          cases zulu : cutAt 'Z' text with
          | some parts =>
              rw [zulu] at split
              dsimp only at split
              split_ifs at split
              cases split
              rfl
          | none =>
              rw [zulu] at split
              cases split
              rfl

/-- A text that is read has an offset where its time has a sign or a `Z`. -/
theorem offset_isSome {text : String} {moment : Moment} (read : fromIsoFormat text = some moment) :
    moment.offset.isSome = statesOffset text := by
  unfold fromIsoFormat at read
  obtain ⟨place, _, rest⟩ := Option.bind_eq_some_iff.1 read
  obtain ⟨number, _, rest⟩ := Option.bind_eq_some_iff.1 rest
  obtain ⟨⟨time, offset⟩, timed, final⟩ := Option.bind_eq_some_iff.1 rest
  dsimp only at final
  split_ifs at final
  cases final
  unfold timeOf at timed
  unfold statesOffset
  cases part : timePart text.toList with
  | none =>
      rw [part] at timed
      cases timed
      rfl
  | some rest =>
      rw [part] at timed
      obtain ⟨⟨clock, stated⟩, split, timed⟩ := Option.bind_eq_some_iff.1 timed
      obtain ⟨clocked, _, same⟩ := Option.bind_eq_some_iff.1 timed
      cases same
      exact split_offset_isSome split

end OAuth2Server.IsoDates
