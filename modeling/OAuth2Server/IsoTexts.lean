import OAuth2Server.IsoDates
import OAuth2Server.TimestampText

/-!
# Reading back an ISO 8601 text

`datetime.isoformat` and the JSON form of a UTC datetime are read back by
`datetime.fromisoformat` as the datetime they were written for.
-/

namespace OAuth2Server.IsoTexts

open OAuth2Server Models Calendar FixedDigits IsoDates TimestampText

set_option autoImplicit false

/-! ### Digits -/

theorem digit_of_char : ∀ digit < 10, digitOf (Nat.digitChar digit) = some digit := by decide

theorem digit_unlike {digit : Nat} (small : digit < 10) {char : Char}
    (other : digitOf char = none) : Nat.digitChar digit ≠ char := by
  intro same
  have read := digit_of_char digit small
  rw [same, other] at read
  cases read

/-- By induction on the digits: the number read so far is the front of the whole. -/
theorem read_digits_padded (width : Nat) {number : Nat} (small : number < 10 ^ width) (front : Nat)
    (rest : List Char) :
    readDigits width front (padded width number ++ rest) =
      some (front * 10 ^ width + number, rest) := by
  induction width generalizing number front with
  | zero =>
      have zero : number = 0 := by simpa using small
      subst zero
      rw [pow_zero, Nat.mul_one, Nat.add_zero]
      rfl
  | succ width induction =>
      have leading := leading_digit small
      have later : number % 10 ^ width < 10 ^ width := Nat.mod_lt _ (Nat.pow_pos (by decide))
      have whole := Nat.div_add_mod number (10 ^ width)
      rw [padded, List.cons_append, readDigits, digit_of_char _ leading, Option.bind_some,
        induction later]
      congr 2
      calc (front * 10 + number / 10 ^ width) * 10 ^ width + number % 10 ^ width
          = front * 10 ^ (width + 1) +
              (10 ^ width * (number / 10 ^ width) + number % 10 ^ width) := by ring
        _ = front * 10 ^ (width + 1) + number := by rw [whole]

theorem padded_digits (width number : Nat) (small : number < 10 ^ width) :
    ∀ char ∈ padded width number, isDigit char = true := by
  induction width generalizing number with
  | zero =>
      intro char member
      cases member
  | succ width induction =>
      intro char member
      rcases List.mem_cons.1 member with rfl | member
      · unfold isDigit
        rw [digit_of_char _ (leading_digit small)]
        rfl
      · exact induction _ (Nat.mod_lt _ (Nat.pow_pos (by decide))) char member

/-- A number is not taken for a mark. -/
theorem head_padded {width number : Nat} (small : number < 10 ^ (width + 1)) (rest : List Char)
    {char : Char} (mark : digitOf char = none) :
    ((padded (width + 1) number ++ rest).head? == some char) = false := by
  rw [padded, List.cons_append, List.head?_cons, beq_eq_false_iff_ne]
  intro same
  exact digit_unlike (leading_digit small) mark (Option.some.inj same)

/-! ### The date -/

theorem date_text_length (date : Date) : (dateText date).length = 10 := by
  unfold dateText
  simp [padded_length]

theorem parse_date_text {date : Date} (small : date.year < 10000) :
    parseDate (dateText date) = some date.number := by
  have month := date.month_le
  have day := date.day_le
  have days := days_in_month_le (isLeap date.year) date.month
  have valid : dayNumber date.year date.month date.day = some date.number := by
    unfold dayNumber
    rw [if_pos ⟨date.year_pos, date.month_pos, date.month_le, date.day_pos, date.day_le⟩]
    rfl
  have yearRead := read_digits_padded 4 small 0
    ('-' :: (padded 2 date.month ++ '-' :: padded 2 date.day))
  have monthRead := read_digits_padded 2 (show date.month < 10 ^ 2 by omega) 0
    ('-' :: padded 2 date.day)
  have dayRead := read_digits_padded 2 (show date.day < 10 ^ 2 by omega) 0 []
  have plain : ((padded 2 date.month ++ '-' :: padded 2 date.day).head? == some 'W') = false :=
    head_padded (by omega) _ (by decide)
  rw [List.append_nil] at dayRead
  unfold parseDate dateText
  rw [yearRead]
  simp only [Option.bind_eq_bind, Option.bind_some, List.head?_cons, beq_self_eq_true, if_true,
    List.tail_cons, plain, Bool.false_eq_true, if_false, monthRead, skipSeparator, dayRead,
    List.isEmpty_nil, Nat.zero_mul, Nat.zero_add, valid]

/-! ### The time -/

theorem parse_fraction_text {micro : Nat} (small : micro < 1000000) :
    parseFraction (fractionText micro) = some micro := by
  unfold fractionText
  split
  · rename_i whole
    rw [whole]
    rfl
  · have digits : (padded 6 micro).all isDigit = true := by
      rw [List.all_eq_true]
      exact padded_digits 6 micro small
    have filled : (padded 6 micro).isEmpty = false := rfl
    have read := read_digits_padded 6 (show micro < 10 ^ 6 from small) 0 []
    rw [List.append_nil, Nat.zero_mul, Nat.zero_add] at read
    unfold parseFraction
    simp only [digits, filled, padded_length, min_self, read, beq_self_eq_true, Bool.true_or,
      Bool.not_false, Bool.and_self, if_true, Option.map_some, Nat.sub_self, pow_zero, Nat.mul_one]

/-- The time of day as `isoformat` writes it. -/
def clockText (micros : Nat) : List Char :=
  timeText (micros / 1000000) ++ fractionText (micros % 1000000)

def clockOf (micros : Nat) : Clock where
  hour := micros / 3600000000
  minute := micros / 60000000 % 60
  second := micros / 1000000 % 60
  micro := micros % 1000000

theorem clock_micros (micros : Nat) : (clockOf micros).micros = micros := by
  unfold Clock.micros clockOf
  dsimp only
  omega

/-- Hours and minutes, and the seconds when there are any. -/
def offsetClock (micros : Nat) : List Char :=
  padded 2 (micros / 3600000000) ++ ':' :: (padded 2 (micros / 60000000 % 60) ++
    if micros % 60000000 = 0 then []
    else ':' :: (padded 2 (micros / 1000000 % 60) ++ fractionText (micros % 1000000)))

theorem parse_hours {hour minute : Nat} (hours : hour < 100) (minutes : minute < 100) :
    parseClock (padded 2 hour ++ ':' :: padded 2 minute) = some ⟨hour, minute, 0, 0⟩ := by
  have hourRead := read_digits_padded 2 (show hour < 10 ^ 2 from hours) 0 (':' :: padded 2 minute)
  have minuteRead := read_digits_padded 2 (show minute < 10 ^ 2 from minutes) 0 []
  rw [List.append_nil] at minuteRead
  unfold parseClock
  rw [hourRead]
  simp only [Option.bind_eq_bind, Option.bind_some, List.head?_cons, beq_self_eq_true,
    List.isEmpty_cons, Bool.false_eq_true, if_false, if_true, List.tail_cons, minuteRead,
    Nat.zero_mul, Nat.zero_add, List.isEmpty_nil, Option.pure_def]

theorem parse_seconds {hour minute second micro : Nat} (hours : hour < 100) (minutes : minute < 100)
    (seconds : second < 100) (fraction : micro < 1000000) :
    parseClock (padded 2 hour ++ ':' :: (padded 2 minute ++
      ':' :: (padded 2 second ++ fractionText micro))) = some ⟨hour, minute, second, micro⟩ := by
  have hourRead := read_digits_padded 2 (show hour < 10 ^ 2 from hours) 0
    (':' :: (padded 2 minute ++ ':' :: (padded 2 second ++ fractionText micro)))
  have minuteRead := read_digits_padded 2 (show minute < 10 ^ 2 from minutes) 0
    (':' :: (padded 2 second ++ fractionText micro))
  have secondRead := read_digits_padded 2 (show second < 10 ^ 2 from seconds) 0
    (fractionText micro)
  unfold parseClock
  rw [hourRead]
  simp only [Option.bind_eq_bind, Option.bind_some, List.head?_cons, beq_self_eq_true,
    List.isEmpty_cons, Bool.false_eq_true, if_false, if_true, List.tail_cons, minuteRead,
    secondRead, parse_fraction_text fraction, Nat.zero_mul, Nat.zero_add, Option.pure_def]

/-- A time of day is read back. -/
theorem parse_clock_text {micros : Nat} (day : micros < dayMicros) :
    parseClock (clockText micros) = some (clockOf micros) := by
  unfold dayMicros at day
  have read := parse_seconds (show micros / 3600000000 < 100 by omega)
    (show micros / 60000000 % 60 < 100 by omega) (show micros / 1000000 % 60 < 100 by omega)
    (show micros % 1000000 < 1000000 by omega)
  have hour : micros / 1000000 / 3600 % 24 = micros / 3600000000 := by omega
  have minute : micros / 1000000 / 60 % 60 = micros / 60000000 % 60 := by omega
  unfold clockText timeText clockOf
  rw [hour, minute, List.append_assoc, List.cons_append, List.append_assoc, List.cons_append, read]

theorem parse_offset_clock {micros : Nat} (day : micros < dayMicros) :
    (parseClock (offsetClock micros)).map Clock.micros = some micros := by
  unfold dayMicros at day
  unfold offsetClock
  split
  · rename_i whole
    rw [List.append_nil, parse_hours (by omega) (by omega), Option.map_some]
    unfold Clock.micros
    dsimp only
    congr 1
    omega
  · rw [parse_seconds (by omega) (by omega) (by omega) (by omega), Option.map_some]
    unfold Clock.micros
    dsimp only
    congr 1
    omega

/-! ### The offset -/

/-- What `isoformat` writes for an offset. -/
def offsetText (offset : Int) : List Char :=
  (if offset < 0 then '-' else '+') :: offsetClock offset.natAbs

/-- A digit or a mark of a time of day. -/
def Timely (char : Char) : Prop := isDigit char = true ∨ char = ':' ∨ char = '.'

theorem timely_unlike {char : Char} (timely : Timely char) {mark : Char}
    (other : ¬Timely mark) : char ≠ mark := by
  rintro rfl
  exact other timely

theorem timely_padded {width number : Nat} (small : number < 10 ^ width) :
    ∀ char ∈ padded width number, Timely char :=
  fun char member => Or.inl (padded_digits width number small char member)

theorem timely_append {first second : List Char} (front : ∀ char ∈ first, Timely char)
    (back : ∀ char ∈ second, Timely char) : ∀ char ∈ first ++ second, Timely char :=
  fun char member => (List.mem_append.1 member).elim (front char) (back char)

theorem timely_colon {text : List Char} (rest : ∀ char ∈ text, Timely char) :
    ∀ char ∈ ':' :: text, Timely char := by
  intro char member
  rcases List.mem_cons.1 member with rfl | member
  · exact Or.inr (Or.inl rfl)
  · exact rest char member

theorem timely_fraction {micro : Nat} (small : micro < 1000000) :
    ∀ char ∈ fractionText micro, Timely char := by
  unfold fractionText
  split
  · intro char member
    cases member
  · intro char member
    rcases List.mem_cons.1 member with rfl | member
    · exact Or.inr (Or.inr rfl)
    · exact timely_padded small char member

theorem timely_clock (micros : Nat) : ∀ char ∈ clockText micros, Timely char := by
  unfold clockText timeText
  apply timely_append
  · apply timely_append (timely_padded (by omega))
    apply timely_colon
    apply timely_append (timely_padded (by omega))
    exact timely_colon (timely_padded (by omega))
  · exact timely_fraction (by omega)

theorem timely_offset {micros : Nat} (day : micros < dayMicros) :
    ∀ char ∈ offsetClock micros, Timely char := by
  unfold dayMicros at day
  unfold offsetClock
  apply timely_append (timely_padded (by omega))
  apply timely_colon
  apply timely_append (timely_padded (by omega))
  split
  · intro char member
    cases member
  · apply timely_colon
    exact timely_append (timely_padded (by omega)) (timely_fraction (by omega))

theorem cut_at_absent {mark : Char} {text : List Char} (absent : ∀ char ∈ text, char ≠ mark) :
    cutAt mark text = none := by
  have none : (cutAt mark text).isSome = false := by
    rw [cut_at_isSome, List.any_eq_false]
    intro char member
    simpa using absent char member
  simpa using none

theorem cut_at_append {mark : Char} {front : List Char} (absent : ∀ char ∈ front, char ≠ mark)
    (rest : List Char) : cutAt mark (front ++ mark :: rest) = some (front, rest) := by
  have kept : ∀ char ∈ front, (char != mark) = true := fun char member => by
    simpa using absent char member
  unfold cutAt
  rw [List.dropWhile_append_of_pos kept, List.takeWhile_append_of_pos kept]
  simp

/-- What follows a datetime's clock: nothing, a `Z` or an offset. -/
inductive Suffix : List Char → Option Int → Prop where
  | naive : Suffix [] none
  | zulu : Suffix ['Z'] (some 0)
  | offset (offset : Int) (day : offset.natAbs < dayMicros) :
      Suffix (offsetText offset) (some offset)

theorem parse_offset_text (sign : Int) {micros : Nat} (day : micros < dayMicros) :
    parseOffset sign (offsetClock micros) = some (sign * micros) := by
  obtain ⟨parsed, read, same⟩ := Option.map_eq_some_iff.1 (parse_offset_clock day)
  unfold parseOffset
  rw [read, Option.bind_some, same, if_pos day]

theorem split_offset_text {clock suffix : List Char} {offset : Option Int}
    (timely : ∀ char ∈ clock, Timely char) (follows : Suffix suffix offset) :
    splitOffset (clock ++ suffix) = some (clock, offset) := by
  have unlike : ∀ mark, ¬Timely mark → ∀ char ∈ clock, char ≠ mark :=
    fun mark other char member => timely_unlike (timely char member) other
  have minus : ¬Timely '-' := by unfold Timely; decide
  have plus : ¬Timely '+' := by unfold Timely; decide
  have zulu : ¬Timely 'Z' := by unfold Timely; decide
  unfold splitOffset
  cases follows with
  | naive =>
      rw [List.append_nil, cut_at_absent (unlike _ minus), cut_at_absent (unlike _ plus),
        cut_at_absent (unlike _ zulu)]
  | zulu =>
      have absent : ∀ mark, ¬Timely mark → mark ≠ 'Z' → ∀ char ∈ clock ++ ['Z'], char ≠ mark := by
        intro mark other unequal char member
        rcases List.mem_append.1 member with inside | last
        · exact unlike mark other char inside
        · rw [List.mem_singleton.1 last]
          exact unequal.symm
      rw [cut_at_absent (absent _ minus (by decide)), cut_at_absent (absent _ plus (by decide)),
        cut_at_append (unlike _ zulu)]
      rfl
  | offset offset day =>
      unfold offsetText
      by_cases behind : offset < 0
      · rw [if_pos behind, cut_at_append (unlike _ minus)]
        dsimp only
        rw [parse_offset_text (-1) day, Option.map_some]
        congr 3
        omega
      · have absent : ∀ char ∈ clock ++ '+' :: offsetClock offset.natAbs, char ≠ '-' := by
          intro char member
          rcases List.mem_append.1 member with inside | later
          · exact unlike _ minus char inside
          · rcases List.mem_cons.1 later with rfl | later
            · decide
            · exact timely_unlike (timely_offset day char later) minus
        rw [if_neg behind, cut_at_absent absent, cut_at_append (unlike _ plus)]
        dsimp only
        rw [parse_offset_text 1 day, Option.map_some]
        congr 3
        omega

theorem parse_time_text {micros : Nat} (day : micros < dayMicros) {suffix : List Char}
    {offset : Option Int} (follows : Suffix suffix offset) :
    parseTime (clockText micros ++ suffix) = some (micros, offset) := by
  have time : timeOfDay (clockOf micros) = some micros := by
    have inDay := day
    unfold dayMicros at inDay
    unfold timeOfDay
    rw [if_pos ⟨by unfold clockOf; dsimp only; omega, by unfold clockOf; dsimp only; omega,
      by unfold clockOf; dsimp only; omega⟩, clock_micros]
  unfold parseTime
  rw [split_offset_text (timely_clock micros) follows, Option.bind_eq_bind, Option.bind_some]
  dsimp only
  rw [parse_clock_text day, Option.bind_some, time]
  rfl

/-! ### The whole text -/

/-- The text of a wall clock, in microseconds since year one. -/
def wallText (wall : Nat) : List Char :=
  dateText (.ofNumber (wall / dayMicros)) ++ 'T' :: clockText (wall % dayMicros)

theorem separator_wall (date : Date) (rest : List Char) :
    separatorAt (dateText date ++ 'T' :: rest) = some 10 := by
  unfold dateText
  simp only [padded, List.cons_append, List.nil_append]
  unfold separatorAt
  simp

theorem from_iso_wall {wall : Nat} (range : wall < 3652059 * dayMicros) {suffix : List Char}
    {offset : Option Int} (follows : Suffix suffix offset) :
    fromIsoFormat (String.ofList (wallText wall ++ suffix)) = some ⟨wall, offset⟩ := by
  have days : wall / dayMicros < 3652059 := Nat.div_lt_of_lt_mul (by rwa [Nat.mul_comm])
  have inDay : wall % dayMicros < dayMicros := Nat.mod_lt _ (by decide)
  have whole := Nat.div_add_mod' wall dayMicros
  have text : wallText wall ++ suffix = dateText (.ofNumber (wall / dayMicros)) ++
      'T' :: (clockText (wall % dayMicros) ++ suffix) := by
    unfold wallText
    rw [List.append_assoc, List.cons_append]
  rw [text]
  generalize wall / dayMicros = number at days whole
  generalize wall % dayMicros = micros at inDay whole
  have length := date_text_length (.ofNumber number)
  have front : (dateText (.ofNumber number) ++ 'T' :: (clockText micros ++ suffix)).take 10 =
      dateText (.ofNumber number) := List.take_left' length
  have back : (dateText (.ofNumber number) ++ 'T' :: (clockText micros ++ suffix)).drop 11 =
      clockText micros ++ suffix := by
    rw [List.append_cons]
    exact List.drop_left' (by rw [List.length_append, length]; rfl)
  have time : timeOf (dateText (.ofNumber number) ++ 'T' :: (clockText micros ++ suffix)) =
      some (micros, offset) := by
    unfold timeOf timePart
    rw [separator_wall, Option.bind_some, if_pos (by simp [length])]
    dsimp only
    rw [back, parse_time_text inDay follows]
  unfold fromIsoFormat
  rw [String.toList_ofList, time, separator_wall, Option.bind_eq_bind, Option.bind_some, front,
    parse_date_text (date_bounds days).1, Date.number_of_number]
  simp only [Option.bind_eq_bind, Option.bind_some, days, if_true]
  rw [← whole]
  push_cast
  rfl

/-! ### What is written -/

/-- The datetimes there are. -/
structure Valid (moment : Moment) : Prop where
  positive : 0 ≤ moment.wall
  early : moment.wall < 3652059 * dayMicros
  offset : ∀ offset, moment.offset = some offset → offset.natAbs < dayMicros

/-- `value.isoformat()`. -/
def isoformat (moment : Moment) : String :=
  String.ofList (wallText moment.wall.toNat ++ moment.offset.elim [] offsetText)

/-- Every datetime, naive or not, is read back from its `isoformat`. -/
theorem from_iso_isoformat {moment : Moment} (valid : Valid moment) :
    fromIsoFormat (isoformat moment) = some moment := by
  have positive := valid.positive
  have early := valid.early
  have follows : Suffix (moment.offset.elim [] offsetText) moment.offset := by
    cases stated : moment.offset with
    | none => exact .naive
    | some offset => exact .offset offset (valid.offset offset stated)
  unfold isoformat
  rw [from_iso_wall (by omega) follows, Int.toNat_of_nonneg positive]

theorem wall_text_eq (wall : Nat) :
    wallText wall = secondText (wall / 1000000) ++ fractionText (wall % 1000000) := by
  have date : wall / dayMicros = wall / 1000000 / 86400 := by unfold dayMicros; omega
  have hour : wall % dayMicros / 1000000 / 3600 % 24 = wall / 1000000 / 3600 % 24 := by
    unfold dayMicros
    omega
  have minute : wall % dayMicros / 1000000 / 60 % 60 = wall / 1000000 / 60 % 60 := by
    unfold dayMicros
    omega
  have second : wall % dayMicros / 1000000 % 60 = wall / 1000000 % 60 := by
    unfold dayMicros
    omega
  have micro : wall % dayMicros % 1000000 = wall % 1000000 := by
    unfold dayMicros
    omega
  unfold wallText secondText clockText timeText
  rw [date, hour, minute, second, micro]
  simp only [List.append_assoc, List.cons_append]

/-- A cursor's bound is the `isoformat` of the instant in UTC. -/
theorem isoformat_utc (instant : Instant) :
    isoformat ⟨sinceYearOne instant, some 0⟩ = boundText instant := by
  have zero : offsetText 0 = ['+', '0', '0', ':', '0', '0'] := by decide
  unfold isoformat boundText
  dsimp only [Option.elim]
  rw [wall_text_eq, zero, List.append_assoc]
  rfl

/-- The JSON form of an instant is read back as that instant in UTC. -/
theorem from_iso_stored {instant : Instant} (datetime : Datetime instant) :
    fromIsoFormat (storedText instant) = some ⟨sinceYearOne instant, some 0⟩ := by
  obtain ⟨positive, early⟩ := datetime
  have range : (sinceYearOne instant).toNat < 3652059 * dayMicros := by
    unfold dayMicros
    omega
  have zulu := from_iso_wall range .zulu
  rw [wall_text_eq, Int.toNat_of_nonneg positive, List.append_assoc] at zulu
  exact zulu

end OAuth2Server.IsoTexts
