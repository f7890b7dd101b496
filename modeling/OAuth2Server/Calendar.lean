import Mathlib.Tactic.Common

/-!
# The proleptic Gregorian calendar

Days are counted from the first of January of year one. The number of a day
grows with its date, and every number is the number of one date.
-/

namespace OAuth2Server.Calendar

set_option autoImplicit false

def isLeap (year : Nat) : Bool := year % 4 == 0 && (year % 100 != 0 || year % 400 == 0)

def daysInYear (year : Nat) : Nat := if isLeap year then 366 else 365

/-- The days of the years before a year. -/
def daysBeforeYear (year : Nat) : Nat :=
  (year - 1) * 365 + (year - 1) / 4 - (year - 1) / 100 + (year - 1) / 400

def daysInMonth (leap : Bool) : Nat → Nat
  | 2 => if leap then 29 else 28
  | 4 | 6 | 9 | 11 => 30
  | _ => 31

theorem days_in_month_le (leap : Bool) (month : Nat) : daysInMonth leap month ≤ 31 := by
  unfold daysInMonth
  split
  · split_ifs <;> omega
  all_goals omega

/-- The days of the months before a month. -/
def daysBeforeMonth (leap : Bool) : Nat → Nat
  | 0 => 0
  | 1 => 0
  | month + 1 => daysBeforeMonth leap month + daysInMonth leap month

structure Date where
  year : Nat
  month : Nat
  day : Nat
  year_pos : 1 ≤ year
  month_pos : 1 ≤ month
  month_le : month ≤ 12
  day_pos : 1 ≤ day
  day_le : day ≤ daysInMonth (isLeap year) month

namespace Date

/-- How many days are before a date. -/
def number (date : Date) : Nat :=
  daysBeforeYear date.year + (daysBeforeMonth (isLeap date.year) date.month + (date.day - 1))

/-- The order of dates. -/
def Before (one other : Date) : Prop :=
  one.year < other.year ∨ one.year = other.year ∧
    (one.month < other.month ∨ one.month = other.month ∧ one.day < other.day)

instance (one other : Date) : Decidable (Before one other) :=
  inferInstanceAs (Decidable (_ ∨ _ ∧ (_ ∨ _ ∧ _)))

end Date

/-! ### The number of a day -/

theorem days_before_next {year : Nat} (positive : 1 ≤ year) :
    daysBeforeYear (year + 1) = daysBeforeYear year + daysInYear year := by
  obtain ⟨before, same⟩ := Nat.exists_eq_add_of_le positive
  have fours : (1 + before) / 4 = before / 4 + if (1 + before) % 4 = 0 then 1 else 0 := by
    split_ifs <;> omega
  have hundreds : (1 + before) / 100 = before / 100 + if (1 + before) % 100 = 0 then 1 else 0 := by
    split_ifs <;> omega
  have cycles : (1 + before) / 400 = before / 400 + if (1 + before) % 400 = 0 then 1 else 0 := by
    split_ifs <;> omega
  unfold daysBeforeYear daysInYear
  rw [same, Nat.add_sub_cancel, Nat.add_sub_cancel_left, fours, hundreds, cycles]
  by_cases four : (1 + before) % 4 = 0
  · by_cases hundred : (1 + before) % 100 = 0
    · by_cases cycle : (1 + before) % 400 = 0
      · have leap : isLeap (1 + before) = true := by simp [isLeap, four, cycle]
        rw [leap, if_pos four, if_pos hundred, if_pos cycle, if_pos rfl]
        omega
      · have leap : isLeap (1 + before) = false := by simp [isLeap, hundred, cycle]
        rw [leap, if_pos four, if_pos hundred, if_neg cycle, if_neg Bool.false_ne_true]
        omega
    · have cycle : (1 + before) % 400 ≠ 0 := by omega
      have leap : isLeap (1 + before) = true := by simp [isLeap, four, hundred]
      rw [leap, if_pos four, if_neg hundred, if_neg cycle, if_pos rfl]
      omega
  · have hundred : (1 + before) % 100 ≠ 0 := by omega
    have cycle : (1 + before) % 400 ≠ 0 := by omega
    have leap : isLeap (1 + before) = false := by simp [isLeap, four]
    rw [leap, if_neg four, if_neg hundred, if_neg cycle, if_neg Bool.false_ne_true]
    omega

theorem days_before_mono {one other : Nat} (positive : 1 ≤ one) (earlier : one < other) :
    daysBeforeYear one + daysInYear one ≤ daysBeforeYear other := by
  induction other with
  | zero => omega
  | succ last induction =>
      rcases Nat.lt_or_ge one last with before | reached
      · have step := days_before_next (show 1 ≤ last by omega)
        have fewer := induction before
        omega
      · have same : one = last := by omega
        rw [same]
        exact Nat.le_of_eq (days_before_next (show 1 ≤ last by omega)).symm

theorem month_ends : ∀ leap, ∀ month < 13, 1 ≤ month →
    daysBeforeMonth leap month + daysInMonth leap month ≤ (if leap then 366 else 365) ∧
    ∀ later < 13, month < later →
      daysBeforeMonth leap month + daysInMonth leap month ≤ daysBeforeMonth leap later := by
  decide

namespace Date

theorem number_lt {one other : Date} (earlier : Before one other) : one.number < other.number := by
  have ends := month_ends (isLeap one.year) one.month (by have := one.month_le; omega) one.month_pos
  have first := one.day_pos
  have last := one.day_le
  unfold number
  rcases earlier with year | ⟨year, month | ⟨month, day⟩⟩
  · have years := days_before_mono one.year_pos year
    unfold daysInYear at years
    omega
  · have months := ends.2 other.month (by have := other.month_le; omega) month
    rw [← year]
    omega
  · rw [← year, ← month]
    omega

theorem before_total (one other : Date) :
    Before one other ∨ (one.year = other.year ∧ one.month = other.month ∧ one.day = other.day) ∨
      Before other one := by
  unfold Before
  omega

theorem number_lt_iff {one other : Date} : one.number < other.number ↔ Before one other := by
  constructor
  · intro less
    rcases before_total one other with earlier | ⟨year, month, day⟩ | later
    · exact earlier
    · unfold number at less
      rw [year, month, day] at less
      omega
    · have reversed := number_lt later
      omega
  · exact number_lt

end Date

/-! ### The date of a number -/

/-- The year of a day, and the days of the year before it. -/
def yearOf (number : Nat) : Nat × Nat :=
  let cycle := number / 146097
  let inCycle := number % 146097
  let century := inCycle / 36524
  let inCentury := inCycle % 36524
  let olympiad := inCentury / 1461
  let inOlympiad := inCentury % 1461
  let year := inOlympiad / 365
  -- The last day of a leap year or of a cycle is counted into the next year.
  if year = 4 ∨ century = 4 then (cycle * 400 + century * 100 + olympiad * 4 + year, 365)
  else (cycle * 400 + century * 100 + olympiad * 4 + year + 1, inOlympiad % 365)

/-- The month and the day of the month of a day of a year. -/
def monthOf (leap : Bool) (day : Nat) : Nat × Nat :=
  let month := (day + 50) / 32
  if daysBeforeMonth leap month > day then
    (month - 1, day - daysBeforeMonth leap (month - 1) + 1)
  else (month, day - daysBeforeMonth leap month + 1)

theorem days_before_year_of (cycle : Nat) {century olympiad year : Nat} (centuries : century ≤ 3)
    (olympiads : olympiad ≤ 24) (years : year ≤ 3) :
    daysBeforeYear (cycle * 400 + century * 100 + olympiad * 4 + year + 1) =
      cycle * 146097 + century * 36524 + olympiad * 1461 + year * 365 := by
  unfold daysBeforeYear
  omega

theorem leap_of_olympiad {cycle century olympiad : Nat} (olympiads : olympiad ≤ 23) :
    isLeap (cycle * 400 + century * 100 + olympiad * 4 + 3 + 1) = true := by
  have four : (cycle * 400 + century * 100 + olympiad * 4 + 3 + 1) % 4 = 0 := by omega
  have hundred : (cycle * 400 + century * 100 + olympiad * 4 + 3 + 1) % 100 ≠ 0 := by omega
  simp [isLeap, four, hundred]

theorem year_of_spec (number : Nat) :
    1 ≤ (yearOf number).1 ∧ daysBeforeYear (yearOf number).1 + (yearOf number).2 = number ∧
      (yearOf number).2 < daysInYear (yearOf number).1 := by
  have short : ∀ year, 365 ≤ daysInYear year := by
    intro year
    unfold daysInYear
    split_ifs <;> omega
  unfold yearOf
  dsimp only
  generalize cycles : number / 146097 = cycle
  generalize centuries : number % 146097 / 36524 = century
  generalize olympiads : number % 146097 % 36524 / 1461 = olympiad
  generalize years : number % 146097 % 36524 % 1461 / 365 = year
  by_cases wide : century = 4
  · have last : olympiad = 0 ∧ year = 0 ∧ number = cycle * 146097 + 146096 := by omega
    have before := days_before_year_of cycle (Nat.le_refl 3) (Nat.le_refl 24) (Nat.le_refl 3)
    have leap : isLeap (cycle * 400 + 3 * 100 + 24 * 4 + 3 + 1) = true := by
      have four : (cycle * 400 + 3 * 100 + 24 * 4 + 3 + 1) % 4 = 0 := by omega
      have cycled : (cycle * 400 + 3 * 100 + 24 * 4 + 3 + 1) % 400 = 0 := by omega
      simp [isLeap, four, cycled]
    have same : cycle * 400 + century * 100 + olympiad * 4 + year =
        cycle * 400 + 3 * 100 + 24 * 4 + 3 + 1 := by omega
    rw [if_pos (.inr wide)]
    dsimp only
    rw [same, before]
    unfold daysInYear
    rw [leap, if_pos rfl]
    omega
  · by_cases long : year = 4
    · have last : olympiad ≤ 23 := by omega
      have before := days_before_year_of cycle (show century ≤ 3 by omega)
        (show olympiad ≤ 24 by omega) (Nat.le_refl 3)
      have same : cycle * 400 + century * 100 + olympiad * 4 + year =
          cycle * 400 + century * 100 + olympiad * 4 + 3 + 1 := by omega
      rw [if_pos (.inl long)]
      dsimp only
      rw [same, before]
      unfold daysInYear
      rw [leap_of_olympiad last, if_pos rfl]
      omega
    · have before := days_before_year_of cycle (show century ≤ 3 by omega)
        (show olympiad ≤ 24 by omega) (show year ≤ 3 by omega)
      have days := short (cycle * 400 + century * 100 + olympiad * 4 + year + 1)
      rw [if_neg (not_or.2 ⟨long, wide⟩)]
      dsimp only
      rw [before]
      omega

theorem month_of_spec : ∀ leap, ∀ day < 366, (leap = true ∨ day < 365) →
    1 ≤ (monthOf leap day).1 ∧ (monthOf leap day).1 ≤ 12 ∧ 1 ≤ (monthOf leap day).2 ∧
      (monthOf leap day).2 ≤ daysInMonth leap (monthOf leap day).1 ∧
      daysBeforeMonth leap (monthOf leap day).1 + ((monthOf leap day).2 - 1) = day := by
  decide +kernel

theorem month_of_year (number : Nat) :
    1 ≤ (monthOf (isLeap (yearOf number).1) (yearOf number).2).1 ∧
      (monthOf (isLeap (yearOf number).1) (yearOf number).2).1 ≤ 12 ∧
      1 ≤ (monthOf (isLeap (yearOf number).1) (yearOf number).2).2 ∧
      (monthOf (isLeap (yearOf number).1) (yearOf number).2).2 ≤
        daysInMonth (isLeap (yearOf number).1)
          (monthOf (isLeap (yearOf number).1) (yearOf number).2).1 ∧
      daysBeforeMonth (isLeap (yearOf number).1)
        (monthOf (isLeap (yearOf number).1) (yearOf number).2).1 +
        ((monthOf (isLeap (yearOf number).1) (yearOf number).2).2 - 1) = (yearOf number).2 := by
  obtain ⟨_, _, within⟩ := year_of_spec number
  unfold daysInYear at within
  apply month_of_spec
  · split_ifs at within <;> omega
  · split_ifs at within with leap
    · exact .inl leap
    · exact .inr within

namespace Date

def ofNumber (number : Nat) : Date where
  year := (yearOf number).1
  month := (monthOf (isLeap (yearOf number).1) (yearOf number).2).1
  day := (monthOf (isLeap (yearOf number).1) (yearOf number).2).2
  year_pos := (year_of_spec number).1
  month_pos := (month_of_year number).1
  month_le := (month_of_year number).2.1
  day_pos := (month_of_year number).2.2.1
  day_le := (month_of_year number).2.2.2.1

@[simp] theorem number_of_number (number : Nat) : (ofNumber number).number = number := by
  unfold Date.number ofNumber
  dsimp only
  rw [(month_of_year number).2.2.2.2]
  exact (year_of_spec number).2.1

theorem before_iff {one other : Nat} : Before (ofNumber one) (ofNumber other) ↔ one < other := by
  rw [← number_lt_iff, number_of_number, number_of_number]

/-- A day before the first of a year is in an earlier year. -/
theorem year_lt {number year : Nat} (positive : 1 ≤ year) (before : number < daysBeforeYear year) :
    (ofNumber number).year < year := by
  by_contra late
  have counted := number_of_number number
  unfold Date.number at counted
  rcases Nat.eq_or_lt_of_le (Nat.le_of_not_lt late) with same | later
  · rw [← same] at counted
    omega
  · have years := days_before_mono positive later
    omega

end Date

end OAuth2Server.Calendar
