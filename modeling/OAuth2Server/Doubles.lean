import Mathlib.Algebra.Order.Round
import Mathlib.Data.Int.Log
import Mathlib.Data.Rat.Floor
import Mathlib.Tactic.Linarith
import Mathlib.Tactic.NormNum
import Mathlib.Tactic.Positivity
import Mathlib.Tactic.Ring

/-!
# Rounding to double precision

A rational number is rounded to 53 binary digits, to the nearest such number and
to the even one of two. Numbers too large or too small for the exponents of the
format are not covered.
-/

namespace OAuth2Server.Doubles

set_option autoImplicit false

/-! ### To the nearest integer -/

/-- The nearest integer, the even one of two. -/
def nearest (value : ℚ) : ℤ :=
  let rest := value - ⌊value⌋
  if rest < 1 / 2 then ⌊value⌋
  else if 1 / 2 < rest then ⌊value⌋ + 1
  else if ⌊value⌋ % 2 = 0 then ⌊value⌋ else ⌊value⌋ + 1

theorem nearest_error (value : ℚ) : |(nearest value : ℚ) - value| ≤ 1 / 2 := by
  have low := Int.floor_le value
  have high := Int.lt_floor_add_one value
  unfold nearest
  dsimp only
  rw [abs_le]
  split_ifs with first second third
  · constructor <;> linarith
  · push_cast
    constructor <;> linarith
  · constructor <;> linarith
  · push_cast
    constructor <;> linarith

theorem nearest_unique {value : ℚ} {whole : ℤ} (close : |(whole : ℚ) - value| < 1 / 2) :
    nearest value = whole := by
  have error := nearest_error value
  rw [abs_le] at error
  rw [abs_lt] at close
  have below : (nearest value : ℚ) < whole + 1 := by linarith
  have above : (whole : ℚ) < nearest value + 1 := by linarith
  have low : nearest value < whole + 1 := by exact_mod_cast below
  have high : whole < nearest value + 1 := by exact_mod_cast above
  omega

@[simp] theorem nearest_int (whole : ℤ) : nearest (whole : ℚ) = whole := by
  apply nearest_unique
  rw [sub_self, abs_zero]
  norm_num

/-- An even integer is the nearest of the numbers within one half. -/
theorem nearest_eq_even {value : ℚ} {whole : ℤ} (even : whole % 2 = 0) :
    nearest value = whole ↔ |(whole : ℚ) - value| ≤ 1 / 2 := by
  constructor
  · intro same
    rw [← same]
    exact nearest_error value
  · intro close
    rcases lt_or_eq_of_le close with strictly | tie
    · exact nearest_unique strictly
    · rcases (abs_eq (by norm_num)).1 tie with above | below
      · have floor : ⌊value⌋ = whole - 1 := by
          rw [Int.floor_eq_iff]
          push_cast
          constructor <;> linarith
        unfold nearest
        dsimp only
        rw [floor]
        push_cast
        rw [if_neg (by linarith), if_neg (by linarith), if_neg (by omega)]
        omega
      · have floor : ⌊value⌋ = whole := by
          rw [Int.floor_eq_iff]
          constructor <;> linarith
        unfold nearest
        dsimp only
        rw [floor, if_neg (by linarith), if_neg (by linarith), if_pos even]

theorem nearest_add_even {value : ℚ} {whole : ℤ} (even : whole % 2 = 0) :
    nearest (whole + value) = whole + nearest value := by
  unfold nearest
  dsimp only
  rw [Int.floor_intCast_add]
  have rest : (whole : ℚ) + value - ((whole + ⌊value⌋ : ℤ) : ℚ) = value - ⌊value⌋ := by
    push_cast
    ring
  have parity : (whole + ⌊value⌋) % 2 = ⌊value⌋ % 2 := by omega
  rw [rest, parity]
  split_ifs <;> omega

theorem nearest_nonneg {value : ℚ} (nonneg : 0 ≤ value) : 0 ≤ nearest value := by
  have floor : 0 ≤ ⌊value⌋ := Int.floor_nonneg.2 nonneg
  unfold nearest
  dsimp only
  split_ifs <;> omega

/-! ### To 53 digits -/

/-- The distance of the doubles around a positive number. -/
def ulp (value : ℚ) : ℚ := 2 ^ (Int.log 2 value - 52)

/-- The nearest double of a number that is not negative. -/
def positive (value : ℚ) : ℚ := nearest (value / ulp value) * ulp value

theorem ulp_pos (value : ℚ) : 0 < ulp value := by
  unfold ulp
  exact zpow_pos (by norm_num) _

theorem positive_error (value : ℚ) : |positive value - value| ≤ ulp value / 2 := by
  have error := nearest_error (value / ulp value)
  have width := ulp_pos value
  have parts : positive value - value =
      ((nearest (value / ulp value) : ℚ) - value / ulp value) * ulp value := by
    unfold positive
    rw [sub_mul, div_mul_cancel₀ value width.ne']
  rw [parts, abs_mul, abs_of_pos width]
  nlinarith

theorem positive_nonneg {value : ℚ} (nonneg : 0 ≤ value) : 0 ≤ positive value := by
  have scaled : 0 ≤ value / ulp value := div_nonneg nonneg (ulp_pos value).le
  have whole : (0 : ℚ) ≤ nearest (value / ulp value) := by exact_mod_cast nearest_nonneg scaled
  exact mul_nonneg whole (ulp_pos value).le

theorem ulp_le {value : ℚ} {exponent : ℤ} (small : value < 2 ^ (exponent + 1)) (large : 0 < value) :
    ulp value ≤ 2 ^ (exponent - 52) := by
  have below : Int.log 2 value < exponent + 1 :=
    (Int.lt_zpow_iff_log_lt (by norm_num) large).1 (by exact_mod_cast small)
  unfold ulp
  apply zpow_le_zpow_right₀ (by norm_num)
  omega

/-- A number of 53 digits is a double. -/
theorem positive_exact {value : ℚ} (digits : ℕ) (exponent : ℤ)
    (written : value = digits * 2 ^ exponent) (small : digits < 2 ^ 53) : positive value = value := by
  rcases Nat.eq_zero_or_pos digits with zero | large
  · have empty : value = 0 := by simp [written, zero]
    simp [positive, empty, nearest]
  · have power : (0 : ℚ) < 2 ^ exponent := zpow_pos (by norm_num) _
    have above : 0 < value := by
      rw [written]
      positivity
    have bounded : value < 2 ^ (53 + exponent) := by
      have digit : (digits : ℚ) < 2 ^ (53 : ℤ) := by exact_mod_cast small
      rw [written, zpow_add₀ (by norm_num)]
      exact mul_lt_mul_of_pos_right digit power
    have log : Int.log 2 value < 53 + exponent :=
      (Int.lt_zpow_iff_log_lt (by norm_num) above).1 (by exact_mod_cast bounded)
    obtain ⟨shift, moved⟩ : ∃ shift : ℕ, exponent - (Int.log 2 value - 52) = shift :=
      Int.eq_ofNat_of_zero_le (by omega)
    have scaled : value / ulp value = ((digits * 2 ^ shift : ℕ) : ℤ) := by
      unfold ulp
      conv_lhs => lhs; rw [written]
      rw [mul_div_assoc, ← zpow_sub₀ (by norm_num), moved]
      push_cast
      rw [zpow_natCast]
    unfold positive
    rw [scaled, nearest_int, ← scaled, div_mul_cancel₀ _ (ulp_pos value).ne']

/-! ### Both signs -/

/-- An odd function, given by its values at numbers that are not negative. -/
def signed {β : Type} [Neg β] (magnitude : ℚ → β) (value : ℚ) : β :=
  if value < 0 then -magnitude (-value) else magnitude value

def roundHalfEven : ℚ → ℤ := signed nearest

/-- The nearest double. -/
def double : ℚ → ℚ := signed positive

/-- Towards zero. -/
def truncate : ℚ → ℤ := signed fun value => ⌊value⌋

theorem signed_neg {β : Type} [SubtractionMonoid β] {magnitude : ℚ → β} (zero : magnitude 0 = 0)
    (value : ℚ) : signed magnitude (-value) = -signed magnitude value := by
  unfold signed
  rcases lt_trichotomy value 0 with negative | same | positive
  · rw [if_neg (by linarith), if_pos negative, neg_neg]
  · simp [same, zero]
  · rw [if_pos (by linarith), if_neg (by linarith), neg_neg]

theorem positive_zero : positive 0 = 0 := by simp [positive, nearest]

theorem round_neg (value : ℚ) : roundHalfEven (-value) = -roundHalfEven value :=
  signed_neg (by simp [nearest]) value

theorem double_neg (value : ℚ) : double (-value) = -double value := signed_neg positive_zero value

theorem truncate_neg (value : ℚ) : truncate (-value) = -truncate value :=
  signed_neg (by simp) value

theorem signed_of_nonneg {β : Type} [Neg β] {magnitude : ℚ → β} {value : ℚ} (nonneg : 0 ≤ value) :
    signed magnitude value = magnitude value := if_neg (not_lt_of_ge nonneg)

/-! ### Seconds -/

/-- A double number of seconds in microseconds: the whole seconds, and the rounded
product of the rest. -/
def microseconds (seconds : ℚ) : ℤ :=
  truncate seconds * 1000000 + roundHalfEven (double ((seconds - truncate seconds) * 1000000))

theorem microseconds_neg (seconds : ℚ) : microseconds (-seconds) = -microseconds seconds := by
  have rest : (-seconds - truncate (-seconds)) * 1000000 =
      -((seconds - truncate seconds) * 1000000) := by
    rw [truncate_neg]
    push_cast
    ring
  unfold microseconds
  rw [rest, double_neg, round_neg, truncate_neg]
  ring

/-- A number of milliseconds, divided by a thousand. -/
def ofMillis (millis : ℤ) : ℚ := double (millis / 1000)

/-- The distance to the nearest multiple of a thousand. -/
def offThousand (number : ℕ) : ℕ := min (number % 1000) (1000 - number % 1000)

/-- The digits after the point that a double with a whole part has. -/
def fractionDigits (whole : ℕ) : ℕ := 52 - Nat.log 2 whole

/-- The milliseconds that come back from a double number of seconds: the digits after
the point are enough for the fraction. -/
def Survives (millis : ℕ) : Prop :=
  2000 * offThousand (millis % 1000 * 2 ^ fractionDigits (millis / 1000)) ≤
    2 ^ fractionDigits (millis / 1000)

instance (millis : ℕ) : Decidable (Survives millis) := inferInstanceAs (Decidable (_ ≤ _))

/-- Before 2242 every number of milliseconds does. -/
theorem survives_of_lt {millis : ℕ} (early : millis < 2 ^ 33 * 1000) : Survives millis := by
  have whole : millis / 1000 < 2 ^ 33 := by omega
  have log : Nat.log 2 (millis / 1000) < 33 := Nat.log_lt_of_lt_pow' (by omega) whole
  have digits : 20 ≤ fractionDigits (millis / 1000) := by
    unfold fractionDigits
    omega
  have power : 2 ^ 20 ≤ 2 ^ fractionDigits (millis / 1000) :=
    Nat.pow_le_pow_right (by omega) digits
  unfold Survives offThousand
  omega

/-- Close to a whole number of seconds and milliseconds. -/
theorem microseconds_of_close {seconds : ℚ} {whole rest : ℕ} (small : rest < 1000)
    (close : |seconds - (whole + rest / 1000)| ≤ 2 ^ (-35 : ℤ)) (above : (whole : ℚ) ≤ seconds) :
    microseconds seconds = whole * 1000000 + rest * 1000 := by
  have width : (2 : ℚ) ^ (-35 : ℤ) = 1 / 34359738368 := by norm_num
  have bound : (rest : ℚ) ≤ 999 := by exact_mod_cast Nat.le_of_lt_succ small
  rw [width, abs_le] at close
  have floor : ⌊seconds⌋ = whole := by
    rw [Int.floor_eq_iff]
    push_cast
    constructor <;> linarith
  have nonneg : 0 ≤ seconds := le_trans (Nat.cast_nonneg _) above
  have trunc : truncate seconds = whole := by
    unfold truncate
    rw [signed_of_nonneg nonneg, floor]
  have product : 0 ≤ (seconds - whole) * 1000000 := by linarith
  have rounded : nearest (positive ((seconds - whole) * 1000000)) = ((rest * 1000 : ℕ) : ℤ) := by
    have error : |positive ((seconds - whole) * 1000000) - (seconds - whole) * 1000000| ≤
        1 / 1000000 := by
      rcases eq_or_lt_of_le product with zero | strictly
      · rw [← zero, positive_zero]
        norm_num
      · have short : (seconds - whole) * 1000000 < 2 ^ ((19 : ℤ) + 1) := by
          norm_num
          linarith
        have step := ulp_le short strictly
        have fine : (2 : ℚ) ^ ((19 : ℤ) - 52) ≤ 1 / 1000000 := by norm_num
        have half := positive_error ((seconds - whole) * 1000000)
        have spacing := step.trans fine
        linarith only [half, spacing, ulp_pos ((seconds - whole) * 1000000)]
    apply nearest_unique
    rw [abs_le] at error
    push_cast
    rw [abs_lt]
    constructor <;> linarith
  unfold microseconds
  have whole' : ((truncate seconds : ℤ) : ℚ) = whole := by
    rw [trunc]
    norm_cast
  rw [whole', trunc]
  unfold double roundHalfEven
  rw [signed_of_nonneg product, signed_of_nonneg, rounded]
  · push_cast
    ring
  · exact positive_nonneg product

/-- With few digits after the point the product is exact. -/
theorem microseconds_of_digits {seconds : ℚ} {whole numerator digits : ℕ} (few : digits ≤ 33)
    (small : numerator < 2 ^ digits) (written : seconds = whole + numerator / 2 ^ digits) :
    microseconds seconds =
      whole * 1000000 + nearest ((numerator : ℚ) * 1000000 / 2 ^ digits) := by
  have power : (0 : ℚ) < 2 ^ digits := by positivity
  have fraction : (numerator : ℚ) / 2 ^ digits < 1 := by
    rw [div_lt_one power]
    exact_mod_cast small
  have nonneg : (0 : ℚ) ≤ numerator / 2 ^ digits := by positivity
  have floor : ⌊seconds⌋ = whole := by
    rw [Int.floor_eq_iff, written]
    push_cast
    constructor <;> linarith
  have trunc : truncate seconds = whole := by
    unfold truncate
    rw [signed_of_nonneg (by rw [written]; positivity), floor]
  have rest : (seconds - ((truncate seconds : ℤ) : ℚ)) * 1000000 =
      (numerator : ℚ) * 1000000 / 2 ^ digits := by
    rw [trunc, written]
    push_cast
    ring
  have product : (0 : ℚ) ≤ (numerator : ℚ) * 1000000 / 2 ^ digits := by positivity
  have exact : positive ((numerator : ℚ) * 1000000 / 2 ^ digits) =
      (numerator : ℚ) * 1000000 / 2 ^ digits := by
    apply positive_exact (numerator * 1000000) (-digits)
    · push_cast
      rw [zpow_neg, zpow_natCast, div_eq_mul_inv]
    · have wide : 2 ^ digits ≤ 2 ^ 33 := Nat.pow_le_pow_right (by omega) few
      omega
  unfold microseconds
  rw [rest, trunc]
  unfold double roundHalfEven
  rw [signed_of_nonneg product, exact, signed_of_nonneg product]

theorem off_thousand {number : ℕ} (count : ℤ)
    (near : |(count : ℚ) - number / 1000| ≤ 1 / 2) :
    |(number : ℤ) - 1000 * count| = offThousand number := by
  rw [abs_le] at near
  have low : (number : ℤ) - 1000 * count ≤ 500 := by
    have scaled : (number : ℚ) - 1000 * count ≤ 500 := by linarith
    exact_mod_cast scaled
  have high : -500 ≤ (number : ℤ) - 1000 * count := by
    have scaled : (-500 : ℚ) ≤ number - 1000 * count := by linarith
    exact_mod_cast scaled
  unfold offThousand
  rcases abs_cases ((number : ℤ) - 1000 * count) with ⟨same, _⟩ | ⟨same, _⟩ <;> omega

/-- The double of a number of milliseconds. -/
theorem of_millis_nat (millis : ℕ) : ofMillis millis = positive ((millis : ℚ) / 1000) := by
  unfold ofMillis double
  rw [Int.cast_natCast]
  exact signed_of_nonneg (by positivity)

theorem millis_parts (millis : ℕ) :
    (millis : ℚ) / 1000 = (millis / 1000 : ℕ) + ((millis % 1000 : ℕ) : ℚ) / 1000 := by
  have parts : ((1000 * (millis / 1000) + millis % 1000 : ℕ) : ℚ) = millis := by
    rw [Nat.div_add_mod]
  push_cast at parts
  rw [← parts]
  ring

/-- With few whole seconds the milliseconds come back. -/
theorem few_seconds {millis : ℕ} (few : millis / 1000 < 2 ^ 19) :
    microseconds (ofMillis millis) = 1000 * millis := by
  have parts := millis_parts millis
  have rest : millis % 1000 < 1000 := Nat.mod_lt _ (by omega)
  have error : |positive ((millis : ℚ) / 1000) - millis / 1000| ≤ 2 ^ (-35 : ℤ) := by
    rcases Nat.eq_zero_or_pos millis with zero | large
    · simp [zero, positive_zero]
    · have above : (0 : ℚ) < millis / 1000 := by positivity
      have short : (millis : ℚ) / 1000 < 2 ^ ((18 : ℤ) + 1) := by
        rw [div_lt_iff₀ (by norm_num)]
        have bound : millis < 2 ^ 19 * 1000 := by omega
        exact_mod_cast bound
      have step := ulp_le short above
      have fine : (2 : ℚ) ^ ((18 : ℤ) - 52) / 2 = 2 ^ (-35 : ℤ) := by norm_num
      have half := positive_error ((millis : ℚ) / 1000)
      rw [← fine]
      linarith only [half, step]
  have reached : ((millis / 1000 : ℕ) : ℚ) ≤ positive ((millis : ℚ) / 1000) := by
    rcases Nat.eq_zero_or_pos (millis % 1000) with zero | large
    · rw [zero, Nat.cast_zero, zero_div, add_zero] at parts
      rw [positive_exact (millis / 1000) 0 (by rw [parts]; simp) (by omega),
        parts]
    · have one : (1 : ℚ) ≤ (millis % 1000 : ℕ) := by exact_mod_cast large
      have width : (2 : ℚ) ^ (-35 : ℤ) = 1 / 34359738368 := by norm_num
      rw [width, abs_le, parts] at error
      rw [parts]
      linarith
  rw [of_millis_nat]
  rw [parts] at error reached ⊢
  have result := microseconds_of_close rest error reached
  rw [result]
  have whole : (1000 * (millis / 1000) + millis % 1000 : ℕ) = millis := Nat.div_add_mod _ _
  omega

/-- The double of many seconds has the nearest fraction of the digits there are. -/
theorem many_seconds_double {whole rest : ℕ} (small : rest < 1000) (many : 2 ^ 19 ≤ whole)
    (bounded : whole < 2 ^ 44) :
    ∃ numerator < 2 ^ fractionDigits whole,
      |((numerator : ℕ) : ℚ) - ((rest * 2 ^ fractionDigits whole : ℕ) : ℚ) / 1000| ≤ 1 / 2 ∧
      positive ((whole : ℚ) + rest / 1000) =
        whole + ((numerator : ℕ) : ℚ) / 2 ^ fractionDigits whole := by
  have log : Nat.log 2 whole < 44 := Nat.log_lt_of_lt_pow' (by omega) bounded
  have digits : fractionDigits whole + Nat.log 2 whole = 52 := by
    unfold fractionDigits
    omega
  have bound : (rest : ℚ) ≤ 999 := by exact_mod_cast Nat.le_of_lt_succ small
  have fraction : (0 : ℚ) ≤ (rest : ℚ) / 1000 := by positivity
  have spacing : ulp ((whole : ℚ) + rest / 1000) = 1 / 2 ^ fractionDigits whole := by
    have one : (1 : ℚ) ≤ whole := by
      have enough : 1 ≤ whole := by omega
      exact_mod_cast enough
    have large : (1 : ℚ) ≤ (whole : ℚ) + rest / 1000 := by linarith
    have floor : ⌊(whole : ℚ) + rest / 1000⌋₊ = whole := by
      rw [Nat.floor_eq_iff (by linarith)]
      constructor <;> linarith
    have exponent : ((Nat.log 2 whole : ℕ) : ℤ) - 52 = -(fractionDigits whole : ℕ) := by omega
    unfold ulp
    rw [Int.log_of_one_le_right _ large, floor, exponent, zpow_neg, zpow_natCast, one_div]
  generalize fractionDigits whole = bits at *
  have even : ((whole * 2 ^ bits : ℕ) : ℤ) % 2 = 0 := by
    obtain ⟨fewer, same⟩ := Nat.exists_eq_succ_of_ne_zero (by omega : bits ≠ 0)
    rw [same, Nat.pow_succ, ← Nat.mul_assoc]
    omega
  have power : (0 : ℚ) < 2 ^ bits := by positivity
  have scaled : ((whole : ℚ) + rest / 1000) / ulp ((whole : ℚ) + rest / 1000) =
      ((whole * 2 ^ bits : ℕ) : ℤ) + ((rest * 2 ^ bits : ℕ) : ℚ) / 1000 := by
    rw [spacing, div_div_eq_mul_div, div_one]
    push_cast
    ring
  have nonneg : 0 ≤ nearest (((rest * 2 ^ bits : ℕ) : ℚ) / 1000) := nearest_nonneg (by positivity)
  obtain ⟨numerator, chosen⟩ := Int.eq_ofNat_of_zero_le nonneg
  have close := nearest_error (((rest * 2 ^ bits : ℕ) : ℚ) / 1000)
  rw [chosen, Int.cast_natCast] at close
  refine ⟨numerator, ?_, close, ?_⟩
  · have wide : 2 ^ 9 ≤ 2 ^ bits := Nat.pow_le_pow_right (by omega) (by omega)
    have wide' : (512 : ℚ) ≤ 2 ^ bits := by exact_mod_cast wide
    have less : (numerator : ℚ) < 2 ^ bits := by
      have product : (rest : ℚ) * 2 ^ bits ≤ 999 * 2 ^ bits :=
        mul_le_mul_of_nonneg_right bound power.le
      rw [abs_le] at close
      push_cast at close
      linarith
    exact_mod_cast less
  · unfold positive
    rw [scaled, nearest_add_even even, chosen, spacing]
    push_cast
    field_simp

/-- With many seconds the milliseconds come back exactly when the digits are enough. -/
theorem many_seconds {millis : ℕ} (many : 2 ^ 19 ≤ millis / 1000)
    (bounded : millis / 1000 < 2 ^ 44) :
    microseconds (ofMillis millis) = 1000 * millis ↔ Survives millis := by
  have small : millis % 1000 < 1000 := Nat.mod_lt _ (by omega)
  obtain ⟨numerator, less, close, written⟩ := many_seconds_double small many bounded
  have few : fractionDigits (millis / 1000) ≤ 33 := by
    have log : 19 ≤ Nat.log 2 (millis / 1000) := Nat.le_log_of_pow_le (by omega) many
    unfold fractionDigits
    omega
  have off := off_thousand numerator (by exact_mod_cast close)
  rw [of_millis_nat, millis_parts, written, microseconds_of_digits few less rfl]
  have whole : 1000 * (millis / 1000) + millis % 1000 = millis := Nat.div_add_mod _ _
  have split : ((millis / 1000 : ℕ) : ℤ) * 1000000 +
      nearest ((numerator : ℚ) * 1000000 / 2 ^ fractionDigits (millis / 1000)) = 1000 * millis ↔
      nearest ((numerator : ℚ) * 1000000 / 2 ^ fractionDigits (millis / 1000)) =
        ((1000 * (millis % 1000) : ℕ) : ℤ) := by omega
  rw [split, nearest_eq_even (by omega)]
  unfold Survives
  generalize millis % 1000 = rest at *
  generalize fractionDigits (millis / 1000) = bits at *
  have power : (0 : ℚ) < 2 ^ bits := by positivity
  have scaled : ((1000 * rest : ℕ) : ℤ) - (numerator : ℚ) * 1000000 / 2 ^ bits =
      1000 * (((rest * 2 ^ bits : ℕ) : ℤ) - 1000 * (numerator : ℤ) : ℤ) / 2 ^ bits := by
    push_cast
    field_simp
    ring
  have thousand : |(1000 : ℚ)| = 1000 := abs_of_pos (by norm_num)
  rw [scaled, abs_div, abs_of_pos power, abs_mul, div_le_iff₀ power, thousand, ← Int.cast_abs, off,
    Int.cast_natCast]
  generalize offThousand (rest * 2 ^ bits) = distance
  constructor
  · intro within
    have doubled : (2000 : ℚ) * distance ≤ 2 ^ bits := by linarith
    exact_mod_cast doubled
  · intro within
    have doubled : (2000 : ℚ) * distance ≤ 2 ^ bits := by exact_mod_cast within
    linarith

/-- Milliseconds come back exactly when the digits after the point are enough. -/
theorem microseconds_of_millis {millis : ℕ} (bounded : millis / 1000 < 2 ^ 44) :
    microseconds (ofMillis millis) = 1000 * millis ↔ Survives millis := by
  rcases Nat.lt_or_ge (millis / 1000) (2 ^ 19) with few | many
  · have survives : Survives millis := survives_of_lt (by omega)
    exact iff_of_true (few_seconds few) survives
  · exact many_seconds many bounded

/-- A huge number of milliseconds stays huge. -/
theorem microseconds_of_huge {millis : ℕ} (huge : 2 ^ 44 ≤ millis / 1000) :
    2 ^ 43 * 1000000 ≤ microseconds (ofMillis millis) := by
  have large : (2 ^ 44 : ℚ) ≤ (millis : ℚ) / 1000 := by
    rw [le_div_iff₀ (by norm_num)]
    have enough : 2 ^ 44 * 1000 ≤ millis := by omega
    exact_mod_cast enough
  have above : (0 : ℚ) < (millis : ℚ) / 1000 := by linarith
  have spacing : ulp ((millis : ℚ) / 1000) ≤ (millis : ℚ) / 1000 := by
    have power : (2 : ℚ) ^ Int.log 2 ((millis : ℚ) / 1000) ≤ (millis : ℚ) / 1000 := by
      have log := Int.zpow_log_le_self (b := 2) (by norm_num) above
      exact_mod_cast log
    have step : ulp ((millis : ℚ) / 1000) ≤ 2 ^ Int.log 2 ((millis : ℚ) / 1000) := by
      unfold ulp
      exact zpow_le_zpow_right₀ (by norm_num) (by omega)
    exact step.trans power
  have error := positive_error ((millis : ℚ) / 1000)
  rw [abs_le] at error
  have half : (2 ^ 43 : ℚ) ≤ positive ((millis : ℚ) / 1000) := by linarith
  have nonneg : (0 : ℚ) ≤ positive ((millis : ℚ) / 1000) := by linarith
  have floor : (2 ^ 43 : ℤ) ≤ ⌊positive ((millis : ℚ) / 1000)⌋ := by
    rw [Int.le_floor]
    push_cast
    exact half
  have rest : (0 : ℚ) ≤ (positive ((millis : ℚ) / 1000) -
      (⌊positive ((millis : ℚ) / 1000)⌋ : ℤ)) * 1000000 := by
    have low := Int.floor_le (positive ((millis : ℚ) / 1000))
    linarith
  rw [of_millis_nat]
  unfold microseconds truncate double roundHalfEven
  rw [signed_of_nonneg nonneg, signed_of_nonneg rest, signed_of_nonneg (positive_nonneg rest)]
  have rounded := nearest_nonneg (positive_nonneg rest)
  omega

theorem of_millis_neg (millis : ℤ) : ofMillis (-millis) = -ofMillis millis := by
  unfold ofMillis
  rw [← double_neg]
  push_cast
  rw [neg_div]

/-- A number of milliseconds of either sign. -/
theorem microseconds_of_int {millis : ℤ} (bounded : millis.natAbs / 1000 < 2 ^ 44) :
    microseconds (ofMillis millis) = 1000 * millis ↔ Survives millis.natAbs := by
  have magnitude := microseconds_of_millis bounded
  rcases Int.natAbs_eq millis with same | same
  · rw [← same] at magnitude
    exact magnitude
  · rw [same, of_millis_neg, microseconds_neg, Int.natAbs_neg, Int.natAbs_natCast, ← magnitude]
    omega

end OAuth2Server.Doubles
