import Mathlib.Algebra.Ring.Nat
import Mathlib.Data.List.Lex
import Mathlib.Order.Lattice
import Mathlib.Tactic.Common

/-!
# Numbers written with a fixed number of digits

Texts of one width that write numbers with leading zeros are ordered, character
by character, as the numbers are. What follows such a text decides only between
equal numbers.
-/

namespace OAuth2Server.FixedDigits

set_option autoImplicit false

/-- The decimal digits of a number, most significant first. -/
def padded : Nat → Nat → List Char
  | 0, _ => []
  | width + 1, number =>
      Nat.digitChar (number / 10 ^ width) :: padded width (number % 10 ^ width)

theorem padded_length (width number : Nat) : (padded width number).length = width := by
  induction width generalizing number with
  | zero => rfl
  | succ width induction => rw [padded, List.length_cons, induction]

theorem digit_lt_iff : ∀ left < 10, ∀ right < 10,
    Nat.digitChar left < Nat.digitChar right ↔ left < right := by decide

theorem digit_eq_iff : ∀ left < 10, ∀ right < 10,
    Nat.digitChar left = Nat.digitChar right ↔ left = right := by decide

theorem lt_iff_div_mod (left right base : Nat) :
    left < right ↔
      left / base < right / base ∨ left / base = right / base ∧ left % base < right % base := by
  have first := Nat.div_add_mod left base
  have second := Nat.div_add_mod right base
  constructor
  · intro less
    rcases Nat.lt_trichotomy (left / base) (right / base) with lower | same | higher
    · exact .inl lower
    · rw [same] at first
      exact .inr ⟨same, by omega⟩
    · have reversed := Nat.lt_of_div_lt_div higher
      omega
  · intro parts
    rcases parts with lower | ⟨same, less⟩
    · exact Nat.lt_of_div_lt_div lower
    · rw [same] at first
      omega

theorem eq_iff_div_mod (left right base : Nat) :
    left = right ↔ left / base = right / base ∧ left % base = right % base := by
  constructor
  · intro same
    rw [same]
    exact ⟨rfl, rfl⟩
  · intro ⟨quotients, remainders⟩
    rw [← Nat.div_add_mod left base, quotients, remainders, Nat.div_add_mod]

theorem leading_digit {number width : Nat} (small : number < 10 ^ (width + 1)) :
    number / 10 ^ width < 10 := by
  apply Nat.div_lt_of_lt_mul
  rw [← Nat.pow_succ]
  exact small

variable {width left right : Nat}

theorem padded_append_lt {after rest : List Char} (first : left < 10 ^ width)
    (second : right < 10 ^ width) :
    padded width left ++ after < padded width right ++ rest ↔
      left < right ∨ left = right ∧ after < rest := by
  induction width generalizing left right with
  | zero =>
      have both : left = 0 ∧ right = 0 := by omega
      simp [padded, both]
  | succ width induction =>
      have positive : 0 < 10 ^ width := Nat.pow_pos (by omega)
      have digits := digit_lt_iff _ (leading_digit first) _ (leading_digit second)
      have same := digit_eq_iff _ (leading_digit first) _ (leading_digit second)
      have later := induction (Nat.mod_lt left positive) (Nat.mod_lt right positive)
      have less := lt_iff_div_mod left right (10 ^ width)
      have equal := eq_iff_div_mod left right (10 ^ width)
      rw [padded, padded, List.cons_append, List.cons_append, List.cons_lt_cons_iff, digits, same,
        later, less, equal]
      simp only [and_or_left, or_assoc, and_assoc]

end OAuth2Server.FixedDigits
