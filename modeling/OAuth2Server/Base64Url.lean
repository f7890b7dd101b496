import OAuth2Server.Text

/-!
# Reading back unpadded base64url

`urlsafe_b64encode(...).rstrip("=")` and the padded, lenient decoder. Bytes
survive the round trip whatever their number.
-/

namespace OAuth2Server.Base64Url

open OAuth2Server Text

set_option autoImplicit false

/-- The translation of `urlsafe_b64decode`. -/
def standard (char : Char) : Char :=
  if char = '-' then '+' else if char = '_' then '/' else char

def Bytes (bytes : List Nat) : Prop := ∀ byte ∈ bytes, byte < 256

/-! ### One character -/

theorem standard_value : ∀ bits : Fin 64,
    base64Value (standard (base64UrlChar bits)) = some bits.val ∧
      standard (base64UrlChar bits) ≠ '=' ∧ (standard (base64UrlChar bits)).toNat < 128 := by
  decide +kernel

section Step

variable {bits : Nat} (small : bits < 64) (held pads : Nat) (rest : List Char)

include small

theorem step_first :
    a2bBase64 0 held pads (standard (base64UrlChar bits) :: rest) = a2bBase64 1 bits 0 rest := by
  obtain ⟨value, nonpad, _⟩ := standard_value ⟨bits, small⟩
  dsimp only at value nonpad
  rw [a2bBase64, if_neg nonpad, value]
  rfl

theorem step_second :
    a2bBase64 1 held pads (standard (base64UrlChar bits) :: rest) =
      (a2bBase64 2 (bits % 16) 0 rest).map ((held * 4 + bits / 16) :: ·) := by
  obtain ⟨value, nonpad, _⟩ := standard_value ⟨bits, small⟩
  dsimp only at value nonpad
  rw [a2bBase64, if_neg nonpad, value]
  rfl

theorem step_third :
    a2bBase64 2 held pads (standard (base64UrlChar bits) :: rest) =
      (a2bBase64 3 (bits % 4) 0 rest).map ((held * 16 + bits / 4) :: ·) := by
  obtain ⟨value, nonpad, _⟩ := standard_value ⟨bits, small⟩
  dsimp only at value nonpad
  rw [a2bBase64, if_neg nonpad, value]
  rfl

theorem step_fourth :
    a2bBase64 3 held pads (standard (base64UrlChar bits) :: rest) =
      (a2bBase64 0 0 0 rest).map ((held * 64 + bits) :: ·) := by
  obtain ⟨value, nonpad, _⟩ := standard_value ⟨bits, small⟩
  dsimp only at value nonpad
  rw [a2bBase64, if_neg nonpad, value]
  rfl

end Step

/-! ### Quanta -/

/-- The padding that a text of this length lacks. -/
def padding (length : Nat) : List Char := List.replicate ((4 - length % 4) % 4) '='

theorem encoded_char (bytes : List Nat) :
    ∀ char ∈ b64urlEncode bytes, ∃ bits, char = base64UrlChar bits := by
  induction bytes using b64urlEncode.induct with
  | case1 a b c rest induction =>
      intro char member
      simp only [b64urlEncode, List.mem_cons] at member
      rcases member with rfl | rfl | rfl | rfl | later
      · exact ⟨_, rfl⟩
      · exact ⟨_, rfl⟩
      · exact ⟨_, rfl⟩
      · exact ⟨_, rfl⟩
      · exact induction char later
  | case2 a b =>
      intro char member
      simp only [b64urlEncode, List.mem_cons, List.not_mem_nil, or_false] at member
      rcases member with rfl | rfl | rfl <;> exact ⟨_, rfl⟩
  | case3 a =>
      intro char member
      simp only [b64urlEncode, List.mem_cons, List.not_mem_nil, or_false] at member
      rcases member with rfl | rfl <;> exact ⟨_, rfl⟩
  | case4 =>
      intro char member
      cases member

theorem standard_ascii (bits : Nat) : (standard (base64UrlChar bits)).toNat < 128 := by
  by_cases small : bits < 64
  · exact (standard_value ⟨bits, small⟩).2.2
  · have last : base64UrlChar bits = '_' := by
      unfold base64UrlChar
      rw [if_neg (by omega), if_neg (by omega), if_neg (by omega), if_neg (by omega)]
    rw [last]
    decide

/-- By induction on the groups of three bytes that the encoder takes. -/
theorem decode_quanta (bytes : List Nat) (inRange : Bytes bytes) :
    a2bBase64 0 0 0 ((b64urlEncode bytes ++ padding (b64urlEncode bytes).length).map standard) =
      some bytes := by
  induction bytes using b64urlEncode.induct with
  | case1 a b c rest induction =>
      have first := inRange a (by simp)
      have second := inRange b (by simp)
      have third := inRange c (by simp)
      have later := induction fun byte member => inRange byte (by simp [member])
      have length : padding (b64urlEncode (a :: b :: c :: rest)).length =
          padding (b64urlEncode rest).length := by
        unfold padding
        rw [b64urlEncode]
        congr 1
        simp only [List.length_cons]
        omega
      rw [length, b64urlEncode]
      simp only [List.cons_append, List.map_cons]
      rw [step_first (by omega), step_second (by omega), step_third (by omega),
        step_fourth (by omega), later]
      simp only [Option.map_some, Option.some.injEq, List.cons.injEq, and_true]
      omega
  | case2 a b =>
      have first := inRange a (by simp)
      have second := inRange b (by simp)
      rw [b64urlEncode]
      simp only [List.cons_append, List.nil_append, List.map_cons]
      rw [step_first (by omega), step_second (by omega), step_third (by omega)]
      have ends : a2bBase64 3 (b % 16 * 4 % 4) 0 ((padding 3).map standard) = some [] := rfl
      simp only [List.length_cons, List.length_nil, ends, Option.map_some, Option.some.injEq,
        List.cons.injEq, and_true]
      omega
  | case3 a =>
      have first := inRange a (by simp)
      rw [b64urlEncode]
      simp only [List.cons_append, List.nil_append, List.map_cons]
      rw [step_first (by omega), step_second (by omega)]
      have ends : a2bBase64 2 (a % 4 * 16 % 16) 0 ((padding 2).map standard) = some [] := rfl
      simp only [List.length_cons, List.length_nil, ends, Option.map_some, Option.some.injEq,
        List.cons.injEq, and_true]
      omega
  | case4 => rfl

/-- Bytes are read back from their unpadded base64url text. -/
theorem decode_encode (bytes : List Nat) (inRange : Bytes bytes) :
    b64urlDecode (String.ofList (b64urlEncode bytes)) = some bytes := by
  have ascii : (((b64urlEncode bytes ++ padding (b64urlEncode bytes).length).map standard).all
      fun char => char.toNat < 128) = true := by
    rw [List.all_eq_true]
    intro char member
    obtain ⟨source, listed, rfl⟩ := List.mem_map.1 member
    rcases List.mem_append.1 listed with encoded | padded
    · obtain ⟨bits, rfl⟩ := encoded_char bytes source encoded
      exact decide_eq_true (standard_ascii bits)
    · rw [List.eq_of_mem_replicate padded]
      decide
  have decoded := decode_quanta bytes inRange
  unfold padding at ascii decoded
  unfold b64urlDecode b64decode
  dsimp only
  rw [String.toList_ofList, String.toList_ofList]
  show (if (((b64urlEncode bytes ++ _).map standard).all fun char => char.toNat < 128) = true then
    a2bBase64 0 0 0 ((b64urlEncode bytes ++ _).map standard) else none) = some bytes
  rw [if_pos ascii, decoded]

end OAuth2Server.Base64Url
