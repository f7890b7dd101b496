import OAuth2Server.JsonText

/-!
# String literals read back

What `json.dumps` writes for a text, `json.loads` reads as that text: controls
and non-ASCII characters travel as `\u` escapes, the characters beyond the
basic plane as a surrogate pair.
-/

namespace OAuth2Server.JsonStrings

open OAuth2Server JsonText

set_option autoImplicit false

/-! ### Four hex digits -/

theorem hex_digit_char (digit : Nat) (small : digit < 16) :
    Text.hexDigit (Nat.digitChar digit) = some digit := by
  have each : ∀ digit : Fin 16, Text.hexDigit (Nat.digitChar digit) = some digit.val := by decide
  exact each ⟨digit, small⟩

theorem digit_char_zero : Nat.digitChar 0 = '0' := rfl

/-- A number below 16⁴ is written as its four digits. -/
theorem hex_text_four (code : Nat) (small : code < 0x10000) :
    hexText 4 code = [Nat.digitChar (code / 4096), Nat.digitChar (code / 256 % 16),
      Nat.digitChar (code / 16 % 16), Nat.digitChar (code % 16)] := by
  unfold hexText
  by_cases one : code < 16
  · rw [Nat.toDigits_of_lt_base one]
    have zeros : code / 4096 = 0 ∧ code / 256 % 16 = 0 ∧ code / 16 % 16 = 0 ∧ code % 16 = code := by
      omega
    simp [zeros, List.replicate, digit_char_zero]
  by_cases two : code < 256
  · rw [Nat.toDigits_of_base_le (by decide) (by omega), Nat.toDigits_of_lt_base (by omega)]
    have zeros : code / 4096 = 0 ∧ code / 256 % 16 = 0 ∧ code / 16 % 16 = code / 16 := by omega
    simp [zeros, List.replicate, digit_char_zero]
  by_cases three : code < 4096
  · rw [Nat.toDigits_of_base_le (by decide) (by omega),
      Nat.toDigits_of_base_le (by decide) (by omega), Nat.toDigits_of_lt_base (by omega)]
    have zeros : code / 4096 = 0 ∧ code / 256 % 16 = code / 16 / 16 := by omega
    simp [zeros, digit_char_zero]
  · rw [Nat.toDigits_of_base_le (by decide) (by omega),
      Nat.toDigits_of_base_le (by decide) (by omega),
      Nat.toDigits_of_base_le (by decide) (by omega), Nat.toDigits_of_lt_base (by omega)]
    have digits : code / 4096 = code / 16 / 16 / 16 ∧ code / 256 % 16 = code / 16 / 16 % 16 := by
      omega
    simp [digits]

theorem take_hex_text (code : Nat) (small : code < 0x10000) (rest : List Char) :
    takeHex4 (hexText 4 code ++ rest) = some (code, rest) := by
  rw [hex_text_four code small]
  simp only [List.cons_append, List.nil_append, takeHex4,
    hex_digit_char (code / 4096) (by omega), hex_digit_char (code / 256 % 16) (by omega),
    hex_digit_char (code / 16 % 16) (by omega), hex_digit_char (code % 16) (by omega),
    Option.bind_eq_bind, Option.bind_some]
  congr 2
  omega

/-! ### Escapes -/

theorem take_unicode_text {code : Nat} (small : code < 0x10000)
    (scalar : code < 0xd800 ∨ 0xdfff < code) (rest : List Char) :
    takeUnicodeEscape (hexText 4 code ++ rest) = some (Char.ofNat code, rest) := by
  unfold takeUnicodeEscape
  rw [take_hex_text code small]
  simp only [Option.bind_eq_bind, Option.bind_some]
  rw [if_neg (by omega), if_neg (by omega)]

theorem take_surrogates {high low : Nat} (highSmall : high < 1024) (lowSmall : low < 1024)
    (rest : List Char) :
    takeUnicodeEscape (hexText 4 (0xd800 + high) ++
      '\\' :: 'u' :: (hexText 4 (0xdc00 + low) ++ rest)) =
      some (Char.ofNat (0x10000 + high * 1024 + low), rest) := by
  have cancel : ∀ base value : Nat, base + value - base = value := Nat.add_sub_cancel_left
  unfold takeUnicodeEscape
  rw [take_hex_text _ (by omega)]
  simp only [Option.bind_eq_bind, Option.bind_some]
  rw [if_pos (by omega), take_hex_text _ (by omega)]
  simp only [Option.bind_some]
  rw [if_pos (by omega), cancel 0xd800 high, cancel 0xdc00 low]

theorem take_surrogate_pair {code : Nat} (large : 0x10000 ≤ code) (valid : code < 0x110000)
    (rest : List Char) :
    takeUnicodeEscape (hexText 4 (0xd800 + (code - 0x10000) / 1024) ++
      '\\' :: 'u' :: (hexText 4 (0xdc00 + (code - 0x10000) % 1024) ++ rest)) =
      some (Char.ofNat code, rest) := by
  have joined : 0x10000 + (code - 0x10000) / 1024 * 1024 + (code - 0x10000) % 1024 = code := by
    omega
  rw [take_surrogates (by omega) (by omega), joined]

/-- The literal after one character is read as before. -/
def Extends (fuel : Nat) (char : Char) (written : List Char) : Prop :=
  ∀ rest, parseString (fuel + 1) (written ++ rest) =
    (parseString fuel rest).map fun result => (char :: result.1, result.2)

theorem extends_simple {fuel : Nat} {char escape : Char} (read : simpleEscape escape = some char)
    (other : escape ≠ 'u') : Extends fuel char ['\\', escape] := by
  intro rest
  rw [List.cons_append, List.singleton_append, parseString]
  · simp only [beq_iff_eq]
    rw [if_neg (by decide), if_neg (by decide), if_pos (by decide), read]
  · exact other

theorem extends_unicode {fuel : Nat} {char : Char} {written : List Char}
    (read : ∀ rest, takeUnicodeEscape (written ++ rest) = some (char, rest)) :
    Extends fuel char ('\\' :: 'u' :: written) := by
  intro rest
  rw [List.cons_append, List.cons_append, parseString]
  simp only [beq_iff_eq]
  rw [if_neg (by decide), if_neg (by decide), if_pos (by decide)]
  simp only [read]

theorem extends_plain {fuel : Nat} {char : Char} (quote : char ≠ '"') (escape : char ≠ '\\')
    (visible : 32 ≤ char.toNat) : Extends fuel char [char] := by
  intro rest
  rw [List.singleton_append, parseString.eq_def]
  simp only [beq_iff_eq]
  rw [if_neg quote, if_neg (by omega), if_neg escape]

theorem extends_basic {fuel : Nat} {char : Char} (small : char.toNat < 0x10000) :
    Extends fuel char ('\\' :: 'u' :: hexText 4 char.toNat) := by
  have valid : char.toNat < 0xd800 ∨ (0xdfff < char.toNat ∧ char.toNat < 0x110000) := char.valid
  have same : Char.ofNat char.toNat = char := Char.ofNat_toNat char
  apply extends_unicode
  intro rest
  rw [take_unicode_text small (by omega), same]

theorem extends_pair {fuel : Nat} {char : Char} (large : 0x10000 ≤ char.toNat) :
    Extends fuel char ('\\' :: 'u' :: (hexText 4 (0xd800 + (char.toNat - 0x10000) / 1024) ++
      '\\' :: 'u' :: hexText 4 (0xdc00 + (char.toNat - 0x10000) % 1024))) := by
  have valid : char.toNat < 0xd800 ∨ (0xdfff < char.toNat ∧ char.toNat < 0x110000) := char.valid
  have same : Char.ofNat char.toNat = char := Char.ofNat_toNat char
  apply extends_unicode
  intro rest
  rw [List.append_assoc, List.cons_append, List.cons_append,
    take_surrogate_pair large (by omega), same]

/-- An escaped character is read back as that character. -/
theorem parse_escape_char (fuel : Nat) (char : Char) : Extends fuel char (escapeChar char) := by
  have valid : char.toNat < 0xd800 ∨ (0xdfff < char.toNat ∧ char.toNat < 0x110000) := char.valid
  have same : Char.ofNat char.toNat = char := Char.ofNat_toNat char
  unfold escapeChar
  simp only [beq_iff_eq]
  by_cases quote : char = '"'
  · rw [if_pos quote, quote]
    exact extends_simple rfl (by decide)
  rw [if_neg quote]
  by_cases escape : char = '\\'
  · rw [if_pos escape, escape]
    exact extends_simple rfl (by decide)
  rw [if_neg escape]
  by_cases newline : char = '\n'
  · rw [if_pos newline, newline]
    exact extends_simple rfl (by decide)
  rw [if_neg newline]
  by_cases carriage : char = '\r'
  · rw [if_pos carriage, carriage]
    exact extends_simple rfl (by decide)
  rw [if_neg carriage]
  by_cases tab : char = '\t'
  · rw [if_pos tab, tab]
    exact extends_simple rfl (by decide)
  rw [if_neg tab]
  by_cases backspace : char.toNat = 8
  · rw [if_pos backspace]
    apply extends_simple _ (by decide)
    rw [← same, backspace]
    rfl
  by_cases feed : char.toNat = 12
  · rw [if_neg backspace, if_pos feed]
    apply extends_simple _ (by decide)
    rw [← same, feed]
    rfl
  rw [if_neg backspace, if_neg feed]
  by_cases visible : 32 ≤ char.toNat ∧ char.toNat < 127
  · rw [if_pos (by simpa using visible)]
    exact extends_plain quote escape visible.1
  rw [if_neg (by simpa using visible)]
  by_cases basic : char.toNat < 0x10000
  · rw [if_pos basic]
    exact extends_basic basic
  · rw [if_neg basic, List.cons_append, List.cons_append]
    exact extends_pair (Nat.le_of_not_lt basic)

/-- Characters in a row. -/
theorem parse_written (write : Char → List Char)
    (read : ∀ fuel char, Extends fuel char (write char)) (text : List Char) (rest : List Char)
    (fuel : Nat) (enough : text.length < fuel) :
    parseString fuel (text.flatMap write ++ '"' :: rest) = .ok (text, rest) := by
  induction text generalizing fuel with
  | nil =>
      cases fuel with
      | zero => omega
      | succ fuel => rfl
  | cons char later induction =>
      cases fuel with
      | zero => omega
      | succ fuel =>
          rw [List.flatMap_cons, List.append_assoc, read fuel char,
            induction fuel (by simpa using enough)]
          rfl

theorem length_flat_map_le {write : Char → List Char} (written : ∀ char, write char ≠ [])
    (text : List Char) : text.length ≤ (text.flatMap write).length := by
  induction text with
  | nil => simp
  | cons char later induction =>
      have positive := List.length_pos_iff.2 (written char)
      rw [List.flatMap_cons, List.length_append, List.length_cons]
      omega

/-- A literal whose characters are written so is read as the text. -/
theorem loads_written {write : Char → List Char}
    (read : ∀ fuel char, Extends fuel char (write char)) (written : ∀ char, write char ≠ [])
    (limit : Nat) (text : String) :
    loads limit (String.ofList ('"' :: (text.toList.flatMap write ++ ['"']))) =
      .ok (.str text) := by
  have shorter := length_flat_map_le written text.toList
  have parsed := parse_written write read text.toList []
    ((text.toList.flatMap write ++ ['"']).length + 1)
    (by rw [List.length_append]; omega)
  have quoted : ∀ rest, skipWhite ('"' :: rest) = '"' :: rest := fun _ => rfl
  unfold loads
  rw [String.toList_ofList, quoted, parseValue, parsed]
  simp [Except.map, skipWhite]

theorem escape_char_written (char : Char) : escapeChar char ≠ [] := by
  unfold escapeChar
  dsimp only
  repeat' split
  all_goals exact List.cons_ne_nil _ _

/-- `json.loads(json.dumps(text)) == text`. -/
theorem loads_quote_text (limit : Nat) (text : String) :
    loads limit (quoteText text) = .ok (.str text) :=
  loads_written parse_escape_char escape_char_written limit text

end OAuth2Server.JsonStrings
