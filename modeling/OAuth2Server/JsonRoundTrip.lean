import OAuth2Server.StrictJson

/-!
# Written documents read back

Every document that `json.dumps` writes without sorting its keys is read by
`json.loads` as itself, by the strict reading too. The recursion allowance has
to cover the nesting, an integer has to stay below the digit limit of `int`,
and the literal of a float has to read as that float.
-/

namespace OAuth2Server.JsonRoundTrip

open OAuth2Server JsonText JsonStrings StrictJson

set_option autoImplicit false

/-! ### Numbers -/

/-- What may follow a number: nothing that would go on with it. -/
def Ends (rest : List Char) : Prop :=
  ∀ char ∈ rest.head?, isDigit char = false ∧ char ≠ '.' ∧ char ≠ 'e' ∧ char ≠ 'E'

theorem ends_nil : Ends [] := by
  intro char first
  cases first

theorem ends_cons {char : Char} {rest : List Char} (apart : isDigit char = false ∧ char ≠ '.' ∧
    char ≠ 'e' ∧ char ≠ 'E') : Ends (char :: rest) := by
  intro other first
  cases first
  exact apart

theorem digits_taken {digits rest : List Char} (all : ∀ char ∈ digits, isDigit char = true)
    (ends : Ends rest) : (digits ++ rest).takeWhile isDigit = digits ∧
      (digits ++ rest).dropWhile isDigit = rest := by
  rw [List.takeWhile_append_of_pos all, List.dropWhile_append_of_pos all]
  cases rest with
  | nil => simp
  | cons char after =>
      have stop := (ends char rfl).1
      simp [stop]

theorem fraction_absent {rest : List Char} (ends : Ends rest) : takeFraction rest = ([], rest) := by
  unfold takeFraction
  split
  case h_1 after => exact absurd rfl (ends _ rfl).2.1
  case h_2 => rfl

theorem exponent_absent {rest : List Char} (ends : Ends rest) :
    takeExponent rest = (none, rest) := by
  cases rest with
  | nil => rfl
  | cons mark after =>
      have apart := (ends mark rfl).2.2
      unfold takeExponent
      simp [apart.1, apart.2]

theorem digits_value (number : Nat) : digitsValue (Nat.toDigits 10 number) = number := by
  have same : digitsValue (Nat.toDigits 10 number) =
      Nat.ofDigitChars 10 (Nat.toDigits 10 number) 0 := by
    simp only [digitsValue, Nat.ofDigitChars, Nat.mul_comm]
  rw [same, Nat.ofDigitChars_ten_toDigits]

theorem decimal_digits (number : Nat) :
    ∀ char ∈ Nat.toDigits 10 number, isDigit char = true := by
  intro char member
  exact Nat.isDigit_of_mem_toDigits (by decide) (by decide) member

/-- A positive number has no leading zero. -/
theorem decimal_head (number : Nat) (positive : 0 < number) :
    ∃ digit rest, Nat.toDigits 10 number = digit :: rest ∧ digit ≠ '0' := by
  induction number using Nat.strongRecOn with
  | ind number induction =>
      by_cases small : number < 10
      · have digit : ∀ digit : Fin 10, digit.val ≠ 0 → Nat.digitChar digit.val ≠ '0' := by decide
        exists Nat.digitChar number, []
        exact ⟨Nat.toDigits_of_lt_base small, digit ⟨number, small⟩ (Nat.ne_of_gt positive)⟩
      · obtain ⟨digit, rest, whole, apart⟩ := induction (number / 10) (by omega) (by omega)
        exists digit, rest ++ [Nat.digitChar (number % 10)]
        rw [Nat.toDigits_of_base_le (by decide) (by omega), whole]
        exact ⟨rfl, apart⟩

theorem decimal_taken (number : Nat) {rest : List Char} (ends : Ends rest) :
    takeIntPart (Nat.toDigits 10 number ++ rest) = some (Nat.toDigits 10 number, rest) := by
  have all := decimal_digits number
  cases number with
  | zero => rfl
  | succ number =>
      obtain ⟨digit, later, whole, apart⟩ := decimal_head (number + 1) (by omega)
      rw [whole] at all ⊢
      have taken := digits_taken (fun char member => all char (List.mem_cons_of_mem _ member)) ends
      rw [List.cons_append, takeIntPart.eq_def]
      split
      case h_1 same =>
        cases same
        exact absurd rfl apart
      case h_2 same =>
        cases same
        rw [if_pos (all _ List.mem_cons_self), taken.1, taken.2]
      case h_3 same => cases same

/-- The literal of an integer. -/
def decimal (value : Int) : List Char := (toString value).toList

theorem decimal_nat (number : Nat) : decimal (.ofNat number) = Nat.toDigits 10 number := by
  have written : toString (Int.ofNat number) = String.ofList (Nat.toDigits 10 number) := rfl
  rw [decimal, written, String.toList_ofList]

theorem decimal_negative (number : Nat) :
    decimal (.negSucc number) = '-' :: Nat.toDigits 10 (number + 1) := by
  have written : toString (Int.negSucc number) =
      "-" ++ String.ofList (Nat.toDigits 10 (number + 1)) := rfl
  rw [decimal, written, String.toList_append, String.toList_ofList, List.singleton_append,
    String.toList_ofList]

/-- `int` reads the literal: it stays within the limit on digits. -/
def Readable (value : Int) : Prop := (Nat.toDigits 10 value.natAbs).length ≤ intMaxStrDigits

theorem integer_parsed (value : Int) (short : Readable value) {rest : List Char}
    (ends : Ends rest) : parseNumber (decimal value ++ rest) = .ok (.int value, rest) := by
  have within : ¬intMaxStrDigits < (Nat.toDigits 10 value.natAbs).length := Nat.not_lt.2 short
  cases value with
  | ofNat number =>
      have unsigned : ((Nat.toDigits 10 number ++ rest).head? == some '-') = false := by
        cases digits : Nat.toDigits 10 number with
        | nil => exact absurd digits Nat.toDigits_ne_nil
        | cons digit later =>
            have first := decimal_digits number digit (by rw [digits]; exact List.mem_cons_self)
            have apart : digit ≠ '-' := by
              rintro rfl
              cases first
            simpa using apart
      have count : (Int.ofNat number).natAbs = number := rfl
      rw [count] at within
      unfold parseNumber
      simp only [decimal_nat, unsigned, Bool.false_eq_true, if_false, decimal_taken number ends,
        fraction_absent ends, exponent_absent ends, digits_value, List.isEmpty_nil,
        Option.isNone_none, Bool.and_self, if_true]
      rw [if_neg within]
      simp
  | negSucc number =>
      have count : (Int.negSucc number).natAbs = number + 1 := rfl
      rw [count] at within
      unfold parseNumber
      simp only [decimal_negative, List.cons_append, List.head?_cons, beq_self_eq_true, if_true,
        List.tail_cons, decimal_taken (number + 1) ends, fraction_absent ends,
        exponent_absent ends, digits_value, List.isEmpty_nil, Option.isNone_none, Bool.and_self,
        if_true]
      rw [if_neg within]
      simp [Int.negSucc_eq]

/-! ### Scalars -/

/-- The text of a value starts neither with a blank nor with a closing bracket. -/
def Opens (text : List Char) : Prop :=
  ∃ char rest, text = char :: rest ∧ isWhite char = false ∧ char ≠ ']'

theorem Opens.append {text : List Char} (opens : Opens text) (rest : List Char) :
    Opens (text ++ rest) := by
  obtain ⟨char, later, rfl, apart⟩ := opens
  exact ⟨char, later ++ rest, rfl, apart⟩

theorem Opens.skip {text : List Char} (opens : Opens text) : skipWhite text = text := by
  obtain ⟨char, later, rfl, visible, -⟩ := opens
  simp [skipWhite, visible]

theorem Opens.positive {text : List Char} (opens : Opens text) : 0 < text.length := by
  obtain ⟨char, later, rfl, -⟩ := opens
  exact Nat.succ_pos _

/-- A literal that is read as the scalar, whatever ends it. -/
structure ReadsScalar (text : List Char) (value : Json) : Prop where
  opens : Opens text
  scalar : ∀ rest, Scalar (text ++ rest)
  read : ∀ rest, Ends rest → parseScalar (text ++ rest) = .ok (value, rest)

theorem scalar_of_head {char : Char} {rest : List Char}
    (apart : char ≠ '"' ∧ char ≠ '[' ∧ char ≠ '\x7b') : Scalar (char :: rest) := by
  intro other
  simp [apart.1, apart.2.1, apart.2.2]

theorem reads_word {char : Char} {word : List Char} {value : Json}
    (apart : char ≠ '"' ∧ char ≠ '[' ∧ char ≠ '\x7b') (visible : isWhite char = false)
    (open_ : char ≠ ']')
    (read : ∀ rest, parseScalar (char :: word ++ rest) = .ok (value, rest)) :
    ReadsScalar (char :: word) value where
  opens := ⟨char, word, rfl, visible, open_⟩
  scalar := fun _ => scalar_of_head apart
  read := fun rest _ => read rest

theorem reads_literal {literal : String} (known : literal = "NaN" ∨ literal = "Infinity" ∨
    literal = "-Infinity") : ReadsScalar literal.toList (.nonFinite literal) := by
  rcases known with rfl | rfl | rfl
  all_goals exact reads_word (by decide) (by decide) (by decide) fun _ => rfl

theorem reads_bool (value : Bool) :
    ReadsScalar (if value then "true" else "false").toList (.bool value) := by
  cases value
  all_goals exact reads_word (by decide) (by decide) (by decide) fun _ => rfl

theorem reads_null : ReadsScalar "null".toList .null :=
  reads_word (by decide) (by decide) (by decide) fun _ => rfl

theorem digit_apart {digit other : Char} (digits : isDigit digit = true)
    (apart : isDigit other = false) : digit ≠ other := by
  rintro rfl
  rw [digits] at apart
  cases apart

theorem no_literal {digit : Char} {text : List Char} (digits : isDigit digit = true) :
    (literals.find? fun literal => literal.1.toList.isPrefixOf (digit :: text)) = none := by
  have apart : 'n' ≠ digit ∧ 't' ≠ digit ∧ 'f' ≠ digit ∧ 'N' ≠ digit ∧ 'I' ≠ digit ∧
      '-' ≠ digit := by
    refine ⟨?_, ?_, ?_, ?_, ?_, ?_⟩
    all_goals exact (digit_apart digits (by decide)).symm
  simp [literals, apart]

theorem no_signed_literal {digit : Char} {text : List Char} (digits : isDigit digit = true) :
    (literals.find? fun literal => literal.1.toList.isPrefixOf ('-' :: digit :: text)) = none := by
  have apart : 'I' ≠ digit := (digit_apart digits (by decide)).symm
  simp [literals, apart]

theorem reads_number {char : Char} {later : List Char} {value : Json}
    (apart : char ≠ '"' ∧ char ≠ '[' ∧ char ≠ '\x7b') (visible : isWhite char = false)
    (open_ : char ≠ ']')
    (unknown : ∀ rest, (literals.find? fun literal =>
      literal.1.toList.isPrefixOf (char :: later ++ rest)) = none)
    (read : ∀ rest, Ends rest → parseNumber (char :: later ++ rest) = .ok (value, rest)) :
    ReadsScalar (char :: later) value where
  opens := ⟨char, later, rfl, visible, open_⟩
  scalar := fun _ => scalar_of_head apart
  read := fun rest ends => by
    unfold parseScalar
    rw [unknown rest]
    exact read rest ends

theorem reads_integer (value : Int) (short : Readable value) :
    ReadsScalar (decimal value) (.int value) := by
  have parsed := fun rest ends => @integer_parsed value short rest ends
  cases value with
  | ofNat number =>
      have all := decimal_digits number
      rw [decimal_nat] at parsed ⊢
      cases whole : Nat.toDigits 10 number with
      | nil => exact absurd whole Nat.toDigits_ne_nil
      | cons digit later =>
          rw [whole] at all parsed
          have digits := all digit List.mem_cons_self
          have quote : digit ≠ '"' := digit_apart digits (by decide)
          have bracket : digit ≠ '[' := digit_apart digits (by decide)
          have brace : digit ≠ '\x7b' := digit_apart digits (by decide)
          have visible : isWhite digit = false := by
            have blanks : digit ≠ ' ' ∧ digit ≠ '\t' ∧ digit ≠ '\n' ∧ digit ≠ '\r' := by
              refine ⟨?_, ?_, ?_, ?_⟩
              all_goals exact digit_apart digits (by decide)
            simp [isWhite, blanks]
          exact reads_number ⟨quote, bracket, brace⟩ visible (digit_apart digits (by decide))
            (fun _ => no_literal digits) parsed
  | negSucc number =>
      have all := decimal_digits (number + 1)
      rw [decimal_negative] at parsed ⊢
      cases whole : Nat.toDigits 10 (number + 1) with
      | nil => exact absurd whole Nat.toDigits_ne_nil
      | cons digit later =>
          rw [whole] at all parsed
          have digits := all digit List.mem_cons_self
          exact reads_number (by decide) (by decide) (by decide)
            (fun _ => no_signed_literal digits) parsed

/-! ### Documents -/

/-- Compact or spaced separators, and members in their own order. -/
structure Plain (style : DumpStyle) : Prop where
  items : ∃ blanks, style.itemSeparator.toList = ',' :: blanks ∧ ∀ char ∈ blanks, isWhite char
  keys : ∃ blanks, style.keySeparator.toList = ':' :: blanks ∧ ∀ char ∈ blanks, isWhite char
  unsorted : style.sortKeys = false

mutual

/-- A document that can be read back within the recursion allowance. -/
def Legible (style : DumpStyle) : Nat → Json → Prop
  | _, .null => True
  | _, .bool _ => True
  | _, .int value => Readable value
  | _, .float value => ReadsScalar (style.floatRepr value).toList (.float value)
  | _, .nonFinite literal => literal = "NaN" ∨ literal = "Infinity" ∨ literal = "-Infinity"
  | _, .str _ => True
  | 0, .arr _ => False
  | depth + 1, .arr items => AllLegible style depth items
  | 0, .obj _ => False
  | depth + 1, .obj members => (keys members).Nodup ∧ MembersLegible style depth members

def AllLegible (style : DumpStyle) : Nat → List Json → Prop
  | _, [] => True
  | depth, item :: rest => Legible style depth item ∧ AllLegible style depth rest

def MembersLegible (style : DumpStyle) : Nat → List (String × Json) → Prop
  | _, [] => True
  | depth, member :: rest => Legible style depth member.2 ∧ MembersLegible style depth rest

end

/-! ### The pieces of a written document -/

/-- What `json.dumps` writes, as characters. -/
def written (style : DumpStyle) (value : Json) : List Char := (dumps style value).toList

/-- The items of an array, between the brackets. -/
def writtenItems (style : DumpStyle) (items : List Json) : List Char :=
  style.itemSeparator.toList.intercalate (items.map (written style))

/-- A member: the quoted key, the separator and the value. -/
def writtenMember (style : DumpStyle) (member : String × Json) : List Char :=
  (quoteText member.1).toList ++ style.keySeparator.toList ++ written style member.2

def writtenMembers (style : DumpStyle) (members : List (String × Json)) : List Char :=
  style.itemSeparator.toList.intercalate (members.map (writtenMember style))

theorem quote_list (text : String) :
    (quoteText text).toList = '"' :: (text.toList.flatMap escapeChar ++ ['"']) := by
  rw [quoteText, String.toList_ofList]
  rfl

theorem dumps_items (style : DumpStyle) (items : List Json) :
    (dumpsItems style items).map String.toList = items.map (written style) := by
  induction items with
  | nil => simp [dumpsItems]
  | cons item rest induction => simp [dumpsItems, induction, written]

theorem dumps_members (style : DumpStyle) (members : List (String × Json)) :
    (dumpsMembers style members).map (fun pair =>
      (quoteText pair.1 ++ style.keySeparator ++ pair.2).toList) =
      members.map (writtenMember style) := by
  induction members with
  | nil => simp [dumpsMembers]
  | cons member rest induction =>
      obtain ⟨key, value⟩ := member
      rw [dumpsMembers, List.map_cons, induction, List.map_cons, String.toList_append,
        String.toList_append]
      rfl

theorem written_array (style : DumpStyle) (items : List Json) :
    written style (.arr items) = '[' :: (writtenItems style items ++ [']']) := by
  have opening : "[".toList = ['['] := rfl
  have closing : "]".toList = [']'] := rfl
  rw [written, dumps, String.toList_append, String.toList_append, String.toList_intercalate,
    dumps_items, opening, closing]
  rfl

theorem written_object {style : DumpStyle} (unsorted : style.sortKeys = false)
    (members : List (String × Json)) : written style (.obj members) =
      '\x7b' :: (writtenMembers style members ++ ['\x7d']) := by
  have opening : "\x7b".toList = ['\x7b'] := rfl
  have closing : "\x7d".toList = ['\x7d'] := rfl
  rw [written, dumps]
  simp only [unsorted, Bool.false_eq_true, if_false]
  rw [String.toList_append, String.toList_append, String.toList_intercalate, List.map_map]
  have each := dumps_members style members
  rw [opening, closing]
  simp only [Function.comp_def, each]
  rfl

/-- A separator is passed over up to the next value. -/
theorem skip_separator {blanks text : List Char} (white : ∀ char ∈ blanks, isWhite char)
    (opens : Opens text) : skipWhite (blanks ++ text) = text := by
  unfold skipWhite
  rw [List.dropWhile_append_of_pos white]
  exact opens.skip

theorem skip_visible {char : Char} {rest : List Char} (visible : isWhite char = false) :
    skipWhite (char :: rest) = char :: rest := by
  simp [skipWhite, visible]

theorem skip_colon {style : DumpStyle} (plain : Plain style) {text : List Char}
    (opens : Opens text) : ∃ blanks, style.keySeparator.toList ++ text = ':' :: (blanks ++ text) ∧
      skipWhite (blanks ++ text) = text := by
  obtain ⟨blanks, separator, white⟩ := plain.keys
  exact ⟨blanks, by rw [separator, List.cons_append], skip_separator white opens⟩

theorem skip_comma {style : DumpStyle} (plain : Plain style) {text : List Char}
    (opens : Opens text) : ∃ blanks, style.itemSeparator.toList ++ text = ',' :: (blanks ++ text) ∧
      skipWhite (blanks ++ text) = text := by
  obtain ⟨blanks, separator, white⟩ := plain.items
  exact ⟨blanks, by rw [separator, List.cons_append], skip_separator white opens⟩

theorem quote_opens (text : String) : Opens (quoteText text).toList := by
  rw [quote_list]
  exact ⟨'"', _, rfl, by decide, by decide⟩

theorem value_opens {style : DumpStyle} (unsorted : style.sortKeys = false) {depth : Nat}
    {value : Json} (legible : Legible style depth value) : Opens (written style value) := by
  cases value with
  | null => exact reads_null.opens
  | bool value => exact (reads_bool value).opens
  | int value =>
      rw [Legible] at legible
      exact (reads_integer value legible).opens
  | float value =>
      rw [Legible] at legible
      exact legible.opens
  | nonFinite literal =>
      rw [Legible] at legible
      exact (reads_literal legible).opens
  | str value => exact quote_opens value
  | arr items =>
      rw [written_array]
      exact ⟨'[', _, rfl, by decide, by decide⟩
  | obj members =>
      rw [written_object unsorted]
      exact ⟨'\x7b', _, rfl, by decide, by decide⟩

theorem items_single (style : DumpStyle) (item : Json) :
    writtenItems style [item] = written style item := List.intercalate_singleton

theorem items_more (style : DumpStyle) (item next : Json) (rest : List Json) :
    writtenItems style (item :: next :: rest) = written style item ++
      (style.itemSeparator.toList ++ writtenItems style (next :: rest)) := by
  rw [writtenItems, List.map_cons, List.map_cons, List.intercalate_cons_cons, List.append_assoc]
  rfl

theorem members_single (style : DumpStyle) (member : String × Json) :
    writtenMembers style [member] = writtenMember style member := List.intercalate_singleton

theorem members_more (style : DumpStyle) (member next : String × Json)
    (rest : List (String × Json)) :
    writtenMembers style (member :: next :: rest) = writtenMember style member ++
      (style.itemSeparator.toList ++ writtenMembers style (next :: rest)) := by
  rw [writtenMembers, List.map_cons, List.map_cons, List.intercalate_cons_cons,
    List.append_assoc]
  rfl

theorem items_open {style : DumpStyle} (unsorted : style.sortKeys = false) {depth : Nat}
    {item : Json} (rest : List Json) (legible : Legible style depth item) :
    Opens (writtenItems style (item :: rest)) := by
  cases rest with
  | nil =>
      rw [items_single]
      exact value_opens unsorted legible
  | cons next rest =>
      rw [items_more]
      exact (value_opens unsorted legible).append _

theorem members_open (style : DumpStyle) (member : String × Json) (rest : List (String × Json)) :
    Opens (writtenMembers style (member :: rest)) := by
  have first : Opens (writtenMember style member) := by
    rw [writtenMember, List.append_assoc]
    exact (quote_opens member.1).append _
  cases rest with
  | nil =>
      rw [members_single]
      exact first
  | cons next rest =>
      rw [members_more]
      exact first.append _

theorem members_head (style : DumpStyle) (member : String × Json) (more : List (String × Json))
    (rest : List Char) : (writtenMembers style (member :: more) ++ rest).head? = some '"' := by
  cases more with
  | nil => rw [members_single, writtenMember, quote_list]; rfl
  | cons next more => rw [members_more, writtenMember, quote_list]; rfl

theorem string_parsed (text : String) (rest : List Char) :
    parseString ((text.toList.flatMap escapeChar ++ '"' :: rest).length + 1)
      (text.toList.flatMap escapeChar ++ '"' :: rest) = .ok (text.toList, rest) := by
  have shorter := length_flat_map_le escape_char_written text.toList
  apply parse_written escapeChar parse_escape_char
  rw [List.length_append, List.length_cons]
  omega

theorem string_read (fuel depth : Nat) (text : String) (rest : List Char) :
    hookedValue rejectDuplicateKeys (fuel + 1) depth ((quoteText text).toList ++ rest) =
      .ok (.str text, rest) := by
  rw [quote_list, List.cons_append, List.append_assoc, List.singleton_append, hookedValue,
    string_parsed, Except.map, lift, Except.mapError, String.ofList_toList]

theorem scalar_read {text : List Char} {value : Json} (reads : ReadsScalar text value)
    (fuel depth : Nat) {rest : List Char} (ends : Ends rest) :
    hookedValue rejectDuplicateKeys (fuel + 1) depth (text ++ rest) = .ok (value, rest) := by
  rw [strict_value_scalar (reads.scalar rest), reads.read rest ends]
  rfl

/-! ### Reading -/

/-- With this fuel the text of a value is read as the value. -/
def ReadsValues (style : DumpStyle) (fuel : Nat) : Prop := ∀ depth value rest,
  Legible style depth value → Ends rest → 2 * (written style value).length ≤ fuel →
  hookedValue rejectDuplicateKeys fuel depth (written style value ++ rest) = .ok (value, rest)

def ReadsItems (style : DumpStyle) (fuel : Nat) : Prop := ∀ depth item more rest,
  AllLegible style depth (item :: more) →
  2 * (writtenItems style (item :: more)).length < fuel →
  hookedItems rejectDuplicateKeys fuel depth (writtenItems style (item :: more) ++ ']' :: rest) =
    .ok (item :: more, rest)

def ReadsMembers (style : DumpStyle) (fuel : Nat) : Prop := ∀ depth member more rest,
  MembersLegible style depth (member :: more) →
  2 * (writtenMembers style (member :: more)).length < fuel →
  hookedMembers rejectDuplicateKeys fuel depth
      (writtenMembers style (member :: more) ++ '\x7d' :: rest) = .ok (member :: more, rest)

theorem ends_bracket (rest : List Char) : Ends (']' :: rest) := ends_cons (by decide)

theorem ends_brace (rest : List Char) : Ends ('\x7d' :: rest) := ends_cons (by decide)

theorem ends_comma (rest : List Char) : Ends (',' :: rest) := ends_cons (by decide)

theorem array_read {style : DumpStyle} (plain : Plain style) {fuel depth : Nat}
    (itemsRead : ReadsItems style fuel) (items : List Json) (rest : List Char)
    (legible : Legible style depth (.arr items))
    (enough : 2 * (written style (.arr items)).length ≤ fuel + 1) :
    hookedValue rejectDuplicateKeys (fuel + 1) depth (written style (.arr items) ++ rest) =
      .ok (.arr items, rest) := by
  cases depth with
  | zero =>
      rw [Legible] at legible
      exact legible.elim
  | succ depth =>
      rw [Legible] at legible
      rw [written_array, List.length_cons, List.length_append, List.length_singleton] at enough
      rw [written_array, List.cons_append, List.append_assoc, List.singleton_append, hookedValue]
      cases items with
      | nil => rfl
      | cons item more =>
          have inside := itemsRead depth item more rest legible (by omega)
          have opens := (items_open plain.unsorted more legible.1).append (']' :: rest)
          rw [opens.skip]
          split
          case h_1 after same =>
            obtain ⟨char, later, whole, -, apart⟩ := opens
            rw [whole] at same
            cases same
            exact absurd rfl apart
          case h_2 =>
            rw [inside]
            rfl

theorem object_read {style : DumpStyle} (plain : Plain style) {fuel depth : Nat}
    (membersRead : ReadsMembers style fuel) (members : List (String × Json)) (rest : List Char)
    (legible : Legible style depth (.obj members))
    (enough : 2 * (written style (.obj members)).length ≤ fuel + 1) :
    hookedValue rejectDuplicateKeys (fuel + 1) depth (written style (.obj members) ++ rest) =
      .ok (.obj members, rest) := by
  cases depth with
  | zero =>
      rw [Legible] at legible
      exact legible.elim
  | succ depth =>
      rw [Legible] at legible
      rw [written_object plain.unsorted, List.length_cons, List.length_append,
        List.length_singleton] at enough
      rw [written_object plain.unsorted, List.cons_append, List.append_assoc,
        List.singleton_append, hookedValue]
      cases members with
      | nil => rfl
      | cons member more =>
          have inside := membersRead depth member more rest legible.2 (by omega)
          have opens := (members_open style member more).append ('\x7d' :: rest)
          have unclosed : ∀ after, writtenMembers style (member :: more) ++ '\x7d' :: rest ≠
              '\x7d' :: after := by
            intro after same
            have first := members_head style member more ('\x7d' :: rest)
            rw [same] at first
            cases first
          rw [opens.skip]
          split
          case h_1 after same => exact absurd same (unclosed after)
          case h_2 =>
            have kept : rejectDuplicateKeys (member :: more) = .ok (.obj (member :: more)) :=
              reject_ok.2 ⟨legible.1, rfl⟩
            rw [inside, Except.bind, kept]
            rfl

theorem items_read {style : DumpStyle} (plain : Plain style) {fuel : Nat}
    (valuesRead : ReadsValues style fuel) (itemsRead : ReadsItems style fuel) :
    ReadsItems style (fuel + 1) := by
  intro depth item more rest legible enough
  obtain ⟨first, later⟩ := legible
  have positive := (value_opens plain.unsorted first).positive
  cases more with
  | nil =>
      rw [items_single] at enough ⊢
      rw [hookedItems, valuesRead depth item _ first (ends_bracket rest) (by omega)]
      rfl
  | cons next more =>
      have opens := (items_open plain.unsorted more later.1).append (']' :: rest)
      obtain ⟨blanks, comma, skipped⟩ := skip_comma plain opens
      have size : (writtenItems style (item :: next :: more)).length =
          (written style item).length + (style.itemSeparator.toList.length +
            (writtenItems style (next :: more)).length) := by
        rw [items_more, List.length_append, List.length_append]
      rw [items_more, List.append_assoc, List.append_assoc, comma]
      simp only [hookedItems, valuesRead depth item _ first (ends_comma _) (by omega),
        skip_visible (by decide : isWhite ',' = false), skipped,
        itemsRead depth next more rest later (by omega)]
      rfl

/-- A member up to what follows its value. -/
theorem member_read {style : DumpStyle} (plain : Plain style) {fuel depth : Nat}
    (valuesRead : ReadsValues style fuel) {member : String × Json} {rest : List Char}
    (legible : Legible style depth member.2) (ends : Ends rest)
    (enough : 2 * (written style member.2).length ≤ fuel) : ∃ quoted afterKey afterColon,
      writtenMember style member ++ rest = '"' :: quoted ∧
      parseString (quoted.length + 1) quoted = .ok (member.1.toList, afterKey) ∧
      skipWhite afterKey = ':' :: afterColon ∧
      hookedValue rejectDuplicateKeys fuel depth (skipWhite afterColon) = .ok (member.2, rest) := by
  have opens := (value_opens plain.unsorted legible).append rest
  obtain ⟨blanks, colon, skipped⟩ := skip_colon plain opens
  refine ⟨_, _, _, ?_, string_parsed member.1 (':' :: (blanks ++ (written style member.2 ++ rest))),
    skip_visible (by decide), ?_⟩
  · rw [writtenMember, quote_list, ← colon]
    simp
  · rw [skipped]
    exact valuesRead depth member.2 rest legible ends enough

theorem members_read {style : DumpStyle} (plain : Plain style) {fuel : Nat}
    (valuesRead : ReadsValues style fuel) (membersRead : ReadsMembers style fuel) :
    ReadsMembers style (fuel + 1) := by
  intro depth member more rest legible enough
  obtain ⟨first, later⟩ := legible
  have shorter : (written style member.2).length < (writtenMember style member).length := by
    have positive := (quote_opens member.1).positive
    rw [writtenMember, List.length_append, List.length_append]
    omega
  cases more with
  | nil =>
      rw [members_single] at enough ⊢
      obtain ⟨quoted, afterKey, afterColon, whole, key, colon, value⟩ :=
        member_read plain valuesRead first (ends_brace rest) (by omega)
      rw [whole]
      simp only [hookedMembers, key, colon, value,
        skip_visible (by decide : isWhite '\x7d' = false),
        String.ofList_toList]
  | cons next more =>
      have opens := (members_open style next more).append ('\x7d' :: rest)
      obtain ⟨blanks, comma, skipped⟩ := skip_comma plain opens
      have size : (writtenMembers style (member :: next :: more)).length =
          (writtenMember style member).length + (style.itemSeparator.toList.length +
            (writtenMembers style (next :: more)).length) := by
        rw [members_more, List.length_append, List.length_append]
      obtain ⟨quoted, afterKey, afterColon, whole, key, colon, value⟩ :=
        member_read plain valuesRead first
          (ends_comma (blanks ++ (writtenMembers style (next :: more) ++ '\x7d' :: rest)))
          (by omega)
      rw [members_more, List.append_assoc, List.append_assoc, comma, whole]
      simp only [hookedMembers, key, colon, value, skip_visible (by decide : isWhite ',' = false),
        String.ofList_toList, skipped, membersRead depth next more rest later (by omega)]
      rfl

theorem document_read {style : DumpStyle} (plain : Plain style) (fuel : Nat) :
    ReadsValues style fuel ∧ ReadsItems style fuel ∧ ReadsMembers style fuel := by
  induction fuel with
  | zero =>
      refine ⟨?_, fun _ _ _ _ _ enough => absurd enough (by omega),
        fun _ _ _ _ _ enough => absurd enough (by omega)⟩
      intro depth value rest legible ends enough
      have positive := (value_opens plain.unsorted legible).positive
      omega
  | succ fuel induction =>
      obtain ⟨values, items, members⟩ := induction
      refine ⟨?_, items_read plain values items, members_read plain values members⟩
      intro depth value rest legible ends enough
      cases value with
      | null => exact scalar_read reads_null fuel depth ends
      | bool value => exact scalar_read (reads_bool value) fuel depth ends
      | int value =>
          rw [Legible] at legible
          exact scalar_read (reads_integer value legible) fuel depth ends
      | float value =>
          rw [Legible] at legible
          exact scalar_read legible fuel depth ends
      | nonFinite literal =>
          rw [Legible] at legible
          exact scalar_read (reads_literal legible) fuel depth ends
      | str value => exact string_read fuel depth value rest
      | arr list => exact array_read plain items list rest legible enough
      | obj pairs => exact object_read plain members pairs rest legible enough

/-- The strict reading of a written document is the document. -/
theorem strict_loads_dumps {style : DumpStyle} (plain : Plain style) {limit : Nat} {value : Json}
    (legible : Legible style limit value) : strictLoads limit (dumps style value) = .ok value := by
  have opens := value_opens plain.unsorted legible
  have same : (dumps style value).toList = written style value := rfl
  have read := (document_read plain (2 * (written style value).length + 2)).1 limit value []
    legible ends_nil (Nat.le_add_right _ _)
  rw [List.append_nil] at read
  unfold strictLoads hookedLoads
  rw [same, opens.skip, read]
  rfl

/-- So is the plain one. -/
theorem loads_dumps {style : DumpStyle} (plain : Plain style) {limit : Nat} {value : Json}
    (legible : Legible style limit value) : loads limit (dumps style value) = .ok value := by
  have read := strict_loads_dumps plain legible
  rcases (strict_loads_agrees limit (dumps style value)).cases with ⟨key, named⟩ |
    ⟨error, strict, -⟩ | ⟨found, strict, same⟩
  · rw [read] at named
    cases named
  · rw [read] at strict
    cases strict
  · rw [read] at strict
    cases strict
    exact same

end OAuth2Server.JsonRoundTrip
