import OAuth2Server.QueryText
import OAuth2Server.UrlValidators

/-!
# Hosts of accepted key URIs

An accepted `jwks_uri` names no local address, in any spelling `ipaddress` or
`inet_aton` reads; the two never read one host differently. Of the names of the
local machine it admits one kind: those written with the root dot, or with
capitals where the host keeps its case.
-/

namespace OAuth2Server.JwksUriHosts

open OAuth2Server Url ClientUris UrlValidators

set_option autoImplicit false

/-! ### The two readings of an address -/

theorem intercalate_split_on (delimiter : Char) (text : List Char) :
    [delimiter].intercalate (splitOn delimiter text) = text := by
  induction text with
  | nil => rfl
  | cons char later induction =>
      rw [QueryText.split_on_cons]
      cases pieces : splitOn delimiter later with
      | nil => exact absurd pieces (QueryText.split_on_ne_nil delimiter later)
      | cons part rest =>
          rw [pieces] at induction
          split
          next same =>
            rw [List.intercalate_cons_cons, induction, beq_iff_eq.1 same]
            rfl
          · rw [← induction]
            cases rest with
            | nil => simp
            | cons next others => simp

/-- A decimal digit has one value in every base. -/
theorem hex_digit_of_digit {char : Char} (digit : isAsciiDigit char = true) :
    Text.hexDigit char = some (char.toNat - '0'.toNat) := by
  unfold isAsciiDigit at digit
  rw [Bool.and_eq_true, decide_eq_true_eq, decide_eq_true_eq] at digit
  unfold Text.hexDigit
  rw [if_pos digit]

theorem numeral_of_digits {digits : List Char} (all : digits.all isAsciiDigit = true) :
    numeral 10 digits = digits.foldl (fun total digit => total * 10 + (digit.toNat - '0'.toNat)) 0 := by
  have each : ∀ (rest : List Char) (start : Nat), rest.all isAsciiDigit = true →
      rest.foldl (fun total digit => total * 10 + (Text.hexDigit digit).getD 0) start =
        rest.foldl (fun total digit => total * 10 + (digit.toNat - '0'.toNat)) start := by
    intro rest
    induction rest with
    | nil =>
        intro start _
        rfl
    | cons digit later induction =>
        intro start valid
        rw [List.all_cons, Bool.and_eq_true] at valid
        rw [List.foldl_cons, List.foldl_cons, hex_digit_of_digit valid.1]
        exact induction _ valid.2
  exact each digits 0 all

/-- What an octet is made of. -/
structure Octet (octet : List Char) : Prop where
  present : octet ≠ []
  digits : ∀ char ∈ octet, isAsciiDigit char = true
  plain : octet.head? = some '0' → octet = ['0']
  small : numeral 10 octet ≤ 255

theorem octet_of_is_octet {text : List Char} (valid : isOctet text = true) : Octet text := by
  unfold isOctet at valid
  simp only [Bool.and_eq_true, Bool.not_eq_true', decide_eq_true_eq] at valid
  obtain ⟨⟨⟨⟨present, -⟩, digits⟩, leading⟩, small⟩ := valid
  constructor
  · intro empty
    rw [empty] at present
    cases present
  · exact List.all_eq_true.1 digits
  · intro zero
    rw [zero] at leading
    simp only [beq_self_eq_true, Bool.and_true, decide_eq_false_iff_not] at leading
    cases text with
    | nil => cases zero
    | cons char later =>
        cases later with
        | nil =>
            cases Option.some.inj zero
            rfl
        | cons next others =>
            rw [List.length_cons, List.length_cons] at leading
            omega
  · rw [numeral_of_digits digits]
    exact small

/-- What may follow an octet: nothing, or a dot. -/
def Stops (rest : List Char) : Prop := rest = [] ∨ ∃ more, rest = '.' :: more

theorem take_digits {octet rest : List Char} (digits : ∀ char ∈ octet, isAsciiDigit char = true)
    (stops : Stops rest) :
    (octet ++ rest).takeWhile isAsciiDigit = octet ∧
      (octet ++ rest).dropWhile isAsciiDigit = rest := by
  have none : rest.takeWhile isAsciiDigit = [] ∧ rest.dropWhile isAsciiDigit = rest := by
    rcases stops with empty | ⟨more, dotted⟩
    · rw [empty]
      exact ⟨rfl, rfl⟩
    · rw [dotted]
      exact ⟨rfl, rfl⟩
  rw [List.takeWhile_append_of_pos digits, List.dropWhile_append_of_pos digits, none.1, none.2,
    List.append_nil]
  exact ⟨rfl, rfl⟩

theorem strtoul_octet {octet rest : List Char} (valid : Octet octet) (stops : Stops rest) :
    strtoul (octet ++ rest) = (numeral 10 octet, rest) := by
  have cut := take_digits valid.digits stops
  cases octet with
  | nil => exact absurd rfl valid.present
  | cons char later =>
      by_cases zero : char = '0'
      · have whole := valid.plain (by rw [zero]; rfl)
        rw [whole]
        rcases stops with empty | ⟨more, dotted⟩
        · rw [empty]
          rfl
        · rw [dotted]
          rfl
      · have decimal : strtoul (char :: later ++ rest) =
            (numeral 10 ((char :: later ++ rest).takeWhile isAsciiDigit),
              (char :: later ++ rest).dropWhile isAsciiDigit) := by
          rw [List.cons_append]
          unfold strtoul
          split
          next mark others same =>
            exact absurd (List.head_eq_of_cons_eq same) zero
          · rfl
        rw [decimal, cut.1, cut.2]

theorem octet_head {octet rest : List Char} (valid : Octet octet) :
    ((octet ++ rest).head?.map isAsciiDigit).getD false = true := by
  cases octet with
  | nil => exact absurd rfl valid.present
  | cons char later => exact valid.digits char List.mem_cons_self

theorem inet_aton_part {octet more : List Char} (valid : Octet octet) (parts : Nat)
    {seen : List Nat} (room : seen.length < 3) :
    inetAtonFrom (parts + 1) seen (octet ++ '.' :: more) =
      inetAtonFrom parts (seen ++ [numeral 10 octet]) more := by
  have small := valid.small
  rw [inetAtonFrom, octet_head valid, strtoul_octet valid (Or.inr ⟨more, rfl⟩)]
  simp only [Bool.not_true, Bool.false_eq_true, if_false]
  rw [if_neg (by omega), if_neg]
  rw [Bool.or_eq_true, decide_eq_true_eq, decide_eq_true_eq]
  omega

theorem inet_aton_last {octet : List Char} (valid : Octet octet) (parts : Nat)
    {seen : List Nat} (full : seen.length = 3) :
    inetAtonFrom (parts + 1) seen octet =
      some (seen.foldl (fun total byte => total * 256 + byte) 0 * 256 + numeral 10 octet) := by
  have small := valid.small
  have head := @octet_head octet [] valid
  have read := strtoul_octet valid (Or.inl rfl : Stops [])
  rw [List.append_nil] at head read
  rw [inetAtonFrom, head, read]
  simp only [Bool.not_true, Bool.false_eq_true, if_false, full]
  rw [if_neg (by omega)]
  show (if (true && decide (numeral 10 octet < 256 ^ (4 - 3))) = true then _ else none) = _
  have fits : (true && decide (numeral 10 octet < 256 ^ (4 - 3))) = true := by
    rw [Bool.true_and, decide_eq_true_eq]
    show numeral 10 octet < 256
    omega
  exact if_pos fits

/-- A standard dotted address is read as itself by `inet_aton`. -/
theorem inet_aton_ipv4 {host : List Char} (standard : isIPv4 host = true) :
    inetAton host = some (ipv4Value host) := by
  unfold isIPv4 at standard
  rw [Bool.and_eq_true, beq_iff_eq] at standard
  have text := intercalate_split_on '.' host
  unfold inetAton ipv4Value
  match octets : splitOn '.' host with
  | [] => rw [octets] at standard; cases standard.1
  | [_] => rw [octets] at standard; cases standard.1
  | [_, _] => rw [octets] at standard; cases standard.1
  | [_, _, _] => rw [octets] at standard; cases standard.1
  | first :: second :: third :: fourth :: fifth :: more =>
      rw [octets] at standard
      have long := standard.1
      rw [List.length_cons, List.length_cons, List.length_cons, List.length_cons,
        List.length_cons] at long
      omega
  | [first, second, third, fourth] =>
      rw [octets] at text standard
      have valid := fun octet member => octet_of_is_octet (List.all_eq_true.1 standard.2 octet member)
      have written : host = first ++ '.' :: (second ++ '.' :: (third ++ '.' :: fourth)) := by
        rw [← text]
        simp
      rw [written, inet_aton_part (valid first (by simp)) _ (by decide),
        inet_aton_part (valid second (by simp)) _ (by simp),
        inet_aton_part (valid third (by simp)) _ (by simp),
        inet_aton_last (valid fourth (by simp)) _ (by simp)]
      rfl

/-- Dropping from a text stops at the latest at what is not dropped. -/
theorem drop_while_stops {drops : Char → Bool} {stop : Char} (stops : drops stop = false)
    (part more : List Char) :
    ∃ char rest, (part ++ stop :: more).dropWhile drops = char :: rest ∧
      (char ∈ part ∨ char = stop) := by
  induction part with
  | nil =>
      apply Exists.intro stop
      apply Exists.intro more
      apply And.intro _ (Or.inr rfl)
      rw [List.nil_append, List.dropWhile_cons, stops]
      rfl
  | cons char later induction =>
      by_cases dropped : drops char = true
      · obtain ⟨first, rest, same, located⟩ := induction
        apply Exists.intro first
        apply Exists.intro rest
        rw [List.cons_append, List.dropWhile_cons, if_pos dropped]
        exact ⟨same, located.imp (List.mem_cons_of_mem char) id⟩
      · apply Exists.intro char
        apply Exists.intro (later ++ stop :: more)
        rw [List.cons_append, List.dropWhile_cons, if_neg dropped]
        exact ⟨rfl, Or.inl List.mem_cons_self⟩

theorem hex_or_colon {char : Char} (known : isHexDigit char = true ∨ char = ':') :
    char ≠ '.' ∧ isCSpace char = false := by
  rcases known with hex | colon
  · constructor
    · rintro rfl
      revert hex
      decide
    · apply Bool.eq_false_of_not_eq_true
      intro space
      unfold isCSpace at space
      rw [Bool.or_eq_true, beq_iff_eq, Bool.and_eq_true, decide_eq_true_eq,
        decide_eq_true_eq] at space
      rcases space with blank | control
      · rw [blank] at hex
        revert hex
        decide
      · have each : ∀ code : Fin 14, isHexDigit (Char.ofNat code.val) = false := by decide
        have clean := each ⟨char.toNat, by omega⟩
        rw [Char.ofNat_toNat, hex] at clean
        cases clean
  · rw [colon]
    decide

/-- What is left after a number at the start of hex digits and a colon. -/
theorem strtoul_hextet {part more : List Char} (hex : ∀ char ∈ part, isHexDigit char = true) :
    ∃ char rest, (strtoul (part ++ ':' :: more)).2 = char :: rest ∧ char ≠ '.' ∧
      isCSpace char = false := by
  have cut : ∀ drops : Char → Bool, drops ':' = false → ∃ char rest,
      (part ++ ':' :: more).dropWhile drops = char :: rest ∧ char ≠ '.' ∧
        isCSpace char = false := by
    intro drops stops
    obtain ⟨char, rest, same, located⟩ := drop_while_stops stops part more
    exact ⟨char, rest, same, hex_or_colon (located.imp (hex char) id)⟩
  unfold strtoul
  split
  next mark others same =>
    have unmarked : (mark == 'x' || mark == 'X') = false := by
      have known : mark ∈ part ∨ mark = ':' := by
        cases part with
        | nil =>
            have first := List.head_eq_of_cons_eq same
            cases first
        | cons char later =>
            have tail := List.tail_eq_of_cons_eq same
            cases later with
            | nil => exact Or.inr (List.head_eq_of_cons_eq tail).symm
            | cons next rest =>
                left
                rw [← List.head_eq_of_cons_eq tail]
                exact List.mem_cons_of_mem _ List.mem_cons_self
      apply Bool.eq_false_of_not_eq_true
      intro marked
      rw [Bool.or_eq_true, beq_iff_eq, beq_iff_eq] at marked
      rcases known with inside | colon
      · have digit := hex mark inside
        rcases marked with small | capital
        · rw [small] at digit
          revert digit
          decide
        · rw [capital] at digit
          revert digit
          decide
      · rw [colon] at marked
        revert marked
        decide
    rw [unmarked, Bool.false_and]
    exact cut (fun char => '0' ≤ char && char ≤ '7') (by decide)
  · exact cut isAsciiDigit (by decide)

/-- A text that starts with hex digits and a colon is no legacy address. -/
theorem inet_aton_hextet {part more : List Char} (hex : ∀ char ∈ part, isHexDigit char = true) :
    inetAton (part ++ ':' :: more) = none := by
  unfold inetAton
  rw [inetAtonFrom]
  split
  · rfl
  · obtain ⟨char, rest, left, dotless, spaceless⟩ := @strtoul_hextet part more hex
    generalize strtoul (part ++ ':' :: more) = number at left ⊢
    obtain ⟨value, remaining⟩ := number
    dsimp only at left ⊢
    rw [left]
    split
    · rfl
    · split
      next others same => exact absurd (List.head_eq_of_cons_eq same) dotless
      · have stopped : ((char :: rest).head?.map isCSpace).getD true = false := spaceless
        rw [stopped, Bool.false_and]
        rfl

/-- The first part of an IPv6 address is empty or a hextet. -/
theorem ipv6_first_part {body : List Char} (standard : isIPv6Body body = true) :
    ∃ part more, body = part ++ ':' :: more ∧ ∀ char ∈ part, isHexDigit char = true := by
  have text := intercalate_split_on ':' body
  unfold isIPv6Body at standard
  extract_lets raw last dotted parts inner gaps high low first final at standard
  simp only [Bool.and_eq_true, decide_eq_true_eq] at standard
  obtain ⟨⟨⟨long, -⟩, -⟩, shape⟩ := standard
  change [':'].intercalate raw = body at text
  match listed : raw with
  | [] =>
      rw [List.length_nil] at long
      omega
  | [_] =>
      rw [List.length_singleton] at long
      omega
  | [_, _] =>
      rw [List.length_cons, List.length_singleton] at long
      omega
  | part :: next :: third :: others =>
      apply Exists.intro part
      apply Exists.intro ([':'].intercalate (next :: third :: others))
      constructor
      · rw [← text]
        simp
      · have opening : ∃ rest, parts = part :: rest := by
          simp only [parts]
          split
          · rw [listed]
            exact ⟨_, rfl⟩
          · rw [listed]
            exact ⟨_, rfl⟩
        obtain ⟨rest, opened⟩ := opening
        have firstPart : first = part := by
          simp only [first]
          rw [opened]
          rfl
        have hextet : isHextet part = true ∨ part = [] := by
          split at shape
          · rw [Bool.and_eq_true] at shape
            left
            apply List.all_eq_true.1 shape.2
            rw [opened]
            exact List.mem_cons_self
          · rw [firstPart] at shape
            simp only [Bool.and_eq_true] at shape
            have checked := shape.1.1.1.1
            split at checked
            next none => exact Or.inr (List.isEmpty_iff.1 none)
            · exact Or.inl checked
          · cases shape
        intro char member
        rcases hextet with valid | none
        · unfold isHextet at valid
          rw [Bool.and_eq_true] at valid
          exact List.all_eq_true.1 valid.2 char member
        · rw [none] at member
          cases member

theorem inet_aton_ipv6 {host : List Char} (standard : isIPv6 host = true) : inetAton host = none := by
  unfold isIPv6 at standard
  simp only [Bool.and_eq_true] at standard
  obtain ⟨part, more, body, hex⟩ := ipv6_first_part standard.1.2
  have whole : host = before '%' host ++ host.dropWhile (· != '%') :=
    (List.takeWhile_append_dropWhile).symm
  rw [whole, body, List.append_assoc, List.cons_append]
  exact inet_aton_hextet hex

/-! ### Hosts -/

/-- The host spells an address, in a standard spelling or a legacy one. -/
def Spells (host : List Char) (address : Address) : Prop :=
  ipAddress host = some address ∨ ∃ value, inetAton host = some value ∧ address = .v4 value

/-- No host spells two addresses. -/
theorem spells_unique {host : List Char} {address : Address} (read : ipAddress host = some address)
    {other : Address} (spelled : Spells host other) : other = address := by
  rcases spelled with standard | ⟨value, legacy, same⟩
  · exact Option.some.inj (standard.symm.trans read)
  · unfold ipAddress at read
    split at read
    next dotted =>
      rw [inet_aton_ipv4 dotted] at legacy
      rw [same, ← Option.some.inj legacy]
      exact Option.some.inj read
    · split at read
      next colons =>
        rw [inet_aton_ipv6 colons] at legacy
        cases legacy
      · cases read

/-- A name of the local machine, with or without the root dot. -/
def LocalhostName (name : List Char) : Prop :=
  name = "localhost".toList ∨ name = "localhost.".toList ∨
    endsWith name ".localhost".toList = true ∨ endsWith name ".localhost.".toList = true

/-- The host of a URL as it is written. -/
def rawHost (parsed : SplitResult) : List Char :=
  let hostinfo := afterLast '@' parsed.netloc.toList
  if hostinfo.contains '[' then before ']' (after '[' hostinfo) else before ':' hostinfo

/-- The host with the case of its letters ignored. -/
def caseless (lower : String → String) (parsed : SplitResult) : List Char :=
  (lower (String.ofList (rawHost parsed))).toList

/-- The host is no name and no address of the local machine. -/
structure Remote (lower : String → String) (parsed : SplitResult) : Prop where
  name : ¬LocalhostName (caseless lower parsed)
  address : ∀ address, Spells (hostname lower parsed) address → isLocal (unmapped address) = false

/-- Every accepted URI has a host of another machine. -/
def AcceptsRemote (lower : String → String) (url : String) : Prop :=
  isValidJwksUri lower url = some true →
    ∃ parsed, urlsplit url = some parsed ∧ Remote lower parsed

/-- The two names the code compares the host with. -/
def Compared (host : List Char) : Prop :=
  host = "localhost".toList ∨ endsWith host ".localhost".toList = true

/-- An https URI without a fragment whose host is neither a number nor a local
address, and is a name of the local machine other than the two that are
compared: it has the root dot, or capitals where the host keeps its case. -/
structure Masked (lower : String → String) (url : String) (parsed : SplitResult) : Prop where
  https : parsed.scheme = "https"
  located : parsed.netloc ≠ ""
  whole : parsed.fragment = "" ∧ endsWith url.toList ['#'] = false
  present : hostname lower parsed ≠ []
  unnumbered : isDigits ((hostname lower parsed).filter (· != '.')) = false
  nulless : ipAddress (hostname lower parsed) = none → '\x00' ∉ hostname lower parsed
  address : ∀ address, Spells (hostname lower parsed) address → isLocal (unmapped address) = false
  name : LocalhostName (caseless lower parsed)
  missed : ¬Compared (hostname lower parsed)

/-- What the host of an accepted URI passes. -/
theorem host_verdict_true_iff (host : List Char) :
    hostVerdict host = some true ↔ host ≠ [] ∧ ¬Compared host ∧
      isDigits (host.filter (· != '.')) = false ∧ (ipAddress host = none → '\x00' ∉ host) ∧
      ∀ address, Spells host address → isLocal (unmapped address) = false := by
  have compared : (host == "localhost".toList || endsWith host ".localhost".toList) = true ↔
      Compared host := by
    unfold Compared
    rw [Bool.or_eq_true, beq_iff_eq]
  unfold hostVerdict
  by_cases empty : host = []
  · rw [empty]
    constructor
    · intro accepted
      cases accepted
    · rintro ⟨present, -⟩
      exact absurd rfl present
  have present : host.isEmpty = false := by
    apply Bool.eq_false_of_not_eq_true
    rw [List.isEmpty_iff]
    exact empty
  rw [present]
  by_cases named : Compared host
  · rw [if_pos (compared.2 named)]
    constructor
    · intro accepted
      cases accepted
    · rintro ⟨-, unnamed, -⟩
      exact absurd named unnamed
  rw [if_neg (mt compared.1 named)]
  by_cases digits : isDigits (host.filter (· != '.')) = true
  · rw [if_pos digits]
    constructor
    · intro accepted
      cases accepted
    · rintro ⟨-, -, unnumbered, -⟩
      rw [digits] at unnumbered
      cases unnumbered
  rw [if_neg digits]
  have unnumbered := Bool.eq_false_of_not_eq_true digits
  cases read : ipAddress host with
  | some address =>
      constructor
      · intro accepted
        have remote : (!isLocal (unmapped address)) = true := Option.some.inj accepted
        rw [Bool.not_eq_true'] at remote
        apply And.intro empty
        apply And.intro named
        apply And.intro unnumbered
        constructor
        · intro impossible
          cases impossible
        · intro other spelled
          rw [spells_unique read spelled]
          exact remote
      · rintro ⟨-, -, -, -, remote⟩
        have far := remote address (Or.inl read)
        show some (!isLocal (unmapped address)) = some true
        rw [far]
        rfl
  | none =>
      unfold looseIpv4
      by_cases nul : '\x00' ∈ host
      · rw [if_pos (List.contains_iff_mem.2 nul)]
        constructor
        · intro impossible
          cases impossible
        · rintro ⟨-, -, -, nulless, -⟩
          exact absurd nul (nulless rfl)
      · rw [if_neg (mt List.contains_iff_mem.1 nul)]
        cases legacy : inetAton host with
        | none =>
            apply iff_of_true rfl
            apply And.intro empty
            apply And.intro named
            apply And.intro unnumbered
            apply And.intro fun _ => nul
            rintro address (standard | ⟨value, found, -⟩)
            · cases read.symm.trans standard
            · cases legacy.symm.trans found
        | some value =>
            constructor
            · intro accepted
              have remote : (!isLocal (unmapped (.v4 value))) = true := Option.some.inj accepted
              rw [Bool.not_eq_true'] at remote
              apply And.intro empty
              apply And.intro named
              apply And.intro unnumbered
              apply And.intro fun _ => nul
              rintro address (standard | ⟨other, found, same⟩)
              · cases read.symm.trans standard
              · rw [same, ← Option.some.inj (legacy.symm.trans found)]
                exact remote
            · rintro ⟨-, -, -, -, remote⟩
              have far := remote (.v4 value) (Or.inr ⟨value, legacy, rfl⟩)
              show some (!isLocal (unmapped (.v4 value))) = some true
              rw [far]
              rfl

/-- Accepted URIs have hosts of other machines exactly where the URI is not a
masked one. -/
theorem accepted_hosts_remote_iff (lower : String → String) (url : String) :
    AcceptsRemote lower url ↔ ∀ parsed, urlsplit url = some parsed → ¬Masked lower url parsed := by
  constructor
  · intro remote parsed split masked
    have accepted : isValidJwksUri lower url = some true := by
      rw [jwks_verdict lower url parsed split,
        if_pos ⟨masked.https, masked.located, masked.whole⟩, host_verdict_true_iff]
      exact ⟨masked.present, masked.missed, masked.unnumbered, masked.nulless, masked.address⟩
    obtain ⟨other, found, far⟩ := remote accepted
    rw [Option.some.inj (found.symm.trans split)] at far
    exact far.name masked.name
  · intro unmasked accepted
    cases split : urlsplit url with
    | none =>
        unfold isValidJwksUri at accepted
        rw [split] at accepted
        cases accepted
    | some parsed =>
        rw [jwks_verdict lower url parsed split] at accepted
        split at accepted
        next checks =>
          obtain ⟨present, missed, unnumbered, nulless, address⟩ :=
            (host_verdict_true_iff _).1 accepted
          apply Exists.intro parsed
          apply And.intro rfl
          constructor
          · intro name
            exact unmasked parsed split ⟨checks.1, checks.2.1, checks.2.2, present, unnumbered,
              nulless, address, name, missed⟩
          · exact address
        · cases accepted

/-- The root dot is enough. -/
theorem root_dot_accepted : ¬∀ url : String, AcceptsRemote Text.lower url := by
  intro always
  obtain ⟨accepted, named⟩ :
      isValidJwksUri Text.lower "https://localhost./jwks" = some true ∧
        (urlsplit "https://localhost./jwks").map (caseless Text.lower) =
          some "localhost.".toList := by
    decide +kernel
  obtain ⟨parsed, split, far⟩ := always "https://localhost./jwks" accepted
  rw [split] at named
  exact far.name (Or.inr (Or.inl (Option.some.inj named)))

end OAuth2Server.JwksUriHosts
