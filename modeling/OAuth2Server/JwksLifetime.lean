import OAuth2Server.Authorize

/-!
# How long a fetched key set is kept

`parse_cache_control_max_age` and `JwksCache` of `services/jwks_cache.py`. What
the client's server says is kept within bounds, unless its `max-age` is made of
digits that `int` does not read, its `charset` is no text encoding, or its
document nests too deep for the parser.
-/

namespace OAuth2Server.JwksLifetime

open OAuth2Server JsonText Effects Authorize

set_option autoImplicit false

/-! ### The header -/

def defaultTtlSecs : Int := 300

def minTtlSecs : Int := 30

def maxTtlSecs : Int := 86400

/-- The characters of Unicode's type Digit that are no decimal digits: first and last. -/
def otherDigits : List (Nat × Nat) :=
  [(178, 179), (185, 185), (4969, 4977), (6618, 6618), (8304, 8304), (8308, 8313), (8320, 8329),
    (9312, 9320), (9332, 9340), (9352, 9360), (9450, 9450), (9461, 9469), (9471, 9471),
    (10102, 10110), (10112, 10120), (10122, 10130), (68160, 68163), (69216, 69224),
    (69714, 69722), (127232, 127242)]

/-- `char.isdigit()`. -/
def isDigitChar (char : Char) : Bool :=
  decimalZeros.any (fun base => base ≤ char.toNat && char.toNat < base + 10) ||
    otherDigits.any fun range => range.1 ≤ char.toNat && char.toNat ≤ range.2

/-- `text.isdigit()`. -/
def strIsDigit (text : String) : Bool := !text.toList.isEmpty && text.toList.all isDigitChar

def clampTtl (secs : Int) : Int := min (max secs minTtlSecs) maxTtlSecs

/-- The value of the first `max-age` directive. -/
def maxAgeValue (raw : String) : Option String :=
  let parts := (Url.splitOn ',' raw.toList).map fun part => Text.strip (String.ofList part)
  (parts.find? fun directive => Text.startsWith directive "max-age=").map fun directive =>
    Text.drop directive 8

/-- The same of `headers.get("cache-control")`. -/
def headerMaxAge (header : Option String) : Option String :=
  (header.filter (· != "")).bind maxAgeValue

/-- `parse_cache_control_max_age`; `none` is `ValueError`. -/
def parseCacheControlMaxAge (header : Option String) : Option Int :=
  match headerMaxAge header with
  | none => some (clampTtl defaultTtlSecs)
  | some value =>
      if strIsDigit value then (pyInt value).map clampTtl else some (clampTtl defaultTtlSecs)

/-! ### The fetch -/

/-- `response.text`. The `charset` of the response may name a codec that is no
text encoding: some of these raise a `ValueError`, others (`rot13`, `hex`,
`zlib`) something else. -/
inductive Body where
  | text (content : String)
  | valueError
  | raises

/-- What comes of the request: an `httpx.HTTPError`, another exception such as
`httpx.InvalidURL`, which is none, or a response. -/
inductive Answer where
  | failed
  | raises
  | response (status : Nat) (cacheControl : Option String) (body : Body)

def fetchFailedMessage : String := "Failed to fetch jwks_uri"

def invalidDocumentMessage : String := "jwks_uri returned an invalid JWKS document"

/-- `isinstance(document, dict) and isinstance(document.get("keys"), list)`. -/
def isKeySet (document : Json) : Bool :=
  match document.get? "keys" with
  | some (.arr _) => true
  | _ => false

/-- `_fetch_from_url`: the document with its lifetime, the text of its `OAuthError`,
or `none` for an exception it does not catch. -/
def fetchFromUrl (recursionLimit : Nat) : Answer → Except (Option String) (Json × Int)
  | .failed => .error (some fetchFailedMessage)
  | .raises => .error none
  | .response status cacheControl body =>
      if !(200 ≤ status && status < 300) then .error (some fetchFailedMessage)
      else match parseCacheControlMaxAge cacheControl with
        | none => .error none
        | some ttl =>
            match body with
            | .raises => .error none
            | .valueError => .error (some invalidDocumentMessage)
            | .text content =>
                match loads recursionLimit content with
                | .error .recursion => .error none
                | .error _ => .error (some invalidDocumentMessage)
                | .ok document =>
                    if isKeySet document then .ok (document, ttl)
                    else .error (some invalidDocumentMessage)

/-- The server whose clients' servers answer so, in the order of its requests. -/
def serving (env : Env) (answers : Nat → String → Answer) : Env :=
  { env with platform := { env.platform with
      fetchFromUrl := fun request url =>
        fetchFromUrl env.platform.recursionLimit (answers request url) } }

/-! ### Digits -/

section Digits

/-- ASCII digits. -/
def AsciiDigits (text : String) : Prop := text ≠ "" ∧ ∀ char ∈ text.toList, isDigit char = true

instance (text : String) : Decidable (AsciiDigits text) :=
  inferInstanceAs (Decidable (_ ∧ _))

theorem digit_range {char : Char} (digit : isDigit char = true) :
    48 ≤ char.toNat ∧ char.toNat ≤ 57 := by
  unfold isDigit at digit
  rw [Bool.and_eq_true, decide_eq_true_eq, decide_eq_true_eq] at digit
  exact digit

theorem ascii_numeral_digit {char : Char} (digit : isDigit char = true) :
    asciiNumeral char = char := by
  have range := digit_range digit
  unfold asciiNumeral
  rw [if_pos (by omega)]

theorem ascii_is_digit {text : String} (digits : AsciiDigits text) : strIsDigit text = true := by
  have nonempty : text.toList ≠ [] := by
    intro empty
    exact digits.1 (String.toList_injective empty)
  unfold strIsDigit
  rw [Bool.and_eq_true, List.all_eq_true]
  constructor
  · simpa using nonempty
  · intro char member
    have range := digit_range (digits.2 char member)
    have small : (48 ≤ char.toNat && decide (char.toNat < 48 + 10)) = true := by
      rw [Bool.and_eq_true, decide_eq_true_eq, decide_eq_true_eq]
      omega
    unfold isDigitChar decimalZeros
    rw [List.any_cons, small]
    rfl

theorem drop_while_kept {blank : Char → Bool} {text : List Char}
    (kept : ∀ char ∈ text, blank char = false) : text.dropWhile blank = text := by
  cases text with
  | nil => rfl
  | cons char rest =>
      rw [List.dropWhile_cons, kept char List.mem_cons_self, if_neg Bool.false_ne_true]

/-- `int` reads a run of ASCII digits up to its limit. -/
theorem py_int_ascii {text : String} (digits : AsciiDigits text) :
    pyInt text =
      if text.toList.length ≤ intMaxStrDigits then some (digitsValue text.toList : Int) else none := by
  have numerals : text.toList.map asciiNumeral = text.toList := by
    have same : ∀ char ∈ text.toList, asciiNumeral char = id char :=
      fun char member => ascii_numeral_digit (digits.2 char member)
    rw [List.map_congr_left same, List.map_id]
  have solid : ∀ char ∈ text.toList,
      (char == ' ' || (9 ≤ char.toNat && decide (char.toNat ≤ 13))) = false := by
    intro char member
    have range := digit_range (digits.2 char member)
    have printed : char ≠ ' ' := by
      intro same
      rw [same] at range
      exact absurd range.1 (by decide)
    have high : decide (char.toNat ≤ 13) = false := decide_eq_false (by omega)
    rw [beq_eq_false_iff_ne.2 printed, high, Bool.and_false]
    rfl
  have reversed : ∀ char ∈ text.toList.reverse,
      (char == ' ' || (9 ≤ char.toNat && decide (char.toNat ≤ 13))) = false :=
    fun char member => solid char (List.mem_reverse.1 member)
  have nonempty : text.toList ≠ [] := fun empty => digits.1 (String.toList_injective empty)
  have unsigned : ∀ sign : Char, sign.toNat < 48 → text.toList.head? ≠ some sign := by
    intro sign low first
    have range := digit_range (digits.2 sign (List.mem_of_mem_head? first))
    omega
  have groups : Url.splitOn '_' text.toList = [text.toList] := by
    have clean : ∀ char ∈ text.toList, char ≠ '_' := by
      intro char member same
      have range := digit_range (digits.2 char member)
      rw [same] at range
      exact absurd range.2 (by decide)
    have found : Url.splitOn '_' [] = [] :: [] := rfl
    have joined := QueryText.split_on_append clean found
    simpa using joined
  have minus := beq_eq_false_iff_ne.2 (unsigned '-' (by decide))
  have plus := beq_eq_false_iff_ne.2 (unsigned '+' (by decide))
  have all : (text.toList.all isDigit) = true := List.all_eq_true.2 digits.2
  have full : (!text.toList.isEmpty) = true := by simpa using nonempty
  unfold pyInt
  dsimp only
  rw [numerals, drop_while_kept solid, drop_while_kept reversed, List.reverse_reverse, minus, plus,
    Bool.or_false, if_neg Bool.false_ne_true, groups]
  simp only [List.all_cons, List.all_nil, List.flatten_cons, List.flatten_nil, List.append_nil, all,
    full, Bool.and_true, Bool.true_and, decide_eq_true_eq, if_false, Bool.false_eq_true]

end Digits

/-! ### Bounds -/

/-- What the lifetime is said to be. -/
def advertisedLifetime (header : Option String) : Int :=
  match headerMaxAge header with
  | none => defaultTtlSecs
  | some value =>
      if AsciiDigits value then clampTtl (digitsValue value.toList) else defaultTtlSecs

/-- The value is not taken for digits, is a short run of ASCII ones, or is read as the
default. -/
def Readable (value : String) : Prop :=
  strIsDigit value = false ∨ (AsciiDigits value ∧ value.toList.length ≤ intMaxStrDigits) ∨
    pyInt value = some defaultTtlSecs

theorem clamp_range (secs : Int) :
    minTtlSecs ≤ clampTtl secs ∧ clampTtl secs ≤ maxTtlSecs := by
  unfold clampTtl minTtlSecs maxTtlSecs
  omega

theorem clamp_default {secs : Int} : clampTtl secs = defaultTtlSecs ↔ secs = defaultTtlSecs := by
  unfold clampTtl minTtlSecs maxTtlSecs defaultTtlSecs
  omega

theorem lifetime_in_range {header : Option String} {ttl : Int}
    (parsed : parseCacheControlMaxAge header = some ttl) :
    minTtlSecs ≤ ttl ∧ ttl ≤ maxTtlSecs := by
  unfold parseCacheControlMaxAge at parsed
  have clamped : ∃ secs, clampTtl secs = ttl := by
    split at parsed
    · exact ⟨_, Option.some.inj parsed⟩
    · split at parsed
      · obtain ⟨secs, _, same⟩ := Option.map_eq_some_iff.1 parsed
        exact ⟨secs, same⟩
      · exact ⟨_, Option.some.inj parsed⟩
  obtain ⟨secs, same⟩ := clamped
  rw [← same]
  exact clamp_range secs

/-- The lifetime is the advertised one exactly when the value is readable. -/
theorem lifetime_iff (header : Option String) :
    parseCacheControlMaxAge header = some (advertisedLifetime header) ↔
      ∀ value, headerMaxAge header = some value → Readable value := by
  unfold parseCacheControlMaxAge advertisedLifetime
  cases headerMaxAge header with
  | none =>
      apply iff_of_true
      · exact congrArg some (clamp_default.2 rfl)
      · intro value absent
        cases absent
  | some value =>
      simp only [Option.some.injEq, forall_eq']
      unfold Readable
      by_cases ascii : AsciiDigits value
      · rw [if_pos (ascii_is_digit ascii), if_pos ascii, py_int_ascii ascii, ascii_is_digit ascii]
        by_cases short : value.toList.length ≤ intMaxStrDigits
        · simp [short, ascii]
        · simp [short]
      · rw [if_neg ascii]
        cases counted : strIsDigit value with
        | false => simp [clamp_default]
        | true =>
            simp only [if_true, Option.map_eq_some_iff, clamp_default]
            simp [ascii]

theorem parse_raises_iff (header : Option String) :
    parseCacheControlMaxAge header = none ↔
      ∃ value, headerMaxAge header = some value ∧ strIsDigit value = true ∧ pyInt value = none := by
  unfold parseCacheControlMaxAge
  cases headerMaxAge header with
  | none => simp
  | some value =>
      simp only [Option.some.injEq, exists_eq_left']
      cases strIsDigit value <;> simp

/-- The text does not nest beyond what the parser bears, or there is none for a reason
that counts as an invalid document. -/
def Body.Bearable (recursionLimit : Nat) : Body → Prop
  | .text content => loads recursionLimit content ≠ .error .recursion
  | .valueError => True
  | .raises => False

/-- The request fails as `httpx` says it may, the status is not a success, or the header
is read and the body bearable. -/
def Bearable (recursionLimit : Nat) : Answer → Prop
  | .failed => True
  | .raises => False
  | .response status cacheControl body =>
      ¬(200 ≤ status ∧ status < 300) ∨
        ((∀ value, headerMaxAge cacheControl = some value → strIsDigit value = true →
            pyInt value ≠ none) ∧
          body.Bearable recursionLimit)

theorem fetch_escapes_iff (recursionLimit : Nat) (answer : Answer) :
    fetchFromUrl recursionLimit answer ≠ .error none ↔ Bearable recursionLimit answer := by
  cases answer with
  | failed => simp [fetchFromUrl, Bearable]
  | raises => simp [fetchFromUrl, Bearable]
  | response status cacheControl body =>
      unfold fetchFromUrl Bearable
      dsimp only
      have raised := parse_raises_iff cacheControl
      by_cases success : 200 ≤ status ∧ status < 300
      · rw [if_neg (by simpa using success)]
        cases parsed : parseCacheControlMaxAge cacheControl with
        | none =>
            obtain ⟨value, found, digits, unread⟩ := raised.1 parsed
            constructor
            · intro escapes
              exact absurd rfl escapes
            · rintro (failure | ⟨reads, _⟩)
              · exact absurd success failure
              · exact absurd unread (reads value found digits)
        | some ttl =>
            have reads : ∀ value, headerMaxAge cacheControl = some value →
                strIsDigit value = true → pyInt value ≠ none := by
              intro value found digits unread
              rw [parsed] at raised
              cases raised.2 ⟨value, found, digits, unread⟩
            unfold Body.Bearable
            cases body with
            | raises => simp [success]
            | valueError => exact iff_of_true (by simp) (Or.inr ⟨reads, trivial⟩)
            | text content =>
                dsimp only
                cases loaded : loads recursionLimit content with
                | error failure =>
                    cases failure with
                    | recursion => simp [success]
                    | decode => exact iff_of_true (by simp) (Or.inr ⟨reads, by simp⟩)
                    | digits => exact iff_of_true (by simp) (Or.inr ⟨reads, by simp⟩)
                | ok document =>
                    dsimp only
                    apply iff_of_true
                    · split <;> simp
                    · exact Or.inr ⟨reads, by simp⟩
      · have refused : (!(decide (200 ≤ status) && decide (status < 300))) = true := by
          rw [Bool.not_eq_true', Bool.and_eq_false_iff, decide_eq_false_iff_not,
            decide_eq_false_iff_not]
          omega
        rw [if_pos refused]
        exact iff_of_true (by simp) (Or.inl success)

/-- A document is held that has not expired. -/
def Cached (env : Env) (url : String) (world : World) : Prop :=
  ∃ entry, world.process.jwksCache.lookup url = some entry ∧
    env.platform.monotonic world.process.readings < entry.2

section Fetch

variable {env : Env} {answers : Nat → String → Answer} {url : String} {world : World}

theorem fetch_cached {entry : Json × ℚ} (held : world.process.jwksCache.lookup url = some entry)
    (live : env.platform.monotonic world.process.readings < entry.2) :
    ((serving env answers).interp (.ambient (.fetchJwks url)) world).1 = .ok entry.1 := by
  have kept : (world.process.jwksCache.lookup url).filter (fun entry =>
      decide ((serving env answers).platform.monotonic world.process.readings < entry.2)) =
        some entry := by
    rw [held, Option.filter_some]
    exact if_pos (decide_eq_true live)
  change ((Ambient.fetchJwks url).exec (serving env answers).platform world.process).1 = _
  simp only [Ambient.exec]
  rw [kept]

theorem fetch_uncached (missing : ¬Cached env url world) :
    ((serving env answers).interp (.ambient (.fetchJwks url)) world).1 =
      (fetchFromUrl env.platform.recursionLimit (answers world.process.requests url)).map
        Prod.fst := by
  have dropped : (world.process.jwksCache.lookup url).filter (fun entry =>
      decide ((serving env answers).platform.monotonic world.process.readings < entry.2)) =
        none := by
    rw [Option.filter_eq_none_iff]
    intro entry held live
    exact missing ⟨entry, held, of_decide_eq_true live⟩
  have answered : (serving env answers).platform.fetchFromUrl world.process.requests url =
      fetchFromUrl env.platform.recursionLimit (answers world.process.requests url) := rfl
  change ((Ambient.fetchJwks url).exec (serving env answers).platform world.process).1 = _
  simp only [Ambient.exec]
  rw [dropped]
  dsimp only
  rw [answered]
  rcases fetchFromUrl env.platform.recursionLimit (answers world.process.requests url) with
    description | ⟨document, ttl⟩
  · rfl
  · rfl

end Fetch

theorem map_raises_iff {α β ε : Type} (outcome : Except ε α) (change : α → β) (error : ε) :
    outcome.map change = .error error ↔ outcome = .error error := by
  cases outcome with
  | error other => simp [Except.map]
  | ok value => simp [Except.map]

/-- The lifetime is the advertised one exactly for readable values, is in range whenever
there is one, and a fetch raises nothing but `OAuthError` exactly when a document is held or
the answer is bearable. -/
theorem jwks_lifetime_iff (env : Env) (answers : Nat → String → Answer) (url : String)
    (world : World) :
    (∀ header, (parseCacheControlMaxAge header = some (advertisedLifetime header) ↔
      ∀ value, headerMaxAge header = some value → Readable value)) ∧
    (∀ header ttl, parseCacheControlMaxAge header = some ttl →
      minTtlSecs ≤ ttl ∧ ttl ≤ maxTtlSecs) ∧
    (((serving env answers).interp (.ambient (.fetchJwks url)) world).1 ≠ .error none ↔
      Cached env url world ∨
        Bearable env.platform.recursionLimit (answers world.process.requests url)) := by
  refine ⟨lifetime_iff, fun header ttl => lifetime_in_range, ?_⟩
  by_cases cached : Cached env url world
  · obtain ⟨entry, held, live⟩ := cached
    rw [fetch_cached held live]
    apply iff_of_true
    · intro raised
      cases raised
    · exact Or.inl ⟨entry, held, live⟩
  · rw [fetch_uncached cached, Ne, map_raises_iff]
    have bears := fetch_escapes_iff env.platform.recursionLimit
      (answers world.process.requests url)
    rw [← Ne, bears]
    simp [cached]

/-! A digit that `int` does not read. -/

def superscript : Option String := some "max-age=²"

/-- A response with the header ends the fetch with `ValueError`. -/
theorem superscript_escapes :
    parseCacheControlMaxAge superscript ≠ some (advertisedLifetime superscript) ∧
    fetchFromUrl 1000 (.response 200 superscript (.text "\x7b\"keys\": []\x7d")) = .error none := by
  have raised : parseCacheControlMaxAge superscript = none := by
    decide +kernel
  constructor
  · rw [raised]
    intro returned
    cases returned
  · unfold fetchFromUrl
    dsimp only
    rw [raised]
    rfl

end OAuth2Server.JwksLifetime
