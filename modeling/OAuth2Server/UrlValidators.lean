import OAuth2Server.ClientUris
import OAuth2Server.Validation

/-!
# Which texts the URL validators decide

`validate_resource`, `is_valid_redirect_uri`, `is_valid_jwks_uri` and
`redirect_uri_matches` read texts of clients through `urlsplit`, whose
`ValueError` none of them catches. They decide every text with a well-formed
authority, but for a NUL in the host of a `jwks_uri` and a port that is none in
a registered loopback URI.
-/

namespace OAuth2Server.UrlValidators

open OAuth2Server Models Effects Url ClientUris Validation

set_option autoImplicit false

/-! ### The authority -/

/-- The text starts with a scheme and its colon. -/
def hasScheme (text : List Char) : Bool :=
  text.contains ':' && !(before ':' text).isEmpty &&
    ((before ':' text).head?.map isAsciiLetter).getD false && (before ':' text).all isSchemeChar

def afterScheme (text : List Char) : List Char := if hasScheme text then after ':' text else text

/-- The authority of a URL as the grammar has it. -/
def authority (url : String) : List Char :=
  let rest := afterScheme (cleaned url)
  if rest.take 2 == ['/', '/'] then netlocOf (rest.drop 2) else []

/-- Brackets come in pairs around an address, and no character normalises to a delimiter. -/
structure WellFormed (url : String) : Prop where
  balanced : '[' ∈ authority url ↔ ']' ∈ authority url
  address : '[' ∈ authority url → bracketsOk (authority url) = true
  stable : ∀ char ∈ authority url, foldsToDelimiter char = false

/-- `urlsplit` fails on the texts whose authority is not well formed, and on no other. -/
theorem urlsplit_some_iff (url : String) : (∃ parts, urlsplit url = some parts) ↔ WellFormed url := by
  have located : ∃ parts, urlsplit url =
      if (((authority url).contains '[' != (authority url).contains ']') ||
          ((authority url).contains '[' && (authority url).contains ']' &&
            !bracketsOk (authority url))) = true then none
      else if (authority url).any foldsToDelimiter = true then none else some parts :=
    ⟨_, rfl⟩
  obtain ⟨parts, split⟩ := located
  rw [split]
  constructor
  · rintro ⟨found, same⟩
    split at same
    · cases same
    next brackets =>
      split at same
      · cases same
      next folds =>
        simp only [Bool.or_eq_true, bne_iff_ne, ne_eq, Bool.and_eq_true, Bool.not_eq_true',
          not_or, not_not, not_and, Bool.not_eq_false] at brackets
        have both : '[' ∈ authority url ↔ ']' ∈ authority url := by
          rw [← List.contains_iff_mem, ← List.contains_iff_mem, brackets.1]
        constructor
        · exact both
        · intro opened
          exact brackets.2 ⟨List.contains_iff_mem.2 opened, List.contains_iff_mem.2 (both.1 opened)⟩
        · intro char member
          have unfolded := List.any_eq_false.1 (Bool.eq_false_of_not_eq_true folds) char member
          exact Bool.eq_false_of_not_eq_true unfolded
  · intro formed
    have same : (authority url).contains '[' = (authority url).contains ']' := by
      apply Bool.eq_iff_iff.2
      rw [List.contains_iff_mem, List.contains_iff_mem]
      exact formed.balanced
    have stable : (authority url).any foldsToDelimiter = false := by
      apply List.any_eq_false.2
      intro char member
      rw [formed.stable char member]
      exact Bool.false_ne_true
    rw [if_neg, if_neg]
    · exact ⟨parts, rfl⟩
    · rw [stable]
      exact Bool.false_ne_true
    · rw [same, bne_self_eq_false, Bool.false_or, Bool.and_self]
      intro refused
      rw [Bool.and_eq_true, Bool.not_eq_true'] at refused
      have opened := formed.balanced.2 (List.contains_iff_mem.1 refused.1)
      rw [formed.address opened] at refused
      cases refused.2

/-! ### What may still fail -/

/-- The host of a `jwks_uri` is handed to `inet_aton` and holds a NUL: nothing
before has refused the URI or read the host as an address. -/
structure NulHost (lower : String → String) (url : String) (parts : SplitResult) : Prop where
  split : urlsplit url = some parts
  https : parts.scheme = "https"
  located : parts.netloc ≠ ""
  whole : parts.fragment = "" ∧ endsWith url.toList ['#'] = false
  named : endsWith (hostname lower parts) ".localhost".toList = false
  unread : ipAddress (hostname lower parts) = none
  nul : '\x00' ∈ hostname lower parts

/-- A registered loopback URI without a readable port, and a requested one that
has the same scheme and host. -/
structure BadPort (lower : String → String) (reg req : SplitResult) : Prop where
  http : reg.scheme = "http"
  scheme : req.scheme = reg.scheme
  literal : hostname lower reg ∈ loopbackIpLiterals
  host : hostname lower req = hostname lower reg
  unreadable : port reg = none

/-- Each validator answers, or raises its documented error. -/
structure Decided (lower : String → String) (registered url : String) : Prop where
  resource : validateResource (some url) = .ok (some url) ∨
    ∃ error description, validateResource (some url) = .error (.oauth error description)
  redirect : ∃ answer, isValidRedirectUri url = some answer
  jwks : ∃ answer, isValidJwksUri lower url = some answer
  matching : ∃ answer, redirectUriMatches lower registered url = some answer

/-- The texts every validator decides. -/
structure Readable (lower : String → String) (registered url : String) : Prop where
  formed : WellFormed url
  host : ∀ parts, ¬NulHost lower url parts
  registered : url = registered ∨ (WellFormed registered ∧
    ∀ reg req, urlsplit registered = some reg → urlsplit url = some req → ¬BadPort lower reg req)

/-! ### One validator at a time -/

theorem redirect_decided_iff (url : String) :
    (∃ answer, isValidRedirectUri url = some answer) ↔ WellFormed url := by
  rw [← urlsplit_some_iff]
  unfold isValidRedirectUri
  cases urlsplit url with
  | none =>
      constructor
      · rintro ⟨answer, impossible⟩
        cases impossible
      · rintro ⟨parts, impossible⟩
        cases impossible
  | some parts => exact iff_of_true ⟨_, rfl⟩ ⟨parts, rfl⟩

theorem resource_decided {url : String} (formed : WellFormed url) :
    validateResource (some url) = .ok (some url) ∨
      ∃ error description, validateResource (some url) = .error (.oauth error description) := by
  obtain ⟨parts, split⟩ := (urlsplit_some_iff url).2 formed
  unfold validateResource checkLen
  dsimp only
  by_cases long : 2048 < url.toList.length
  · rw [if_pos long]
    exact Or.inr ⟨_, _, rfl⟩
  · rw [if_neg long, split]
    dsimp only
    split
    · exact Or.inr ⟨_, _, rfl⟩
    · exact Or.inl rfl

theorem nul_is_no_digit {text : List Char} (nul : '\x00' ∈ text) :
    isDigits (text.filter (· != '.')) = false := by
  apply Bool.eq_false_of_not_eq_true
  intro digits
  unfold isDigits at digits
  rw [Bool.and_eq_true] at digits
  have kept : '\x00' ∈ text.filter (· != '.') := List.mem_filter.2 ⟨nul, by decide⟩
  have listed := List.all_eq_true.1 digits.2 _ kept
  revert listed
  decide

/-- The verdict on the host of an https URL without a fragment. -/
def hostVerdict (host : List Char) : Option Bool := do
  if host.isEmpty then return false
  if host == "localhost".toList || endsWith host ".localhost".toList then return false
  if isDigits (host.filter (· != '.')) then return false
  match ipAddress host with
  | some address => return !isLocal (unmapped address)
  | none =>
      match ← looseIpv4 host with
      | none => return true
      | some address => return !isLocal (unmapped address)

theorem host_verdict_none_iff (host : List Char) :
    hostVerdict host = none ↔ endsWith host ".localhost".toList = false ∧ ipAddress host = none ∧
      '\x00' ∈ host := by
  unfold hostVerdict
  constructor
  · intro failed
    split at failed
    · cases failed
    split at failed
    · cases failed
    next named =>
      split at failed
      · cases failed
      rw [Bool.or_eq_true, not_or] at named
      apply And.intro (Bool.eq_false_of_not_eq_true named.2)
      cases address : ipAddress host with
      | some address =>
          rw [address] at failed
          cases failed
      | none =>
          apply And.intro rfl
          rw [address] at failed
          unfold looseIpv4 at failed
          by_contra absent
          rw [if_neg (by rwa [List.contains_iff_mem])] at failed
          cases loose : inetAton host with
          | none =>
              rw [loose] at failed
              cases failed
          | some value =>
              rw [loose] at failed
              cases failed
  · rintro ⟨named, unread, nul⟩
    have present : host.isEmpty = false := by
      cases host with
      | nil => cases nul
      | cons char later => rfl
    have other : (host == "localhost".toList) = false := by
      apply beq_eq_false_iff_ne.2
      intro same
      rw [same] at nul
      revert nul
      decide
    have loose : looseIpv4 host = none := by
      unfold looseIpv4
      rw [if_pos (List.contains_iff_mem.2 nul)]
    rw [present, other, named, nul_is_no_digit nul, unread, loose]
    rfl

/-- The checks before the host is looked at. -/
theorem jwks_verdict (lower : String → String) (url : String) (parts : SplitResult)
    (split : urlsplit url = some parts) :
    isValidJwksUri lower url =
      if parts.scheme = "https" ∧ parts.netloc ≠ "" ∧ parts.fragment = "" ∧
          endsWith url.toList ['#'] = false then hostVerdict (hostname lower parts)
      else some false := by
  unfold isValidJwksUri
  rw [split]
  simp only [Option.bind_eq_bind, Option.bind_some]
  by_cases https : parts.scheme = "https"
  · by_cases located : parts.netloc = ""
    · rw [if_pos (by rw [located]; simp), if_neg (fun all => all.2.1 located)]
      rfl
    · rw [if_neg (by simp [https, located])]
      by_cases whole : parts.fragment = "" ∧ endsWith url.toList ['#'] = false
      · have checks : parts.scheme = "https" ∧ parts.netloc ≠ "" ∧ parts.fragment = "" ∧
            endsWith url.toList ['#'] = false := ⟨https, located, whole⟩
        rw [if_pos checks, if_neg (by simp [whole.1, whole.2])]
        rfl
      · have checks : ¬(parts.scheme = "https" ∧ parts.netloc ≠ "" ∧ parts.fragment = "" ∧
            endsWith url.toList ['#'] = false) := fun all => whole all.2.2
        rw [if_neg checks, if_pos]
        · rfl
        · by_cases plain : parts.fragment = ""
          · have ended : ¬endsWith url.toList ['#'] = false := fun same => whole ⟨plain, same⟩
            simp [plain, ended]
          · simp [plain]
  · rw [if_pos (by simp [https]), if_neg fun all => https all.1]
    rfl

theorem jwks_decided_iff (lower : String → String) {url : String} (formed : WellFormed url) :
    (∃ answer, isValidJwksUri lower url = some answer) ↔ ∀ parts, ¬NulHost lower url parts := by
  obtain ⟨parts, split⟩ := (urlsplit_some_iff url).2 formed
  rw [← Option.isSome_iff_exists, ← Option.ne_none_iff_isSome, jwks_verdict lower url parts split]
  constructor
  · intro answered other nul
    have same : other = parts := Option.some.inj (nul.split.symm.trans split)
    rw [same] at nul
    rw [if_pos ⟨nul.https, nul.located, nul.whole⟩] at answered
    exact answered ((host_verdict_none_iff _).2 ⟨nul.named, nul.unread, nul.nul⟩)
  · intro clean
    split
    next checks =>
      intro failed
      obtain ⟨named, unread, nul⟩ := (host_verdict_none_iff _).1 failed
      exact clean parts ⟨split, checks.1, checks.2.1, checks.2.2, named, unread, nul⟩
    · exact Option.some_ne_none _

theorem loopback_matches_none_iff (lower : String → String) (reg req : SplitResult) :
    loopbackMatches lower reg req = none ↔ BadPort lower reg req := by
  unfold loopbackMatches
  constructor
  · intro failed
    split at failed
    · cases failed
    next schemes =>
      dsimp only at failed
      split at failed
      · cases failed
      next hosts =>
        simp only [Bool.or_eq_true, bne_iff_ne, ne_eq, not_or, not_not, Bool.not_eq_true',
          Bool.not_eq_false, List.contains_iff_mem] at schemes hosts
        apply BadPort.mk schemes.1 schemes.2.symm hosts.1 hosts.2.symm
        cases read : port reg with
        | none => rfl
        | some number =>
            rw [read] at failed
            cases number <;> cases failed
  · intro bad
    have schemes : (reg.scheme != "http" || reg.scheme != req.scheme) = false := by
      rw [bad.http, bad.scheme, bad.http]
      rfl
    have hosts : (!loopbackIpLiterals.contains (hostname lower reg) ||
        hostname lower reg != hostname lower req) = false := by
      rw [bad.host, List.contains_iff_mem.2 bad.literal, bne_self_eq_false]
      rfl
    rw [schemes]
    simp only [Bool.false_eq_true, if_false, hosts, bad.unreadable]
    rfl

theorem matching_decided_iff (lower : String → String) {registered url : String}
    (formed : WellFormed url) :
    (∃ answer, redirectUriMatches lower registered url = some answer) ↔
      (url = registered ∨ (WellFormed registered ∧ ∀ reg req, urlsplit registered = some reg →
        urlsplit url = some req → ¬BadPort lower reg req)) := by
  by_cases same : url = registered
  · apply iff_of_true _ (Or.inl same)
    apply Exists.intro true
    unfold redirectUriMatches
    rw [same, beq_self_eq_true, if_pos rfl]
    rfl
  · obtain ⟨req, split⟩ := (urlsplit_some_iff url).2 formed
    have steps : redirectUriMatches lower registered url =
        (urlsplit registered).bind fun reg => (urlsplit url).bind fun req =>
          loopbackMatches lower reg req := by
      simp only [redirectUriMatches, loopbackMatches, beq_iff_eq, same]
      rfl
    rw [steps, split, ← urlsplit_some_iff registered, or_iff_right same]
    cases registeredSplit : urlsplit registered with
    | none =>
        constructor
        · rintro ⟨answer, impossible⟩
          cases impossible
        · rintro ⟨⟨reg, impossible⟩, -⟩
          cases impossible
    | some reg =>
        rw [Option.bind_some, Option.bind_some, ← Option.isSome_iff_exists,
          ← Option.ne_none_iff_isSome, ne_eq, loopback_matches_none_iff]
        constructor
        · intro readable
          apply And.intro ⟨reg, rfl⟩
          intro other another found alsoFound
          rw [← Option.some.inj found, ← Option.some.inj alsoFound]
          exact readable
        · rintro ⟨-, readable⟩
          exact readable reg req rfl rfl

/-- The validators decide a text exactly where it is `Readable`. A text is a sequence of
scalar values: for a host with a lone surrogate `inet_aton` raises a
`UnicodeEncodeError`, which `except OSError` misses as it misses the error for a null
character. -/
theorem url_validators_decide_iff (lower : String → String) (registered url : String) :
    Decided lower registered url ↔ Readable lower registered url := by
  constructor
  · intro decided
    have formed := (redirect_decided_iff url).1 decided.redirect
    exact ⟨formed, (jwks_decided_iff lower formed).1 decided.jwks,
      (matching_decided_iff lower formed).1 decided.matching⟩
  · intro readable
    have formed := readable.formed
    exact ⟨resource_decided formed, (redirect_decided_iff url).2 formed,
      (jwks_decided_iff lower formed).2 readable.host,
      (matching_decided_iff lower formed).2 readable.registered⟩

/-- An open bracket is enough. -/
theorem open_bracket_escapes :
    ¬∀ (lower : String → String) (registered url : String), Decided lower registered url := by
  intro always
  have decided := always Text.lower "https://app.example/cb" "https://["
  have formed := (redirect_decided_iff _).1 decided.redirect
  have opened : '[' ∈ authority "https://[" ∧ ']' ∉ authority "https://[" := by decide +kernel
  exact opened.2 (formed.balanced.1 opened.1)

end OAuth2Server.UrlValidators
