import OAuth2Server.Authorize
import OAuth2Server.Delegation

/-!
# Parameters written in JSON

`authorization_details` and `claims` are texts of the client. Each check has one
documented error and raises it for every text it does not accept, but for one
kind: a text short enough to be parsed on which the parser raises a plain
`ValueError`, for an integer literal with more digits than the interpreter takes.
-/

namespace OAuth2Server.JsonParams

open OAuth2Server Models JsonText Effects Validation Authorize

set_option autoImplicit false

/-! ### The limits helper -/

/-- The parser raises a plain `ValueError` on a text within the length. -/
def TooManyDigits (env : Env) (raw : String) (maxLen : Nat) : Prop :=
  raw.toList.length ≤ maxLen ∧ loads env.platform.recursionLimit raw = .error .digits

/-- What `check_json_param` accepts. -/
structure Accepted (env : Env) (raw : String) (maxLen maxDepth : Nat) (value : Json) : Prop where
  short : raw.toList.length ≤ maxLen
  parsed : loads env.platform.recursionLimit raw = .ok value
  shallow : Delegation.depth value ≤ maxDepth

theorem check_len_cases (raw name : String) (maxLen : Nat) :
    (raw.toList.length ≤ maxLen ∧ checkLen raw name maxLen = .ok ()) ∨
      (maxLen < raw.toList.length ∧
        ∃ description, checkLen raw name maxLen = .error (.limit description)) := by
  unfold checkLen
  by_cases long : maxLen < raw.toList.length
  · rw [if_pos long]
    exact Or.inr ⟨long, _, rfl⟩
  · rw [if_neg long]
    exact Or.inl ⟨Nat.le_of_not_lt long, rfl⟩

theorem check_depth_cases (value : Json) (name : String) (maxDepth : Nat) :
    (Delegation.depth value ≤ maxDepth ∧ checkDepth value name maxDepth = .ok ()) ∨
      (¬Delegation.depth value ≤ maxDepth ∧
        checkDepth value name maxDepth = .error (.limit (depthMessage name maxDepth))) := by
  by_cases shallow : Delegation.depth value ≤ maxDepth
  · exact Or.inl ⟨shallow, (Delegation.check_depth_ok_iff value name maxDepth).2 shallow⟩
  · right
    apply And.intro shallow
    have refused := mt (Delegation.check_depth_ok_iff value name maxDepth).1 shallow
    unfold checkDepth at refused ⊢
    split
    · next within => exact absurd (if_pos within) refused
    · rfl

/-- How `check_json_param` ends: it accepts, refuses with one of its two
errors, or lets the `ValueError` through. -/
theorem check_json_param_cases (env : Env) (raw name : String) (maxLen maxDepth : Nat) :
    (∃ value, Accepted env raw maxLen maxDepth value ∧
        checkJsonParam env raw name maxLen maxDepth = .ok value) ∨
      ((∀ value, ¬Accepted env raw maxLen maxDepth value) ∧ ¬TooManyDigits env raw maxLen ∧
        (checkJsonParam env raw name maxLen maxDepth = .error .decode ∨
          ∃ description, checkJsonParam env raw name maxLen maxDepth =
            .error (.limit description))) ∨
      (TooManyDigits env raw maxLen ∧
        checkJsonParam env raw name maxLen maxDepth = .error .unhandled) := by
  unfold checkJsonParam
  rcases check_len_cases raw name maxLen with ⟨short, passed⟩ | ⟨long, description, refused⟩
  · rw [passed]
    cases parsed : loads env.platform.recursionLimit raw with
    | error failure =>
        have unaccepted : ∀ value, ¬Accepted env raw maxLen maxDepth value := by
          intro value accepted
          cases parsed.symm.trans accepted.parsed
        cases failure with
        | decode =>
            right
            left
            apply And.intro unaccepted
            apply And.intro
            · rintro ⟨-, digits⟩
              cases parsed.symm.trans digits
            · exact Or.inl rfl
        | recursion =>
            right
            left
            apply And.intro unaccepted
            apply And.intro
            · rintro ⟨-, digits⟩
              cases parsed.symm.trans digits
            · exact Or.inr ⟨_, rfl⟩
        | digits => exact Or.inr (Or.inr ⟨⟨short, parsed⟩, rfl⟩)
    | ok value =>
        rcases check_depth_cases value name maxDepth with ⟨shallow, walked⟩ | ⟨deep, walked⟩
        · left
          apply Exists.intro value
          apply And.intro ⟨short, parsed, shallow⟩
          show (checkDepth value name maxDepth >>= fun _ => pure value) = _
          rw [walked]
          rfl
        · right
          left
          apply And.intro
          · intro other accepted
            have same := parsed.symm.trans accepted.parsed
            cases same
            exact deep accepted.shallow
          apply And.intro
          · rintro ⟨-, digits⟩
            cases parsed.symm.trans digits
          · right
            apply Exists.intro (depthMessage name maxDepth)
            show (checkDepth value name maxDepth >>= fun _ => pure value) = _
            rw [walked]
            rfl
  · rw [refused]
    right
    left
    apply And.intro
    · intro value accepted
      have short := accepted.short
      omega
    apply And.intro
    · rintro ⟨short, -⟩
      omega
    · exact Or.inr ⟨description, rfl⟩

/-! ### `authorization_details` -/

/-- An entry of an allowed type. -/
def AllowedEntry (env : Env) (entry : Json) : Prop :=
  ∃ members kind, entry = .obj members ∧ members.lookup "type" = some (.str kind) ∧ kind ≠ "" ∧
    kind ∈ env.config.rarTypesSupported

/-- What `authorization_details` may be. -/
structure Details (env : Env) (raw : String) (entries : List Json) : Prop where
  accepted : Accepted env raw 16384 10 (.arr entries)
  nonempty : entries ≠ []
  allowed : ∀ entry ∈ entries, AllowedEntry env entry

/-- The check returns exactly the values it documents and raises its error for
every other text. -/
def DetailsDecided (env : Env) (raw : String) : Prop :=
  (∀ entries, validateAuthorizationDetails env raw = .ok entries ↔ Details env raw entries) ∧
    ((∀ entries, ¬Details env raw entries) →
      ∃ description, validateAuthorizationDetails env raw = .error (rarError description))

theorem check_entry_cases (env : Env) (members : List (String × Json)) :
    (AllowedEntry env (.obj members) ∧
        checkRarEntry env.config.rarTypesSupported (.obj members) = .ok ()) ∨
      (¬AllowedEntry env (.obj members) ∧
        ∃ description, checkRarEntry env.config.rarTypesSupported (.obj members) =
          .error (rarError description)) := by
  have member : (Json.obj members).get? "type" = members.lookup "type" := rfl
  have untyped : (∀ kind, members.lookup "type" ≠ some (.str kind)) →
      ¬AllowedEntry env (.obj members) ∧
        ∃ description, checkRarEntry env.config.rarTypesSupported (.obj members) =
          .error (rarError description) := by
    intro absent
    constructor
    · rintro ⟨others, kind, same, found, -⟩
      cases same
      exact absent kind found
    · unfold checkRarEntry
      rw [member]
      split
      · next kind found => exact absurd found (absent kind)
      · exact ⟨_, rfl⟩
  cases found : members.lookup "type" with
  | none =>
      right
      apply untyped
      intro kind same
      cases found.symm.trans same
  | some value =>
      cases value with
      | str kind =>
          unfold checkRarEntry
          rw [member, found]
          by_cases empty : kind = ""
          · right
            constructor
            · rintro ⟨others, other, same, typed, nonempty, -⟩
              cases same
              cases found.symm.trans typed
              exact nonempty empty
            · simp only [empty, beq_self_eq_true, if_true]
              exact ⟨_, rfl⟩
          · by_cases allowed : kind ∈ env.config.rarTypesSupported
            · left
              apply And.intro ⟨members, kind, rfl, found, empty, allowed⟩
              simp only [beq_iff_eq, empty, if_false, List.contains_iff_mem, allowed, if_true]
              rfl
            · right
              constructor
              · rintro ⟨others, other, same, typed, -, listed⟩
                cases same
                cases found.symm.trans typed
                exact allowed listed
              · simp only [beq_iff_eq, empty, if_false, List.contains_iff_mem, allowed]
                exact ⟨_, rfl⟩
      | null => exact Or.inr (untyped fun kind same => by cases found.symm.trans same)
      | bool _ => exact Or.inr (untyped fun kind same => by cases found.symm.trans same)
      | int _ => exact Or.inr (untyped fun kind same => by cases found.symm.trans same)
      | float _ => exact Or.inr (untyped fun kind same => by cases found.symm.trans same)
      | nonFinite _ => exact Or.inr (untyped fun kind same => by cases found.symm.trans same)
      | arr _ => exact Or.inr (untyped fun kind same => by cases found.symm.trans same)
      | obj _ => exact Or.inr (untyped fun kind same => by cases found.symm.trans same)

/-- The loop over the entries stops at the first that is not allowed. -/
theorem check_entries_cases (env : Env) {entries : List Json}
    (objects : ∀ entry ∈ entries, entry.isObj = true) :
    ((∀ entry ∈ entries, AllowedEntry env entry) ∧
        entries.forM (checkRarEntry env.config.rarTypesSupported) = .ok ()) ∨
      ((¬∀ entry ∈ entries, AllowedEntry env entry) ∧
        ∃ description, entries.forM (checkRarEntry env.config.rarTypesSupported) =
          .error (rarError description)) := by
  induction entries with
  | nil =>
      left
      apply And.intro _ rfl
      intro entry member
      cases member
  | cons entry later induction =>
      have isObject := objects entry List.mem_cons_self
      have others := induction fun other member => objects other (List.mem_cons_of_mem _ member)
      have step : (entry :: later).forM (checkRarEntry env.config.rarTypesSupported) =
          (checkRarEntry env.config.rarTypesSupported entry >>= fun _ =>
            later.forM (checkRarEntry env.config.rarTypesSupported)) := rfl
      rw [List.forall_mem_cons, step]
      cases entry with
      | obj members =>
          rcases check_entry_cases env members with ⟨allowed, passed⟩ | ⟨refused, description, raised⟩
          · rw [passed]
            rcases others with ⟨rest, passedRest⟩ | ⟨rest, description, raised⟩
            · exact Or.inl ⟨⟨allowed, rest⟩, passedRest⟩
            · exact Or.inr ⟨fun all => rest all.2, description, raised⟩
          · rw [raised]
            exact Or.inr ⟨fun all => refused all.1, description, rfl⟩
      | null => cases isObject
      | bool _ => cases isObject
      | int _ => cases isObject
      | float _ => cases isObject
      | nonFinite _ => cases isObject
      | str _ => cases isObject
      | arr _ => cases isObject

/-- The checks on a parsed value. -/
theorem details_of_value (env : Env) {raw : String} {value : Json}
    (accepted : Accepted env raw 16384 10 value)
    (parsed : checkJsonParam env raw "authorization_details" 16384 10 = .ok value) :
    (∃ entries, Details env raw entries ∧ validateAuthorizationDetails env raw = .ok entries) ∨
      ((∀ entries, ¬Details env raw entries) ∧
        ∃ description, validateAuthorizationDetails env raw = .error (rarError description)) := by
  have only : ∀ entries, Details env raw entries → value = .arr entries := by
    intro entries details
    exact Except.ok.inj (accepted.parsed.symm.trans details.accepted.parsed)
  have noList : (∀ entries, value ≠ .arr entries) →
      ((∀ entries, ¬Details env raw entries) ∧
        ∃ description, validateAuthorizationDetails env raw = .error (rarError description)) := by
    intro other
    constructor
    · intro entries details
      exact other entries (only entries details)
    · unfold validateAuthorizationDetails
      rw [parsed]
      cases value with
      | arr entries => exact absurd rfl (other entries)
      | _ => exact ⟨_, rfl⟩
  cases value with
  | arr entries =>
      have same : ∀ others, Details env raw others → others = entries := by
        intro others details
        exact (Json.arr.inj (only others details)).symm
      unfold validateAuthorizationDetails
      rw [parsed]
      dsimp only
      by_cases shaped : entries.isEmpty || !entries.all Json.isObj
      · right
        constructor
        · intro others details
          rw [same others details] at details
          have objects : entries.all Json.isObj = true := by
            apply List.all_eq_true.2
            intro entry member
            obtain ⟨members, -, object, -⟩ := details.allowed entry member
            rw [object]
            rfl
          have present : entries.isEmpty = false := by
            cases entries with
            | nil => exact absurd rfl details.nonempty
            | cons entry later => rfl
          rw [objects, present] at shaped
          cases shaped
        · rw [if_pos shaped]
          exact ⟨_, rfl⟩
      · rw [if_neg shaped]
        simp only [Bool.or_eq_true, Bool.not_eq_true', not_or, Bool.not_eq_false] at shaped
        have present : entries ≠ [] := by
          intro empty
          exact shaped.1 (by rw [empty]; rfl)
        rcases check_entries_cases env (List.all_eq_true.1 shaped.2) with
          ⟨allowed, passed⟩ | ⟨refused, description, raised⟩
        · left
          apply Exists.intro entries
          apply And.intro ⟨accepted, present, allowed⟩
          rw [passed]
          rfl
        · right
          constructor
          · intro others details
            rw [same others details] at details
            exact refused details.allowed
          · rw [raised]
            exact ⟨description, rfl⟩
  | null => exact Or.inr (noList fun entries same => by cases same)
  | bool _ => exact Or.inr (noList fun entries same => by cases same)
  | int _ => exact Or.inr (noList fun entries same => by cases same)
  | float _ => exact Or.inr (noList fun entries same => by cases same)
  | nonFinite _ => exact Or.inr (noList fun entries same => by cases same)
  | str _ => exact Or.inr (noList fun entries same => by cases same)
  | obj _ => exact Or.inr (noList fun entries same => by cases same)

theorem details_decided_iff (env : Env) (raw : String) :
    DetailsDecided env raw ↔ ¬TooManyDigits env raw 16384 := by
  rcases check_json_param_cases env raw "authorization_details" 16384 10 with
    ⟨value, accepted, parsed⟩ | ⟨refused, plain, raised⟩ | ⟨digits, raised⟩
  · have plain : ¬TooManyDigits env raw 16384 := by
      rintro ⟨-, digits⟩
      cases accepted.parsed.symm.trans digits
    apply iff_of_true _ plain
    rcases details_of_value env accepted parsed with
      ⟨entries, details, returned⟩ | ⟨none, description, raised⟩
    · constructor
      · intro others
        rw [returned]
        constructor
        · intro same
          cases same
          exact details
        · intro other
          have same := details.accepted.parsed.symm.trans other.accepted.parsed
          rw [Json.arr.inj (Except.ok.inj same)]
      · intro none
        exact absurd details (none entries)
    · constructor
      · intro entries
        rw [raised]
        constructor
        · intro impossible
          cases impossible
        · intro details
          exact absurd details (none entries)
      · intro _
        exact ⟨description, raised⟩
  · apply iff_of_true _ plain
    have outcome : ∃ description,
        validateAuthorizationDetails env raw = .error (rarError description) := by
      unfold validateAuthorizationDetails
      rcases raised with decode | ⟨description, limit⟩
      · rw [decode]
        exact ⟨_, rfl⟩
      · rw [limit]
        exact ⟨description, rfl⟩
    constructor
    · intro entries
      obtain ⟨description, failed⟩ := outcome
      rw [failed]
      constructor
      · intro impossible
        cases impossible
      · intro details
        exact absurd details.accepted (refused _)
    · intro _
      exact outcome
  · apply iff_of_false _ (not_not_intro digits)
    rintro ⟨-, documented⟩
    have none : ∀ entries, ¬Details env raw entries := by
      intro entries details
      cases digits.2.symm.trans details.accepted.parsed
    obtain ⟨description, failed⟩ := documented none
    unfold validateAuthorizationDetails at failed
    rw [raised] at failed
    cases failed

/-! ### `claims` -/

/-- The answer is an `invalid_request` error on the client's channel. -/
def InvalidRequest (env : Env) (channel : Channel) (answer : Response) : Prop :=
  ∃ description, answer = channel.deliverError env "invalid_request" (some description)

/-- On every channel the check passes an object within the limits and delivers
`invalid_request` for every other text. -/
def ClaimsDecided (env : Env) (raw : String) : Prop :=
  ∀ channel : Channel,
    ((∃ members, Accepted env raw 8192 10 (.obj members)) ∧
        checkClaimsRequest env channel (some raw) = .ok ()) ∨
      ((∀ members, ¬Accepted env raw 8192 10 (.obj members)) ∧
        ∃ answer, checkClaimsRequest env channel (some raw) = .error answer ∧
          InvalidRequest env channel answer)

/-- A channel whose redirect URI can be split delivers every error. -/
def plainChannel : Channel where
  mode := .query
  redirectUri := "https://app.example/cb"
  state := none

theorem plain_channel_delivers (env : Env) (error : String) (description : Option String) :
    (plainChannel.deliverError env error description).status = 302 := by
  have parts : (Url.urlsplit plainChannel.redirectUri).any fun parts => parts.fragment == "" := by
    decide +kernel
  unfold Channel.deliverError AuthorizeResponse.errorResponse AuthorizeResponse.deliver
  cases split : Url.urlsplit plainChannel.redirectUri with
  | none =>
      rw [split] at parts
      cases parts
  | some result =>
      rw [split] at parts
      have clean : result.fragment = "" := beq_iff_eq.1 parts
      simp only [clean, bne_self_eq_false, Bool.false_eq_true, if_false]
      rfl

theorem claims_decided_iff (env : Env) (raw : String) :
    ClaimsDecided env raw ↔ ¬TooManyDigits env raw 8192 := by
  rcases check_json_param_cases env raw "claims" 8192 10 with
    ⟨value, accepted, parsed⟩ | ⟨refused, plain, raised⟩ | ⟨digits, raised⟩
  · have plain : ¬TooManyDigits env raw 8192 := by
      rintro ⟨-, digits⟩
      cases accepted.parsed.symm.trans digits
    apply iff_of_true _ plain
    intro channel
    unfold checkClaimsRequest
    dsimp only
    rw [parsed]
    cases shape : value.isObj with
    | true =>
        cases value with
        | obj members => exact Or.inl ⟨⟨members, accepted⟩, rfl⟩
        | _ => cases shape
    | false =>
        right
        constructor
        · intro members object
          cases accepted.parsed.symm.trans object.parsed
          cases shape
        · dsimp only
          rw [shape]
          exact ⟨_, rfl, _, rfl⟩
  · apply iff_of_true _ plain
    intro channel
    right
    apply And.intro fun members => refused _
    unfold checkClaimsRequest
    dsimp only
    rcases raised with decode | ⟨description, limit⟩
    · rw [decode]
      exact ⟨_, rfl, _, rfl⟩
    · rw [limit]
      exact ⟨_, rfl, _, rfl⟩
  · apply iff_of_false _ (not_not_intro digits)
    intro decided
    have escaped : checkClaimsRequest env plainChannel (some raw) =
        .error internalServerError := by
      unfold checkClaimsRequest
      dsimp only
      rw [raised]
    rcases decided plainChannel with ⟨-, passed⟩ | ⟨-, answer, failed, description, delivered⟩
    · rw [escaped] at passed
      cases passed
    · rw [escaped] at failed
      have status := plain_channel_delivers env "invalid_request" (some description)
      rw [← delivered, ← Except.error.inj failed] at status
      cases status

/-- Both checks meet their documentation on a text exactly where the parser does
not raise a plain `ValueError` on it. -/
theorem json_params_decided_iff (env : Env) (details claims : String) :
    (DetailsDecided env details ∧ ClaimsDecided env claims) ↔
      (¬TooManyDigits env details 16384 ∧ ¬TooManyDigits env claims 8192) := by
  rw [details_decided_iff, claims_decided_iff]

/-! A text of 4301 ones. -/

theorem take_while_replicate (count : Nat) :
    (List.replicate count '1').takeWhile isDigit = List.replicate count '1' := by
  apply List.takeWhile_eq_self_iff.2
  intro char member
  rw [(List.mem_replicate.1 member).2]
  rfl

theorem drop_while_replicate (count : Nat) :
    (List.replicate count '1').dropWhile isDigit = [] := by
  apply List.dropWhile_eq_nil_iff.2
  intro char member
  rw [(List.mem_replicate.1 member).2]
  rfl

/-- More ones than the interpreter takes. -/
theorem loads_ones (limit count : Nat) (many : intMaxStrDigits ≤ count) :
    loads limit (String.ofList (List.replicate (count + 1) '1')) = .error .digits := by
  have scalar : parseScalar ('1' :: List.replicate count '1') = .error .digits := by
    have unnamed : (literals.find? fun literal =>
        literal.1.toList.isPrefixOf ('1' :: List.replicate count '1')) = none := rfl
    have whole : takeIntPart ('1' :: List.replicate count '1') =
        some ('1' :: List.replicate count '1', []) := by
      show some ('1' :: (List.replicate count '1').takeWhile isDigit,
        (List.replicate count '1').dropWhile isDigit) = _
      rw [take_while_replicate, drop_while_replicate]
    have long : intMaxStrDigits < ('1' :: List.replicate count '1').length := by
      rw [List.length_cons, List.length_replicate]
      omega
    unfold parseScalar
    rw [unnamed]
    unfold parseNumber
    have unsigned : (('1' :: List.replicate count '1').head? == some '-') = false := rfl
    simp only [unsigned, Bool.false_eq_true, if_false, whole, takeFraction, takeExponent,
      List.isEmpty_nil, Option.isNone_none, Bool.and_self, if_true, if_pos long]
  have visible : skipWhite ('1' :: List.replicate count '1') = '1' :: List.replicate count '1' := rfl
  unfold loads
  rw [String.toList_ofList, List.replicate_succ, visible, parseValue]
  · rw [scalar]
  all_goals intros; simp_all

theorem ones_escape :
    ¬(DetailsDecided Runs.sampleEnv (String.ofList (List.replicate 4301 '1')) ∧
      ClaimsDecided Runs.sampleEnv (String.ofList (List.replicate 4301 '1'))) := by
  have digits : TooManyDigits Runs.sampleEnv (String.ofList (List.replicate 4301 '1')) 16384 := by
    constructor
    · rw [String.toList_ofList, List.length_replicate]
      omega
    · exact loads_ones _ 4300 (Nat.le_refl _)
  rintro ⟨details, -⟩
  exact (details_decided_iff Runs.sampleEnv _).1 details digits

end OAuth2Server.JsonParams
