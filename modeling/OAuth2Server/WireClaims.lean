import OAuth2Server.KeySet
import OAuth2Server.ReferenceJwt
import OAuth2Server.TokenBinding

/-!
# Access-token claims on the wire

`Claims.to_payload` writes a single audience as a bare string and drops the
fields that are unset; `decode_access_token` finds the key again and reads the
claims back as they were.
-/

namespace OAuth2Server.WireClaims

open OAuth2Server Models JsonText Storage Effects Interaction Interaction.Program
open ClientAuth Issuance KeySet ReferenceJwt Runs TokenBinding

set_option autoImplicit false

/-! ### The payload -/

/-- The types of the fields that hold documents. -/
structure Typed (claims : Claims) : Prop where
  cnf : ∀ value, claims.cnf = some value → value.isObj = true
  details : ∀ items, claims.authorizationDetails = some items → ∀ item ∈ items, item.isObj = true
  act : ∀ value, claims.act = some value → value.isObj = true

section Payload

variable {env : Env} {claims : Claims}

/-- The members after the required ones. -/
theorem payload_lookup (claims : Claims) (name : String)
    (other : ["sub", "iss", "aud", "exp", "iat", "scope", "jti"].contains name = false) :
    (payloadMembers claims).lookup name =
      (optionalMember "client_id" (claims.clientId.map .str) ++ (optionalMember "cnf" claims.cnf ++
        (optionalMember "authorization_details" (claims.authorizationDetails.map .arr) ++
          (optionalMember "act" claims.act ++ [])))).lookup name := by
  simp only [List.contains_cons, List.contains_nil, Bool.or_eq_false_iff] at other
  obtain ⟨sub, iss, aud, exp, iat, scope, identifier, -⟩ := other
  unfold payloadMembers
  simp only [List.append_assoc, List.cons_append, List.nil_append, List.lookup_cons, sub, iss, aud,
    exp, iat, scope, identifier, List.append_nil]

theorem optional_lookup {name : String} (value : Option Json) {rest : List (String × Json)}
    (absent : rest.lookup name = none) : (optionalMember name value ++ rest).lookup name = value := by
  cases value with
  | none => exact absent
  | some json => simp [optionalMember]

theorem payload_client (claims : Claims) :
    (payloadMembers claims).lookup "client_id" = claims.clientId.map .str := by
  rw [payload_lookup claims _ (by decide)]
  apply optional_lookup
  rw [lookup_optional _ _ (by decide), lookup_optional _ _ (by decide),
    lookup_optional _ _ (by decide)]
  rfl

theorem payload_details (claims : Claims) :
    (payloadMembers claims).lookup "authorization_details" =
      claims.authorizationDetails.map .arr := by
  rw [payload_lookup claims _ (by decide), lookup_optional _ _ (by decide),
    lookup_optional _ _ (by decide)]
  apply optional_lookup
  rw [lookup_optional _ _ (by decide)]
  rfl

theorem payload_act (claims : Claims) : (payloadMembers claims).lookup "act" = claims.act := by
  rw [payload_lookup claims _ (by decide), lookup_optional _ _ (by decide),
    lookup_optional _ _ (by decide), lookup_optional _ _ (by decide)]
  exact optional_lookup _ rfl

theorem payload_not_before (claims : Claims) : (payloadMembers claims).lookup "nbf" = none := by
  rw [payload_lookup claims _ (by decide), lookup_optional _ _ (by decide),
    lookup_optional _ _ (by decide), lookup_optional _ _ (by decide),
    lookup_optional _ _ (by decide)]
  rfl

theorem dict_field {payload : List (String × Json)} {name : String} {value : Option Json}
    (found : payload.lookup name = value)
    (object : ∀ json, value = some json → json.isObj = true) :
    optionalField payload name asDict = some value := by
  unfold optionalField
  rw [found]
  cases value with
  | none => rfl
  | some json =>
      have dict := object json rfl
      cases json with
      | obj members => rfl
      | _ => cases dict

theorem dicts_read {items : List Json} (objects : ∀ item ∈ items, item.isObj = true) :
    items.mapM asDict = some items := by
  induction items with
  | nil => rfl
  | cons item rest induction =>
      have first : asDict item = some item := if_pos (objects item List.mem_cons_self)
      have others := induction fun other member => objects other (List.mem_cons_of_mem _ member)
      simp [List.mapM_cons, first, others]

theorem audience_read (nonempty : claims.aud ≠ []) :
    audienceList (payloadMembers claims) = some claims.aud := by
  unfold audienceList
  rw [payload_aud]
  generalize claims.aud = audience at nonempty ⊢
  rcases audience with _ | ⟨first, _ | ⟨second, rest⟩⟩
  · exact absurd rfl nonempty
  · rfl
  · exact str_of_strs _

theorem details_read (typed : Typed claims) :
    optionalField (payloadMembers claims) "authorization_details" asDictList =
      some claims.authorizationDetails := by
  unfold optionalField
  rw [payload_details]
  cases objects : claims.authorizationDetails with
  | none => rfl
  | some items =>
      have read := dicts_read (typed.details items objects)
      change (items.mapM asDict).map some = _
      rw [read]
      rfl

/-- Claims are read back from their payload. -/
theorem claims_of_payload (ints : ∀ number, env.platform.coerceInt (.int number) = some number)
    (typed : Typed claims) (nonempty : claims.aud ≠ []) :
    claimsOf env (payloadMembers claims) = some claims := by
  have cnf : optionalField (payloadMembers claims) "cnf" asDict = some claims.cnf :=
    dict_field (payload_cnf claims) typed.cnf
  have act : optionalField (payloadMembers claims) "act" asDict = some claims.act :=
    dict_field (payload_act claims) typed.act
  have details := details_read typed
  have client : optionalField (payloadMembers claims) "client_id" Json.str? =
      some claims.clientId := by
    unfold optionalField
    rw [payload_client]
    cases claims.clientId <;> rfl
  have text : textMember (payloadMembers claims) "sub" = some claims.sub ∧
      textMember (payloadMembers claims) "iss" = some claims.iss ∧
      textMember (payloadMembers claims) "scope" = some claims.scope ∧
      textMember (payloadMembers claims) "jti" = some claims.jti := ⟨rfl, rfl, rfl, rfl⟩
  obtain ⟨sub, iss, scope, identifier⟩ := text
  have exp : ((payloadMembers claims).lookup "exp").bind env.platform.coerceInt =
      some claims.exp := ints claims.exp
  have iat : ((payloadMembers claims).lookup "iat").bind env.platform.coerceInt =
      some claims.iat := ints claims.iat
  unfold claimsOf
  rw [sub, iss, audience_read nonempty, exp, iat, scope, identifier, client, cnf, details, act]
  rfl

/-- Between its dates a payload passes the checks of the library. -/
theorem payload_current {now : Instant} (issued : (claims.iat : ℚ) ≤ epochSeconds now)
    (unexpired : epochSeconds now < claims.exp) :
    Current (payloadMembers claims) claims.iss now where
  issuer := rfl
  subject := ⟨_, rfl⟩
  identifier := ⟨_, rfl⟩
  expiry := ⟨_, rfl, unexpired⟩
  issuedAt := ⟨_, rfl, issued⟩
  notBefore := payload_not_before claims

end Payload

/-! ### The keys -/

/-- The readings of the clock that a decoding can make. -/
def Throughout (env : Env) (world : World) (holds : Instant → Prop) : Prop :=
  ∀ reading, world.process.readings ≤ reading → reading ≤ world.process.readings + 1 →
    holds (env.platform.clock reading)

/-- The world after some readings of the clock. -/
def after (readings : Nat) (world : World) : World :=
  { world with process := { world.process with readings := world.process.readings + readings } }

section Keys

variable {env : Env} {world : World}

theorem is_active_run {ε : Type} {key : SigningKey}
    (active : Throughout env world fun now => activeAt now key = true) :
    ∃ readings ≤ 1, (isActive key : Program Server ε Bool).run env.interp world =
      (.ok true, after readings world) := by
  have reading := active world.process.readings (le_refl _) (Nat.le_succ _)
  unfold isActive
  unfold activeAt at reading
  cases expiry : key.expiresAt with
  | none => exact ⟨0, Nat.zero_le 1, rfl⟩
  | some expiresAt =>
      rw [expiry] at reading
      dsimp only at reading ⊢
      refine ⟨1, le_refl 1, ?_⟩
      rw [run_ambient_bind]
      change (Except.ok (decide (env.platform.clock world.process.readings < expiresAt)), _) = _
      rw [reading]
      rfl

/-- An active key is found by its id among keys with different ones. -/
theorem find_run {ε : Type} {keys : List SigningKey} {key : SigningKey}
    (distinct : keys.Pairwise fun one other => one.kid ≠ other.kid) (member : key ∈ keys)
    (active : Throughout env world fun now => activeAt now key = true) :
    ∃ readings ≤ 1, (KeySet.find key.kid keys : Program Server ε (Option SigningKey)).run
      env.interp world = (.ok (some key), after readings world) := by
  induction keys with
  | nil => cases member
  | cons first rest induction =>
      obtain ⟨apart, distinct⟩ := List.pairwise_cons.1 distinct
      unfold KeySet.find
      rcases List.mem_cons.1 member with same | later
      · rw [← same, beq_self_eq_true, if_pos rfl]
        obtain ⟨readings, few, ran⟩ := is_active_run (ε := ε) active
        refine ⟨readings, few, ?_⟩
        rw [run_bind, ran]
        rfl
      · have other : (first.kid == key.kid) = false := by
          simpa using apart key later
        rw [other, if_neg Bool.false_ne_true]
        exact induction distinct later

end Keys

/-! ### Decoding -/

/-- `decode_access_token` without a key set. -/
def decodeWithoutKeySet (env : Env) (token secret issuer : String) :
    Program Server DecodeError Claims := do
  let .ok header := env.platform.jwt.unverifiedHeader token | throw .pyjwt
  if textMember header "typ" != some "at+JWT" then
    throw .pyjwt
  let payload ← decodeOrRaise env token issuer (.secret (Text.utf8Encode secret.toList)) "HS256"
  match claimsOf env payload with
  | some claims => pure claims
  | none => throw .validation

section Decoding

variable {env : Env} {world : World} {claims : Claims}

/-- The claims are in force at a time. -/
def InForce (claims : Claims) (now : Instant) : Prop :=
  (claims.iat : ℚ) ≤ epochSeconds now ∧ epochSeconds now < claims.exp

theorem decode_or_raise_run {token issuer alg : String} {key : VerifyKey}
    {payload : List (String × Json)}
    (verified : decodeWith env token issuer key alg (env.platform.clock world.process.readings) =
      .ok payload) :
    (decodeOrRaise env token issuer key alg).run env.interp world =
      (.ok payload, after 1 world) := by
  unfold decodeOrRaise
  rw [run_ambient_bind]
  have reading : (Ambient.exec env.platform world.process .now).1 =
      env.platform.clock world.process.readings := rfl
  rw [reading, verified]
  rfl

/-- The header of an encoded token. -/
theorem header_read (signs : SignsAndVerifies env.platform.jwt) {material : List Nat} {alg : String}
    {headers : List (String × String)} (typed : headers.lookup "typ" = some "at+JWT") :
    ∃ header,
      env.platform.jwt.unverifiedHeader (env.platform.jwt.encode (.obj (payloadMembers claims))
        material alg headers) = .ok header ∧
      textMember header "typ" = some "at+JWT" ∧
      ∀ kid, headers.lookup "kid" = some kid → textMember header "kid" = some kid := by
  obtain ⟨header, read, members⟩ := signs.header (payloadMembers claims) material alg headers
  refine ⟨header, read, ?_, ?_⟩
  · unfold textMember
    rw [members "typ" "at+JWT" (by decide) typed]
    rfl
  · intro kid named
    unfold textMember
    rw [members "kid" kid (by decide) named]
    rfl

/-- What was signed with a key is verified with it. -/
theorem verify_key_accepts (signs : SignsAndVerifies env.platform.jwt) {key : SigningKey}
    (listed : key.algorithm = "HS256" ∨ key.algorithm = "RS256")
    (usable : env.platform.jwt.usable key.keyMaterial key.algorithm = true)
    (headers : List (String × String)) :
    ∃ verifyKey, verifyKeyOf env key = .ok verifyKey ∧
      ∀ now, InForce claims now →
        decodeWith env (env.platform.jwt.encode (.obj (payloadMembers claims)) key.keyMaterial
          key.algorithm headers) claims.iss verifyKey key.algorithm now =
            .ok (payloadMembers claims) := by
  unfold verifyKeyOf
  rcases listed with secret | rsa
  · rw [secret] at usable ⊢
    refine ⟨.secret key.keyMaterial, rfl, ?_⟩
    intro now force
    exact signs.secret _ _ headers _ _ usable (payload_current force.1 force.2)
  · rw [rsa] at usable ⊢
    obtain ⟨document, derived, accepts⟩ := signs.rsa _ usable
    refine ⟨.jwk "RSA" document, ?_, ?_⟩
    · rw [derived]
      rfl
    · intro now force
      exact accepts _ headers _ _ (payload_current force.1 force.2)

theorem jwt_encode_usable {payload : Json} {material : List Nat} {alg token : String}
    {headers : List (String × String)}
    (encoded : jwtEncode env payload material alg headers = some token) :
    env.platform.jwt.usable material alg = true ∧
      env.platform.jwt.encode payload material alg headers = token := by
  unfold jwtEncode at encoded
  split at encoded
  · rename_i usable
    exact ⟨usable, Option.some.inj encoded⟩
  · cases encoded

/-- An encoded token is signed with usable material. -/
theorem encode_usable {key : SigningKey} {token : String}
    (encoded : encodeAccessToken env claims (some key) = some token) :
    env.platform.jwt.usable key.keyMaterial key.algorithm = true ∧
      env.platform.jwt.encode (.obj (payloadMembers claims)) key.keyMaterial key.algorithm
        [("typ", "at+JWT"), ("kid", key.kid)] = token :=
  jwt_encode_usable encoded

theorem encode_usable_secret {token : String}
    (encoded : encodeAccessToken env claims none = some token) :
    env.platform.jwt.usable (Text.utf8Encode env.config.jwtSecret.toList) "HS256" = true ∧
      env.platform.jwt.encode (.obj (payloadMembers claims))
        (Text.utf8Encode env.config.jwtSecret.toList) "HS256" [("typ", "at+JWT")] = token :=
  jwt_encode_usable encoded

/-- Claims signed with an active key of a set whose ids tell the keys apart are
decoded to what they were. -/
theorem signed_claims_decode (signs : SignsAndVerifies env.platform.jwt)
    (ints : ∀ number, env.platform.coerceInt (.int number) = some number) (typed : Typed claims)
    (nonempty : claims.aud ≠ []) (force : Throughout env world (InForce claims)) {key : SigningKey}
    (member : key ∈ world.process.keys) {token : String}
    (listed : key.algorithm = "HS256" ∨ key.algorithm = "RS256")
    (named : ∀ other ∈ world.process.keys, other.kid ≠ "")
    (distinct : world.process.keys.Pairwise fun one other => one.kid ≠ other.kid)
    (active : Throughout env world fun now => activeAt now key = true)
    (encoded : encodeAccessToken env claims (some key) = some token) :
    ∃ later, (decodeAccessToken env token env.config.jwtSecret claims.iss).run env.interp world =
      (.ok claims, later) := by
  have payload := claims_of_payload ints typed nonempty
  obtain ⟨usable, same⟩ := encode_usable encoded
  obtain ⟨header, read, typ, kid⟩ := @header_read env claims signs key.keyMaterial key.algorithm
    [("typ", "at+JWT"), ("kid", key.kid)] rfl
  obtain ⟨verifyKey, derived, accepts⟩ := @verify_key_accepts env claims signs key listed
    usable [("typ", "at+JWT"), ("kid", key.kid)]
  obtain ⟨readings, few, found⟩ := find_run (ε := DecodeError) distinct member active
  rw [same] at read accepts
  have names : namedKey (ε := DecodeError) header world.process.keys =
      KeySet.find key.kid world.process.keys := by
    unfold namedKey
    have present : (some key.kid).filter (· != "") = some key.kid :=
      Option.filter_eq_some_iff.2 ⟨rfl, bne_iff_ne.2 (named key member)⟩
    rw [kid key.kid rfl, present]
  have decoded : (decodeOrRaise env token claims.iss verifyKey key.algorithm).run env.interp
      (after readings world) = (.ok (payloadMembers claims), after 1 (after readings world)) := by
    apply decode_or_raise_run
    apply accepts
    exact force _ (Nat.le_add_right _ _) (Nat.add_le_add_left few _)
  refine ⟨after 1 (after readings world), ?_⟩
  unfold decodeAccessToken
  rw [read]
  dsimp only
  rw [typ, bne_self_eq_false, if_neg Bool.false_ne_true, run_ambient_bind, run_bind]
  have keys : (Ambient.exec env.platform world.process .keys).1 = world.process.keys := rfl
  have unchanged : { world with process := (Ambient.exec env.platform world.process .keys).2 } =
      world := rfl
  have chosen : (Program.ofExcept (.ok verifyKey) : Program Server DecodeError VerifyKey) =
      pure verifyKey := rfl
  rw [keys, unchanged, names, found]
  dsimp only
  rw [derived, chosen, pure_bind, run_bind, decoded]
  dsimp only
  rw [payload]
  rfl

/-- Claims signed with an active key of a set whose ids tell the keys apart, or with
the secret where there is no set, are decoded to what they were. -/
theorem claims_survive_the_wire (env : Env) (signs : SignsAndVerifies env.platform.jwt)
    (ints : ∀ number, env.platform.coerceInt (.int number) = some number) (claims : Claims)
    (typed : Typed claims) (nonempty : claims.aud ≠ []) (world : World)
    (force : Throughout env world (InForce claims)) :
    (∀ key ∈ world.process.keys, ∀ token,
      (key.algorithm = "HS256" ∨ key.algorithm = "RS256") →
      (∀ other ∈ world.process.keys, other.kid ≠ "") →
      (world.process.keys.Pairwise fun one other => one.kid ≠ other.kid) →
      (Throughout env world fun now => activeAt now key = true) →
      encodeAccessToken env claims (some key) = some token →
      ∃ later, (decodeAccessToken env token env.config.jwtSecret claims.iss).run env.interp world =
        (.ok claims, later)) ∧
    ∀ token, encodeAccessToken env claims none = some token →
      ∃ later, (decodeWithoutKeySet env token env.config.jwtSecret claims.iss).run env.interp
        world = (.ok claims, later) := by
  have payload := claims_of_payload ints typed nonempty
  constructor
  · intro key member token listed named distinct active encoded
    exact signed_claims_decode signs ints typed nonempty force member listed named distinct active
      encoded
  · intro token encoded
    obtain ⟨usable, same⟩ := encode_usable_secret encoded
    obtain ⟨header, read, typ, -⟩ := @header_read env claims signs
      (Text.utf8Encode env.config.jwtSecret.toList) "HS256" [("typ", "at+JWT")] rfl
    rw [same] at read
    have now := force world.process.readings (le_refl _) (Nat.le_succ _)
    have decoded : (decodeOrRaise env token claims.iss
        (.secret (Text.utf8Encode env.config.jwtSecret.toList)) "HS256").run env.interp world =
          (.ok (payloadMembers claims), after 1 world) := by
      apply decode_or_raise_run
      rw [← same]
      exact signs.secret _ _ _ _ _ usable (payload_current now.1 now.2)
    refine ⟨after 1 world, ?_⟩
    unfold decodeWithoutKeySet
    rw [read]
    dsimp only
    rw [typ, bne_self_eq_false, if_neg Bool.false_ne_true, run_bind, decoded]
    dsimp only
    rw [payload]
    rfl

end Decoding

def wireEnv : Env where
  config := { jwtSecret := "secret", issuer := "https://as.example" }
  backend := .sql
  platform := { samplePlatform with jwt := ReferenceJwt.library }

def wireClaims : Claims where
  sub := "alice"
  iss := "https://as.example"
  aud := ["https://api.example"]
  exp := 3600
  iat := 0
  scope := "read"
  jti := "identifier"
  cnf := some (.obj [("jkt", .str "thumbprint")])

def wireKey : SigningKey where
  kid := "second"
  algorithm := "HS256"
  keyMaterial := [1, 2, 3]
  createdAt := 0

def wireWorld : World :=
  { sampleTokenWorld with process := { sampleTokenWorld.process with
      keys := [{ wireKey with kid := "first", keyMaterial := [4] }, wireKey] } }

theorem wire_claims_typed : Typed wireClaims where
  cnf := by
    intro value present
    cases present
    rfl
  details := by
    intro items present
    cases present
  act := by
    intro value present
    cases present

theorem wire_claims_in_force : Throughout wireEnv wireWorld (InForce wireClaims) := by
  intro reading _ last
  have early : reading ≤ 1 := last
  have bound : (reading : ℚ) ≤ 1 := by exact_mod_cast early
  have nonnegative : (0 : ℚ) ≤ (reading : ℚ) := by positivity
  have clock : wireEnv.platform.clock reading = reading := rfl
  unfold InForce epochSeconds
  rw [clock]
  constructor
  · have issued : (wireClaims.iat : ℚ) = 0 := rfl
    rw [issued]
    positivity
  · have expiry : (wireClaims.exp : ℚ) = 3600 := rfl
    rw [expiry]
    push_cast
    linarith

/-- Claims with one audience, signed with the second of two keys. -/
theorem single_audience_survives : ∃ token later,
    encodeAccessToken wireEnv wireClaims (some wireKey) = some token ∧
    (decodeAccessToken wireEnv token wireEnv.config.jwtSecret wireClaims.iss).run wireEnv.interp
      wireWorld = (.ok wireClaims, later) := by
  have survive := claims_survive_the_wire wireEnv signs_and_verifies (fun _ => rfl) wireClaims
    wire_claims_typed (by decide) wireWorld wire_claims_in_force
  have encoded : encodeAccessToken wireEnv wireClaims (some wireKey) = some _ := rfl
  obtain ⟨later, decoded⟩ := survive.1 wireKey (by decide) _ (.inl rfl) (by decide) (by decide)
    (fun _ _ _ => rfl) encoded
  exact ⟨_, later, encoded, decoded⟩

end OAuth2Server.WireClaims
