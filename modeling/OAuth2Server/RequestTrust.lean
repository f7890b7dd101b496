import OAuth2Server.Authorize
import OAuth2Server.ClientIdentity
import OAuth2Server.Delegation

/-!
# What a request object is trusted on

`process_jar` returns parameters only of an object that the registration of the
client vouches for: unsigned in every respect for a public client, and verified
with the registered secret or a registered key for the others. Whatever else is
sent is an `OAuthError`, as long as the registered keys can be read at all: an
inline key set that nests too deep, or an address whose answer is no answer,
raises something else.
-/

namespace OAuth2Server.RequestTrust

open OAuth2Server Models JsonText Storage Effects Interaction Interaction.Program
open ClientAuth RequestObject ClientIdentity Validation AuthorizeResponse

set_option autoImplicit false

/-! ### The library -/

/-- `int(value)` of a date claim. -/
def dateOf : Json → Option Int
  | .int value => some value
  | .float value => some (ReferenceJwt.truncated value)
  | .bool value => some (if value then 1 else 0)
  | .str text => Authorize.pyInt text
  | _ => none

/-- The `aud` claim is one of the names, or lists one. -/
def NamesAudience (claims : List (String × Json)) (names : List String) : Prop :=
  (∃ name ∈ names, claims.lookup "aud" = some (.str name)) ∨
    ∃ items, claims.lookup "aud" = some (.arr items) ∧ ∃ name ∈ names, Json.str name ∈ items

/-- `jwt.decode` under one key and one algorithm: claims it has checked, or one
of the library's own exceptions. -/
structure Primitive (jwt : JwtLibrary) : Prop extends ReferenceJwt.RequiresClaims jwt where
  raises : ∀ token key alg options now refused,
    jwt.verify token key alg options now = .error refused → ∃ message, refused = .pyjwt message
  expiry : ∀ token key alg options now claims value,
    jwt.verify token key alg options now = .ok claims → options.verifyExp = true →
      claims.lookup "exp" = some value →
        ∃ exp, dateOf value = some exp ∧ epochSeconds now < (exp : ℚ)
  audience : ∀ token key alg options now claims names,
    jwt.verify token key alg options now = .ok claims → options.audience = some names →
      NamesAudience claims names

/-! ### What is trusted -/

/-- The object says it is unsigned, carries no signature, and its payload is an
object that nests no deeper than the limit. -/
structure Unsigned (env : Env) (requestJwt : String) (claims : List (String × Json)) : Prop where
  parts : ∃ header payload headerBytes payloadBytes members,
    requestJwt.toList = header ++ '.' :: payload ++ ['.'] ∧ '.' ∉ header ∧ '.' ∉ payload ∧
      b64urlSegment header = some headerBytes ∧
      loadsBytes env headerBytes = some (.obj members) ∧
      members.lookup "alg" = some (.str "none") ∧
      b64urlSegment payload = some payloadBytes ∧
      loadsBytes env payloadBytes = some (.obj claims)
  shallow : Delegation.depth (.obj claims) ≤ maxUnsignedJarDepth

/-- The object verifies under one key and one algorithm, is made for the
endpoint, has not expired, and is issued by the client. -/
structure Verified (env : Env) (client : Client) (requestJwt authorizeUrl : String)
    (world later : World) (key : VerifyKey) (alg : String) (claims : List (String × Json)) :
    Prop where
  signed : ∃ reading, During world later reading ∧
    env.platform.jwt.verify requestJwt key alg
      { audience := some [authorizeUrl], require := ["exp", "iss"] }
      (env.platform.clock reading) = .ok claims ∧
    ∃ value exp, claims.lookup "exp" = some value ∧ dateOf value = some exp ∧
      epochSeconds (env.platform.clock reading) < (exp : ℚ)
  audience : NamesAudience claims [authorizeUrl]
  issuer : claims.lookup "iss" = some (.str client.clientId)

/-- How the registration of the client vouches for the claims. -/
inductive Trusted (env : Env) (client : Client) (requestJwt authorizeUrl : String)
    (world later : World) (claims : List (String × Json)) : Prop
  | unsigned (method : client.tokenEndpointAuthMethod = "none")
      (unsigned : Unsigned env requestJwt claims)
  | secret (method : client.tokenEndpointAuthMethod ∈
        ["client_secret_basic", "client_secret_post", "client_secret_jwt"])
      (nonempty : client.clientSecret ≠ "")
      (verified : Verified env client requestJwt authorizeUrl world later
        (.secret (Text.utf8Encode client.clientSecret.toList)) "HS256" claims)
  | registered (method : client.tokenEndpointAuthMethod = "private_key_jwt") (key : Json)
      (owned : RegisteredKey env world later client key)
      (verified : Verified env client requestJwt authorizeUrl world later (.jwk "RSA" key) "RS256"
        claims)

/-- The text members of the payload under the overlay keys, and nothing else. -/
structure Restriction (overlay : Form) (claims : List (String × Json)) : Prop where
  members : ∀ key value, (key, value) ∈ overlay ↔
    key ∈ jarOverlayKeys ∧ claims.lookup key = some (.str value)
  once : (overlay.map (·.1)).Nodup

/-- The object names no other client; a null `client_id` counts as absent. -/
def NamesClient (claims : List (String × Json)) (client : Client) : Prop :=
  ∀ named, claims.lookup "client_id" = some named → named = .null ∨ named = .str client.clientId

/-- A call returns parameters of trusted claims or raises an `OAuthError`. -/
def TrustsRegistration (env : Env) (client : Client) (requestJwt authorizeUrl : String)
    (world : World) : Prop :=
  ∀ outcome later,
    (processJar env client requestJwt authorizeUrl).run env.interp world = (outcome, later) →
    match outcome with
    | .ok overlay => ∃ claims, Restriction overlay claims ∧ NamesClient claims client ∧
        Trusted env client requestJwt authorizeUrl world later claims
    | .error raised => ∃ error description, raised = .oauth error description

/-- The registered keys of the client cannot be read. -/
def UnreadableKeys (env : Env) (client : Client) (world : World) : Prop :=
  client.tokenEndpointAuthMethod = "private_key_jwt" ∧
    (Text.strip client.jwks ≠ "" ∧
        loads env.platform.recursionLimit (Text.strip client.jwks) = .error .recursion ∨
      Text.strip client.jwks = "" ∧ Text.strip client.jwksUri ≠ "" ∧
        ((Ambient.fetchJwks (Text.strip client.jwksUri)).exec env.platform world.process).1 =
          .error none)

/-! ### Unsigned objects -/

theorem equals_text_iff (value : Json) (text : String) :
    value.equalsText text = true ↔ value = .str text := by
  cases value <;> simp [Json.equalsText, Json.str?]

theorem text_member_iff (members : List (String × Json)) (key text : String) :
    textMember members key = some text ↔ members.lookup key = some (.str text) := by
  unfold textMember
  cases members.lookup key with
  | none => simp
  | some value => cases value <;> simp [Json.str?]

theorem cut_some {char : Char} {text before after : List Char}
    (found : Text.cut char text = some (before, after)) :
    text = before ++ char :: after ∧ char ∉ before := by
  unfold Text.cut at found
  split at found
  · cases found
  · rename_i first rest reached
    cases found
    have split := List.takeWhile_append_dropWhile (p := fun other => other != char) (l := text)
    have head : first = char := by
      have stops := List.head?_dropWhile_not (fun other => other != char) text
      rw [reached] at stops
      simpa using stops
    constructor
    · rw [reached, head] at split
      exact split.symm
    · intro inside
      have passed := List.all_eq_true.1 List.all_takeWhile char inside
      simp at passed

/-- The segments of an object, none of the first two with a dot. -/
theorem jar_segments_some {requestJwt : String} {header payload signature : List Char}
    (found : jarSegments requestJwt = some (header, payload, signature)) :
    requestJwt.toList = header ++ '.' :: payload ++ '.' :: signature ∧ '.' ∉ header ∧
      '.' ∉ payload := by
  unfold jarSegments at found
  simp only [Option.bind_eq_bind, Option.bind_eq_some_iff, Option.some.injEq, Prod.mk.injEq]
    at found
  obtain ⟨⟨first, rest⟩, firstCut, ⟨second, third⟩, secondCut, rfl, rfl, rfl⟩ := found
  have outer := cut_some firstCut
  have inner := cut_some secondCut
  dsimp only at inner
  refine ⟨?_, outer.2, inner.2⟩
  rw [outer.1, inner.1]
  simp

theorem decode_unsigned_ok {env : Env} {header payload signature : List Char}
    {claims : List (String × Json)}
    (decoded : decodeUnsignedJar env header payload signature = .ok claims) :
    signature = [] ∧ Delegation.depth (.obj claims) ≤ maxUnsignedJarDepth ∧
      ∃ headerBytes payloadBytes members, b64urlSegment header = some headerBytes ∧
        loadsBytes env headerBytes = some (.obj members) ∧
        members.lookup "alg" = some (.str "none") ∧
        b64urlSegment payload = some payloadBytes ∧
        loadsBytes env payloadBytes = some (.obj claims) := by
  unfold decodeUnsignedJar at decoded
  dsimp only at decoded
  split at decoded
  case h_2 => cases decoded
  rename_i headerBytes headerRead
  split at decoded
  case h_2 => cases decoded
  rename_i document headerLoaded
  split at decoded
  · cases decoded
  rename_i unsigned
  split at decoded
  · cases decoded
  rename_i empty
  split at decoded
  case h_2 => cases decoded
  rename_i payloadBytes payloadRead
  split at decoded
  case h_2 => cases decoded
  rename_i members payloadLoaded
  split at decoded
  · cases decoded
  rename_i within
  cases decoded
  have announces : ∃ members, document = .obj members ∧
      members.lookup "alg" = some (.str "none") := by
    simp only [Bool.not_eq_true', Bool.not_eq_false] at unsigned
    obtain ⟨alg, carried, none⟩ := (Option.any_eq_true _ _).1 unsigned
    rw [(equals_text_iff alg "none").1 none] at carried
    cases document with
    | obj members => exact ⟨members, rfl, carried⟩
    | _ => cases carried
  obtain ⟨announced, isObject, none⟩ := announces
  rw [isObject] at headerLoaded
  have shallow := (Delegation.check_depth_ok_iff _ _ _).1 within
  have signatureEmpty : signature = [] := by simpa using empty
  exact ⟨signatureEmpty, shallow, headerBytes, payloadBytes, announced, headerRead, headerLoaded,
    none, payloadRead, payloadLoaded⟩

theorem unsigned_trusted {env : Env} {requestJwt : String} {header payload signature : List Char}
    {claims : List (String × Json)}
    (found : jarSegments requestJwt = some (header, payload, signature))
    (decoded : decodeUnsignedJar env header payload signature = .ok claims) :
    Unsigned env requestJwt claims := by
  obtain ⟨text, headerDotless, payloadDotless⟩ := jar_segments_some found
  obtain ⟨empty, shallow, headerBytes, payloadBytes, members, headerRead, headerLoaded, none,
    payloadRead, payloadLoaded⟩ := decode_unsigned_ok decoded
  rw [empty] at text
  exact ⟨⟨header, payload, headerBytes, payloadBytes, members, text, headerDotless, payloadDotless,
    headerRead, headerLoaded, none, payloadRead, payloadLoaded⟩, shallow⟩

/-! ### Signed objects -/

section Signed

variable {env : Env} {client : Client} {requestJwt authorizeUrl : String} {world later : World}
  {claims : List (String × Json)}

/-- What a successful verification has established. -/
theorem decode_signed_ok (primitive : Primitive env.platform.jwt) {alg : String}
    (ran : (decodeSignedJar env client requestJwt alg authorizeUrl).run env.interp world =
      (.ok claims, later)) :
    ∃ key reached, (jarKey env client requestJwt alg).run env.interp world = (.ok key, reached) ∧
      reached.process.readings ≤ later.process.readings ∧
      Verified env client requestJwt authorizeUrl world later key alg claims := by
  unfold decodeSignedJar at ran
  obtain ⟨key, reached, keyed, ran⟩ := run_bind_eq_ok ran
  rw [run_ambient_bind] at ran
  dsimp only at ran
  split at ran
  · cases ran
  · cases ran
  · rename_i found verified
    obtain ⟨sameIssuer, ran⟩ := run_reject_bind_eq_ok ran
    cases ran
    have waited := readings_grow keyed
    have issuer : claims.lookup "iss" = some (.str client.clientId) := by
      apply (text_member_iff _ _ _).1
      simpa using sameIssuer
    have dated := primitive.present _ _ _ _ _ _ verified "exp" (by simp)
    obtain ⟨value, dated⟩ := Option.isSome_iff_exists.1 dated
    obtain ⟨exp, date, unexpired⟩ := primitive.expiry _ _ _ _ _ _ value verified rfl dated
    have audience := primitive.audience _ _ _ _ _ _ [authorizeUrl] verified rfl
    exact ⟨key, reached, keyed, Nat.le_succ _,
      ⟨⟨reached.process.readings, ⟨waited, Nat.lt_succ_self _⟩, verified, value, exp, dated, date,
        unexpired⟩, audience, issuer⟩⟩

/-- A shared secret is never empty. -/
theorem secret_key {key : VerifyKey} {reached : World}
    (keyed : (jarKey env client requestJwt "HS256").run env.interp world = (.ok key, reached)) :
    client.clientSecret ≠ "" ∧
      key = .secret (Text.utf8Encode client.clientSecret.toList) := by
  unfold jarKey at keyed
  rw [if_pos (by decide)] at keyed
  obtain ⟨nonempty, keyed⟩ := run_reject_bind_eq_ok keyed
  cases keyed
  exact ⟨by simpa using nonempty, rfl⟩

/-- A public key is one of the registered ones. -/
theorem registered_key {key : VerifyKey} {reached : World}
    (order : reached.process.readings ≤ later.process.readings)
    (keyed : (jarKey env client requestJwt "RS256").run env.interp world = (.ok key, reached)) :
    ∃ found, RegisteredKey env world later client found ∧ key = .jwk "RSA" found := by
  unfold jarKey at keyed
  rw [if_neg (by decide)] at keyed
  obtain ⟨jwks, resolved, resolution, keyed⟩ := run_bind_eq_ok keyed
  split at keyed
  · cases keyed
  · rename_i header read
    obtain ⟨selected, same⟩ := run_of_except_eq_ok keyed
    subst same
    obtain ⟨document, keys, found, present, listed, member, same⟩ := registered_rsa_key selected
    subst present
    have registered := resolved_jwks (Waited.refl world) order resolution
    exact ⟨found, ⟨document, keys, registered, listed, member⟩, same⟩

theorem decode_jar_ok (primitive : Primitive env.platform.jwt)
    (ran : (decodeJar env client requestJwt authorizeUrl).run env.interp world =
      (.ok claims, later)) :
    Trusted env client requestJwt authorizeUrl world later claims := by
  unfold decodeJar at ran
  dsimp only at ran
  split at ran
  · cases ran
  rename_i header payload signature found
  split at ran
  · rename_i isPublic
    obtain ⟨decoded, _⟩ := run_of_except_eq_ok ran
    exact .unsigned (by simpa using isPublic) (unsigned_trusted found decoded)
  split at ran
  · rename_i alg pinned
    obtain ⟨key, reached, keyed, order, verified⟩ := decode_signed_ok primitive ran
    unfold jarAlgForMethod at pinned
    split at pinned
    · rename_i shared
      cases pinned
      obtain ⟨nonempty, same⟩ := secret_key keyed
      rw [same] at verified
      have method : client.tokenEndpointAuthMethod ∈
          ["client_secret_basic", "client_secret_post", "client_secret_jwt"] := by
        simpa [or_assoc] using shared
      exact .secret method nonempty verified
    · split at pinned
      · rename_i asymmetric
        cases pinned
        obtain ⟨found, owned, same⟩ := registered_key order keyed
        rw [same] at verified
        exact .registered (by simpa using asymmetric) found owned verified
      · cases pinned
  · cases ran

end Signed

/-! ### The overlay -/

theorem picked_keys_sublist (claims : List (String × Json)) (keys : List String) :
    List.Sublist ((keys.filterMap fun key =>
      (textMember claims key).map fun value => (key, value)).map (·.1)) keys := by
  induction keys with
  | nil => exact List.Sublist.slnil
  | cons key rest induction =>
    cases present : textMember claims key with
    | none =>
      simp only [List.filterMap_cons, present, Option.map_none]
      exact induction.cons key
    | some value =>
      simp only [List.filterMap_cons, present, Option.map_some, List.map_cons]
      exact induction.cons_cons key

theorem overlay_restricts (claims : List (String × Json)) :
    Restriction (overlayClaims claims) claims := by
  constructor
  · intro key value
    unfold overlayClaims
    rw [List.mem_filterMap]
    constructor
    · intro ⟨own, listed, kept⟩
      obtain ⟨text, present, same⟩ := Option.map_eq_some_iff.1 kept
      cases same
      exact ⟨listed, (text_member_iff _ _ _).1 present⟩
    · intro ⟨listed, present⟩
      refine ⟨key, listed, ?_⟩
      rw [(text_member_iff _ _ _).2 present]
      rfl
  · have subset : List.Sublist ((overlayClaims claims).map (·.1)) jarOverlayKeys :=
      picked_keys_sublist claims jarOverlayKeys
    exact subset.nodup (by decide)

/-! ### What escapes -/

section Escapes

variable {env : Env} {client : Client} {requestJwt authorizeUrl : String} {world later : World}
  {raised : Raised}

/-- An `OAuthError`. -/
def Answered (raised : Raised) : Prop := ∃ error description, raised = .oauth error description

theorem raise_if_raises {condition : Bool} {error description : String}
    (failed : (raiseIf condition error description).run env.interp world =
      (.error raised, later)) : Answered raised := by
  cases condition with
  | true =>
    cases failed
    exact ⟨_, _, rfl⟩
  | false => cases failed

theorem resolve_raises
    (failed : (resolveClientJwks env client ["private_key_jwt"]).run env.interp world =
      (.error raised, later)) :
    Answered raised ∨ raised = .other ∧ UnreadableKeys env client world := by
  unfold resolveClientJwks at failed
  split at failed
  · cases failed
  rename_i applies
  have method : client.tokenEndpointAuthMethod = "private_key_jwt" := by simpa using applies
  split at failed
  · rename_i inline
    have nonempty : Text.strip client.jwks ≠ "" := by simpa using inline
    split at failed
    · cases failed
    · rename_i deep
      cases failed
      exact .inr ⟨rfl, method, .inl ⟨nonempty, deep⟩⟩
    · cases failed
      exact .inl ⟨_, _, rfl⟩
  rename_i inline
  have empty : Text.strip client.jwks = "" := by simpa using inline
  split at failed
  · rename_i address
    have nonempty : Text.strip client.jwksUri ≠ "" := by simpa using address
    rw [run_ambient_bind] at failed
    split at failed
    · cases failed
    · cases failed
      exact .inl ⟨_, _, rfl⟩
    · rename_i unanswered
      cases failed
      exact .inr ⟨rfl, method, .inr ⟨empty, nonempty, unanswered⟩⟩
  · cases failed
    exact .inl ⟨_, _, rfl⟩

theorem unreadable_raises (unreadable : UnreadableKeys env client world) :
    ∃ later, (resolveClientJwks env client ["private_key_jwt"]).run env.interp world =
      (.error .other, later) := by
  obtain ⟨method, cause⟩ := unreadable
  unfold resolveClientJwks
  rw [method]
  simp only [List.contains_cons, beq_self_eq_true, Bool.true_or, Bool.not_true, Bool.false_eq_true,
    if_false]
  rcases cause with ⟨nonempty, deep⟩ | ⟨empty, nonempty, unanswered⟩
  · simp [nonempty, deep]
  · simp only [empty, bne_self_eq_false, Bool.false_eq_true, if_false, bne_iff_ne, ne_eq, nonempty,
      not_false_eq_true, if_true]
    rw [run_ambient_bind, unanswered]
    exact ⟨_, rfl⟩

theorem rsa_kind_raises {found : Json} {error : String}
    (refused : (match env.platform.jwt.jwkKind "RSA" found with
      | .error _ => throw (.oauth error (some "Failed to construct RSA key from client JWKS"))
      | .ok .privateKey => throw (.oauth error (some "Client JWKS key is not an RSA public key"))
      | .ok .publicKey => pure (.jwk "RSA" found) : Except Raised VerifyKey) = .error raised) :
    Answered raised := by
  split at refused
  · cases refused
    exact ⟨_, _, rfl⟩
  · cases refused
    exact ⟨_, _, rfl⟩
  · cases refused

theorem rsa_key_raises {jwks : Option Json} {kid : Option String} {error context : String}
    (failed : rsaKeyFromJwks env jwks kid error context = .error raised) : Answered raised := by
  unfold rsaKeyFromJwks at failed
  dsimp only at failed
  split at failed
  case h_2 =>
    cases failed
    exact ⟨_, _, rfl⟩
  split at failed
  case h_2 =>
    cases failed
    exact ⟨_, _, rfl⟩
  cases kid with
  | none =>
    dsimp only at failed
    split at failed
    · exact rsa_kind_raises failed
    · cases failed
      exact ⟨_, _, rfl⟩
  | some kid =>
    dsimp only at failed
    split at failed
    · exact rsa_kind_raises failed
    · cases failed
      exact ⟨_, _, rfl⟩

theorem jar_key_raises {alg : String}
    (failed : (jarKey env client requestJwt alg).run env.interp world = (.error raised, later)) :
    Answered raised ∨ raised = .other ∧ UnreadableKeys env client world := by
  unfold jarKey at failed
  split at failed
  · rcases run_bind_eq_error failed with refused | ⟨_, _, _, kept⟩
    · exact .inl (raise_if_raises refused)
    · cases kept
  · rcases run_bind_eq_error failed with unresolved | ⟨jwks, reached, _, failed⟩
    · exact resolve_raises unresolved
    · left
      split at failed
      · cases failed
        exact ⟨_, _, rfl⟩
      · rw [run_of_except] at failed
        cases selected : rsaKeyFromJwks env jwks (textMember _ "kid") "invalid_request" " for JAR" with
        | error refused =>
          rw [selected] at failed
          cases failed
          exact rsa_key_raises selected
        | ok key =>
          rw [selected] at failed
          cases failed

theorem decode_unsigned_raises {header payload signature : List Char}
    (failed : decodeUnsignedJar env header payload signature = .error raised) :
    Answered raised := by
  unfold decodeUnsignedJar at failed
  dsimp only at failed
  repeat' split at failed
  all_goals cases failed
  all_goals exact ⟨_, _, rfl⟩

theorem decode_signed_raises (primitive : Primitive env.platform.jwt) {alg : String}
    (failed : (decodeSignedJar env client requestJwt alg authorizeUrl).run env.interp world =
      (.error raised, later)) :
    Answered raised ∨ raised = .other ∧ UnreadableKeys env client world := by
  unfold decodeSignedJar at failed
  rcases run_bind_eq_error failed with keyless | ⟨key, reached, _, failed⟩
  · exact jar_key_raises keyless
  left
  rw [run_ambient_bind] at failed
  dsimp only at failed
  split at failed
  · cases failed
    exact ⟨_, _, rfl⟩
  · rename_i message refused
    obtain ⟨text, same⟩ := primitive.raises _ _ _ _ _ _ refused
    cases same
  · rcases run_bind_eq_error failed with foreign | ⟨_, _, _, kept⟩
    · exact raise_if_raises foreign
    · cases kept

theorem decode_jar_raises (primitive : Primitive env.platform.jwt)
    (failed : (decodeJar env client requestJwt authorizeUrl).run env.interp world =
      (.error raised, later)) :
    Answered raised ∨
      raised = .other ∧ UnreadableKeys env client world ∧ (jarSegments requestJwt).isSome := by
  unfold decodeJar at failed
  dsimp only at failed
  split at failed
  · cases failed
    exact .inl ⟨_, _, rfl⟩
  rename_i header payload signature found
  split at failed
  · rw [run_of_except] at failed
    cases decoded : decodeUnsignedJar env header payload signature with
    | error refused =>
      rw [decoded] at failed
      cases failed
      exact .inl (decode_unsigned_raises decoded)
    | ok claims =>
      rw [decoded] at failed
      cases failed
  split at failed
  · rcases decode_signed_raises primitive failed with answered | ⟨escaped, unreadable⟩
    · exact .inl answered
    · exact .inr ⟨escaped, unreadable, by rw [found]; rfl⟩
  · cases failed
    exact .inl ⟨_, _, rfl⟩

theorem unreadable_escapes (unreadable : UnreadableKeys env client world)
    (whole : (jarSegments requestJwt).isSome) :
    ∃ later, (processJar env client requestJwt authorizeUrl).run env.interp world =
      (.error .other, later) := by
  obtain ⟨⟨header, payload, signature⟩, found⟩ := Option.isSome_iff_exists.1 whole
  obtain ⟨later, unresolved⟩ := unreadable_raises unreadable
  have keyless : (jarKey env client requestJwt "RS256").run env.interp world =
      (.error .other, later) := by
    unfold jarKey
    rw [if_neg (by decide), run_bind, unresolved]
  have undecoded : (decodeJar env client requestJwt authorizeUrl).run env.interp world =
      (.error .other, later) := by
    unfold decodeJar
    rw [found, unreadable.1]
    dsimp only
    rw [if_neg (by decide), show jarAlgForMethod "private_key_jwt" = some "RS256" from by decide]
    unfold decodeSignedJar
    rw [run_bind, keyless]
  refine ⟨later, ?_⟩
  unfold processJar
  rw [run_bind, undecoded]

end Escapes

/-- A request object is trusted only on the client's registration, and anything
else is an `OAuthError`, exactly when its registered keys can be read. -/
theorem trusts_registration_iff (env : Env) (primitive : Primitive env.platform.jwt)
    (client : Client) (requestJwt authorizeUrl : String) (world : World) :
    TrustsRegistration env client requestJwt authorizeUrl world ↔
      ¬ (UnreadableKeys env client world ∧ (jarSegments requestJwt).isSome) := by
  constructor
  · intro trusts ⟨unreadable, whole⟩
    obtain ⟨later, escaped⟩ := unreadable_escapes unreadable whole
    obtain ⟨error, description, same⟩ := trusts _ _ escaped
    cases same
  · intro readable outcome later ran
    unfold processJar at ran
    cases outcome with
    | ok overlay =>
      obtain ⟨claims, reached, decoded, ran⟩ := run_bind_eq_ok ran
      dsimp only at ran
      obtain ⟨named, ran⟩ := run_reject_bind_eq_ok ran
      cases ran
      refine ⟨claims, overlay_restricts claims, ?_, decode_jar_ok primitive decoded⟩
      intro value present
      rw [present] at named
      by_cases absent : value = .null
      · exact .inl absent
      · right
        apply (equals_text_iff value client.clientId).1
        cases value with
        | null => exact absurd rfl absent
        | _ => simpa using named
    | error raised =>
      rcases run_bind_eq_error ran with undecoded | ⟨claims, reached, _, ran⟩
      · rcases decode_jar_raises primitive undecoded with answered | ⟨_, unreadable, whole⟩
        · exact answered
        · exact absurd ⟨unreadable, whole⟩ readable
      · rcases run_bind_eq_error ran with foreign | ⟨_, _, _, kept⟩
        · exact raise_if_raises foreign
        · cases kept

/-! ### The reference library -/

theorem in_order_raises {checks : List (Except VerifyError Unit)} {refused : VerifyError}
    (failed : ReferenceJwt.inOrder checks = .error refused) : .error refused ∈ checks := by
  induction checks with
  | nil => cases failed
  | cons check rest induction =>
    cases check with
    | error raised =>
      cases failed
      exact List.mem_cons_self
    | ok _ => exact List.mem_cons_of_mem _ (induction failed)

theorem reference_claims_raise {claims : List (String × Json)} {options : VerifyOptions}
    {now : Instant} {refused : VerifyError}
    (failed : ReferenceJwt.checkClaims claims options now = .error refused) :
    ∃ message, refused = .pyjwt message := by
  have cause := in_order_raises failed
  simp only [List.mem_cons, List.not_mem_nil, or_false] at cause
  rcases cause with required | issued | expired | issuer | audience
  · unfold ReferenceJwt.checkRequired at required
    split at required <;> cases required
    exact ⟨_, rfl⟩
  · unfold ReferenceJwt.checkIssuedAt at issued
    repeat' split at issued
    all_goals cases issued
    exact ⟨_, rfl⟩
  · unfold ReferenceJwt.checkExpiry at expired
    repeat' split at expired
    all_goals cases expired
    all_goals exact ⟨_, rfl⟩
  · unfold ReferenceJwt.checkIssuer at issuer
    repeat' split at issuer
    all_goals cases issuer
    exact ⟨_, rfl⟩
  · unfold ReferenceJwt.checkAudience at audience
    dsimp only at audience
    repeat' split at audience
    all_goals cases audience
    all_goals exact ⟨_, rfl⟩

theorem reference_raises {token : String} {key : VerifyKey} {alg : String}
    {options : VerifyOptions} {now : Instant} {refused : VerifyError}
    (failed : ReferenceJwt.verify token key alg options now = .error refused) :
    ∃ message, refused = .pyjwt message := by
  unfold ReferenceJwt.verify at failed
  split at failed
  · cases failed
    exact ⟨_, rfl⟩
  rename_i parts parsed
  split at failed
  · cases failed
    exact ⟨_, rfl⟩
  split at failed
  · cases failed
    exact ⟨_, rfl⟩
  cases checked : ReferenceJwt.checkClaims parts.claims options now with
  | ok _ =>
    rw [checked] at failed
    cases failed
  | error raised =>
    rw [checked] at failed
    cases failed
    exact reference_claims_raise checked

theorem reference_primitive : Primitive ReferenceJwt.library where
  present := ReferenceJwt.requires_claims.present
  raises := by
    intro token key alg options now refused failed
    exact reference_raises failed
  expiry := by
    intro token key alg options now claims value accepted enabled dated
    obtain ⟨header, _, _, checked⟩ := ReferenceJwt.verify_parts accepted
    have unexpired := ReferenceJwt.expiry_checked checked enabled
    unfold ReferenceJwt.checkExpiry at unexpired
    rw [dated] at unexpired
    cases value with
    | int number =>
      refine ⟨number, rfl, ?_⟩
      simp only [Json.number?, ReferenceJwt.truncated_int] at unexpired
      split at unexpired
      · cases unexpired
      · rename_i early
        exact not_le.1 early
    | float number =>
      refine ⟨ReferenceJwt.truncated number, rfl, ?_⟩
      simp only [Json.number?] at unexpired
      split at unexpired
      · cases unexpired
      · rename_i early
        exact not_le.1 early
    | _ => cases unexpired
  audience := by
    intro token key alg options now claims names accepted restricted
    obtain ⟨header, _, _, checked⟩ := ReferenceJwt.verify_parts accepted
    have named := ReferenceJwt.in_order_ok.1 checked (ReferenceJwt.checkAudience claims names)
      (by simp [restricted])
    unfold ReferenceJwt.checkAudience at named
    dsimp only at named
    cases present : claims.lookup "aud" with
    | none => simp [present] at named
    | some value =>
      cases value with
      | str own =>
        rw [present] at named
        dsimp only at named
        split at named
        · rename_i allowed
          exact .inl ⟨own, List.contains_iff_mem.1 allowed, present⟩
        · cases named
      | arr items =>
        rw [present] at named
        dsimp only at named
        split at named
        · rename_i found
          obtain ⟨item, listed, own⟩ := List.any_eq_true.1 found
          obtain ⟨name, text, allowed⟩ := (Option.any_eq_true _ _).1 own
          have same : item = .str name := by
            cases item <;> simp_all [Json.str?]
          exact .inr ⟨items, present, name, List.contains_iff_mem.1 allowed, same ▸ listed⟩
        · cases named
      | _ => simp [present] at named

/-! ### A key set that nests too deep -/

theorem parse_opened {fuel depth : Nat} {more : List Char} {error : LoadError}
    (failed : parseValue fuel depth ('[' :: more) = .error error) :
    parseValue (fuel + 2) (depth + 1) ('[' :: '[' :: more) = .error error := by
  have visible : isWhite '[' = false := by decide
  have items : parseItems (fuel + 1) depth ('[' :: more) = .error error := by
    rw [parseItems, failed]
  simp [parseValue, skipWhite, visible, items, Except.map]

/-- More brackets than the interpreter recurses. -/
theorem nested_too_deep (limit fuel : Nat) (rest : List Char) (enough : 2 * limit < fuel) :
    parseValue fuel limit (List.replicate (limit + 1) '[' ++ rest) = .error .recursion := by
  induction limit generalizing fuel with
  | zero =>
    cases fuel with
    | zero => omega
    | succ fuel => rfl
  | succ limit induction =>
    match fuel, enough with
    | fuel + 2, enough =>
      have inner := induction fuel (by omega)
      exact parse_opened inner

theorem loads_too_deep (limit : Nat) :
    loads limit (String.ofList (List.replicate (limit + 1) '[')) = .error .recursion := by
  have visible : isWhite '[' = false := by decide
  have leading : skipWhite (List.replicate (limit + 1) '[') = List.replicate (limit + 1) '[' := by
    simp [skipWhite, List.replicate_succ, visible]
  have parsed := nested_too_deep limit (2 * (limit + 1) + 2) [] (by omega)
  rw [List.append_nil] at parsed
  unfold loads
  rw [String.toList_ofList, leading, List.length_replicate, parsed]

theorem strip_brackets (count : Nat) :
    Text.strip (String.ofList (List.replicate (count + 1) '[')) =
      String.ofList (List.replicate (count + 1) '[') := by
  have visible : Text.isSpace '[' = false := by decide
  have leading : (List.replicate (count + 1) '[').dropWhile Text.isSpace =
      List.replicate (count + 1) '[' := by
    simp [List.replicate_succ, visible]
  unfold Text.strip
  rw [String.toList_ofList, leading, List.reverse_replicate, leading, List.reverse_replicate]

def trustEnv : Env :=
  { Runs.sampleEnv with platform := { Runs.samplePlatform with jwt := ReferenceJwt.library } }

def trustWorld : World := ⟨Runs.sampleStore, Runs.sampleProcess⟩

/-- A client whose inline key set is nothing but opened brackets. -/
def bracketedClient : Client :=
  { Runs.sampleClient with
    tokenEndpointAuthMethod := "private_key_jwt"
    jwks := String.ofList (List.replicate 1001 '[') }

/-- A public client reads no keys, so a text that is no object is an `OAuthError`. -/
theorem public_client_trusts :
    Primitive trustEnv.platform.jwt ∧
      TrustsRegistration trustEnv Runs.sampleClient "x" "https://as.example/oauth/authorize"
        trustWorld := by
  refine ⟨reference_primitive, (trusts_registration_iff trustEnv reference_primitive _ _ _ _).2 ?_⟩
  intro ⟨unreadable, _⟩
  have method := unreadable.1
  exact absurd method (by decide)

/-- The `RecursionError` of a registered key set escapes. -/
theorem bracketed_keys_escape :
    ¬ ∀ (client : Client) (requestJwt authorizeUrl : String) (world : World),
      TrustsRegistration trustEnv client requestJwt authorizeUrl world := by
  intro trusts
  have readable := (trusts_registration_iff trustEnv reference_primitive bracketedClient "a.b.c"
    "https://as.example/oauth/authorize" trustWorld).1 (trusts _ _ _ _)
  apply readable
  have whole : (jarSegments "a.b.c").isSome := by decide +kernel
  have stripped : Text.strip bracketedClient.jwks = String.ofList (List.replicate 1001 '[') :=
    strip_brackets 1000
  refine ⟨⟨rfl, .inl ⟨?_, ?_⟩⟩, whole⟩
  · rw [stripped]
    intro empty
    have noText := congrArg String.toList empty
    rw [String.toList_ofList, List.replicate_succ] at noText
    cases noText
  · rw [stripped]
    exact loads_too_deep 1000

end OAuth2Server.RequestTrust
