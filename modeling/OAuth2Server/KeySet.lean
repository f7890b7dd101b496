import OAuth2Server.Issuance

/-!
# The signing keys and the tokens they verify

`keys.py`, the rotation route of `routes/admin/keys.py` and
`decode_access_token`. The keys live in the process; rotating them is one
synchronous step, taken at one time. Reading them happens inside a handler, one
clock reading for each key that has an expiry.
-/

namespace OAuth2Server.KeySet

open OAuth2Server Models JsonText Storage Effects Interaction ClientAuth Issuance

set_option autoImplicit false

/-! ### Rotation -/

/-- `SigningKey.is_active` at a time. -/
def activeAt (now : Instant) (key : SigningKey) : Bool :=
  match key.expiresAt with
  | none => true
  | some expiresAt => decide (now < expiresAt)

/-- `KeySet.rotate`. -/
def rotate (newKey : SigningKey) (graceSecs : Int) (now : Instant) (keys : List SigningKey) :
    List SigningKey :=
  keys.map (fun key =>
    if key.algorithm == newKey.algorithm && key.isCurrent then
      { key with isCurrent := false, expiresAt := some (now + seconds graceSecs) }
    else key) ++ [newKey]

/-- `KeySet.prune_expired`. -/
def pruneExpired (now : Instant) (keys : List SigningKey) : List SigningKey :=
  keys.filter (activeAt now)

/-- `seed_keyset`. -/
def seedKeyset (config : Config) (now : Instant) : List SigningKey :=
  [{ kid := "hs256-initial"
     algorithm := "HS256"
     keyMaterial := Text.utf8Encode config.jwtSecret.toList
     createdAt := now }] ++
    match config.idTokenPrivateKeyPem.filter (· != "") with
    | none => []
    | some pem =>
        [{ kid := (config.idTokenKid.filter (· != "")).getD "rs256-initial"
           algorithm := "RS256"
           keyMaterial := Text.utf8Encode pem.toList
           createdAt := now }]

/-- `POST /admin/api/keys/rotate` with its body as the route's own reading
leaves it: the algorithm stripped and in upper case, the grace an integer. -/
structure RotateRequest where
  algorithm : Option String := none
  gracePeriodHours : Option Int := none

def maxGracePeriodHours : Int := 1000000

/-- The key id of a rotation: the algorithm and the second. -/
def rotatedKid (algorithm : String) (now : Instant) : String :=
  Text.lower algorithm ++ "-" ++ toString (timestamp now)

/-- `generate_signing_key`, the key material handed in. -/
def generateSigningKey (algorithm kid : String) (keyMaterial : List Nat) (now : Instant) :
    SigningKey where
  kid := kid
  algorithm := algorithm
  keyMaterial := keyMaterial
  createdAt := now

/-- `rotate_key`: the new key and the keys after it. -/
def rotateKey (config : Config) (request : RotateRequest) (keyMaterial : List Nat) (now : Instant)
    (keys : List SigningKey) : Except String (SigningKey × List SigningKey) := do
  let algorithm := request.algorithm.getD "RS256"
  if !(["HS256", "RS256"].contains algorithm) then
    throw ("Unknown algorithm: " ++ algorithm)
  let hours := request.gracePeriodHours.getD config.keyRotationGraceHours
  if hours < 0 then
    throw "grace_period_hours must be non-negative"
  if maxGracePeriodHours < hours then
    throw "grace_period_hours is too large"
  let newKey := generateSigningKey algorithm (rotatedKid algorithm now) keyMaterial now
  pure (newKey, pruneExpired now (rotate newKey (hours * 3600) now keys))

/-! ### Looking keys up -/

/-- `KeySet.find`. -/
def find {ε : Type} (kid : String) : List SigningKey → Program Server ε (Option SigningKey)
  | [] => pure none
  | key :: rest =>
      if key.kid == kid then do
        let active ← isActive key
        if active then pure (some key) else find kid rest
      else find kid rest

/-- `KeySet.active_keys`. -/
def activeKeys {ε : Type} : List SigningKey → Program Server ε (List SigningKey)
  | [] => pure []
  | key :: rest => do
      let active ← isActive key
      let others ← activeKeys rest
      pure (if active then key :: others else others)

/-- `KeySet.active_keys_for_alg`. -/
def activeKeysForAlg {ε : Type} (alg : String) :
    List SigningKey → Program Server ε (List SigningKey)
  | [] => pure []
  | key :: rest =>
      if key.algorithm == alg then do
        let active ← isActive key
        let others ← activeKeysForAlg alg rest
        pure (if active then key :: others else others)
      else activeKeysForAlg alg rest

/-! ### `decode_access_token` -/

/-- What `decode_access_token` raises: one of the JWT library's exceptions,
pydantic's `ValidationError`, or anything else. -/
inductive DecodeError where
  | pyjwt
  | validation
  | other
  deriving DecidableEq, Repr

/-- An optional field: absent, null, or of its type. -/
def optionalField {α : Type} (payload : List (String × Json)) (name : String)
    (read : Json → Option α) : Option (Option α) :=
  match payload.lookup name with
  | none => some none
  | some .null => some none
  | some value => (read value).map some

/-- A dictionary. -/
def asDict (value : Json) : Option Json := if value.isObj then some value else none

/-- A list of dictionaries. -/
def asDictList : Json → Option (List Json)
  | .arr items => items.mapM asDict
  | _ => none

/-- `payload["aud"]`, a bare string made a list. -/
def audienceList (payload : List (String × Json)) : Option (List String) :=
  match payload.lookup "aud" with
  | some (.str audience) => some [audience]
  | some (.arr items) => items.mapM Json.str?
  | _ => none

/-- `Claims(**payload)`. -/
def claimsOf (env : Env) (payload : List (String × Json)) : Option Claims := do
  let sub ← textMember payload "sub"
  let iss ← textMember payload "iss"
  let aud ← audienceList payload
  let exp ← (payload.lookup "exp").bind env.platform.coerceInt
  let iat ← (payload.lookup "iat").bind env.platform.coerceInt
  let scope ← textMember payload "scope"
  let jti ← textMember payload "jti"
  let clientId ← optionalField payload "client_id" Json.str?
  let cnf ← optionalField payload "cnf" asDict
  let authorizationDetails ← optionalField payload "authorization_details" asDictList
  let act ← optionalField payload "act" asDict
  pure
    { sub := sub
      iss := iss
      aud := aud
      exp := exp
      iat := iat
      scope := scope
      jti := jti
      clientId := clientId
      cnf := cnf
      authorizationDetails := authorizationDetails
      act := act }

/-- `jwt.decode` as this module calls it: issuer and dates, no audience. -/
def decodeWith (env : Env) (token issuer : String) (key : VerifyKey) (alg : String)
    (now : Instant) : Except VerifyError (List (String × Json)) :=
  env.platform.jwt.verify token key alg { issuer := some issuer } now

/-- `_decode_with_any_active_hs256_key`, over the active keys. -/
def decodeWithAny (env : Env) (token issuer : String) :
    List SigningKey → Program Server DecodeError (Option (List (String × Json)))
  | [] => pure none
  | key :: rest => do
      let now ← ambient .now
      match decodeWith env token issuer (.secret key.keyMaterial) "HS256" now with
      | .ok payload => pure (some payload)
      | .error (.pyjwt _) => decodeWithAny env token issuer rest
      | .error (.other _) => throw .other

/-- `jwt.decode` with its exceptions raised. -/
def decodeOrRaise (env : Env) (token issuer : String) (key : VerifyKey) (alg : String) :
    Program Server DecodeError (List (String × Json)) := do
  let now ← ambient .now
  match decodeWith env token issuer key alg now with
  | .ok payload => pure payload
  | .error (.pyjwt _) => throw .pyjwt
  | .error (.other _) => throw .other

/-- The key a signing key is verified with. -/
def verifyKeyOf (env : Env) (key : SigningKey) : Except DecodeError VerifyKey :=
  if key.algorithm == "RS256" then
    match env.platform.jwt.rsaPublicKey key.keyMaterial with
    | .ok document => .ok (.jwk "RSA" document)
    | .error _ => .error .other
  else .ok (.secret key.keyMaterial)

/-- The key a token's header names. -/
def namedKey {ε : Type} (header : List (String × Json)) (keys : List SigningKey) :
    Program Server ε (Option SigningKey) :=
  match (textMember header "kid").filter (· != "") with
  | some kid => find kid keys
  | none => pure none

/-- `decode_access_token` with the process's keys. -/
def decodeAccessToken (env : Env) (token secret issuer : String) :
    Program Server DecodeError Claims := do
  let .ok header := env.platform.jwt.unverifiedHeader token | throw .pyjwt
  if textMember header "typ" != some "at+JWT" then
    throw .pyjwt
  let keys ← ambient .keys
  let payload ← match ← namedKey header keys with
    | some key => do
        let verifyKey ← Program.ofExcept (verifyKeyOf env key)
        decodeOrRaise env token issuer verifyKey key.algorithm
    | none => do
        let candidates ← activeKeysForAlg "HS256" keys
        match ← decodeWithAny env token issuer candidates with
        | some payload => pure payload
        | none =>
            decodeOrRaise env token issuer (.secret (Text.utf8Encode secret.toList)) "HS256"
  match claimsOf env payload with
  | some claims => pure claims
  | none => throw .validation

end OAuth2Server.KeySet
