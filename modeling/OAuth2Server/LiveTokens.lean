import OAuth2Server.KeyRotation
import OAuth2Server.TokenBinding

/-!
# Rotation and the tokens already issued

A rotation replaces the current key of one algorithm, keeps the replaced one
for its grace period and drops what has expired. A token finds its key again by
`kid`: that is the key it was signed with as long as no two active keys have
the same one.
-/

namespace OAuth2Server.LiveTokens

open OAuth2Server Models JsonText Storage Effects Interaction Interaction.Program
open ClientAuth Issuance KeySet KeyRotation ReferenceJwt Runs TokenBinding

set_option autoImplicit false

/-! ### Rotations -/

/-- One call of `rotate_key`, with the key material it draws. -/
structure Rotation where
  request : RotateRequest
  keyMaterial : List Nat
  time : Nat

def Rotation.algorithm (rotation : Rotation) : String := rotation.request.algorithm.getD "RS256"

def Rotation.kid (rotation : Rotation) : String := rotatedKid rotation.algorithm rotation.time

def Rotation.graceHours (config : Config) (rotation : Rotation) : Int :=
  rotation.request.gracePeriodHours.getD config.keyRotationGraceHours

def Rotation.newKey (rotation : Rotation) : SigningKey :=
  generateSigningKey rotation.algorithm rotation.kid rotation.keyMaterial rotation.time

/-- The keys after the call; a refused request leaves them alone. -/
def Rotation.apply (config : Config) (keys : List SigningKey) (rotation : Rotation) :
    List SigningKey :=
  match rotateKey config rotation.request rotation.keyMaterial rotation.time keys with
  | .ok (_, rotated) => rotated
  | .error _ => keys

def rotatedKeys (config : Config) (start : Nat) (rotations : List Rotation) : List SigningKey :=
  rotations.foldl (Rotation.apply config) (seedKeyset config start)

theorem rotate_key_ok {config : Config} {request : RotateRequest} {keyMaterial : List Nat}
    {now : Instant} {keys rotated : List SigningKey} {newKey : SigningKey}
    (ok : rotateKey config request keyMaterial now keys = .ok (newKey, rotated)) :
    (request.algorithm.getD "RS256" = "HS256" ∨ request.algorithm.getD "RS256" = "RS256") ∧
      newKey = generateSigningKey (request.algorithm.getD "RS256")
        (rotatedKid (request.algorithm.getD "RS256") now) keyMaterial now ∧
      rotated = pruneExpired now (rotate newKey
        (request.gracePeriodHours.getD config.keyRotationGraceHours * 3600) now keys) := by
  unfold rotateKey at ok
  extract_lets algorithm hours generated accepted bounded signed at ok
  split at ok
  · cases ok
  · rename_i known
    have listed : algorithm = "HS256" ∨ algorithm = "RS256" := by
      rw [or_iff_not_imp_left]
      simpa [List.contains_eq_mem] using known
    change (if hours < 0 then _ else _) = _ at ok
    split at ok
    · cases ok
    · change (if maxGracePeriodHours < hours then _ else _) = _ at ok
      split at ok
      · cases ok
      · obtain ⟨made, left⟩ := Prod.mk.inj (Except.ok.inj ok)
        refine ⟨listed, made.symm, ?_⟩
        rw [← made]
        exact left.symm

/-- A request is refused, or it rotates one of the two algorithms and prunes. -/
theorem apply_cases (config : Config) (keys : List SigningKey) (rotation : Rotation) :
    rotation.apply config keys = keys ∨
      (rotation.algorithm = "HS256" ∨ rotation.algorithm = "RS256") ∧
        rotation.apply config keys = pruneExpired rotation.time
          (rotate rotation.newKey (rotation.graceHours config * 3600) rotation.time keys) := by
  unfold Rotation.apply
  generalize outcome : rotateKey config rotation.request rotation.keyMaterial rotation.time keys =
    result
  cases result with
  | error message => exact .inl rfl
  | ok changed =>
      obtain ⟨newKey, rotated⟩ := changed
      obtain ⟨listed, rfl, rfl⟩ := rotate_key_ok outcome
      exact .inr ⟨listed, rfl⟩

/-- The new key's id is that of no other active key, except one that this very
rotation retires without grace. -/
def Rotation.Fresh (config : Config) (keys : List SigningKey) (rotation : Rotation) : Prop :=
  ∀ key ∈ keys, activeAt rotation.time key = true → key.kid = rotation.kid →
    key.algorithm = rotation.algorithm ∧ key.isCurrent = true ∧ rotation.graceHours config = 0

def FreshAlong (config : Config) : List SigningKey → List Rotation → Prop
  | _, [] => True
  | keys, rotation :: rest =>
      rotation.Fresh config keys ∧ FreshAlong config (rotation.apply config keys) rest

theorem FreshAlong.initial {config : Config} {before after : List Rotation} {keys : List SigningKey}
    (fresh : FreshAlong config keys (before ++ after)) : FreshAlong config keys before := by
  induction before generalizing keys with
  | nil => trivial
  | cons rotation rest induction => exact ⟨fresh.1, induction fresh.2⟩

/-! ### What every key set keeps -/

/-- Active keys have different ids, current keys do not expire, and one of them
is an HS256 key. -/
structure Orderly (time : Nat) (keys : List SigningKey) : Prop where
  named : ∀ key ∈ keys, key.kid ≠ ""
  known : ∀ key ∈ keys, key.algorithm = "HS256" ∨ key.algorithm = "RS256"
  lasting : ∀ key ∈ keys, key.isCurrent = true → key.expiresAt = none
  secret : ∃ key ∈ keys, key.algorithm = "HS256" ∧ key.isCurrent = true
  distinct : (keys.filter (activeAt time)).Pairwise fun one other => one.kid ≠ other.kid

theorem active_earlier {earlier later : Nat} (order : earlier ≤ later) {key : SigningKey}
    (active : activeAt later key = true) : activeAt earlier key = true := by
  unfold activeAt at active ⊢
  cases expires : key.expiresAt with
  | none => rfl
  | some expiresAt =>
      rw [expires] at active
      simp only [decide_eq_true_eq] at active ⊢
      have before : (earlier : Instant) ≤ later := by exact_mod_cast order
      exact lt_of_le_of_lt before active

theorem Orderly.later {time later : Nat} {keys : List SigningKey} (orderly : Orderly time keys)
    (order : time ≤ later) : Orderly later keys where
  named := orderly.named
  known := orderly.known
  lasting := orderly.lasting
  secret := orderly.secret
  distinct := by
    have fewer : (keys.filter (activeAt later)).Sublist (keys.filter (activeAt time)) := by
      refine List.monotone_filter_right keys ?_
      intro key active
      exact active_earlier order active
    exact orderly.distinct.sublist fewer

/-- A key of the set as the rotation leaves it. -/
def Rotation.retire (config : Config) (rotation : Rotation) (key : SigningKey) : SigningKey :=
  if key.algorithm == rotation.algorithm && key.isCurrent then
    { key with
      isCurrent := false
      expiresAt := some (rotation.time + seconds (rotation.graceHours config * 3600)) }
  else key

theorem rotate_eq (config : Config) (keys : List SigningKey) (rotation : Rotation) :
    rotate rotation.newKey (rotation.graceHours config * 3600) rotation.time keys =
      keys.map (rotation.retire config) ++ [rotation.newKey] := rfl

section Retire

variable {config : Config} {rotation : Rotation} {key : SigningKey}

@[simp] theorem retire_kid : (rotation.retire config key).kid = key.kid := by
  unfold Rotation.retire
  split <;> rfl

@[simp] theorem retire_algorithm : (rotation.retire config key).algorithm = key.algorithm := by
  unfold Rotation.retire
  split <;> rfl

@[simp] theorem retire_material : (rotation.retire config key).keyMaterial = key.keyMaterial := by
  unfold Rotation.retire
  split <;> rfl

theorem retire_current (current : (rotation.retire config key).isCurrent = true) :
    rotation.retire config key = key ∧ key.isCurrent = true := by
  unfold Rotation.retire at current ⊢
  split at current
  · cases current
  · rename_i untouched
    rw [if_neg untouched]
    exact ⟨rfl, current⟩

/-- A current key was active before it was retired, every other is unchanged. -/
theorem retire_active (lasting : key.isCurrent = true → key.expiresAt = none) {time : Nat}
    (active : activeAt time (rotation.retire config key) = true) : activeAt time key = true := by
  unfold Rotation.retire at active
  split at active
  · rename_i replaced
    have current : key.isCurrent = true := by
      simp only [Bool.and_eq_true] at replaced
      exact replaced.2
    unfold activeAt
    rw [lasting current]
  · exact active

/-- A fresh rotation leaves no active key with the new one's id. -/
theorem retire_other_kid {keys : List SigningKey} (fresh : rotation.Fresh config keys)
    (member : key ∈ keys) (lasting : key.isCurrent = true → key.expiresAt = none)
    (active : activeAt rotation.time (rotation.retire config key) = true) :
    key.kid ≠ rotation.kid := by
  intro same
  obtain ⟨algorithm, current, graceless⟩ := fresh key member (retire_active lasting active) same
  unfold Rotation.retire activeAt at active
  simp [algorithm, current, graceless, seconds] at active

end Retire

theorem rotated_kid_named (rotation : Rotation) : rotation.kid ≠ "" := by
  unfold Rotation.kid rotatedKid
  intro empty
  have letters := congrArg String.toList empty
  simp at letters

theorem new_key_active (rotation : Rotation) (time : Nat) :
    activeAt time rotation.newKey = true := rfl

theorem new_key_kid (rotation : Rotation) : rotation.newKey.kid = rotation.kid := rfl

theorem Orderly.rotated {config : Config} {keys : List SigningKey} {rotation : Rotation}
    (orderly : Orderly rotation.time keys) (fresh : rotation.Fresh config keys)
    (listed : rotation.algorithm = "HS256" ∨ rotation.algorithm = "RS256") :
    Orderly rotation.time (pruneExpired rotation.time
      (keys.map (rotation.retire config) ++ [rotation.newKey])) := by
  have origin : ∀ key ∈ pruneExpired rotation.time
      (keys.map (rotation.retire config) ++ [rotation.newKey]),
      key = rotation.newKey ∨ ∃ old ∈ keys, key = rotation.retire config old := by
    intro key member
    have listed := List.mem_of_mem_filter member
    rcases List.mem_append.1 listed with retired | added
    · obtain ⟨old, held, rfl⟩ := List.mem_map.1 retired
      exact .inr ⟨old, held, rfl⟩
    · exact .inl (List.mem_singleton.1 added)
  constructor
  case named =>
    intro key member
    rcases origin key member with rfl | ⟨old, held, rfl⟩
    · exact rotated_kid_named rotation
    · rw [retire_kid]
      exact orderly.named old held
  case known =>
    intro key member
    rcases origin key member with rfl | ⟨old, held, rfl⟩
    · exact listed
    · rw [retire_algorithm]
      exact orderly.known old held
  case lasting =>
    intro key member current
    rcases origin key member with rfl | ⟨old, held, rfl⟩
    · rfl
    · obtain ⟨same, was⟩ := retire_current current
      rw [same]
      exact orderly.lasting old held was
  case secret =>
    by_cases shared : rotation.algorithm = "HS256"
    · refine ⟨rotation.newKey, ?_, shared, rfl⟩
      exact List.mem_filter.2 ⟨by simp, new_key_active rotation _⟩
    · obtain ⟨key, held, algorithm, current⟩ := orderly.secret
      have other : (key.algorithm == rotation.algorithm) = false := by
        rw [algorithm]
        simpa using fun same => shared same.symm
      have untouched : rotation.retire config key = key := by
        unfold Rotation.retire
        simp [other]
      have active : activeAt rotation.time key = true := by
        unfold activeAt
        rw [orderly.lasting key held current]
      refine ⟨key, List.mem_filter.2 ⟨?_, active⟩, algorithm, current⟩
      refine List.mem_append_left _ (List.mem_map.2 ⟨key, held, untouched⟩)
  case distinct =>
    have pruned : (pruneExpired rotation.time
        (keys.map (rotation.retire config) ++ [rotation.newKey])).filter
          (activeAt rotation.time) =
        (keys.filter (activeAt rotation.time ∘ rotation.retire config)).map
          (rotation.retire config) ++ [rotation.newKey] := by
      unfold pruneExpired
      rw [List.filter_filter]
      simp [List.filter_append, List.filter_map, new_key_active]
    rw [pruned, List.pairwise_append]
    refine ⟨?_, List.pairwise_singleton _ _, ?_⟩
    · rw [List.pairwise_map]
      simp only [retire_kid]
      have survivors : (keys.filter (activeAt rotation.time ∘ rotation.retire config)).Sublist
          (keys.filter (activeAt rotation.time)) := by
        have narrowed : keys.filter (activeAt rotation.time ∘ rotation.retire config) =
            (keys.filter (activeAt rotation.time)).filter
              (activeAt rotation.time ∘ rotation.retire config) := by
          rw [List.filter_filter]
          refine List.filter_congr fun key held => ?_
          rw [Bool.eq_iff_iff, Bool.and_eq_true]
          exact ⟨fun active => ⟨active, retire_active (orderly.lasting key held) active⟩, And.left⟩
        rw [narrowed]
        exact List.filter_sublist
      exact orderly.distinct.sublist survivors
    · intro key member added new
      obtain ⟨old, survives, rfl⟩ := List.mem_map.1 member
      obtain ⟨held, active⟩ := List.mem_filter.1 survives
      rw [List.mem_singleton.1 new, retire_kid, new_key_kid]
      exact retire_other_kid fresh held (orderly.lasting old held) active

theorem Orderly.run {config : Config} {rotations : List Rotation} {keys : List SigningKey}
    {time now : Nat} (orderly : Orderly time keys)
    (ordered : (time :: (rotations.map Rotation.time ++ [now])).Pairwise (· ≤ ·))
    (fresh : FreshAlong config keys rotations) :
    Orderly now (rotations.foldl (Rotation.apply config) keys) := by
  induction rotations generalizing keys time with
  | nil =>
      have order := List.rel_of_pairwise_cons ordered (List.mem_singleton_self now)
      exact orderly.later order
  | cons rotation rest induction =>
      obtain ⟨first, others⟩ := fresh
      have order : time ≤ rotation.time := List.rel_of_pairwise_cons ordered List.mem_cons_self
      have reached := orderly.later order
      have stepped : Orderly rotation.time (rotation.apply config keys) := by
        rcases apply_cases config keys rotation with refused | ⟨listed, rotated⟩
        · rw [refused]
          exact reached
        · rw [rotated, rotate_eq]
          exact reached.rotated first listed
      exact induction stepped (List.pairwise_cons.1 ordered).2 others

theorem seeded_orderly {config : Config} {start : Nat}
    (seeds : ((seedKeyset config start).map SigningKey.kid).Nodup) :
    Orderly start (seedKeyset config start) := by
  have distinct : ((seedKeyset config start).filter (activeAt start)).Pairwise
      fun one other => one.kid ≠ other.kid :=
    (List.pairwise_map.1 seeds).sublist List.filter_sublist
  unfold seedKeyset at distinct ⊢
  cases pem : config.idTokenPrivateKeyPem.filter (· != "") with
  | none =>
      rw [pem] at distinct
      exact ⟨by simp, by simp, by simp, by simp, distinct⟩
  | some text =>
      rw [pem] at distinct
      have named : (config.idTokenKid.filter (· != "")).getD "rs256-initial" ≠ "" := by
        cases config.idTokenKid with
        | none => decide
        | some kid =>
            by_cases empty : kid = ""
            · subst empty
              decide
            · simp [Option.filter_some, empty]
      exact ⟨by simpa using named, by simp, by simp, by simp, distinct⟩

/-! ### Signing and finding the key again -/

/-- The key an access token is signed with. -/
def signingKeyAt (time : Nat) (keys : List SigningKey) : Option SigningKey :=
  (currentAt "RS256" time keys).or (currentAt "HS256" time keys)

theorem Orderly.signer {time : Nat} {keys : List SigningKey} (orderly : Orderly time keys) :
    ∃ signer, signingKeyAt time keys = some signer ∧ signer ∈ keys := by
  unfold signingKeyAt
  cases found : currentAt "RS256" time keys with
  | some signer => exact ⟨signer, rfl, List.mem_of_find?_eq_some found⟩
  | none =>
      obtain ⟨key, held, algorithm, current⟩ := orderly.secret
      have active : activeAt time key = true := by
        unfold activeAt
        rw [orderly.lasting key held current]
      cases shared : currentAt "HS256" time keys with
      | some signer => exact ⟨signer, rfl, List.mem_of_find?_eq_some shared⟩
      | none =>
          have missed := List.find?_eq_none.1 shared key held
          simp [algorithm, current, active] at missed

/-- The key object of a set that another one was, before any rotation. -/
structure SameKey (signer held : SigningKey) : Prop where
  kid : held.kid = signer.kid
  algorithm : held.algorithm = signer.algorithm
  material : held.keyMaterial = signer.keyMaterial
  created : held.createdAt = signer.createdAt

/-- An active key is found by its id. -/
theorem Orderly.finds {time : Nat} {keys : List SigningKey} (orderly : Orderly time keys)
    {key : SigningKey} (member : key ∈ keys) (active : activeAt time key = true) :
    findAt key.kid time keys = some key := by
  have distinct : ((keys.filter (activeAt time)).map SigningKey.kid).Nodup :=
    List.pairwise_map.2 orderly.distinct
  have matching : (key.kid == key.kid && activeAt time key) = true := by simp [active]
  have present : (findAt key.kid time keys).isSome = true :=
    List.find?_isSome.2 ⟨key, member, matching⟩
  obtain ⟨found, finds⟩ := Option.isSome_iff_exists.1 present
  have facts := List.find?_some finds
  simp only [Bool.and_eq_true, beq_iff_eq] at facts
  have same : found = key := by
    refine List.inj_on_of_nodup_map distinct ?_ ?_ facts.1
    · exact List.mem_filter.2 ⟨List.mem_of_find?_eq_some finds, facts.2⟩
    · exact List.mem_filter.2 ⟨member, active⟩
  rw [← same]
  rw [← same] at finds
  exact finds

/-- The objects a request carries are objects. -/
structure Typed (request : IssueRequest) : Prop where
  cnf : ∀ value, request.cnf = some value → value.isObj = true
  details : ∀ items, request.authorizationDetails = some items → ∀ item ∈ items, item.isObj = true
  act : ∀ value, request.act = some value → value.isObj = true

/-- The claims of a token issued at a time. -/
def claimsAt (env : Env) (request : IssueRequest) (time : Nat) (jti : String) : Claims where
  sub := subjectOf request
  iss := env.config.issuer
  aud := audienceOf request
  exp := timestamp time + env.config.accessTokenTtlSecs
  iat := timestamp time
  scope := request.scope
  jti := jti
  clientId := some request.client.clientId
  cnf := request.cnf
  authorizationDetails := request.authorizationDetails
  act := request.act

/-- What the library is handed to sign with a key. -/
def signedToken (env : Env) (claims : Claims) (signer : SigningKey) : String :=
  env.platform.jwt.encode claims.toPayload signer.keyMaterial signer.algorithm
    [("typ", "at+JWT"), ("kid", signer.kid)]

section Issue

variable {env : Env} {offset : ℚ} {time : Nat}

theorem returns_signing_key {ε : Type} (env : Env) (offset : ℚ) (time : Nat) (world : World) :
    Ends (atTime env offset time) (accessSigningKey : Program Server ε (Option SigningKey)) world
      (.ok (signingKeyAt time world.process.keys)) := by
  have keys : Ends (atTime env offset time) (ambient .keys : Program Server ε (List SigningKey))
      world (.ok world.process.keys) := ⟨world, rfl, Elapsed.refl world⟩
  unfold accessSigningKey signingKeyAt
  refine keys.bind fun _ _ => (returns_current env offset time "RS256" _ _).bind fun found _ => ?_
  cases currentAt "RS256" time world.process.keys with
  | some key => exact ends_pure _ _ _
  | none => exact returns_current env offset time "HS256" _ found

theorem encode_signed {claims : Claims} {signer : SigningKey} {token : String}
    (encodes : encodeAccessToken env claims (some signer) = some token) :
    env.platform.jwt.usable signer.keyMaterial signer.algorithm = true ∧
      token = signedToken env claims signer := by
  change jwtEncode env claims.toPayload signer.keyMaterial signer.algorithm _ = _ at encodes
  unfold jwtEncode at encodes
  split at encodes
  · rename_i usable
    exact ⟨usable, (Option.some.inj encodes).symm⟩
  · cases encodes

/-- A minted token is signed with the signing key of the moment. -/
theorem mint_signs (signed : env.config.accessTokensOpaque = false) {request : IssueRequest}
    {world later : World} {token : String} {signer : SigningKey}
    (signing : signingKeyAt time world.process.keys = some signer)
    (minted : (mintAccessToken (atTime env offset time) request).run (atTime env offset time).interp
      world = (.ok token, later)) :
    env.platform.jwt.usable signer.keyMaterial signer.algorithm = true ∧
      ∃ jti, token = signedToken env (claimsAt env request time jti) signer := by
  unfold mintAccessToken at minted
  have mode : (atTime env offset time).config.accessTokensOpaque = false := signed
  rw [mode] at minted
  simp only [Bool.false_eq_true, if_false] at minted
  obtain ⟨claims, claimed, made, rest⟩ := run_bind_eq_ok minted
  cases made
  obtain ⟨key, reached, chosen, encoded⟩ := run_bind_eq_ok rest
  obtain ⟨_, ran, _⟩ := returns_signing_key (ε := Raised) env offset time _
  have picked : key = some signer := by
    cases ran.symm.trans chosen
    exact signing
  subst picked
  generalize outcome : encodeAccessToken (atTime env offset time) _ (some signer) = result
    at encoded
  cases result with
  | none => cases encoded
  | some text =>
      cases encoded
      obtain ⟨usable, same⟩ := encode_signed outcome
      exact ⟨usable, _, same⟩

theorem issue_signs (signed : env.config.accessTokensOpaque = false) {request : IssueRequest}
    {world later : World} {response : TokenResponse} {signer : SigningKey}
    (signing : signingKeyAt time world.process.keys = some signer)
    (issued : (issue (atTime env offset time) request).run (atTime env offset time).interp world =
      (.ok response, later)) :
    env.platform.jwt.usable signer.keyMaterial signer.algorithm = true ∧
      ∃ jti, response.accessToken = signedToken env (claimsAt env request time jti) signer := by
  unfold issue at issued
  obtain ⟨_, entered, enters, rest⟩ := run_bind_eq_ok issued
  cases enters
  obtain ⟨token, minted, mints, saves⟩ := run_bind_eq_ok rest
  obtain ⟨usable, jti, same⟩ := mint_signs signed signing mints
  refine ⟨usable, jti, ?_⟩
  rw [← same]
  refine (?_ : Yields (fun response : TokenResponse => response.accessToken = token) _).run saves
  extract_lets recorded
  have carried : ∀ refresh,
      Yields (fun response : TokenResponse => response.accessToken = token) (recorded refresh) := by
    intro refresh
    refine yields_bind fun now => yields_bind fun id => yields_bind fun createdAt => ?_
    exact yields_bind fun saved => yields_bind fun _ => rfl
  split
  · exact yields_bind carried
  · exact carried none

section Claims

variable {request : IssueRequest} {jti : String}

theorem payload_lookup (name : String)
    (other : [("sub"), "iss", "aud", "exp", "iat", "scope", "jti", "client_id"].contains name = false) :
    (payloadMembers (claimsAt env request time jti)).lookup name =
      (optionalMember "cnf" request.cnf ++
        (optionalMember "authorization_details" (request.authorizationDetails.map .arr) ++
          (optionalMember "act" request.act ++ []))).lookup name := by
  simp only [List.contains_cons, List.contains_nil, Bool.or_eq_false_iff] at other
  obtain ⟨sub, iss, aud, exp, iat, scope, identifier, client, -⟩ := other
  unfold payloadMembers claimsAt
  simp only [Option.map_some, optionalMember, List.append_assoc, List.cons_append, List.nil_append,
    List.lookup_cons, sub, iss, aud, exp, iat, scope, identifier, client, List.append_nil]

theorem payload_details :
    (payloadMembers (claimsAt env request time jti)).lookup "authorization_details" =
      request.authorizationDetails.map .arr := by
  rw [payload_lookup _ (by decide), lookup_optional _ _ (by decide)]
  cases request.authorizationDetails with
  | none =>
      change (optionalMember "act" request.act ++ []).lookup _ = none
      rw [lookup_optional _ _ (by decide)]
      rfl
  | some items => rfl

theorem payload_act :
    (payloadMembers (claimsAt env request time jti)).lookup "act" = request.act := by
  rw [payload_lookup _ (by decide), lookup_optional _ _ (by decide),
    lookup_optional _ _ (by decide)]
  cases request.act <;> rfl

theorem as_dict_obj {value : Json} (object : value.isObj = true) : asDict value = some value := by
  unfold asDict
  rw [if_pos object]

theorem dict_field {payload : List (String × Json)} {name : String} {value : Option Json}
    (found : payload.lookup name = value)
    (object : ∀ json, value = some json → json.isObj = true) :
    optionalField payload name asDict = some value := by
  unfold optionalField
  rw [found]
  cases value with
  | none => rfl
  | some json =>
      have dict := object json rfl
      cases json with
      | obj members => rfl
      | _ => cases dict

theorem dicts_read {items : List Json} (objects : ∀ item ∈ items, item.isObj = true) :
    items.mapM asDict = some items := by
  induction items with
  | nil => rfl
  | cons item rest induction =>
      have first := as_dict_obj (objects item List.mem_cons_self)
      have others := induction fun other member => objects other (List.mem_cons_of_mem _ member)
      simp [List.mapM_cons, first, others]

/-- The claims of an issued token are read back. -/
theorem claims_of_payload (ints : ∀ number, env.platform.coerceInt (.int number) = some number)
    (typed : Typed request) :
    claimsOf env (payloadMembers (claimsAt env request time jti)) =
      some (claimsAt env request time jti) := by
  generalize made : claimsAt env request time jti = claims
  have audience : audienceList (payloadMembers claims) = some claims.aud := by
    have nonempty : claims.aud ≠ [] := by
      rw [← made]
      exact audience_of_nonempty request
    unfold audienceList
    rw [payload_aud]
    generalize claims.aud = audience at nonempty ⊢
    rcases audience with _ | ⟨first, _ | ⟨second, rest⟩⟩
    · exact absurd rfl nonempty
    · rfl
    · exact str_of_strs _
  have cnf : optionalField (payloadMembers claims) "cnf" asDict = some claims.cnf := by
    refine dict_field (payload_cnf claims) ?_
    rw [← made]
    exact typed.cnf
  have act : optionalField (payloadMembers claims) "act" asDict = some claims.act := by
    rw [← made]
    exact dict_field payload_act typed.act
  have details : optionalField (payloadMembers claims) "authorization_details" asDictList =
      some claims.authorizationDetails := by
    rw [← made]
    unfold optionalField
    rw [payload_details]
    change _ = some request.authorizationDetails
    cases objects : request.authorizationDetails with
    | none => rfl
    | some items =>
        have read := dicts_read (typed.details items objects)
        change (items.mapM asDict).map some = _
        rw [read]
        rfl
  have client : optionalField (payloadMembers claims) "client_id" Json.str? =
      some claims.clientId := by
    rw [← made]
    rfl
  have text : textMember (payloadMembers claims) "sub" = some claims.sub ∧
      textMember (payloadMembers claims) "iss" = some claims.iss ∧
      textMember (payloadMembers claims) "scope" = some claims.scope ∧
      textMember (payloadMembers claims) "jti" = some claims.jti := ⟨rfl, rfl, rfl, rfl⟩
  obtain ⟨sub, iss, scope, identifier⟩ := text
  have exp : ((payloadMembers claims).lookup "exp").bind env.platform.coerceInt =
      some claims.exp := ints claims.exp
  have iat : ((payloadMembers claims).lookup "iat").bind env.platform.coerceInt =
      some claims.iat := ints claims.iat
  unfold claimsOf
  rw [sub, iss, audience, exp, iat, scope, identifier, client, cnf, details, act]
  rfl

end Claims

/-- An unexpired token is current. -/
theorem payload_current {request : IssueRequest} {jti : String} {now : Nat} (order : time ≤ now)
    (unexpired : epochSeconds now < (timestamp time + env.config.accessTokenTtlSecs : Int)) :
    Current (payloadMembers (claimsAt env request time jti)) env.config.issuer now where
  issuer := rfl
  subject := ⟨_, rfl⟩
  identifier := ⟨_, rfl⟩
  expiry := ⟨_, rfl, unexpired⟩
  issuedAt := by
    refine ⟨timestamp time, rfl, ?_⟩
    have floored : timestamp time ≤ timestamp now :=
      Int.ediv_le_ediv (by decide) (by exact_mod_cast order)
    have below : ((timestamp now : Int) : ℚ) ≤ epochSeconds now := by
      unfold timestamp epochSeconds
      rw [le_div_iff₀ (by norm_num)]
      exact_mod_cast Nat.div_mul_le_self now 1000000
    exact le_trans (by exact_mod_cast floored) below
  notBefore := by
    rw [payload_lookup _ (by decide), lookup_optional _ _ (by decide),
      lookup_optional _ _ (by decide), lookup_optional _ _ (by decide)]
    rfl

end Issue

/-! ### Unexpired tokens decode -/

/-- The token was signed with `signer`, which is `held` in the key set now. -/
theorem signed_token_decodes {env : Env} {request : IssueRequest} {issued now : Nat} {jti : String}
    {signer held : SigningKey} {keys : List SigningKey} (signs : SignsAndVerifies env.platform.jwt)
    (ints : ∀ number, env.platform.coerceInt (.int number) = some number) (typed : Typed request)
    (usable : env.platform.jwt.usable signer.keyMaterial signer.algorithm = true)
    (listed : signer.algorithm = "HS256" ∨ signer.algorithm = "RS256") (named : signer.kid ≠ "")
    (same : SameKey signer held) (finds : findAt signer.kid now keys = some held)
    (order : issued ≤ now)
    (unexpired : epochSeconds now < (timestamp issued + env.config.accessTokenTtlSecs : Int)) :
    decodeAt env (signedToken env (claimsAt env request issued jti) signer) env.config.jwtSecret
      env.config.issuer now keys = .ok (claimsAt env request issued jti) := by
  have current : Current (payloadMembers (claimsAt env request issued jti)) env.config.issuer now :=
    payload_current order unexpired
  obtain ⟨header, read, members⟩ := signs.header (payloadMembers (claimsAt env request issued jti))
    signer.keyMaterial signer.algorithm [("typ", "at+JWT"), ("kid", signer.kid)]
  have typ : textMember header "typ" = some "at+JWT" := by
    unfold textMember
    rw [members "typ" "at+JWT" (by decide) rfl]
    rfl
  have kid : textMember header "kid" = some signer.kid := by
    unfold textMember
    rw [members "kid" signer.kid (by decide) rfl]
    rfl
  have naming : namedAt header now keys = some held := by
    unfold namedAt
    rw [kid, Option.filter_some, if_pos (by simpa using named)]
    exact finds
  have verified : ∃ verifyKey, verifyKeyOf env held = .ok verifyKey ∧
      decodeWith env (signedToken env (claimsAt env request issued jti) signer) env.config.issuer
        verifyKey held.algorithm now = .ok (payloadMembers (claimsAt env request issued jti)) := by
    unfold verifyKeyOf
    rw [same.algorithm, same.material]
    rcases listed with secret | rsa
    · rw [secret] at usable
      have accepted := signs.secret _ signer.keyMaterial [("typ", "at+JWT"), ("kid", signer.kid)]
        _ _ usable current
      rw [secret]
      refine ⟨.secret signer.keyMaterial, rfl, ?_⟩
      unfold signedToken
      rw [secret]
      exact accepted
    · rw [rsa] at usable
      obtain ⟨document, derived, accepts⟩ := signs.rsa _ usable
      have accepted := accepts _ [("typ", "at+JWT"), ("kid", signer.kid)] _ _ current
      rw [rsa, derived]
      refine ⟨.jwk "RSA" document, rfl, ?_⟩
      unfold signedToken
      rw [rsa]
      exact accepted
  obtain ⟨verifyKey, derived, accepted⟩ := verified
  exact decodes_of_payload read typ (named_payload naming derived accepted)
    (claims_of_payload ints typed)

/-- Every access token issued from the first key set decodes under the second
while it is unexpired and the key that signed it is active; that key is the one
its `kid` finds. -/
def KeepsDecoding (env : Env) (offset : ℚ) (issued : Nat) (earlier : List SigningKey) (now : Nat)
    (keys : List SigningKey) : Prop :=
  ∀ (request : IssueRequest) (world reader later : World) (response : TokenResponse),
    Typed request →
    (issue (atTime env offset issued) request).run (atTime env offset issued).interp
      (holding earlier world) = (.ok response, later) →
    ∃ signer, signingKeyAt issued earlier = some signer ∧
      ∀ held ∈ keys, SameKey signer held → activeAt now held = true →
        epochSeconds now < (timestamp issued + env.config.accessTokenTtlSecs : Int) →
          findAt signer.kid now keys = some held ∧
            ∃ claims after,
              (decodeAccessToken (atTime env offset now) response.accessToken env.config.jwtSecret
                env.config.issuer).run (atTime env offset now).interp (holding keys reader) =
                  (.ok claims, after)

/-- No rotation breaks a live token, if no key is given the id of an active one. -/
theorem live_tokens_decode (env : Env) (offset : ℚ) (signs : SignsAndVerifies env.platform.jwt)
    (ints : ∀ number, env.platform.coerceInt (.int number) = some number)
    (signed : env.config.accessTokensOpaque = false) (start issued now : Nat)
    (before after : List Rotation)
    (ordered : (start :: (before.map Rotation.time ++ issued :: (after.map Rotation.time ++
      [now]))).Pairwise (· ≤ ·))
    (seeds : ((seedKeyset env.config start).map SigningKey.kid).Nodup)
    (fresh : FreshAlong env.config (seedKeyset env.config start) (before ++ after)) :
    KeepsDecoding env offset issued (rotatedKeys env.config start before) now
      (rotatedKeys env.config start (before ++ after)) := by
  have seeded := seeded_orderly seeds
  have begun : Orderly issued (rotatedKeys env.config start before) := by
    have times : (start :: (before.map Rotation.time ++ [issued])).Sublist
        (start :: (before.map Rotation.time ++ issued :: (after.map Rotation.time ++ [now]))) := by
      simp
    exact seeded.run (ordered.sublist times) fresh.initial
  have ended : Orderly now (rotatedKeys env.config start (before ++ after)) := by
    have times : (start :: ((before ++ after).map Rotation.time ++ [now])).Sublist
        (start :: (before.map Rotation.time ++ issued :: (after.map Rotation.time ++ [now]))) := by
      simp
    exact seeded.run (ordered.sublist times) fresh
  have order : issued ≤ now := by
    have tail := List.pairwise_append.1 (List.pairwise_cons.1 ordered).2
    exact List.rel_of_pairwise_cons tail.2.1 (by simp)
  intro request world reader later response typed issues
  obtain ⟨signer, signing, member⟩ := begun.signer
  obtain ⟨usable, jti, token⟩ := issue_signs signed signing issues
  refine ⟨signer, signing, ?_⟩
  intro held holds same active unexpired
  have finds : findAt signer.kid now (rotatedKeys env.config start (before ++ after)) =
      some held := by
    rw [← same.kid]
    exact ended.finds holds active
  have decoded : decodeAt env response.accessToken env.config.jwtSecret env.config.issuer now
      (rotatedKeys env.config start (before ++ after)) = .ok (claimsAt env request issued jti) := by
    rw [token]
    exact signed_token_decodes signs ints typed usable (begun.known signer member)
      (begun.named signer member) same finds order unexpired
  obtain ⟨after, ran, _⟩ := ends_decode env offset now response.accessToken env.config.jwtSecret
    env.config.issuer (holding (rotatedKeys env.config start (before ++ after)) reader)
  refine ⟨finds, claimsAt env request issued jti, after, ?_⟩
  rw [ran, ← decoded]
  rfl

/-! Two rotations of the HS256 key, an hour of grace each. -/

def rotatedAt (material time : Nat) : Rotation where
  request := { algorithm := some "HS256", gracePeriodHours := some 1 }
  keyMaterial := [material]
  time := time

def liveRequest : IssueRequest where
  client := sampleClient
  userId := some "alice"
  scope := "read"
  withRefresh := false

theorem live_request_typed : Typed liveRequest := ⟨by simp [liveRequest], by simp [liveRequest],
  by simp [liveRequest]⟩

theorem live_token_issued (keys : List SigningKey)
    (evaluated : ((issue (atTime rotationEnv 0 2000000) liveRequest).run
      (atTime rotationEnv 0 2000000).interp (holding keys sampleTokenWorld)).1.toBool = true) :
    ∃ response later, (issue (atTime rotationEnv 0 2000000) liveRequest).run
      (atTime rotationEnv 0 2000000).interp (holding keys sampleTokenWorld) =
        (.ok response, later) := by
  generalize (issue (atTime rotationEnv 0 2000000) liveRequest).run
    (atTime rotationEnv 0 2000000).interp (holding keys sampleTokenWorld) = outcome at evaluated ⊢
  rcases outcome with ⟨raised | response, later⟩
  · cases evaluated
  · exact ⟨response, later, rfl⟩

/-- A token issued between two rotations decodes after both. -/
theorem token_outlives_rotation :
    ∃ response later claims after,
      (issue (atTime rotationEnv 0 2000000) liveRequest).run (atTime rotationEnv 0 2000000).interp
        (holding (rotatedKeys rotationEnv.config 0 [rotatedAt 1 1000000]) sampleTokenWorld) =
          (.ok response, later) ∧
      (decodeAccessToken (atTime rotationEnv 0 4000000) response.accessToken "k" "s").run
        (atTime rotationEnv 0 4000000).interp
        (holding (rotatedKeys rotationEnv.config 0 [rotatedAt 1 1000000, rotatedAt 2 3000000])
          sampleTokenWorld) = (.ok claims, after) := by
  have fresh : FreshAlong rotationEnv.config (seedKeyset rotationEnv.config 0)
      [rotatedAt 1 1000000, rotatedAt 2 3000000] := by
    unfold FreshAlong FreshAlong FreshAlong Rotation.Fresh
    decide +kernel
  have keeps := live_tokens_decode rotationEnv 0 signs_and_verifies (fun _ => rfl) rfl 0 2000000
    4000000 [rotatedAt 1 1000000] [rotatedAt 2 3000000] (by decide) (by decide) fresh
  obtain ⟨response, later, issued⟩ := live_token_issued
    (rotatedKeys rotationEnv.config 0 [rotatedAt 1 1000000]) (by decide +kernel)
  obtain ⟨signer, signing, decodes⟩ := keeps liveRequest sampleTokenWorld sampleTokenWorld later
    response live_request_typed issued
  have current : signingKeyAt 2000000 (rotatedKeys rotationEnv.config 0 [rotatedAt 1 1000000]) =
      some (rotatedAt 1 1000000).newKey := by decide +kernel
  cases current.symm.trans signing
  obtain ⟨_, claims, after, decoded⟩ := decodes
    ((rotatedAt 2 3000000).retire rotationEnv.config (rotatedAt 1 1000000).newKey)
    (by decide +kernel) ⟨rfl, rfl, rfl, rfl⟩ (by decide +kernel) (by decide +kernel)
  exact ⟨response, later, claims, after, issued, decoded⟩

/-- Two rotations in one second give two active keys one id, and the second
key's tokens find the first. -/
theorem colliding_rotation_breaks_token :
    ¬∀ (env : Env) (offset : ℚ), SignsAndVerifies env.platform.jwt →
      (∀ number, env.platform.coerceInt (.int number) = some number) →
      env.config.accessTokensOpaque = false → ∀ (start issued now : Nat)
      (before after : List Rotation), (start :: (before.map Rotation.time ++ issued ::
        (after.map Rotation.time ++ [now]))).Pairwise (· ≤ ·) →
      KeepsDecoding env offset issued (rotatedKeys env.config start before) now
        (rotatedKeys env.config start (before ++ after)) := by
  intro always
  have keeps := always rotationEnv 0 signs_and_verifies (fun _ => rfl) rfl 0 2000000 3000000
    [rotatedAt 1 1000000, rotatedAt 2 1500000] [] (by decide)
  obtain ⟨response, later, issued⟩ := live_token_issued
    (rotatedKeys rotationEnv.config 0 [rotatedAt 1 1000000, rotatedAt 2 1500000])
    (by decide +kernel)
  obtain ⟨signer, signing, decodes⟩ := keeps liveRequest sampleTokenWorld sampleTokenWorld later
    response live_request_typed issued
  have current : signingKeyAt 2000000 (rotatedKeys rotationEnv.config 0
      [rotatedAt 1 1000000, rotatedAt 2 1500000]) = some (rotatedAt 2 1500000).newKey := by
    decide +kernel
  cases current.symm.trans signing
  obtain ⟨finds, _⟩ := decodes (rotatedAt 2 1500000).newKey (by decide +kernel)
    ⟨rfl, rfl, rfl, rfl⟩ rfl (by decide +kernel)
  have first : findAt (rotatedAt 2 1500000).newKey.kid 3000000 (rotatedKeys rotationEnv.config 0
      ([rotatedAt 1 1000000, rotatedAt 2 1500000] ++ [])) ≠ some (rotatedAt 2 1500000).newKey := by
    decide +kernel
  exact first finds

end OAuth2Server.LiveTokens
