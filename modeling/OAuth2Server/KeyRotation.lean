import OAuth2Server.KeySet
import OAuth2Server.ReferenceJwt
import OAuth2Server.Runs

/-!
# Which tokens a rotated key set accepts

A token is verified with the active key its `kid` names, else with every active
HS256 key, else with the configured secret. The last of these is the material
of the first key, which no rotation takes out of use; and a rotation names its
key by the second it happens in, so two keys can share a name.
-/

namespace OAuth2Server.KeyRotation

open OAuth2Server Models JsonText Storage Effects Interaction Interaction.Program
open ClientAuth Issuance KeySet ReferenceJwt Runs

set_option autoImplicit false

/-! ### Calls at one time -/

/-- Only clock readings were made. -/
structure Elapsed (world later : World) : Prop where
  store : later.store = world.store
  keys : later.process.keys = world.process.keys

theorem Elapsed.refl (world : World) : Elapsed world world := ⟨rfl, rfl⟩

theorem Elapsed.trans {first second third : World} (earlier : Elapsed first second)
    (later : Elapsed second third) : Elapsed first third :=
  ⟨later.store.trans earlier.store, later.keys.trans earlier.keys⟩

/-- A program that ends so, having read the clock at most. -/
def Ends {ε α : Type} (env : Env) (program : Program Server ε α) (world : World)
    (outcome : Except ε α) : Prop :=
  ∃ later, program.run env.interp world = (outcome, later) ∧ Elapsed world later

section AtTime

variable {env : Env} {offset : ℚ} {time : Nat} {ε α β : Type}

theorem ends_pure (env : Env) (value : α) (world : World) :
    Ends env (pure value : Program Server ε α) world (.ok value) :=
  ⟨world, rfl, Elapsed.refl world⟩

theorem Ends.bind {program : Program Server ε β} {rest : β → Program Server ε α} {world : World}
    {middle : β} {outcome : Except ε α} (first : Ends env program world (.ok middle))
    (second : ∀ reached, Elapsed world reached → Ends env (rest middle) reached outcome) :
    Ends env (program >>= rest) world outcome := by
  obtain ⟨reached, ran, elapsed⟩ := first
  obtain ⟨later, finished, after⟩ := second reached elapsed
  refine ⟨later, ?_, elapsed.trans after⟩
  rw [run_bind, ran]
  exact finished

theorem Ends.bind_except {program : Program Server ε β} {rest : β → Program Server ε α}
    {world : World} {middle : Except ε β} {after : β → Except ε α}
    (first : Ends env program world middle)
    (second : ∀ value reached, Elapsed world reached → Ends env (rest value) reached (after value)) :
    Ends env (program >>= rest) world (middle >>= after) := by
  cases middle with
  | ok value => exact first.bind fun reached elapsed => second value reached elapsed
  | error error =>
      obtain ⟨later, ran, elapsed⟩ := first
      refine ⟨later, ?_, elapsed⟩
      rw [run_bind, ran]
      rfl

theorem returns_now (env : Env) (offset : ℚ) (time : Nat) (world : World) :
    Ends (atTime env offset time) (ambient .now : Program Server ε Instant) world
      (.ok (time : Instant)) := ⟨_, rfl, rfl, rfl⟩

theorem returns_is_active (env : Env) (offset : ℚ) (time : Nat) (key : SigningKey)
    (world : World) :
    Ends (atTime env offset time) (isActive key : Program Server ε Bool) world
      (.ok (activeAt time key)) := by
  unfold isActive activeAt
  cases key.expiresAt with
  | none => exact ends_pure _ _ _
  | some expiresAt => exact (returns_now env offset time world).bind fun _ _ => ends_pure _ _ _

/-- `KeySet.find` at a time. -/
def findAt (kid : String) (time : Nat) (keys : List SigningKey) : Option SigningKey :=
  keys.find? fun key => key.kid == kid && activeAt time key

theorem returns_find (env : Env) (offset : ℚ) (time : Nat) (kid : String) (keys : List SigningKey)
    (world : World) :
    Ends (atTime env offset time) (find kid keys : Program Server ε (Option SigningKey)) world
      (.ok (findAt kid time keys)) := by
  induction keys generalizing world with
  | nil => exact ends_pure _ _ _
  | cons key rest induction =>
      unfold KeySet.find findAt
      rw [List.find?_cons]
      cases named : key.kid == kid with
      | false => exact induction world
      | true =>
          refine (returns_is_active env offset time key world).bind fun reached _ => ?_
          cases active : activeAt time key with
          | true => exact ends_pure _ _ _
          | false => exact induction reached

/-- `KeySet.active_keys` at a time. -/
def activeKeysAt (time : Nat) (keys : List SigningKey) : List SigningKey :=
  keys.filter (activeAt time)

theorem returns_all_active (env : Env) (offset : ℚ) (time : Nat) (keys : List SigningKey)
    (world : World) :
    Ends (atTime env offset time) (activeKeys keys : Program Server ε (List SigningKey)) world
      (.ok (activeKeysAt time keys)) := by
  induction keys generalizing world with
  | nil => exact ends_pure _ _ _
  | cons key rest induction =>
      unfold activeKeys activeKeysAt
      rw [List.filter_cons]
      refine (returns_is_active env offset time key world).bind fun reached _ => ?_
      refine (induction reached).bind fun later _ => ?_
      cases active : activeAt time key <;> exact ends_pure _ _ _

/-- `KeySet.active_keys_for_alg` at a time. -/
def activeFor (alg : String) (time : Nat) (keys : List SigningKey) : List SigningKey :=
  keys.filter fun key => key.algorithm == alg && activeAt time key

theorem returns_active_keys (env : Env) (offset : ℚ) (time : Nat) (alg : String)
    (keys : List SigningKey) (world : World) :
    Ends (atTime env offset time)
      (activeKeysForAlg alg keys : Program Server ε (List SigningKey)) world
      (.ok (activeFor alg time keys)) := by
  induction keys generalizing world with
  | nil => exact ends_pure _ _ _
  | cons key rest induction =>
      unfold activeKeysForAlg activeFor
      rw [List.filter_cons]
      cases named : key.algorithm == alg with
      | false => exact induction world
      | true =>
          refine (returns_is_active env offset time key world).bind fun reached _ => ?_
          refine (induction reached).bind fun later _ => ?_
          cases active : activeAt time key <;> exact ends_pure _ _ _

/-- `KeySet.current_for_alg` at a time. -/
def currentAt (alg : String) (time : Nat) (keys : List SigningKey) : Option SigningKey :=
  keys.find? fun key => key.algorithm == alg && key.isCurrent && activeAt time key

theorem returns_current (env : Env) (offset : ℚ) (time : Nat) (alg : String)
    (keys : List SigningKey) (world : World) :
    Ends (atTime env offset time)
      (currentForAlg alg keys : Program Server ε (Option SigningKey)) world
      (.ok (currentAt alg time keys)) := by
  induction keys generalizing world with
  | nil => exact ends_pure _ _ _
  | cons key rest induction =>
      unfold currentForAlg currentAt
      rw [List.find?_cons]
      cases named : key.algorithm == alg && key.isCurrent with
      | false => exact induction world
      | true =>
          refine (returns_is_active env offset time key world).bind fun reached _ => ?_
          cases active : activeAt time key with
          | true => exact ends_pure _ _ _
          | false => exact induction reached

/-- The key a header names, at a time. -/
def namedAt (header : List (String × Json)) (time : Nat) (keys : List SigningKey) :
    Option SigningKey :=
  ((textMember header "kid").filter (· != "")).bind fun kid => findAt kid time keys

theorem returns_named (env : Env) (offset : ℚ) (time : Nat) (header : List (String × Json))
    (keys : List SigningKey) (world : World) :
    Ends (atTime env offset time)
      (namedKey header keys : Program Server ε (Option SigningKey)) world
      (.ok (namedAt header time keys)) := by
  unfold namedKey namedAt
  cases (textMember header "kid").filter (· != "") with
  | none => exact ends_pure _ _ _
  | some kid => exact returns_find env offset time kid keys world

/-! ### `decode_access_token` at a time -/

/-- The exceptions of `jwt.decode`, as `decode_access_token` passes them on. -/
def raisedBy {α : Type} : Except VerifyError α → Except DecodeError α
  | .ok value => .ok value
  | .error (.pyjwt _) => .error .pyjwt
  | .error (.other _) => .error .other

/-- The first of the keys that verifies the token. -/
def anyAt (env : Env) (token issuer : String) (time : Nat) :
    List SigningKey → Except DecodeError (Option (List (String × Json)))
  | [] => .ok none
  | key :: rest =>
      match decodeWith env token issuer (.secret key.keyMaterial) "HS256" time with
      | .ok payload => .ok (some payload)
      | .error (.pyjwt _) => anyAt env token issuer time rest
      | .error (.other _) => .error .other

/-- The payload of a token under the keys. -/
def payloadAt (env : Env) (token secret issuer : String) (time : Nat) (keys : List SigningKey)
    (header : List (String × Json)) : Except DecodeError (List (String × Json)) :=
  match namedAt header time keys with
  | some key => do
      let verifyKey ← verifyKeyOf env key
      raisedBy (decodeWith env token issuer verifyKey key.algorithm time)
  | none => do
      match ← anyAt env token issuer time (activeFor "HS256" time keys) with
      | some payload => pure payload
      | none =>
          raisedBy (decodeWith env token issuer (.secret (Text.utf8Encode secret.toList)) "HS256" time)

/-- `Claims(**payload)`, or its `ValidationError`. -/
def validated (env : Env) (payload : List (String × Json)) : Except DecodeError Claims :=
  match claimsOf env payload with
  | some claims => .ok claims
  | none => .error .validation

def decodeAt (env : Env) (token secret issuer : String) (time : Nat) (keys : List SigningKey) :
    Except DecodeError Claims :=
  match env.platform.jwt.unverifiedHeader token with
  | .error _ => .error .pyjwt
  | .ok header =>
      if textMember header "typ" != some "at+JWT" then .error .pyjwt
      else payloadAt env token secret issuer time keys header >>= validated env

theorem decode_with_at_time (env : Env) (offset : ℚ) (time : Nat) :
    decodeWith (atTime env offset time) = decodeWith env := rfl

theorem ends_raised (env : Env) (offset : ℚ) (time : Nat) (token issuer : String) (key : VerifyKey)
    (alg : String) (world : World) :
    Ends (atTime env offset time) (decodeOrRaise (atTime env offset time) token issuer key alg) world
      (raisedBy (decodeWith env token issuer key alg time)) := by
  unfold decodeOrRaise
  refine (returns_now env offset time world).bind fun reached _ => ?_
  rw [decode_with_at_time]
  rcases decodeWith env token issuer key alg time with (message | message) | payload <;>
    exact ⟨reached, rfl, Elapsed.refl reached⟩

theorem ends_any (env : Env) (offset : ℚ) (time : Nat) (token issuer : String)
    (keys : List SigningKey) (world : World) :
    Ends (atTime env offset time) (decodeWithAny (atTime env offset time) token issuer keys) world
      (anyAt env token issuer time keys) := by
  induction keys generalizing world with
  | nil => exact ends_pure _ _ _
  | cons key rest induction =>
      unfold decodeWithAny anyAt
      refine (returns_now env offset time world).bind fun reached _ => ?_
      rw [decode_with_at_time]
      rcases decodeWith env token issuer (.secret key.keyMaterial) "HS256" time with
        (message | message) | payload
      · exact induction reached
      · exact ⟨reached, rfl, Elapsed.refl reached⟩
      · exact ends_pure _ _ _

theorem ends_except (env : Env) (outcome : Except ε α) (world : World) :
    Ends env (Program.ofExcept outcome) world outcome := by
  cases outcome <;> exact ⟨world, rfl, Elapsed.refl world⟩

theorem ends_validated (env : Env) (offset : ℚ) (time : Nat) (payload : List (String × Json))
    (world : World) :
    Ends (atTime env offset time)
      (match claimsOf (atTime env offset time) payload with
        | some claims => pure claims
        | none => throw DecodeError.validation) world (validated env payload) := by
  have same : claimsOf (atTime env offset time) payload = claimsOf env payload := rfl
  unfold validated
  rw [same]
  cases claimsOf env payload <;> exact ⟨world, rfl, Elapsed.refl world⟩

/-- `decode_access_token` is decided by the keys, the token and the time. -/
theorem ends_decode (env : Env) (offset : ℚ) (time : Nat) (token secret issuer : String)
    (world : World) :
    Ends (atTime env offset time) (decodeAccessToken (atTime env offset time) token secret issuer)
      world (decodeAt env token secret issuer time world.process.keys) := by
  unfold decodeAccessToken decodeAt
  have same : (atTime env offset time).platform.jwt.unverifiedHeader token =
      env.platform.jwt.unverifiedHeader token := rfl
  rw [same]
  cases env.platform.jwt.unverifiedHeader token with
  | error raised => exact ⟨world, rfl, Elapsed.refl world⟩
  | ok header =>
      dsimp only
      split
      · exact ⟨world, rfl, Elapsed.refl world⟩
      · have keys : Ends (atTime env offset time)
            (ambient .keys : Program Server DecodeError (List SigningKey)) world
            (.ok world.process.keys) := ⟨world, rfl, Elapsed.refl world⟩
        refine keys.bind fun _ _ => (returns_named env offset time header _ _).bind fun found _ => ?_
        unfold payloadAt
        cases namedAt header time world.process.keys with
        | some key =>
            dsimp only
            rw [bind_assoc]
            refine (ends_except _ (verifyKeyOf env key) found).bind_except
              fun verifyKey reached _ => ?_
            exact (ends_raised env offset time token issuer verifyKey key.algorithm reached).bind_except
              fun payload later _ => ends_validated env offset time payload later
        | none =>
            dsimp only
            rw [bind_assoc]
            refine (returns_active_keys env offset time "HS256" _ found).bind fun listed _ => ?_
            refine (ends_any env offset time token issuer _ listed).bind_except
              fun accepted reached _ => ?_
            cases accepted with
            | some payload => exact ends_validated env offset time payload reached
            | none =>
                exact (ends_raised env offset time token issuer _ "HS256" reached).bind_except
                  fun payload later _ => ends_validated env offset time payload later

end AtTime

/-! ### The configured secret -/

/-- The changes to a key set. -/
inductive KeyChange where
  | rotate (newKey : SigningKey) (graceSecs : Int) (now : Instant)
  | prune (now : Instant)

def KeyChange.apply (keys : List SigningKey) : KeyChange → List SigningKey
  | .rotate newKey graceSecs now => KeySet.rotate newKey graceSecs now keys
  | .prune now => pruneExpired now keys

/-- The key set a process holds after the changes. -/
def keySetAfter (config : Config) (start : Instant) (history : List KeyChange) : List SigningKey :=
  history.foldl KeyChange.apply (seedKeyset config start)

/-- A process with these keys. -/
def holding (keys : List SigningKey) (world : World) : World :=
  { world with process := { world.process with keys := keys } }

def configuredSecret (config : Config) : List Nat := Text.utf8Encode config.jwtSecret.toList

/-- The configured secret is no longer an active HS256 key, nor like one, and it
accepts an access token whose `kid` names no active key. -/
structure FallsBack (alike : List Nat → List Nat → Prop) (env : Env) (token issuer : String)
    (time : Nat) (keys : List SigningKey) : Prop where
  retired : ∀ key ∈ activeFor "HS256" time keys,
    ¬alike key.keyMaterial (configuredSecret env.config)
  unnamed : ∃ header, env.platform.jwt.unverifiedHeader token = .ok header ∧
    textMember header "typ" = some "at+JWT" ∧ namedAt header time keys = none
  accepted : ∃ payload claims,
    decodeWith env token issuer (.secret (configuredSecret env.config)) "HS256" time = .ok payload ∧
      claimsOf env payload = some claims

section Trust

variable {env : Env} {token issuer : String} {time : Nat} {keys : List SigningKey}

theorem any_accepts {payload : List (String × Json)}
    (found : anyAt env token issuer time keys = .ok (some payload)) :
    ∃ key ∈ keys, decodeWith env token issuer (.secret key.keyMaterial) "HS256" time =
      .ok payload := by
  induction keys with
  | nil => cases found
  | cons key rest induction =>
      unfold anyAt at found
      generalize tried : decodeWith env token issuer (.secret key.keyMaterial) "HS256" time =
        outcome at found
      rcases outcome with (message | message) | accepted
      · obtain ⟨other, member, verifies⟩ := induction found
        exact ⟨other, List.mem_cons_of_mem _ member, verifies⟩
      · cases found
      · cases found
        exact ⟨key, List.mem_cons_self, tried⟩

theorem any_refuses : anyAt env token issuer time keys = .ok none ↔
    ∀ key ∈ keys, ∃ message,
      decodeWith env token issuer (.secret key.keyMaterial) "HS256" time =
        .error (.pyjwt message) := by
  induction keys with
  | nil => simp [anyAt]
  | cons key rest induction =>
      unfold anyAt
      rcases tried : decodeWith env token issuer (.secret key.keyMaterial) "HS256" time with
        (message | message) | accepted <;> simp [tried, induction]

theorem decode_at_ok {secret : String} {claims : Claims}
    (decoded : decodeAt env token secret issuer time keys = .ok claims) :
    ∃ header payload, env.platform.jwt.unverifiedHeader token = .ok header ∧
      textMember header "typ" = some "at+JWT" ∧
      payloadAt env token secret issuer time keys header = .ok payload ∧
      claimsOf env payload = some claims := by
  unfold decodeAt at decoded
  split at decoded
  · cases decoded
  · rename_i header read
    split at decoded
    · cases decoded
    · rename_i typed
      generalize reached : payloadAt env token secret issuer time keys header = outcome at decoded
      cases outcome with
      | error raised => cases decoded
      | ok payload =>
          refine ⟨header, payload, read, by simpa using typed, reached, ?_⟩
          change validated env payload = .ok claims at decoded
          unfold validated at decoded
          split at decoded
          · rename_i found
            cases decoded
            exact found
          · cases decoded

theorem raised_by_ok {α : Type} {outcome : Except VerifyError α} {value : α}
    (ok : raisedBy outcome = .ok value) : outcome = .ok value := by
  rcases outcome with (message | message) | other
  · cases ok
  · cases ok
  · cases ok
    rfl

/-- A decoded token was signed with an active key, or only the configured
secret accepts it. -/
theorem signed_or_falls_back {alike : List Nat → List Nat → Prop}
    {signed : String → String → List Nat → Prop}
    (unforgeable : Unforgeable env.platform.jwt alike signed) {claims : Claims}
    (decoded : decodeAt env token env.config.jwtSecret issuer time keys = .ok claims) :
    (∃ key ∈ keys, activeAt time key = true ∧ signed token key.algorithm key.keyMaterial) ∨
      FallsBack alike env token issuer time keys := by
  obtain ⟨header, payload, read, typed, reached, accepted⟩ := decode_at_ok decoded
  unfold payloadAt at reached
  cases named : namedAt header time keys with
  | some key =>
      left
      obtain ⟨kid, _, found⟩ := Option.bind_eq_some_iff.1 named
      have facts := List.find?_some found
      simp only [Bool.and_eq_true] at facts
      refine ⟨key, List.mem_of_find?_eq_some found, facts.2, ?_⟩
      rw [named] at reached
      dsimp only at reached
      generalize derived : verifyKeyOf env key = outcome at reached
      cases outcome with
      | error raised => cases reached
      | ok verifyKey =>
          have verified := raised_by_ok reached
          unfold verifyKeyOf at derived
          by_cases rsa : key.algorithm = "RS256"
          · simp only [rsa, beq_self_eq_true, if_true] at derived verified ⊢
            split at derived
            · rename_i document loaded
              cases derived
              exact unforgeable.rsa _ _ _ _ _ _ loaded verified
            · cases derived
          · have shared : (key.algorithm == "RS256") = false := by simpa using rsa
            simp only [shared, Bool.false_eq_true, if_false] at derived
            cases derived
            exact unforgeable.secret _ _ _ _ _ _ rsa verified
  | none =>
      rw [named] at reached
      dsimp only at reached
      generalize tried : anyAt env token issuer time (activeFor "HS256" time keys) = outcome
        at reached
      rcases outcome with raised | none | found
      · cases reached
      · right
        have fallback := raised_by_ok reached
        refine ⟨?_, ⟨header, read, typed, named⟩, payload, claims, fallback, accepted⟩
        intro key member same
        obtain ⟨message, refused⟩ := any_refuses.1 tried key member
        have accepted := (unforgeable.same _ _ _ _ _ _ same).trans fallback
        cases refused.symm.trans accepted
      · left
        obtain ⟨key, member, verified⟩ := any_accepts tried
        have facts := List.mem_filter.1 member
        simp only [Bool.and_eq_true, beq_iff_eq] at facts
        refine ⟨key, facts.1, facts.2.2, ?_⟩
        rw [facts.2.1]
        exact unforgeable.secret _ _ _ _ _ _ (by decide) verified

theorem decodes_of_payload {secret : String} {header payload : List (String × Json)}
    {claims : Claims} (read : env.platform.jwt.unverifiedHeader token = .ok header)
    (typed : textMember header "typ" = some "at+JWT")
    (reached : payloadAt env token secret issuer time keys header = .ok payload)
    (valid : claimsOf env payload = some claims) :
    decodeAt env token secret issuer time keys = .ok claims := by
  have typ : (textMember header "typ" != some "at+JWT") = false := by simp [typed]
  unfold decodeAt
  rw [read]
  simp only [typ, Bool.false_eq_true, if_false, reached]
  change validated env payload = _
  unfold validated
  rw [valid]

/-- A token that its named key verifies decodes. -/
theorem named_payload {secret : String} {header payload : List (String × Json)} {key : SigningKey}
    {verifyKey : VerifyKey} (named : namedAt header time keys = some key)
    (derived : verifyKeyOf env key = .ok verifyKey)
    (verified : decodeWith env token issuer verifyKey key.algorithm time = .ok payload) :
    payloadAt env token secret issuer time keys header = .ok payload := by
  unfold payloadAt
  rw [named]
  dsimp only
  rw [derived]
  change raisedBy (decodeWith env token issuer verifyKey key.algorithm time) = _
  rw [verified]
  rfl

theorem falls_back_decodes {alike : List Nat → List Nat → Prop}
    {signed : String → String → List Nat → Prop}
    (unforgeable : Unforgeable env.platform.jwt alike signed)
    (fallsBack : FallsBack alike env token issuer time keys) :
    ∃ claims, decodeAt env token env.config.jwtSecret issuer time keys = .ok claims := by
  obtain ⟨retired, ⟨header, read, typed, named⟩, payload, claims, verified, valid⟩ := fallsBack
  have refused : ∀ key ∈ activeFor "HS256" time keys, ∃ message,
      decodeWith env token issuer (.secret key.keyMaterial) "HS256" time =
        .error (.pyjwt message) := by
    intro key member
    exact unforgeable.mismatch _ _ _ _ _ _ _ verified (retired key member)
  have reached : payloadAt env token env.config.jwtSecret issuer time keys header = .ok payload := by
    unfold payloadAt
    rw [named]
    dsimp only
    rw [any_refuses.2 refused]
    change raisedBy (decodeWith env token issuer (.secret (configuredSecret env.config)) "HS256"
      time) = _
    rw [verified]
    rfl
  exact ⟨claims, decodes_of_payload read typed reached valid⟩

/-- No active key signed a token that only the configured secret accepts. -/
theorem falls_back_unsigned {alike : List Nat → List Nat → Prop}
    {signed : String → String → List Nat → Prop}
    (unforgeable : Unforgeable env.platform.jwt alike signed)
    (fallsBack : FallsBack alike env token issuer time keys) :
    ¬∃ key ∈ keys, activeAt time key = true ∧ signed token key.algorithm key.keyMaterial := by
  rintro ⟨key, member, active, signer⟩
  obtain ⟨retired, _, payload, claims, verified, _⟩ := fallsBack
  have secretly : signed token "HS256" (configuredSecret env.config) :=
    unforgeable.secret _ _ _ _ _ _ (by decide) verified
  obtain ⟨algorithm, material⟩ := unforgeable.once _ _ _ _ _ signer secretly
  have listed : key ∈ activeFor "HS256" time keys := by
    refine List.mem_filter.2 ⟨member, ?_⟩
    simp [algorithm, active]
  exact retired key listed (material algorithm)

end Trust

/-- Every access token that decodes was signed with an active key, unless it is
one that the configured secret accepts after its key was rotated out. -/
theorem decoded_tokens_trusted_iff (env : Env) (offset : ℚ)
    (alike : List Nat → List Nat → Prop) (signed : String → String → List Nat → Prop)
    (unforgeable : Unforgeable env.platform.jwt alike signed) (start : Instant)
    (history : List KeyChange) (world : World) (token issuer : String) (time : Nat) :
    (∀ claims later,
      (decodeAccessToken (atTime env offset time) token env.config.jwtSecret issuer).run
          (atTime env offset time).interp (holding (keySetAfter env.config start history) world) =
        (.ok claims, later) →
      ∃ key ∈ keySetAfter env.config start history,
        activeAt time key = true ∧ signed token key.algorithm key.keyMaterial) ↔
    ¬FallsBack alike env token issuer time (keySetAfter env.config start history) := by
  obtain ⟨reached, ran, _⟩ := ends_decode env offset time token env.config.jwtSecret issuer
    (holding (keySetAfter env.config start history) world)
  change _ = (decodeAt env token env.config.jwtSecret issuer time
    (keySetAfter env.config start history), reached) at ran
  rw [ran]
  constructor
  · intro trusted fallsBack
    obtain ⟨claims, decoded⟩ := falls_back_decodes unforgeable fallsBack
    have signer := trusted claims reached (by rw [decoded])
    exact falls_back_unsigned unforgeable fallsBack signer
  · intro kept claims later outcome
    have decoded := congrArg Prod.fst outcome
    exact (signed_or_falls_back unforgeable decoded).resolve_right kept

/-! A token of the first key, before and after a rotation without grace. -/

def rotationEnv : Env where
  config := { jwtSecret := "k", issuer := "s" }
  backend := .sql
  platform := { samplePlatform with jwt := ReferenceJwt.library }

def rotationPayload : List (String × Json) :=
  [("sub", .str "alice"), ("iss", .str "s"), ("aud", .str "app"), ("exp", .int 3600),
    ("iat", .int 0), ("scope", .str "read"), ("jti", .str "j")]

def firstToken : String :=
  ReferenceJwt.library.encode (.obj rotationPayload) (configuredSecret rotationEnv.config) "HS256"
    [("typ", "at+JWT"), ("kid", "hs256-initial")]

def withoutGrace : List KeyChange :=
  [.rotate (generateSigningKey "HS256" "hs256-1" [2] 1000000) 0 1000000, .prune 1000000]

theorem rotation_payload_current (time : Nat) (early : epochSeconds time < 3600) :
    Current rotationPayload "s" time where
  issuer := rfl
  subject := ⟨_, rfl⟩
  identifier := ⟨_, rfl⟩
  expiry := ⟨3600, rfl, by exact_mod_cast early⟩
  issuedAt := by
    refine ⟨0, rfl, ?_⟩
    unfold epochSeconds
    positivity
  notBefore := rfl

theorem first_token_header : rotationEnv.platform.jwt.unverifiedHeader firstToken =
    .ok (joseHeader "HS256" [("typ", "at+JWT"), ("kid", "hs256-initial")]) :=
  read_header_encode rotationPayload (configuredSecret rotationEnv.config) "HS256" _

theorem first_token_accepted (time : Nat) (early : epochSeconds time < 3600) : ∃ payload claims,
    decodeWith rotationEnv firstToken "s" (.secret (configuredSecret rotationEnv.config)) "HS256"
        time = .ok payload ∧
      claimsOf rotationEnv payload = some claims := by
  have current := rotation_payload_current time early
  have verified : ReferenceJwt.library.verify firstToken
      (.secret (configuredSecret rotationEnv.config)) "HS256" { issuer := some "s" } time =
        .ok rotationPayload := by
    unfold firstToken
    exact signs_and_verifies.secret _ _ _ "s" _ rfl current
  exact ⟨rotationPayload, _, verified, rfl⟩

/-- The first key is gone, and its token still decodes. -/
theorem rotated_out_secret_still_trusted :
    ¬∀ (env : Env) (offset : ℚ) (alike : List Nat → List Nat → Prop)
        (signed : String → String → List Nat → Prop),
      Unforgeable env.platform.jwt alike signed →
        ∀ (start : Instant) (history : List KeyChange) (world : World) (token issuer : String)
          (time : Nat) (claims : Claims) (later : World),
          (decodeAccessToken (atTime env offset time) token env.config.jwtSecret issuer).run
              (atTime env offset time).interp
              (holding (keySetAfter env.config start history) world) = (.ok claims, later) →
            ∃ key ∈ keySetAfter env.config start history,
              activeAt time key = true ∧ signed token key.algorithm key.keyMaterial := by
  intro always
  have fallsBack : FallsBack Eq rotationEnv firstToken "s" 2000000
      (keySetAfter rotationEnv.config 0 withoutGrace) :=
    { retired := by decide +kernel
      unnamed := ⟨_, first_token_header, by decide +kernel, by decide +kernel⟩
      accepted := first_token_accepted 2000000 (by norm_num [epochSeconds]) }
  obtain ⟨claims, decoded⟩ := falls_back_decodes unforgeable fallsBack
  obtain ⟨later, ran, _⟩ := ends_decode rotationEnv 0 2000000 firstToken "k" "s"
    (holding (keySetAfter rotationEnv.config 0 withoutGrace) sampleTokenWorld)
  change _ = (decodeAt rotationEnv firstToken rotationEnv.config.jwtSecret "s" 2000000
    (keySetAfter rotationEnv.config 0 withoutGrace), later) at ran
  rw [decoded] at ran
  have signer := always rotationEnv 0 Eq SignedWith unforgeable 0 withoutGrace sampleTokenWorld
    firstToken "s" 2000000 claims later ran
  exact falls_back_unsigned unforgeable fallsBack signer

/-- Before the rotation the same token decodes and an active key signed it. -/
theorem first_token_trusted :
    (∃ claims later, (decodeAccessToken (atTime rotationEnv 0 0) firstToken "k" "s").run
      (atTime rotationEnv 0 0).interp
      (holding (keySetAfter rotationEnv.config 0 []) sampleTokenWorld) = (.ok claims, later)) ∧
    ∃ key ∈ keySetAfter rotationEnv.config 0 [],
      activeAt 0 key = true ∧ SignedWith firstToken key.algorithm key.keyMaterial := by
  have kept : ¬FallsBack Eq rotationEnv firstToken "s" 0 (keySetAfter rotationEnv.config 0 []) := by
    intro fallsBack
    exact fallsBack.retired _ List.mem_cons_self rfl
  have trusted := (decoded_tokens_trusted_iff rotationEnv 0 Eq SignedWith unforgeable 0 []
    sampleTokenWorld firstToken "s" 0).2 kept
  have decodes : ∃ claims later,
      (decodeAccessToken (atTime rotationEnv 0 0) firstToken "k" "s").run
        (atTime rotationEnv 0 0).interp
        (holding (keySetAfter rotationEnv.config 0 []) sampleTokenWorld) = (.ok claims, later) := by
    obtain ⟨payload, claims, verified, valid⟩ := first_token_accepted 0 (by norm_num [epochSeconds])
    have reached : payloadAt rotationEnv firstToken "k" "s" 0 (keySetAfter rotationEnv.config 0 [])
        (joseHeader "HS256" [("typ", "at+JWT"), ("kid", "hs256-initial")]) = .ok payload :=
      named_payload rfl rfl verified
    have decoded : decodeAt rotationEnv firstToken "k" "s" 0
        (keySetAfter rotationEnv.config 0 []) = .ok claims :=
      decodes_of_payload first_token_header (by decide +kernel) reached valid
    obtain ⟨later, ran, _⟩ := ends_decode rotationEnv 0 0 firstToken "k" "s"
      (holding (keySetAfter rotationEnv.config 0 []) sampleTokenWorld)
    change _ = (decodeAt rotationEnv firstToken "k" "s" 0 (keySetAfter rotationEnv.config 0 []),
      later) at ran
    rw [decoded] at ran
    exact ⟨claims, later, ran⟩
  obtain ⟨claims, later, ran⟩ := decodes
  exact ⟨⟨claims, later, ran⟩, trusted claims later ran⟩

end OAuth2Server.KeyRotation
