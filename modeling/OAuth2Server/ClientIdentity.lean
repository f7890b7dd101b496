import OAuth2Server.ClientAuth
import OAuth2Server.ReferenceJwt
import OAuth2Server.Runs

/-!
# What a returned client has shown

`ClientService.authenticate` picks a row by whatever names it, and then asks for
the credential of the method that row registered, and for no other. What it
does not ask is whether the row has a secret: an assertion under HS256 is
verified with the stored secret, and an empty one is a key like any other.
-/

namespace OAuth2Server.ClientIdentity

open OAuth2Server Models JsonText Storage Effects Interaction Interaction.Program
open ClientAuth ReferenceJwt Runs

set_option autoImplicit false

/-- A world of the same request in which nothing was stored and no assertion was
observed yet. -/
structure Looked (world reached : World) : Prop where
  store : reached.store = world.store
  guard : reached.process.jtiGuard = world.process.jtiGuard
  clock : world.process.readings ≤ reached.process.readings

theorem Looked.refl (world : World) : Looked world world := ⟨rfl, rfl, le_refl _⟩

theorem Looked.trans {first second third : World} (earlier : Looked first second)
    (later : Looked second third) : Looked first third :=
  ⟨later.store.trans earlier.store, later.guard.trans earlier.guard,
    earlier.clock.trans later.clock⟩

/-- A world of the same request in which at most the clocks were read. -/
structure Waited (world reached : World) : Prop where
  same : reached =
    { world with process := { world.process with readings := reached.process.readings } }
  clock : world.process.readings ≤ reached.process.readings

theorem Waited.refl (world : World) : Waited world world := ⟨rfl, le_refl _⟩

theorem Waited.looked {world reached : World} (waited : Waited world reached) :
    Looked world reached := by
  refine ⟨?_, ?_, waited.clock⟩
  · rw [waited.same]
  · rw [waited.same]

/-- A reading of the clocks made between two worlds of a request. -/
def During (world later : World) (reading : Nat) : Prop :=
  world.process.readings ≤ reading ∧ reading < later.process.readings

/-- The clocks are only ever read on. -/
theorem readings_grow {ε α : Type} {env : Env} {program : Program Server ε α} {world later : World}
    {outcome : Except ε α} (ran : program.run env.interp world = (outcome, later)) :
    world.process.readings ≤ later.process.readings := by
  have kept := run_keeps env.interp
    (fun reached : World => world.process.readings ≤ reached.process.readings) ?_ program
    (le_refl world.process.readings)
  · rw [ran] at kept
    exact kept
  · intro op reached order
    rcases op with read | write | act
    · exact order
    · exact order
    · cases act with
      | checkInvalidClient clientId =>
          rw [interp_ambient]
          simp only [Ambient.exec]
          split
          · exact order
          · exact Nat.le_succ_of_le order
      | fetchJwks url =>
          have later : world.process.readings ≤ reached.process.readings + 2 := by omega
          rw [interp_ambient]
          simp only [Ambient.exec]
          split
          · exact Nat.le_succ_of_le order
          · split
            · exact later
            · exact later
      | now => exact Nat.le_succ_of_le order
      | time => exact Nat.le_succ_of_le order
      | observeJti clientId jti ttlSecs => exact Nat.le_succ_of_le order
      | observePoll deviceCode baseInterval => exact Nat.le_succ_of_le order
      | checkAndInsert jti => exact Nat.le_succ_of_le order
      | _ => exact order

/-- The denylist has no entry for the value, or one that had expired when the
clock was read during the request. -/
def NotDenylisted (env : Env) (world later : World) (kind value : String) : Prop :=
  ∀ entry, (Query.findDenylistEntry kind value).eval env.backend world.store = some entry →
    ∃ expiresAt reading, entry.expiresAt = some expiresAt ∧ During world later reading ∧
      expiresAt ≤ env.platform.clock reading

theorem NotDenylisted.mono {env : Env} {world reached later : World} {kind value : String}
    (unlisted : NotDenylisted env world reached kind value)
    (order : reached.process.readings ≤ later.process.readings) :
    NotDenylisted env world later kind value := by
  intro entry found
  obtain ⟨expiresAt, reading, expires, ⟨after, before⟩, expired⟩ := unlisted entry found
  exact ⟨expiresAt, reading, expires, ⟨after, before.trans_le order⟩, expired⟩

section Denylist

variable {ε : Type} {env : Env} {world later : World} {kind value : String}

/-- A look at the denylist reads the store and at most the clock. -/
theorem denylist_waited {reason : Option String}
    (ran : (checkSubjectDenylisted kind value : Program Server ε (Option String)).run env.interp
      world = (.ok reason, later)) : Waited world later := by
  unfold checkSubjectDenylisted at ran
  split at ran
  · cases ran
    exact Waited.refl world
  · unfold findDenylistEntry at ran
    rw [bind_assoc, run_query_bind] at ran
    cases found : (Query.findDenylistEntry kind value).eval env.backend world.store with
    | none =>
        rw [found] at ran
        cases ran
        exact Waited.refl world
    | some entry =>
        rw [found] at ran
        dsimp only at ran
        cases expires : entry.expiresAt with
        | none =>
            rw [expires] at ran
            cases ran
            exact Waited.refl world
        | some expiresAt =>
            rw [expires] at ran
            cases ran
            exact ⟨rfl, Nat.le_succ _⟩

theorem not_denylisted (nonempty : value ≠ "")
    (ran : (checkSubjectDenylisted kind value : Program Server ε (Option String)).run env.interp
      world = (.ok none, later)) : NotDenylisted env world later kind value := by
  intro entry found
  unfold checkSubjectDenylisted findDenylistEntry at ran
  rw [if_neg (by simpa using nonempty), bind_assoc, run_query_bind, found] at ran
  dsimp only at ran
  cases expires : entry.expiresAt with
  | none =>
      rw [expires] at ran
      cases ran
  | some expiresAt =>
      rw [expires] at ran
      have read : During world later world.process.readings := by
        have advanced := congrArg (fun answer => answer.2.process.readings) ran
        change world.process.readings + 1 = later.process.readings at advanced
        exact ⟨le_refl _, by omega⟩
      refine ⟨expiresAt, world.process.readings, rfl, read, ?_⟩
      by_contra active
      have early : env.platform.clock world.process.readings < expiresAt := not_le.1 active
      have answer := Except.ok.inj (congrArg Prod.fst ran)
      change Option.map _ (if env.platform.clock world.process.readings < expiresAt
        then some entry else none) = none at answer
      rw [if_pos early] at answer
      cases answer

end Denylist

/-! ### The credential of each method -/

def tokenEndpointUrl (env : Env) : String := Text.rstripSlash env.config.issuer ++ "/oauth/token"

def assertionOptions (env : Env) : VerifyOptions where
  audience := some [tokenEndpointUrl env]
  require := ["exp", "sub", "iss", "aud"]

/-- No live entry of the replay guard has the assertion's jti. -/
def FreshJti (env : Env) (world later : World) (clientId jti : String) : Prop :=
  ∃ reading, During world later reading ∧
    ∀ expiry, (Process.jtiKey clientId jti, expiry) ∈ world.process.jtiGuard →
      expiry ≤ env.platform.monotonic reading

/-- The form carries an assertion under the algorithm that verifies with the
key, for this client and the token endpoint, with a fresh jti. -/
structure Asserts (env : Env) (world later : World) (form : Form) (client : Client) (key : VerifyKey)
    (alg : String) : Prop where
  typed : form.get "client_assertion_type" = some jwtBearerAssertionType
  accepted : ∃ assertion header claims reading jti,
    form.get "client_assertion" = some assertion ∧
    env.platform.jwt.unverifiedHeader assertion = .ok header ∧
    textMember header "alg" = some alg ∧ During world later reading ∧
    env.platform.jwt.verify assertion key alg (assertionOptions env)
      (env.platform.clock reading) = .ok claims ∧
    textMember claims "iss" = some client.clientId ∧
    textMember claims "sub" = some client.clientId ∧
    textMember claims "jti" = some jti ∧ jti ≠ "" ∧ FreshJti env world later client.clientId jti

/-- The client's registered key set: its own document, or what its address
answers. -/
def RegisteredJwks (env : Env) (world later : World) (client : Client) (document : Json) : Prop :=
  Text.strip client.jwks ≠ "" ∧
      loads env.platform.recursionLimit (Text.strip client.jwks) = .ok document ∨
    Text.strip client.jwks = "" ∧ Text.strip client.jwksUri ≠ "" ∧
      ∃ reached, Waited world reached ∧ reached.process.readings ≤ later.process.readings ∧
        ((Ambient.fetchJwks (Text.strip client.jwksUri)).exec env.platform
          reached.process).1 = .ok document

def RegisteredKey (env : Env) (world later : World) (client : Client) (key : Json) : Prop :=
  ∃ document keys, RegisteredJwks env world later client document ∧
    document.get? "keys" = some (.arr keys) ∧ key ∈ keys

/-- The credential of the registered method was presented and is good, against
registered material that is not empty. -/
structure Shown (env : Env) (world later : World) (form : Form) (secret : Option String)
    (credentials : Credentials) (client : Client) : Prop where
  none : client.tokenEndpointAuthMethod = "none" → Text.truthy secret = false
  clientSecret : client.tokenEndpointAuthMethod = "client_secret_basic" ∨
      client.tokenEndpointAuthMethod = "client_secret_post" →
    secret = some client.clientSecret ∧ client.clientSecret ≠ ""
  clientSecretJwt : client.tokenEndpointAuthMethod = "client_secret_jwt" →
    client.clientSecret ≠ "" ∧ Asserts env world later form client
      (.secret (Text.utf8Encode client.clientSecret.toList)) "HS256"
  privateKeyJwt : client.tokenEndpointAuthMethod = "private_key_jwt" →
    ∃ key, RegisteredKey env world later client key ∧
      Asserts env world later form client (.jwk "RSA" key) "RS256"
  tlsClientAuth : client.tokenEndpointAuthMethod = "tls_client_auth" →
    credentials.thumbprint.isSome = true ∧
      (client.tlsClientCertificateSubjectDn ≠ "" →
        credentials.subjectDn = some client.tlsClientCertificateSubjectDn)
  selfSigned : client.tokenEndpointAuthMethod = "self_signed_tls_client_auth" →
    ∃ thumbprint key, credentials.thumbprint = some thumbprint ∧
      RegisteredKey env world later client key ∧ key.get? "x5t#S256" = some (.str thumbprint)

/-- A client that is stored, enabled, not denylisted, and has shown its
credential. -/
structure Authenticated (env : Env) (world later : World) (form : Form) (credentials : Credentials)
    (client : Client) : Prop where
  stored : client ∈ world.store.clients.rows
  enabled : client.enabled = true
  listed : NotDenylisted env world later "client_id" client.clientId
  shown : ∃ presentedId secret,
    presentedCredentials form credentials.authorization = .ok (presentedId, secret) ∧
      Shown env world later form secret credentials client

section Credential

variable {env : Env} {world reached later : World} {client : Client} {form : Form}
  {credentials : Credentials}

theorem fresh_of_observed {clientId jti : String} {ttl : ℚ} (looked : Looked world reached)
    (before : reached.process.readings < later.process.readings)
    (fresh : (Process.observeJti clientId jti ttl
      (env.platform.monotonic reached.process.readings) reached.process.jtiGuard).1 = .fresh) :
    FreshJti env world later clientId jti := by
  refine ⟨reached.process.readings, ⟨looked.clock, before⟩, ?_⟩
  intro expiry member
  by_contra live
  have alive : env.platform.monotonic reached.process.readings < expiry := not_le.1 live
  have held : Process.Dict.contains (reached.process.jtiGuard.filter fun entry =>
      decide (env.platform.monotonic reached.process.readings < entry.2))
        (Process.jtiKey clientId jti) = true := by
    unfold Process.Dict.contains
    rw [List.any_eq_true]
    refine ⟨(Process.jtiKey clientId jti, expiry), List.mem_filter.2 ⟨?_, ?_⟩, by simp⟩
    · rw [looked.guard]
      exact member
    · simpa using alive
  unfold Process.observeJti at fresh
  dsimp only at fresh
  rw [if_pos held] at fresh
  cases fresh

theorem resolved_jwks {methods : List String} {document : Json} {resolved : World}
    (waited : Waited world reached) (order : resolved.process.readings ≤ later.process.readings)
    (ran : (resolveClientJwks env client methods).run env.interp reached =
      (.ok (some document), resolved)) : RegisteredJwks env world later client document := by
  have before := (readings_grow ran).trans order
  unfold resolveClientJwks at ran
  split at ran
  · cases ran
  · split at ran
    · rename_i inline
      left
      refine ⟨by simpa using inline, ?_⟩
      split at ran
      · rename_i found loaded
        cases ran
        exact loaded
      · cases ran
      · cases ran
    · rename_i empty
      split at ran
      · rename_i address
        right
        refine ⟨by simpa using empty, by simpa using address, reached, waited, before, ?_⟩
        rw [run_ambient_bind] at ran
        split at ran
        · rename_i found fetched
          cases ran
          exact fetched
        · cases ran
        · cases ran
      · cases ran

theorem resolve_looked {methods : List String} {found : Option Json}
    (ran : (resolveClientJwks env client methods).run env.interp reached =
      (.ok found, later)) : Looked reached later := by
  unfold resolveClientJwks at ran
  split at ran
  · cases ran
    exact Looked.refl _
  · split at ran
    · split at ran
      · cases ran
        exact Looked.refl _
      · cases ran
      · cases ran
    · split at ran
      · rw [run_ambient_bind] at ran
        have after : Looked reached { reached with process :=
            ((Ambient.fetchJwks (Text.strip client.jwksUri)).exec env.platform
              reached.process).2 } := by
          simp only [Ambient.exec]
          split
          · exact ⟨rfl, rfl, Nat.le_succ _⟩
          · split
            · exact ⟨rfl, rfl, by simp⟩
            · exact ⟨rfl, rfl, by simp⟩
        split at ran
        · cases ran
          exact after
        · cases ran
        · cases ran
      · cases ran

theorem built_rsa_key {found : Json} {key : VerifyKey} {error : String}
    (made : (match env.platform.jwt.jwkKind "RSA" found with
      | .error _ => throw (.oauth error (some "Failed to construct RSA key from client JWKS"))
      | .ok .privateKey => throw (.oauth error (some "Client JWKS key is not an RSA public key"))
      | .ok .publicKey => pure (.jwk "RSA" found) : Except Raised VerifyKey) = .ok key) :
    key = .jwk "RSA" found := by
  split at made
  · cases made
  · cases made
  · exact (Except.ok.inj made).symm

theorem registered_rsa_key {jwks : Option Json} {kid : Option String} {key : VerifyKey}
    {error context : String} (ok : rsaKeyFromJwks env jwks kid error context = .ok key) :
    ∃ document keys found, jwks = some document ∧ document.get? "keys" = some (.arr keys) ∧
      found ∈ keys ∧ key = .jwk "RSA" found := by
  unfold rsaKeyFromJwks at ok
  cases jwks with
  | none => cases ok
  | some document =>
      dsimp only at ok
      split at ok
      · rename_i keys listed
        have chosen : ∃ found ∈ keys, key = .jwk "RSA" found := by
          cases kid with
          | none =>
              dsimp only at ok
              split at ok
              · rename_i found first
                exact ⟨found, List.mem_of_find?_eq_some first, built_rsa_key ok⟩
              · cases ok
          | some name =>
              dsimp only at ok
              split at ok
              · rename_i found first
                exact ⟨found, List.mem_of_find?_eq_some first, built_rsa_key ok⟩
              · cases ok
        obtain ⟨found, member, built⟩ := chosen
        exact ⟨document, keys, found, rfl, listed, member, built⟩
      · cases ok

theorem observed_fresh {claims : List (String × Json)} {clientId : String}
    (looked : Looked world reached)
    (ran : (enforceJtiReplay clientId claims).run env.interp reached = (.ok (), later)) :
    ∃ jti, textMember claims "jti" = some jti ∧ jti ≠ "" ∧ FreshJti env world later clientId jti := by
  unfold enforceJtiReplay at ran
  cases named : (textMember claims "jti").filter (· != "") with
  | none =>
      rw [named] at ran
      cases ran
  | some jti =>
      rw [named] at ran
      dsimp only at ran
      split at ran
      · rename_i exp dated
        rw [run_ambient_bind] at ran
        split at ran
        · rename_i finite
          obtain ⟨text, nonempty⟩ := Option.filter_eq_some_iff.1 named
          refine ⟨jti, text, by simpa using nonempty, ?_⟩
          rw [run_ambient_bind] at ran
          have advanced : Looked world { reached with process :=
              (Ambient.time.exec env.platform reached.process).2 } :=
            looked.trans ⟨rfl, rfl, Nat.le_succ _⟩
          split at ran
          · cases ran
          · cases ran
          · rename_i observed
            have ended : reached.process.readings + 2 = later.process.readings :=
              congrArg (fun answer => answer.2.process.readings) ran
            exact fresh_of_observed advanced (by simp [Ambient.exec]; omega) observed
        · cases ran
      · cases ran

/-- The part of `validate_client_assertion` that follows the choice of a key. -/
def verifyAssertion (env : Env) (client : Client) (assertion alg : String) (key : VerifyKey) :
    Service Unit := do
  let now ← ambient .now
  match env.platform.jwt.verify assertion key alg (assertionOptions env) now with
  | .error (.pyjwt message) =>
      throw (invalidClient (client.tokenEndpointAuthMethod ++ " validation failed: " ++ message))
  | .error (.other _) => throw .other
  | .ok claims =>
      raiseIf (textMember claims "iss" != some client.clientId ||
        textMember claims "sub" != some client.clientId) "invalid_client"
        "JWT iss/sub must equal client_id"
      enforceJtiReplay client.clientId claims

theorem verified_assertion {assertion alg : String} {header : List (String × Json)}
    {key : VerifyKey} (looked : Looked world reached)
    (typed : form.get "client_assertion_type" = some jwtBearerAssertionType)
    (submitted : form.get "client_assertion" = some assertion)
    (read : env.platform.jwt.unverifiedHeader assertion = .ok header)
    (pinned : textMember header "alg" = some alg)
    (ran : (verifyAssertion env client assertion alg key).run env.interp reached =
      (.ok (), later)) : Asserts env world later form client key alg := by
  unfold verifyAssertion at ran
  rw [run_ambient_bind] at ran
  have advanced : Looked world { reached with process :=
      (Ambient.now.exec env.platform reached.process).2 } :=
    looked.trans ⟨rfl, rfl, Nat.le_succ _⟩
  split at ran
  · cases ran
  · cases ran
  · rename_i claims verified
    obtain ⟨subjects, observes⟩ := run_reject_bind_eq_ok ran
    obtain ⟨jti, identified, nonempty, fresh⟩ := observed_fresh advanced observes
    have both : textMember claims "iss" = some client.clientId ∧
        textMember claims "sub" = some client.clientId := by
      simpa using subjects
    have during : During world later reached.process.readings :=
      ⟨looked.clock, readings_grow observes⟩
    exact ⟨typed, assertion, header, claims, reached.process.readings, jti, submitted, read, pinned,
      during, verified, both.1, both.2, identified, nonempty, fresh⟩

/-- A validated assertion is verified with the client's secret, or with a key
of the key set handed in. -/
theorem validated_assertion {assertion : String} {jwks : Option Json}
    (looked : Looked world reached)
    (typed : form.get "client_assertion_type" = some jwtBearerAssertionType)
    (submitted : form.get "client_assertion" = some assertion)
    (ran : (validateClientAssertion env client assertion (tokenEndpointUrl env) jwks).run
      env.interp reached = (.ok (), later)) :
    ∃ alg key, algForMethod client.tokenEndpointAuthMethod = some alg ∧
      Asserts env world later form client key alg ∧
      (client.tokenEndpointAuthMethod = "client_secret_jwt" ∧
          key = .secret (Text.utf8Encode client.clientSecret.toList) ∨
        client.tokenEndpointAuthMethod ≠ "client_secret_jwt" ∧
          ∃ kid, rsaKeyFromJwks env jwks kid = .ok key) := by
  unfold validateClientAssertion at ran
  dsimp only at ran
  split at ran
  · rename_i alg pinned
    split at ran
    · rename_i header read
      obtain ⟨matching, chooses⟩ := run_reject_bind_eq_ok ran
      have sameAlg : textMember header "alg" = some alg := by simpa using matching
      split at chooses
      · rename_i secret
        have verified := verified_assertion looked typed submitted read sameAlg chooses
        exact ⟨alg, _, pinned, verified, .inl ⟨by simpa using secret, rfl⟩⟩
      · rename_i other
        obtain ⟨key, made, verifies⟩ := run_of_except_bind_eq_ok chooses
        have verified := verified_assertion looked typed submitted read sameAlg verifies
        exact ⟨alg, key, pinned, verified, .inr ⟨by simpa using other, _, made⟩⟩
    · cases ran
  · cases ran

theorem asserted (waited : Waited world reached)
    (ran : (authenticateJwt env client form).run env.interp reached = (.ok (), later)) :
    (client.tokenEndpointAuthMethod = "client_secret_jwt" → Asserts env world later form client
      (.secret (Text.utf8Encode client.clientSecret.toList)) "HS256") ∧
    (client.tokenEndpointAuthMethod = "private_key_jwt" →
      ∃ key, RegisteredKey env world later client key ∧
        Asserts env world later form client (.jwk "RSA" key) "RS256") := by
  unfold authenticateJwt at ran
  obtain ⟨_, afterType⟩ := run_reject_bind_eq_ok ran
  obtain ⟨bearer, afterKind⟩ := run_reject_bind_eq_ok afterType
  obtain ⟨present, afterAssertion⟩ := run_reject_bind_eq_ok afterKind
  obtain ⟨jwks, resolved, resolves, validates⟩ := run_bind_eq_ok afterAssertion
  have located := waited.looked.trans (resolve_looked resolves)
  have typed : form.get "client_assertion_type" = some jwtBearerAssertionType := by
    simpa using bearer
  cases submitted : form.get "client_assertion" with
  | none =>
      rw [submitted] at present
      cases present
  | some assertion =>
      rw [submitted] at validates
      obtain ⟨alg, key, pinned, accepted, chosen⟩ :=
        validated_assertion located typed submitted validates
      constructor
      · intro method
        have hmac : alg = "HS256" := by
          rw [method] at pinned
          exact (Option.some.inj pinned).symm
        rcases chosen with ⟨_, rfl⟩ | ⟨other, _⟩
        · rw [hmac] at accepted
          exact accepted
        · exact absurd method other
      · intro method
        have rsa : alg = "RS256" := by
          rw [method] at pinned
          exact (Option.some.inj pinned).symm
        rcases chosen with ⟨secret, _⟩ | ⟨_, kid, made⟩
        · rw [method] at secret
          exact absurd secret (by decide)
        · obtain ⟨document, keys, found, rfl, listed, member, rfl⟩ := registered_rsa_key made
          rw [rsa] at accepted
          have registered := resolved_jwks waited (readings_grow validates) resolves
          exact ⟨found, ⟨document, keys, registered, listed, member⟩, accepted⟩

theorem certificate_shown
    (ok : authenticateTlsClientAuth client credentials.thumbprint credentials.subjectDn = .ok ()) :
    credentials.thumbprint.isSome = true ∧
      (client.tlsClientCertificateSubjectDn ≠ "" →
        credentials.subjectDn = some client.tlsClientCertificateSubjectDn) := by
  unfold authenticateTlsClientAuth at ok
  split at ok
  · cases ok
  · rename_i presented
    refine ⟨by simpa [Option.isSome_iff_ne_none] using presented, fun registered => ?_⟩
    split at ok
    · rename_i empty
      exact absurd (by simpa using empty) registered
    · split at ok
      · cases ok
      · split at ok
        · cases ok
        · rename_i same
          simpa using same

theorem keys_listed {jwks : Option Json} {keys : List Json} {key : Json}
    (registered : registeredKeys jwks = some keys) (member : key ∈ keys) :
    ∃ document, jwks = some document ∧ document.get? "keys" = some (.arr keys) := by
  have nonempty : keys ≠ [] := List.ne_nil_of_mem member
  unfold registeredKeys at registered
  cases jwks with
  | none => exact absurd (Option.some.inj registered).symm nonempty
  | some document =>
      refine ⟨document, rfl, ?_⟩
      dsimp only at registered
      split at registered
      · exact absurd (Option.some.inj registered).symm nonempty
      · split at registered
        · cases registered
        · split at registered
          · exact absurd (Option.some.inj registered).symm nonempty
          · rename_i listed
            rw [listed, Option.some.inj registered]
          · exact absurd (Option.some.inj registered).symm nonempty
          · exact absurd (Option.some.inj registered).symm nonempty
          · split at registered
            · cases registered
            · exact absurd (Option.some.inj registered).symm nonempty

theorem thumbprint_registered (waited : Waited world reached)
    (ran : (authenticateSelfSignedTls env client credentials.thumbprint).run env.interp reached =
      (.ok (), later)) :
    ∃ thumbprint key, credentials.thumbprint = some thumbprint ∧
      RegisteredKey env world later client key ∧ key.get? "x5t#S256" = some (.str thumbprint) := by
  unfold authenticateSelfSignedTls at ran
  cases presented : credentials.thumbprint with
  | none =>
      rw [presented] at ran
      cases ran
  | some thumbprint =>
      rw [presented] at ran
      dsimp only at ran
      obtain ⟨_, resolves⟩ := run_reject_bind_eq_ok ran
      obtain ⟨jwks, resolved, resolves, rest⟩ := run_bind_eq_ok resolves
      split at rest
      · rename_i keys registered
        obtain ⟨matched, same⟩ := run_reject_if_eq_ok rest
        have compared : ∃ key ∈ keys, (key.get? "x5t#S256").any (·.equalsText thumbprint) = true := by
          rw [Bool.not_eq_false', List.any_eq_true] at matched
          exact matched
        obtain ⟨key, member, equal⟩ := compared
        obtain ⟨document, rfl, listed⟩ := keys_listed registered member
        have order : resolved.process.readings ≤ later.process.readings := by rw [same]
        have jwks := resolved_jwks waited order resolves
        refine ⟨thumbprint, key, rfl, ⟨document, keys, jwks, listed, member⟩, ?_⟩
        obtain ⟨value, found, same⟩ := (Option.any_eq_true _ _).1 equal
        rw [found]
        unfold Json.equalsText at same
        cases value <;> simp_all [Json.str?]
      · cases rest

end Credential

/-- The credential check alone, apart from the secret a row may lack. -/
theorem credential_shown {env : Env} {world reached later : World} {client : Client} {form : Form}
    {secret : Option String} {credentials : Credentials} (waited : Waited world reached)
    (registered : ¬(client.tokenEndpointAuthMethod = "client_secret_jwt" ∧ client.clientSecret = ""))
    (ran : (checkCredential env client form secret credentials).run env.interp reached =
      (.ok (), later)) : Shown env world later form secret credentials client := by
  unfold checkCredential at ran
  dsimp only at ran
  split at ran
  · rename_i isPublic
    have method : client.tokenEndpointAuthMethod = "none" := by
      simpa [Client.isPublic] using isPublic
    obtain ⟨silent, _⟩ := run_reject_if_eq_ok ran
    constructor <;> simp [method, silent]
  · rename_i confidential
    have notNone : client.tokenEndpointAuthMethod ≠ "none" := by
      simpa [Client.isPublic] using confidential
    split at ran
    · rename_i asserts
      have method : client.tokenEndpointAuthMethod = "client_secret_jwt" ∨
          client.tokenEndpointAuthMethod = "private_key_jwt" := by simpa using asserts
      obtain ⟨shared, signed⟩ := asserted waited ran
      constructor
      case clientSecretJwt =>
        intro hmac
        exact ⟨fun empty => registered ⟨hmac, empty⟩, shared hmac⟩
      case privateKeyJwt => exact signed
      all_goals rcases method with method | method <;> simp [method]
    · rename_i otherwise
      have notJwt : client.tokenEndpointAuthMethod ≠ "client_secret_jwt" ∧
          client.tokenEndpointAuthMethod ≠ "private_key_jwt" := by simpa using otherwise
      split at ran
      · rename_i tls
        have method : client.tokenEndpointAuthMethod = "tls_client_auth" := by simpa using tls
        obtain ⟨checked, _⟩ := run_of_except_eq_ok ran
        have shown := certificate_shown checked
        constructor
        case tlsClientAuth => exact fun _ => shown
        all_goals simp [method]
      · rename_i notTls
        have notTls : client.tokenEndpointAuthMethod ≠ "tls_client_auth" := by simpa using notTls
        split at ran
        · rename_i selfSigned
          have method : client.tokenEndpointAuthMethod = "self_signed_tls_client_auth" := by
            simpa using selfSigned
          have shown := thumbprint_registered waited ran
          constructor
          case selfSigned => exact fun _ => shown
          all_goals simp [method]
        · rename_i notSelfSigned
          have notSelfSigned : client.tokenEndpointAuthMethod ≠ "self_signed_tls_client_auth" := by
            simpa using notSelfSigned
          obtain ⟨compared, _⟩ := run_reject_if_eq_ok ran
          have matching : Text.truthy secret = true ∧ secret = some client.clientSecret := by
            simpa using compared
          constructor
          case clientSecret =>
            intro _
            refine ⟨matching.2, fun empty => ?_⟩
            have falsy := matching.1
            rw [matching.2, empty] at falsy
            cases falsy
          all_goals simp [notNone, notJwt, notTls, notSelfSigned]

/-- An authenticated client is authenticated by the credential it registered,
unless it registered `client_secret_jwt` and its row has no secret. -/
theorem authentication_sound_iff (env : Env) (world later : World) (form : Form)
    (credentials : Credentials) (client : Client)
    (returned : (authenticate env form credentials).run env.interp world = (.ok client, later)) :
    Authenticated env world later form credentials client ↔
      ¬(client.tokenEndpointAuthMethod = "client_secret_jwt" ∧ client.clientSecret = "") := by
  constructor
  · rintro ⟨_, _, _, _, _, _, shown⟩ ⟨method, empty⟩
    exact (shown.clientSecretJwt method).1 empty
  · intro registered
    unfold authenticate at returned
    obtain ⟨⟨presentedId, secret⟩, presented, afterCredentials⟩ :=
      run_of_except_bind_eq_ok returned
    dsimp only at afterCredentials
    split at afterCredentials
    · rename_i clientId named
      rw [run_query_bind] at afterCredentials
      split at afterCredentials
      · rename_i row found
        obtain ⟨enabled, afterEnabled⟩ := run_reject_bind_eq_ok afterCredentials
        obtain ⟨reason, reached, checks, afterDenylist⟩ := run_bind_eq_ok afterEnabled
        obtain ⟨unlisted, afterListed⟩ := run_reject_bind_eq_ok afterDenylist
        obtain ⟨_, shownWorld, credential, ends⟩ := run_bind_eq_ok afterListed
        cases ends
        have waited := denylist_waited checks
        have absent : reason = none := by simpa using unlisted
        rw [absent] at checks
        have first : world.store.clients.first (·.clientId == clientId) = some client := found
        have member := Tables.Table.mem_of_first first
        have identified : client.clientId = clientId := by simpa using member.2
        have nonempty : client.clientId ≠ "" := by
          rw [identified]
          simpa using (Option.filter_eq_some_iff.1 named).2
        have listed := (not_denylisted nonempty checks).mono (readings_grow credential)
        exact ⟨member.1, by simpa using enabled, listed, presentedId, secret, presented,
          credential_shown waited registered credential⟩
      · cases afterCredentials
    · cases afterCredentials

/-! A client that asserts itself with an HMAC, with and without a secret. -/

def assertingEnv : Env where
  config := { jwtSecret := "k", issuer := "s" }
  backend := .sql
  platform := { samplePlatform with jwt := ReferenceJwt.library }

def assertingClient (secret : String) : Client :=
  { sampleClient with clientSecret := secret, tokenEndpointAuthMethod := "client_secret_jwt" }

def assertingWorld (secret : String) : World where
  store := { sampleStore with clients := ⟨[assertingClient secret], by simp⟩ }
  process := sampleProcess

/-- Anyone can sign under the empty secret. -/
def assertingForm (secret : String) : Form :=
  [("client_assertion_type", jwtBearerAssertionType),
    ("client_assertion", ReferenceJwt.library.encode
      (.obj [("iss", .str "app"), ("sub", .str "app"), ("aud", .str "s/oauth/token"),
        ("exp", .int 300), ("jti", .str "j")]) (Text.utf8Encode secret.toList) "HS256" [])]

def noCredentials : Credentials where
  authorization := none
  thumbprint := none
  subjectDn := none

/-- The client a run returned. -/
def returnedClient (outcome : Except Raised Client × World) : Option Client := outcome.1.toOption

theorem returned_eq {outcome : Except Raised Client × World} {client : Client}
    (returned : returnedClient outcome = some client) : outcome = (.ok client, outcome.2) := by
  rcases outcome with ⟨raised | found, later⟩
  · cases returned
  · cases returned
    rfl

theorem empty_secret_returned : returnedClient ((authenticate assertingEnv (assertingForm "")
    noCredentials).run assertingEnv.interp (assertingWorld "")) = some (assertingClient "") := by
  decide +kernel

theorem secret_returned : returnedClient ((authenticate assertingEnv (assertingForm "k")
    noCredentials).run assertingEnv.interp (assertingWorld "k")) = some (assertingClient "k") := by
  decide +kernel

/-- An assertion signed with nothing authenticates a client without a secret. -/
theorem empty_secret_authenticates :
    ¬∀ (env : Env) (world later : World) (form : Form) (credentials : Credentials)
      (client : Client),
      (authenticate env form credentials).run env.interp world = (.ok client, later) →
        Authenticated env world later form credentials client := by
  intro always
  obtain ⟨_, _, _, _, _, _, shown⟩ := always assertingEnv (assertingWorld "") _ (assertingForm "")
    noCredentials (assertingClient "") (returned_eq empty_secret_returned)
  exact (shown.clientSecretJwt rfl).1 rfl

/-- The same client with a secret is authenticated by it. -/
theorem secret_authenticates : ∃ later, Authenticated assertingEnv (assertingWorld "k") later
    (assertingForm "k") noCredentials (assertingClient "k") :=
  ⟨_, (authentication_sound_iff assertingEnv (assertingWorld "k") _ (assertingForm "k")
    noCredentials (assertingClient "k") (returned_eq secret_returned)).2 (by decide)⟩

end OAuth2Server.ClientIdentity
