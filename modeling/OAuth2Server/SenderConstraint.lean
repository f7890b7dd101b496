import OAuth2Server.Footprints
import OAuth2Server.ReferenceJwt
import OAuth2Server.Resources
import OAuth2Server.Runs

/-!
# A bound token is of no use without its key

Whoever gets an answer about a bound token at userinfo or at introspection has
shown what it is bound to: a proof that `validate_dpop_proof` accepted during
the request, or the certificate a trusted proxy saw, or both.
-/

namespace OAuth2Server.SenderConstraint

open OAuth2Server Models JsonText Storage Effects Interaction Interaction.Program
open ClientAuth Dpop Issuance KeySet TokenEndpoint Endpoints Resources Footprints ReferenceJwt Runs

set_option autoImplicit false

/-! ### Up to the check of the binding -/

/-- A world of the same request in which nothing was stored and no proof was
accepted yet. -/
structure Arrives (world reached : World) : Prop where
  store : reached.store = world.store
  replay : reached.process.dpopReplay = world.process.dpopReplay
  clock : world.process.readings ≤ reached.process.readings

theorem Arrives.refl (world : World) : Arrives world world := ⟨rfl, rfl, le_refl _⟩

theorem Arrives.trans {first second third : World} (earlier : Arrives first second)
    (later : Arrives second third) : Arrives first third :=
  ⟨later.store.trans earlier.store, later.replay.trans earlier.replay,
    earlier.clock.trans later.clock⟩

section Programs

variable {ε α : Type} {raises : ε → Prop} {env : Env}

theorem arrives_op {op : Op} (unproved : Unproved op) (world : World) :
    Arrives world (env.interp op world).2 := by
  rcases op with read | write | act
  · exact Arrives.refl world
  · exact unproved.elim
  · cases act with
    | checkAndInsert jti => exact unproved.elim
    | checkInvalidClient clientId =>
        rw [interp_ambient]
        simp only [Ambient.exec]
        split
        · exact Arrives.refl world
        · exact ⟨rfl, rfl, Nat.le_succ _⟩
    | fetchJwks url =>
        have later : world.process.readings ≤ world.process.readings + 2 := by omega
        rw [interp_ambient]
        simp only [Ambient.exec]
        split
        · exact ⟨rfl, rfl, Nat.le_succ _⟩
        · split
          · exact ⟨rfl, rfl, later⟩
          · exact ⟨rfl, rfl, later⟩
    | now => exact ⟨rfl, rfl, Nat.le_succ _⟩
    | time => exact ⟨rfl, rfl, Nat.le_succ _⟩
    | observeJti clientId jti ttlSecs => exact ⟨rfl, rfl, Nat.le_succ _⟩
    | observePoll deviceCode baseInterval => exact ⟨rfl, rfl, Nat.le_succ _⟩
    | _ => exact ⟨rfl, rfl, le_refl _⟩

theorem arrives_run {program : Program Server ε α} {world later : World} {outcome : Except ε α}
    (uses : Uses (S := Server) Unproved raises program)
    (ran : program.run env.interp world = (outcome, later)) : Arrives world later := by
  have keeps : ∀ op reached, Unproved op → Arrives world reached →
      Arrives world (env.interp op reached).2 :=
    fun op reached unproved arrives => arrives.trans (arrives_op unproved reached)
  have kept := uses.run_keeps (Arrives world) keeps (Arrives.refl world)
  rw [ran] at kept
  exact kept

theorem uses_active (key : SigningKey) :
    Uses (S := Server) Identifying raises (isActive key) := by
  unfold isActive
  split
  · exact uses_pure _
  · exact Uses.bind (uses_ambient _ trivial) fun _ => uses_pure _

theorem uses_find (kid : String) (keys : List SigningKey) :
    Uses (S := Server) Identifying raises (KeySet.find kid keys) := by
  induction keys with
  | nil => exact uses_pure _
  | cons key rest induction =>
      unfold KeySet.find
      split
      · refine Uses.bind (uses_active key) fun active => ?_
        split
        · exact uses_pure _
        · exact induction
      · exact induction

theorem uses_active_keys (alg : String) (keys : List SigningKey) :
    Uses (S := Server) Identifying raises (activeKeysForAlg alg keys) := by
  induction keys with
  | nil => exact uses_pure _
  | cons key rest induction =>
      unfold activeKeysForAlg
      split
      · exact Uses.bind (uses_active key) fun active => Uses.bind induction fun _ => uses_pure _
      · exact induction

theorem uses_decode_or_raise (env : Env) (token issuer : String) (key : VerifyKey) (alg : String) :
    Uses (S := Server) Identifying (fun _ => True) (decodeOrRaise env token issuer key alg) := by
  unfold decodeOrRaise
  refine Uses.bind (uses_ambient _ trivial) fun now => ?_
  split <;> trivial

theorem uses_decode_with_any (env : Env) (token issuer : String) (keys : List SigningKey) :
    Uses (S := Server) Identifying (fun _ => True) (decodeWithAny env token issuer keys) := by
  induction keys with
  | nil => exact uses_pure _
  | cons key rest induction =>
      unfold decodeWithAny
      refine Uses.bind (uses_ambient _ trivial) fun now => ?_
      split
      · exact uses_pure _
      · exact induction
      · trivial

/-- Decoding a token reads the clock and the keys. -/
theorem uses_decode (env : Env) (token secret issuer : String) :
    Uses (S := Server) Identifying (fun _ => True) (decodeAccessToken env token secret issuer) := by
  unfold decodeAccessToken
  extract_lets validate
  have validates : ∀ payload,
      Uses (S := Server) Identifying (fun _ => True) (validate payload) := by
    intro payload
    unfold validate
    split <;> trivial
  split
  · rename_i header _
    extract_lets decode
    have decodes : Uses (S := Server) Identifying (fun _ => True) (decode ()) := by
      refine Uses.bind (uses_ambient _ trivial) fun keys => ?_
      have named : Uses (S := Server) Identifying (fun _ : DecodeError => True)
          (namedKey header keys) := by
        unfold namedKey
        split
        · exact uses_find _ _
        · exact uses_pure _
      refine Uses.bind named fun found => ?_
      split
      · refine Uses.bind ((uses_of_except _).2 fun _ _ => trivial) fun verifyKey => ?_
        exact Uses.bind (uses_decode_or_raise env token issuer verifyKey _) validates
      · refine Uses.bind (uses_active_keys _ _) fun candidates => ?_
        refine Uses.bind (uses_decode_with_any env token issuer candidates) fun accepted => ?_
        split
        · exact validates _
        · exact Uses.bind (uses_decode_or_raise env token issuer _ _) validates
    split
    · trivial
    · exact decodes
  · trivial

end Programs

/-! ### What a request shows -/

/-- The request carries a proof that `validate_dpop_proof` accepts during the
request, for the method, the address and the token, made with the key. -/
def ProvesKey (env : Env) (world : World) (request : Request) (method url : String)
    (accessToken : Option String) (jkt : String) : Prop :=
  ∃ proof reached validated later, readDpopHeader request = .ok (some proof) ∧
    Arrives world reached ∧
    (validateDpopProof env proof method url accessToken).run env.interp reached =
      (.ok validated, later) ∧ validated.jkt = jkt

/-- A trusted proxy has seen the certificate. -/
def ShowsCertificate (env : Env) (request : Request) (thumbprint : String) : Prop :=
  env.config.trustProxyHeaders = true ∧ request.certThumbprint.map Text.strip = some thumbprint

theorem shows_of_header {env : Env} {request : Request} {thumbprint : String}
    (header : (mtlsHeaders env request).1 = some thumbprint) :
    ShowsCertificate env request thumbprint := by
  unfold mtlsHeaders at header
  split at header
  · rename_i trusted
    obtain ⟨found, _⟩ := Option.filter_eq_some_iff.1 header
    exact ⟨trusted, found⟩
  · cases header

section Userinfo

variable {env : Env} {request : UserinfoRequest} {token : String} {world reached later : World}

/-- The address proofs for userinfo are made for. -/
def userinfoUrl (env : Env) : String := Text.rstripSlash env.config.issuer ++ "/oauth/userinfo"

theorem proof_presented {request : Request} {proof : String}
    (presented : presentedProof request = some proof) :
    readDpopHeader request = .ok (some proof) := by
  unfold presentedProof at presented
  split at presented
  · rename_i read
    rw [read, presented]
  · cases presented

theorem jkt_enforced {jkt : String} {validated : Option Validated}
    (bound : nonemptyText (confirmation env token "jkt") = some jkt)
    (arrives : Arrives world reached)
    (passed : (enforceJkt env request token).run env.interp reached = (.ok validated, later)) :
    ProvesKey env world request.toRequest request.method.name (userinfoUrl env) (some token) jkt := by
  unfold enforceJkt at passed
  rw [bound] at passed
  dsimp only at passed
  split at passed
  · cases passed
  · cases presented : presentedProof request.toRequest with
    | none =>
        rw [presented] at passed
        cases passed
    | some proof =>
        rw [presented] at passed
        dsimp only at passed
        obtain ⟨accepted, after, validates, decided⟩ := run_bind_eq_ok passed
        have validated := run_map_error_eq_ok validates
        split at decided
        · cases decided
        · rename_i same
          have key : accepted.jkt = jkt := by simpa using same
          exact ⟨proof, reached, accepted, after, proof_presented presented, arrives, validated, key⟩

theorem thumbprint_enforced {thumbprint : String}
    (bound : nonemptyText (confirmation env token "x5t#S256") = some thumbprint)
    (passed : (enforceThumbprint env request token).run env.interp reached = (.ok (), later)) :
    ShowsCertificate env request.toRequest thumbprint := by
  unfold enforceThumbprint at passed
  rw [bound] at passed
  dsimp only at passed
  split at passed
  · cases passed
  · rename_i same
    exact shows_of_header (by simpa using same)

/-- A request that userinfo answers has passed the binding check. -/
theorem userinfo_enforced {response : Response}
    (answered : (userinfo env request).run env.interp world = (.ok response, later))
    (presented : presentedToken env request.toRequest = some token) :
    ∃ reached validated after, Arrives world reached ∧
      (enforceTokenBinding env request token).run env.interp reached = (.ok validated, after) := by
  unfold userinfo at answered
  rw [presented] at answered
  dsimp only at answered
  obtain ⟨_, decoded, decodes, rest⟩ := run_bind_eq_ok answered
  obtain ⟨row, found, finds, rest⟩ := run_bind_eq_ok rest
  obtain ⟨validated, after, enforces, _⟩ := run_bind_eq_ok rest
  have decoding : Uses (S := Server) Unproved (fun _ => True) (tryDecode env token) := by
    unfold tryDecode
    have tried : Uses (S := Server) Unproved (fun _ : DecodeError => True)
        (discard (decodeAccessToken env token env.config.jwtSecret env.config.issuer)) :=
      Uses.bind ((uses_decode env token _ _).mono unproved_of_identifying fun _ _ => trivial)
        fun _ => trivial
    refine tried.rescue ?_
    intro raised _
    cases raised <;> trivial
  have finding : Uses (S := Server) Unproved (fun _ => True) (userinfoRow token) := by
    unfold userinfoRow
    refine Uses.bind (uses_query _ trivial) fun row => ?_
    split
    · trivial
    · split
      · trivial
      · refine Uses.bind (uses_ambient _ trivial) fun now => ?_
        split <;> trivial
  have arrives := (arrives_run decoding decodes).trans (arrives_run finding finds)
  exact ⟨found, validated, after, arrives, enforces⟩

/-- Every operation is allowed; what matters is how a program ends early. -/
abbrev Refusing {α : Type} (program : Handler α) : Prop :=
  Uses (S := Server) (fun _ => True) (fun response : Response => response.status ≠ 200) program

theorem refusing_any {ε α : Type} (program : Program Server ε α) :
    Uses (S := Server) (fun _ => True) (fun _ => True) program := by
  induction program with
  | done value => trivial
  | fail error => trivial
  | call op next induction => exact ⟨trivial, induction⟩

theorem refusing_or_refuse {α : Type} (service : Service α) {refusal : Response}
    (refuses : refusal.status ≠ 200) : Refusing (orRefuse service refusal) := by
  refine (refusing_any service).mapError ?_
  intro raised _
  cases raised with
  | dpop error description => exact refuses
  | oauth error description => exact fun same => by cases same
  | other => exact fun same => by cases same

theorem refusing_throw {α : Type} {response : Response} (refuses : response.status ≠ 200) :
    Refusing (throw response : Handler α) := refuses

theorem invalid_token_refuses (scheme description : String) :
    (invalidTokenResponse scheme description).status ≠ 200 := by
  simp [invalidTokenResponse]

theorem refusing_binding (env : Env) (request : UserinfoRequest) (token : String) :
    Refusing (enforceTokenBinding env request token) := by
  have jkt : Refusing (enforceJkt env request token) := by
    unfold enforceJkt
    split
    · trivial
    · extract_lets checked
      have checks : Refusing (checked ()) := by
        unfold checked
        split
        · refine Uses.bind (refusing_or_refuse _ (invalid_token_refuses _ _)) fun validated => ?_
          split
          · exact invalid_token_refuses _ _
          · trivial
        · exact invalid_token_refuses _ _
      split
      · exact invalid_token_refuses _ _
      · exact checks
  have thumbprint : Refusing (enforceThumbprint env request token) := by
    unfold enforceThumbprint
    split
    · trivial
    · split
      · exact invalid_token_refuses _ _
      · trivial
  exact Uses.bind jkt fun validated => Uses.bind thumbprint fun _ => trivial

theorem refusing_nonce (env : Env) (clientId : String) (validated : Option Validated) :
    Refusing (requireNonce env clientId validated) := by
  unfold requireNonce
  split
  · trivial
  · refine Uses.bind (uses_query _ trivial) fun client => ?_
    split
    · trivial
    · split
      · refine Uses.bind (refusing_or_refuse _ (invalid_token_refuses _ _)) fun challenge => ?_
        split
        · exact fun same => by cases same
        · trivial
      · trivial

/-- Every early exit of userinfo is a refusal. -/
theorem userinfo_refuses (env : Env) (request : UserinfoRequest) :
    Refusing (userinfo env request) := by
  unfold userinfo
  split
  case h_2 => exact fun same => by cases same
  rename_i token _
  have decoding : Refusing (tryDecode env token) := by
    unfold tryDecode
    refine (refusing_any _).rescue ?_
    intro raised _
    cases raised with
    | other => exact fun same => by cases same
    | pyjwt => trivial
    | validation => trivial
  have finding : Refusing (userinfoRow token) := by
    unfold userinfoRow
    refine Uses.bind (uses_query _ trivial) fun row => ?_
    split
    · exact invalid_token_refuses _ _
    · split
      · exact invalid_token_refuses _ _
      · refine Uses.bind (uses_ambient _ trivial) fun now => ?_
        split
        · exact invalid_token_refuses _ _
        · trivial
  refine Uses.bind decoding fun _ => Uses.bind finding fun row => ?_
  refine Uses.bind (refusing_binding env request token) fun validated => ?_
  split
  · refine Uses.bind (refusing_nonce env _ _) fun renewed => ?_
    have selecting : Refusing (userinfoSelection env row) := by
      unfold userinfoSelection
      split
      · trivial
      · refine Uses.bind (uses_query _ trivial) fun code => ?_
        split <;> trivial
    refine Uses.bind selecting fun selection => Uses.bind (uses_query _ trivial) fun user => ?_
    dsimp only
    split
    · have issuing : Refusing (issueNonce env) := Uses.bind (uses_ambient _ trivial) fun _ => trivial
      exact Uses.bind issuing fun nonce => trivial
    · trivial
  · exact invalid_token_refuses _ _

end Userinfo

/-! ### Introspection -/

section Introspection

variable {env : Env} {request : IntrospectRequest} {client : Client} {value : String}
variable {world reached later : World}

/-- The address proofs for introspection are made for. -/
def introspectUrl (env : Env) : String := Text.rstripSlash env.config.issuer ++ "/oauth/introspect"

/-- The answer says `active: true`, as JSON or inside a signed answer. -/
def ReportsActive (env : Env) (response : Response) : Prop :=
  response.status = 200 ∧
    (response.body.get? "active" = some (.bool true) ∨
      ∃ signed claims, response.body = .str signed ∧
        env.platform.jwt.unverifiedClaims signed = some claims ∧
        (claims.lookup "token_introspection").bind (·.get? "active") = some (.bool true))

/-- An answer made from an inactive body reports nothing active. -/
theorem inactive_answers (faithful : RoundTrip env.platform.jwt) :
    Yields (fun response => ¬ReportsActive env response)
      (introspectionResponse env request (.obj [("active", .bool false)]) client) := by
  have encoded : ∀ payload, Yields (fun signed : String => ∃ material alg headers,
      signed = env.platform.jwt.encode payload material alg headers)
      (encodeIntrospectionJwt env payload client) := by
    intro payload
    have signs : ∀ material alg headers, Yields (fun signed : String => ∃ material alg headers,
        signed = env.platform.jwt.encode payload material alg headers)
        (signedOrRaise (jwtEncode env payload material alg headers)) := by
      intro material alg headers
      unfold signedOrRaise jwtEncode
      split
      · rename_i token made
        split at made
        · cases made
          exact ⟨material, alg, headers, rfl⟩
        · cases made
      · trivial
    unfold encodeIntrospectionJwt
    refine yields_bind fun keys => yields_bind fun current => ?_
    split
    · exact signs _ _ _
    · split
      · exact signs _ _ _
      · trivial
  unfold introspectionResponse
  split
  · refine yields_bind fun now => ?_
    refine ((encoded _).mapError).bind ?_
    rintro signed ⟨material, alg, headers, rfl⟩
    rintro ⟨_, active | ⟨text, claims, same, decoded, active⟩⟩
    · cases active
    · cases same
      rw [faithful.claims] at decoded
      cases decoded
      cases active
  · rintro ⟨_, active | ⟨text, claims, same, _⟩⟩
    · cases active
    · cases same

/-- No early exit reports an active token. -/
abbrev Silent {α : Type} (env : Env) (program : Handler α) : Prop :=
  Uses (S := Server) (fun _ => True) (fun response : Response => ¬ReportsActive env response) program

theorem silent_of_refusing {α : Type} {program : Handler α} (refusing : Refusing program) :
    Silent env program := by
  refine refusing.mono (fun _ _ => trivial) ?_
  intro response refuses active
  exact refuses active.1

theorem refusing_call {α : Type} (service : Service α) : Refusing (call service) := by
  refine (refusing_any service).mapError ?_
  intro raised _
  cases raised with
  | dpop error description =>
      simp only [answerRaised, oauthError]
      split <;> simp
  | oauth error description =>
      simp only [answerRaised, oauthError]
      split <;> simp
  | other => exact fun same => by cases same

theorem refusing_rendering (body : Json) :
    Refusing (introspectionResponse env request body client) := by
  unfold introspectionResponse
  split
  · refine Uses.bind (uses_ambient _ trivial) fun now => ?_
    exact Uses.bind (refusing_call _) fun signed => trivial
  · trivial

theorem silent_inactive {α : Type} (faithful : RoundTrip env.platform.jwt) :
    Silent env (answerInactive env request client : Handler α) := by
  unfold answerInactive
  exact Uses.bind_yields (silent_of_refusing (refusing_rendering _)) (inactive_answers faithful)
    fun response silent => silent

theorem silent_row (faithful : RoundTrip env.platform.jwt) (presented : Option String) :
    Silent env (introspectedRow env request client presented) := by
  unfold introspectedRow
  split
  case h_2 => exact silent_inactive faithful
  have lookup : ∀ text, Silent env (lookupTokenBy text) := by
    intro text
    unfold lookupTokenBy
    refine Uses.bind (uses_query _ trivial) fun row => ?_
    split
    · trivial
    · refine Uses.bind (uses_query _ trivial) fun other => ?_
      split <;> trivial
  refine Uses.bind (lookup _) fun found => ?_
  split
  · exact silent_inactive faithful
  · split
    · exact silent_inactive faithful
    · refine Uses.bind (uses_ambient _ trivial) fun now => ?_
      split
      · exact silent_inactive faithful
      · split
        · exact silent_inactive faithful
        · trivial

theorem silent_jkt (faithful : RoundTrip env.platform.jwt) :
    Silent env (introspectJkt env request client value) := by
  unfold introspectJkt
  split
  · trivial
  · have reading : Refusing (check (readDpopHeader request.toRequest)) := by
      unfold check readDpopHeader
      split
      · trivial
      · split
        · trivial
        · simp [Program.ofExcept, Except.mapError, answerRaised, oauthError]
    refine Uses.bind (silent_of_refusing reading) fun header => ?_
    split
    · exact silent_inactive faithful
    · have proving : ∀ proof, Silent env (introspectionProof env request client proof) := by
        intro proof
        unfold introspectionProof
        refine (refusing_any _).rescue ?_
        intro raised _
        cases raised with
        | dpop error description => exact silent_inactive faithful
        | oauth error description => exact fun active => by cases active.1
        | other => exact fun active => by cases active.1
      refine Uses.bind (proving _) fun validated => ?_
      split
      · exact silent_inactive faithful
      · trivial

theorem silent_thumbprint (faithful : RoundTrip env.platform.jwt) :
    Silent env (introspectThumbprint env request client value) := by
  unfold introspectThumbprint
  split
  · trivial
  · split
    · exact silent_inactive faithful
    · trivial

theorem introspect_silent (faithful : RoundTrip env.platform.jwt) (request : IntrospectRequest) :
    Silent env (introspect env request) := by
  unfold introspect
  refine Uses.bind (silent_of_refusing (refusing_call _)) fun client => ?_
  refine Uses.bind (silent_row faithful _) fun found => ?_
  refine Uses.bind (silent_jkt faithful) fun keyBound => ?_
  refine Uses.bind (silent_thumbprint faithful) fun certBound => ?_
  have naming : Silent env (introspectedUsername found.2.1) := by
    unfold introspectedUsername
    split
    · trivial
    · exact Uses.bind (uses_query _ trivial) fun user => trivial
  have decoding : Silent env (introspectedClaims env found.1) := by
    unfold introspectedClaims
    refine (refusing_any _).rescue ?_
    intro raised _
    cases raised with
    | pyjwt => trivial
    | validation => exact fun active => by cases active.1
    | other => exact fun active => by cases active.1
  refine Uses.bind naming fun username => Uses.bind decoding fun claims => ?_
  dsimp only
  split
  · exact silent_of_refusing (refusing_rendering _)
  · exact fun active => by cases active.1

/-- An inactive answer ends the request. -/
theorem inactive_ends {α : Type} :
    Yields (fun _ : α => False) (answerInactive env request client) :=
  yields_bind fun _ => trivial

theorem reported_jkt {jkt : String} {checked : Bool}
    (bound : nonemptyText (confirmation env value "jkt") = some jkt)
    (arrives : Arrives world reached)
    (passed : (introspectJkt env request client value).run env.interp reached =
      (.ok checked, later)) :
    ProvesKey env world request.toRequest "POST" (introspectUrl env) none jkt := by
  obtain ⟨text, nonempty⟩ := Option.filter_eq_some_iff.1 bound
  obtain ⟨member, found, read⟩ := Option.bind_eq_some_iff.1 text
  have same : member = .str jkt := by
    cases member <;> cases read
    rfl
  subst same
  have shown : (confirmation env value "jkt").filter Json.truthy = some (.str jkt) := by
    rw [found]
    simpa [Option.filter_some, Json.truthy] using nonempty
  unfold introspectJkt at passed
  rw [shown] at passed
  dsimp only at passed
  obtain ⟨header, after, reads, rest⟩ := run_bind_eq_ok passed
  cases header with
  | none => exact (inactive_ends.run rest).elim
  | some proof =>
      have presented : readDpopHeader request.toRequest = .ok (some proof) ∧ after = reached := by
        unfold check at reads
        generalize readDpopHeader request.toRequest = outcome at reads ⊢
        cases outcome <;> cases reads
        exact ⟨rfl, rfl⟩
      obtain ⟨read, rfl⟩ := presented
      obtain ⟨accepted, ended, proves, decided⟩ := run_bind_eq_ok rest
      have validated : (validateDpopProof env proof "POST" (introspectUrl env) none).run
          env.interp after = (.ok accepted, ended) := by
        unfold introspectionProof at proves
        rcases run_rescue_eq_ok proves with ok | ⟨raised, stopped, _, handled⟩
        · exact ok
        · cases raised with
          | dpop error description => exact (inactive_ends.run handled).elim
          | oauth error description => cases handled
          | other => cases handled
      split at decided
      · exact (inactive_ends.run decided).elim
      · rename_i equal
        have key : jkt = accepted.jkt := by simpa [Json.equalsText, Json.str?] using equal
        exact ⟨proof, after, accepted, ended, read, arrives, validated, key.symm⟩

theorem reported_thumbprint {thumbprint : String} {checked : Bool}
    (bound : nonemptyText (confirmation env value "x5t#S256") = some thumbprint)
    (passed : (introspectThumbprint env request client value).run env.interp reached =
      (.ok checked, later)) : ShowsCertificate env request.toRequest thumbprint := by
  unfold introspectThumbprint at passed
  rw [bound] at passed
  dsimp only at passed
  split at passed
  · exact (inactive_ends.run passed).elim
  · rename_i same
    exact shows_of_header (by simpa using same)

/-- The value reported on is the one presented. -/
theorem row_value (presented : String) :
    Yields (fun found : String × Token × Instant => found.1 = presented)
      (introspectedRow env request client (some presented)) := by
  unfold introspectedRow
  dsimp only
  refine yields_bind fun found => ?_
  have inactive : Yields (fun found : String × Token × Instant => found.1 = presented)
      (answerInactive env request client) := inactive_ends.mono fun _ never => never.elim
  split
  · exact inactive
  · split
    · exact inactive
    · refine yields_bind fun now => ?_
      split
      · exact inactive
      · split
        · exact inactive
        · exact rfl

theorem unproved_rendering (body : Json) :
    Uses (S := Server) Unproved (fun _ => True) (introspectionResponse env request body client) := by
  have current : ∀ keys, Uses (S := Server) Unproved (fun _ : Raised => True)
      (currentForAlg "RS256" keys) := by
    intro keys
    induction keys with
    | nil => exact uses_pure _
    | cons key rest induction =>
        unfold currentForAlg
        split
        · refine Uses.bind
            ((uses_active key).mono unproved_of_identifying fun _ raised => raised) fun active => ?_
          split
          · exact uses_pure _
          · exact induction
        · exact induction
  have signing : ∀ payload, Uses (S := Server) Unproved (fun _ => True)
      (encodeIntrospectionJwt env payload client) := by
    intro payload
    unfold encodeIntrospectionJwt signedOrRaise
    refine Uses.bind (uses_ambient _ trivial) fun keys => Uses.bind (current keys) fun key => ?_
    repeat' split
    all_goals trivial
  unfold introspectionResponse
  split
  · refine Uses.bind (uses_ambient _ trivial) fun now => ?_
    exact Uses.bind ((signing _).mapError fun _ _ => trivial) fun signed => trivial
  · trivial

theorem unproved_row (presented : Option String) :
    Uses (S := Server) Unproved (fun _ => True)
      (introspectedRow env request client presented) := by
  have inactive : ∀ {α : Type}, Uses (S := Server) Unproved (fun _ => True)
      (answerInactive env request client : Handler α) :=
    Uses.bind (unproved_rendering _) fun _ => trivial
  unfold introspectedRow
  split
  case h_2 => exact inactive
  have lookup : ∀ text, Uses (S := Server) Unproved (fun _ : Response => True)
      (lookupTokenBy text) := by
    intro text
    unfold lookupTokenBy
    refine Uses.bind (uses_query _ trivial) fun row => ?_
    split
    · trivial
    · refine Uses.bind (uses_query _ trivial) fun other => ?_
      split <;> trivial
  refine Uses.bind (lookup _) fun found => ?_
  split
  · exact inactive
  · split
    · exact inactive
    · refine Uses.bind (uses_ambient _ trivial) fun now => ?_
      split
      · exact inactive
      · split
        · exact inactive
        · trivial

/-- A request that introspection answers has passed both checks. -/
theorem introspect_checked {response : Response}
    (answered : (introspect env request).run env.interp world = (.ok response, later))
    (presented : (request.form.get "token").filter (· != "") = some value) :
    ∃ client reached keyBound after certBound ended, Arrives world reached ∧
      (introspectJkt env request client value).run env.interp reached = (.ok keyBound, after) ∧
      (introspectThumbprint env request client value).run env.interp after =
        (.ok certBound, ended) := by
  unfold introspect at answered
  obtain ⟨client, identified, authenticates, rest⟩ := run_bind_eq_ok answered
  obtain ⟨found, located, locates, rest⟩ := run_bind_eq_ok rest
  obtain ⟨keyBound, after, binds, rest⟩ := run_bind_eq_ok rest
  obtain ⟨certBound, ended, certifies, _⟩ := run_bind_eq_ok rest
  rw [presented] at locates
  have same : found.1 = value := (row_value value).run locates
  rw [same] at binds certifies
  have authenticating : Uses (S := Server) Unproved (fun _ => True)
      (authenticateOrRefuse env request.toRequest) :=
    (uses_authenticate env _ _).mapError fun _ _ => trivial
  have arrives := (arrives_run authenticating authenticates).trans
    (arrives_run (unproved_row _) locates)
  exact ⟨client, located, keyBound, after, certBound, ended, arrives, binds, certifies⟩

end Introspection

/-- A bound access token is of no use without what it is bound to: userinfo
answers 200, and introspection reports `active: true`, only to a request that
carries an accepted proof made with the token's key and the certificate the
token is bound to, as far as the token is bound to each of them. -/
theorem bound_tokens_need_their_key (env : Env) (faithful : RoundTrip env.platform.jwt)
    (world : World) (token : String) :
    (∀ request : UserinfoRequest, presentedToken env request.toRequest = some token →
      (respond env.interp (userinfo env request) world).1.status = 200 →
        (∀ jkt, confirmation env token "jkt" = some (.str jkt) → jkt ≠ "" →
          ProvesKey env world request.toRequest request.method.name (userinfoUrl env)
            (some token) jkt) ∧
        ∀ thumbprint, confirmation env token "x5t#S256" = some (.str thumbprint) →
          thumbprint ≠ "" → ShowsCertificate env request.toRequest thumbprint) ∧
    ∀ request : IntrospectRequest, request.form.get "token" = some token →
      ReportsActive env (respond env.interp (introspect env request) world).1 →
        (∀ jkt, confirmation env token "jkt" = some (.str jkt) → jkt ≠ "" →
          ProvesKey env world request.toRequest "POST" (introspectUrl env) none jkt) ∧
        ∀ thumbprint, confirmation env token "x5t#S256" = some (.str thumbprint) →
          thumbprint ≠ "" → ShowsCertificate env request.toRequest thumbprint := by
  have text : ∀ member value, confirmation env token member = some (.str value) → value ≠ "" →
      nonemptyText (confirmation env token member) = some value := by
    intro member value found nonempty
    unfold nonemptyText
    rw [found]
    simp [Json.str?, Option.filter_some, nonempty]
  constructor
  · intro request presented answered
    obtain ⟨later, ok | refused⟩ := respond_cases
      (rfl : (respond env.interp (userinfo env request) world).1 = _)
    · obtain ⟨reached, validated, after, arrives, enforced⟩ := userinfo_enforced ok presented
      obtain ⟨proved, proven, proves, rest⟩ := run_bind_eq_ok enforced
      obtain ⟨_, certified, certifies, _⟩ := run_bind_eq_ok rest
      exact ⟨fun jkt found nonempty => jkt_enforced (text _ _ found nonempty) arrives proves,
        fun thumbprint found nonempty => thumbprint_enforced (text _ _ found nonempty) certifies⟩
    · exact absurd answered ((userinfo_refuses env request).run_raises refused)
  · intro request presented active
    obtain ⟨later, ok | refused⟩ := respond_cases
      (rfl : (respond env.interp (introspect env request) world).1 = _)
    · by_cases empty : token = ""
      · -- without a token there is nothing to report on
        have absent : (request.form.get "token").filter (· != "") = none := by
          simp [presented, Option.filter_some, empty]
        unfold introspect at ok
        rw [absent] at ok
        obtain ⟨client, identified, _, rest⟩ := run_bind_eq_ok ok
        obtain ⟨found, located, locates, _⟩ := run_bind_eq_ok rest
        exact (inactive_ends.run locates).elim
      · have shown : (request.form.get "token").filter (· != "") = some token := by
          simp [presented, Option.filter_some, empty]
        obtain ⟨client, reached, keyBound, after, certBound, ended, arrives, binds, certifies⟩ :=
          introspect_checked ok shown
        exact ⟨fun jkt found nonempty => reported_jkt (text _ _ found nonempty) arrives binds,
          fun thumbprint found nonempty =>
            reported_thumbprint (text _ _ found nonempty) certifies⟩
    · exact absurd active ((introspect_silent faithful request).run_raises refused)

/-! A token bound to a key and to a certificate. -/

/-- A server behind a trusted proxy; every digest is `h`. -/
def holderEnv : Env where
  config := { jwtSecret := "k", issuer := "s", trustProxyHeaders := true }
  backend := .sql
  platform := { samplePlatform with jwt := ReferenceJwt.library, sha256Url := fun _ => "h" }

def boundToken : String :=
  sign (.obj [("alg", .str "HS256")])
    (.obj [("cnf", .obj [("jkt", .str "h"), ("x5t#S256", .str "t")])]) .null

def holderWorld : World where
  store := { sampleStore with
    tokens := ⟨[{ sampleToken with accessToken := boundToken }], by simp⟩ }
  process := sampleProcess

def holderProof (method url : String) : List Nat :=
  let jwk := Json.obj [("kty", .str "RSA"), ("e", .str "e"), ("n", .str "n")]
  Text.utf8Encode (characters (sign
    (.obj [("alg", .str "RS256"), ("typ", .str "dpop+jwt"), ("jwk", jwk)])
    (.obj [("htm", .str method), ("htu", .str url), ("iat", .int 0), ("jti", .str "j"),
      ("ath", .str "h")]) (verifyKeyJson (.jwk "RSA" jwk))))

def holderUserinfo : UserinfoRequest where
  form := []
  authorization := some ("DPoP " ++ boundToken)
  dpop := some (holderProof "GET" "s/oauth/userinfo")
  certThumbprint := some "t"
  method := .get

def holderIntrospection : IntrospectRequest where
  form := [("client_id", "app"), ("token", boundToken)]
  dpop := some (holderProof "POST" "s/oauth/introspect")
  certThumbprint := some "t"

def isTrue : Option Json → Bool
  | some (.bool value) => value
  | _ => false

theorem is_true_iff {value : Option Json} (holds : isTrue value = true) :
    value = some (.bool true) := by
  rcases value with _ | value
  · cases holds
  · cases value <;> cases holds
    rfl

theorem holder_userinfo_answered :
    (respond holderEnv.interp (userinfo holderEnv holderUserinfo) holderWorld).1.status = 200 := by
  decide +kernel

theorem holder_presents : presentedToken holderEnv holderUserinfo.toRequest = some boundToken := by
  decide +kernel

theorem holder_submits : holderIntrospection.form.get "token" = some boundToken := by
  decide +kernel

/-- The answer is evaluated once, by a test of both parts. -/
theorem holder_introspection_active : ReportsActive holderEnv
    (respond holderEnv.interp (introspect holderEnv holderIntrospection) holderWorld).1 := by
  have test : (fun answer : Response =>
      answer.status == 200 && isTrue (answer.body.get? "active"))
        (respond holderEnv.interp (introspect holderEnv holderIntrospection) holderWorld).1 =
          true := by
    decide +kernel
  generalize (respond holderEnv.interp (introspect holderEnv holderIntrospection)
    holderWorld).1 = answer at test ⊢
  have both : answer.status = 200 ∧ isTrue (answer.body.get? "active") = true := by
    simpa using test
  exact ⟨both.1, .inl (is_true_iff both.2)⟩

/-- What the reference library reads back from a signed token. -/
theorem confirmation_sign (env : Env) (reference : env.platform.jwt = ReferenceJwt.library)
    (header members : List (String × Json)) (key : Json) (member : String) :
    confirmation env (sign (.obj header) (.obj [("cnf", .obj members)]) key) member =
      members.lookup member := by
  have claims : decodeUnverifiedClaims env (sign (.obj header) (.obj [("cnf", .obj members)]) key) =
      [("cnf", .obj members)] := by
    unfold decodeUnverifiedClaims
    rw [reference]
    change ((parse (sign (.obj header) (.obj [("cnf", .obj members)]) key)).map
      Parts.claims).getD [] = _
    rw [parse_sign]
    rfl
  unfold Resources.confirmation
  rw [claims]
  rfl

theorem bound_token_confirmation : confirmation holderEnv boundToken "jkt" = some (.str "h") ∧
    confirmation holderEnv boundToken "x5t#S256" = some (.str "t") := by
  have read := confirmation_sign holderEnv rfl [("alg", .str "HS256")]
    [("jkt", .str "h"), ("x5t#S256", .str "t")] .null
  exact ⟨read "jkt", read "x5t#S256"⟩

/-- Both endpoints answer the holder of the key and the certificate. -/
theorem holder_is_answered :
    (respond holderEnv.interp (userinfo holderEnv holderUserinfo) holderWorld).1.status = 200 ∧
    ProvesKey holderEnv holderWorld holderUserinfo.toRequest "GET" (userinfoUrl holderEnv)
      (some boundToken) "h" ∧ ShowsCertificate holderEnv holderUserinfo.toRequest "t" ∧
    ReportsActive holderEnv
      (respond holderEnv.interp (introspect holderEnv holderIntrospection) holderWorld).1 ∧
    ProvesKey holderEnv holderWorld holderIntrospection.toRequest "POST" (introspectUrl holderEnv)
      none "h" ∧ ShowsCertificate holderEnv holderIntrospection.toRequest "t" := by
  have jkt := bound_token_confirmation.1
  have thumbprint := bound_token_confirmation.2
  obtain ⟨shown, seen⟩ := bound_tokens_need_their_key holderEnv round_trip holderWorld boundToken
  obtain ⟨proves, certifies⟩ := shown holderUserinfo holder_presents holder_userinfo_answered
  obtain ⟨provesAgain, certifiesAgain⟩ :=
    seen holderIntrospection holder_submits holder_introspection_active
  exact ⟨holder_userinfo_answered, proves "h" jkt (by decide),
    certifies "t" thumbprint (by decide), holder_introspection_active,
    provesAgain "h" jkt (by decide), certifiesAgain "t" thumbprint (by decide)⟩

end OAuth2Server.SenderConstraint
