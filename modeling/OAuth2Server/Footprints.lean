import OAuth2Server.Endpoints

/-!
# What the shared services touch

Client authentication, proofs, nonces, signing and the denylist neither write
the store nor draw a family identifier, and none of them answers
`invalid_grant`. One lemma a service; the grants cite them.
-/

namespace OAuth2Server.Footprints

open OAuth2Server Models JsonText Storage Effects Interaction Interaction.Program
open ClientAuth Dpop JwtBearer Issuance Validation TokenEndpoint Endpoints

set_option autoImplicit false

/-- Operations outside the tables a grant is decided on. -/
def Calm : Op → Prop
  | .query (.findDenylistEntry _ _) => True
  | .query (.getTrustedIssuer _) => True
  | .ambient .uuid4Hex => False
  | .ambient (.enterIssue _) => False
  | .ambient _ => True
  | _ => False

/-- The operations of `issue` up to its insertion, and of everything after it. -/
def Settled : Op → Prop
  | .query (.getUserById _) => True
  | .ambient .uuid4Hex => True
  | op => Calm op

theorem settled_of_calm (op : Op) (calm : Calm op) : Settled op := by
  unfold Settled
  split
  · trivial
  · trivial
  · exact calm

/-- The operations of client authentication: calm, and no proof is accepted. -/
def Identifying : Op → Prop
  | .ambient (.checkAndInsert _) => False
  | op => Calm op

theorem calm_of_identifying (op : Op) (identifying : Identifying op) : Calm op := by
  unfold Identifying at identifying
  split at identifying
  · exact identifying.elim
  · exact identifying

/-- The error code of an exception. -/
def code : Raised → Option String
  | .oauth error _ => some error
  | .dpop error _ => some error
  | .other => none

/-- An exception that is not about the grant. -/
def Unrelated (raised : Raised) : Prop := code raised ≠ some "invalid_grant"

@[simp] theorem unrelated_oauth (error : String) (description : Option String) :
    Unrelated (.oauth error description) ↔ error ≠ "invalid_grant" := by
  simp [Unrelated, code]

@[simp] theorem unrelated_dpop (error description : String) :
    Unrelated (.dpop error description) ↔ error ≠ "invalid_grant" := by
  simp [Unrelated, code]

@[simp] theorem unrelated_other : Unrelated .other := by
  simp [Unrelated, code]

@[simp] theorem unrelated_invalid_client (description : String) :
    Unrelated (invalidClient description) := by
  simp [invalidClient]

@[simp] theorem unrelated_invalid_proof (description : String) :
    Unrelated (invalidProof description) := by
  simp [invalidProof]

/-! ### Pure checks -/

/-- Every exception of a pure check is in `raises`. -/
def Raising {ε α : Type} (raises : ε → Prop) (outcome : Except ε α) : Prop :=
  ∀ error, outcome = .error error → raises error

section PureChecks

variable {ε α β : Type} {raises : ε → Prop}

@[simp] theorem raising_ok (value : α) : Raising raises (.ok value : Except ε α) := by
  simp [Raising]

@[simp] theorem raising_pure (value : α) : Raising raises (pure value : Except ε α) :=
  raising_ok value

@[simp] theorem raising_error (error : ε) :
    Raising raises (.error error : Except ε α) ↔ raises error := by
  simp [Raising]

@[simp] theorem raising_throw (error : ε) :
    Raising raises (throw error : Except ε α) ↔ raises error := raising_error error

@[simp] theorem raising_throw_bind (error : ε) (rest : α → Except ε β) :
    Raising raises (throw error >>= rest) ↔ raises error := raising_error error

@[simp] theorem raising_map (f : α → β) (outcome : Except ε α) :
    Raising raises (f <$> outcome) ↔ Raising raises outcome := by
  cases outcome <;> simp

theorem Raising.bind {outcome : Except ε α} {rest : α → Except ε β}
    (raising : Raising raises outcome) (later : ∀ value, Raising raises (rest value)) :
    Raising raises (outcome >>= rest) := by
  cases outcome with
  | error error => exact (raising_error error).2 ((raising_error error).1 raising)
  | ok value => exact later value

end PureChecks

/-! ### Single operations -/

section Operations

variable {ε α : Type} {raises : ε → Prop} {footprint : Op → Prop}

theorem uses_query (read : Query) (within : footprint (.query read)) :
    Uses (S := Server) footprint raises (query read) := ⟨within, fun _ => trivial⟩

theorem uses_command (write : Command) (within : footprint (.command write)) :
    Uses (S := Server) footprint raises (command write) := ⟨within, fun _ => trivial⟩

theorem uses_ambient (act : Ambient) (within : footprint (.ambient act)) :
    Uses (S := Server) footprint raises (ambient act) := ⟨within, fun _ => trivial⟩

theorem uses_pure (value : α) : Uses (S := Server) footprint raises (pure value) := trivial

/-- The forms for a caller that has to name what may be raised. -/
theorem uses_ambient_raising (raises : ε → Prop) (act : Ambient) (within : footprint (.ambient act)) :
    Uses (S := Server) footprint raises (ambient act) := uses_ambient act within

theorem uses_pure_raising (raises : ε → Prop) (value : α) :
    Uses (S := Server) footprint raises (pure value) := uses_pure value

theorem uses_throw {error : ε} (raised : raises error) :
    Uses (S := Server) (α := α) footprint raises (throw error) := raised

theorem uses_throw_bind {β : Type} {error : ε} {rest : β → Program Server ε α}
    (raised : raises error) :
    Uses (S := Server) footprint raises (throw error >>= rest) := raised

theorem uses_raise_if {raises : Raised → Prop} (condition : Bool) (error description : String)
    (raised : raises (.oauth error (some description))) :
    Uses (S := Server) footprint raises (raiseIf condition error description) :=
  (uses_reject_if _ _).2 fun _ => raised

theorem uses_pure_check {outcome : Except ε α} (raising : Raising raises outcome) :
    Uses (S := Server) footprint raises (Program.ofExcept outcome) :=
  (uses_of_except _).2 raising

end Operations

/-! ### Client authentication -/

theorem uses_check_subject_denylisted {ε : Type} (raises : ε → Prop) (kind value : String) :
    Uses (S := Server) Identifying raises (checkSubjectDenylisted kind value) := by
  unfold checkSubjectDenylisted findDenylistEntry
  by_cases empty : value == ""
  · simp [empty]
  · simp only [empty]
    refine Uses.bind (Uses.bind (uses_query _ trivial) ?_) fun _ => trivial
    intro answer
    split
    · exact uses_pure _
    · split
      · exact uses_pure _
      · exact Uses.bind (uses_ambient _ trivial) fun _ => trivial

theorem uses_resolve_client_jwks (env : Env) (client : Client) (methods : List String) :
    Uses (S := Server) Identifying Unrelated (resolveClientJwks env client methods) := by
  unfold resolveClientJwks
  split
  · exact uses_pure _
  · split
    · split <;> simp
    · split
      · refine Uses.bind (uses_ambient _ trivial) fun answer => ?_
        split <;> simp
      · simp

theorem uses_enforce_jti_replay (clientId : String) (claims : List (String × Json)) :
    Uses (S := Server) Identifying Unrelated (enforceJtiReplay clientId claims) := by
  unfold enforceJtiReplay
  split
  · split
    · refine Uses.bind (uses_ambient _ trivial) fun time => ?_
      split
      · refine Uses.bind (uses_ambient _ trivial) fun observation => ?_
        split <;> simp
      · simp
    · simp
  · simp

theorem raising_rsa_key (env : Env) (jwks : Option Json) (kid : Option String) :
    Raising Unrelated (rsaKeyFromJwks env jwks kid) := by
  unfold rsaKeyFromJwks
  split
  · split
    · extract_lets build
      have built : ∀ found, Raising Unrelated (build found) := by
        intro found
        simp only [build]
        split <;> simp
      split <;> split
      all_goals exact Raising.bind (by simp) built
    · simp
  · simp

theorem uses_validate_client_assertion (env : Env) (client : Client)
    (assertion tokenEndpointUrl : String) (jwks : Option Json) :
    Uses (S := Server) Identifying Unrelated
      (validateClientAssertion env client assertion tokenEndpointUrl jwks) := by
  unfold validateClientAssertion
  extract_lets method
  split
  · split
    · refine Uses.bind (uses_raise_if _ _ _ (by simp)) fun _ => ?_
      extract_lets verify
      have verified : ∀ key, Uses (S := Server) Identifying Unrelated (verify key) := by
        intro key
        simp only [verify]
        refine Uses.bind (uses_ambient _ trivial) fun now => ?_
        split
        · simp
        · simp
        · exact Uses.bind (uses_raise_if _ _ _ (by simp)) fun _ => uses_enforce_jti_replay _ _
      split
      · exact verified _
      · exact Uses.bind (uses_pure_check (raising_rsa_key env jwks _)) verified
    · simp
  · simp

theorem uses_authenticate_jwt (env : Env) (client : Client) (form : Form) :
    Uses (S := Server) Identifying Unrelated (authenticateJwt env client form) := by
  unfold authenticateJwt
  refine Uses.bind (uses_raise_if _ _ _ (by simp)) fun _ => ?_
  refine Uses.bind (uses_raise_if _ _ _ (by simp)) fun _ => ?_
  refine Uses.bind (uses_raise_if _ _ _ (by simp)) fun _ => ?_
  refine Uses.bind (uses_resolve_client_jwks env client _) fun jwks => ?_
  exact uses_validate_client_assertion env client _ _ jwks

theorem raising_tls_client_auth (client : Client) (thumbprint subjectDn : Option String) :
    Raising Unrelated (authenticateTlsClientAuth client thumbprint subjectDn) := by
  unfold authenticateTlsClientAuth
  repeat' split
  all_goals simp

theorem uses_authenticate_self_signed_tls (env : Env) (client : Client)
    (thumbprint : Option String) :
    Uses (S := Server) Identifying Unrelated (authenticateSelfSignedTls env client thumbprint) := by
  unfold authenticateSelfSignedTls
  split
  · extract_lets noMatch
    refine Uses.bind (uses_raise_if _ _ _ (by simp)) fun _ => ?_
    refine Uses.bind (uses_resolve_client_jwks env client _) fun jwks => ?_
    split
    · exact uses_raise_if _ _ _ (by simp)
    · simp
  · simp

theorem uses_check_credential (env : Env) (client : Client) (form : Form)
    (clientSecret : Option String) (credentials : Credentials) :
    Uses (S := Server) Identifying Unrelated
      (checkCredential env client form clientSecret credentials) := by
  unfold checkCredential
  extract_lets method
  split
  · exact uses_raise_if _ _ _ (by simp)
  split
  · exact uses_authenticate_jwt env client form
  split
  · exact uses_pure_check (raising_tls_client_auth client _ _)
  split
  · exact uses_authenticate_self_signed_tls env client _
  · exact uses_raise_if _ _ _ (by simp)

theorem raising_parse_basic_auth (authorization : Option String) :
    Raising Unrelated (parseBasicAuth authorization) := by
  unfold parseBasicAuth
  split
  · simp
  · dsimp only
    repeat' split
    all_goals simp

theorem raising_presented_credentials (form : Form) (authorization : Option String) :
    Raising Unrelated (presentedCredentials form authorization) := by
  unfold presentedCredentials
  refine Raising.bind (raising_parse_basic_auth authorization) fun parsed => ?_
  split
  · dsimp only
    repeat' split
    all_goals simp
  · exact raising_pure _

/-! ### Proofs and nonces -/

theorem raising_jwk_thumbprint (env : Env) (jwk : Json) :
    Raising Unrelated (jwkThumbprint env jwk) := by
  unfold jwkThumbprint
  split <;> simp

theorem raising_proof_algorithm (header : List (String × Json)) :
    Raising Unrelated (proofAlgorithm header) := by
  unfold proofAlgorithm unsupportedAlgorithm
  repeat' split
  all_goals simp

theorem raising_iat_in_window (iat : Json) (time : ℚ) :
    Raising Unrelated (iatInWindow iat time) := by
  unfold iatInWindow
  extract_lets within
  have inside : ∀ value, Raising Unrelated (within value) := by
    intro value
    simp only [within]
    split <;> simp
  split
  · exact inside _
  · split
    · simp
    · exact inside _
  · exact inside _
  · simp
  · simp

theorem raising_proof_nonce (claims : List (String × Json)) :
    Raising Unrelated (proofNonce claims) := by
  unfold proofNonce
  split <;> simp

theorem raising_check_proof_claims (env : Env) (lone : List String)
    (claims : List (String × Json)) (method url : String) (accessToken : Option String) :
    Raising Unrelated (checkProofClaims env lone claims method url accessToken) := by
  unfold checkProofClaims
  dsimp only
  repeat' split
  all_goals simp

theorem uses_validate_dpop_proof (env : Env) (proof method url : String)
    (accessToken : Option String) :
    Uses (S := Server) Calm Unrelated (validateDpopProof env proof method url accessToken) := by
  unfold validateDpopProof
  dsimp only
  split
  case h_2 => exact uses_throw_bind (by simp)
  case h_3 => exact uses_throw_bind (by simp)
  refine Uses.bind (uses_pure _) fun header => ?_
  split
  · exact uses_throw_bind (by simp)
  split
  case h_2 => simp
  refine Uses.bind (uses_pure_check (raising_jwk_thumbprint env _)) fun jkt => ?_
  refine Uses.bind (uses_pure_check (raising_proof_algorithm _)) fun alg => ?_
  split
  · exact uses_throw_bind (by simp [signatureInvalid])
  refine Uses.bind (uses_ambient _ trivial) fun now => ?_
  split
  case h_2 => exact uses_throw_bind (by simp [signatureInvalid])
  case h_3 => exact uses_throw_bind (by simp [signatureInvalid])
  refine Uses.bind (uses_pure _) fun claims => ?_
  refine Uses.bind (uses_pure_check (raising_check_proof_claims env _ claims _ _ _)) fun _ => ?_
  split
  case h_2 => simp
  refine Uses.bind (uses_ambient _ trivial) fun time => ?_
  refine Uses.bind (uses_pure_check (raising_iat_in_window _ time)) fun _ => ?_
  refine Uses.bind (uses_pure_check (raising_proof_nonce claims)) fun nonce => ?_
  split
  case h_2 => simp
  refine Uses.bind (uses_ambient _ trivial) fun fresh => ?_
  split
  · exact uses_throw_bind (by simp)
  · exact uses_pure _

theorem uses_issue_nonce {ε : Type} (raises : ε → Prop) (env : Env) :
    Uses (S := Server) Calm raises (issueNonce env) := by
  unfold issueNonce
  exact Uses.bind (uses_ambient _ trivial) fun _ => trivial

theorem uses_use_dpop_nonce_response {ε : Type} (raises : ε → Prop) (env : Env)
    (description : String) :
    Uses (S := Server) Calm raises (useDpopNonceResponse env description) := by
  unfold useDpopNonceResponse
  exact Uses.bind (uses_issue_nonce raises env) fun _ => trivial

/-! ### Signing -/

section Signing

variable {ε : Type} (raises : ε → Prop)

theorem uses_is_active (key : SigningKey) :
    Uses (S := Server) Calm raises (isActive key) := by
  unfold isActive
  split
  · exact uses_pure _
  · exact Uses.bind (uses_ambient _ trivial) fun _ => trivial

theorem uses_current_for_alg (alg : String) (keys : List SigningKey) :
    Uses (S := Server) Calm raises (currentForAlg alg keys) := by
  induction keys with
  | nil => exact uses_pure _
  | cons key rest induction =>
      unfold currentForAlg
      split
      · refine Uses.bind (uses_is_active raises key) fun active => ?_
        split
        · exact uses_pure _
        · exact induction
      · exact induction

theorem uses_access_signing_key : Uses (S := Server) Calm raises accessSigningKey := by
  unfold accessSigningKey
  refine Uses.bind (uses_ambient _ trivial) fun keys => ?_
  refine Uses.bind (uses_current_for_alg raises _ keys) fun found => ?_
  split
  · exact uses_pure _
  · exact uses_current_for_alg raises _ keys

end Signing

theorem uses_mint_access_token (env : Env) (request : IssueRequest) :
    Uses (S := Server) Settled Unrelated (mintAccessToken env request) := by
  unfold mintAccessToken newClaims
  split
  · exact uses_ambient _ trivial
  · refine Uses.bind ?_ fun claims => ?_
    · dsimp only
      refine Uses.bind (uses_ambient _ trivial) fun now => ?_
      exact Uses.bind (uses_ambient _ trivial) fun jti => trivial
    · refine Uses.bind ((uses_access_signing_key Unrelated).mono settled_of_calm
        fun _ raised => raised) fun key => ?_
      split <;> simp

theorem uses_encode_id_token (env : Env) (claims : IdTokenClaims) :
    Uses (S := Server) Calm Unrelated (encodeIdToken env claims) := by
  unfold encodeIdToken
  extract_lets signed
  have signs : ∀ token, Uses (S := Server) Calm Unrelated (signed token) := by
    intro token
    simp only [signed]
    split <;> simp
  split
  · refine Uses.bind (uses_ambient _ trivial) fun keys => ?_
    refine Uses.bind (uses_current_for_alg _ _ keys) fun found => ?_
    split
    · exact signs _
    · split
      · exact uses_pure _
      · exact signs _
  · exact signs _

theorem uses_mint_id_token (env : Env) (client : Client) (userId : String) (user : Option User)
    (scope accessToken : String) (nonce authorizationCode : Option String)
    (selection : Option ClaimsSelection) :
    Uses (S := Server) Calm Unrelated
      (mintIdToken env client userId user scope accessToken nonce authorizationCode selection) := by
  unfold mintIdToken
  dsimp only
  exact Uses.bind (uses_ambient _ trivial) fun now => uses_encode_id_token env _

/-! ### Assertions -/

/-- Every exception of an assertion is an answer about the grant. -/
def Any (_ : Raised) : Prop := True

theorem raising_any {α : Type} (outcome : Except Raised α) : Raising Any outcome :=
  fun _ _ => trivial

theorem uses_verify_assertion (env : Env) (assertion : String) (trusted : TrustedIssuer)
    (header : List (String × Json)) :
    Uses (S := Server) Calm Any (verifyAssertion env assertion trusted header) := by
  unfold verifyAssertion
  dsimp only
  split
  · refine Uses.bind (uses_ambient _ trivial) fun fetched => ?_
    split
    case h_2 => exact uses_throw_bind trivial
    case h_3 => exact uses_throw_bind trivial
    refine Uses.bind (uses_pure _) fun jwks => ?_
    refine Uses.bind (uses_pure_check (raising_any _)) fun key => ?_
    split
    · refine Uses.bind (uses_ambient _ trivial) fun now => ?_
      split
      · exact uses_pure _
      · exact uses_throw trivial
      · exact uses_throw trivial
    · exact uses_throw trivial
  · exact uses_throw trivial

theorem uses_check_assertion (env : Env) (assertion : String) (client : Client) :
    Uses (S := Server) Calm Any (checkAssertion env assertion client) := by
  unfold checkAssertion
  refine Uses.bind (uses_pure_check (raising_any _)) fun unverified => ?_
  refine Uses.bind (uses_query _ trivial) fun found => ?_
  split
  · refine Uses.bind (uses_raise_if _ _ _ trivial) fun _ => ?_
    split
    · refine Uses.bind (uses_raise_if _ _ _ trivial) fun _ => ?_
      refine Uses.bind (uses_raise_if _ _ _ trivial) fun _ => ?_
      refine Uses.bind (uses_verify_assertion env assertion _ _) fun claims => ?_
      refine Uses.bind (uses_pure_check (raising_any _)) fun iat => ?_
      refine Uses.bind (uses_ambient _ trivial) fun time => ?_
      refine Uses.bind (uses_raise_if _ _ _ trivial) fun _ => ?_
      exact uses_pure _
    · exact uses_throw trivial
  · exact uses_throw trivial

theorem uses_enforce_replay (iss : String) (claims : List (String × Json)) :
    Uses (S := Server) Calm Any (enforceReplay iss claims) := by
  unfold enforceReplay
  split
  · refine Uses.bind (uses_pure_check (raising_any _)) fun exp => ?_
    refine Uses.bind (uses_ambient _ trivial) fun time => ?_
    refine Uses.bind (uses_raise_if _ _ _ trivial) fun _ => ?_
    refine Uses.bind (uses_ambient _ trivial) fun observation => ?_
    split
    · exact uses_throw trivial
    · exact uses_throw trivial
    · exact uses_pure _
  · exact uses_throw trivial

theorem uses_reject_if_denylisted (username email : String) :
    Uses (S := Server) Calm Any (rejectIfDenylisted username email) := by
  unfold rejectIfDenylisted
  have denylisted : ∀ kind value,
      Uses (S := Server) Calm Any (checkSubjectDenylisted kind value) := fun kind value =>
    (uses_check_subject_denylisted Any kind value).mono calm_of_identifying fun _ raised => raised
  refine Uses.bind (denylisted _ _) fun byName => ?_
  refine Uses.bind (uses_raise_if _ _ _ trivial) fun _ => ?_
  refine Uses.bind (denylisted _ _) fun byEmail => ?_
  exact uses_raise_if _ _ _ trivial

/-! ### Answers of the token endpoint -/

/-- What a replayed authorization code is answered with. -/
def codeReplayAnswer : Response :=
  oauthError "invalid_grant" (some "authorization code has already been used")

/-- A failure that is no answer to a replayed code. -/
def Refusal (response : Response) : Prop :=
  response.status ≠ 200 ∧ response ≠ codeReplayAnswer

theorem oauth_error_injective {error other : String} {description remark : Option String}
    {status code : Nat}
    (same : oauthError error description status = oauthError other remark code) :
    error = other ∧ description = remark := by
  have bodies := congrArg Response.body same
  simp only [oauthError, Json.obj.injEq, List.cons_append, List.nil_append, List.cons.injEq,
    Prod.mk.injEq, Json.str.injEq, true_and] at bodies
  obtain ⟨sameError, members⟩ := bodies
  cases description <;> cases remark <;> simp_all [optionalMember]

theorem oauth_error_status (error : String) (description : Option String) :
    (oauthError error description).status ≠ 200 := by
  unfold oauthError
  split <;> simp

theorem refusal_of_error {error : String} (description : Option String)
    (other : error ≠ "invalid_grant") : Refusal (oauthError error description) :=
  ⟨oauth_error_status error description, fun same => other (oauth_error_injective same).1⟩

theorem refusal_of_description (error : String) {description : String}
    (other : description ≠ "authorization code has already been used") :
    Refusal (oauthError error (some description)) :=
  ⟨oauth_error_status error _,
    fun same => other (Option.some.inj (oauth_error_injective same).2)⟩

theorem refusal_of_status {response : Response} (success : response.status ≠ 200)
    (other : response.status ≠ 400) : Refusal response :=
  ⟨success, fun same => other (congrArg Response.status same)⟩

theorem refusal_of_unrelated (raised : Raised) (unrelated : Unrelated raised) :
    Refusal (answerRaised raised) := by
  cases raised with
  | oauth error description => exact refusal_of_error _ ((unrelated_oauth _ _).1 unrelated)
  | dpop error description => exact refusal_of_error _ ((unrelated_dpop _ _).1 unrelated)
  | other => exact refusal_of_status (by decide) (by decide)

section Handlers

variable {α : Type} {footprint : Op → Prop}

theorem uses_call {service : Service α} (uses : Uses footprint Unrelated service) :
    Uses footprint Refusal (call service) :=
  Uses.mapError uses refusal_of_unrelated

theorem uses_check_answered {outcome : Except Raised α}
    (raising : Raising (fun raised => Refusal (answerRaised raised)) outcome) :
    Uses (S := Server) footprint Refusal (check outcome) := by
  unfold check
  refine uses_pure_check fun error failed => ?_
  cases outcome with
  | ok value => cases failed
  | error raised =>
      cases failed
      exact raising raised rfl

theorem uses_check {outcome : Except Raised α} (raising : Raising Unrelated outcome) :
    Uses (S := Server) footprint Refusal (check outcome) :=
  uses_check_answered fun raised failed => refusal_of_unrelated raised (raising raised failed)

theorem uses_return_if (condition : Bool) (error description : String)
    (refusal : Refusal (oauthError error (some description))) :
    Uses (S := Server) footprint Refusal (returnIf condition error description) :=
  (uses_reject_if _ _).2 fun _ => refusal

end Handlers

theorem uses_refuse_invalid_client {α : Type} (clientId description : Option String) :
    Uses (S := Server) (α := α) Calm Refusal
      (do
        let response ← invalidClientResponse clientId description
        throw response) := by
  unfold invalidClientResponse
  split
  · exact uses_throw (refusal_of_error _ (by decide))
  · refine ⟨trivial, fun answer => ?_⟩
    cases answer with
    | none => exact refusal_of_error _ (by decide)
    | some retryAfter => exact refusal_of_status (by simp) (by simp)

theorem raising_for_each {α : Type} {raises : Raised → Prop} {visit : α → Except Raised Unit}
    (visits : ∀ entry, Raising raises (visit entry)) (entries : List α) :
    Raising raises (entries.forM visit) := by
  induction entries with
  | nil => exact raising_pure _
  | cons entry rest induction => exact (visits entry).bind fun _ => induction

theorem raising_validate_authorization_details (env : Env) (raw : String) :
    Raising Unrelated (validateAuthorizationDetails env raw) := by
  have entries : ∀ entry, Raising Unrelated (checkRarEntry env.config.rarTypesSupported entry) := by
    intro entry
    unfold checkRarEntry
    repeat' split
    all_goals simp [rarError]
  unfold validateAuthorizationDetails
  split
  · simp [rarError]
  · simp [rarError]
  · simp
  · dsimp only
    split
    · simp [rarError]
    · exact (raising_for_each entries _).bind fun _ => raising_pure _
  · simp [rarError]

theorem raising_validate_resource (resource : Option String) :
    Raising Unrelated (validateResource resource) := by
  unfold validateResource
  split
  · simp
  · split
    · simp [invalidTarget]
    · simp
    · split
      · simp
      · dsimp only
        split <;> simp [invalidTarget]

theorem refusal_nonce_challenge (nonce description : String) :
    Refusal
      { status := 400
        headers := [("DPoP-Nonce", nonce)]
        body := .obj [("error", .str "use_dpop_nonce"), ("error_description", .str description)] } := by
  refine ⟨by simp, fun same => ?_⟩
  have headers := congrArg Response.headers same
  simp [codeReplayAnswer, oauthError] at headers

/-- A proof without a fresh nonce ends the request with a challenge. -/
theorem uses_challenge (env : Env) (validated : Validated) :
    Uses (S := Server) Calm Refusal
      (do
        match ← call (enforceDpopNonce env validated) with
        | some challenge => throw challenge
        | none => pure (some validated)) := by
  unfold enforceDpopNonce
  split
  · exact ⟨trivial, fun _ => refusal_nonce_challenge _ _⟩
  · simp only [TokenEndpoint.call, map_error_bind, bind_assoc]
    refine Uses.bind (uses_ambient _ trivial) fun time => ?_
    split
    · exact uses_pure _
    · exact ⟨trivial, fun _ => refusal_nonce_challenge _ _⟩
    · exact refusal_of_unrelated _ (by simp)

theorem uses_validated_proof (env : Env) (client : Client) (request : Request) :
    Uses (S := Server) Calm Refusal (validatedProof env client request) := by
  have header : Raising Unrelated (readDpopHeader request) := by
    unfold readDpopHeader
    repeat' split
    all_goals simp
  unfold validatedProof
  refine Uses.bind (uses_check header) fun found => ?_
  split
  · exact uses_pure _
  · refine Uses.bind (uses_call (uses_validate_dpop_proof env _ _ _ _)) fun validated => ?_
    split
    · exact uses_challenge env validated
    · exact uses_pure _

theorem raising_check_pkce (env : Env) (challenge verifier : Option String) :
    Raising (fun raised => Refusal (answerRaised raised)) (checkPkce env challenge verifier) := by
  unfold checkPkce
  split
  · exact (raising_error _).2 (refusal_of_description _ (by decide))
  · split
    · exact (raising_error _).2 (refusal_of_description _ (by decide))
    · dsimp only
      split
      · exact (raising_error _).2 (refusal_of_description _ (by decide))
      · split
        · exact (raising_error _).2 (refusal_of_description _ (by decide))
        · exact raising_ok _

theorem uses_require_grant (env : Env) (client : Client) (grant : Grant) :
    Uses (S := Server) Calm Refusal (requireGrant env client grant) := by
  unfold requireGrant
  split
  · exact uses_throw (refusal_of_status (by decide) (by decide))
  · exact uses_return_if _ _ _ (refusal_of_error _ (by decide))

theorem uses_require_confidential (client : Client) (description : String) :
    Uses (S := Server) Calm Refusal (requireConfidential client description) := by
  unfold requireConfidential
  split
  · exact uses_refuse_invalid_client _ _
  · exact uses_pure _

theorem uses_checked_details (env : Env) (raw : Option String) :
    Uses (S := Server) Calm Refusal (checkedDetails env raw) := by
  unfold checkedDetails
  split
  · exact uses_pure _
  · exact (uses_check (raising_validate_authorization_details env _)).map

theorem uses_redeemed_details (env : Env) (stored presented : Option String) :
    Uses (S := Server) Calm Refusal (redeemedDetails env stored presented) := by
  unfold redeemedDetails
  refine Uses.bind (uses_return_if _ _ _ (refusal_of_error _ (by decide))) fun _ => ?_
  exact uses_checked_details env _

theorem uses_success (env : Env) (context : Context) (body : Json) :
    Uses (S := Server) Calm Refusal (success env context body) := by
  unfold success
  split
  · exact Uses.bind (uses_issue_nonce _ env) fun _ => trivial
  · exact uses_pure _

theorem uses_with_id_token (env : Env) (client : Client) (userId : Option String) (scope : String)
    (nonce authorizationCode : Option String) (selection : Option ClaimsSelection)
    (response : TokenResponse) :
    Uses (S := Server) Settled Refusal
      (withIdToken env client userId scope nonce authorizationCode selection response) := by
  unfold withIdToken
  split
  · exact uses_pure _
  · split
    · refine Uses.bind (uses_query _ trivial) fun user => ?_
      refine Uses.bind ((uses_call (uses_mint_id_token env client _ user _ _ _ _ _)).mono
        settled_of_calm fun _ refusal => refusal) fun outcome => ?_
      split
      · exact uses_pure _
      · exact uses_throw (refusal_of_status (by simp [oauthError]) (by simp [oauthError]))
    · exact uses_pure _

/-! ### Programs that do not write the store -/

def ReadOnly : Op → Prop
  | .command _ => False
  | _ => True

theorem read_only_of_calm (op : Op) (calm : Calm op) : ReadOnly op := by
  rcases op with read | write | act
  · trivial
  · exact calm
  · trivial

/-- Neither a write nor an accepted proof. -/
def Unproved : Op → Prop
  | .command _ => False
  | .ambient (.checkAndInsert _) => False
  | _ => True

theorem read_only_of_unproved (op : Op) (unproved : Unproved op) : ReadOnly op := by
  rcases op with read | write | act
  · trivial
  · exact unproved
  · trivial

theorem unproved_of_identifying (op : Op) (identifying : Identifying op) : Unproved op := by
  rcases op with read | write | act
  · trivial
  · exact identifying
  · cases act <;> trivial

section ReadOnly

variable {ε α : Type} {raises : ε → Prop} {program : Program Server ε α} {env : Env} {world : World}

theorem store_of_read_only (uses : Uses (S := Server) ReadOnly raises program) :
    (program.run env.interp world).2.store = world.store := by
  refine Uses.run_keeps (fun later : World => later.store = world.store) ?_ uses rfl
  intro op later reads same
  rcases op with read | write | act
  · exact same
  · exact reads.elim
  · exact same

theorem read_only {stronger : ε → Prop} (uses : Uses (S := Server) Calm stronger program) :
    Uses (S := Server) ReadOnly (fun _ => True) program :=
  uses.mono read_only_of_calm fun _ _ => trivial

end ReadOnly

theorem uses_authenticate (env : Env) (form : Form) (credentials : Credentials) :
    Uses (S := Server) Unproved (fun _ => True) (authenticate env form credentials) := by
  have unproved : ∀ {α : Type} {raises : Raised → Prop} {program : Service α},
      Uses (S := Server) Identifying raises program →
        Uses (S := Server) Unproved (fun _ => True) program := fun uses =>
    uses.mono unproved_of_identifying fun _ _ => trivial
  unfold authenticate
  apply Uses.bind ((uses_of_except _).2 fun _ _ => trivial)
  intro presented
  dsimp only
  split
  · apply Uses.bind (uses_query _ trivial)
    intro found
    split
    · apply Uses.bind ((uses_reject_if _ _).2 fun _ => trivial)
      intro _
      apply Uses.bind (unproved (uses_check_subject_denylisted Any _ _))
      intro denylisted
      apply Uses.bind ((uses_reject_if _ _).2 fun _ => trivial)
      intro _
      apply Uses.bind (unproved (uses_check_credential env _ _ _ _))
      intro _
      trivial
    · trivial
  · trivial

theorem uses_pre_grant (env : Env) (request : Request) :
    Uses (S := Server) ReadOnly (fun _ => True) (preGrant env request) := by
  unfold preGrant authenticatedClient
  apply Uses.bind
  · refine Uses.rescue ((uses_authenticate env _ _).mono read_only_of_unproved fun _ raised => raised)
      ?_
    intro raised _
    split
    · split
      · exact read_only (uses_refuse_invalid_client _ _)
      · trivial
    · trivial
  · intro client
    apply Uses.bind (read_only (uses_validated_proof env client request))
    intro dpop
    trivial

/-! ### The dispatch on the grant -/

theorem parse_name (grant : Grant) : Grant.parse grant.name = some grant := by
  cases grant <;> rfl

theorem requested_grant {request : Request} {grant : Grant}
    (named : request.form.get "grant_type" = some grant.name) :
    requestedGrant request = pure grant := by
  have nonempty : (grant.name != "") = true := by cases grant <;> rfl
  unfold requestedGrant
  rw [named]
  simp only [Option.filter, nonempty, if_true, parse_name]

theorem token_run {env : Env} {world later : World} {request : Request} {grant : Grant}
    {context : Context} (named : request.form.get "grant_type" = some grant.name)
    (passed : (preGrant env request).run env.interp world = (.ok context, later)) :
    (token env request).run env.interp world =
      (grantHandler env context request grant).run env.interp later := by
  unfold token
  rw [requested_grant named, pure_eq_done, done_bind, run_bind, passed]

/-- An answer with a token means that the checks before the grant were passed. -/
theorem token_run_ok {env : Env} {world later : World} {request : Request} {grant : Grant}
    {response : Response} (named : request.form.get "grant_type" = some grant.name)
    (ok : (token env request).run env.interp world = (.ok response, later)) :
    ∃ context middle, (preGrant env request).run env.interp world = (.ok context, middle) ∧
      middle.store = world.store ∧
      (grantHandler env context request grant).run env.interp middle = (.ok response, later) := by
  unfold token at ok
  rw [requested_grant named, pure_eq_done, done_bind] at ok
  obtain ⟨context, middle, passed, handled⟩ := run_bind_eq_ok ok
  have kept : ((preGrant env request).run env.interp world).2.store = world.store :=
    store_of_read_only (uses_pre_grant env request)
  rw [passed] at kept
  exact ⟨context, middle, passed, kept, handled⟩

end OAuth2Server.Footprints
