import OAuth2Server.ReferenceJwt
import OAuth2Server.SingleUse

/-!
# Audience and sender binding across rotation

A signed access token carries its audience and its confirmation. A refresh has
no record of either but the old access token, and reads them back from it. Over
any chain of refreshes the audience only narrows and the confirmation stays.
-/

namespace OAuth2Server.TokenBinding

open OAuth2Server Models JsonText Storage Effects Interaction Interaction.Program
open ClientAuth Dpop Issuance Validation TokenEndpoint Protocol Footprints Runs SingleUse
open ReferenceJwt

set_option autoImplicit false

variable {env : Env}

/-- The values of the `aud` claim. -/
def audValues (env : Env) (token : String) : List String :=
  match (decodeUnverifiedClaims env token).lookup "aud" with
  | some (.str audience) => [audience]
  | some (.arr items) => items.filterMap Json.str?
  | _ => []

def cnfClaim (env : Env) (token : String) : Option Json :=
  (decodeUnverifiedClaims env token).lookup "cnf"

/-- What every signed access token looks like to a later refresh. -/
structure Bound (env : Env) (token : String) (audience : List String) (cnf : Option Json) :
    Prop where
  nonempty : audience ≠ []
  salvaged : salvageOldAud env token = some audience
  values : audValues env token = audience
  confirmation : cnfClaim env token = cnf
  object : ∀ value, cnf = some value → value.isObj = true

theorem Bound.salvaged_cnf {token : String} {audience : List String} {cnf : Option Json}
    (bound : Bound env token audience cnf) : salvageOldCnf env token = cnf := by
  have claim := bound.confirmation
  unfold cnfClaim at claim
  unfold salvageOldCnf
  rw [claim]
  cases cnf with
  | none => rfl
  | some value => simp [bound.object value rfl]

/-! ### Minted access tokens -/

theorem audience_of_nonempty (request : IssueRequest) : audienceOf request ≠ [] := by
  unfold audienceOf
  repeat' split
  all_goals simp

theorem lookup_optional {key other : String} (value : Option Json) (rest : List (String × Json))
    (differs : key ≠ other) :
    (optionalMember other value ++ rest).lookup key = rest.lookup key := by
  cases value with
  | none => rfl
  | some json =>
      have unlike : (key == other) = false := by simpa using differs
      simp [optionalMember, List.lookup_cons, unlike]

/-- The claims of a payload, as members. -/
def payloadMembers (claims : Claims) : List (String × Json) :=
  [("sub", .str claims.sub), ("iss", .str claims.iss),
    ("aud", match claims.aud with
      | [audience] => .str audience
      | audiences => .arr (audiences.map .str)),
    ("exp", .int claims.exp), ("iat", .int claims.iat), ("scope", .str claims.scope),
    ("jti", .str claims.jti)] ++
  optionalMember "client_id" (claims.clientId.map .str) ++ optionalMember "cnf" claims.cnf ++
  optionalMember "authorization_details" (claims.authorizationDetails.map .arr) ++
  optionalMember "act" claims.act

theorem payload_members (claims : Claims) : claims.toPayload = .obj (payloadMembers claims) := rfl

theorem payload_aud (claims : Claims) :
    (payloadMembers claims).lookup "aud" = some (match claims.aud with
      | [audience] => .str audience
      | audiences => .arr (audiences.map .str)) := by
  simp [payloadMembers, List.lookup_cons]

theorem payload_cnf (claims : Claims) : (payloadMembers claims).lookup "cnf" = claims.cnf := by
  unfold payloadMembers
  simp only [List.append_assoc, List.cons_append, List.nil_append, List.lookup_cons]
  rw [lookup_optional _ _ (by decide)]
  cases claims.cnf with
  | none =>
      change (optionalMember "authorization_details" _ ++ optionalMember "act" _).lookup "cnf" = none
      rw [lookup_optional _ _ (by decide), ← List.append_nil (optionalMember "act" _),
        lookup_optional _ _ (by decide)]
      rfl
  | some value => rfl

theorem str_of_strs (texts : List String) : (texts.map Json.str).mapM Json.str? = some texts := by
  induction texts with
  | nil => rfl
  | cons text texts induction => simp [List.mapM_cons, induction, Json.str?]

theorem filter_strs (texts : List String) : (texts.map Json.str).filterMap Json.str? = texts := by
  induction texts with
  | nil => rfl
  | cons text texts induction => simpa [Json.str?] using induction

/-- A token that decodes to its claims. -/
theorem bound_of_claims {token : String} {claims : Claims}
    (decoded : env.platform.jwt.unverifiedClaims token = some (payloadMembers claims))
    (nonempty : claims.aud ≠ []) (object : ∀ value, claims.cnf = some value → value.isObj = true) :
    Bound env token claims.aud claims.cnf := by
  have members : decodeUnverifiedClaims env token = payloadMembers claims := by
    unfold decodeUnverifiedClaims
    rw [decoded]
    rfl
  refine ⟨nonempty, ?_, ?_, ?_, object⟩
  · unfold salvageOldAud
    rw [members, payload_aud]
    generalize claims.aud = audience at nonempty ⊢
    rcases audience with _ | ⟨first, _ | ⟨second, rest⟩⟩
    · exact absurd rfl nonempty
    · rfl
    · change (((first :: second :: rest).map Json.str).mapM Json.str?).filter _ = _
      rw [str_of_strs]
      rfl
  · unfold audValues
    rw [members, payload_aud]
    generalize claims.aud = audience
    rcases audience with _ | ⟨first, _ | ⟨second, rest⟩⟩
    · rfl
    · rfl
    · exact filter_strs (first :: second :: rest)
  · unfold cnfClaim
    rw [members, payload_cnf]

/-- A token that decodes to the claims a request asks for. -/
def Minted (env : Env) (request : IssueRequest) (token : String) : Prop :=
  ∃ claims, env.platform.jwt.unverifiedClaims token = some (payloadMembers claims) ∧
    claims.aud = audienceOf request ∧ claims.cnf = request.cnf ∧ claims.act = request.act

theorem Minted.bound {request : IssueRequest} {token : String} (minted : Minted env request token)
    (object : ∀ value, request.cnf = some value → value.isObj = true) :
    Bound env token (audienceOf request) request.cnf := by
  obtain ⟨claims, decoded, audience, confirms, _⟩ := minted
  rw [← audience, ← confirms]
  apply bound_of_claims decoded
  · rw [audience]
    exact audience_of_nonempty request
  · rw [confirms]
    exact object

/-- What `mint_access_token` signs carries the claims of the request. -/
theorem mint_yields (signed : env.config.accessTokensOpaque = false)
    (faithful : RoundTrip env.platform.jwt) (request : IssueRequest) :
    Yields (Minted env request) (mintAccessToken env request) := by
  have encoded : ∀ claims key token, encodeAccessToken env claims key = some token →
      env.platform.jwt.unverifiedClaims token = some (payloadMembers claims) := by
    intro claims key token encodes
    unfold encodeAccessToken jwtEncode at encodes
    split at encodes <;> split at encodes <;> cases encodes <;>
      exact faithful.claims _ _ _ _
  unfold mintAccessToken
  rw [signed]
  simp only [Bool.false_eq_true, if_false]
  have claimed : Yields (S := Server) (ε := Raised) (fun claims : Claims =>
      claims.aud = audienceOf request ∧ claims.cnf = request.cnf ∧ claims.act = request.act)
      (newClaims env request) :=
    fun _ _ => ⟨rfl, rfl, rfl⟩
  apply claimed.bind
  intro claims asked
  apply yields_bind
  intro key
  generalize outcome : encodeAccessToken env claims key = result
  cases result with
  | none => trivial
  | some token => exact ⟨claims, encoded claims key token outcome, asked⟩

/-! ### Answers of the token endpoint -/

theorem issue_yields (signed : env.config.accessTokensOpaque = false)
    (faithful : RoundTrip env.platform.jwt) (request : IssueRequest) :
    Yields (fun response => Minted env request response.accessToken) (issue env request) := by
  unfold issue
  refine yields_bind fun _ => (mint_yields signed faithful request).bind ?_
  intro token minted
  extract_lets recorded
  have saves : ∀ refresh, Yields (fun response : TokenResponse =>
      Minted env request response.accessToken) (recorded refresh) := by
    intro refresh
    refine yields_bind fun now => yields_bind fun id => yields_bind fun createdAt => ?_
    exact yields_bind fun saved => yields_bind fun _ => minted
  split
  · exact yields_bind saves
  · exact saves none

/-- The access token a response carries, if it carries one, has the property. -/
def Answers (property : String → Prop) (response : Response) : Prop :=
  ∀ token, response.body.get? "access_token" = some (.str token) → property token

theorem success_yields (context : Context) (body : Json) :
    Yields (fun response => response.body = body) (success env context body) := by
  unfold success
  split
  · exact yields_bind fun nonce => rfl
  · rfl

theorem with_id_token_yields (client : Client) (userId : Option String) (scope : String)
    (nonce code : Option String) (selection : Option ClaimsSelection) (response : TokenResponse) :
    Yields (fun later : TokenResponse => later.accessToken = response.accessToken)
      (withIdToken env client userId scope nonce code selection response) := by
  unfold withIdToken
  cases userId with
  | none => rfl
  | some userId =>
      dsimp only
      split
      · refine yields_bind fun user => yields_bind fun minted => ?_
        cases minted with
        | ok idToken => rfl
        | error message => trivial
      · rfl

theorem body_access_token (response : TokenResponse) :
    response.body.get? "access_token" = some (.str response.accessToken) := rfl

/-- A response with the token it was given, and maybe an id_token. -/
theorem finish_yields (context : Context) (userId : Option String) (scope : String)
    (nonce code : Option String) (selection : Option ClaimsSelection) (response : TokenResponse) :
    Yields (Answers (· = response.accessToken))
      (withIdToken env context.client userId scope nonce code selection response >>=
        fun response => success env context response.body) := by
  refine (with_id_token_yields context.client userId scope nonce code selection response).bind ?_
  intro later same
  refine (success_yields context later.body).mono fun answer body token carries => ?_
  rw [body, body_access_token, same] at carries
  cases carries
  rfl

theorem answer_yields (context : Context) (response : TokenResponse) (body : Json)
    (carries : body.get? "access_token" = some (.str response.accessToken)) :
    Yields (Answers (· = response.accessToken)) (success env context body) := by
  refine (success_yields context body).mono fun answer same token answered => ?_
  rw [same, carries] at answered
  cases answered
  rfl

/-- The token in the answer is the one that was issued. -/
theorem issued_yields (signed : env.config.accessTokensOpaque = false)
    (faithful : RoundTrip env.platform.jwt) (request : IssueRequest)
    {rest : TokenResponse → Handler Response}
    (keeps : ∀ response, Yields (Answers (· = response.accessToken)) (rest response)) :
    Yields (Answers (Minted env request)) (call (issue env request) >>= rest) := by
  apply (issue_yields signed faithful request).mapError.bind
  intro response minted
  refine (keeps response).mono fun answer same token carries => ?_
  rw [same token carries]
  exact minted

/-- An access token that a refresh can read. -/
def Signed (env : Env) (token : String) : Prop := ∃ audience cnf, Bound env token audience cnf

theorem answers_signed {request : IssueRequest} {program : Handler Response}
    (object : ∀ value, request.cnf = some value → value.isObj = true)
    (yields : Yields (Answers (Minted env request)) program) :
    Yields (Answers (Signed env)) program :=
  yields.mono fun _ answers token carries => ⟨_, _, (answers token carries).bound object⟩

theorem confirmation_object (request : Request) (dpop : Option Validated) (value : Json)
    (confirms : confirmation env request dpop = some value) : value.isObj = true := by
  unfold confirmation at confirms
  split at confirms
  · cases confirms
    rfl
  · obtain ⟨thumbprint, _, rfl⟩ := Option.map_eq_some_iff.1 confirms
    rfl

theorem replayed_yields {α : Type} (post : α → Prop) (row : AuthorizationCode) :
    Yields post (refuseReplayedCode row : Handler α) := by
  unfold refuseReplayedCode
  split
  · exact fun _ => trivial
  · trivial

theorem revoked_yields {α : Type} (post : α → Prop) (row : Token) :
    Yields post (refuseRevoked row : Handler α) := by
  unfold refuseRevoked
  split
  · exact fun _ => trivial
  · trivial

section Grants

variable {context : Context} {request : Request}

theorem client_credentials_yields (signed : env.config.accessTokensOpaque = false)
    (faithful : RoundTrip env.platform.jwt)
    (object : ∀ value, context.cnf = some value → value.isObj = true) :
    Yields (Answers (Signed env)) (clientCredentials env context request) := by
  unfold clientCredentials
  refine yields_bind fun _ => yields_bind fun _ => yields_bind fun scope => ?_
  refine yields_bind fun details => yields_bind fun resource => ?_
  exact answers_signed object (issued_yields signed faithful _ fun response =>
    answer_yields context response _ rfl)

theorem redeem_code_yields (signed : env.config.accessTokensOpaque = false)
    (faithful : RoundTrip env.platform.jwt)
    (object : ∀ value, context.cnf = some value → value.isObj = true) :
    Yields (Answers (Signed env)) (authorizationCode env context request) := by
  unfold authorizationCode redeemCode
  refine yields_bind fun checked => yields_bind fun claimed => ?_
  split
  · exact replayed_yields _ checked.1
  · refine yields_bind fun _ => ?_
    exact answers_signed object (issued_yields signed faithful _ fun response =>
      finish_yields context _ _ _ _ _ response)

theorem device_code_yields (signed : env.config.accessTokensOpaque = false)
    (faithful : RoundTrip env.platform.jwt) :
    Yields (Answers (Signed env)) (deviceCode env context request) := by
  unfold deviceCode redeemDevice
  refine yields_bind fun checked => yields_bind fun claimed => ?_
  split
  · trivial
  · refine yields_bind fun _ => yields_bind fun family => ?_
    have object : ∀ value : Json, none = some value → value.isObj = true := by
      intro value absent
      cases absent
    exact answers_signed object (issued_yields signed faithful _ fun response =>
      finish_yields context _ _ _ _ _ response)

theorem token_exchange_yields (signed : env.config.accessTokensOpaque = false)
    (faithful : RoundTrip env.platform.jwt)
    (object : ∀ value, context.cnf = some value → value.isObj = true) :
    Yields (Answers (Signed env)) (tokenExchange env context request) := by
  unfold tokenExchange
  refine yields_bind fun _ => yields_bind fun _ => yields_bind fun subject => yields_bind fun found => ?_
  cases found with
  | none => trivial
  | some row =>
      dsimp only
      unfold exchangeRow
      refine yields_bind fun _ => yields_bind fun now => yields_bind fun _ => yields_bind fun scope => ?_
      dsimp only
      split
      · trivial
      · trivial
      · refine yields_bind fun resource => ?_
        exact answers_signed object (issued_yields signed faithful _ fun response =>
          answer_yields context response _ rfl)

theorem jwt_bearer_yields (signed : env.config.accessTokensOpaque = false)
    (faithful : RoundTrip env.platform.jwt)
    (object : ∀ value, context.cnf = some value → value.isObj = true) :
    Yields (Answers (Signed env)) (TokenEndpoint.jwtBearer env context request) := by
  unfold TokenEndpoint.jwtBearer redeemAssertion
  refine yields_bind fun assertion => yields_bind fun userId => ?_
  refine yields_bind fun scope => yields_bind fun resource => ?_
  exact answers_signed object (issued_yields signed faithful _ fun response =>
    answer_yields context response _ rfl)

/-! ### Refreshes -/

/-- The audience a refresh goes on with. -/
def Carries (old : Option (List String)) (resource : Option String)
    (audience : Option (List String)) : Prop :=
  ∀ values, old = some values →
    (resource = none ∧ audience = some values) ∨
      ∃ named ∈ values, named ≠ "" ∧ resource = some named ∧ audience = none

/-- A public client has shown the key a token is bound to. -/
def Shows (context : Context) (cnf : Option Json) : Prop :=
  context.client.isPublic = true → ∀ jkt, boundJkt cnf = some jkt →
    ∃ validated, context.dpop = some validated ∧ validated.jkt = jkt

/-- What a refresh has read from the old token when it reaches the rotation. -/
structure Salvages (env : Env) (context : Context) (row : Token) (rotation : Rotation) : Prop where
  found : rotation.row = row
  cnf : rotation.cnf = salvageOldCnf env row.accessToken
  audience : Carries (salvageOldAud env row.accessToken) rotation.resource rotation.audience
  shows : Shows context rotation.cnf

theorem valid_resource_nonempty {value : Option String} {resource : String}
    (valid : validateResource value = .ok (some resource)) : resource ≠ "" := by
  rintro rfl
  have same := validate_resource_eq valid
  rw [← same] at valid
  have refused : (validateResource (some "")).isOk = false := by decide
  rw [valid] at refused
  cases refused

theorem carried_yields (old : Option (List String)) (resource : Option String)
    (named : ∀ value, resource = some value → value ≠ "") :
    Yields (Carries old resource) (carriedAudience old resource) := by
  unfold carriedAudience
  cases old with
  | none =>
      intro values absent
      cases absent
  | some values =>
      cases resource with
      | none =>
          intro others same
          cases same
          exact Or.inl ⟨rfl, rfl⟩
      | some resource =>
          have checked : Yields (fun _ => values.contains resource = true)
              (returnIf (!values.contains resource) "invalid_target"
                "resource is not among the audiences originally granted") := by
            unfold returnIf
            simp
          refine checked.bind fun _ within => ?_
          intro others same
          cases same
          exact Or.inr ⟨resource, by simpa using within, named resource rfl, rfl, rfl⟩

theorem check_live_refresh_yields (row : Token) :
    Yields (Salvages env context row) (checkLiveRefresh env context request row) := by
  unfold checkLiveRefresh
  refine yields_bind fun now => yields_bind fun _ => yields_bind fun scope => ?_
  have valid : Yields (fun resource => ∀ value, resource = some value → value ≠ "")
      (check (validateResource (request.form.get "resource"))) := by
    unfold check
    rw [yields_of_except]
    intro resource ok value present
    subst present
    cases outcome : validateResource (request.form.get "resource") with
    | error raised =>
        rw [outcome] at ok
        cases ok
    | ok found =>
        rw [outcome] at ok
        cases ok
        exact valid_resource_nonempty outcome
  refine valid.bind fun resource named => ?_
  refine (carried_yields _ resource named).bind fun audience carries => ?_
  have shown : Yields (fun _ => Shows context (salvageOldCnf env row.accessToken))
      (returnIf (context.client.isPublic && (boundJkt (salvageOldCnf env row.accessToken)).any
        fun jkt => !(context.dpop.any fun validated => validated.jkt == jkt)) "invalid_grant"
        "refresh token is bound to a DPoP key; present a proof with the same key") := by
    unfold returnIf
    rw [yields_reject_if]
    intro passes isPublic jkt bound
    rw [isPublic, bound] at passes
    have matched : context.dpop.any (fun validated => validated.jkt == jkt) = true := by
      simpa using passes
    obtain ⟨validated, presented, same⟩ := (Option.any_eq_true _ _).1 matched
    exact ⟨validated, presented, by simpa using same⟩
  refine shown.bind fun _ shows => ?_
  exact ⟨rfl, rfl, carries, shows⟩

theorem judged_refresh_yields (request : Request) (found : Option Token) :
    Yields (fun rotation => ∃ row, Salvages env context row rotation)
      (match found with
        | none => refuse "invalid_grant" "refresh token not found"
        | some row => do
            returnIf (row.clientId != context.client.clientId) "invalid_grant"
              "refresh token does not belong to this client"
            if row.revoked then refuseRevoked row
            else checkLiveRefresh env context request row) := by
  cases found with
  | none => trivial
  | some row =>
      refine yields_bind fun _ => ?_
      split
      · exact revoked_yields _ row
      · exact (check_live_refresh_yields row).mono fun rotation salvages => ⟨row, salvages⟩

theorem check_refresh_yields :
    Yields (fun rotation => ∃ row, Salvages env context row rotation)
      (checkRefresh env context request) := by
  unfold checkRefresh
  refine yields_bind fun _ => ?_
  split
  · apply yields_bind
    intro found
    exact judged_refresh_yields request found
  · exact judged_refresh_yields request none

/-- The arguments a refresh enters `issue` with. -/
def rotationRequest (context : Context) (rotation : Rotation) (family : String) : IssueRequest where
  client := context.client
  userId := rotation.row.userId
  scope := rotation.scope
  withRefresh := true
  tokenFamily := some family
  cnf := rotation.cnf
  resource := rotation.resource
  audience := rotation.audience

theorem salvaged_object (token : String) (value : Json)
    (salvaged : salvageOldCnf env token = some value) : value.isObj = true :=
  (Option.filter_eq_some_iff.1 salvaged).2

theorem redeem_refresh_yields (signed : env.config.accessTokensOpaque = false)
    (faithful : RoundTrip env.platform.jwt) {row : Token} {rotation : Rotation}
    (salvages : Salvages env context row rotation) (family : String) :
    Yields (Answers fun token =>
        Bound env token (audienceOf (rotationRequest context rotation family)) rotation.cnf)
      (redeemRefresh env context rotation family) := by
  have object : ∀ value, rotation.cnf = some value → value.isObj = true := by
    intro value confirms
    exact salvaged_object row.accessToken value (salvages.cnf.symm.trans confirms)
  have minted : Yields (Answers (Minted env (rotationRequest context rotation family)))
      (redeemRefresh env context rotation family) :=
    issued_yields signed faithful _ fun response => finish_yields context _ _ _ _ _ response
  exact minted.mono fun _ answers token carries => (answers token carries).bound object

theorem refresh_token_yields (signed : env.config.accessTokensOpaque = false)
    (faithful : RoundTrip env.platform.jwt) :
    Yields (Answers (Signed env)) (TokenEndpoint.refreshToken env context request) := by
  unfold TokenEndpoint.refreshToken
  refine check_refresh_yields.bind ?_
  rintro rotation ⟨row, salvages⟩
  refine yields_bind fun family => yields_bind fun _ => ?_
  exact (redeem_refresh_yields signed faithful salvages family).mono
    fun _ answers token carries => ⟨_, _, answers token carries⟩

theorem pre_grant_yields :
    Yields (fun context => ∀ value, context.cnf = some value → value.isObj = true)
      (preGrant env request) := by
  unfold preGrant
  refine yields_bind fun client => yields_bind fun dpop => ?_
  exact confirmation_object request dpop

/-- Every access token the endpoint answers with can be read by a refresh. -/
theorem token_yields (signed : env.config.accessTokensOpaque = false)
    (faithful : RoundTrip env.platform.jwt) :
    Yields (Answers (Signed env)) (token env request) := by
  unfold token
  refine yields_bind fun grant => pre_grant_yields.bind fun context object => ?_
  cases grant with
  | authorizationCode => exact redeem_code_yields signed faithful object
  | clientCredentials => exact client_credentials_yields signed faithful object
  | refreshToken => exact refresh_token_yields signed faithful
  | deviceCode => exact device_code_yields signed faithful
  | tokenExchange => exact token_exchange_yields signed faithful object
  | jwtBearer => exact jwt_bearer_yields signed faithful object

end Grants

/-! ### Chains of refreshes -/

/-- The endpoint has answered a request with the access token. -/
def Issued (env : Env) (token : String) : Prop :=
  ∃ world request response later,
    (TokenEndpoint.token env request).run env.interp world = (.ok response, later) ∧
      response.body.get? "access_token" = some (.str token)

/-- The request presents a refresh token that is stored with `old`, and is
answered with `new`. -/
def Refreshes (env : Env) (world : World) (request : Request) (old new : String) : Prop :=
  ∃ text row response later,
    (Origin.token request).Presents .refreshToken "refresh_token" text ∧
    refreshRow text world = some row ∧ row.accessToken = old ∧
    (TokenEndpoint.token env request).run env.interp world = (.ok response, later) ∧
    response.body.get? "access_token" = some (.str new)

/-- `last` comes from `first` by refreshes, whatever else happens in between. -/
inductive Chain (env : Env) (first : String) : String → Prop
  | issued (start : Issued env first) : Chain env first first
  | refreshed {old new : String} (chain : Chain env first old) (world : World) (request : Request)
      (refreshes : Refreshes env world request old new) : Chain env first new

/-- The request carries a proof, and `validate_dpop_proof` has accepted it. -/
def Proves (env : Env) (request : Request) (validated : Validated) : Prop :=
  ∃ proof before later, readDpopHeader request = .ok (some proof) ∧
    (validateDpopProof env proof "POST" (Text.rstripSlash env.config.issuer ++ "/oauth/token")
      none).run env.interp before = (.ok validated, later)

theorem proves_of_validated {world later : World} {client : Client} {request : Request}
    {validated : Validated}
    (ok : (validatedProof env client request).run env.interp world =
      (.ok (some validated), later)) : Proves env request validated := by
  unfold validatedProof at ok
  obtain ⟨header, reached, read, checked⟩ := run_bind_eq_ok ok
  cases header with
  | none => cases checked
  | some proof =>
      have present : readDpopHeader request = .ok (some proof) := by
        unfold check at read
        generalize readDpopHeader request = outcome at read ⊢
        cases outcome <;> cases read
        rfl
      obtain ⟨accepted, after, validates, nonced⟩ := run_bind_eq_ok checked
      have same : accepted = validated := by
        split at nonced
        · obtain ⟨challenge, _, _, decided⟩ := run_bind_eq_ok nonced
          cases challenge <;> cases decided
          rfl
        · cases nonced
          rfl
      subst same
      unfold TokenEndpoint.call at validates
      rw [run_map_error] at validates
      generalize outcome : (validateDpopProof env proof "POST"
        (Text.rstripSlash env.config.issuer ++ "/oauth/token") none).run env.interp reached = result
        at validates
      rcases result with ⟨raised | value, ended⟩
      · cases validates
      · cases validates
        exact ⟨proof, reached, ended, present, outcome⟩

theorem proves_of_pre_grant {world later : World} {request : Request} {context : Context}
    {validated : Validated} (ok : (preGrant env request).run env.interp world = (.ok context, later))
    (presented : context.dpop = some validated) : Proves env request validated := by
  unfold preGrant at ok
  obtain ⟨client, reached, _, rest⟩ := run_bind_eq_ok ok
  obtain ⟨dpop, after, validates, finished⟩ := run_bind_eq_ok rest
  cases finished
  cases presented
  exact proves_of_validated validates

/-- A refresh that reaches its rotation has read the row that was found. -/
theorem check_refresh_run {world later : World} {context : Context} {request : Request}
    {rotation : Rotation} {text : String} {row : Token}
    (presents : request.form.get "refresh_token" = some text)
    (found : refreshRow text world = some row)
    (ok : (checkRefresh env context request).run env.interp world = (.ok rotation, later)) :
    Salvages env context row rotation := by
  unfold checkRefresh at ok
  obtain ⟨_, reached, granted, rest⟩ := run_bind_eq_ok ok
  have store : reached.store = world.store := by
    have kept : ((requireGrant env context.client .refreshToken).run env.interp world).2.store =
        world.store := store_of_read_only (read_only (uses_require_grant env _ _))
    rw [granted] at kept
    exact kept
  have answered : Query.eval env.backend reached.store (.getTokenByRefreshToken text) = some row := by
    rw [store]
    exact found
  rw [presents] at rest
  by_cases empty : text = ""
  · subst empty
    cases rest
  · have shown : (some text).filter (· != "") = some text := by simp [empty]
    rw [shown] at rest
    dsimp only at rest
    rw [run_query_bind, answered] at rest
    obtain ⟨_, judged, _, decided⟩ := run_bind_eq_ok rest
    split at decided
    · exact (revoked_yields (Salvages env context row) row).run decided
    · exact (check_live_refresh_yields row).run decided

/-- The audience of a refreshed token is part of the old one. -/
theorem narrowed_audience {context : Context} {row : Token} {rotation : Rotation} {family : String}
    {values : List String} (salvages : Salvages env context row rotation)
    (old : salvageOldAud env row.accessToken = some values) (nonempty : values ≠ []) :
    audienceOf (rotationRequest context rotation family) ⊆ values := by
  rcases salvages.audience values old with ⟨_, carried⟩ | ⟨named, within, given, resource, none⟩
  · obtain ⟨first, rest, rfl⟩ := List.exists_cons_of_ne_nil nonempty
    have same : audienceOf (rotationRequest context rotation family) = first :: rest := by
      simp [audienceOf, rotationRequest, carried]
    rw [same]
    exact List.Subset.refl _
  · have same : audienceOf (rotationRequest context rotation family) = [named] := by
      simp [audienceOf, rotationRequest, resource, none, given]
    rw [same]
    exact List.cons_subset.2 ⟨within, List.nil_subset _⟩

/-- One refresh. -/
theorem refreshed_bound (signed : env.config.accessTokensOpaque = false)
    (faithful : RoundTrip env.platform.jwt) {world : World} {request : Request} {old new : String}
    {values : List String} {cnf : Option Json} (bound : Bound env old values cnf)
    (refreshes : Refreshes env world request old new) :
    (∃ narrowed, narrowed ⊆ values ∧ Bound env new narrowed cnf) ∧
      ∀ context later, (preGrant env request).run env.interp world = (.ok context, later) →
        context.client.isPublic = true → ∀ jkt, boundJkt cnf = some jkt →
          ∃ validated, Proves env request validated ∧ validated.jkt = jkt := by
  obtain ⟨text, row, response, later, ⟨_, asked, asks, presents⟩, found, rfl, ok, carries⟩ := refreshes
  cases asked
  obtain ⟨context, middle, passed, store, handled⟩ := token_run_ok asks ok
  have kept : refreshRow text middle = some row := by
    unfold refreshRow
    rw [store]
    exact found
  obtain ⟨rotation, rotated, checked, rest⟩ := run_bind_eq_ok handled
  obtain ⟨family, drawn, _, revoked⟩ := run_bind_eq_ok rest
  obtain ⟨_, swept, _, redeemed⟩ := run_bind_eq_ok revoked
  have salvages := check_refresh_run presents kept checked
  have sameCnf : rotation.cnf = cnf := salvages.cnf.trans bound.salvaged_cnf
  constructor
  · have answers := (redeem_refresh_yields signed faithful salvages family).run redeemed new carries
    rw [sameCnf] at answers
    exact ⟨_, narrowed_audience salvages bound.salvaged bound.nonempty, answers⟩
  · intro other ended again isPublic jkt key
    cases passed.symm.trans again
    rw [← sameCnf] at key
    obtain ⟨validated, presented, same⟩ := salvages.shows isPublic jkt key
    exact ⟨validated, proves_of_pre_grant passed presented, same⟩

theorem chain_bound (signed : env.config.accessTokensOpaque = false)
    (faithful : RoundTrip env.platform.jwt) {first last : String} (chain : Chain env first last) :
    ∃ values narrowed cnf, Bound env first values cnf ∧ Bound env last narrowed cnf ∧
      narrowed ⊆ values := by
  induction chain with
  | issued start =>
      obtain ⟨world, request, response, later, ok, carries⟩ := start
      obtain ⟨values, cnf, bound⟩ := (token_yields signed faithful).run ok first carries
      exact ⟨values, values, cnf, bound, bound, List.Subset.refl _⟩
  | refreshed chain world request refreshes induction =>
      obtain ⟨values, narrowed, cnf, start, bound, within⟩ := induction
      obtain ⟨⟨later, narrower, lastBound⟩, _⟩ := refreshed_bound signed faithful bound refreshes
      exact ⟨values, later, cnf, start, lastBound, List.Subset.trans narrower within⟩

/-- Audience and sender binding survive rotation: along any chain of refreshes of
signed access tokens the audience is part of the previous one and of the first
one, the confirmation is the first one's, and a public client whose token is
bound to a key has proved possession of that key at each refresh. -/
theorem binding_survives_rotation (env : Env) (signed : env.config.accessTokensOpaque = false)
    (faithful : RoundTrip env.platform.jwt) (first old new : String) (chain : Chain env first old)
    (world : World) (request : Request) (refreshes : Refreshes env world request old new) :
    audValues env new ⊆ audValues env old ∧ audValues env new ⊆ audValues env first ∧
    cnfClaim env new = cnfClaim env first ∧
    ∀ context later, (preGrant env request).run env.interp world = (.ok context, later) →
      context.client.isPublic = true → ∀ jkt, boundJkt (cnfClaim env first) = some jkt →
        ∃ validated, Proves env request validated ∧ validated.jkt = jkt := by
  obtain ⟨values, narrowed, cnf, start, bound, within⟩ := chain_bound signed faithful chain
  obtain ⟨⟨last, narrower, lastBound⟩, shows⟩ := refreshed_bound signed faithful bound refreshes
  rw [start.values, bound.values, lastBound.values, start.confirmation, lastBound.confirmation]
  exact ⟨narrower, List.Subset.trans narrower within, rfl, shows⟩

/-! ### A token bound to a certificate -/

/-- The sample server with signed access tokens, behind a trusted proxy. -/
def signedEnv : Env :=
  { sampleEnv with
    config := { jwtSecret := "k", issuer := "s", trustProxyHeaders := true }
    platform := { samplePlatform with jwt := ReferenceJwt.library } }

def boundRedemption : Request := { sampleRedemption with certThumbprint := some "thumbprint" }

/-- A refresh without the certificate. -/
def bareRefresh : Request where
  form := [("grant_type", "refresh_token"), ("client_id", "app"), ("refresh_token", "random-1")]

def redeemedWorld : World :=
  ((TokenEndpoint.token signedEnv boundRedemption).run signedEnv.interp sampleCodeWorld).2

/-- The access token of a successful answer. -/
def answered (request : Request) (world : World) : Option String :=
  match ((TokenEndpoint.token signedEnv request).run signedEnv.interp world).1 with
  | .ok response => (response.body.get? "access_token").bind Json.str?
  | .error _ => none

theorem answered_run {request : Request} {world : World} {token : String}
    (answer : answered request world = some token) :
    ∃ response later,
      (TokenEndpoint.token signedEnv request).run signedEnv.interp world = (.ok response, later) ∧
        response.body.get? "access_token" = some (.str token) := by
  unfold answered at answer
  generalize (TokenEndpoint.token signedEnv request).run signedEnv.interp world = outcome at answer ⊢
  rcases outcome with ⟨refused | response, later⟩
  · cases answer
  · obtain ⟨value, found, text⟩ := Option.bind_eq_some_iff.1 answer
    cases value <;> cases text
    exact ⟨response, later, rfl, found⟩

/-- The sample client redeems its code with a certificate and refreshes without
it: the new token is bound to the certificate all the same. -/
theorem binding_survives_one_refresh :
    ∃ first new, Issued signedEnv first ∧
      Refreshes signedEnv redeemedWorld bareRefresh first new ∧
      (cnfClaim signedEnv first).isSome = true ∧
      audValues signedEnv new ⊆ audValues signedEnv first ∧
      cnfClaim signedEnv new = cnfClaim signedEnv first := by
  have evaluated : (answered boundRedemption sampleCodeWorld).any (fun first =>
      (answered bareRefresh redeemedWorld).isSome && (cnfClaim signedEnv first).isSome &&
        (refreshRow "random-1" redeemedWorld).map Token.accessToken == some first) = true := by
    decide +kernel
  obtain ⟨first, answer, facts⟩ := (Option.any_eq_true _ _).1 evaluated
  simp only [Bool.and_eq_true, beq_iff_eq] at facts
  obtain ⟨⟨refreshed, bound⟩, stored⟩ := facts
  obtain ⟨new, again⟩ := Option.isSome_iff_exists.1 refreshed
  obtain ⟨response, later, ok, carries⟩ := answered_run answer
  obtain ⟨second, ended, okAgain, carriesAgain⟩ := answered_run again
  obtain ⟨row, found, same⟩ := Option.map_eq_some_iff.1 stored
  have start : Issued signedEnv first :=
    ⟨sampleCodeWorld, boundRedemption, response, later, ok, carries⟩
  have presents : (Origin.token bareRefresh).Presents .refreshToken "refresh_token" "random-1" :=
    ⟨bareRefresh, rfl, rfl, rfl⟩
  have refreshes : Refreshes signedEnv redeemedWorld bareRefresh first new :=
    ⟨"random-1", row, second, ended, presents, found, same, okAgain, carriesAgain⟩
  obtain ⟨narrower, _, kept, _⟩ := binding_survives_rotation signedEnv rfl round_trip first first new
    (.issued start) redeemedWorld bareRefresh refreshes
  exact ⟨first, new, start, refreshes, bound, narrower, kept⟩

end OAuth2Server.TokenBinding
