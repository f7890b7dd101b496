import OAuth2Server.ReferenceJwt
import OAuth2Server.Resources
import OAuth2Server.Runs
import OAuth2Server.SenderConstraint
import OAuth2Server.WireClaims

/-!
# What four endpoints take for live

Introspection, the refresh grant, userinfo and token exchange each decide from
the stored row whether a token is still good. They agree at every instant, on
both deadlines of a row.
-/

namespace OAuth2Server.Liveness

open OAuth2Server Models JsonText Storage Effects Interaction Interaction.Program Tables
open ClientAuth Dpop Validation TokenEndpoint Issuance KeySet Endpoints Resources
open SenderConstraint ReferenceJwt Runs

set_option autoImplicit false

/-! ### The checks of the grants -/

/-- The checks that the refresh grant makes on the row of a refresh token. -/
def refreshChecks (env : Env) (client : Client) (request : Request) : Handler Token := do
  let found ← match (request.form.get "refresh_token").filter (· != "") with
    | some refreshToken => query (.getTokenByRefreshToken refreshToken)
    | none => pure none
  match found with
  | none => refuse "invalid_grant" "refresh token not found"
  | some row =>
      returnIf (row.clientId != client.clientId) "invalid_grant"
        "refresh token does not belong to this client"
      if row.revoked then refuseRevoked row
      else do
        let now ← ambient .now
        returnIf (decide (row.createdAt + seconds env.config.refreshTokenTtlSecs ≤ now))
          "invalid_grant" "refresh token has expired"
        pure row

/-- The check that token exchange makes on the row of its subject token. -/
def exchangeChecks (row : Token) : Handler Unit := do
  returnIf row.revoked "invalid_grant" "subject_token is expired or revoked"
  let now ← ambient .now
  returnIf (decide (row.expiresAt ≤ now)) "invalid_grant" "subject_token is expired or revoked"

/-- The refresh grant looks at nothing else before these checks than whether the
client may use it. -/
theorem check_refresh_first (env : Env) (context : Context) (request : Request) :
    ∃ rest : Token → Handler Rotation, checkRefresh env context request = (do
      requireGrant env context.client .refreshToken
      let row ← refreshChecks env context.client request
      rest row) := by
  let settled : Token → Handler Rotation := fun row => do
    let scope ← narrowedScope request.form row.scope "requested scope exceeds the original grant"
    let resource ← check (validateResource (request.form.get "resource"))
    let audience ← carriedAudience (salvageOldAud env row.accessToken) resource
    let cnf := salvageOldCnf env row.accessToken
    returnIf (context.client.isPublic && (boundJkt cnf).any fun jkt =>
        !(context.dpop.any fun validated => validated.jkt == jkt)) "invalid_grant"
      "refresh token is bound to a DPoP key; present a proof with the same key"
    pure { row := row, scope := scope, resource := resource, audience := audience, cnf := cnf }
  refine ⟨settled, ?_⟩
  unfold checkRefresh refreshChecks
  congr 1
  funext _
  cases (request.form.get "refresh_token").filter (· != "") with
  | none => rfl
  | some refreshToken =>
      simp only [bind_assoc]
      congr 1
      funext found
      cases found with
      | none => rfl
      | some row =>
          dsimp only
          rw [bind_assoc]
          congr 1
          funext _
          split
          · unfold refuseRevoked
            cases row.tokenFamily.filter (· != "") <;> rfl
          · simp only [bind_assoc, pure_bind]
            rfl

theorem exchange_row_first (env : Env) (context : Context) (request : Request) (subject : String)
    (row : Token) :
    ∃ rest : Handler Response, exchangeRow env context request subject row = (do
      exchangeChecks row
      rest) := by
  unfold exchangeRow exchangeChecks
  simp only [bind_assoc]
  exact ⟨_, rfl⟩

/-! ### Rows -/

/-- What the next reading of the clock gives. -/
def instant (env : Env) (world : World) : Instant := env.platform.clock world.process.readings

def refreshDeadline (env : Env) (row : Token) : Instant :=
  row.createdAt + seconds env.config.refreshTokenTtlSecs

/-- No access token of the table is also one of its refresh tokens. -/
def ValuesApart (store : Store) : Prop :=
  ∀ one ∈ store.tokens.rows, ∀ other ∈ store.tokens.rows, other.refreshToken ≠ some one.accessToken

section Checks

variable {env : Env} {world : World}

/-- The world after one reading of the clock. -/
def ticked (world : World) : World :=
  { world with process := { world.process with readings := world.process.readings + 1 } }

theorem run_now {α : Type} (rest : Instant → Handler α) :
    ((ambient .now : Handler Instant) >>= rest).run env.interp world =
      (rest (instant env world)).run env.interp (ticked world) := rfl

theorem run_return_if {α : Type} (condition : Bool) (error description : String)
    (rest : Unit → Handler α) :
    (returnIf condition error description >>= rest).run env.interp world =
      if condition then (.error (oauthError error (some description)), world)
      else (rest ()).run env.interp world := by
  cases condition <;> rfl

theorem exchange_checks_iff (env : Env) (row : Token) (world : World) :
    (∃ later, (exchangeChecks row).run env.interp world = (.ok (), later)) ↔
      row.revoked = false ∧ instant env world < row.expiresAt := by
  unfold exchangeChecks
  rw [run_return_if]
  cases revoked : row.revoked with
  | true =>
      constructor
      · rintro ⟨later, passed⟩
        cases passed
      · rintro ⟨unrevoked, _⟩
        cases unrevoked
  | false =>
      rw [if_neg (by simp), run_now]
      by_cases expired : row.expiresAt ≤ instant env world
      · constructor
        · rintro ⟨later, passed⟩
          rw [decide_eq_true expired] at passed
          cases passed
        · rintro ⟨_, early⟩
          exact absurd expired (not_le.2 early)
      · rw [decide_eq_false expired]
        constructor
        · intro _
          exact ⟨rfl, not_le.1 expired⟩
        · intro _
          exact ⟨_, rfl⟩

theorem userinfo_row_iff (env : Env) (value : String) (world : World) :
    (∃ row later, (userinfoRow value).run env.interp world = (.ok row, later)) ↔
      ∃ row, (Query.getTokenByAccessToken value).eval env.backend world.store = some row ∧
        row.revoked = false ∧ instant env world < row.expiresAt := by
  unfold userinfoRow
  dsimp only
  rw [run_query_bind]
  cases (Query.getTokenByAccessToken value).eval env.backend world.store with
  | none =>
      constructor
      · rintro ⟨row, later, passed⟩
        cases passed
      · rintro ⟨row, found, _⟩
        cases found
  | some row =>
      dsimp only
      constructor
      · rintro ⟨found, later, passed⟩
        refine ⟨row, rfl, ?_⟩
        split at passed
        · cases passed
        · rename_i unrevoked
          rw [run_now] at passed
          split at passed
          · cases passed
          · rename_i early
            exact ⟨by simpa using unrevoked, not_le.1 early⟩
      · rintro ⟨found, same, unrevoked, early⟩
        cases same
        rw [if_neg (by simp [unrevoked]), run_now, if_neg (not_le.2 early)]
        exact ⟨_, _, rfl⟩

theorem refresh_checks_iff (env : Env) (client : Client) {request : Request} {value : String}
    (asked : request.form.get "refresh_token" = some value) (given : value ≠ "") (world : World) :
    (∃ row later, (refreshChecks env client request).run env.interp world = (.ok row, later)) ↔
      ∃ row, (Query.getTokenByRefreshToken value).eval env.backend world.store = some row ∧
        row.clientId = client.clientId ∧ row.revoked = false ∧
        instant env world < refreshDeadline env row := by
  have present : (some value).filter (· != "") = some value := by
    simp [Option.filter, given]
  unfold refreshChecks
  rw [asked, present]
  dsimp only
  rw [run_query_bind]
  cases (Query.getTokenByRefreshToken value).eval env.backend world.store with
  | none =>
      constructor
      · rintro ⟨row, later, passed⟩
        cases passed
      · rintro ⟨row, found, _⟩
        cases found
  | some row =>
      dsimp only
      rw [run_return_if]
      constructor
      · rintro ⟨found, later, passed⟩
        refine ⟨row, rfl, ?_⟩
        split at passed
        · cases passed
        · rename_i owned
          split at passed
          · unfold refuseRevoked at passed
            cases family : row.tokenFamily.filter (· != "") <;> rw [family] at passed <;>
              cases passed
          · rename_i unrevoked
            rw [run_now, run_return_if] at passed
            split at passed
            · cases passed
            · rename_i early
              rw [decide_eq_true_eq] at early
              exact ⟨by simpa using owned, by simpa using unrevoked, not_le.1 early⟩
      · rintro ⟨found, same, owned, unrevoked, early⟩
        cases same
        have unexpired : ¬decide (row.createdAt + seconds env.config.refreshTokenTtlSecs ≤
            instant env world) = true := by
          rw [decide_eq_true_eq]
          exact not_le.2 early
        rw [if_neg (by simp [owned]), if_neg (by simp [unrevoked]), run_now, run_return_if,
          if_neg unexpired]
        exact ⟨_, _, rfl⟩

theorem refresh_checks_empty (env : Env) (client : Client) {request : Request}
    (asked : request.form.get "refresh_token" = some "") (world : World) :
    ¬∃ row later, (refreshChecks env client request).run env.interp world = (.ok row, later) := by
  unfold refreshChecks
  rw [asked]
  rintro ⟨row, later, passed⟩
  cases passed

end Checks

/-! ### Introspection -/

/-- The answer is JSON and says `active: true`. -/
def Active (response : Response) : Prop :=
  response.status = 200 ∧ response.body.get? "active" = some (.bool true)

/-- A value that is no JWT, or one whose claims bind it to nothing, verify or fail to
verify as the library documents, and can be reported. It is decoded with the
keys of the world, after the clock has been read for the row. -/
structure Reportable (env : Env) (world : World) (value : String) : Prop where
  keyless : (Resources.confirmation env value "jkt").filter Json.truthy = none
  certificateless : nonemptyText (Resources.confirmation env value "x5t#S256") = none
  decodes : ∀ error later,
    (decodeAccessToken env value env.config.jwtSecret env.config.issuer).run env.interp
      (ticked world) = (.error error, later) → error = .pyjwt
  details : ∃ details, optionalField (decodeUnverifiedClaims env value) "authorization_details"
    asDictList = some details

/-- A random string is no JWT. -/
theorem random_reportable {env : Env} {world : World} {value : String}
    (header : ∀ members, env.platform.jwt.unverifiedHeader value ≠ .ok members)
    (claims : env.platform.jwt.unverifiedClaims value = none) : Reportable env world value := by
  have empty : decodeUnverifiedClaims env value = [] := by
    unfold decodeUnverifiedClaims
    rw [claims]
    rfl
  have unconfirmed : ∀ member, Resources.confirmation env value member = none := by
    intro member
    unfold Resources.confirmation
    rw [empty]
    rfl
  constructor
  · rw [unconfirmed]
    rfl
  · rw [unconfirmed]
    rfl
  · intro error later failed
    unfold decodeAccessToken at failed
    cases read : env.platform.jwt.unverifiedHeader value with
    | ok members => exact absurd read (header members)
    | error reason =>
        rw [read] at failed
        cases failed
        rfl
  · rw [empty]
    exact ⟨none, rfl⟩

/-- A token the server has signed for claims without a binding, with a key it
holds, is reportable while the claims are in force. -/
theorem issued_reportable {env : Env} {world : World} (signs : SignsAndVerifies env.platform.jwt)
    (roundTrip : RoundTrip env.platform.jwt)
    (ints : ∀ number, env.platform.coerceInt (.int number) = some number) {claims : Claims}
    (typed : WireClaims.Typed claims) (nonempty : claims.aud ≠ []) (unbound : claims.cnf = none)
    (issuer : claims.iss = env.config.issuer)
    (force : WireClaims.Throughout env (ticked world) (WireClaims.InForce claims))
    {key : SigningKey} (member : key ∈ world.process.keys)
    (listed : key.algorithm = "HS256" ∨ key.algorithm = "RS256")
    (named : ∀ other ∈ world.process.keys, other.kid ≠ "")
    (distinct : world.process.keys.Pairwise fun one other => one.kid ≠ other.kid)
    (active : WireClaims.Throughout env (ticked world) fun now => activeAt now key = true)
    {token : String} (encoded : encodeAccessToken env claims (some key) = some token) :
    Reportable env world token := by
  have payload : decodeUnverifiedClaims env token = TokenBinding.payloadMembers claims := by
    unfold decodeUnverifiedClaims
    rw [← (WireClaims.encode_usable encoded).2, roundTrip.claims]
    rfl
  have unconfirmed : ∀ member, Resources.confirmation env token member = none := by
    intro member
    unfold Resources.confirmation
    rw [payload, TokenBinding.payload_cnf, unbound]
  constructor
  · rw [unconfirmed]
    rfl
  · rw [unconfirmed]
    rfl
  · intro error later failed
    have decodes : ∃ reached, (decodeAccessToken env token env.config.jwtSecret claims.iss).run
        env.interp (ticked world) = (.ok claims, reached) :=
      WireClaims.signed_claims_decode signs ints typed nonempty force member listed named distinct
        active encoded
    obtain ⟨reached, decoded⟩ := decodes
    rw [issuer, failed] at decoded
    cases decoded
  · refine ⟨claims.authorizationDetails, ?_⟩
    rw [payload]
    exact WireClaims.details_read typed

/-- The row that holds the value, and whether as its refresh token. -/
def storedBy (env : Env) (store : Store) (value : String) : Option (Token × Bool) :=
  match (Query.getTokenByAccessToken value).eval env.backend store with
  | some row => some (row, false)
  | none =>
      ((Query.getTokenByRefreshToken value).eval env.backend store).map fun row => (row, true)

/-- What follows the authentication of the client. -/
def introspectAs (env : Env) (request : IntrospectRequest) (client : Client) : Handler Response := do
  let (value, row, deadline) ← introspectedRow env request client
    ((request.form.get "token").filter (· != ""))
  let keyBound ← introspectJkt env request client value
  let certBound ← introspectThumbprint env request client value
  let username ← introspectedUsername row
  let claims ← introspectedClaims env value
  let unverified := decodeUnverifiedClaims env value
  let some details := optionalField unverified "authorization_details" asDictList
    | throw internalServerError
  let created := timestamp row.createdAt
  introspectionResponse env request
    (.obj ([("active", .bool true), ("scope", .str row.scope), ("client_id", .str row.clientId)] ++
      optionalMember "username" (username.map .str) ++
      [("token_type", .str "Bearer"), ("exp", .int (timestamp deadline)), ("iat", .int created),
        ("nbf", .int created),
        ("sub", .str ((row.userId.filter (· != "")).getD row.clientId)),
        ("aud", (claims.map fun claims => audienceJson claims.aud).getD (.str row.clientId)),
        ("jti", .str ((claims.map Claims.jti).getD row.id)), ("iss", .str env.config.issuer)] ++
      optionalMember "cnf" (if keyBound || certBound then unverified.lookup "cnf" else none) ++
      optionalMember "authorization_details" (details.map .arr)))
    client

theorem introspect_authenticated (env : Env) (request : IntrospectRequest) :
    introspect env request = authenticateOrRefuse env request.toRequest >>=
      introspectAs env request := rfl

section Introspection

variable {env : Env} {request : IntrospectRequest} {client : Client} {world : World}

theorem lookup_token_run (value : String) :
    (lookupTokenBy value).run env.interp world = (.ok (storedBy env world.store value), world) := by
  unfold lookupTokenBy storedBy
  rw [run_query_bind]
  cases (Query.getTokenByAccessToken value).eval env.backend world.store with
  | some row => rfl
  | none =>
      dsimp only
      rw [run_query_bind]
      cases (Query.getTokenByRefreshToken value).eval env.backend world.store <;> rfl

/-- The JSON answer for everything that is not active. -/
def inactiveAnswer : Response where
  status := 200
  headers := [("Cache-Control", "no-store")]
  body := .obj [("active", .bool false)]

theorem inactive_not_active : ¬Active inactiveAnswer := by
  rintro ⟨_, active⟩
  cases active

theorem answer_inactive_run {α : Type}
    (json : Text.contains (request.accept.getD "") introspectionJwtMediaType = false) :
    (answerInactive env request client : Handler α).run env.interp world =
      (.error inactiveAnswer, world) := by
  unfold answerInactive introspectionResponse
  rw [json]
  rfl

/-- The row that is reported on: one that is stored, live and the client's own. -/
theorem introspected_row_run
    (json : Text.contains (request.accept.getD "") introspectionJwtMediaType = false)
    (value : String) :
    (introspectedRow env request client (some value)).run env.interp world =
        (.error inactiveAnswer, world) ∧ storedBy env world.store value = none ∨
    ∃ row viaRefresh, storedBy env world.store value = some (row, viaRefresh) ∧
      ((row.revoked = false ∧ instant env world < expiryDeadline env row viaRefresh ∧
          row.clientId = client.clientId ∧
          (introspectedRow env request client (some value)).run env.interp world =
            (.ok (value, row, expiryDeadline env row viaRefresh), ticked world)) ∨
        (¬(row.revoked = false ∧ instant env world < expiryDeadline env row viaRefresh ∧
            row.clientId = client.clientId) ∧
          ∃ later, (introspectedRow env request client (some value)).run env.interp world =
            (.error inactiveAnswer, later))) := by
  unfold introspectedRow
  dsimp only
  rw [run_bind, lookup_token_run]
  cases stored : storedBy env world.store value with
  | none => exact .inl ⟨answer_inactive_run json, rfl⟩
  | some found =>
      obtain ⟨row, viaRefresh⟩ := found
      refine .inr ⟨row, viaRefresh, rfl, ?_⟩
      dsimp only
      cases revoked : row.revoked with
      | true =>
          right
          exact ⟨fun live => Bool.noConfusion live.1, _, answer_inactive_run json⟩
      | false =>
          rw [if_neg (by simp), run_now]
          by_cases expired : expiryDeadline env row viaRefresh ≤ instant env world
          · right
            rw [if_pos expired]
            exact ⟨fun live => absurd expired (not_le.2 live.2.1), _, answer_inactive_run json⟩
          · rw [if_neg expired]
            by_cases owned : row.clientId = client.clientId
            · left
              rw [if_neg (by simp [owned])]
              exact ⟨rfl, not_le.1 expired, owned, rfl⟩
            · right
              rw [if_pos (by simpa using owned)]
              exact ⟨fun live => owned live.2.2, _, answer_inactive_run json⟩

theorem introspected_claims_run {value : String} (reportable : Reportable env world value) :
    ∃ claims later, (introspectedClaims env value).run env.interp (ticked world) =
      (.ok claims, later) := by
  unfold introspectedClaims
  rw [run_rescue, run_map]
  cases ran : (decodeAccessToken env value env.config.jwtSecret env.config.issuer).run
      env.interp (ticked world) with
  | mk outcome later =>
      cases outcome with
      | ok claims => exact ⟨some claims, later, rfl⟩
      | error raised =>
          have same := reportable.decodes raised later ran
          subst same
          exact ⟨none, later, rfl⟩

theorem introspected_username_run (row : Token) (world : World) :
    ∃ username, (introspectedUsername row).run env.interp world = (.ok username, world) := by
  unfold introspectedUsername
  cases row.userId.filter (· != "") with
  | none => exact ⟨none, rfl⟩
  | some userId => exact ⟨_, rfl⟩

/-- Introspection says `active: true` of a row that is live and the client's own. -/
theorem introspection_active_iff
    (json : Text.contains (request.accept.getD "") introspectionJwtMediaType = false)
    {value : String} (presented : request.form.get "token" = some value) (given : value ≠ "")
    (reportable : Reportable env world value) :
    Active (respond env.interp (introspectAs env request client) world).1 ↔
      ∃ row viaRefresh, storedBy env world.store value = some (row, viaRefresh) ∧
        row.clientId = client.clientId ∧ row.revoked = false ∧
        instant env world < expiryDeadline env row viaRefresh := by
  have present : (some value).filter (· != "") = some value := by
    simp [Option.filter, given]
  unfold introspectAs respond
  rw [presented, present, run_bind]
  rcases @introspected_row_run env request client world json value with
    ⟨ended, absent⟩ | ⟨row, viaRefresh, stored, ⟨unrevoked, early, owned, located⟩ | ⟨dead, ended⟩⟩
  · rw [ended, absent]
    constructor
    · intro active
      exact absurd active inactive_not_active
    · rintro ⟨row, viaRefresh, found, _⟩
      cases found
  · rw [located, stored]
    apply iff_of_true
    · obtain ⟨username, named⟩ := @introspected_username_run env row (ticked world)
      obtain ⟨claims, later, decoded⟩ := introspected_claims_run reportable
      obtain ⟨details, read⟩ := reportable.details
      have keyless : introspectJkt env request client value = pure false := by
        unfold introspectJkt
        rw [reportable.keyless]
      have certificateless : introspectThumbprint env request client value = pure false := by
        unfold introspectThumbprint
        rw [reportable.certificateless]
      dsimp only
      rw [keyless, certificateless, pure_bind, pure_bind, run_bind, named]
      dsimp only
      rw [run_bind, decoded]
      dsimp only
      rw [read]
      unfold introspectionResponse
      rw [json]
      exact ⟨rfl, rfl⟩
    · exact ⟨row, viaRefresh, rfl, owned, unrevoked, early⟩
  · obtain ⟨later, ended⟩ := ended
    rw [ended, stored]
    constructor
    · intro active
      exact absurd active inactive_not_active
    · rintro ⟨other, via, same, owned, unrevoked, early⟩
      cases same
      exact absurd ⟨unrevoked, early, owned⟩ dead

end Introspection

/-! ### Agreement -/

section Agreement

variable {env : Env} {request : IntrospectRequest} {client : Client} {world : World}

theorem introspect_run {before : World}
    (authenticated : (authenticateOrRefuse env request.toRequest).run env.interp before =
      (.ok client, world)) :
    (respond env.interp (introspect env request) before).1 =
      (respond env.interp (introspectAs env request client) world).1 := by
  rw [introspect_authenticated]
  unfold respond
  rw [run_bind, authenticated]

/-- An empty value is none at all. -/
theorem introspection_empty
    (json : Text.contains (request.accept.getD "") introspectionJwtMediaType = false)
    (presented : request.form.get "token" = some "") :
    ¬Active (respond env.interp (introspectAs env request client) world).1 := by
  have ended : (introspectAs env request client).run env.interp world =
      (.error inactiveAnswer, world) := by
    have absent : (some "").filter (fun text : String => text != "") = none := rfl
    have refused : (introspectedRow env request client none).run env.interp world =
        (.error inactiveAnswer, world) := answer_inactive_run json
    unfold introspectAs
    rw [presented, absent, run_bind, refused]
  unfold respond
  rw [ended]
  exact inactive_not_active

theorem access_row (row : Token) (member : row ∈ world.store.tokens.rows) :
    (Query.getTokenByAccessToken row.accessToken).eval env.backend world.store = some row :=
  Table.first_of_mem world.store.tokens (by simp) member

/-- In a table whose values are apart, a refresh token is found as one. -/
theorem stored_by_refresh (apart : ValuesApart world.store) {value : String}
    (held : ∃ row ∈ world.store.tokens.rows, row.refreshToken = some value) :
    storedBy env world.store value =
      ((Query.getTokenByRefreshToken value).eval env.backend world.store).map
        fun row => (row, true) := by
  unfold storedBy
  cases found : (Query.getTokenByAccessToken value).eval env.backend world.store with
  | none => rfl
  | some row =>
      have listed : row ∈ world.store.tokens.rows := List.mem_of_find?_eq_some found
      have named : row.accessToken = value := by
        simpa using List.find?_some found
      obtain ⟨other, member, holds⟩ := held
      rw [← named] at holds
      exact absurd holds (apart row listed other member)

end Agreement

/-- Introspection of a refresh token and the refresh grant agree, as do introspection,
userinfo and token exchange on an access token, at every instant. -/
theorem liveness_agrees (env : Env) (request : IntrospectRequest) (client : Client)
    (before world : World)
    (authenticated : (authenticateOrRefuse env request.toRequest).run env.interp before =
      (.ok client, world))
    (json : Text.contains (request.accept.getD "") introspectionJwtMediaType = false)
    (apart : ValuesApart world.store) :
    let active := Active (respond env.interp (introspect env request) before).1
    (∀ (refresh : Request) (value : String) (reached : World),
      (∃ row ∈ world.store.tokens.rows, row.refreshToken = some value) →
      Reportable env world value → request.form.get "token" = some value →
      refresh.form.get "refresh_token" = some value →
      reached.store = world.store → instant env reached = instant env world →
      (active ↔ ∃ row later,
        (refreshChecks env client refresh).run env.interp reached = (.ok row, later))) ∧
    (∀ row ∈ world.store.tokens.rows, row.accessToken ≠ "" →
      Reportable env world row.accessToken →
      request.form.get "token" = some row.accessToken →
      (active ↔ row.clientId = client.clientId ∧ row.revoked = false ∧
        instant env world < row.expiresAt)) ∧
    ∀ row ∈ world.store.tokens.rows, ∀ reached : World,
      reached.store = world.store → instant env reached = instant env world →
      ((∃ found later, (userinfoRow row.accessToken).run env.interp reached =
          (.ok found, later)) ↔ row.revoked = false ∧ instant env world < row.expiresAt) ∧
      ((∃ later, (exchangeChecks row).run env.interp reached = (.ok (), later)) ↔
        row.revoked = false ∧ instant env world < row.expiresAt) := by
  intro active
  have same : active ↔
      Active (respond env.interp (introspectAs env request client) world).1 := by
    rw [← introspect_run authenticated]
  refine ⟨?_, ?_, ?_⟩
  · intro refresh value reached held reportable presented asked store clock
    rw [same]
    by_cases given : value = ""
    · subst given
      exact iff_of_false (introspection_empty json presented)
        (refresh_checks_empty env client asked reached)
    · rw [introspection_active_iff json presented given reportable,
        refresh_checks_iff env client asked given, store, clock, stored_by_refresh apart held]
      constructor
      · rintro ⟨row, viaRefresh, stored, owned, unrevoked, early⟩
        obtain ⟨found, located, pair⟩ := Option.map_eq_some_iff.1 stored
        cases pair
        exact ⟨row, located, owned, unrevoked, early⟩
      · rintro ⟨row, located, owned, unrevoked, early⟩
        exact ⟨row, true, by rw [located]; rfl, owned, unrevoked, early⟩
  · intro row member given reportable presented
    have stored : storedBy env world.store row.accessToken = some (row, false) := by
      unfold storedBy
      rw [access_row row member]
    rw [same, introspection_active_iff json presented given reportable, stored]
    constructor
    · rintro ⟨found, viaRefresh, pair, live⟩
      cases pair
      exact live
    · intro live
      exact ⟨row, false, rfl, live⟩
  · intro row member reached store clock
    constructor
    · rw [userinfo_row_iff, store, clock, access_row row member]
      constructor
      · rintro ⟨found, pair, live⟩
        cases pair
        exact live
      · intro live
        exact ⟨row, rfl, live⟩
    · rw [exchange_checks_iff, clock]

/-! ### Values that are JWTs -/

/-- A token that is bound to nothing, with authorization details that are no list. -/
def detailedToken : String :=
  sign (.obj [("alg", .str "HS256")]) (.obj [("authorization_details", .str "x")]) .null

/-- A live token whose refresh token is a JWT that names a key. -/
def heldRow : Token :=
  { sampleToken with accessToken := detailedToken, refreshToken := some boundToken }

def heldWorld : World where
  store := { sampleStore with tokens := ⟨[heldRow], by simp⟩ }
  process := sampleProcess

def namelessRow : Token :=
  { sampleToken with accessToken := "", refreshToken := none }

def namelessWorld : World where
  store := { sampleStore with tokens := ⟨[namelessRow], by simp⟩ }
  process := sampleProcess

def asking (value : String) : IntrospectRequest where
  form := [("client_id", "app"), ("token", value)]

def refreshing (value : String) : Request where
  form := [("grant_type", "refresh_token"), ("client_id", "app"), ("refresh_token", value)]

theorem asking_authenticated (value : String) (tokens : Table Token [Token.accessToken])
    (keys : List SigningKey) :
    let world : World :=
      { store := { sampleStore with tokens := tokens }
        process := { sampleProcess with keys := keys } }
    (authenticateOrRefuse holderEnv (asking value).toRequest).run holderEnv.interp world =
      (.ok sampleClient, world) := rfl

theorem held_values_apart : ValuesApart heldWorld.store := by
  intro one first other second
  cases List.mem_singleton.1 first
  cases List.mem_singleton.1 second
  intro same
  have claims := (sign_inj (Option.some.inj same)).2.1
  simp at claims

def reportsTrue (response : Response) : Bool :=
  response.status == 200 && isTrue (response.body.get? "active")

theorem not_active_of_eval {response : Response} (evaluated : reportsTrue response = false) :
    ¬Active response := by
  intro active
  unfold reportsTrue at evaluated
  rw [active.1, active.2] at evaluated
  cases evaluated

/-- The two JWTs are not reported, computed. -/
theorem jwt_values_hidden :
    reportsTrue (respond holderEnv.interp (introspect holderEnv (asking boundToken))
      heldWorld).1 = false ∧
    reportsTrue (respond holderEnv.interp (introspect holderEnv (asking detailedToken))
      heldWorld).1 = false := by
  decide +kernel

theorem no_media_type :
    Text.contains ((none : Option String).getD "") introspectionJwtMediaType = false := by
  decide

theorem nameless_values_apart : ValuesApart namelessWorld.store := by
  intro one first other second
  cases List.mem_singleton.1 first
  cases List.mem_singleton.1 second
  decide

theorem empty_value_hidden : ¬Active (respond holderEnv.interp
    (introspect holderEnv (asking "")) namelessWorld).1 := by
  have authenticated : (authenticateOrRefuse holderEnv (asking "").toRequest).run
      holderEnv.interp namelessWorld = (.ok sampleClient, namelessWorld) :=
    asking_authenticated "" _ _
  rw [introspect_run authenticated]
  apply introspection_empty
  · exact no_media_type
  · rfl

theorem bound_value_refreshes : ∃ row later,
    (refreshChecks holderEnv sampleClient (refreshing boundToken)).run holderEnv.interp heldWorld =
      (.ok row, later) := by
  have given : boundToken ≠ "" := sign_ne_empty _ _ _
  have asked : (refreshing boundToken).form.get "refresh_token" = some boundToken := rfl
  rw [refresh_checks_iff holderEnv sampleClient asked given heldWorld]
  refine ⟨heldRow, ?_, rfl, rfl, ?_⟩
  · have first : (some boundToken == some boundToken) = true := beq_self_eq_true _
    change [heldRow].find? (fun row => row.refreshToken == some boundToken) = some heldRow
    exact List.find?_cons_of_pos first
  · decide

theorem unverified_sign (env : Env) (reference : env.platform.jwt = ReferenceJwt.library)
    (header members : List (String × Json)) (key : Json) :
    decodeUnverifiedClaims env (sign (.obj header) (.obj members) key) = members := by
  unfold decodeUnverifiedClaims
  rw [reference]
  change ((parse (sign (.obj header) (.obj members) key)).map Parts.claims).getD [] = _
  rw [parse_sign]
  rfl

theorem detailed_token_unbound :
    (decodeUnverifiedClaims holderEnv detailedToken).lookup "cnf" = none := by
  unfold detailedToken
  rw [unverified_sign holderEnv rfl]
  decide

/-- Neither a refresh token that is a JWT with a key, nor an access token with such
details, nor an empty one is reported, though the rows are live. -/
theorem live_but_not_reported :
    (ValuesApart heldWorld.store ∧
      (authenticateOrRefuse holderEnv (asking boundToken).toRequest).run holderEnv.interp
        heldWorld = (.ok sampleClient, heldWorld) ∧
      heldRow ∈ heldWorld.store.tokens.rows ∧ heldRow.refreshToken = some boundToken ∧
      (¬Active (respond holderEnv.interp (introspect holderEnv (asking boundToken)) heldWorld).1) ∧
      ∃ row later, (refreshChecks holderEnv sampleClient (refreshing boundToken)).run
        holderEnv.interp heldWorld = (.ok row, later)) ∧
    ((authenticateOrRefuse holderEnv (asking detailedToken).toRequest).run holderEnv.interp
        heldWorld = (.ok sampleClient, heldWorld) ∧
      heldRow.accessToken = detailedToken ∧
      (decodeUnverifiedClaims holderEnv detailedToken).lookup "cnf" = none ∧
      (¬Active (respond holderEnv.interp (introspect holderEnv (asking detailedToken))
        heldWorld).1) ∧
      heldRow.clientId = sampleClient.clientId ∧ heldRow.revoked = false ∧
      instant holderEnv heldWorld < heldRow.expiresAt) ∧
    (ValuesApart namelessWorld.store ∧
      (authenticateOrRefuse holderEnv (asking "").toRequest).run holderEnv.interp namelessWorld =
        (.ok sampleClient, namelessWorld) ∧
      namelessRow ∈ namelessWorld.store.tokens.rows ∧ namelessRow.accessToken = "" ∧
      (¬Active (respond holderEnv.interp (introspect holderEnv (asking "")) namelessWorld).1) ∧
      namelessRow.clientId = sampleClient.clientId ∧ namelessRow.revoked = false ∧
      instant holderEnv namelessWorld < namelessRow.expiresAt) := by
  refine ⟨⟨held_values_apart, asking_authenticated _ _ _, List.mem_singleton.2 rfl, rfl,
    not_active_of_eval jwt_values_hidden.1, bound_value_refreshes⟩,
    ⟨asking_authenticated _ _ _, rfl, detailed_token_unbound,
    not_active_of_eval jwt_values_hidden.2, rfl, rfl, ?_⟩,
    nameless_values_apart, asking_authenticated _ _ _, List.mem_singleton.2 rfl, rfl,
    empty_value_hidden, rfl, rfl, ?_⟩
  · decide
  · decide

theorem random_values (world : World) (value : String) (plain : parse value = none) :
    Reportable holderEnv world value := by
  apply random_reportable
  · intro members read
    change readHeader value = _ at read
    unfold readHeader at read
    rw [plain] at read
    cases read
  · change (parse value).map Parts.claims = none
    rw [plain]
    rfl

theorem unsigned_values : parse "refresh" = none ∧ parse "access" = none := by
  unfold parse
  rw [characters_eq, characters_eq]
  decide

/-! A token of the server's own, signed with the second of two keys. -/

def issuedClaims : Claims := { WireClaims.wireClaims with iss := "s", cnf := none }

def issuedToken : String :=
  ReferenceJwt.library.encode (.obj (TokenBinding.payloadMembers issuedClaims))
    WireClaims.wireKey.keyMaterial WireClaims.wireKey.algorithm
    [("typ", "at+JWT"), ("kid", WireClaims.wireKey.kid)]

def issuedRow : Token := { sampleToken with accessToken := issuedToken }

def issuedWorld : World where
  store := { sampleStore with tokens := ⟨[issuedRow], by simp⟩ }
  process := { sampleProcess with keys := WireClaims.wireWorld.process.keys }

theorem issued_values_apart : ValuesApart issuedWorld.store := by
  intro one first other second
  cases List.mem_singleton.1 first
  cases List.mem_singleton.1 second
  intro same
  have unsigned := unsigned_values.1
  rw [Option.some.inj same] at unsigned
  cases unsigned.symm.trans (parse_encode _ _ _ _)

theorem issued_claims_in_force :
    WireClaims.Throughout holderEnv (ticked issuedWorld) (WireClaims.InForce issuedClaims) := by
  intro reading _ last
  have early : reading ≤ 2 := last
  have bound : (reading : ℚ) ≤ 2 := by exact_mod_cast early
  have nonnegative : (0 : ℚ) ≤ (reading : ℚ) := by positivity
  have clock : holderEnv.platform.clock reading = reading := rfl
  have issued : (issuedClaims.iat : ℚ) = 0 := rfl
  have expiry : (issuedClaims.exp : ℚ) = 3600 := rfl
  unfold WireClaims.InForce epochSeconds
  rw [clock, issued, expiry]
  constructor
  · positivity
  · push_cast
    linarith

theorem issued_token_reportable : Reportable holderEnv issuedWorld issuedToken := by
  have typed : WireClaims.Typed issuedClaims := by
    constructor
    · intro value present
      cases present
    · intro items present
      cases present
    · intro value present
      cases present
  have encoded : encodeAccessToken holderEnv issuedClaims (some WireClaims.wireKey) =
      some issuedToken := rfl
  exact issued_reportable signs_and_verifies round_trip (fun _ => rfl) typed (by decide) rfl rfl
    issued_claims_in_force (by decide) (.inl rfl) (by decide) (by decide) (fun _ _ _ => rfl) encoded

theorem liveness_agrees_on_samples :
    (Active (respond holderEnv.interp (introspect holderEnv (asking "refresh"))
        sampleTokenWorld).1 ↔
      ∃ row later, (refreshChecks holderEnv sampleClient (refreshing "refresh")).run
        holderEnv.interp sampleTokenWorld = (.ok row, later)) ∧
    (Active (respond holderEnv.interp (introspect holderEnv (asking "access"))
        sampleTokenWorld).1 ↔
      sampleToken.clientId = sampleClient.clientId ∧ sampleToken.revoked = false ∧
        instant holderEnv sampleTokenWorld < sampleToken.expiresAt) ∧
    Active (respond holderEnv.interp (introspect holderEnv (asking issuedToken)) issuedWorld).1 := by
  have apart : ValuesApart sampleTokenWorld.store := by
    intro one first other second
    cases List.mem_singleton.1 first
    cases List.mem_singleton.1 second
    decide
  have stored : sampleToken ∈ sampleTokenWorld.store.tokens.rows := List.mem_singleton.2 rfl
  have refreshed := liveness_agrees holderEnv (asking "refresh") sampleClient sampleTokenWorld
    sampleTokenWorld (asking_authenticated _ _ _) no_media_type apart
  have accessed := liveness_agrees holderEnv (asking "access") sampleClient sampleTokenWorld
    sampleTokenWorld (asking_authenticated _ _ _) no_media_type apart
  have issued := liveness_agrees holderEnv (asking issuedToken) sampleClient issuedWorld issuedWorld
    (asking_authenticated _ _ _) no_media_type issued_values_apart
  constructor
  · exact refreshed.1 (refreshing "refresh") "refresh" sampleTokenWorld ⟨sampleToken, stored, rfl⟩
      (random_values _ "refresh" unsigned_values.1) rfl rfl rfl rfl
  constructor
  · exact accessed.2.1 sampleToken stored (by decide)
      (random_values _ "access" unsigned_values.2) rfl
  · have given : issuedRow.accessToken ≠ "" := sign_ne_empty _ _ _
    have agrees := issued.2.1 issuedRow (List.mem_singleton.2 rfl) given issued_token_reportable rfl
    exact agrees.2 ⟨rfl, rfl, by decide⟩

end OAuth2Server.Liveness
