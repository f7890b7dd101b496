import OAuth2Server.Protocol

/-!
# Every request follows the protocol

The handlers of the token endpoint and of the device verification page, grant
by grant: each operation they perform is one the contract permits, whatever
the answers of the store, of the clocks and of the other services are.
-/

namespace OAuth2Server.Conformance

open OAuth2Server Models JsonText Storage Effects Interaction Interaction.Program Validation
open ClientAuth Dpop JwtBearer Issuance TokenEndpoint Endpoints Footprints Protocol

set_option autoImplicit false

/-! ### Client authentication -/

section Following

variable {env : Env} {session : Session} {α β ε : Type}

/-- A calm first part is invisible. -/
theorem obeys_after_calm {post : Session → Except ε α → Prop} {raises : ε → Prop}
    {program : Program Server ε β} {rest : β → Program Server ε α}
    (uses : Uses (S := Server) Calm raises program)
    (rejected : ∀ error, raises error → post session (.error error))
    (later : ∀ value, Obeys protocol post session (rest value)) :
    Obeys protocol post session (program >>= rest) :=
  uses.obeys_bind (calm_invisible session) rejected later

/-- Once `issue` is entered, a settled part is invisible. -/
theorem obeys_after_settled {post : Session → Except ε α → Prop} {raises : ε → Prop}
    {program : Program Server ε β} {rest : β → Program Server ε α}
    (begun : session.issuance ≠ .pending) (uses : Uses (S := Server) Settled raises program)
    (rejected : ∀ error, raises error → post session (.error error))
    (later : ∀ value, Obeys protocol post session (rest value)) :
    Obeys protocol post session (program >>= rest) :=
  uses.obeys_bind (settled_invisible begun) rejected later

theorem obeys_query (read : Query) {post : Session → Except ε α → Prop}
    {rest : read.Ans → Program Server ε α} (permitted : allowed session (.query read))
    (later : ∀ answer, possible (.query read) answer →
      Obeys protocol post (after session (.query read) answer) (rest answer)) :
    Obeys protocol post session (query read >>= rest) := ⟨permitted, later⟩

theorem obeys_command (write : Command) {post : Session → Except ε α → Prop}
    {rest : write.Ans → Program Server ε α} (permitted : allowed session (.command write))
    (later : ∀ answer, Obeys protocol post (after session (.command write) answer) (rest answer)) :
    Obeys protocol post session (command write >>= rest) :=
  ⟨permitted, fun answer _ => later answer⟩

theorem obeys_ambient (act : Ambient) {post : Session → Except ε α → Prop}
    {rest : act.Ans → Program Server ε α} (permitted : allowed session (.ambient act))
    (later : ∀ answer, Obeys protocol post (after session (.ambient act) answer) (rest answer)) :
    Obeys protocol post session (ambient act >>= rest) :=
  ⟨permitted, fun answer _ => later answer⟩

/-- A refused request need not explain itself further. -/
theorem ended_of_refusal (session : Session) (response : Response) (refusal : Refusal response) :
    Ended session (.error response) :=
  fun _ => ⟨refusal.1, fun _ same => absurd same refusal.2⟩

theorem obeys_authenticate (form : Form) (credentials : Credentials)
    {post : Session → Except Raised Client → Prop} (unknown : session.client = none)
    (opened : session.Open)
    (rejected : ∀ reached raised, Unrelated raised → post reached (.error raised))
    (accepted : ∀ client, client.enabled = true →
      post { session with client := some client } (.ok client)) :
    Obeys protocol post session (authenticate env form credentials) := by
  unfold authenticate
  refine obeys_after_calm (uses_pure_check (raising_presented_credentials form _))
    (rejected session) fun presented => ?_
  dsimp only
  split
  case h_2 => exact rejected _ _ (by simp)
  rename_i clientId _
  have permitted : allowed session (.query (.getClient clientId)) := by
    simp only [allowed, opened.2.2]
    exact ⟨unknown, opened⟩
  refine obeys_query _ permitted fun answer _ => ?_
  have learned : after session (.query (.getClient clientId)) answer =
      { session with client := answer } := by
    simp only [after, opened.2.2, Session.learn]
  rw [learned]
  cases answer with
  | none => exact rejected _ _ (by simp)
  | some client =>
      dsimp only
      cases enabled : client.enabled with
      | false =>
          exact rejected _ (.oauth "invalid_client" (some "unknown or disabled client")) (by simp)
      | true =>
          refine obeys_after_calm (uses_raise_if _ _ _ (by simp)) (rejected _) fun _ => ?_
          have listing := (uses_check_subject_denylisted Unrelated "client_id"
            client.clientId).mono calm_of_identifying fun _ raised => raised
          refine obeys_after_calm listing (rejected _) fun denylisted => ?_
          refine obeys_after_calm (uses_raise_if _ _ _ (by simp)) (rejected _) fun _ => ?_
          have checking := (uses_check_credential env client form presented.2 credentials).mono
            calm_of_identifying fun _ raised => raised
          refine obeys_after_calm checking (rejected _) fun _ => ?_
          exact accepted client enabled

theorem obeys_refuse_invalid_client {post : Session → Except Response α → Prop}
    (clientId description : Option String)
    (rejected : ∀ response, Refusal response → post session (.error response)) :
    Obeys protocol post session
      (do
        let response ← invalidClientResponse clientId description
        throw response : Handler α) := by
  unfold invalidClientResponse
  split
  · exact rejected _ (refusal_of_error _ (by decide))
  · rename_i clientId _
    have invisible := calm_invisible session (.ambient (.checkInvalidClient clientId)) trivial
    refine ⟨invisible.1, fun answer _ => ?_⟩
    rw [invisible.2 answer]
    cases answer with
    | none => exact rejected _ (refusal_of_error _ (by decide))
    | some retryAfter => exact rejected _ (refusal_of_status (by simp) (by simp))

theorem obeys_pre_grant (request : Request) {post : Session → Except Response Context → Prop}
    (unknown : session.client = none) (opened : session.Open)
    (rejected : ∀ reached response, Refusal response → post reached (.error response))
    (accepted : ∀ context : Context, context.client.enabled = true →
      post { session with client := some context.client } (.ok context)) :
    Obeys protocol post session (preGrant env request) := by
  unfold preGrant authenticatedClient
  rw [obeys_bind, obeys_rescue]
  refine obeys_authenticate _ _ unknown opened ?_ ?_
  · intro reached raised unrelated
    cases raised with
    | dpop error description => exact rejected _ _ (refusal_of_unrelated _ unrelated)
    | other => exact rejected _ _ (refusal_of_unrelated _ unrelated)
    | oauth error description =>
        dsimp only
        split
        · exact obeys_refuse_invalid_client _ _ (rejected _)
        · exact rejected _ _ (refusal_of_unrelated (.oauth error description) unrelated)
  · intro client enabled
    refine obeys_after_calm (uses_validated_proof env client request) (rejected _) fun dpop => ?_
    exact accepted { client := client, dpop := dpop, cnf := confirmation env request dpop } enabled

/-! ### Issuance -/

theorem obeys_issue (request : IssueRequest) {post : Session → Except Raised TokenResponse → Prop}
    (pending : session.issuance = .pending) (entitled : session.Entitles request)
    (rejected : ∀ reached raised, Unrelated raised → post reached (.error raised))
    (accepted : ∀ row response, Records request row →
      post { session with issuance := .saved request row } (.ok response)) :
    Obeys protocol post session (issue env request) := by
  unfold issue
  refine obeys_ambient _ ?_ fun _ => ?_
  · simp only [allowed, pending]
    exact entitled
  have entered : after session (.ambient (.enterIssue request)) () =
      { session with issuance := .entered request } := by
    simp only [after, pending, Session.learn]
  rw [entered]
  have begun : ({ session with issuance := .entered request } : Session).issuance ≠ .pending :=
    Issuance.noConfusion
  refine obeys_after_settled begun (uses_mint_access_token env request) (rejected _)
    fun accessToken => ?_
  extract_lets insertion
  have inserts : ∀ refreshToken : Option String, refreshToken.isSome = request.withRefresh →
      Obeys protocol post { session with issuance := .entered request }
        (insertion refreshToken) := by
    intro refreshToken carries
    refine obeys_after_settled begun (uses_ambient_raising Unrelated _ trivial) (rejected _)
      fun now => ?_
    refine obeys_after_settled begun (uses_ambient_raising Unrelated _ trivial) (rejected _)
      fun id => ?_
    refine obeys_after_settled begun (uses_ambient_raising Unrelated _ trivial) (rejected _)
      fun createdAt => ?_
    extract_lets row
    have records : Records request row := ⟨rfl, rfl, rfl, rfl, rfl, carries⟩
    refine obeys_command _ records fun answer => ?_
    cases answer with
    | error _ => exact rejected _ _ (by simp)
    | ok _ => exact accepted row _ records
  split
  · rename_i asked
    rw [bind_map_left]
    refine obeys_after_settled begun (uses_ambient_raising Unrelated _ trivial) (rejected _)
      fun refreshToken => ?_
    exact inserts (some refreshToken) asked.symm
  · rename_i unasked
    exact inserts none (by simpa using unasked)

/-- A request that saved its token ends well. -/
theorem obeys_success {request : IssueRequest} {row : Token} (context : Context) (body : Json)
    (records : Records request row) (entitled : session.Entitles request) :
    Obeys protocol Ended { session with issuance := .saved request row }
      (success env context body) := by
  have ended : ∀ response : Response, response.status = 200 →
      Ended { session with issuance := .saved request row } (.ok response) :=
    fun response status _ => ⟨status, request, row, rfl, records, entitled⟩
  unfold success
  split
  · exact obeys_after_calm (uses_issue_nonce Refusal env) (ended_of_refusal _)
      fun nonce => ended _ rfl
  · exact ended _ rfl

/-- The end of every grant: the issuance, an id_token where one is due, and the
response. -/
theorem obeys_call_issue (request : IssueRequest) {rest : TokenResponse → Handler Response}
    (pending : session.issuance = .pending) (entitled : session.Entitles request)
    (later : ∀ row response, Records request row →
      Obeys protocol Ended { session with issuance := .saved request row } (rest response)) :
    Obeys protocol Ended session (TokenEndpoint.call (issue env request) >>= rest) := by
  rw [obeys_bind]
  unfold TokenEndpoint.call
  rw [obeys_map_error]
  refine obeys_issue request pending entitled ?_ later
  exact fun reached raised unrelated =>
    ended_of_refusal reached _ (refusal_of_unrelated raised unrelated)

theorem obeys_with_id_token {request : IssueRequest} {row : Token} (context : Context)
    (userId : Option String) (scope : String) (nonce authorizationCode : Option String)
    (selection : Option ClaimsSelection) (response : TokenResponse)
    (records : Records request row) (entitled : session.Entitles request) :
    Obeys protocol Ended { session with issuance := .saved request row }
      (do
        let response ← withIdToken env context.client userId scope nonce authorizationCode
          selection response
        success env context response.body) :=
  obeys_after_settled Issuance.noConfusion
    (uses_with_id_token env context.client userId scope nonce authorizationCode selection response)
    (ended_of_refusal _) fun response => obeys_success context response.body records entitled

/-! ### The grants -/

/-- The session of an authenticated request at the head of its grant. -/
@[reducible] def granting (request : Request) (client : Client) : Session :=
  { origin := .token request, client := some client }

variable {request : Request} {context : Context}

theorem client_scope_cases (client : Client) (form : Form) :
    (∃ scope, clientScope client form = pure scope ∧ scopeIsSubset scope client.scope = true) ∨
      ∃ response, clientScope client form = throw response ∧ Refusal response := by
  unfold clientScope
  split
  · exact Or.inl ⟨client.scope, rfl, scope_is_subset_iff.2 fun _ member => member⟩
  · rename_i requested _
    cases within : scopeIsSubset requested client.scope with
    | true => exact Or.inl ⟨requested, rfl, within⟩
    | false => exact Or.inr ⟨_, rfl, refusal_of_error _ (by decide)⟩

theorem narrowed_scope_cases (form : Form) (granted description : String) :
    (∃ scope, narrowedScope form granted description = pure scope ∧
        scopeIsSubset scope granted = true) ∨
      ∃ response, narrowedScope form granted description = throw response ∧ Refusal response := by
  unfold narrowedScope
  split
  · exact Or.inl ⟨granted, rfl, scope_is_subset_iff.2 fun _ member => member⟩
  · rename_i requested _
    cases within : scopeIsSubset requested granted with
    | true => exact Or.inl ⟨requested, rfl, within⟩
    | false => exact Or.inr ⟨_, rfl, refusal_of_error _ (by decide)⟩

theorem obeys_client_credentials (enabled : context.client.enabled = true)
    (asks : request.form.get "grant_type" = some Grant.clientCredentials.name) :
    Obeys protocol Ended (granting request context.client)
      (clientCredentials env context request) := by
  unfold clientCredentials
  refine obeys_after_calm (uses_require_confidential _ _) (ended_of_refusal _) fun _ => ?_
  refine obeys_after_calm (uses_require_grant env _ _) (ended_of_refusal _) fun _ => ?_
  rcases client_scope_cases context.client request.form with ⟨scope, picked, within⟩ |
    ⟨response, refused, refusal⟩
  · rw [picked, pure_bind]
    refine obeys_after_calm (uses_checked_details env _) (ended_of_refusal _) fun details => ?_
    refine obeys_after_calm (uses_check (raising_validate_resource _)) (ended_of_refusal _)
      fun resource => ?_
    have entitled : (granting request context.client).Entitles
        { client := context.client, userId := none, scope := scope, withRefresh := false,
          cnf := context.cnf, authorizationDetails := details, resource := resource } :=
      ⟨rfl, enabled, rfl, within, rfl, rfl, Or.inl ⟨⟨request, rfl, asks⟩, rfl⟩⟩
    exact obeys_call_issue _ rfl entitled fun row response records =>
      obeys_success context _ records entitled
  · rw [refused]
    exact ended_of_refusal _ _ refusal

theorem ended_of_replayed (session : Session) (replayed : Replayed session) :
    Ended session (.error codeReplayAnswer) :=
  fun _ => ⟨oauth_error_status _ _, fun _ _ => replayed⟩

theorem obeys_refuse_replayed_code {post : Session → Except Response α → Prop}
    {row : AuthorizationCode} (pending : session.issuance = .pending)
    (replays : session.ReplaysCode row)
    (rejected : ∀ reached, Replayed reached → post reached (.error codeReplayAnswer)) :
    Obeys protocol post session (refuseReplayedCode row) := by
  unfold refuseReplayedCode
  split
  · rename_i family kept
    obtain ⟨carried, nonempty⟩ := Option.filter_eq_some_iff.1 kept
    refine obeys_command (.revokeTokenFamily family) ?_ fun count => ?_
    · simp only [allowed, pending]
      exact ⟨by simpa using nonempty, Or.inl ⟨row, replays, carried⟩⟩
    · have swept : after session (.command (.revokeTokenFamily family)) count =
          { session with stage := .swept } := by
        simp only [after, pending, Session.learn]
      rw [swept]
      exact rejected _ ⟨row, replays.1, replays.2.2.1, Or.inl rfl⟩
  · rename_i absent
    exact rejected session ⟨row, replays.1, replays.2.2.1, Or.inr absent⟩

/-- A code that passed its checks. -/
structure CodeChecked (request : Request) (client : Client) (row : AuthorizationCode) : Prop where
  presents : (Origin.token request).Presents .authorizationCode "code" row.code
  owner : row.clientId = client.clientId
  unused : row.used = false

theorem obeys_check_code {post : Session → Except Response (AuthorizationCode × Option (List Json)) → Prop}
    (enabled : context.client.enabled = true)
    (asks : request.form.get "grant_type" = some Grant.authorizationCode.name)
    (rejected : ∀ reached response, Refusal response → post reached (.error response))
    (replayed : ∀ reached, Replayed reached → post reached (.error codeReplayAnswer))
    (accepted : ∀ row details, CodeChecked request context.client row →
      post { granting request context.client with grounds := some (.code row) }
        (.ok (row, details))) :
    Obeys protocol post (granting request context.client) (checkCode env context request) := by
  unfold checkCode
  refine obeys_after_calm (uses_require_grant env _ _) (rejected _) fun _ => ?_
  split
  case h_2 => exact rejected _ _ (refusal_of_description _ (by decide))
  rename_i code kept
  have presents : (Origin.token request).Presents .authorizationCode "code" code :=
    ⟨request, rfl, asks, (Option.filter_eq_some_iff.1 kept).1⟩
  refine obeys_query _ ⟨⟨rfl, rfl, rfl⟩, presents⟩ fun answer keyed => ?_
  cases answer with
  | none => exact rejected _ _ (refusal_of_description _ (by decide))
  | some row =>
      have sameCode : row.code = code := keyed row rfl
      dsimp only
      change Obeys protocol post { granting request context.client with grounds := some (.code row) } _
      cases owned : row.clientId != context.client.clientId with
      | true => exact rejected _ _ (refusal_of_description _ (by decide))
      | false =>
          have owner : row.clientId = context.client.clientId := by simpa using owned
          refine obeys_after_calm (uses_pure_raising Refusal _) (rejected _) fun _ => ?_
          refine obeys_after_calm (uses_ambient_raising Refusal _ trivial) (rejected _)
            fun now => ?_
          refine obeys_after_calm (uses_return_if _ _ _ (refusal_of_description _ (by decide)))
            (rejected _) fun _ => ?_
          split
          · rename_i used
            exact obeys_refuse_replayed_code rfl
              ⟨rfl, ⟨context.client, rfl, enabled, owner.symm⟩, sameCode ▸ presents,
                Or.inl ⟨rfl, used⟩⟩ replayed
          · rename_i unused
            refine obeys_after_calm (uses_return_if _ _ _ (refusal_of_description _ (by decide)))
              (rejected _) fun _ => ?_
            refine obeys_after_calm (uses_check_answered (raising_check_pkce env _ _))
              (rejected _) fun _ => ?_
            refine obeys_after_calm (uses_redeemed_details env _ _) (rejected _)
              fun details => ?_
            exact accepted row details ⟨sameCode ▸ presents, owner, by simpa using unused⟩

theorem obeys_authorization_code (enabled : context.client.enabled = true)
    (asks : request.form.get "grant_type" = some Grant.authorizationCode.name) :
    Obeys protocol Ended (granting request context.client)
      (authorizationCode env context request) := by
  unfold authorizationCode
  rw [obeys_bind]
  refine obeys_check_code enabled asks ended_of_refusal ended_of_replayed ?_
  intro row details checked
  have owns : (granting request context.client).Owns row.clientId :=
    ⟨context.client, rfl, enabled, checked.owner.symm⟩
  refine obeys_command _ ⟨row, rfl, rfl, rfl, checked.unused, owns, checked.presents⟩ fun count => ?_
  dsimp only
  split
  · rename_i none
    subst none
    exact obeys_refuse_replayed_code rfl ⟨rfl, owns, checked.presents, Or.inr rfl⟩ ended_of_replayed
  · rename_i claimed
    have reached : after { granting request context.client with grounds := some (.code row) }
        (.command (.markAuthorizationCodeUsed row.code)) count =
          { granting request context.client with grounds := some (.code row), stage := .claimed } := by
      simp [after, Session.learn, claimed]
    rw [reached]
    unfold redeemCode
    refine obeys_after_calm (uses_return_if _ _ _ (refusal_of_description _ (by decide)))
      (ended_of_refusal _) fun _ => ?_
    have entitled : ({ granting request context.client with
        grounds := some (.code row), stage := .claimed } : Session).Entitles
        { client := context.client, userId := some row.userId, scope := row.scope,
          withRefresh := true, tokenFamily := row.tokenFamily, cnf := context.cnf,
          authorizationDetails := details, resource := row.resource } :=
      ⟨rfl, enabled, checked.presents, rfl, checked.owner, checked.unused, rfl, rfl, rfl, rfl⟩
    exact obeys_call_issue _ rfl entitled fun saved response records =>
      obeys_with_id_token context _ _ _ _ _ response records entitled

/-! ### Refresh tokens -/

/-- A refresh token that passed its checks. -/
structure RefreshChecked (request : Request) (client : Client) (rotation : Rotation) : Prop where
  presents : ∃ refreshToken, rotation.row.refreshToken = some refreshToken ∧
    (Origin.token request).Presents .refreshToken "refresh_token" refreshToken
  owner : rotation.row.clientId = client.clientId
  live : rotation.row.revoked = false
  narrowed : scopeIsSubset rotation.scope rotation.row.scope = true

theorem obeys_refuse_revoked {post : Session → Except Response α → Prop} {row : Token}
    (pending : session.issuance = .pending) (replays : session.ReplaysRefresh row)
    (rejected : ∀ reached response, Refusal response → post reached (.error response)) :
    Obeys protocol post session (refuseRevoked row) := by
  unfold refuseRevoked
  split
  · rename_i family kept
    obtain ⟨carried, nonempty⟩ := Option.filter_eq_some_iff.1 kept
    refine obeys_command (.revokeTokenFamily family) ?_ fun count => ?_
    · simp only [allowed, pending]
      exact ⟨by simpa using nonempty, Or.inr ⟨row, replays, carried⟩⟩
    · exact rejected _ _ (refusal_of_description _ (by decide))
  · exact rejected _ _ (refusal_of_description _ (by decide))

theorem uses_carried_audience (old : Option (List String)) (resource : Option String) :
    Uses (S := Server) Calm Refusal (carriedAudience old resource) := by
  unfold carriedAudience
  split
  · exact uses_pure _
  · split
    · exact uses_pure _
    · exact Uses.bind (uses_return_if _ _ _ (refusal_of_error _ (by decide))) fun _ => uses_pure _

theorem obeys_check_live_refresh {post : Session → Except Response Rotation → Prop} (row : Token)
    (rejected : ∀ response, Refusal response → post session (.error response))
    (accepted : ∀ rotation : Rotation, rotation.row = row →
      scopeIsSubset rotation.scope row.scope = true → post session (.ok rotation)) :
    Obeys protocol post session (checkLiveRefresh env context request row) := by
  unfold checkLiveRefresh
  refine obeys_after_calm (uses_ambient_raising Refusal _ trivial) rejected fun now => ?_
  refine obeys_after_calm (uses_return_if _ _ _ (refusal_of_description _ (by decide))) rejected
    fun _ => ?_
  rcases narrowed_scope_cases request.form row.scope "requested scope exceeds the original grant"
    with ⟨scope, picked, within⟩ | ⟨response, refused, refusal⟩
  · rw [picked, pure_bind]
    refine obeys_after_calm (uses_check (raising_validate_resource _)) rejected fun resource => ?_
    refine obeys_after_calm (uses_carried_audience _ _) rejected fun audience => ?_
    refine obeys_after_calm (uses_return_if _ _ _ (refusal_of_description _ (by decide))) rejected
      fun _ => ?_
    exact accepted _ rfl within
  · rw [refused]
    exact rejected _ refusal

theorem obeys_check_refresh {post : Session → Except Response Rotation → Prop}
    (enabled : context.client.enabled = true)
    (asks : request.form.get "grant_type" = some Grant.refreshToken.name)
    (rejected : ∀ reached response, Refusal response → post reached (.error response))
    (accepted : ∀ rotation, RefreshChecked request context.client rotation →
      post { granting request context.client with grounds := some (.refresh rotation.row) }
        (.ok rotation)) :
    Obeys protocol post (granting request context.client) (checkRefresh env context request) := by
  unfold checkRefresh
  refine obeys_after_calm (uses_require_grant env _ _) (rejected _) fun _ => ?_
  split
  case h_2 => exact rejected _ _ (refusal_of_description _ (by decide))
  rename_i refreshToken kept
  have presents : (Origin.token request).Presents .refreshToken "refresh_token" refreshToken :=
    ⟨request, rfl, asks, (Option.filter_eq_some_iff.1 kept).1⟩
  refine obeys_query _ ⟨⟨rfl, rfl, rfl⟩, presents⟩ fun answer keyed => ?_
  cases answer with
  | none => exact rejected _ _ (refusal_of_description _ (by decide))
  | some row =>
      have carries : row.refreshToken = some refreshToken := keyed row rfl
      dsimp only
      change Obeys protocol post
        { granting request context.client with grounds := some (.refresh row) } _
      cases owned : row.clientId != context.client.clientId with
      | true => exact rejected _ _ (refusal_of_description _ (by decide))
      | false =>
          have owner : row.clientId = context.client.clientId := by simpa using owned
          refine obeys_after_calm (uses_pure_raising Refusal _) (rejected _) fun _ => ?_
          split
          · rename_i revoked
            exact obeys_refuse_revoked rfl
              ⟨rfl, ⟨context.client, rfl, enabled, owner.symm⟩, rfl, revoked⟩ rejected
          · rename_i live
            refine obeys_check_live_refresh row (rejected _) ?_
            rintro rotation rfl within
            exact accepted rotation
              ⟨⟨refreshToken, carries, presents⟩, owner, by simpa using live, within⟩

theorem obeys_refresh_token (enabled : context.client.enabled = true)
    (asks : request.form.get "grant_type" = some Grant.refreshToken.name) :
    Obeys protocol Ended (granting request context.client)
      (refreshToken env context request) := by
  unfold refreshToken
  rw [obeys_bind]
  refine obeys_check_refresh enabled asks ended_of_refusal ?_
  intro rotation checked
  -- The family is the row's own, or drawn before the revocation.
  have rotates : ∀ (drawn : Option String) (family : String),
      some family = (rotation.row.tokenFamily.filter (· != "")).or drawn →
      Obeys protocol Ended
        { granting request context.client with
          grounds := some (.refresh rotation.row), drawn := drawn }
        (do
          command (.revokeToken rotation.row.accessToken)
          redeemRefresh env context rotation family) := by
    intro drawn family chosen
    obtain ⟨refreshToken, carries, presents⟩ := checked.presents
    refine obeys_command _ ⟨rotation.row, rfl, rfl, rfl, checked.live,
      ⟨context.client, rfl, enabled, checked.owner.symm⟩, refreshToken, carries, presents⟩
      fun _ => ?_
    unfold redeemRefresh
    have entitled : ({ granting request context.client with
        grounds := some (.refresh rotation.row), drawn := drawn, stage := .claimed } :
          Session).Entitles
        { client := context.client, userId := rotation.row.userId, scope := rotation.scope,
          withRefresh := true, tokenFamily := some family, cnf := rotation.cnf,
          resource := rotation.resource, audience := rotation.audience } :=
      ⟨rfl, enabled, ⟨refreshToken, presents, carries⟩, rfl, checked.owner, checked.live, rfl,
        checked.narrowed, rfl, rfl, chosen⟩
    exact obeys_call_issue _ rfl entitled fun saved response records =>
      obeys_with_id_token context _ _ _ _ _ response records entitled
  unfold familyOf
  dsimp only
  split
  · rename_i family kept
    exact rotates none family (by rw [kept]; rfl)
  · rename_i absent
    refine obeys_ambient _ trivial fun family => ?_
    exact rotates (some family) family (by rw [absent]; rfl)

/-! ### Device codes -/

/-- A device code that passed its checks. -/
structure DeviceChecked (request : Request) (client : Client) (row : DeviceAuthorization) :
    Prop where
  presents : (Origin.token request).Presents .deviceCode "device_code" row.deviceCode
  owner : row.clientId = client.clientId
  approved : row.approved = true
  undenied : row.denied = false
  unused : row.used = false

theorem refusal_slow_down (interval : Int) : Refusal (slowDown interval) := by
  refine ⟨by simp [slowDown], fun same => ?_⟩
  have bodies := congrArg Response.body same
  simp [slowDown, codeReplayAnswer, oauthError, optionalMember] at bodies

/-- A guard of the handler that a row passed. -/
theorem obeys_return_if {post : Session → Except Response α → Prop} {condition : Bool}
    {error description : String} {rest : Unit → Handler α}
    (refusal : Refusal (oauthError error (some description)))
    (rejected : ∀ response, Refusal response → post session (.error response))
    (later : condition = false → Obeys protocol post session (rest ())) :
    Obeys protocol post session (returnIf condition error description >>= rest) := by
  cases condition with
  | true => exact rejected _ refusal
  | false => exact later rfl

theorem obeys_check_device
    {post : Session → Except Response (DeviceAuthorization × Option String) → Prop}
    (asks : request.form.get "grant_type" = some Grant.deviceCode.name)
    (rejected : ∀ reached response, Refusal response → post reached (.error response))
    (accepted : ∀ row resource, DeviceChecked request context.client row →
      post { granting request context.client with grounds := some (.device row) }
        (.ok (row, resource))) :
    Obeys protocol post (granting request context.client) (checkDevice env context request) := by
  unfold checkDevice
  refine obeys_after_calm (uses_require_grant env _ _) (rejected _) fun _ => ?_
  split
  · exact rejected _ _ (refusal_of_error _ (by decide))
  rename_i deviceCode kept
  have presents : (Origin.token request).Presents .deviceCode "device_code" deviceCode :=
    ⟨request, rfl, asks, (Option.filter_eq_some_iff.1 kept).1⟩
  refine obeys_query _ ⟨⟨rfl, rfl, rfl⟩, presents⟩ fun answer keyed => ?_
  cases answer with
  | none => exact rejected _ _ (refusal_of_description _ (by decide))
  | some row =>
      have sameCode : row.deviceCode = deviceCode := keyed row rfl
      dsimp only
      change Obeys protocol post
        { granting request context.client with grounds := some (.device row) } _
      refine obeys_return_if (refusal_of_description _ (by decide)) (rejected _) fun owned => ?_
      refine obeys_after_calm (uses_ambient_raising Refusal _ trivial) (rejected _)
        fun polled => ?_
      cases polled with
      | some interval => exact rejected _ _ (refusal_slow_down interval)
      | none =>
          refine obeys_after_calm (uses_ambient_raising Refusal _ trivial) (rejected _)
            fun now => ?_
          refine obeys_return_if (refusal_of_error _ (by decide)) (rejected _) fun _ => ?_
          refine obeys_return_if (refusal_of_error _ (by decide)) (rejected _) fun undenied => ?_
          refine obeys_return_if (refusal_of_description _ (by decide)) (rejected _)
            fun unused => ?_
          refine obeys_return_if (refusal_of_error _ (by decide)) (rejected _) fun approved => ?_
          refine obeys_after_calm (uses_check (raising_validate_resource _)) (rejected _)
            fun resource => ?_
          exact accepted row resource
            ⟨sameCode ▸ presents, by simpa using owned, by simpa using approved, undenied, unused⟩

theorem obeys_device_code (enabled : context.client.enabled = true)
    (asks : request.form.get "grant_type" = some Grant.deviceCode.name) :
    Obeys protocol Ended (granting request context.client) (deviceCode env context request) := by
  unfold deviceCode
  rw [obeys_bind]
  refine obeys_check_device asks ended_of_refusal ?_
  intro row resource checked
  refine obeys_command _ ⟨row, rfl, rfl, rfl, checked.approved, checked.undenied, checked.unused,
    ⟨context.client, rfl, enabled, checked.owner.symm⟩, checked.presents⟩ fun count => ?_
  dsimp only
  split
  · exact ended_of_refusal _ _ (refusal_of_description _ (by decide))
  · rename_i claimed
    have reached : after { granting request context.client with grounds := some (.device row) }
        (.command (.markDeviceAuthorizationUsed row.deviceCode)) count =
          { granting request context.client with
            grounds := some (.device row), stage := .claimed } := by
      simp [after, Session.learn, claimed]
    rw [reached]
    unfold redeemDevice
    refine obeys_after_calm (uses_ambient_raising Refusal _ trivial) (ended_of_refusal _)
      fun _ => ?_
    refine obeys_ambient _ trivial fun family => ?_
    have entitled : ({ granting request context.client with
        grounds := some (.device row), stage := .claimed, drawn := some family } :
          Session).Entitles
        { client := context.client, userId := row.userId, scope := row.scope,
          withRefresh := true, tokenFamily := some family, resource := resource } :=
      ⟨rfl, enabled, checked.presents, rfl, checked.owner,
        ⟨checked.approved, checked.undenied, checked.unused⟩, rfl, rfl, rfl, rfl, rfl⟩
    exact obeys_call_issue _ rfl entitled fun saved response records =>
      obeys_with_id_token context _ _ _ _ _ response records entitled

/-! ### Token exchange -/

theorem obeys_exchange_row {subjectToken : String} {row : Token}
    (enabled : context.client.enabled = true)
    (presents : (Origin.token request).Presents .tokenExchange "subject_token" row.accessToken) :
    Obeys protocol Ended { granting request context.client with grounds := some (.subject row) }
      (exchangeRow env context request subjectToken row) := by
  unfold exchangeRow
  refine obeys_return_if (refusal_of_description _ (by decide)) (ended_of_refusal _) fun live => ?_
  refine obeys_after_calm (uses_ambient_raising Refusal _ trivial) (ended_of_refusal _)
    fun now => ?_
  refine obeys_return_if (refusal_of_description _ (by decide)) (ended_of_refusal _) fun _ => ?_
  rcases narrowed_scope_cases request.form row.scope "requested scope exceeds client permissions"
    with ⟨scope, picked, within⟩ | ⟨response, refused, refusal⟩
  · rw [picked, pure_bind]
    dsimp only
    split
    · exact ended_of_refusal _ _ (refusal_of_error _ (by decide))
    · exact ended_of_refusal _ _ (refusal_of_status (by decide) (by decide))
    · refine obeys_after_calm (uses_check (raising_validate_resource _)) (ended_of_refusal _)
        fun resource => ?_
      have entitled : ({ granting request context.client with grounds := some (.subject row) } :
          Session).Entitles
          { client := context.client, userId := row.userId, scope := scope, withRefresh := false,
            cnf := context.cnf, act := some (actorClaim env context.client subjectToken),
            resource := resource } :=
        ⟨rfl, enabled, presents, rfl, live, rfl, within, rfl, rfl⟩
      exact obeys_call_issue _ rfl entitled fun saved response records =>
        obeys_success context _ records entitled
  · rw [refused]
    exact ended_of_refusal _ _ refusal

theorem obeys_token_exchange (enabled : context.client.enabled = true)
    (asks : request.form.get "grant_type" = some Grant.tokenExchange.name) :
    Obeys protocol Ended (granting request context.client)
      (tokenExchange env context request) := by
  unfold tokenExchange checkExchangeForm
  refine obeys_after_calm (uses_require_grant env _ _) (ended_of_refusal _) fun _ => ?_
  refine obeys_after_calm (uses_require_confidential _ _) (ended_of_refusal _) fun _ => ?_
  split
  · exact ended_of_refusal _ _ (refusal_of_error _ (by decide))
  · rename_i subjectToken kept
    have presented := (Option.filter_eq_some_iff.1 kept).1
    simp only [bind_assoc]
    refine obeys_return_if (refusal_of_error _ (by decide)) (ended_of_refusal _) fun _ => ?_
    refine obeys_return_if (refusal_of_error _ (by decide)) (ended_of_refusal _) fun _ => ?_
    rw [pure_bind]
    refine obeys_query _ ⟨⟨rfl, rfl, rfl⟩, request, rfl, asks, presented⟩ fun answer keyed => ?_
    cases answer with
    | none => exact ended_of_refusal _ _ (refusal_of_description _ (by decide))
    | some row =>
        have sameToken : row.accessToken = subjectToken := keyed row rfl
        exact obeys_exchange_row enabled ⟨request, rfl, asks, sameToken ▸ presented⟩

/-! ### Assertions -/

/-- An account that was looked up must be enabled. -/
theorem obeys_account {post : Session → Except Raised String → Prop} {user : User}
    (rejected : ∀ raised, post session (.error raised))
    (accepted : user.enabled = true → post session (.ok user.id)) :
    Obeys protocol post session
      (do
        raiseIf (!user.enabled) "invalid_grant" "subject user is disabled"
        rejectIfDenylisted user.username user.email
        pure user.id) := by
  cases enabled : user.enabled with
  | false => exact rejected _
  | true =>
      refine obeys_after_calm (uses_pure_raising Any _) (fun raised _ => rejected raised)
        fun _ => ?_
      refine obeys_after_calm (uses_reject_if_denylisted _ _) (fun raised _ => rejected raised)
        fun _ => ?_
      exact accepted enabled

theorem after_user_by_id (userId : String) (answer : Option User) (opened : session.Open) :
    after session (.query (.getUserById userId)) answer =
      { session with accounts := answer.toList ++ session.accounts } := by
  have learned : after session (.query (.getUserById userId)) answer =
      session.learn (.query (.getUserById userId)) answer := by
    simp only [after, opened.2.2]
  rw [learned]
  cases answer <;> rfl

theorem obeys_provision (session : Session) (sub : String) (claims : List (String × Json))
    {post : Session → Except Raised String → Prop} (opened : session.Open)
    (rejected : ∀ accounts raised, post { session with accounts := accounts } (.error raised))
    (accepted : ∀ accounts, ∀ user ∈ accounts, user.enabled = true →
      post { session with accounts := accounts } (.ok user.id)) :
    Obeys protocol post session (provision sub claims) := by
  have refused : ∀ raised, Any raised → post session (.error raised) :=
    fun raised _ => rejected session.accounts raised
  unfold provision
  refine obeys_after_calm (uses_reject_if_denylisted _ _) refused fun _ => ?_
  refine obeys_after_calm (uses_ambient _ trivial) refused fun now => ?_
  refine obeys_after_calm (uses_ambient _ trivial) refused fun secret => ?_
  refine obeys_after_calm (uses_ambient _ trivial) refused fun passwordHash => ?_
  extract_lets user
  refine obeys_command (.saveUser user) ?_ fun answer => ?_
  · simp only [allowed, opened.2.2]
    exact ⟨opened, rfl⟩
  cases answer with
  | ok saved =>
      have learned : after session (.command (.saveUser user)) (.ok saved) =
          { session with accounts := user :: session.accounts } := by
        simp only [after, opened.2.2, Session.learn]
      rw [learned]
      exact accepted _ user List.mem_cons_self rfl
  | error failure =>
      have learned : after session (.command (.saveUser user)) (.error failure) = session := by
        simp only [after, opened.2.2, Session.learn]
      rw [learned]
      refine obeys_query (.getUserById sub) ?_ fun answer _ => ?_
      · simp only [allowed, opened.2.2]
        trivial
      rw [after_user_by_id sub answer opened]
      cases answer with
      | none => exact rejected _ _
      | some raced =>
          exact obeys_account (rejected _) fun enabled =>
            accepted _ raced List.mem_cons_self enabled

/-- The subject an assertion resolves to has been seen enabled. -/
theorem obeys_resolve_subject (trusted : TrustedIssuer) (claims : List (String × Json))
    {post : Session → Except Raised String → Prop} (opened : session.Open)
    (rejected : ∀ accounts raised, post { session with accounts := accounts } (.error raised))
    (accepted : ∀ accounts, ∀ user ∈ accounts, user.enabled = true →
      post { session with accounts := accounts } (.ok user.id)) :
    Obeys protocol post session (resolveSubject env trusted claims) := by
  unfold resolveSubject
  split
  case h_2 => exact rejected session.accounts _
  rename_i sub _
  extract_lets byEmail decision
  -- Whichever way the account was looked up, it is decided on in the same way.
  have decides : ∀ accounts (existing : Option User), (∀ user, existing = some user → user ∈ accounts) →
      Obeys protocol post { session with accounts := accounts } (decision existing) := by
    intro accounts existing known
    have refused : ∀ raised, Any raised → post { session with accounts := accounts } (.error raised) :=
      fun raised _ => rejected accounts raised
    cases existing with
    | some user =>
        exact obeys_account (rejected accounts) fun enabled =>
          accepted accounts user (known user rfl) enabled
    | none =>
        refine obeys_after_calm (uses_raise_if _ _ _ trivial) refused fun _ => ?_
        refine obeys_after_calm (uses_raise_if _ _ _ trivial) refused fun _ => ?_
        exact obeys_provision { session with accounts := accounts } sub claims opened rejected accepted
  split
  · unfold accountByEmail
    extract_lets email
    simp only [bind_assoc]
    refine obeys_after_calm (uses_raise_if _ _ _ trivial) (fun raised (_ : Any raised) =>
      rejected session.accounts raised) fun _ => ?_
    refine obeys_after_calm (uses_raise_if _ _ _ trivial) (fun raised (_ : Any raised) =>
      rejected session.accounts raised) fun _ => ?_
    refine obeys_query (.getUsersByEmail (env.platform.lower email)) ?_ fun candidates _ => ?_
    · simp only [allowed, opened.2.2]
      trivial
    have learned : after session (.query (.getUsersByEmail (env.platform.lower email))) candidates =
        { session with accounts := candidates ++ session.accounts } := by
      simp only [after, opened.2.2, Session.learn]
    rw [learned]
    refine obeys_after_calm (uses_raise_if _ _ _ trivial) (fun raised (_ : Any raised) =>
      rejected _ raised) fun _ => ?_
    rw [pure_bind]
    refine decides _ _ fun user found => List.mem_append_left _ ?_
    exact List.mem_of_mem_filter (List.mem_of_mem_head? found)
  · refine obeys_query (.getUserById sub) ?_ fun answer _ => ?_
    · simp only [allowed, opened.2.2]
      trivial
    rw [after_user_by_id sub answer opened]
    refine decides _ answer fun user found => ?_
    subst found
    exact List.mem_cons_self

theorem answer_raised_status (raised : Raised) : (answerRaised raised).status ≠ 200 := by
  cases raised with
  | oauth error description => exact oauth_error_status _ _
  | dpop error description => exact oauth_error_status _ _
  | other => decide

theorem obeys_jwt_bearer (enabled : context.client.enabled = true)
    (asks : request.form.get "grant_type" = some Grant.jwtBearer.name) :
    Obeys protocol Ended (granting request context.client) (jwtBearer env context request) := by
  -- No answer to an assertion is taken for the answer to a replayed code.
  have answered : ∀ accounts raised,
      Ended { granting request context.client with accounts := accounts }
        (.error (answerRaised raised)) := by
    intro accounts raised _
    refine ⟨answer_raised_status raised, ?_⟩
    rintro ⟨other, same, asksCode⟩
    cases same
    rw [asks] at asksCode
    exact absurd (Option.some.inj asksCode) (by decide)
  unfold jwtBearer presentedAssertion
  simp only [bind_assoc]
  refine obeys_after_calm (uses_require_grant env _ _) (ended_of_refusal _) fun _ => ?_
  refine obeys_after_calm (uses_require_confidential _ _) (ended_of_refusal _) fun _ => ?_
  split
  · exact ended_of_refusal _ _ (refusal_of_error _ (by decide))
  rw [pure_bind, obeys_bind]
  unfold TokenEndpoint.call
  rw [obeys_map_error]
  unfold redeemJwtBearerAssertion
  refine obeys_after_calm (uses_check_assertion env _ _) (fun raised _ => answered [] raised)
    fun checked => ?_
  refine obeys_after_calm (uses_enforce_replay _ _) (fun raised _ => answered [] raised)
    fun _ => ?_
  refine obeys_resolve_subject _ _ ⟨rfl, rfl, rfl⟩ answered ?_
  intro accounts user known userEnabled
  change Obeys protocol Ended { granting request context.client with accounts := accounts }
    (redeemAssertion env context request user.id)
  unfold redeemAssertion
  rcases client_scope_cases context.client request.form with ⟨scope, picked, within⟩ |
    ⟨response, refused, refusal⟩
  · rw [picked, pure_bind]
    refine obeys_after_calm (uses_check (raising_validate_resource _)) (ended_of_refusal _)
      fun resource => ?_
    have entitled : ({ granting request context.client with accounts := accounts } :
        Session).Entitles
        { client := context.client, userId := some user.id, scope := scope, withRefresh := false,
          cnf := context.cnf, resource := resource } :=
      ⟨rfl, enabled, rfl, within, rfl, rfl,
        Or.inr ⟨⟨request, rfl, asks⟩, user, known, userEnabled, rfl⟩⟩
    exact obeys_call_issue _ rfl entitled fun row response records =>
      obeys_success context _ records entitled
  · rw [refused]
    exact ended_of_refusal _ _ refusal

/-! ### The requests -/

theorem grant_of_parse {text : String} {grant : Grant} (parsed : Grant.parse text = some grant) :
    text = grant.name := by
  have named := List.find?_some parsed
  simpa using (beq_iff_eq.1 named).symm

theorem obeys_token (env : Env) (request : Request) :
    Obeys protocol Ended { origin := .token request } (TokenEndpoint.token env request) := by
  unfold TokenEndpoint.token requestedGrant
  split
  · exact ended_of_refusal _ _ (refusal_of_error _ (by decide))
  rename_i text kept
  split
  · exact ended_of_refusal _ _ (refusal_of_error _ (by decide))
  rename_i grant parsed
  have asks : request.form.get "grant_type" = some grant.name := by
    rw [← grant_of_parse parsed]
    exact (Option.filter_eq_some_iff.1 kept).1
  rw [pure_bind, obeys_bind]
  refine obeys_pre_grant request rfl ⟨rfl, rfl, rfl⟩ ended_of_refusal fun context enabled => ?_
  cases grant with
  | authorizationCode => exact obeys_authorization_code enabled asks
  | clientCredentials => exact obeys_client_credentials enabled asks
  | refreshToken => exact obeys_refresh_token enabled asks
  | deviceCode => exact obeys_device_code enabled asks
  | tokenExchange => exact obeys_token_exchange enabled asks
  | jwtBearer => exact obeys_jwt_bearer enabled asks

theorem obeys_device_verify (env : Env) (request : VerifyRequest) :
    Obeys protocol Ended { origin := .verify request } (deviceVerify env request) := by
  have ended : ∀ (session : Session) outcome, session.origin = .verify request →
      Ended session outcome := by
    rintro session outcome verifies
    cases outcome
    all_goals
      rintro ⟨other, same⟩
      rw [verifies] at same
      cases same
  unfold deviceVerify
  split
  · exact ended _ _ rfl
  · split
    · exact ended _ _ rfl
    · rename_i userId _ raw _
      extract_lets userCode
      refine obeys_query _ ⟨⟨rfl, rfl, rfl⟩, request, rfl⟩ fun answer keyed => ?_
      cases answer with
      | none => exact ended _ _ rfl
      | some row =>
          have sameCode : row.userCode = userCode := keyed row rfl
          dsimp only
          change Obeys protocol Ended
            { origin := .verify request, grounds := some (.verifying row) } _
          split
          · exact ended _ _ rfl
          · rename_i open'
            have undecided : ({ origin := .verify request, grounds := some (.verifying row) } :
                Session).Undecided userCode := by
              simp only [Bool.or_eq_true, not_or, Bool.not_eq_true] at open'
              exact ⟨row, rfl, rfl, sameCode, open'.1.1, open'.1.2, open'.2⟩
            refine obeys_after_calm (uses_ambient_raising Refusal _ trivial)
              (fun response _ => ended _ _ rfl) fun now => ?_
            split
            · exact ended _ _ rfl
            · unfold decideDevice
              split
              · exact obeys_command _ undecided fun _ => ended _ _ rfl
              · split
                · exact obeys_command _ undecided fun _ => ended _ _ rfl
                · exact ended _ _ rfl

/-- Every request follows the protocol. -/
theorem obeys_program (env : Env) (origin : Origin) :
    Obeys protocol Ended { origin := origin } (origin.program env) := by
  cases origin with
  | token request => exact obeys_token env request
  | verify request => exact obeys_device_verify env request

end Following

end OAuth2Server.Conformance
