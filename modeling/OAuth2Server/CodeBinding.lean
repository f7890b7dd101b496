import OAuth2Server.AuthorizeCodes
import OAuth2Server.Histories
import OAuth2Server.Server

/-!
# From the authorization request to the token

A code ties two requests of two endpoints together: the authorization request
that was checked, and the token request that redeems it. Between them lies the
stored row, which no operation of the server changes but for its `used` flag.
-/

namespace OAuth2Server.CodeBinding

open OAuth2Server Models JsonText Storage Effects Interaction Interaction.Program Interleaving
open ClientAuth Dpop Issuance TokenEndpoint Endpoints Validation FrontChannel AuthorizeResponse
open Authorize AuthorizeExits ClientIdentity AuthorizeCodes Footprints Protocol Server
open Interleaving.Performs LoginGate Runs

set_option autoImplicit false

variable {env : Env} {request : Request} {context : Context}

/-! ### What a redemption saves -/

/-- No token is saved. -/
def Tokenless (op : Op) : Prop := ∀ row, op ≠ .command (.saveToken row)

theorem tokenless_of_reading (op : Op) (reads : ReadOnly op) : Tokenless op := by
  rintro row rfl
  exact reads

/-- A token that is saved records the arguments of its issuance. -/
def Saves (issued : IssueRequest) (op : Op) : Prop :=
  ∀ row, op = .command (.saveToken row) → Records issued row

theorem saves_of_settled {issued : IssueRequest} (op : Op) (settled : Settled op) :
    Saves issued op := by
  rintro row rfl
  cases settled

theorem saves_ambient {issued : IssueRequest} (act : Ambient) : Saves issued (.ambient act) :=
  fun _ same => Op.noConfusion same

theorem uses_issue (env : Env) (issued : IssueRequest) :
    Uses (S := Server) (Saves issued) (fun _ => True) (issue env issued) := by
  unfold issue
  apply Uses.bind (uses_ambient _ (saves_ambient _))
  intro _
  apply Uses.bind ((uses_mint_access_token env issued).mono saves_of_settled fun _ _ => trivial)
  intro accessToken
  extract_lets insertion
  have inserts : ∀ refreshToken : Option String, refreshToken.isSome = issued.withRefresh →
      Uses (S := Server) (Saves issued) (fun _ => True) (insertion refreshToken) := by
    intro refreshToken carries
    apply Uses.bind (uses_ambient _ (saves_ambient _))
    intro now
    apply Uses.bind (uses_ambient _ (saves_ambient _))
    intro id
    apply Uses.bind (uses_ambient _ (saves_ambient _))
    intro createdAt
    extract_lets row
    have records : Saves issued (.command (.saveToken row)) := by
      intro saved same
      cases same
      exact ⟨rfl, rfl, rfl, rfl, rfl, carries⟩
    apply Uses.bind (uses_command _ records)
    intro saved
    exact (uses_insert saved).bind fun _ => trivial
  split
  · rename_i asked
    rw [bind_map_left]
    apply Uses.bind (uses_ambient _ (saves_ambient _))
    intro refreshToken
    exact inserts (some refreshToken) asked.symm
  · rename_i unasked
    exact inserts none (by simpa using unasked)

theorem uses_refuse_replayed_code {α : Type} (row : AuthorizationCode) :
    Uses (S := Server) Tokenless (fun _ => True) (refuseReplayedCode row : Handler α) := by
  unfold refuseReplayedCode
  split
  · exact Uses.bind (Uses.map (uses_command _ (by intro row same; cases same))) fun _ => trivial
  · trivial

theorem uses_calm_tokenless {α ε : Type} {raises : ε → Prop} {program : Program Server ε α}
    (uses : Uses (S := Server) Calm raises program) :
    Uses (S := Server) Tokenless (fun _ => True) program :=
  (read_only uses).mono tokenless_of_reading fun _ raised => raised

theorem uses_check_code (env : Env) (context : Context) (request : Request) :
    Uses (S := Server) Tokenless (fun _ => True) (checkCode env context request) := by
  have details : ∀ stored presented, Uses (S := Server) Tokenless (fun _ => True)
      (redeemedDetails env stored presented) := by
    intro stored presented
    unfold redeemedDetails
    apply Uses.bind ((uses_reject_if _ _).2 fun _ => trivial)
    intro _
    exact uses_calm_tokenless (uses_checked_details env _)
  unfold checkCode
  apply Uses.bind (uses_calm_tokenless (uses_require_grant env _ _))
  intro _
  extract_lets judge
  have judged : ∀ found, Uses (S := Server) Tokenless (fun _ => True) (judge found) := by
    intro found
    cases found with
    | none => trivial
    | some row =>
        apply Uses.bind ((uses_reject_if _ _).2 fun _ => trivial)
        intro _
        apply Uses.bind (uses_ambient _ (by intro row same; cases same))
        intro now
        apply Uses.bind ((uses_reject_if _ _).2 fun _ => trivial)
        intro _
        split
        · exact uses_refuse_replayed_code row
        · apply Uses.bind ((uses_reject_if _ _).2 fun _ => trivial)
          intro _
          apply Uses.bind ((uses_of_except _).2 fun _ _ => trivial)
          intro _
          exact (details _ _).bind fun _ => trivial
  split
  · apply Uses.bind (uses_query _ (by intro row same; cases same))
    exact judged
  · exact judged none

/-! ### The path of a redemption -/

/-- The part of a token request's history that passed the checks of a code. -/
structure Passed (env : Env) (context : Context) (request : Request)
    (events : List (Event Server)) (row : AuthorizationCode) : Prop where
  read : ∃ code before after now, request.form.get "code" = some code ∧
    events = before ++ ⟨.query (.getAuthorizationCode code), some row⟩ ::
      ⟨.ambient .now, now⟩ :: after ∧ now ≤ row.expiresAt
  client : row.clientId = context.client.clientId
  unused : row.used = false
  redirectUri : request.form.get "redirect_uri" = some row.redirectUri
  pkce : checkPkce env row.codeChallenge (request.form.get "code_verifier") = .ok ()

theorem check_code_passed {events : List (Event Server)} {row : AuthorizationCode}
    {details : Option (List Json)}
    (path : Performs (checkCode env context request) events (.done (row, details))) :
    Passed env context request events row := by
  unfold checkCode at path
  obtain ⟨_, granting, onward, split, _, path⟩ := done_bind path
  dsimp only at path
  cases presented : (request.form.get "code").filter (· != "") with
  | none =>
      rw [presented] at path
      cases path
  | some code =>
      rw [presented] at path
      obtain ⟨found, judging, looked, path⟩ := done_call path
      obtain ⟨given, _⟩ := Option.filter_eq_some_iff.1 presented
      cases found with
      | none => cases path
      | some stored =>
          replace path : Performs (do
            returnIf (stored.clientId != context.client.clientId) "invalid_grant"
              "authorization code was not issued to this client"
            let now ← ambient .now
            returnIf (decide (stored.expiresAt < now)) "invalid_grant"
              "authorization code has expired"
            if stored.used then refuseReplayedCode stored
            else
              returnIf (request.form.get "redirect_uri" != some stored.redirectUri) "invalid_grant"
                "redirect_uri does not match the authorization request"
              check (checkPkce env stored.codeChallenge (request.form.get "code_verifier"))
              let details ← redeemedDetails env stored.authorizationDetails
                (request.form.get "authorization_details")
              pure (stored, details) : Handler (AuthorizationCode × Option (List Json)))
              judging (.done (row, details)) := path
          obtain ⟨sameClient, path⟩ := done_reject path
          obtain ⟨now, after, clocked, path⟩ := done_call path
          obtain ⟨unexpired, path⟩ := done_reject path
          split at path
          · -- A replayed code is refused, so no path leads through it.
            unfold refuseReplayedCode at path
            split at path
            · obtain ⟨_, _, _, _, _, path⟩ := done_bind path
              cases path
            · cases path
          · rename_i unused
            obtain ⟨sameUri, path⟩ := done_reject path
            obtain ⟨_, verified, path⟩ := done_except path
            obtain ⟨checked, _, _, _, _, path⟩ := done_bind path
            cases path
            have pkce : checkPkce env row.codeChallenge (request.form.get "code_verifier") =
                .ok () := map_error_eq_ok verified
            refine ⟨⟨code, granting, after, now, given, ?_, ?_⟩, ?_, ?_, ?_, pkce⟩
            · rw [split, looked, clocked]
            · exact not_lt.1 (of_decide_eq_false unexpired)
            · simpa using sameClient
            · simpa using unused
            · simpa using sameUri

/-- A verifier of the stored challenge. -/
theorem check_pkce_ok {challenge verifier : Option String}
    (passed : checkPkce env challenge verifier = .ok ()) :
    ∃ text, verifier = some text ∧ challenge = some (pkceChallenge env text) := by
  unfold checkPkce at passed
  split at passed
  · cases passed
  · rename_i expected asked
    split at passed
    · cases passed
    · rename_i text given
      dsimp only at passed
      split at passed
      · cases passed
      · split at passed
        · cases passed
        · rename_i same
          refine ⟨text, (Option.filter_eq_some_iff.1 given).1, ?_⟩
          rw [(Option.filter_eq_some_iff.1 asked).1]
          simpa using (Eq.symm (by simpa using same : pkceChallenge env text = expected))

/-- What a redemption saves is a token of the row that passed the checks. -/
theorem redemption_saves {events : List (Event Server)} {final : Handler Response} {token : Token}
    {answer : Except StorageError Unit}
    (path : Performs (authorizationCode env context request) events final)
    (saved : (⟨.command (.saveToken token), answer⟩ : Event Server) ∈ events) :
    ∃ row checked after, events = checked ++ after ∧ Passed env context request checked row ∧
      (⟨.command (.saveToken token), answer⟩ : Event Server) ∈ after ∧
      token.clientId = context.client.clientId ∧ token.userId = some row.userId ∧
      token.scope = row.scope := by
  have tokenless : ∀ {α : Type} {program left : Handler α} {part : List (Event Server)},
      Performs program part left → Uses (S := Server) Tokenless (fun _ => True) program →
      (⟨.command (.saveToken token), answer⟩ : Event Server) ∉ part :=
    fun path uses member => path.within uses _ member token rfl
  unfold authorizationCode at path
  rcases of_bind path with ⟨left, checking, _⟩ | ⟨⟨row, details⟩, checked, after, split, checking, path⟩
  · exact absurd saved (tokenless checking (uses_check_code env context request))
  dsimp only at path
  have within : (⟨.command (.saveToken token), answer⟩ : Event Server) ∈ after := by
    rw [split, List.mem_append] at saved
    exact saved.resolve_left (tokenless checking (uses_check_code env context request))
  have issued : Records
      { client := context.client
        userId := some row.userId
        scope := row.scope
        withRefresh := true
        tokenFamily := row.tokenFamily
        cnf := context.cnf
        authorizationDetails := details
        resource := row.resource } token := by
    rcases of_call path with empty | ⟨claimed, later, marked, path⟩
    · rw [empty] at within
      cases within
    · have unmarked : (⟨.command (.saveToken token), answer⟩ : Event Server) ∈ later := by
        rw [marked] at within
        rcases List.mem_cons.1 within with same | later
        · cases same
        · exact later
      replace path : Performs (if claimed = 0 then refuseReplayedCode row
        else redeemCode env context row details) later final := path
      split at path
      · exact absurd unmarked (tokenless path (uses_refuse_replayed_code row))
      · suffices uses : Uses (S := Server) (Saves _) (fun _ => True)
            (redeemCode env context row details) from path.within uses _ unmarked token rfl
        unfold redeemCode
        apply Uses.bind ((uses_reject_if _ _).2 fun _ => trivial)
        intro _
        apply Uses.bind (Uses.mapError (uses_issue env _) fun _ _ => trivial)
        intro response
        apply Uses.bind ((uses_with_id_token env _ _ _ _ _ _ _).mono saves_of_settled
          fun _ _ => trivial)
        intro withToken
        exact (uses_success env context _).mono
          (fun op calm => saves_of_settled op (settled_of_calm op calm)) fun _ _ => trivial
  exact ⟨row, checked, after, split, check_code_passed checking, within, issued.clientId,
    issued.userId, issued.scope⟩

/-- A token request that redeems a code: it was authenticated, it found the row,
and the token it saved is one of the row. -/
structure Redeems (env : Env) (request : Request) (events : List (Event Server)) (token : Token)
    (row : AuthorizationCode) : Prop where
  authenticated : ∃ context earlier, earlier <+: events ∧
    Performs (preGrant env request) earlier (.done context) ∧
    context.client.clientId = row.clientId
  read : ∃ code before after now, request.form.get "code" = some code ∧
    events = before ++ ⟨.query (.getAuthorizationCode code), some row⟩ ::
      ⟨.ambient .now, now⟩ :: after ∧ now ≤ row.expiresAt ∧
    (⟨.command (.saveToken token), .ok ()⟩ : Event Server) ∈ after
  unused : row.used = false
  redirectUri : request.form.get "redirect_uri" = some row.redirectUri
  verifier : ∃ verifier, request.form.get "code_verifier" = some verifier ∧
    row.codeChallenge = some (pkceChallenge env verifier)
  clientId : token.clientId = row.clientId
  userId : token.userId = some row.userId
  scope : token.scope = row.scope

theorem token_redeems {events : List (Event Server)} {final : Handler Response} {token : Token}
    (named : request.form.get "grant_type" = some Grant.authorizationCode.name)
    (path : Performs (TokenEndpoint.token env request) events final)
    (saved : (⟨.command (.saveToken token), .ok ()⟩ : Event Server) ∈ events) :
    ∃ row, Redeems env request events token row := by
  have reads : ∀ {left : Handler Context} {part : List (Event Server)},
      Performs (preGrant env request) part left →
      (⟨.command (.saveToken token), .ok ()⟩ : Event Server) ∉ part :=
    fun path member => path.within (uses_pre_grant env request) _ member
  unfold TokenEndpoint.token at path
  rw [requested_grant named, pure_eq_done, Program.done_bind] at path
  rcases of_bind path with ⟨left, granting, _⟩ | ⟨context, earlier, later, split, passing, path⟩
  · exact absurd saved (reads granting)
  have within : (⟨.command (.saveToken token), .ok ()⟩ : Event Server) ∈ later := by
    rw [split, List.mem_append] at saved
    exact saved.resolve_left (reads passing)
  obtain ⟨row, checked, after, parts, passed, saving, clientId, userId, scope⟩ :=
    redemption_saves path within
  obtain ⟨code, before, between, now, given, read, timely⟩ := passed.read
  obtain ⟨verifier, verified⟩ := check_pkce_ok passed.pkce
  refine ⟨row, ⟨context, earlier, ⟨later, split.symm⟩, passing, passed.client.symm⟩,
    ⟨code, earlier ++ before, between ++ after, now, given, ?_, timely, ?_⟩, passed.unused,
    passed.redirectUri, ⟨verifier, verified⟩, clientId.trans passed.client.symm, userId, scope⟩
  · rw [split, parts, read]
    simp
  · exact List.mem_append_right _ saving

/-! ### The stored row -/

/-- The row is in the store, redeemed or not. -/
def Kept (row : AuthorizationCode) (world : World) : Prop :=
  ∃ current ∈ world.store.codes.rows, Backends.Spends row current

theorem spends_trans {first second third : AuthorizationCode} (earlier : Backends.Spends first second)
    (later : Backends.Spends second third) : Backends.Spends first third := by
  rcases earlier with rfl | rfl
  · exact later
  · rcases later with rfl | rfl
    · exact .inr rfl
    · exact .inr rfl

/-- No operation of the server drops the row of a code or changes its values. -/
theorem kept_step (env : Env) (row : AuthorizationCode) (op : Op) (world : World)
    (kept : Kept row world) : Kept row (env.interp op world).2 := by
  rcases op with read | write | act
  · exact kept
  · obtain ⟨current, member, spends⟩ := kept
    obtain ⟨next, later, spent⟩ :=
      (Backends.codes_step env.backend world.store write).persists Backends.Spends.refl member
    exact ⟨next, later, spends_trans spends spent⟩
  · exact kept

/-- A lookup of the code finds the row, and no other. -/
theorem kept_found {row found : AuthorizationCode} {world : World} (kept : Kept row world)
    (unused : row.used = false) (fresh : found.used = false)
    (looked : (env.interp (.query (.getAuthorizationCode row.code)) world).1 = some found) :
    found = row := by
  obtain ⟨current, member, spends⟩ := kept
  have sameCode : current.code = row.code := by
    rcases spends with rfl | rfl
    · rfl
    · rfl
  have first : world.store.codes.first (·.code == current.code) = some current :=
    world.store.codes.first_of_mem (List.mem_singleton.2 rfl) member
  rw [sameCode] at first
  have same : current = found := Option.some.inj (first.symm.trans looked)
  subst same
  rcases spends with same | rfl
  · exact same
  · cases fresh

/-! ### Both endpoints -/

/-- The redirect URI matches one the client has registered. -/
def MatchesRegistration (env : Env) (client : Client) (redirectUri : String) : Prop :=
  ∃ uris registered, redirectUriList env client = some uris ∧ Json.str registered ∈ uris ∧
    ClientUris.redirectUriMatches env.platform.lower registered redirectUri = some true

theorem any_matches_some {requested : String} {uris : List Json}
    (matched : anyMatches env requested uris = some true) :
    ∃ registered, Json.str registered ∈ uris ∧
      ClientUris.redirectUriMatches env.platform.lower registered requested = some true := by
  induction uris with
  | nil => cases matched
  | cons first rest induction =>
      unfold anyMatches at matched
      cases here : matchesRegistered env requested first with
      | none =>
          rw [here] at matched
          cases matched
      | some hit =>
          cases hit with
          | false =>
              rw [here] at matched
              obtain ⟨registered, member, same⟩ := induction matched
              exact ⟨registered, List.mem_cons_of_mem _ member, same⟩
          | true =>
              cases first with
              | str registered => exact ⟨registered, List.mem_cons_self, here⟩
              | _ =>
                  unfold matchesRegistered at here
                  dsimp only at here
                  split at here
                  · cases here
                  · simp at here

theorem matches_registration {client : Client} {redirectUri : String}
    (registered : Registered env client redirectUri) :
    MatchesRegistration env client redirectUri := by
  obtain ⟨uris, listed, matched⟩ := Option.bind_eq_some_iff.1 registered
  obtain ⟨uri, member, same⟩ := any_matches_some matched
  exact ⟨uris, uri, listed, member, same⟩

/-- The answer is an error page, the way to the login, or is addressed to a
redirect URI that matches a registered one of the client the query names. -/
def Addressed (front : FrontEnv) (query : String) (state : FrontWorld) (response : Response) : Prop :=
  Page response ∨ response = loginRedirect ∨
    ∃ (client : Client) (channel : Channel) (params : List (String × String)),
      client ∈ state.world.store.clients.rows ∧
      Form.get (QueryText.parseQsl query) "client_id" = some client.clientId ∧
      MatchesRegistration front.env client channel.redirectUri ∧
      deliver channel.mode channel.redirectUri params = .ok response

theorem authorize_addressed (front : FrontEnv) (query : String) (state : FrontWorld) :
    Addressed front query state ((authorize front.env query).respond front.interp state).1 := by
  rcases authorize_exits front query state with page | login | ⟨resolved, middle, resolution, sent⟩
  · exact .inl page
  · exact .inr (.inl login)
  · obtain ⟨channel, params, trusted, delivered, _⟩ := sent
    obtain ⟨_, named, service⟩ := resolved_client resolution
    exact .inr (.inr ⟨resolved.client, channel, params, service.stored, named,
      matches_registration trusted.registered, delivered⟩)

/-- What the row of a code says about the request it was issued on. `resolved`
is the request with its three sources merged. -/
structure CheckedCode (front : FrontEnv) (query : String) (state later : FrontWorld)
    (row : AuthorizationCode) (resolved : Resolved) : Prop where
  resolution : ∃ middle, (resolve front.env (QueryText.parseQsl query)).run front.interp state =
    (.ok resolved, middle)
  client : InService front state later resolved.client
  clientId : resolved.client.clientId = row.clientId
  granted : grantAllowed front.env resolved.client "authorization_code" = some true
  redirectUri : MatchesRegistration front.env resolved.client row.redirectUri
  scope : Text.split row.scope ⊆ Text.split resolved.client.scope
  challenge : ∃ challenge, row.codeChallenge = some challenge ∧ 43 ≤ challenge.toList.length ∧
    challenge.toList.length ≤ 128
  method : row.codeChallengeMethod = some "S256"
  user : state.session.userId = some row.userId
  age : ∀ age, (Form.get (QueryText.parseQsl query) "max_age").bind pyInt = some age →
    ∃ stamped reading, state.session.authTime = some stamped ∧
      During state.world later.world reading ∧
      epochSeconds (front.env.platform.clock reading) - stamped < age
  prompt : "login" ∉ promptValues (QueryText.parseQsl query) ∧
    "select_account" ∉ promptValues (QueryText.parseQsl query)
  acr : AcrSatisfied (resolved.merged.get "acr_values") state.session

theorem checked_of_cleared {front : FrontEnv} {query : String} {state later : FrontWorld}
    {row : AuthorizationCode} {resolved : Resolved} {request : CheckedRequest}
    (cleared : Cleared front query state later row resolved request) :
    CheckedCode front query state later row resolved := by
  have checked := cleared.checked
  have recorded := cleared.recorded
  have unforced := cleared.unforced
  unfold forceLogin at unforced
  simp only [Bool.or_eq_false_iff] at unforced
  refine
    { resolution := cleared.resolution
      client := cleared.client
      clientId := ?_
      granted := checked.granted
      redirectUri := ?_
      scope := ?_
      challenge := ⟨request.codeChallenge, recorded.codeChallenge, checked.challengeLength⟩
      method := recorded.codeChallengeMethod.trans checked.s256
      user := cleared.user
      age := cleared.age
      prompt := ⟨by simpa using unforced.1, by simpa using unforced.2⟩
      acr := checked.acrValues ▸ cleared.acr }
  · rw [recorded.clientId, ← checked.client]
    rfl
  · rw [recorded.redirectUri]
    exact matches_registration checked.trusted.registered
  · rw [recorded.scope]
    exact scope_is_subset_iff.1 checked.within

/-- What a program of a pool has done when the schedule has run. -/
def historyOf {ι : Type} [DecidableEq ι] (env : Env) (world : World) (programs : ι → Handler Unit)
    (schedule : List ι) (thread : ι) : List (Event Server) :=
  (Pool.exec env.interp (Pool.start world programs) schedule).history thread

/-- An answer in the history is one that a state of an invariant gave. -/
theorem answered_in_history {ι : Type} [DecidableEq ι] {world : World} {env : Env}
    (inv : World → Prop) (keeps : ∀ op world, inv world → inv (env.interp op world).2)
    (base : inv world) (programs : ι → Handler Unit) (schedule : List ι) (thread : ι) :
    ∀ event ∈ historyOf env world programs schedule thread,
      ∃ reached, inv reached ∧ event.answer = (env.interp event.op reached).1 :=
  Pool.answered_within env.interp inv keeps base programs schedule thread

/-- A later request on the code that saves a token redeems the row as it was issued. -/
theorem later_redemption {ι : Type} [DecidableEq ι] {world : World} {row : AuthorizationCode}
    (member : row ∈ world.store.codes.rows) (unused : row.used = false)
    (programs : ι → Handler Unit) (schedule : List ι) (thread : ι) {token : Token}
    (asks : programs thread = (ServerRequest.token request).program env)
    (named : request.form.get "grant_type" = some Grant.authorizationCode.name)
    (presented : request.form.get "code" = some row.code)
    (saved : (⟨.command (.saveToken token), .ok ()⟩ : Event Server) ∈
      historyOf env world programs schedule thread) :
    Redeems env request (historyOf env world programs schedule thread) token row := by
  have whole := Pool.performs_history env.interp world programs schedule thread
  rw [asks] at whole
  obtain ⟨left, path⟩ := of_map whole
  obtain ⟨found, redeems⟩ := token_redeems named path saved
  obtain ⟨code, before, after, now, given, read, _, _⟩ := redeems.read
  have sameCode : code = row.code := Option.some.inj (given.symm.trans presented)
  have happened : (⟨.query (.getAuthorizationCode code), some found⟩ : Event Server) ∈
      historyOf env world programs schedule thread := by
    unfold historyOf
    rw [read]
    exact List.mem_append_right _ List.mem_cons_self
  obtain ⟨reached, kept, answered⟩ := Pool.answered_within env.interp (Kept row)
    (kept_step env row) ⟨row, member, .inl rfl⟩ programs schedule thread _ happened
  have same : found = row := by
    refine @kept_found env row found reached kept unused redeems.unused ?_
    rw [← sameCode]
    exact answered.symm
  exact same ▸ redeems

/-- A code comes from a checked request and is bound to it: whatever else the
server does from then on, a token is issued on it to the same client only, for
the same redirect URI and the verifier of its challenge, and no later than its
expiry as it is read then. -/
theorem code_bound_to_checked_request (front : FrontEnv) (query : String) (state : FrontWorld) :
    let ran := (authorize front.env query).respond front.interp state
    Addressed front query state ran.1 ∧
      ∀ row ∈ ran.2.world.store.codes.rows, row ∉ state.world.store.codes.rows →
        (∃ resolved, CheckedCode front query state ran.2 row resolved) ∧
          ∀ (ι : Type) [DecidableEq ι] (programs : ι → Handler Unit) (schedule : List ι)
            (thread : ι) (request : Request) (token : Token),
            programs thread = (ServerRequest.token request).program front.env →
            request.form.get "grant_type" = some Grant.authorizationCode.name →
            request.form.get "code" = some row.code →
            (⟨.command (.saveToken token), .ok ()⟩ : Event Server) ∈
              historyOf front.env ran.2.world programs schedule thread →
            Redeems front.env request
              (historyOf front.env ran.2.world programs schedule thread) token row := by
  intro ran
  refine ⟨authorize_addressed front query state, ?_⟩
  intro row member new
  obtain ⟨resolved, request, cleared⟩ := saved_code (Prod.eta ran).symm member new
  refine ⟨⟨resolved, checked_of_cleared cleared⟩, ?_⟩
  intro ι _ programs schedule thread request token asks named presented saved
  exact later_redemption member cleared.recorded.unused programs schedule thread asks named
    presented saved

/-! ### A code redeemed as it expires -/

/-- A clock that stands still until a code is issued, and again at its expiry. -/
def leapingClock (reading : Nat) : Instant := if reading < 2 then 0 else seconds 600

def leapingFront : FrontEnv :=
  { frontEnv with
    env := { sampleEnv with platform := { samplePlatform with clock := leapingClock } } }

def codeParams : Form :=
  [("client_id", "app"), ("response_type", "code"), ("redirect_uri", "https://app.example/cb"),
    ("code_challenge_method", "S256"), ("code_challenge", sampleChallenge)]

/-- A browser in which the user is logged in. -/
def signedIn : FrontWorld :=
  { frontWorld true with session := { userId := some "alice", authTime := some 0 } }

def sampleAnswer : Response × FrontWorld :=
  (authorize leapingFront.env (QueryText.urlencode codeParams)).respond leapingFront.interp signedIn

theorem sample_answer_parsed : sampleAnswer =
    respond leapingFront.interp (do
      let resolved ← resolve leapingFront.env codeParams
      let request ← Program.ofExcept (checkRequest leapingFront.env resolved)
      let userId ← loginGate leapingFront.env (QueryText.urlencode codeParams) resolved.params
        request.channel
      finish leapingFront.env request userId) signedIn := by
  unfold sampleAnswer authorize
  rw [QueryText.parse_qsl_urlencode]

def sampleRow : AuthorizationCode :=
  { sampleCode with
    id := "random-0"
    code := "random-1"
    tokenFamily := some "random-2" }

theorem sample_codes : sampleAnswer.2.world.store.codes.rows = [sampleRow] ∧
    2 ≤ sampleAnswer.2.world.process.readings := by
  rw [sample_answer_parsed]
  decide +kernel

def redemption : Request where
  form := [("grant_type", "authorization_code"), ("client_id", "app"), ("code", "random-1"),
    ("redirect_uri", "https://app.example/cb"), ("code_verifier", sampleVerifier)]

def redeeming (_ : Unit) : Handler Unit := (ServerRequest.token redemption).program leapingFront.env

/-- The history of the redemption, handled alone. -/
def redeemed : List (Event Server) :=
  historyOf leapingFront.env sampleAnswer.2.world redeeming (List.replicate 30 ()) ()

def savedToken? (event : Event Server) : Option Token :=
  match event with
  | ⟨.command (.saveToken token), .ok _⟩ => some token
  | _ => none

theorem saved_of_nonempty {events : List (Event Server)}
    (saved : (events.filterMap savedToken?).isEmpty = false) :
    ∃ token, (⟨.command (.saveToken token), .ok ()⟩ : Event Server) ∈ events := by
  obtain ⟨token, listed⟩ := List.exists_mem_of_ne_nil (events.filterMap savedToken?) (by
    intro empty
    rw [empty] at saved
    cases saved)
  obtain ⟨event, member, read⟩ := List.mem_filterMap.1 listed
  unfold savedToken? at read
  split at read
  · cases read
    exact ⟨token, member⟩
  · cases read

theorem sample_saved : (redeemed.filterMap savedToken?).isEmpty = false := by
  unfold redeemed
  rw [sample_answer_parsed]
  decide +kernel

/-- The sample code is bound to its request. -/
theorem sample_code_bound :
    ∃ row token, (∃ resolved, CheckedCode leapingFront (QueryText.urlencode codeParams) signedIn
        sampleAnswer.2 row resolved) ∧
      Redeems leapingFront.env redemption redeemed token row := by
  have member : sampleRow ∈ sampleAnswer.2.world.store.codes.rows := by
    rw [sample_codes.1]
    exact List.mem_singleton.2 rfl
  have fresh : sampleRow ∉ signedIn.world.store.codes.rows := List.not_mem_nil
  obtain ⟨token, saved⟩ := saved_of_nonempty sample_saved
  unfold redeemed sampleAnswer at *
  obtain ⟨_, issued⟩ :=
    code_bound_to_checked_request leapingFront (QueryText.urlencode codeParams) signedIn
  obtain ⟨checked, bound⟩ := issued sampleRow member fresh
  exact ⟨sampleRow, token, checked,
    bound Unit redeeming _ () redemption token rfl (by decide +kernel) (by decide +kernel) saved⟩

/-- The clock has reached the expiry of the code when the code is checked, and
the code is redeemed all the same. -/
theorem code_redeemed_as_it_expires :
    ∃ row ∈ sampleAnswer.2.world.store.codes.rows, row ∉ signedIn.world.store.codes.rows ∧
      ∃ token before now after,
        redeemed = before ++ ⟨.query (.getAuthorizationCode row.code), some row⟩ ::
          ⟨.ambient .now, now⟩ :: after ∧
        (⟨.command (.saveToken token), .ok ()⟩ : Event Server) ∈ after ∧ ¬now < row.expiresAt := by
  have member : sampleRow ∈ sampleAnswer.2.world.store.codes.rows := by
    rw [sample_codes.1]
    exact List.mem_singleton.2 rfl
  have fresh : sampleRow ∉ signedIn.world.store.codes.rows := List.not_mem_nil
  obtain ⟨token, saved⟩ := saved_of_nonempty sample_saved
  have redeems : Redeems leapingFront.env redemption redeemed token sampleRow :=
    later_redemption member rfl redeeming _ () rfl (by decide +kernel) (by decide +kernel) saved
  obtain ⟨code, before, after, now, given, read, _, saving⟩ := redeems.read
  have sameCode : code = sampleRow.code :=
    Option.some.inj (given.symm.trans (show redemption.form.get "code" = some sampleRow.code by
      decide +kernel))
  have happened : (⟨.ambient .now, now⟩ : Event Server) ∈ redeemed := by
    rw [read]
    exact List.mem_append_right _ (List.mem_cons_of_mem _ List.mem_cons_self)
  let advanced (world : World) : Prop := 2 ≤ world.process.readings
  have start : advanced sampleAnswer.2.world := sample_codes.2
  have onward : ∀ op world, advanced world → advanced (leapingFront.env.interp op world).2 := by
    intro op world later
    have grown := @readings_grow _ _ leapingFront.env
      (Program.perform (S := Server) op : Handler _) world _ _ rfl
    exact later.trans grown
  obtain ⟨reached, later, answered⟩ :=
    answered_in_history advanced onward start redeeming _ () _ happened
  have stopped : now = leapingClock reached.process.readings := answered
  have expiring : leapingClock reached.process.readings = sampleRow.expiresAt := by
    unfold leapingClock
    rw [if_neg (not_lt.2 later)]
    rfl
  refine ⟨sampleRow, member, fresh, token, before, now, after, sameCode ▸ read, saving, ?_⟩
  rw [stopped, expiring]
  exact lt_irrefl _

end OAuth2Server.CodeBinding
