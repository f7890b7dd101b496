import OAuth2Server.Authorize
import OAuth2Server.Footprints

/-!
# How an authorization request ends

Every exit of the authorization endpoint is one of three: a page of its own, the
redirect to the login, or an answer delivered to a redirect URI that matches a
registered one. Which of them is possible depends on how far the request came.
-/

namespace OAuth2Server.AuthorizeExits

open OAuth2Server Models JsonText Effects Interaction Interaction.Program
open ClientAuth Endpoints Validation FrontChannel AuthorizeResponse RequestObject Authorize
open Footprints

set_option autoImplicit false

variable {env : Env}

/-- An error shown to the user, not sent anywhere. -/
def Page (response : Response) : Prop := 400 ≤ response.status

/-- The redirect URI matches one of the client's. -/
def Registered (env : Env) (client : Client) (redirectUri : String) : Prop :=
  (redirectUriList env client).bind (anyMatches env redirectUri) = some true

/-- The channel of a request: its own redirect URI, one of the client's, and no
query for the hybrid flow. -/
structure Trusted (env : Env) (resolved : Resolved) (channel : Channel) : Prop where
  redirectUri : resolved.merged.get "redirect_uri" = some channel.redirectUri
  registered : Registered env resolved.client channel.redirectUri
  state : channel.state = resolved.merged.get "state"
  mode : channel.mode = .query → resolved.hybrid = false

/-- An answer addressed to the redirect URI of the request, which is one of the
client's. No identity token travels in a query. -/
def Delivered (env : Env) (resolved : Resolved) (response : Response) : Prop :=
  ∃ channel params, Trusted env resolved channel ∧
    deliver channel.mode channel.redirectUri params = .ok response ∧
    (channel.mode = .query → ∀ pair ∈ params, pair.1 ≠ "id_token")

def Answered (env : Env) (resolved : Resolved) (response : Response) : Prop :=
  Page response ∨ Delivered env resolved response

/-! ### Pages -/

theorem page_error_page {status : Nat} (error description : String) (failed : 400 ≤ status) :
    Page (errorPage status error description) := failed

theorem page_internal : Page internalServerError := by
  show 400 ≤ 500
  omega

theorem page_oauth_error (raised : Raised) : Page (oauthErrorPage raised) := by
  cases raised with
  | oauth error description => exact page_error_page _ _ (by decide)
  | dpop error description => exact page_internal
  | other => exact page_internal

theorem page_answer_raised (raised : Raised) : Page (TokenEndpoint.answerRaised raised) := by
  have status : ∀ error description, Page (oauthError error description) := by
    intro error description
    unfold Page oauthError
    dsimp only
    split <;> omega
  cases raised with
  | oauth error description => exact status error description
  | dpop error description => exact status error (some description)
  | other => exact page_internal

/-! ### Delivery -/

theorem mem_present {pairs : List (String × Option String)} {pair : String × String} :
    pair ∈ present pairs ↔ (pair.1, some pair.2) ∈ pairs := by
  unfold present
  rw [List.mem_filterMap]
  constructor
  · intro ⟨source, listed, kept⟩
    obtain ⟨value, given, rfl⟩ := Option.map_eq_some_iff.1 kept
    rw [← given]
    exact listed
  · intro listed
    exact ⟨(pair.1, some pair.2), listed, rfl⟩

theorem answered_deliver_error {resolved : Resolved} (channel : Channel)
    (trusted : Trusted env resolved channel) (error : String) (description : Option String) :
    Answered env resolved (channel.deliverError env error description) := by
  unfold Channel.deliverError
  cases delivered : errorResponse channel.mode channel.redirectUri error description channel.state
      env.config.issuer with
  | error raised => exact .inl (page_oauth_error raised)
  | ok response =>
      right
      refine ⟨channel, _, trusted, delivered, ?_⟩
      intro query pair listed
      rw [query, mem_present] at listed
      rintro named
      simp [named] at listed

theorem answered_answer {resolved : Resolved} (channel : Channel)
    (trusted : Trusted env resolved channel) (raised : Raised) :
    Answered env resolved (channel.answer env raised) := by
  cases raised with
  | oauth error description => exact answered_deliver_error channel trusted _ _
  | dpop error description => exact .inl page_internal
  | other => exact .inl page_internal

/-! ### Programs of the token server -/

section OnServer

variable {α : Type}

theorem uses_front {ε : Type} {raises : ε → Prop} {allowed : FrontOp → Prop} (op : FrontOp)
    (within : allowed op) :
    Uses (S := Front) allowed raises (FrontChannel.perform op : Program Front ε op.Ans) :=
  ⟨within, fun _ => trivial⟩

theorem uses_on_server {ε : Type} {raises : ε → Prop} {footprint : Op → Prop}
    {allowed : FrontOp → Prop} (within : ∀ op, footprint op → allowed (.server op))
    {program : Program Server ε α} (uses : Uses (S := Server) footprint raises program) :
    Uses (S := Front) allowed raises (onServer program) := by
  induction program with
  | done value => trivial
  | fail error => exact uses
  | call op next induction =>
      exact ⟨within op uses.1, fun answer => induction answer (uses.2 answer)⟩

theorem uses_on_server_answered {allowed : FrontOp → Prop} {raises : Response → Prop}
    {handler : Raised → Response} (within : ∀ op, allowed (.server op))
    (answers : ∀ raised, raises (handler raised)) (service : Service α) :
    Uses (S := Front) allowed raises (onServer (service.mapError handler)) := by
  induction service with
  | done value => trivial
  | fail raised => exact answers raised
  | call op next induction => exact ⟨within op, induction⟩

end OnServer

/-! ### Steps 0 to 2c -/

/-- The operations of the first steps: the store of pushed requests, and the token server. -/
def Resolving : FrontOp → Prop
  | .server _ | .takePar _ => True
  | _ => False

theorem uses_resolve_pushed (params : Form) :
    Uses (S := Front) Resolving Page (resolvePushed params) := by
  unfold resolvePushed
  cases params.get "request_uri" with
  | none => trivial
  | some requestUri =>
      dsimp only
      apply Uses.bind (uses_front _ (by trivial))
      intro taken
      cases taken with
      | none => exact page_error_page _ _ (by decide)
      | some entry =>
          dsimp only
          apply Uses.bind ((uses_reject_if _ _).2 fun _ => page_error_page _ _ (by decide))
          intro _
          trivial

theorem uses_decided_client {allowed : FrontOp → Prop} (clientId : Option String)
    (found : Option Client) (denylisted : Option String) :
    Uses (S := Front) allowed Page (do
      rejectIf clientId.isNone (errorPage 400 "invalid_request" "client_id is required")
      match found with
      | none => throw unknownClient
      | some client => do
          rejectIf (!client.enabled || denylisted.isSome) unknownClient
          pure client : FrontHandler Client) := by
  have unknown : Page unknownClient := page_error_page _ _ (by decide)
  apply Uses.bind ((uses_reject_if _ _).2 fun _ => page_error_page _ _ (by decide))
  intro _
  cases found with
  | none => exact unknown
  | some client => exact ((uses_reject_if _ _).2 fun _ => unknown).bind fun _ => trivial

theorem uses_known_client {allowed : FrontOp → Prop} (within : ∀ op, allowed (.server op))
    (clientId : Option String) : Uses (S := Front) allowed Page (knownClient clientId) := by
  unfold knownClient
  cases clientId.filter (· != "") with
  | none => exact uses_decided_client clientId none none
  | some id =>
      dsimp only
      apply Uses.bind (uses_on_server (fun op (_ : True) => within op) (uses_query _ trivial))
      intro found
      apply Uses.bind (uses_on_server (fun op _ => within op)
        (uses_check_subject_denylisted Page "client_id" id))
      intro denylisted
      exact uses_decided_client clientId found denylisted

theorem uses_overlay_jar {allowed : FrontOp → Prop} (within : ∀ op, allowed (.server op))
    (env : Env) (client : Client) (params merged : Form) :
    Uses (S := Front) allowed Page (overlayJar env client params merged) := by
  unfold overlayJar
  cases params.get "request" with
  | none => trivial
  | some requestJwt =>
      dsimp only
      apply Uses.bind (uses_on_server_answered within page_oauth_error _)
      intro claims
      apply Uses.bind ((uses_reject_if _ _).2 fun _ => page_error_page _ _ (by decide))
      intro _
      trivial

/-- A request that is not resolved ends on a page. -/
theorem uses_resolve (env : Env) (params : Form) :
    Uses (S := Front) Resolving Page (resolve env params) := by
  unfold resolve
  apply Uses.bind ((uses_reject_if _ _).2 fun _ => page_error_page _ _ (by decide))
  intro _
  apply Uses.bind (uses_resolve_pushed _)
  intro merged
  apply Uses.bind (uses_known_client (fun _ => trivial) _)
  intro client
  apply Uses.bind ((uses_reject_if _ _).2 fun _ => page_error_page _ _ (by decide))
  intro _
  exact uses_overlay_jar (fun _ => trivial) env client _ merged

/-- The steps of a request that is resolved. -/
theorem resolve_ok {params : Form} {interp : Interpretation Front FrontWorld}
    {state later : FrontWorld} {resolved : Resolved}
    (ran : (resolve env params).run interp state = (.ok resolved, later)) :
    ∃ merged client pushed known,
      (params.map Prod.fst).Nodup ∧
      (resolvePushed params).run interp state = (.ok merged, pushed) ∧
      (knownClient (params.get "client_id")).run interp pushed = (.ok client, known) ∧
      (client.requireState = true → (params.get "state").isSome = true) ∧
      (overlayJar env client params merged).run interp known = (.ok resolved, later) := by
  unfold resolve at ran
  obtain ⟨distinct, ran⟩ := run_reject_bind_eq_ok ran
  obtain ⟨merged, pushed, taken, ran⟩ := run_bind_eq_ok ran
  obtain ⟨client, known, found, ran⟩ := run_bind_eq_ok ran
  obtain ⟨stated, overlaid⟩ := run_reject_bind_eq_ok ran
  refine ⟨merged, client, pushed, known, by simpa using distinct, taken, found, ?_, overlaid⟩
  intro required
  rw [required, Bool.true_and] at stated
  simpa using stated

/-- The parameters of the query are carried along. -/
theorem overlay_jar_params {client : Client} {params merged : Form}
    {interp : Interpretation Front FrontWorld} {state later : FrontWorld} {resolved : Resolved}
    (ran : (overlayJar env client params merged).run interp state = (.ok resolved, later)) :
    resolved.params = params ∧ resolved.client = client := by
  unfold overlayJar at ran
  cases presented : params.get "request" with
  | none =>
      rw [presented] at ran
      cases ran
      exact ⟨rfl, rfl⟩
  | some requestJwt =>
      rw [presented] at ran
      dsimp only at ran
      obtain ⟨claims, middle, _, ran⟩ := run_bind_eq_ok ran
      obtain ⟨_, built⟩ := run_reject_bind_eq_ok ran
      cases built
      exact ⟨rfl, rfl⟩

/-! ### Steps 3 and 4 -/

theorem raising_reject_when {raises : Response → Prop} {condition : Bool} {response : Response}
    (raised : raises response) : Raising raises (rejectWhen condition response) := by
  unfold rejectWhen
  split
  · exact (raising_error _).2 raised
  · exact raising_ok _

theorem raising_map_error {ε α : Type} {raises : Response → Prop} {handler : ε → Response}
    (answers : ∀ error, raises (handler error)) (outcome : Except ε α) :
    Raising raises (outcome.mapError handler) := by
  cases outcome with
  | ok value => exact raising_ok _
  | error error => exact (raising_error _).2 (answers error)

theorem raising_bind_ok {ε α β : Type} {raises : ε → Prop} {outcome : Except ε α}
    {rest : α → Except ε β} (raising : Raising raises outcome)
    (later : ∀ value, outcome = .ok value → Raising raises (rest value)) :
    Raising raises (outcome >>= rest) := by
  cases outcome with
  | error error => exact (raising_error error).2 (raising error rfl)
  | ok value => exact later value rfl

theorem trusted_redirect_registered {resolved : Resolved} {redirectUri : String}
    (trusted : trustedRedirect env resolved = .ok redirectUri) :
    resolved.merged.get "redirect_uri" = some redirectUri ∧ redirectUri ≠ "" ∧
      Registered env resolved.client redirectUri := by
  unfold trustedRedirect at trusted
  cases presented : (resolved.merged.get "redirect_uri").filter (· != "") with
  | none => simp [presented] at trusted
  | some uri =>
      rw [presented] at trusted
      dsimp only at trusted
      split at trusted
      · cases trusted
      · cases trusted
      · rename_i matched
        cases trusted
        have kept := Option.filter_eq_some_iff.1 presented
        exact ⟨kept.1, by simpa using kept.2, matched⟩

theorem raising_trusted_redirect (env : Env) (resolved : Resolved) :
    Raising Page (trustedRedirect env resolved) := by
  have unregistered : Page unregisteredRedirect := page_error_page _ _ (by decide)
  unfold trustedRedirect
  split
  · exact (raising_error _).2 unregistered
  · split
    · exact (raising_error _).2 page_internal
    · exact (raising_error _).2 unregistered
    · exact raising_ok _

theorem raising_trusted_channel (env : Env) (resolved : Resolved) :
    Raising Page (trustedChannel env resolved) := by
  unfold trustedChannel
  apply Raising.bind (raising_trusted_redirect env resolved)
  intro redirectUri
  dsimp only
  apply Raising.bind (raising_map_error page_oauth_error _)
  intro mode
  exact raising_pure _

theorem map_error_eq_ok {ε δ α : Type} {handler : ε → δ} {outcome : Except ε α} {value : α}
    (ok : outcome.mapError handler = .ok value) : outcome = .ok value := by
  cases outcome with
  | error error => cases ok
  | ok found =>
      cases ok
      rfl

/-- The hybrid flow has no query mode. -/
theorem resolve_mode_query {requested : Option String} {hybrid : Bool}
    (accepted : resolveResponseMode requested hybrid = .ok .query) : hybrid = false := by
  cases hybrid with
  | false => rfl
  | true =>
      unfold resolveResponseMode at accepted
      cases requested with
      | none => cases accepted
      | some text =>
          dsimp only at accepted
          cases parsed : ResponseMode.parse text with
          | none =>
              rw [parsed] at accepted
              cases accepted
          | some mode =>
              rw [parsed] at accepted
              cases mode <;> cases accepted

/-- What the checks of the redirect URI and of the mode establish. -/
theorem trusted_channel_spec {resolved : Resolved} {channel : Channel}
    (trusted : trustedChannel env resolved = .ok channel) : Trusted env resolved channel := by
  unfold trustedChannel at trusted
  obtain ⟨redirectUri, redirected, rest⟩ := except_bind_eq_ok.1 trusted
  dsimp only at rest
  obtain ⟨mode, accepted, built⟩ := except_bind_eq_ok.1 rest
  cases built
  obtain ⟨presented, _, registered⟩ := trusted_redirect_registered redirected
  have answered := map_error_eq_ok accepted
  exact
    { redirectUri := presented
      registered := registered
      state := rfl
      mode := fun asQuery => resolve_mode_query (by rw [answered, show mode = .query from asQuery]) }

section Checks

variable {resolved : Resolved} {channel : Channel}

theorem raising_check_grant (trusted : Trusted env resolved channel) :
    Raising (Answered env resolved) (checkGrant env resolved channel) := by
  have delivered := answered_deliver_error channel trusted
  unfold checkGrant
  dsimp only
  split
  · apply Raising.bind (raising_reject_when (delivered _ _))
    intro _
    apply Raising.bind (raising_reject_when (delivered _ _))
    intro _
    apply Raising.bind (raising_reject_when (delivered _ _))
    intro _
    exact raising_reject_when (delivered _ _)
  · exact (raising_throw _).2 (.inl page_internal)

theorem raising_check_challenge (merged : Form)
    (trusted : Trusted env resolved channel) :
    Raising (Answered env resolved) (checkChallenge env merged channel) := by
  have delivered := answered_deliver_error channel trusted
  unfold checkChallenge
  dsimp only
  split
  · apply Raising.bind (raising_reject_when (delivered _ _))
    intro _
    apply Raising.bind (raising_reject_when (delivered _ _))
    intro _
    exact raising_pure _
  · exact (raising_throw _).2 (delivered _ _)

theorem raising_check_details (details : Option String)
    (trusted : Trusted env resolved channel) :
    Raising (Answered env resolved) (checkAuthorizationDetails env channel details) := by
  unfold checkAuthorizationDetails
  split
  · exact raising_ok _
  · exact (raising_map _ _).2
      (raising_map_error (answered_answer channel trusted) _)

theorem raising_check_claims (claimsRequest : Option String)
    (trusted : Trusted env resolved channel) :
    Raising (Answered env resolved) (checkClaimsRequest env channel claimsRequest) := by
  have delivered := answered_deliver_error channel trusted
  unfold checkClaimsRequest
  dsimp only
  split
  · exact raising_ok _
  · split
    · exact (raising_error _).2 (delivered _ _)
    · exact (raising_error _).2 (delivered _ _)
    · exact (raising_error _).2 (.inl page_internal)
    · exact raising_reject_when (delivered _ _)

end Checks

/-- A request that fails a check ends on a page, or is answered at a registered URI. -/
theorem raising_check_request (env : Env) (resolved : Resolved) :
    Raising (Answered env resolved) (checkRequest env resolved) := by
  have pages : Raising (Answered env resolved) (trustedChannel env resolved) := by
    intro response failed
    exact .inl (raising_trusted_channel env resolved response failed)
  unfold checkRequest
  dsimp only
  apply raising_bind_ok pages
  intro channel accepted
  have trusted := trusted_channel_spec accepted
  apply Raising.bind (raising_check_grant trusted)
  intro _
  apply Raising.bind (raising_check_challenge _ trusted)
  intro challenge
  apply Raising.bind (raising_check_details _ trusted)
  intro _
  apply Raising.bind (raising_map_error (answered_answer channel trusted) _)
  intro resource
  apply Raising.bind (raising_check_claims _ trusted)
  intro _
  apply Raising.bind
    (raising_reject_when (answered_deliver_error channel trusted _ _))
  intro _
  exact raising_pure _

/-! ### What the checks establish -/

theorem reject_when_ok {condition : Bool} {response : Response} {value : Unit}
    (passed : rejectWhen condition response = .ok value) : condition = false := by
  unfold rejectWhen at passed
  cases condition with
  | true => cases passed
  | false => rfl

/-- A request that passed every check, with the values the checks were made on. -/
structure Checked (env : Env) (resolved : Resolved) (request : CheckedRequest) : Prop where
  client : request.client = resolved.client
  hybrid : request.hybrid = resolved.hybrid
  trusted : Trusted env resolved request.channel
  granted : grantAllowed env resolved.client "authorization_code" = some true
  responseType : resolved.hasRequestObject = false → supported resolved.responseType = true
  scope : request.scope = requestedScope resolved.merged
  within : scopeIsSubset request.scope resolved.client.scope = true
  codeChallenge : resolved.merged.get "code_challenge" = some request.codeChallenge
  codeChallengeMethod : request.codeChallengeMethod = resolved.merged.get "code_challenge_method"
  s256 : request.codeChallengeMethod = some "S256"
  challengeLength : 43 ≤ request.codeChallenge.toList.length ∧
    request.codeChallenge.toList.length ≤ 128
  nonce : request.nonce = resolved.merged.get "nonce"
  hybridNonce : resolved.hybrid = true → Text.truthy request.nonce = true
  authorizationDetails : request.authorizationDetails = resolved.merged.get "authorization_details"
  resource : request.resource = resolved.merged.get "resource"
  claimsRequest : request.claimsRequest = resolved.merged.get "claims"
  dpopJkt : request.dpopJkt = resolved.merged.get "dpop_jkt"
  thumbprint : ∀ jkt, request.dpopJkt = some jkt → isDpopJkt jkt = true
  acrValues : request.acrValues = resolved.merged.get "acr_values"

theorem check_grant_ok {resolved : Resolved} {channel : Channel} {value : Unit}
    (passed : checkGrant env resolved channel = .ok value) :
    grantAllowed env resolved.client "authorization_code" = some true ∧
      (resolved.hasRequestObject = false → supported resolved.responseType = true) ∧
      (resolved.hybrid = true → Text.truthy (resolved.merged.get "nonce") = true) ∧
      scopeIsSubset (requestedScope resolved.merged) resolved.client.scope = true := by
  unfold checkGrant at passed
  dsimp only at passed
  split at passed
  · rename_i allowed listed
    obtain ⟨_, grant, passed⟩ := except_bind_eq_ok.1 passed
    obtain ⟨_, type, passed⟩ := except_bind_eq_ok.1 passed
    obtain ⟨_, nonce, within⟩ := except_bind_eq_ok.1 passed
    have granted := reject_when_ok grant
    have typed := reject_when_ok type
    have bound := reject_when_ok nonce
    have subset := reject_when_ok within
    simp only [Bool.not_eq_false'] at granted subset
    refine ⟨by rw [listed, granted], ?_, ?_, subset⟩
    · intro plain
      simpa [plain] using typed
    · intro hybrid
      simpa [hybrid] using bound
  · cases passed

theorem check_challenge_ok {merged : Form} {channel : Channel} {challenge : String}
    (passed : checkChallenge env merged channel = .ok challenge) :
    merged.get "code_challenge" = some challenge ∧
      merged.get "code_challenge_method" = some "S256" ∧
      43 ≤ challenge.toList.length ∧ challenge.toList.length ≤ 128 := by
  unfold checkChallenge at passed
  dsimp only at passed
  split at passed
  · rename_i found presented
    obtain ⟨_, method, passed⟩ := except_bind_eq_ok.1 passed
    obtain ⟨_, length, same⟩ := except_bind_eq_ok.1 passed
    cases same
    have methods := reject_when_ok method
    have lengths := reject_when_ok length
    simp only [bne_eq_false_iff_eq] at methods
    simp only [Bool.not_eq_false', Bool.and_eq_true, decide_eq_true_eq] at lengths
    exact ⟨(Option.filter_eq_some_iff.1 presented).1, methods, lengths⟩
  · cases passed

theorem check_request_ok {resolved : Resolved} {request : CheckedRequest}
    (passed : checkRequest env resolved = .ok request) : Checked env resolved request := by
  unfold checkRequest at passed
  dsimp only at passed
  obtain ⟨channel, trusted, passed⟩ := except_bind_eq_ok.1 passed
  obtain ⟨_, grant, passed⟩ := except_bind_eq_ok.1 passed
  obtain ⟨challenge, pkce, passed⟩ := except_bind_eq_ok.1 passed
  obtain ⟨_, _, passed⟩ := except_bind_eq_ok.1 passed
  obtain ⟨resource, target, passed⟩ := except_bind_eq_ok.1 passed
  obtain ⟨_, _, passed⟩ := except_bind_eq_ok.1 passed
  obtain ⟨_, jkt, built⟩ := except_bind_eq_ok.1 passed
  obtain ⟨granted, responseType, nonce, within⟩ := check_grant_ok grant
  obtain ⟨codeChallenge, method, shortest, longest⟩ := check_challenge_ok pkce
  have validated : validateResource (resolved.merged.get "resource") = .ok resource := by
    cases outcome : validateResource (resolved.merged.get "resource") with
    | error raised => simp [outcome, Except.mapError] at target
    | ok found =>
        rw [outcome] at target
        cases target
        rfl
  have thumbprint := reject_when_ok jkt
  cases built
  refine
    { client := rfl
      hybrid := rfl
      trusted := trusted_channel_spec trusted
      granted := granted
      responseType := responseType
      scope := rfl
      within := within
      codeChallenge := codeChallenge
      codeChallengeMethod := rfl
      s256 := method
      challengeLength := ⟨shortest, longest⟩
      nonce := rfl
      hybridNonce := nonce
      authorizationDetails := rfl
      resource := validate_resource_eq validated
      claimsRequest := rfl
      dpopJkt := rfl
      thumbprint := ?_
      acrValues := rfl }
  intro value present
  have presented : resolved.merged.get "dpop_jkt" = some value := present
  rw [presented] at thumbprint
  simpa using thumbprint

/-! ### The gate -/

/-- `auth_expired`, with the time read now. -/
def expiredNow (front : FrontEnv) (maxAge : Option String) (authTime : Option Int)
    (state : FrontWorld) : Bool :=
  match maxAge.bind pyInt, authTime with
  | none, _ => false
  | some _, none => true
  | some maxAgeSecs, some stamped => decide ((maxAgeSecs : ℚ) ≤ front.time state - stamped)

/-- The clock is read when there are two times to compare. -/
def afterExpiry (maxAge : Option String) (authTime : Option Int) (state : FrontWorld) : FrontWorld :=
  match maxAge.bind pyInt, authTime with
  | some _, some _ => state.read
  | _, _ => state

theorem auth_expired_run (front : FrontEnv) (maxAge : Option String) (authTime : Option Int)
    (state : FrontWorld) :
    (authExpired maxAge authTime).run front.interp state =
      (.ok (expiredNow front maxAge authTime state), afterExpiry maxAge authTime state) := by
  unfold authExpired expiredNow afterExpiry
  cases maxAge.bind pyInt with
  | none => rfl
  | some maxAgeSecs =>
      cases authTime with
      | none => rfl
      | some stamped => rfl

theorem after_expiry_session (maxAge : Option String) (authTime : Option Int)
    (state : FrontWorld) :
    (afterExpiry maxAge authTime state).session = state.session ∧
      (afterExpiry maxAge authTime state).parStore = state.parStore ∧
      (afterExpiry maxAge authTime state).world.store = state.world.store := by
  unfold afterExpiry
  split
  · exact ⟨rfl, rfl, rfl⟩
  · exact ⟨rfl, rfl, rfl⟩

/-- The user the gate lets through. -/
def admittedUser (front : FrontEnv) (params : Form) (state : FrontWorld) : Option String :=
  state.session.userId.filter fun _ =>
    !(forceLogin params || expiredNow front (params.get "max_age") state.session.authTime state)

/-- Every way through the gate. -/
theorem login_gate_run (front : FrontEnv) (query : String) (params : Form) (channel : Channel)
    (state : FrontWorld) :
    (loginGate front.env query params channel).run front.interp state =
      let asked := promptValues params
      let later := afterExpiry (params.get "max_age") state.session.authTime state
      if asked.contains "none" && decide (1 < asked.length) then
        (.error (channel.deliverError front.env "invalid_request"
          (some "prompt=none cannot be combined with other values")), state)
      else match admittedUser front params state with
        | some userId => (.ok userId, later)
        | none =>
            if asked.contains "none" then
              (.error (channel.deliverError front.env "login_required"
                (some "User is not authenticated and prompt=none was requested")), later)
            else (.error loginRedirect, (front.interp (.setReturnTo (returnTarget query)) later).2) := by
  unfold loginGate
  dsimp only
  rw [run_bind]
  by_cases combined : ((promptValues params).contains "none" &&
      decide (1 < (promptValues params).length)) = true
  · rw [combined]
    rfl
  · simp only [Bool.not_eq_true] at combined
    rw [combined]
    show ((FrontChannel.perform .session >>= fun session => _ :
      FrontHandler String)).run front.interp state = _
    have read : front.interp .session state = (state.session, state) := rfl
    rw [run_perform_bind, read, run_bind, auth_expired_run]
    dsimp only
    unfold admittedUser
    cases state.session.userId.filter fun _ => !(forceLogin params ||
        expiredNow front (params.get "max_age") state.session.authTime state) with
    | some userId => rfl
    | none =>
        cases (promptValues params).contains "none" with
        | true => rfl
        | false => rfl

/-! ### The answer -/

theorem uses_hybrid_id_token (env : Env) (request : CheckedRequest) (session : Session)
    (userId code : String) :
    Uses (S := Front) (fun _ => True) Page (hybridIdToken env request session userId code) := by
  unfold hybridIdToken
  split
  · apply Uses.bind (uses_on_server (fun _ (_ : True) => trivial) (uses_query _ trivial))
    intro user
    apply Uses.bind (uses_on_server_answered (fun _ => trivial) page_answer_raised _)
    intro minted
    cases minted with
    | ok token => trivial
    | error message => exact page_error_page _ _ (by decide)
  · trivial

section Finish

variable {resolved : Resolved} {request : CheckedRequest} (userId : String)

/-- Only the hybrid flow has an identity token. -/
theorem yields_hybrid_id_token (env : Env) (request : CheckedRequest) (session : Session)
    (code : String) (plain : request.hybrid = false) :
    Yields (S := Front) (fun idToken => idToken = none)
      (hybridIdToken env request session userId code) := by
  unfold hybridIdToken
  rw [plain]
  rfl

/-- Early or late, the answer is a page or goes to the redirect URI. -/
theorem finish_answers (checked : Checked env resolved request) :
    Uses (S := Front) (fun _ => True) (Answered env resolved) (finish env request userId) ∧
      Yields (Answered env resolved) (finish env request userId) := by
  have pages : ∀ response, Page response → Answered env resolved response :=
    fun _ page => .inl page
  have answered : ∀ code idToken,
      Raising (Answered env resolved) ((successResponse request.channel.mode
        request.channel.redirectUri code request.channel.state env.config.issuer
        idToken).mapError oauthErrorPage) := by
    intro code idToken
    exact raising_map_error (fun raised => pages _ (page_oauth_error raised)) _
  constructor
  · unfold finish
    apply Uses.bind (uses_front _ trivial)
    intro session
    dsimp only
    apply Uses.bind ((uses_reject_if _ _).2 fun _ =>
      answered_deliver_error request.channel checked.trusted _ _)
    intro _
    apply Uses.bind (uses_on_server_answered (fun _ => trivial)
      (fun raised => pages _ (page_answer_raised raised)) _)
    intro row
    apply Uses.bind ((uses_hybrid_id_token env request session userId row.code).mono
      (fun _ any => any) pages)
    intro idToken
    exact (uses_of_except _).2 (answered row.code idToken)
  · unfold finish
    apply yields_bind
    intro session
    apply yields_bind
    intro _
    apply yields_bind
    intro row
    have absent : Yields (S := Front)
        (fun idToken => request.channel.mode = .query → idToken = none)
        (hybridIdToken env request session userId row.code) := by
      by_cases plain : request.hybrid = false
      · exact (yields_hybrid_id_token userId env request session row.code plain).mono
          fun _ none _ => none
      · apply (yields_any _).mono
        intro idToken _ query
        exact absurd (checked.hybrid.trans (checked.trusted.mode query)) plain
    apply absent.bind
    intro idToken none
    apply (yields_of_except _).2
    intro response built
    right
    refine ⟨request.channel, _, checked.trusted, map_error_eq_ok built, ?_⟩
    intro query pair listed
    rw [query, none query, mem_present] at listed
    rintro named
    simp [named] at listed

theorem finish_answered (interp : Interpretation Front FrontWorld) (state : FrontWorld)
    (checked : Checked env resolved request) :
    Answered env resolved ((finish env request userId).respond interp state).1 := by
  obtain ⟨raises, yields⟩ := finish_answers userId checked
  have answer : ((finish env request userId).respond interp state).1 =
      ((finish env request userId).respond interp state).1 := rfl
  obtain ⟨later, ok | refused⟩ := respond_cases answer
  · exact Yields.run yields ok
  · exact Uses.run_raises raises refused

end Finish

/-! ### The whole request -/

/-- The steps of a request, one after the other. -/
theorem authorize_run (env : Env) (query : String) (interp : Interpretation Front FrontWorld)
    (state : FrontWorld) :
    (authorize env query).run interp state =
      match (resolve env (QueryText.parseQsl query)).run interp state with
      | (.error page, later) => (.error page, later)
      | (.ok resolved, middle) =>
          match checkRequest env resolved with
          | .error response => (.error response, middle)
          | .ok request =>
              match (loginGate env query resolved.params request.channel).run interp middle with
              | (.error response, later) => (.error response, later)
              | (.ok userId, later) => (finish env request userId).run interp later := by
  unfold authorize
  rw [run_bind]
  cases (resolve env (QueryText.parseQsl query)).run interp state with
  | mk outcome middle =>
      cases outcome with
      | error page => rfl
      | ok resolved =>
          dsimp only
          rw [run_bind]
          cases checkRequest env resolved with
          | error response => rfl
          | ok request =>
              show ((loginGate env query resolved.params request.channel >>= fun userId =>
                finish env request userId : FrontHandler Response)).run interp middle = _
              rw [run_bind]
              dsimp only
              cases (loginGate env query resolved.params request.channel).run interp middle with
              | mk gated later => cases gated <;> rfl

/-- How a request ends: on a page, at the login, or at the redirect URI it was resolved with. -/
def Exits (front : FrontEnv) (query : String) (state : FrontWorld) (response : Response) : Prop :=
  Page response ∨ response = loginRedirect ∨
    ∃ resolved middle,
      (resolve front.env (QueryText.parseQsl query)).run front.interp state =
        (.ok resolved, middle) ∧
      Delivered front.env resolved response

/-- A request the gate does not let through. -/
theorem login_gate_refuses {front : FrontEnv} {query : String} {resolved : Resolved}
    {request : CheckedRequest} {state later : FrontWorld} {response : Response}
    (checked : Checked front.env resolved request)
    (gated : (loginGate front.env query resolved.params request.channel).run front.interp state =
      (.error response, later)) :
    response = loginRedirect ∨ Answered front.env resolved response := by
  have answered := answered_deliver_error request.channel checked.trusted
  rw [login_gate_run] at gated
  dsimp only at gated
  split at gated
  · cases gated
    exact .inr (answered _ _)
  · split at gated
    · cases gated
    · split at gated
      · cases gated
        exact .inr (answered _ _)
      · cases gated
        exact .inl rfl

theorem authorize_exits (front : FrontEnv) (query : String) (state : FrontWorld) :
    Exits front query state ((authorize front.env query).respond front.interp state).1 := by
  have answered : ∀ {resolved middle response},
      (resolve front.env (QueryText.parseQsl query)).run front.interp state =
        (.ok resolved, middle) → Answered front.env resolved response →
      Exits front query state response := by
    intro resolved middle response resolution answer
    cases answer with
    | inl page => exact .inl page
    | inr delivered => exact .inr (.inr ⟨resolved, middle, resolution, delivered⟩)
  unfold respond
  rw [authorize_run]
  cases resolution : (resolve front.env (QueryText.parseQsl query)).run front.interp state with
  | mk outcome middle =>
      cases outcome with
      | error page => exact .inl (Uses.run_raises (uses_resolve front.env _) resolution)
      | ok resolved =>
          dsimp only
          cases checked : checkRequest front.env resolved with
          | error response =>
              exact answered resolution (raising_check_request front.env resolved response checked)
          | ok request =>
              have passed := check_request_ok checked
              dsimp only
              cases gated : (loginGate front.env query resolved.params request.channel).run
                  front.interp middle with
              | mk passage later =>
                  cases passage with
                  | error response =>
                      cases login_gate_refuses passed gated with
                      | inl login => exact .inr (.inl login)
                      | inr answer => exact answered resolution answer
                  | ok userId =>
                      exact answered resolution
                        (finish_answered userId front.interp later passed)

end OAuth2Server.AuthorizeExits
