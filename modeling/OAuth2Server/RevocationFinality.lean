import OAuth2Server.AdminGuard
import OAuth2Server.Reliance
import OAuth2Server.Server

/-!
# Revocation is final

Any number of requests to any of the modelled routes over one store, each
operation one step, in any order. Once the token that a request asks about is
found revoked, it is found revoked for good, and no request that starts later
is served for it: not by userinfo, not by introspection, not by an exchange or
a refresh, and not by an admin route. Introspection looks a value up twice, as
an access token and then as a refresh token.
-/

namespace OAuth2Server.RevocationFinality

open OAuth2Server Models Storage Tables Effects Interaction Interaction.Program Interleaving
open ClientAuth Dpop TokenEndpoint Footprints Endpoints Resources AdminGuard Backends Runs
open SenderConstraint ReferenceJwt Reliance

set_option autoImplicit false

/-! ### Requests and what they look up -/

/-- A request to one of the routes: those that show something for a token, and
every route that writes. An admin route runs behind its guard. -/
inductive Visit where
  | token (request : Request)
  | userinfo (request : UserinfoRequest)
  | introspect (request : IntrospectRequest)
  | admin (request : AdminRequest) (route : Server.ServerRequest)
  | other (request : Server.ServerRequest)

/-- The body of an answer nothing depends on. -/
def answered : Response := json 200 []

/-- A route of the admin API behind `require_admin`. -/
def adminRoute (env : Env) (request : AdminRequest) (route : Server.ServerRequest) :
    Handler Response := do
  let _ ← requireAdmin env request
  (fun _ => answered) <$> route.program env

def Visit.program (env : Env) : Visit → Handler Response
  | .token request => TokenEndpoint.token env request
  | .userinfo request => Resources.userinfo env request
  | .introspect request => Resources.introspect env request
  | .admin request route => adminRoute env request route
  | .other request => (fun _ => answered) <$> request.program env

/-- How a presented token is looked up. -/
inductive Lookup where
  | access (value : String)
  | refresh (value : String)
  deriving DecidableEq

def Lookup.find (env : Env) (store : Store) : Lookup → Option Token
  | .access value => (Query.getTokenByAccessToken value).eval env.backend store
  | .refresh value => (Query.getTokenByRefreshToken value).eval env.backend store

/-- The stored token that a grant is made of. -/
def grantLookup (request : Request) : Option Lookup :=
  match (request.form.get "grant_type").bind Grant.parse with
  | some .tokenExchange => ((request.form.get "subject_token").filter (· != "")).map .access
  | some .refreshToken => ((request.form.get "refresh_token").filter (· != "")).map .refresh
  | _ => none

/-- What introspection takes the presented value for, in this order. -/
def introspectedLookups (request : IntrospectRequest) : List Lookup :=
  match (request.form.get "token").filter (· != "") with
  | some value => [.access value, .refresh value]
  | none => []

/-- The lookups of the token a request needs. -/
def Visit.presented (env : Env) : Visit → List Lookup
  | .token request => (grantLookup request).toList
  | .userinfo request => ((presentedToken env request.toRequest).map .access).toList
  | .introspect request => introspectedLookups request
  | .admin request _ => ((bearerToken env request.toRequest).map .access).toList
  | .other _ => []

/-- Introspection reports an access token before it looks for a refresh token of
the same value. -/
def Visit.Hides (env : Env) (store : Store) : Visit → Lookup → Prop
  | .introspect _, .refresh value => (Lookup.access value).find env store ≠ none
  | _, _ => False

/-- The request got what the token is for. -/
def Visit.Serves (env : Env) : Visit → Response → Prop
  | .introspect _, response => ReportsActive env response
  | _, response => response.status = 200

/-! ### A revoked token stays found and revoked -/

/-- The lookup ends at a revoked row that grew out of `row`. -/
def Dead (env : Env) (lookup : Lookup) (row : Token) (world : World) : Prop :=
  ∃ later, lookup.find env world.store = some later ∧ Evolves row later ∧ later.revoked = true

section Stability

variable {env : Env} {lookup : Lookup} {row : Token}

theorem dead_stable (op : Op) (world : World) (dead : Dead env lookup row world) :
    Dead env lookup row (env.interp op world).2 := by
  obtain ⟨found, lookedUp, evolved, revoked⟩ := dead
  have step := tokens_moved env world op
  cases lookup with
  | access value =>
      obtain ⟨next, again, moved⟩ := step.find Evolves.refl
        (fun before later evolves => by rw [evolves.accessToken]) lookedUp
      exact ⟨next, again, evolved.trans moved, moved.revoked revoked⟩
  | refresh value =>
      obtain ⟨next, again, moved⟩ := step.find Evolves.refl
        (fun before later evolves => by rw [evolves.refreshToken]) lookedUp
      exact ⟨next, again, evolved.trans moved, moved.revoked revoked⟩

theorem dead_of_found {world : World} (found : lookup.find env world.store = some row)
    (revoked : row.revoked = true) : Dead env lookup row world :=
  ⟨row, found, Evolves.refl row, revoked⟩

/-- An access token that hides a refresh token does so for good. -/
theorem hides_lasting (visit : Visit) (op : Op) (world : World)
    (hidden : visit.Hides env world.store lookup) :
    visit.Hides env (env.interp op world).2.store lookup := by
  cases visit with
  | introspect request =>
      cases lookup with
      | access value => exact hidden
      | refresh value =>
          obtain ⟨found, lookedUp⟩ := Option.ne_none_iff_exists'.1 hidden
          obtain ⟨next, again, _⟩ := (tokens_moved env world op).find Evolves.refl
            (fun before later evolves => by rw [evolves.accessToken]) lookedUp
          exact Option.ne_none_iff_exists'.2 ⟨next, again⟩
  | _ => exact hidden

end Stability

/-! ### No route serves a revoked token -/

section Routes

variable {env : Env} {row : Token} {value : String}

/-- Ended without being served, whenever the lookup finds the token revoked. -/
abbrev Turned (env : Env) (lookup : Lookup) (row : Token) (unserved : Response → Prop) {α : Type}
    (program : Handler α) : Prop :=
  Stopped env.interp (Dead env lookup row) unserved program

theorem turned_by_access {α : Type} {unserved : Response → Prop} {rest : Option Token → Handler α}
    (refused : ∀ found, found.revoked = true →
      Turned env (.access value) row unserved (rest (some found))) :
    Turned env (.access value) row unserved (query (.getTokenByAccessToken value) >>= rest) := by
  apply stopped_call
  rintro world ⟨found, lookedUp, _, revoked⟩
  have answered : (env.interp (.query (.getTokenByAccessToken value)) world).1 = some found :=
    lookedUp
  rw [answered]
  exact refused found revoked

theorem turned_by_refresh {α : Type} {unserved : Response → Prop} {rest : Option Token → Handler α}
    (refused : ∀ found, found.revoked = true →
      Turned env (.refresh value) row unserved (rest (some found))) :
    Turned env (.refresh value) row unserved (query (.getTokenByRefreshToken value) >>= rest) := by
  apply stopped_call
  rintro world ⟨found, lookedUp, _, revoked⟩
  have answered : (env.interp (.query (.getTokenByRefreshToken value)) world).1 = some found :=
    lookedUp
  rw [answered]
  exact refused found revoked

/-- A failure of any status but 200. -/
abbrev Failed (response : Response) : Prop := response.status ≠ 200

theorem refusing_of_refusal {α : Type} {footprint : Op → Prop} {program : Handler α}
    (uses : Uses (S := Server) footprint Refusal program) : Refusing program :=
  uses.mono (fun _ _ => trivial) fun _ refusal => refusal.1

theorem refusing_return_if (condition : Bool) {error description : String}
    (refusal : Refusal (oauthError error (some description))) :
    Refusing (returnIf condition error description) := by
  have uses : Uses (S := Server) Calm Refusal (returnIf condition error description) :=
    uses_return_if condition error description refusal
  exact refusing_of_refusal uses

theorem userinfo_turned {request : UserinfoRequest}
    (presents : presentedToken env request.toRequest = some value) :
    Turned env (.access value) row Failed (Resources.userinfo env request) := by
  have decoding : Refusing (tryDecode env value) := by
    unfold tryDecode
    apply (refusing_any _).rescue
    intro raised _
    cases raised with
    | other => exact refusing_throw (by decide)
    | _ => trivial
  unfold Resources.userinfo
  rw [presents]
  apply stopped_after decoding
  intro _
  apply Stopped.bind
  unfold userinfoRow
  apply turned_by_access
  intro found revoked
  dsimp only
  rw [if_pos revoked]
  exact stopped_fail (invalid_token_refuses _ _)

theorem admin_turned {request : AdminRequest} {route : Server.ServerRequest}
    (presents : bearerToken env request.toRequest = some value) :
    Turned env (.access value) row Failed (adminRoute env request route) := by
  unfold adminRoute requireAdmin
  rw [presents]
  apply Stopped.bind
  unfold authenticateBearer
  apply turned_by_access
  intro found revoked
  dsimp only
  rw [if_pos revoked]
  exact stopped_fail (by decide)

section Introspection

variable {inv : World → Prop} {request : IntrospectRequest}

theorem inactive_stopped (faithful : RoundTrip env.platform.jwt) (client : Client) :
    Stopped env.interp inv (fun response => ¬ReportsActive env response)
      (answerInactive env request client : Handler (String × Token × Instant)) :=
  stopped_of_uses (silent_inactive faithful) inactive_ends

/-- What is known of the row decides, once a client has been authenticated. -/
theorem introspect_stopped
    (inactive : ∀ client, Stopped env.interp inv (fun response => ¬ReportsActive env response)
      (introspectedRow env request client ((request.form.get "token").filter (· != "")))) :
    Stopped env.interp inv (fun response => ¬ReportsActive env response)
      (Resources.introspect env request) := by
  unfold Resources.introspect
  apply stopped_after (silent_of_refusing (refusing_call _))
  intro client
  exact (inactive client).bind

theorem introspect_turned (faithful : RoundTrip env.platform.jwt)
    (presents : (request.form.get "token").filter (· != "") = some value) :
    Turned env (.access value) row (fun response => ¬ReportsActive env response)
      (Resources.introspect env request) := by
  apply introspect_stopped
  intro client
  unfold introspectedRow
  rw [presents]
  dsimp only
  unfold lookupTokenBy
  rw [bind_assoc]
  apply turned_by_access
  intro found revoked
  simpa [revoked] using inactive_stopped faithful client

/-- The lookup as an access token finds nothing, so the second one decides. -/
theorem introspect_refresh_turned (faithful : RoundTrip env.platform.jwt)
    (presents : (request.form.get "token").filter (· != "") = some value) :
    Stopped env.interp (fun world => Dead env (.refresh value) row world ∧
        ¬(Visit.introspect request).Hides env world.store (.refresh value))
      (fun response => ¬ReportsActive env response) (Resources.introspect env request) := by
  apply introspect_stopped
  intro client
  unfold introspectedRow
  rw [presents]
  dsimp only
  unfold lookupTokenBy
  rw [bind_assoc]
  apply stopped_call
  rintro world ⟨_, alone⟩
  have missing : (env.interp (.query (.getTokenByAccessToken value)) world).1 = none :=
    not_not.1 alone
  rw [missing]
  dsimp only [call_bind, done_bind]
  apply stopped_call
  rintro later ⟨⟨found, lookedUp, _, revoked⟩, _⟩
  have answered : (env.interp (.query (.getTokenByRefreshToken value)) later).1 = some found :=
    lookedUp
  rw [answered]
  simpa [Program.bind, revoked] using inactive_stopped faithful client

end Introspection

theorem exchange_turned {context : Context} {request : Request}
    (presents : (request.form.get "subject_token").filter (· != "") = some value) :
    Turned env (.access value) row Failed (tokenExchange env context request) := by
  have presented : Refusing (checkExchangeForm request) ∧
      Yields (· = value) (checkExchangeForm request) := by
    unfold checkExchangeForm
    rw [presents]
    constructor
    · apply Uses.bind (refusing_return_if _ (refusal_of_error _ (by decide)))
      intro _
      apply Uses.bind (refusing_return_if _ (refusal_of_error _ (by decide)))
      intro _
      trivial
    · exact yields_bind fun _ => yields_bind fun _ => rfl
  unfold tokenExchange
  apply stopped_after (refusing_of_refusal (uses_require_grant _ _ _))
  intro _
  apply stopped_after (refusing_of_refusal (uses_require_confidential _ _))
  intro _
  apply stopped_after_yields presented.1 presented.2
  rintro _ rfl
  apply turned_by_access
  intro found revoked
  dsimp only
  unfold exchangeRow
  rw [revoked]
  exact stopped_fail (oauth_error_status _ _)

theorem refresh_turned {context : Context} {request : Request}
    (presents : (request.form.get "refresh_token").filter (· != "") = some value) :
    Turned env (.refresh value) row Failed (TokenEndpoint.refreshToken env context request) := by
  unfold TokenEndpoint.refreshToken
  apply Stopped.bind
  unfold checkRefresh
  apply stopped_after (refusing_of_refusal (uses_require_grant _ _ _))
  intro _
  rw [presents]
  extract_lets judge
  apply turned_by_refresh
  intro found revoked
  have replayed : Turned env (.refresh value) row Failed
      (refuseRevoked found : Handler Rotation) := by
    unfold refuseRevoked
    split
    · apply stopped_call
      intro _ _
      exact stopped_fail (oauth_error_status _ _)
    · exact stopped_fail (oauth_error_status _ _)
  simp only [judge]
  apply stopped_after (refusing_return_if _ (refusal_of_description _ (by decide)))
  intro _
  rw [if_pos revoked]
  exact replayed

theorem refusing_pre_grant (env : Env) (request : Request) : Refusing (preGrant env request) := by
  unfold preGrant authenticatedClient
  apply Uses.bind
  · apply (refusing_any _).rescue
    intro raised _
    split
    · split
      · exact refusing_of_refusal (uses_refuse_invalid_client _ _)
      · exact oauth_error_status _ _
    · exact Conformance.answer_raised_status _
  · intro client
    apply Uses.bind (refusing_of_refusal (uses_validated_proof env client request))
    intro _
    trivial

/-- The grant a presented token belongs to decides where it is looked up. -/
theorem token_turned {request : Request} {lookup : Lookup}
    (presents : lookup ∈ grantLookup request) :
    Turned env lookup row Failed (TokenEndpoint.token env request) := by
  have dispatched : ∀ grant, (request.form.get "grant_type").bind Grant.parse = some grant →
      (∀ context, Turned env lookup row Failed (grantHandler env context request grant)) →
      Turned env lookup row Failed (TokenEndpoint.token env request) := by
    intro grant parsed refused
    have asked : Refusing (requestedGrant request) ∧ Yields (· = grant) (requestedGrant request) := by
      unfold requestedGrant refuse
      cases text : (request.form.get "grant_type").filter (· != "") with
      | none => exact ⟨oauth_error_status _ _, trivial⟩
      | some name =>
          rw [(Option.filter_eq_some_iff.1 text).1, Option.bind_some] at parsed
          simp only [parsed]
          exact ⟨trivial, rfl⟩
    unfold TokenEndpoint.token
    apply stopped_after_yields asked.1 asked.2
    rintro _ rfl
    exact stopped_after (refusing_pre_grant env request) refused
  rw [Option.mem_def] at presents
  unfold grantLookup at presents
  split at presents
  · rename_i parsed
    obtain ⟨value, found, rfl⟩ := Option.map_eq_some_iff.1 presents
    exact dispatched _ parsed fun context => exchange_turned found
  · rename_i parsed
    obtain ⟨value, found, rfl⟩ := Option.map_eq_some_iff.1 presents
    exact dispatched _ parsed fun context => refresh_turned found
  · cases presents

/-- No route serves a request whose token it finds revoked. -/
theorem visit_turned (row : Token) (faithful : RoundTrip env.platform.jwt) {visit : Visit}
    {lookup : Lookup} (presents : lookup ∈ visit.presented env) :
    Stopped env.interp
      (fun world => Dead env lookup row world ∧ ¬visit.Hides env world.store lookup)
      (fun response => ¬visit.Serves env response) (visit.program env) := by
  cases visit with
  | token request =>
      exact Stopped.within (token_turned (Option.mem_toList.1 presents)) fun _ => And.left
  | userinfo request =>
      obtain ⟨value, found, rfl⟩ := Option.map_eq_some_iff.1 (Option.mem_toList.1 presents)
      exact Stopped.within (userinfo_turned found) fun _ => And.left
  | introspect request =>
      change lookup ∈ introspectedLookups request at presents
      unfold introspectedLookups at presents
      split at presents
      · rename_i value found
        rcases List.mem_pair.1 presents with rfl | rfl
        · exact Stopped.within (introspect_turned faithful found) fun _ => And.left
        · exact introspect_refresh_turned faithful found
      · cases presents
  | admin request route =>
      obtain ⟨value, found, rfl⟩ := Option.map_eq_some_iff.1 (Option.mem_toList.1 presents)
      exact Stopped.within (admin_turned found) fun _ => And.left
  | other request => cases presents

end Routes

/-! ### Runs -/

section Runs

variable {ι : Type} [DecidableEq ι]

/-- The state after the moves of a schedule. -/
def visited (env : Env) (world : World) (visits : ι → Visit) (schedule : List ι) :
    Pool Server World Response Response ι :=
  Pool.exec env.interp (Pool.start world fun thread => (visits thread).program env) schedule

/-- Once a lookup ends at a revoked row, it does for the rest of the run, and no
request that has not moved by then gets what the token is for. Introspection of
a refresh token is excepted where an access token of the same value hides it. -/
theorem revocation_final (env : Env) (faithful : RoundTrip env.platform.jwt) (world : World)
    (visits : ι → Visit) (earlier later : List ι) {lookup : Lookup} {row : Token}
    (found : lookup.find env (visited env world visits earlier).world.store = some row)
    (revoked : row.revoked = true) :
    (∃ kept, lookup.find env (visited env world visits (earlier ++ later)).world.store =
        some kept ∧ Evolves row kept ∧ kept.revoked = true) ∧
      ∀ thread ∉ earlier, lookup ∈ (visits thread).presented env →
        ¬(visits thread).Hides env
          (visited env world visits (earlier ++ later)).world.store lookup →
        ∀ response, (visited env world visits (earlier ++ later)).answer? thread = some response →
          ¬(visits thread).Serves env response := by
  have base := dead_of_found found revoked
  have whole : visited env world visits (earlier ++ later) =
      Pool.exec env.interp (visited env world visits earlier) later := Pool.exec_append _ _ _ _
  rw [whole]
  constructor
  · exact kept_throughout dead_stable base later
  · intro thread idle presents shown response finished
    have waiting : (visited env world visits earlier).rest thread = (visits thread).program env :=
      unmoved idle
    have turned := visit_turned row faithful presents
    rw [← waiting] at turned
    exact turned.answer dead_stable (hides_lasting (visits thread)) base shown finished

end Runs

/-! A client revokes its refresh token; afterwards its access token is shown and
the refresh token is introspected. -/

inductive SampleThread where
  | revoking
  | calling
  | introspecting
deriving DecidableEq

def sampleVisits : SampleThread → Visit
  | .revoking => .other (.revoke { form := [("client_id", "app"), ("token", "refresh")] })
  | .calling => .userinfo { form := [], authorization := some "Bearer access", method := .get }
  | .introspecting => .introspect { form := [("client_id", "app"), ("token", "refresh")] }

def revokedVisits : List SampleThread := List.replicate 9 .revoking

def shownVisits : List SampleThread :=
  List.replicate 9 .calling ++ List.replicate 9 .introspecting

theorem revoked_access_refused :
    ∃ shown introspected,
      (visited holderEnv sampleTokenWorld sampleVisits (revokedVisits ++ shownVisits)).answer?
        .calling = some shown ∧
      (visited holderEnv sampleTokenWorld sampleVisits (revokedVisits ++ shownVisits)).answer?
        .introspecting = some introspected ∧
      shown.status ≠ 200 ∧ ¬ReportsActive holderEnv introspected := by
  have found : ∀ lookup ∈ [Lookup.access "access", .refresh "refresh"],
      lookup.find holderEnv (visited holderEnv sampleTokenWorld sampleVisits
        revokedVisits).world.store = some { sampleToken with revoked := true } := by
    decide +kernel
  have final := fun lookup member => (revocation_final holderEnv round_trip sampleTokenWorld
    sampleVisits revokedVisits shownVisits (found lookup member) rfl).2
  have finished : ∀ thread ∈ [SampleThread.calling, .introspecting],
      ((visited holderEnv sampleTokenWorld sampleVisits
        (revokedVisits ++ shownVisits)).answer? thread).isSome = true := by
    decide +kernel
  have alone : (Lookup.access "refresh").find holderEnv (visited holderEnv sampleTokenWorld
      sampleVisits (revokedVisits ++ shownVisits)).world.store = none := by
    decide +kernel
  obtain ⟨shown, answered⟩ := Option.isSome_iff_exists.1 (finished .calling (by decide))
  obtain ⟨introspected, reported⟩ := Option.isSome_iff_exists.1 (finished .introspecting (by decide))
  have turned := final (.access "access") (by decide) .calling (by decide) (by decide +kernel) id
    shown answered
  have inactive := final (.refresh "refresh") (by decide) .introspecting (by decide)
    (by decide +kernel) (not_not.2 alone) introspected reported
  exact ⟨shown, introspected, answered, reported, turned, inactive⟩

end OAuth2Server.RevocationFinality
