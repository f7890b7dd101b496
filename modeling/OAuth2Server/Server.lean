import OAuth2Server.Administration
import OAuth2Server.Conformance

/-!
# The server over a sequence of requests

The routes that write the store, but for `/oauth/logout`, which only revokes the
tokens of a user, as `revokeTokensByUser` does here, and the states a server
goes through when its requests are handled one after the other. Most routes
neither insert a token or a code nor take a client out of service; what they
keep is shown here once for all of them.
-/

namespace OAuth2Server.Server

open OAuth2Server Models Storage Effects Interaction Interaction.Program
open ClientAuth Dpop Endpoints Administration Footprints Protocol Conformance

set_option autoImplicit false

inductive ServerRequest where
  | token (request : Request)
  | revoke (request : Request)
  | deviceAuthorization (request : Request)
  | deviceVerify (request : VerifyRequest)
  /-- An authorization request that has passed its checks. -/
  | issueCode (request : CodeRequest)
  /-- A social login whose provider has vouched for the user. -/
  | socialAccount (userinfo : SocialUserInfo)
  | registerClient (body : Except Response ClientMetadata)
  | createClient (body : Except Response ClientMetadata) (clientId clientSecret : String)
  | updateClient (clientUuid : String) (body : Except Response ClientUpdate)
  | deleteClient (clientUuid : String)
  | setClientEnabled (clientUuid : String) (enabled : Option Bool)
  | regenerateClientSecret (clientUuid : String)
  | createUser (body : NewUser)
  | updateUser (userId : String) (body : Except Response UserUpdate)
  | deleteUser (userId : String)
  | setUserEnabled (userId : String) (enabled : Option Bool)
  | setUserRole (userId role : String)
  | resetUserPassword (userId password : String)
  | revokeTokenById (tokenId : String)
  | revokeTokensByUser (userId : String)
  | revokeTokensByClient (clientId : String)
  | expireDevice (deviceCode : String)
  | addDenylist (kind value reason createdBy : String) (expiresAt : Except Unit (Option Instant))
  | removeDenylist (entryId : String)

def ServerRequest.program (env : Env) : ServerRequest → Handler Unit
  | .token request => discard (TokenEndpoint.token env request)
  | .revoke request => discard (Endpoints.revoke env request)
  | .deviceAuthorization request => discard (Endpoints.deviceAuthorization env request)
  | .deviceVerify request => discard (Endpoints.deviceVerify env request)
  | .issueCode request => discard (TokenEndpoint.call (Endpoints.issueCode env request))
  | .socialAccount userinfo => discard (TokenEndpoint.call (Endpoints.socialAccount env userinfo))
  | .registerClient body => discard (Administration.registerClient env body)
  | .createClient body clientId clientSecret =>
      discard (Administration.createClient body clientId clientSecret)
  | .updateClient clientUuid body => discard (Administration.updateClient clientUuid body)
  | .deleteClient clientUuid => discard (Administration.deleteClient clientUuid)
  | .setClientEnabled clientUuid enabled =>
      discard (Administration.setClientEnabled env clientUuid enabled)
  | .regenerateClientSecret clientUuid =>
      discard (Administration.regenerateClientSecret env clientUuid)
  | .createUser body => discard (Administration.createUser body)
  | .updateUser userId body => discard (Administration.updateUser userId body)
  | .deleteUser userId => discard (Administration.deleteUser userId)
  | .setUserEnabled userId enabled => discard (Administration.setUserEnabled env userId enabled)
  | .setUserRole userId role => discard (Administration.setUserRole env userId role)
  | .resetUserPassword userId password =>
      discard (Administration.resetUserPassword env userId password)
  | .revokeTokenById tokenId => discard (Administration.revokeTokenById tokenId)
  | .revokeTokensByUser userId => discard (Administration.revokeTokensByUser userId)
  | .revokeTokensByClient clientId => discard (Administration.revokeTokensByClient clientId)
  | .expireDevice deviceCode => discard (Administration.expireDevice deviceCode)
  | .addDenylist kind value reason createdBy expiresAt =>
      discard (Administration.addDenylist env kind value reason createdBy expiresAt)
  | .removeDenylist entryId => discard (Administration.removeDenylist entryId)

/-! ### Runs -/

def serve (env : Env) (world : World) (request : ServerRequest) : World :=
  ((request.program env).run env.interp world).2

/-- The state after the requests, handled one after the other. -/
def serveAll (env : Env) (world : World) (requests : List ServerRequest) : World :=
  requests.foldl (serve env) world

/-- A condition on every request and the state it is handled in. -/
def Throughout (env : Env) (condition : World → ServerRequest → Prop) :
    World → List ServerRequest → Prop
  | _, [] => True
  | world, request :: later =>
      condition world request ∧ Throughout env condition (serve env world request) later

instance decidableThroughout (env : Env) (condition : World → ServerRequest → Prop)
    [decides : ∀ world request, Decidable (condition world request)] :
    ∀ world requests, Decidable (Throughout env condition world requests)
  | _, [] => isTrue trivial
  | world, request :: later =>
      have := decides world request
      have := decidableThroughout env condition (serve env world request) later
      inferInstanceAs (Decidable (_ ∧ _))

section Runs

variable {env : Env} {world : World}

theorem serve_all_append (earlier later : List ServerRequest) :
    serveAll env world (earlier ++ later) = serveAll env (serveAll env world earlier) later :=
  List.foldl_append

theorem serve_all_invariant (inv : World → Prop) (condition : World → ServerRequest → Prop)
    (preserved : ∀ world request, condition world request → inv world →
      inv (serve env world request))
    (base : inv world) (requests : List ServerRequest)
    (along : Throughout env condition world requests) : inv (serveAll env world requests) := by
  induction requests generalizing world with
  | nil => exact base
  | cons request rest induction =>
      exact induction (preserved world request along.1 base) along.2

theorem throughout_of_forall {condition : World → ServerRequest → Prop}
    (always : ∀ world request, condition world request) (requests : List ServerRequest) :
    Throughout env condition world requests := by
  induction requests generalizing world with
  | nil => trivial
  | cons request rest induction => exact ⟨always world request, induction⟩

theorem state_discard {ε α : Type} (program : Program Server ε α) :
    ((discard program).run env.interp world).2 = (program.run env.interp world).2 :=
  congrArg Prod.snd (run_map env.interp _ program world)

end Runs

/-- A token request handled alone: what every move keeps holds at its end, in
the session it ends with. -/
theorem token_run_invariant (env : Env) (world : World) (request : Request)
    (inv : Session → World → Prop) (condition : World → Op → Prop)
    (preserved : ∀ session world op, Move session op → condition world op → inv session world →
      inv (after session op (env.interp op world).1) (env.interp op world).2)
    (along : (TokenEndpoint.token env request).Along env.interp condition world)
    (base : inv { origin := .token request } world) :
    ∃ session, Ended session ((TokenEndpoint.token env request).run env.interp world).1 ∧
      inv session ((TokenEndpoint.token env request).run env.interp world).2 :=
  (obeys_program env (.token request)).run_along (protocol_sound env) inv condition
    (fun session world op permitted => preserved session world op (move_of_allowed permitted))
    along base

/-! ### Routine requests -/

/-- Operations that insert neither a token nor a code and take no client out of
service. -/
def Routine : Op → Prop
  | .command (.saveToken _) => False
  | .command (.saveAuthorizationCode _) => False
  | .command (.updateClient _) => False
  | .command (.deleteClient _) => False
  | .command (.setClientEnabled _ _ _) => False
  | _ => True

def ServerRequest.isRoutine : ServerRequest → Bool
  | .token _ | .issueCode _ | .updateClient _ _ | .deleteClient _ | .setClientEnabled _ _ => false
  | _ => true

theorem routine_of_read_only (op : Op) (reads : ReadOnly op) : Routine op := by
  rcases op with read | write | act
  · trivial
  · exact reads.elim
  · trivial

/-- Every operation of the program is routine. -/
def Harmless {ε α : Type} (program : Program Server ε α) : Prop :=
  Uses (S := Server) Routine (fun _ => True) program

section Harmless

variable {ε α β : Type}

theorem harmless_query (read : Query) : Harmless (query read : Program Server ε _) :=
  uses_query read trivial

theorem harmless_ambient (act : Ambient) : Harmless (ambient act : Program Server ε _) :=
  uses_ambient act trivial

theorem harmless_command (write : Command) (routine : Routine (.command write)) :
    Harmless (command write : Program Server ε _) :=
  uses_command write routine

theorem harmless_reject (condition : Bool) (error : ε) :
    Harmless (Program.rejectIf condition error : Program Server ε Unit) :=
  (uses_reject_if condition error).2 fun _ => trivial

theorem harmless_check (outcome : Except ε α) : Harmless (Program.ofExcept outcome) :=
  (uses_of_except outcome).2 fun _ _ => trivial

theorem Harmless.bind {program : Program Server ε α} {rest : α → Program Server ε β}
    (harmless : Harmless program) (later : ∀ value, Harmless (rest value)) :
    Harmless (program >>= rest) :=
  Uses.bind harmless later

theorem Harmless.discard {program : Program Server ε α} (harmless : Harmless program) :
    Harmless (Functor.discard program) :=
  Uses.map harmless

theorem Harmless.call {service : Service α} (harmless : Harmless service) :
    Harmless (TokenEndpoint.call service) :=
  Uses.mapError harmless fun _ _ => trivial

theorem harmless_of_calm {raises : ε → Prop} {program : Program Server ε α}
    (uses : Uses (S := Server) Calm raises program) : Harmless program :=
  (read_only uses).mono routine_of_read_only fun _ raised => raised

end Harmless

theorem harmless_insert (outcome : Except StorageError Unit) : Harmless (insertOrRaise outcome) := by
  unfold insertOrRaise
  split <;> trivial

theorem harmless_authenticate (env : Env) (form : Form) (credentials : Credentials) :
    Harmless (authenticate env form credentials) :=
  (uses_authenticate env form credentials).mono
    (fun op unproved => routine_of_read_only op (read_only_of_unproved op unproved))
    fun _ raised => raised

theorem harmless_revoke (env : Env) (request : Request) : Harmless (Endpoints.revoke env request) := by
  unfold Endpoints.revoke
  apply Harmless.bind (harmless_authenticate env _ _).call
  intro client
  have revokes : ∀ value row, Harmless (revokeRow value row) := by
    intro value row
    unfold revokeRow
    split
    · exact (harmless_command _ (by trivial)).discard
    · exact harmless_command _ (by trivial)
  have lookup : ∀ value, Harmless (lookupToken value) := by
    intro value
    unfold lookupToken
    apply Harmless.bind (harmless_query _)
    intro found
    split
    · trivial
    · exact harmless_query _
  split
  · trivial
  · apply Harmless.bind (lookup _)
    intro found
    split
    · trivial
    · split
      · apply Harmless.bind (revokes _ _)
        intro _
        trivial
      · trivial

theorem harmless_device_authorization (env : Env) (request : Request) :
    Harmless (Endpoints.deviceAuthorization env request) := by
  unfold Endpoints.deviceAuthorization generateUserCode
  apply Harmless.bind (harmless_authenticate env _ _).call
  intro client
  apply Harmless.bind (harmless_of_calm (uses_require_grant env client _))
  intro _
  have limited : Harmless (TokenEndpoint.clientScope client request.form) := by
    unfold TokenEndpoint.clientScope
    split
    · trivial
    · exact (harmless_reject _ _).bind fun _ => trivial
  apply Harmless.bind limited
  intro scope
  apply Harmless.bind (harmless_ambient _)
  intro now
  apply Harmless.bind (harmless_ambient _)
  intro id
  apply Harmless.bind (harmless_ambient _)
  intro deviceCode
  have drawn : Harmless (do
      let first ← ambient .randomPart
      let second ← ambient .randomPart
      pure (first ++ "-" ++ second) : Handler String) :=
    (harmless_ambient _).bind fun _ => (harmless_ambient _).bind fun _ => trivial
  apply Harmless.bind drawn
  intro userCode
  apply Harmless.bind (harmless_ambient _)
  intro createdAt
  apply Harmless.bind (harmless_command _ (by trivial))
  intro saved
  exact (harmless_insert saved).call.bind fun _ => trivial

theorem harmless_device_verify (env : Env) (request : VerifyRequest) :
    Harmless (Endpoints.deviceVerify env request) := by
  have decides : ∀ userCode userId action, Harmless (decideDevice userCode userId action) := by
    intro userCode userId action
    unfold decideDevice
    split
    · exact (harmless_command _ (by trivial)).bind fun _ => trivial
    · split
      · exact (harmless_command _ (by trivial)).bind fun _ => trivial
      · trivial
  unfold Endpoints.deviceVerify
  split
  · trivial
  · split
    · trivial
    · apply Harmless.bind (harmless_query _)
      intro found
      split
      · trivial
      · split
        · trivial
        · apply Harmless.bind (harmless_ambient _)
          intro now
          split
          · trivial
          · exact decides _ _ _

theorem harmless_social_account (env : Env) (userinfo : SocialUserInfo) :
    Harmless (Endpoints.socialAccount env userinfo) := by
  have links : Harmless (linkByVerifiedEmail env userinfo) := by
    unfold linkByVerifiedEmail
    dsimp only
    split
    · trivial
    · apply Harmless.bind (harmless_query _)
      intro found
      split
      · split <;> trivial
      · trivial
  unfold Endpoints.socialAccount
  apply Harmless.bind (harmless_query _)
  intro known
  split
  · trivial
  · apply Harmless.bind links
    intro linked
    split
    · trivial
    · apply Harmless.bind (harmless_ambient _)
      intro secret
      apply Harmless.bind (harmless_ambient _)
      intro passwordHash
      apply Harmless.bind (harmless_ambient _)
      intro id
      apply Harmless.bind (harmless_ambient _)
      intro now
      apply Harmless.bind (harmless_command _ (by trivial))
      intro saved
      exact (harmless_insert saved).bind fun _ => trivial

theorem harmless_store_client (row : Client) (response : Response) :
    Harmless (do
      let saved ← command (.saveClient row)
      TokenEndpoint.call (insertOrRaise saved)
      pure response : Handler Response) := by
  apply Harmless.bind (harmless_command _ (by trivial))
  intro saved
  exact (harmless_insert saved).call.bind fun _ => trivial

theorem harmless_register_client (env : Env) (body : Except Response ClientMetadata) :
    Harmless (Administration.registerClient env body) := by
  unfold Administration.registerClient
  apply Harmless.bind (harmless_reject _ _)
  intro _
  apply Harmless.bind (harmless_check _)
  intro metadata
  dsimp only
  apply Harmless.bind (harmless_ambient _)
  intro now
  apply Harmless.bind (harmless_ambient _)
  intro clientId
  -- A public client draws no secret; the rest is the same for both.
  split
  all_goals
    apply Harmless.bind (by first | trivial | exact harmless_ambient _)
    intro clientSecret
    apply Harmless.bind (harmless_ambient _)
    intro registrationAccessToken
    apply Harmless.bind (harmless_ambient _)
    intro id
    exact harmless_store_client _ _

theorem harmless_create_client (body : Except Response ClientMetadata) (clientId secret : String) :
    Harmless (Administration.createClient body clientId secret) := by
  unfold Administration.createClient
  apply Harmless.bind (harmless_check _)
  intro metadata
  extract_lets isPublic finish named
  have finishes : ∀ drawn, Harmless (finish drawn) := by
    intro drawn
    simp only [finish]
    split
    all_goals first
      | split
        all_goals
          apply Harmless.bind (by first | trivial | exact harmless_ambient _)
          intro clientSecret
          apply Harmless.bind (harmless_ambient _)
          intro now
          apply Harmless.bind (harmless_ambient _)
          intro id
          exact harmless_store_client _ _
      | apply Harmless.bind (harmless_ambient _)
        intro now
        apply Harmless.bind (harmless_ambient _)
        intro id
        exact harmless_store_client _ _
  have names : ∀ checked, Harmless (named checked) := by
    intro checked
    simp only [named]
    split
    · exact finishes _
    · exact (harmless_ambient _).bind fun _ => finishes _
  split
  · apply Harmless.bind (harmless_query _)
    intro existing
    exact (harmless_reject _ _).bind names
  · exact names ()

theorem harmless_touch_time (env : Env) : Harmless (touchTime env : Handler Instant) := by
  unfold touchTime
  split
  · trivial
  · exact harmless_ambient _

theorem harmless_resolve_client (clientUuid : String) : Harmless (resolveClient clientUuid) := by
  unfold resolveClient
  apply Harmless.bind (harmless_query _)
  intro clients
  split <;> trivial

theorem harmless_regenerate_secret (env : Env) (clientUuid : String) :
    Harmless (Administration.regenerateClientSecret env clientUuid) := by
  unfold Administration.regenerateClientSecret
  apply Harmless.bind (harmless_resolve_client clientUuid)
  intro client
  apply Harmless.bind (harmless_reject _ _)
  intro _
  apply Harmless.bind (harmless_ambient _)
  intro secret
  apply Harmless.bind (harmless_touch_time env)
  intro now
  exact (harmless_command _ (by trivial)).bind fun _ => trivial

theorem harmless_create_user (body : NewUser) : Harmless (Administration.createUser body) := by
  unfold Administration.createUser
  dsimp only
  apply Harmless.bind (harmless_reject _ _)
  intro _
  apply Harmless.bind (harmless_query _)
  intro existing
  apply Harmless.bind (harmless_reject _ _)
  intro _
  apply Harmless.bind (harmless_ambient _)
  intro passwordHash
  apply Harmless.bind (harmless_ambient _)
  intro now
  apply Harmless.bind (harmless_ambient _)
  intro id
  apply Harmless.bind (harmless_command _ (by trivial))
  intro saved
  exact (harmless_insert saved).call.bind fun _ => trivial

theorem harmless_update_user (userId : String) (body : Except Response UserUpdate) :
    Harmless (Administration.updateUser userId body) := by
  unfold Administration.updateUser
  apply Harmless.bind (harmless_query _)
  intro found
  split
  · trivial
  · apply Harmless.bind (harmless_check _)
    intro update
    apply Harmless.bind (harmless_ambient _)
    intro now
    dsimp only
    apply Harmless.bind (harmless_command _ (by trivial))
    intro saved
    apply Harmless.bind (harmless_insert saved).call
    intro _
    split
    · exact (harmless_command _ (by trivial)).discard.bind fun _ => trivial
    · trivial

theorem harmless_delete_user (userId : String) : Harmless (Administration.deleteUser userId) := by
  unfold Administration.deleteUser
  apply Harmless.bind (harmless_query _)
  intro found
  split
  · trivial
  · apply Harmless.bind (harmless_command _ (by trivial))
    intro _
    exact (harmless_command _ (by trivial)).discard.bind fun _ => trivial

theorem harmless_set_user_enabled (env : Env) (userId : String) (enabled : Option Bool) :
    Harmless (Administration.setUserEnabled env userId enabled) := by
  unfold Administration.setUserEnabled
  split
  · trivial
  · apply Harmless.bind (harmless_touch_time env)
    intro now
    apply Harmless.bind (harmless_command _ (by trivial))
    intro _
    split
    · exact (harmless_command _ (by trivial)).discard.bind fun _ => trivial
    · trivial

theorem harmless_set_user_role (env : Env) (userId role : String) :
    Harmless (Administration.setUserRole env userId role) := by
  unfold Administration.setUserRole
  apply Harmless.bind (harmless_reject _ _)
  intro _
  apply Harmless.bind (harmless_touch_time env)
  intro now
  exact (harmless_command _ (by trivial)).bind fun _ => trivial

theorem harmless_reset_password (env : Env) (userId password : String) :
    Harmless (Administration.resetUserPassword env userId password) := by
  unfold Administration.resetUserPassword
  apply Harmless.bind (harmless_reject _ _)
  intro _
  apply Harmless.bind (harmless_ambient _)
  intro passwordHash
  apply Harmless.bind (harmless_touch_time env)
  intro now
  apply Harmless.bind (harmless_command _ (by trivial))
  intro _
  exact (harmless_command _ (by trivial)).discard.bind fun _ => trivial

theorem harmless_revoke_by_id (tokenId : String) :
    Harmless (Administration.revokeTokenById tokenId) := by
  unfold Administration.revokeTokenById
  apply Harmless.bind (harmless_query _)
  intro found
  split
  · exact (harmless_command _ (by trivial)).bind fun _ => trivial
  · trivial

theorem harmless_add_denylist (env : Env) (kind value reason createdBy : String)
    (expiresAt : Except Unit (Option Instant)) :
    Harmless (Administration.addDenylist env kind value reason createdBy expiresAt) := by
  unfold Administration.addDenylist
  dsimp only
  apply Harmless.bind (harmless_reject _ _)
  intro _
  apply Harmless.bind (harmless_reject _ _)
  intro _
  split
  · trivial
  · apply Harmless.bind (harmless_ambient _)
    intro id
    apply Harmless.bind (harmless_ambient _)
    intro now
    apply Harmless.bind (harmless_command _ (by trivial))
    intro _
    split
    · trivial
    · exact (harmless_ambient _).bind fun _ => trivial

/-- Every request but five is routine in all it does. -/
theorem harmless_of_routine (env : Env) (request : ServerRequest)
    (routine : request.isRoutine = true) : Harmless (request.program env) := by
  cases request with
  | token | issueCode | updateClient | deleteClient | setClientEnabled => cases routine
  | revoke request => exact (harmless_revoke env request).discard
  | deviceAuthorization request => exact (harmless_device_authorization env request).discard
  | deviceVerify request => exact (harmless_device_verify env request).discard
  | socialAccount userinfo => exact (harmless_social_account env userinfo).call.discard
  | registerClient body => exact (harmless_register_client env body).discard
  | createClient body clientId secret => exact (harmless_create_client body clientId secret).discard
  | regenerateClientSecret clientUuid => exact (harmless_regenerate_secret env clientUuid).discard
  | createUser body => exact (harmless_create_user body).discard
  | updateUser userId body => exact (harmless_update_user userId body).discard
  | deleteUser userId => exact (harmless_delete_user userId).discard
  | setUserEnabled userId enabled => exact (harmless_set_user_enabled env userId enabled).discard
  | setUserRole userId role => exact (harmless_set_user_role env userId role).discard
  | resetUserPassword userId password => exact (harmless_reset_password env userId password).discard
  | revokeTokenById tokenId => exact (harmless_revoke_by_id tokenId).discard
  | revokeTokensByUser userId =>
      apply Harmless.discard
      exact Harmless.bind (harmless_command _ (by trivial)) fun _ => trivial
  | revokeTokensByClient clientId =>
      apply Harmless.discard
      exact Harmless.bind (harmless_command _ (by trivial)) fun _ => trivial
  | expireDevice deviceCode =>
      apply Harmless.discard
      apply Harmless.bind (harmless_ambient _)
      intro now
      exact Harmless.bind (harmless_command _ (by trivial)) fun _ => trivial
  | addDenylist kind value reason createdBy expiresAt =>
      exact (harmless_add_denylist env kind value reason createdBy expiresAt).discard
  | removeDenylist entryId =>
      apply Harmless.discard
      exact Harmless.bind (harmless_command _ (by trivial)) fun _ => trivial

/-- What routine operations keep, a routine request keeps. -/
theorem serve_routine {env : Env} {world : World} {request : ServerRequest}
    (routine : request.isRoutine = true) (inv : World → Prop)
    (keeps : ∀ op world, Routine op → inv world → inv (env.interp op world).2) (base : inv world) :
    inv (serve env world request) :=
  (harmless_of_routine env request routine).run_keeps inv keeps base

/-- The insertion of a code is the one operation of `issue_code` that is not
routine. -/
def IssuesCode (op : Op) : Prop :=
  Routine op ∨ ∃ row, op = .command (.saveAuthorizationCode row)

theorem uses_issue_code (env : Env) (request : CodeRequest) :
    Uses (S := Server) IssuesCode (fun _ => True) (Endpoints.issueCode env request) := by
  unfold Endpoints.issueCode
  apply Uses.bind (uses_ambient _ (Or.inl trivial))
  intro now
  apply Uses.bind (uses_ambient _ (Or.inl trivial))
  intro id
  apply Uses.bind (uses_ambient _ (Or.inl trivial))
  intro code
  apply Uses.bind (uses_ambient _ (Or.inl trivial))
  intro family
  apply Uses.bind (uses_ambient _ (Or.inl trivial))
  intro createdAt
  dsimp only
  apply Uses.bind (uses_command _ (Or.inr ⟨_, rfl⟩))
  intro saved
  have inserted : Uses (S := Server) IssuesCode (fun _ => True) (insertOrRaise saved) :=
    (harmless_insert saved).mono (fun _ routine => Or.inl routine) (fun _ raised => raised)
  exact Uses.bind inserted fun _ => trivial

theorem serve_issue_code {env : Env} {world : World} {request : CodeRequest} (inv : World → Prop)
    (keeps : ∀ op world, Routine op → inv world → inv (env.interp op world).2)
    (inserts : ∀ row world, inv world →
      inv (env.interp (.command (.saveAuthorizationCode row)) world).2)
    (base : inv world) : inv (serve env world (.issueCode request)) := by
  have state : serve env world (.issueCode request) =
      ((TokenEndpoint.call (Endpoints.issueCode env request)).run env.interp world).2 :=
    state_discard _
  rw [state]
  have uses : Uses (S := Server) IssuesCode (fun _ => True)
      (TokenEndpoint.call (Endpoints.issueCode env request)) :=
    Uses.mapError (uses_issue_code env request) fun _ _ => trivial
  refine uses.run_keeps inv ?_ base
  rintro op world (routine | ⟨row, rfl⟩) holds
  · exact keeps op world routine holds
  · exact inserts row world holds

/-! ### Requests that insert neither a token nor a code -/

def Inert : Op → Prop
  | .command (.saveToken _) => False
  | .command (.saveAuthorizationCode _) => False
  | _ => True

theorem inert_of_routine (op : Op) (routine : Routine op) : Inert op := by
  unfold Inert
  split
  · exact routine
  · exact routine
  · trivial

section Inert

variable {ε α : Type} {program : Program Server ε α}

theorem Harmless.inert (harmless : Harmless program) :
    Uses (S := Server) Inert (fun _ => True) program :=
  harmless.mono inert_of_routine fun _ raised => raised

theorem inert_command (write : Command) (inert : Inert (.command write)) :
    Uses (S := Server) Inert (fun _ => True) (command write : Program Server ε _) :=
  uses_command write inert

end Inert

theorem inert_delete_client (clientUuid : String) :
    Uses (S := Server) Inert (fun _ => True) (Administration.deleteClient clientUuid) := by
  unfold Administration.deleteClient
  apply Uses.bind (harmless_resolve_client clientUuid).inert
  intro client
  exact Uses.bind (inert_command _ (by trivial)) fun _ => trivial

theorem inert_set_client_enabled (env : Env) (clientUuid : String) (enabled : Option Bool) :
    Uses (S := Server) Inert (fun _ => True)
      (Administration.setClientEnabled env clientUuid enabled) := by
  unfold Administration.setClientEnabled
  apply Uses.bind (harmless_resolve_client clientUuid).inert
  intro client
  split
  · trivial
  · apply Uses.bind (harmless_touch_time env).inert
    intro now
    apply Uses.bind (inert_command _ (by trivial))
    intro _
    split
    · exact Uses.bind (Uses.map (inert_command _ (by trivial))) fun _ => trivial
    · trivial

theorem inert_update_client (clientUuid : String) (body : Except Response ClientUpdate) :
    Uses (S := Server) Inert (fun _ => True) (Administration.updateClient clientUuid body) := by
  unfold Administration.updateClient
  apply Uses.bind (harmless_resolve_client clientUuid).inert
  intro client
  apply Uses.bind (harmless_check body).inert
  intro update
  apply Uses.bind (harmless_ambient _).inert
  intro now
  dsimp only
  apply Uses.bind (inert_command _ (by trivial))
  intro _
  split
  · exact Uses.bind (Uses.map (inert_command _ (by trivial))) fun _ => trivial
  · trivial

/-- Only token requests insert tokens, and only authorization requests codes. -/
theorem serve_inert {env : Env} {world : World} {request : ServerRequest}
    (noToken : ∀ asked, request ≠ .token asked) (noCode : ∀ asked, request ≠ .issueCode asked)
    (inv : World → Prop) (keeps : ∀ op world, Inert op → inv world → inv (env.interp op world).2)
    (base : inv world) : inv (serve env world request) := by
  have uses : Uses (S := Server) Inert (fun _ => True) (request.program env) := by
    cases routine : request.isRoutine with
    | true => exact (harmless_of_routine env request routine).inert
    | false =>
        cases request with
        | token asked => exact absurd rfl (noToken asked)
        | issueCode asked => exact absurd rfl (noCode asked)
        | updateClient clientUuid body => exact Uses.map (inert_update_client clientUuid body)
        | deleteClient clientUuid => exact Uses.map (inert_delete_client clientUuid)
        | setClientEnabled clientUuid enabled =>
            exact Uses.map (inert_set_client_enabled env clientUuid enabled)
        | _ => cases routine
  exact uses.run_keeps inv keeps base

theorem serve_tokenless {env : Env} {world : World} {request : ServerRequest}
    (other : ∀ asked, request ≠ .token asked) (inv : World → Prop)
    (keeps : ∀ op world, (∀ row, op ≠ .command (.saveToken row)) → inv world →
      inv (env.interp op world).2)
    (base : inv world) : inv (serve env world request) := by
  have inert : ∀ op world, Inert op → inv world → inv (env.interp op world).2 := by
    intro op world inert holds
    refine keeps op world ?_ holds
    rintro row rfl
    exact inert
  by_cases asks : ∃ asked, request = .issueCode asked
  · obtain ⟨asked, rfl⟩ := asks
    refine serve_issue_code inv (fun op world routine => inert op world (inert_of_routine op routine))
      ?_ base
    intro row world holds
    exact keeps _ world (by simp) holds
  · exact serve_inert other (fun asked same => asks ⟨asked, same⟩) inv inert base

end OAuth2Server.Server
