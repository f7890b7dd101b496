import OAuth2Server.ClientLifecycle
import OAuth2Server.PartialUpdates
import OAuth2Server.UserLifecycle
import Mathlib.Data.List.Find

/-!
# Concurrent admin updates of one client or one user

A `PUT` reads the row, merges the submitted fields into what it read and writes
a fixed list of columns back; the other routes write one column. Whether an
update is lost depends on what is written between the reading and the writing
back.
-/

namespace OAuth2Server.AdminUpdates

open OAuth2Server Models JsonText Storage Effects Interaction Interaction.Program Tables
open Interleaving Interleaving.Pool PartialUpdates Administration Backends ClientLifecycle
open UserLifecycle Runs

set_option autoImplicit false

/-- The value of a column. -/
inductive Value where
  | text (value : String)
  | flag (value : Bool)
  deriving DecidableEq

/-- How far a request has come. -/
inductive Phase (Row : Type) where
  | reading
  | holding (row : Row)
  | through

structure Progress (Request Row : Type) where
  request : Request
  phase : Phase Row := .reading

/-! ### Clients -/

inductive ClientRequest where
  | update (body : Except Response ClientUpdate)
  | regenerateSecret
  | setEnabled (enabled : Option Bool)

def ClientRequest.program (env : Env) (clientUuid : String) : ClientRequest → Handler Response
  | .update body => updateClient clientUuid body
  | .regenerateSecret => regenerateClientSecret env clientUuid
  | .setEnabled enabled => setClientEnabled env clientUuid enabled

/-- The columns that some request submits. -/
inductive ClientField where
  | clientSecret
  | enabled
  | name
  | redirectUris
  | grantTypes
  | scope
  | tokenEndpointAuthMethod
  | jwks
  | jwksUri
  | tlsClientCertificateSubjectDn
  | backchannelLogoutUri
  | frontchannelLogoutUri
  | postLogoutRedirectUris
  deriving DecidableEq

def clientFields (client : Client) : ClientField → Value
  | .clientSecret => .text client.clientSecret
  | .enabled => .flag client.enabled
  | .name => .text client.name
  | .redirectUris => .text client.redirectUris
  | .grantTypes => .text client.grantTypes
  | .scope => .text client.scope
  | .tokenEndpointAuthMethod => .text client.tokenEndpointAuthMethod
  | .jwks => .text client.jwks
  | .jwksUri => .text client.jwksUri
  | .tlsClientCertificateSubjectDn => .text client.tlsClientCertificateSubjectDn
  | .backchannelLogoutUri => .text client.backchannelLogoutUri
  | .frontchannelLogoutUri => .text client.frontchannelLogoutUri
  | .postLogoutRedirectUris => .text client.postLogoutRedirectUris

/-- What the body of a `PUT` submits; it has no secret. -/
def clientSubmission (body : ClientUpdate) : ClientField → Option Value
  | .clientSecret => none
  | .enabled => body.enabled.map .flag
  | .name => body.name.map .text
  | .redirectUris => body.redirectUris.map .text
  | .grantTypes => body.grantTypes.map .text
  | .scope => body.scope.map .text
  | .tokenEndpointAuthMethod => body.tokenEndpointAuthMethod.map .text
  | .jwks => body.jwks.map .text
  | .jwksUri => body.jwksUri.map .text
  | .tlsClientCertificateSubjectDn => body.tlsClientCertificateSubjectDn.map .text
  | .backchannelLogoutUri => body.backchannelLogoutUri.map .text
  | .frontchannelLogoutUri => body.frontchannelLogoutUri.map .text
  | .postLogoutRedirectUris => body.postLogoutRedirectUris.map .text

/-- One column. -/
def only {φ : Type} [DecidableEq φ] (field : φ) (value : Value) (other : φ) : Option Value :=
  if other = field then some value else none

def clientEffect (request : ClientRequest) (event : Event Server) : Effect ClientField Value :=
  match request, event.op with
  | .update _, .query .listAllClients => .read
  | .update (.ok body), .command (.updateClient _) => .merge (clientSubmission body)
  | .regenerateSecret, .command (.setClientSecret _ clientSecret _) =>
      .assign (only .clientSecret (.text clientSecret))
  | .setEnabled _, .command (.setClientEnabled _ enabled _) =>
      .assign (only .enabled (.flag enabled))
  | _, _ => .none

theorem fields_apply (body : ClientUpdate) (client : Client) (now : Instant) :
    clientFields (body.apply client now) = overlay (clientSubmission body) (clientFields client) := by
  have column {α : Type} (wrap : α → Value) (submitted : Option α) (stored : α) :
      wrap (submitted.getD stored) = (submitted.map wrap).getD (wrap stored) := by
    cases submitted <;> rfl
  funext field
  cases field <;> first | rfl | exact column _ _ _

theorem fields_updated (backend : Backend) (client row : Client) :
    clientFields (updatedClient backend client row) = clientFields client := by
  funext field
  cases backend <;> cases field <;> rfl

/-- The requests on a client, operation by operation. -/
@[reducible] def clientSteps (clientUuid : String) : Contract Server (Progress ClientRequest Client) where
  allowed state op := match state.phase, op with
    | .reading, .query .listAllClients => True
    | .holding _, .ambient _ => True
    | .holding client, .command write => match state.request, write with
        | .update (.ok body), .updateClient updated => ∃ now, updated = body.apply client now
        | .regenerateSecret, .setClientSecret clientId _ _ => clientId = client.clientId
        | .setEnabled _, .setClientEnabled clientId _ _ => clientId = client.clientId
        | _, _ => False
    | .through, .command (.revokeTokensByClientId _) => True
    | _, _ => False
  possible _ _ := True
  after state op answer := match op, answer with
    | .query .listAllClients, clients =>
        { state with
          phase := match clients.find? (·.id == clientUuid) with
            | some client => .holding client
            | none => .through }
    | .command _, _ => { state with phase := .through }
    | _, _ => state

theorem client_steps_sound (clientUuid : String) (env : Env) :
    (clientSteps clientUuid).Sound env.interp := fun _ _ => trivial

theorem obeys_resolve_client {clientUuid : String} {request : ClientRequest}
    {rest : Client → Handler Response}
    (later : ∀ client, Obeys (clientSteps clientUuid) (fun _ _ => True)
      { request := request, phase := .holding client } (rest client)) :
    Obeys (clientSteps clientUuid) (fun _ _ => True) { request := request }
      (resolveClient clientUuid >>= rest) := by
  unfold resolveClient
  refine ⟨trivial, fun clients _ => ?_⟩
  cases found : clients.find? (·.id == clientUuid) with
  | none =>
      simp only [Program.bind, found]
      trivial
  | some client =>
      simp only [Program.bind, found]
      exact later client

theorem obeys_touch_time {env : Env} {clientUuid : String} {request : ClientRequest}
    {client : Client} {rest : Instant → Handler Response}
    (later : ∀ now, Obeys (clientSteps clientUuid) (fun _ _ => True)
      { request := request, phase := .holding client } (rest now)) :
    Obeys (clientSteps clientUuid) (fun _ _ => True)
      { request := request, phase := .holding client } (touchTime env >>= rest) := by
  unfold touchTime
  cases env.backend with
  | sql => exact later 0
  | mongo => exact ⟨trivial, fun now _ => later now⟩

theorem obeys_client_request (env : Env) (clientUuid : String) (request : ClientRequest) :
    Obeys (clientSteps clientUuid) (fun _ _ => True) { request := request }
      (request.program env clientUuid) := by
  cases request with
  | update body =>
      refine obeys_resolve_client fun client => ?_
      cases body with
      | error refusal => trivial
      | ok body =>
          refine ⟨trivial, fun now _ => ⟨⟨now, rfl⟩, fun _ _ => ?_⟩⟩
          dsimp only
          split
          · exact ⟨trivial, fun _ _ => trivial⟩
          · trivial
  | regenerateSecret =>
      refine obeys_resolve_client fun client => ?_
      cases client.isPublic with
      | true => trivial
      | false =>
          refine ⟨trivial, fun secret _ => ?_⟩
          refine obeys_touch_time fun now => ?_
          exact ⟨rfl, fun _ _ => trivial⟩
  | setEnabled enabled =>
      refine obeys_resolve_client fun client => ?_
      cases enabled with
      | none => trivial
      | some enabled =>
          refine obeys_touch_time fun now => ?_
          refine ⟨rfl, fun _ _ => ?_⟩
          cases enabled with
          | true => trivial
          | false => exact ⟨trivial, fun _ _ => trivial⟩

/-! ### The stored row -/

/-- The columns by which a row is found, which nothing rewrites. -/
structure SameClient (left right : Client) : Prop where
  id : left.id = right.id
  clientId : left.clientId = right.clientId
  createdAt : left.createdAt = right.createdAt

section ClientRows

variable {env : Env} {world later : World} {clientUuid : String} {row : Client}

theorem resolved_member (found : resolved env world clientUuid = some row) :
    row ∈ world.store.clients.rows :=
  List.mem_mergeSort.1 (List.mem_of_find?_eq_some found)

/-- A write that keeps what a row is found by changes the row that is found. -/
theorem resolved_map (change : Client → Client)
    (rows : later.store.clients.rows = world.store.clients.rows.map change)
    (stable : ∀ row ∈ world.store.clients.rows, SameClient (change row) row)
    (found : resolved env world clientUuid = some row) :
    resolved env later clientUuid = some (change row) := by
  have sorted : (world.store.clients.rows.mergeSort
      fun left right => decide (right.createdAt ≤ left.createdAt)).map change =
      (world.store.clients.rows.map change).mergeSort
        fun left right => decide (right.createdAt ≤ left.createdAt) := by
    apply List.map_mergeSort
    intro left leftIn right rightIn
    rw [(stable left leftIn).createdAt, (stable right rightIn).createdAt]
  unfold resolved at found ⊢
  simp only [Query.eval] at found ⊢
  rw [rows, ← sorted, List.find?_map]
  have same : (world.store.clients.rows.mergeSort
      fun left right => decide (right.createdAt ≤ left.createdAt)).find?
        ((fun other : Client => other.id == clientUuid) ∘ change) =
      (world.store.clients.rows.mergeSort
        fun left right => decide (right.createdAt ≤ left.createdAt)).find?
          (fun other : Client => other.id == clientUuid) := by
    apply List.find?_congr
    intro other member
    rw [Function.comp_apply, (stable other (List.mem_mergeSort.1 member)).id]
  rw [same, found]
  rfl

theorem resolved_kept (env : Env) (clientUuid : String)
    (clients : later.store.clients = world.store.clients) :
    resolved env later clientUuid = resolved env world clientUuid := by
  unfold resolved
  simp only [Query.eval, clients]

/-- Rewriting the row with the client's `client_id`. -/
theorem resolved_rewritten (change : Client → Client) {clientId : String}
    (rows : later.store.clients.rows = world.store.clients.rows.map fun other =>
      if other.clientId == clientId then change other else other)
    (found : resolved env world clientUuid = some row) (named : row.clientId = clientId)
    (stable : SameClient (change row) row) :
    resolved env later clientUuid = some (change row) := by
  have rewritten := resolved_map (fun other =>
    if other.clientId == clientId then change other else other) rows (by
      intro other member
      by_cases hit : other.clientId = clientId
      · have same : other = row := Table.eq_of_index world.store.clients
          (List.mem_singleton.2 rfl) member (resolved_member found) (hit.trans named.symm)
        subst same
        simpa [hit] using stable
      · simp only [beq_iff_eq, hit, if_false]
        exact ⟨rfl, rfl, rfl⟩) found
  simpa [named] using rewritten

/-- The operations a request on a client can be at. -/
inductive ClientStep (state : Progress ClientRequest Client) : Op → Prop
  | list (reading : state.phase = .reading) : ClientStep state (.query .listAllClients)
  | ambient (act : Ambient) : ClientStep state (.ambient act)
  | update (body : ClientUpdate) (client : Client) (now : Instant)
      (asked : state.request = .update (.ok body)) (holding : state.phase = .holding client) :
      ClientStep state (.command (.updateClient (body.apply client now)))
  | secret (client : Client) (clientSecret : String) (now : Instant)
      (asked : state.request = .regenerateSecret) (holding : state.phase = .holding client) :
      ClientStep state (.command (.setClientSecret client.clientId clientSecret now))
  | enabled (client : Client) (submitted : Option Bool) (enabled : Bool) (now : Instant)
      (asked : state.request = .setEnabled submitted) (holding : state.phase = .holding client) :
      ClientStep state (.command (.setClientEnabled client.clientId enabled now))
  | revoke (clientId : String) : ClientStep state (.command (.revokeTokensByClientId clientId))

theorem client_step_of_allowed {state : Progress ClientRequest Client} {op : Op}
    (permitted : (clientSteps clientUuid).allowed state op) : ClientStep state op := by
  obtain ⟨request, phase⟩ := state
  cases phase with
  | reading =>
      rcases op with read | write | act
      · cases read <;> first | exact permitted.elim | exact .list rfl
      · exact permitted.elim
      · exact permitted.elim
  | holding client =>
      rcases op with read | write | act
      · exact permitted.elim
      · cases request with
        | update body =>
            cases body with
            | error refusal => exact permitted.elim
            | ok body =>
                cases write <;> try exact permitted.elim
                obtain ⟨now, rfl⟩ := permitted
                exact .update body client now rfl rfl
        | regenerateSecret =>
            cases write <;> try exact permitted.elim
            cases permitted
            exact .secret client _ _ rfl rfl
        | setEnabled submitted =>
            cases write <;> try exact permitted.elim
            cases permitted
            exact .enabled client submitted _ _ rfl rfl
      · exact .ambient act
  | through =>
      rcases op with read | write | act
      · exact permitted.elim
      · cases write <;> try exact permitted.elim
        exact .revoke _
      · exact permitted.elim

/-- What a `PUT` in progress holds. -/
def heldClient (state : Progress ClientRequest Client) : Option (ClientField → Value) :=
  match state.request, state.phase with
  | .update _, .holding client => some (clientFields client)
  | _, _ => none

def clientView (env : Env) (clientUuid : String) (world : World) : Option (ClientField → Value) :=
  (resolved env world clientUuid).map clientFields

/-- Every request is about the row it resolved. -/
structure OneClient {ι : Type} (env : Env) (clientUuid : String) (requests : ι → ClientRequest)
    (world : World) (states : ι → Progress ClientRequest Client) : Prop where
  asked : ∀ thread, (states thread).request = requests thread
  held : ∀ thread client row, (states thread).phase = .holding client →
    resolved env world clientUuid = some row → SameClient client row

section ClientSteps

variable {ι : Type} [DecidableEq ι] {env : Env} {world : World} {clientUuid : String}
variable {requests : ι → ClientRequest} {states : ι → Progress ClientRequest Client}

theorem OneClient.moved {thread : ι} {later : World} {row next : Client}
    (one : OneClient env clientUuid requests world states)
    (found : resolved env world clientUuid = some row)
    (reached : resolved env later clientUuid = some next) (same : SameClient next row)
    (phase : Phase Client)
    (holding : ∀ client, phase = .holding client → SameClient client row) :
    OneClient env clientUuid requests later (Function.update states thread
      { request := (states thread).request, phase := phase }) := by
  constructor
  · intro other
    by_cases mover : other = thread
    · subst mover
      rw [Function.update_self]
      exact one.asked other
    · rw [Function.update_of_ne mover]
      exact one.asked other
  · intro other client stored held here
    cases reached.symm.trans here
    have before : SameClient client row := by
      by_cases mover : other = thread
      · subst mover
        rw [Function.update_self] at held
        exact holding client held
      · rw [Function.update_of_ne mover] at held
        exact one.held other client row held found
    exact ⟨before.id.trans same.id.symm, before.clientId.trans same.clientId.symm,
      before.createdAt.trans same.createdAt.symm⟩

/-- An operation that leaves the clients alone and submits nothing. -/
theorem client_step_idle {thread : ι} {op : Op} {row : Client} (phase : Phase Client)
    (one : OneClient env clientUuid requests world states)
    (found : resolved env world clientUuid = some row)
    (clients : (env.interp op world).2.store.clients = world.store.clients)
    (idle : clientEffect (requests thread) ⟨op, (env.interp op world).1⟩ = .none)
    (after : (clientSteps clientUuid).after (states thread) op (env.interp op world).1 =
      { request := (states thread).request, phase := phase })
    (holds : phase = .through ∨ phase = (states thread).phase) :
    OneClient env clientUuid requests (env.interp op world).2 (Function.update states thread
      ((clientSteps clientUuid).after (states thread) op (env.interp op world).1)) ∧
    ∃ after, clientView env clientUuid (env.interp op world).2 = some after ∧
      Acts (clientEffect (requests thread) ⟨op, (env.interp op world).1⟩) (clientFields row) after
        (heldClient (states thread))
        (heldClient ((clientSteps clientUuid).after (states thread) op (env.interp op world).1)) := by
  have kept := (resolved_kept env clientUuid clients).trans found
  rw [after, idle]
  refine ⟨one.moved found kept ⟨rfl, rfl, rfl⟩ phase ?_, clientFields row, ?_, rfl, ?_⟩
  · intro client holding
    rcases holds with rfl | rfl
    · cases holding
    · exact one.held thread client row holding found
  · unfold clientView
    rw [kept]
    rfl
  · rcases holds with rfl | rfl
    · left
      unfold heldClient
      split <;> first | rfl | contradiction
    · exact Or.inr rfl

/-- The write of a request. -/
theorem client_step_writes {thread : ι} {write : Command} {row next : Client}
    (one : OneClient env clientUuid requests world states)
    (found : resolved env world clientUuid = some row)
    (reached : resolved env (env.interp (.command write) world).2 clientUuid = some next)
    (same : SameClient next row)
    (acts : Acts (clientEffect (requests thread) ⟨.command write, (env.interp (.command write) world).1⟩)
      (clientFields row) (clientFields next) (heldClient (states thread)) none) :
    OneClient env clientUuid requests (env.interp (.command write) world).2
      (Function.update states thread ((clientSteps clientUuid).after (states thread)
        (.command write) (env.interp (.command write) world).1)) ∧
    ∃ after, clientView env clientUuid (env.interp (.command write) world).2 = some after ∧
      Acts (clientEffect (requests thread) ⟨.command write, (env.interp (.command write) world).1⟩)
        (clientFields row) after (heldClient (states thread))
        (heldClient ((clientSteps clientUuid).after (states thread) (.command write)
          (env.interp (.command write) world).1)) := by
  have through : heldClient ((clientSteps clientUuid).after (states thread) (.command write)
      (env.interp (.command write) world).1) = none := by
    change heldClient { request := (states thread).request, phase := .through } = none
    cases (states thread).request <;> rfl
  rw [through]
  refine ⟨one.moved found reached same .through ?_, clientFields next, ?_, acts⟩
  · intro client holding
    cases holding
  · unfold clientView
    rw [reached]
    rfl

theorem client_step_acts (thread : ι) (op : Op) (before : ClientField → Value)
    (permitted : (clientSteps clientUuid).allowed (states thread) op)
    (one : OneClient env clientUuid requests world states)
    (shown : clientView env clientUuid world = some before) :
    OneClient env clientUuid requests (env.interp op world).2 (Function.update states thread
      ((clientSteps clientUuid).after (states thread) op (env.interp op world).1)) ∧
    ∃ after, clientView env clientUuid (env.interp op world).2 = some after ∧
      Acts (clientEffect (requests thread) ⟨op, (env.interp op world).1⟩) before after
        (heldClient (states thread))
        (heldClient ((clientSteps clientUuid).after (states thread) op (env.interp op world).1)) := by
  obtain ⟨row, found, rfl⟩ := Option.map_eq_some_iff.1 shown
  have asked := one.asked thread
  have same : SameClient row row := ⟨rfl, rfl, rfl⟩
  cases client_step_of_allowed permitted with
  | list reading =>
      have after : (clientSteps clientUuid).after (states thread) (.query .listAllClients)
          (env.interp (.query .listAllClients) world).1 =
          { request := (states thread).request, phase := .holding row } := by
        change Progress.mk (states thread).request (match resolved env world clientUuid with
          | some client => .holding client
          | none => .through) = _
        rw [found]
      rw [after]
      refine ⟨one.moved found found same (.holding row) ?_, clientFields row, shown, ?_⟩
      · intro client holding
        cases holding
        exact same
      · rw [asked]
        cases requests thread with
        | update body => exact ⟨rfl, Or.inr rfl⟩
        | regenerateSecret => exact ⟨rfl, Or.inl rfl⟩
        | setEnabled enabled => exact ⟨rfl, Or.inl rfl⟩
  | ambient act =>
      refine client_step_idle (states thread).phase one found rfl ?_ rfl (Or.inr rfl)
      rcases requests thread with (refusal | body) | _ | submitted <;> rfl
  | revoke clientId =>
      refine client_step_idle .through one found (clients_kept rfl) ?_ rfl (Or.inl rfl)
      rcases requests thread with (refusal | body) | _ | submitted <;> rfl
  | update body client now update holding =>
      have held := one.held thread client row holding found
      have stable : SameClient (updatedClient env.backend (body.apply client now) row) row := by
        cases env.backend with
        | sql => exact ⟨rfl, rfl, rfl⟩
        | mongo => exact ⟨held.id, rfl, held.createdAt⟩
      refine client_step_writes one found (resolved_rewritten _
        (clients_after_update (body.apply client now)) found held.clientId.symm stable) stable ?_
      rw [← asked, update]
      refine ⟨⟨clientFields client, ?_, ?_⟩, rfl⟩
      · unfold heldClient
        rw [update, holding]
      · rw [fields_updated, fields_apply]
  | secret client clientSecret now regenerate holding =>
      have held := one.held thread client row holding found
      refine client_step_writes one found (resolved_rewritten _
        (clients_after_secret client.clientId clientSecret now) found held.clientId.symm
        ⟨rfl, rfl, rfl⟩) ⟨rfl, rfl, rfl⟩ ?_
      rw [← asked, regenerate]
      refine ⟨?_, Or.inl rfl⟩
      funext field
      cases field <;> rfl
  | enabled client submitted enabled now sets holding =>
      have held := one.held thread client row holding found
      refine client_step_writes one found (resolved_rewritten _
        (clients_after_enabled client.clientId enabled now) found held.clientId.symm
        ⟨rfl, rfl, rfl⟩) ⟨rfl, rfl, rfl⟩ ?_
      rw [← asked, sets]
      refine ⟨?_, Or.inl rfl⟩
      funext field
      cases field <;> rfl

/-- Requests on one client, none of which has begun. -/
def clientPool (env : Env) (clientUuid : String) (world : World) (requests : ι → ClientRequest) :
    Pool Server World Response Response ι :=
  Pool.start world fun thread => (requests thread).program env clientUuid

/-- What the requests did to the client's row, in order. -/
def clientHistory (env : Env) (clientUuid : String) (world : World) (requests : ι → ClientRequest)
    (schedule : List ι) : List (ι × Effect ClientField Value) :=
  effects (fun thread => clientEffect (requests thread))
    (trace env.interp (clientPool env clientUuid world requests) schedule)

/-- The stored row is the outcome of the requests' history. -/
theorem client_row_after (requests : ι → ClientRequest) {row : Client}
    (found : resolved env world clientUuid = some row)
    (schedule : List ι) :
    clientView env clientUuid
      (exec env.interp (clientPool env clientUuid world requests) schedule).world =
      some (run ⟨clientFields row, fun _ => clientFields row⟩
        (clientHistory env clientUuid world requests schedule)).record := by
  refine exec_refines (client_steps_sound clientUuid env)
    (fun thread => clientEffect (requests thread)) (clientView env clientUuid) heldClient
    (OneClient env clientUuid requests)
    (fun world states thread op before permitted one shown =>
      client_step_acts thread op before permitted one shown)
    (following_start fun thread => obeys_client_request env clientUuid (requests thread))
    ⟨fun _ => rfl, ?_⟩ ?_ ?_ schedule
  · intro thread client row holding
    cases holding
  · change (resolved env world clientUuid).map clientFields = _
    rw [found]
    rfl
  · intro thread
    change heldClient { request := requests thread } = none
    cases requests thread <;> rfl

end ClientSteps

end ClientRows

/-! ### Users -/

inductive UserRequest where
  | update (body : Except Response UserUpdate)
  | setEnabled (enabled : Option Bool)
  | setRole (role : String)
  | resetPassword (password : String)

def UserRequest.program (env : Env) (userId : String) : UserRequest → Handler Response
  | .update body => updateUser userId body
  | .setEnabled enabled => setUserEnabled env userId enabled
  | .setRole role => setUserRole env userId role
  | .resetPassword password => resetUserPassword env userId password

inductive UserField where
  | email
  | role
  | enabled
  | passwordHash
  deriving DecidableEq

def userFields (user : User) : UserField → Value
  | .email => .text user.email
  | .role => .text user.role
  | .enabled => .flag user.enabled
  | .passwordHash => .text user.passwordHash

/-- What the body of a `PUT` submits; an unknown role is not taken over. -/
def userSubmission (body : UserUpdate) : UserField → Option Value
  | .email => body.email.map .text
  | .role => (body.role.filter validRole).map .text
  | .enabled => body.enabled.map .flag
  | .passwordHash => none

/-- A `PUT` that the store refuses writes nothing. -/
def userEffect (request : UserRequest) (event : Event Server) : Effect UserField Value :=
  match request, event with
  | .update _, ⟨.query (.getUserById _), _⟩ => .read
  | .update (.ok body), ⟨.command (.updateUser _), .ok _⟩ => .merge (userSubmission body)
  | .setEnabled _, ⟨.command (.setUserEnabled _ enabled _), _⟩ =>
      .assign (only .enabled (.flag enabled))
  | .setRole _, ⟨.command (.setUserRole _ role _), _⟩ => .assign (only .role (.text role))
  | .resetPassword _, ⟨.command (.setUserPasswordHash _ passwordHash _), _⟩ =>
      .assign (only .passwordHash (.text passwordHash))
  | _, _ => .none

theorem user_fields_apply (body : UserUpdate) (user : User) (now : Instant) :
    userFields (body.apply user now) = overlay (userSubmission body) (userFields user) := by
  have column {α : Type} (wrap : α → Value) (submitted : Option α) (stored : α) :
      wrap (submitted.getD stored) = (submitted.map wrap).getD (wrap stored) := by
    cases submitted <;> rfl
  funext field
  cases field <;> first | rfl | exact column _ _ _

/-- The requests on a user, operation by operation. -/
@[reducible] def userSteps (userId : String) : Contract Server (Progress UserRequest User) where
  allowed state op := match state.phase, op with
    | .reading, .query (.getUserById id) => id = userId
    | .reading, .ambient _ => True
    | .reading, .command write => match state.request, write with
        | .setEnabled _, .setUserEnabled id _ _ => id = userId
        | .setRole _, .setUserRole id _ _ => id = userId
        | .resetPassword _, .setUserPasswordHash id _ _ => id = userId
        | _, _ => False
    | .holding _, .ambient _ => True
    | .holding user, .command (.updateUser updated) => match state.request with
        | .update (.ok body) => ∃ now, updated = body.apply user now
        | _ => False
    | .through, .command (.revokeTokensByUserId _) => True
    | _, _ => False
  possible _ _ := True
  after state op answer := match op, answer with
    | .query (.getUserById _), some user => { state with phase := .holding user }
    | .query (.getUserById _), none => { state with phase := .through }
    | .command _, _ => { state with phase := .through }
    | _, _ => state

theorem user_steps_sound (userId : String) (env : Env) : (userSteps userId).Sound env.interp :=
  fun _ _ => trivial

theorem obeys_user_request (env : Env) (userId : String) (request : UserRequest) :
    Obeys (userSteps userId) (fun _ _ => True) { request := request }
      (request.program env userId) := by
  have touches {state : Progress UserRequest User} {rest : Instant → Handler Response}
      (reading : state.phase = .reading)
      (later : ∀ now, Obeys (userSteps userId) (fun _ _ => True) state (rest now)) :
      Obeys (userSteps userId) (fun _ _ => True) state (touchTime env >>= rest) := by
    unfold touchTime
    cases env.backend with
    | sql => exact later 0
    | mongo =>
        refine ⟨?_, fun now _ => later now⟩
        dsimp only
        rw [reading]
        trivial
  cases request with
  | update body =>
      refine ⟨rfl, fun found _ => ?_⟩
      cases found with
      | none => trivial
      | some user =>
          cases body with
          | error refusal => trivial
          | ok body =>
              refine ⟨trivial, fun now _ => ⟨⟨now, rfl⟩, fun saved _ => ?_⟩⟩
              cases saved with
              | error failure => trivial
              | ok saved =>
                  change Obeys _ _ _ (if body.enabled == some false then _ else _)
                  split
                  · exact ⟨trivial, fun _ _ => trivial⟩
                  · trivial
  | setEnabled enabled =>
      cases enabled with
      | none => trivial
      | some enabled =>
          refine touches rfl fun now => ⟨rfl, fun _ _ => ?_⟩
          cases enabled with
          | true => trivial
          | false => exact ⟨trivial, fun _ _ => trivial⟩
  | setRole role =>
      change Obeys _ _ _ (Program.rejectIf _ _ >>= fun _ => _)
      cases validRole role with
      | false => trivial
      | true => exact touches rfl fun now => ⟨rfl, fun _ _ => trivial⟩
  | resetPassword password =>
      change Obeys _ _ _ (Program.rejectIf _ _ >>= fun _ => _)
      cases decide (password.toList.length < 8) with
      | true => trivial
      | false =>
          refine ⟨trivial, fun passwordHash _ => ?_⟩
          exact touches rfl fun now => ⟨rfl, fun _ _ => ⟨trivial, fun _ _ => trivial⟩⟩

def storedUser (userId : String) (world : World) : Option User :=
  world.store.users.find? (·.id == userId)

def heldUser (state : Progress UserRequest User) : Option (UserField → Value) :=
  match state.request, state.phase with
  | .update _, .holding user => some (userFields user)
  | _, _ => none

def userView (userId : String) (world : World) : Option (UserField → Value) :=
  (storedUser userId world).map userFields

/-- Rewriting the user's rows rewrites the one that is found. -/
theorem find_change_user (backend : Backend) (users : List User) (userId : String)
    (change : User → User) (keeps : ∀ user, (change user).id = user.id) :
    (changeUser backend users userId change).find? (·.id == userId) =
      (users.find? (·.id == userId)).map change := by
  induction users with
  | nil => cases backend <;> rfl
  | cons user rest induction =>
      by_cases hit : user.id = userId
      · cases backend <;> simp [changeUser, Table.changeFirst, hit, keeps]
      · cases backend with
        | sql =>
            have missed : (user.id == userId) = false := by simpa using hit
            simp only [changeUser, List.map_cons, missed, Bool.false_eq_true, if_false,
              List.find?_cons] at induction ⊢
            exact induction
        | mongo =>
            simp only [changeUser, Table.changeFirst] at induction ⊢
            simp [hit, induction]

/-- The operations a request on a user can be at. -/
inductive UserStep (userId : String) (state : Progress UserRequest User) : Op → Prop
  | lookup (reading : state.phase = .reading) : UserStep userId state (.query (.getUserById userId))
  | ambient (act : Ambient) : UserStep userId state (.ambient act)
  | update (body : UserUpdate) (user : User) (now : Instant)
      (asked : state.request = .update (.ok body)) (holding : state.phase = .holding user) :
      UserStep userId state (.command (.updateUser (body.apply user now)))
  | enabled (submitted : Option Bool) (enabled : Bool) (now : Instant)
      (asked : state.request = .setEnabled submitted) :
      UserStep userId state (.command (.setUserEnabled userId enabled now))
  | role (submitted role : String) (now : Instant) (asked : state.request = .setRole submitted) :
      UserStep userId state (.command (.setUserRole userId role now))
  | password (submitted passwordHash : String) (now : Instant)
      (asked : state.request = .resetPassword submitted) :
      UserStep userId state (.command (.setUserPasswordHash userId passwordHash now))
  | revoke (other : String) : UserStep userId state (.command (.revokeTokensByUserId other))

theorem user_step_of_allowed {userId : String} {state : Progress UserRequest User} {op : Op}
    (permitted : (userSteps userId).allowed state op) : UserStep userId state op := by
  obtain ⟨request, phase⟩ := state
  cases phase with
  | reading =>
      rcases op with read | write | act
      · cases read <;> try exact permitted.elim
        cases permitted
        exact .lookup rfl
      · cases request with
        | update body => exact permitted.elim
        | setEnabled submitted =>
            cases write <;> try exact permitted.elim
            cases permitted
            exact .enabled submitted _ _ rfl
        | setRole submitted =>
            cases write <;> try exact permitted.elim
            cases permitted
            exact .role submitted _ _ rfl
        | resetPassword submitted =>
            cases write <;> try exact permitted.elim
            cases permitted
            exact .password submitted _ _ rfl
      · exact .ambient act
  | holding user =>
      rcases op with read | write | act
      · exact permitted.elim
      · cases write <;> try exact permitted.elim
        rcases request with (refusal | body) | submitted | submitted | submitted
        · exact permitted.elim
        · obtain ⟨now, rfl⟩ := permitted
          exact .update body user now rfl rfl
        · exact permitted.elim
        · exact permitted.elim
        · exact permitted.elim
      · exact .ambient act
  | through =>
      rcases op with read | write | act
      · exact permitted.elim
      · cases write <;> try exact permitted.elim
        exact .revoke _
      · exact permitted.elim

/-- Every request is about the user it looked up. -/
structure OneUser {ι : Type} (userId : String) (requests : ι → UserRequest)
    (states : ι → Progress UserRequest User) : Prop where
  asked : ∀ thread, (states thread).request = requests thread
  held : ∀ thread user, (states thread).phase = .holding user → user.id = userId

section UserSteps

variable {ι : Type} [DecidableEq ι] {env : Env} {world : World} {userId : String}
variable {requests : ι → UserRequest} {states : ι → Progress UserRequest User}

theorem OneUser.moved {thread : ι} (one : OneUser userId requests states) (phase : Phase User)
    (holding : ∀ user, phase = .holding user → user.id = userId) :
    OneUser userId requests (Function.update states thread
      { request := (states thread).request, phase := phase }) := by
  constructor
  · intro other
    by_cases mover : other = thread
    · subst mover
      rw [Function.update_self]
      exact one.asked other
    · rw [Function.update_of_ne mover]
      exact one.asked other
  · intro other user held
    by_cases mover : other = thread
    · subst mover
      rw [Function.update_self] at held
      exact holding user held
    · rw [Function.update_of_ne mover] at held
      exact one.held other user held

theorem held_through (request : UserRequest) :
    heldUser { request := request, phase := .through } = none := by
  cases request <;> rfl

/-- An operation that leaves the users alone and submits nothing. -/
theorem user_step_idle {thread : ι} {op : Op} {before : UserField → Value} (phase : Phase User)
    (one : OneUser userId requests states) (shown : userView userId world = some before)
    (users : (env.interp op world).2.store.users = world.store.users)
    (idle : userEffect (requests thread) ⟨op, (env.interp op world).1⟩ = .none)
    (after : (userSteps userId).after (states thread) op (env.interp op world).1 =
      { request := (states thread).request, phase := phase })
    (holds : phase = .through ∨ phase = (states thread).phase) :
    OneUser userId requests (Function.update states thread
      ((userSteps userId).after (states thread) op (env.interp op world).1)) ∧
    ∃ after, userView userId (env.interp op world).2 = some after ∧
      Acts (userEffect (requests thread) ⟨op, (env.interp op world).1⟩) before after
        (heldUser (states thread))
        (heldUser ((userSteps userId).after (states thread) op (env.interp op world).1)) := by
  rw [after, idle]
  refine ⟨one.moved phase ?_, before, ?_, rfl, ?_⟩
  · intro user holding
    rcases holds with rfl | rfl
    · cases holding
    · exact one.held thread user holding
  · unfold userView storedUser at shown ⊢
    rw [users]
    exact shown
  · rcases holds with rfl | rfl
    · exact Or.inl (held_through _)
    · exact Or.inr rfl

/-- The write of a request. -/
theorem user_step_writes {thread : ι} {write : Command} {user : User} (change : User → User)
    (one : OneUser userId requests states) (found : storedUser userId world = some user)
    (users : (env.interp (.command write) world).2.store.users =
      changeUser env.backend world.store.users userId change)
    (keeps : ∀ user, (change user).id = user.id)
    (acts : Acts (userEffect (requests thread) ⟨.command write, (env.interp (.command write) world).1⟩)
      (userFields user) (userFields (change user)) (heldUser (states thread)) none) :
    OneUser userId requests (Function.update states thread ((userSteps userId).after (states thread)
      (.command write) (env.interp (.command write) world).1)) ∧
    ∃ after, userView userId (env.interp (.command write) world).2 = some after ∧
      Acts (userEffect (requests thread) ⟨.command write, (env.interp (.command write) world).1⟩)
        (userFields user) after (heldUser (states thread))
        (heldUser ((userSteps userId).after (states thread) (.command write)
          (env.interp (.command write) world).1)) := by
  have through : heldUser ((userSteps userId).after (states thread) (.command write)
      (env.interp (.command write) world).1) = none := held_through _
  rw [through]
  refine ⟨one.moved .through ?_, userFields (change user), ?_, acts⟩
  · intro user holding
    cases holding
  · unfold userView storedUser at *
    rw [users, find_change_user _ _ _ _ keeps, found]
    rfl

/-- The row that `update_user` writes over another. -/
def writtenUser (user row : User) : User :=
  { row with
    username := user.username
    email := user.email
    enabled := user.enabled
    role := user.role
    passwordHash := user.passwordHash
    updatedAt := user.updatedAt }

theorem user_update_exec (env : Env) (world : World) (user : User) :
    env.interp (.command (.updateUser user)) world =
      if usernameTaken world.store.users user then (.error .duplicateKey, world)
      else (.ok (), { world with store := { world.store with
        users := changeUser env.backend world.store.users user.id (writtenUser user) } }) := by
  change ((Command.exec env.backend world.store (.updateUser user)).1,
    { world with store := (Command.exec env.backend world.store (.updateUser user)).2 }) = _
  have executed : Command.exec env.backend world.store (.updateUser user) =
      if usernameTaken world.store.users user then (.error .duplicateKey, world.store)
      else (.ok (), { world.store with
        users := changeUser env.backend world.store.users user.id (writtenUser user) }) := rfl
  rw [executed]
  split <;> rfl

theorem user_step_acts (thread : ι) (op : Op) (before : UserField → Value)
    (permitted : (userSteps userId).allowed (states thread) op)
    (one : OneUser userId requests states) (shown : userView userId world = some before) :
    OneUser userId requests (Function.update states thread
      ((userSteps userId).after (states thread) op (env.interp op world).1)) ∧
    ∃ after, userView userId (env.interp op world).2 = some after ∧
      Acts (userEffect (requests thread) ⟨op, (env.interp op world).1⟩) before after
        (heldUser (states thread))
        (heldUser ((userSteps userId).after (states thread) op (env.interp op world).1)) := by
  have asked := one.asked thread
  have ⟨user, found, fields⟩ := Option.map_eq_some_iff.1 shown
  subst fields
  cases user_step_of_allowed permitted with
  | lookup reading =>
      have after : (userSteps userId).after (states thread) (.query (.getUserById userId))
          (env.interp (.query (.getUserById userId)) world).1 =
          { request := (states thread).request, phase := .holding user } := by
        have answer : (env.interp (.query (.getUserById userId)) world).1 = some user := found
        rw [answer]
      rw [after]
      refine ⟨one.moved (.holding user) ?_, userFields user, shown, ?_⟩
      · intro other holding
        cases holding
        simpa using List.find?_some found
      · rw [asked]
        cases requests thread with
        | update body => exact ⟨rfl, Or.inr rfl⟩
        | setEnabled enabled => exact ⟨rfl, Or.inl rfl⟩
        | setRole role => exact ⟨rfl, Or.inl rfl⟩
        | resetPassword password => exact ⟨rfl, Or.inl rfl⟩
  | ambient act =>
      refine user_step_idle (states thread).phase one shown rfl ?_ rfl (Or.inr rfl)
      rcases requests thread with (refusal | body) | submitted | submitted | submitted <;> rfl
  | revoke other =>
      refine user_step_idle .through one shown (users_kept rfl) ?_ rfl (Or.inl rfl)
      rcases requests thread with (refusal | body) | submitted | submitted | submitted <;> rfl
  | enabled submitted enabled now sets =>
      refine user_step_writes _ one found rfl (fun _ => rfl) ?_
      rw [← asked, sets]
      refine ⟨?_, Or.inl rfl⟩
      funext field
      cases field <;> rfl
  | role submitted role now sets =>
      refine user_step_writes _ one found rfl (fun _ => rfl) ?_
      rw [← asked, sets]
      refine ⟨?_, Or.inl rfl⟩
      funext field
      cases field <;> rfl
  | password submitted passwordHash now sets =>
      refine user_step_writes _ one found rfl (fun _ => rfl) ?_
      rw [← asked, sets]
      refine ⟨?_, Or.inl rfl⟩
      funext field
      cases field <;> rfl
  | update body held now update holding =>
      have named : (body.apply held now).id = userId := one.held thread held holding
      have executed := user_update_exec env world (body.apply held now)
      by_cases taken : usernameTaken world.store.users (body.apply held now) = true
      · rw [if_pos taken] at executed
        refine user_step_idle .through one shown ?_ ?_ rfl (Or.inl rfl)
        · rw [executed]
        · rw [executed, ← asked, update]
          rfl
      · rw [if_neg taken, named] at executed
        refine user_step_writes (writtenUser (body.apply held now)) one found ?_ (fun _ => rfl) ?_
        · rw [executed]
        · rw [executed, ← asked, update]
          refine ⟨⟨userFields held, ?_, ?_⟩, rfl⟩
          · unfold heldUser
            rw [update, holding]
          · rw [← user_fields_apply body held now]
            funext field
            cases field <;> rfl

def userPool (env : Env) (userId : String) (world : World) (requests : ι → UserRequest) :
    Pool Server World Response Response ι :=
  Pool.start world fun thread => (requests thread).program env userId

/-- What the requests did to the user's row, in order. -/
def userHistory (env : Env) (userId : String) (world : World) (requests : ι → UserRequest)
    (schedule : List ι) : List (ι × Effect UserField Value) :=
  effects (fun thread => userEffect (requests thread))
    (trace env.interp (userPool env userId world requests) schedule)

theorem user_row_after (env : Env) (requests : ι → UserRequest) {user : User}
    (found : storedUser userId world = some user) (schedule : List ι) :
    userView userId (exec env.interp (userPool env userId world requests) schedule).world =
      some (run ⟨userFields user, fun _ => userFields user⟩
        (userHistory env userId world requests schedule)).record := by
  refine exec_refines (user_steps_sound userId env)
    (fun thread => userEffect (requests thread)) (userView userId) heldUser
    (fun _ => OneUser userId requests)
    (fun world states thread op before permitted one shown =>
      user_step_acts thread op before permitted one shown)
    (following_start fun thread => obeys_user_request env userId (requests thread))
    ⟨fun _ => rfl, ?_⟩ ?_ ?_ schedule
  · intro thread user holding
    cases holding
  · change (storedUser userId world).map userFields = _
    rw [found]
    rfl
  · intro thread
    change heldUser { request := requests thread } = none
    cases requests thread <;> rfl

/-- Every field of the client's row holds what was last submitted for it. -/
def ClientUpdatesKept (env : Env) (clientUuid : String) (world : World)
    (requests : ι → ClientRequest) (schedule : List ι) : Prop :=
  ∀ row, resolved env world clientUuid = some row →
    ∃ after, resolved env (exec env.interp (clientPool env clientUuid world requests) schedule).world
        clientUuid = some after ∧
      ∀ field, clientFields after field = lastSubmitted (clientFields row)
        (clientHistory env clientUuid world requests schedule) field

def UserUpdatesKept (env : Env) (userId : String) (world : World) (requests : ι → UserRequest)
    (schedule : List ι) : Prop :=
  ∀ user, storedUser userId world = some user →
    ∃ after, storedUser userId
        (exec env.interp (userPool env userId world requests) schedule).world = some after ∧
      ∀ field, userFields after field = lastSubmitted (userFields user)
        (userHistory env userId world requests schedule) field

/-- No update is lost while no request writes, between the reading and the
writing back of a `PUT`, a field that the `PUT` does not submit. -/
theorem undisturbed_updates_kept (env : Env) (world : World) (schedule : List ι) :
    (∀ clientUuid requests, Undisturbed (clientHistory env clientUuid world requests schedule) →
      ClientUpdatesKept env clientUuid world requests schedule) ∧
    (∀ userId requests, Undisturbed (userHistory env userId world requests schedule) →
      UserUpdatesKept env userId world requests schedule) := by
  constructor
  · intro clientUuid requests undisturbed row found
    obtain ⟨after, stored, fields⟩ :=
      Option.map_eq_some_iff.1 (client_row_after requests found schedule)
    refine ⟨after, stored, fun field => ?_⟩
    rw [fields]
    exact record_last_submitted _ _ undisturbed field
  · intro userId requests undisturbed user found
    obtain ⟨after, stored, fields⟩ :=
      Option.map_eq_some_iff.1 (user_row_after env requests found schedule)
    refine ⟨after, stored, fun field => ?_⟩
    rw [fields]
    exact record_last_submitted _ _ undisturbed field

end UserSteps

/-! ### A password reset during a `PUT` -/

/-- Alice's password is reset while her email is updated. -/
def resetAndEmail : Bool → UserRequest
  | true => .resetPassword "password"
  | false => .update (.ok { email := some "new@example.org" })

/-- The reset falls between the reading and the writing back. -/
def straddled : List Bool := [false, true, true, true, false, false]

def oneAfterTheOther : List Bool := [true, true, true, false, false, false]

/-- The reset password is undone: the old hash is written back. -/
theorem password_reset_undone :
    ¬∀ (env : Env) (world : World) (userId : String) (requests : Bool → UserRequest)
      (schedule : List Bool), UserUpdatesKept env userId world requests schedule := by
  intro always
  obtain ⟨after, stored, fields⟩ :=
    always sampleEnv sampleAccount "alice" resetAndEmail straddled sampleUser rfl
  obtain ⟨old, last⟩ : (storedUser "alice" (exec sampleEnv.interp
        (userPool sampleEnv "alice" sampleAccount resetAndEmail) straddled).world).map
          User.passwordHash = some "" ∧
      lastSubmitted (userFields sampleUser)
        (userHistory sampleEnv "alice" sampleAccount resetAndEmail straddled) .passwordHash =
          .text "password" := by
    decide +kernel
  rw [stored] at old
  have kept := (fields .passwordHash).trans last
  simp only [userFields, Value.text.injEq] at kept
  simp only [Option.map_some, kept] at old
  exact absurd old (by decide)

theorem password_reset_kept :
    UserUpdatesKept sampleEnv "alice" sampleAccount resetAndEmail oneAfterTheOther := by
  apply (undisturbed_updates_kept sampleEnv sampleAccount oneAfterTheOther).2
  have history : userHistory sampleEnv "alice" sampleAccount resetAndEmail oneAfterTheOther =
      [(true, .none), (true, .assign (only .passwordHash (.text "password"))), (true, .none),
        (false, .read), (false, .none),
        (false, .merge (userSubmission { email := some "new@example.org" }))] := rfl
  rw [history]
  intro earlier party values later split
  -- The one merge is the last step, and nothing was submitted since its reading.
  rcases earlier with _ | ⟨_, _ | ⟨_, _ | ⟨_, _ | ⟨_, _ | ⟨_, _ | ⟨_, rest⟩⟩⟩⟩⟩⟩ <;>
    simp at split
  obtain ⟨rfl, rfl, rfl, rfl, rfl, ⟨rfl, rfl⟩, rfl⟩ := split
  refine ⟨[_, _, _], [_], rfl, ?_⟩
  intro event member
  rw [List.mem_singleton.1 member]
  refine ⟨by simp, ?_⟩
  intro field submitted
  cases submitted

end OAuth2Server.AdminUpdates
