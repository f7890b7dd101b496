import OAuth2Server.Runs
import OAuth2Server.Server

/-!
# Clients out of service and their tokens

Disabling a client revokes its tokens, whichever route disables it. Deleting a
client does not. As long as a deleted client has no live token at that moment,
every live token belongs to an enabled client.
-/

namespace OAuth2Server.ClientLifecycle

open OAuth2Server Models Tables Storage Effects Interaction Interaction.Program
open Dpop TokenEndpoint Administration Protocol Runs Backends Server

set_option autoImplicit false

variable {env : Env} {world : World}

/-- The client exists and is enabled. -/
def InService (store : Store) (clientId : String) : Prop :=
  ∃ client ∈ store.clients.rows, client.clientId = clientId ∧ client.enabled = true

def LiveTokensServed (store : Store) : Prop :=
  ∀ row ∈ store.tokens.rows, row.revoked = false → InService store row.clientId

instance (store : Store) (clientId : String) : Decidable (InService store clientId) :=
  inferInstanceAs (Decidable (∃ client ∈ store.clients.rows, _))

instance (store : Store) : Decidable (LiveTokensServed store) :=
  inferInstanceAs (Decidable (∀ row ∈ store.tokens.rows, _))

/-! ### Single operations -/

/-- Without an insertion, the live tokens were live before. -/
theorem live_before (op : Op) (routine : ∀ row, op ≠ .command (.saveToken row)) {row : Token}
    (member : row ∈ (env.interp op world).2.store.tokens.rows) (live : row.revoked = false) :
    ∃ before ∈ world.store.tokens.rows, before.revoked = false ∧
      before.clientId = row.clientId := by
  rcases (tokens_moved env world op).origin Evolves.refl member with
    ⟨before, old, evolves⟩ | inserted
  · refine ⟨before, old, ?_, evolves.clientId.symm⟩
    by_contra revoked
    have later := evolves.revoked (by simpa using revoked)
    rw [live] at later
    cases later
  · exact absurd inserted (routine row)

/-- A routine operation leaves every client in service. -/
theorem in_service_routine (op : Op) (routine : Routine op) {clientId : String}
    (serves : InService world.store clientId) : InService (env.interp op world).2.store clientId := by
  obtain ⟨client, member, sameId, enabled⟩ := serves
  rcases op with read | write | act
  · exact ⟨client, member, sameId, enabled⟩
  · by_cases apart : writesClients write = false
    · have same : (env.interp (.command write) world).2.store.clients = world.store.clients :=
        clients_kept apart
      exact ⟨client, same ▸ member, sameId, enabled⟩
    · cases write with
      | saveClient added =>
          have stored := inserted_cases env.backend world.store.clients Client.id added
            (fun table => { world.store with clients := table }) world.store
          simp only [InService, interp_command, Command.exec]
          rcases stored with refused | ⟨grown, accepted, appended⟩
          · rw [refused]
            exact ⟨client, member, sameId, enabled⟩
          · rw [accepted]
            refine ⟨client, ?_, sameId, enabled⟩
            simp only [appended]
            exact List.mem_append_left _ member
      | setClientSecret changed secret now =>
          simp only [InService, interp_command, clients_after_secret, List.mem_map]
          refine ⟨_, ⟨client, member, rfl⟩, ?_, ?_⟩
          · split <;> exact sameId
          · split <;> exact enabled
      | updateClient | deleteClient | setClientEnabled => cases routine
      | _ => exact absurd rfl apart
  · exact ⟨client, member, sameId, enabled⟩

theorem served_routine (op : Op) (world : World) (routine : Routine op)
    (served : LiveTokensServed world.store) : LiveTokensServed (env.interp op world).2.store := by
  intro row member live
  have kept : ∀ saved, op ≠ .command (.saveToken saved) := by
    intro saved same
    rw [same] at routine
    exact routine
  obtain ⟨before, old, liveBefore, sameClient⟩ := live_before op kept member live
  have serves := served before old liveBefore
  rw [sameClient] at serves
  exact in_service_routine op routine serves

/-! ### Token requests -/

/-- The client a request has authenticated is in the store. -/
structure Serving (session : Session) (world : World) : Prop where
  served : LiveTokensServed world.store
  known : ∀ client, session.client = some client → client ∈ world.store.clients.rows
  consistent : Consistent session

theorem serving_move {session : Session} {op : Op} (move : Move session op)
    (serving : Serving session world) :
    Serving (after session op (env.interp op world).1) (env.interp op world).2 := by
  have clients := clients_moved env world move
  have inService : ∀ clientId, InService world.store clientId →
      InService (env.interp op world).2.store clientId := by
    intro clientId serves
    unfold InService at serves ⊢
    rw [clients]
    exact serves
  constructor
  · intro row member live
    rcases (tokens_moved env world op).origin Evolves.refl member with
      ⟨before, old, evolves⟩ | inserted
    · have liveBefore : before.revoked = false := by
        by_contra revoked
        have later := evolves.revoked (by simpa using revoked)
        rw [live] at later
        cases later
      rw [evolves.clientId]
      exact inService _ (serving.served before old liveBefore)
    · subst inserted
      cases move with
      | aside settled => cases settled
      | save request row entered records =>
          have entitled := serving.consistent
          simp only [Consistent, entered] at entitled
          have stored := serving.known request.client entitled.1
          rw [records.clientId]
          exact inService _ ⟨request.client, stored, rfl, entitled.2.1⟩
  · intro client known
    rw [clients]
    rcases client_after known with before | ⟨clientId, looked⟩
    · exact serving.known client before
    · obtain ⟨rfl, answer⟩ := Sigma.mk.inj_iff.1 looked
      exact (Table.mem_of_first (eq_of_heq answer)).1
  · exact consistent_after move serving.consistent

theorem served_token (request : Request) (served : LiveTokensServed world.store) :
    LiveTokensServed (serve env world (.token request)).store := by
  have state : serve env world (.token request) =
      ((TokenEndpoint.token env request).run env.interp world).2 := state_discard _
  have base : Serving { origin := .token request } world := by
    refine ⟨served, ?_, trivial⟩
    intro client known
    cases known
  obtain ⟨session, _, serving⟩ := token_run_invariant env world request Serving (fun _ _ => True)
    (fun session world op move _ serving => serving_move move serving)
    (along_of_forall env.interp (fun _ _ => trivial) _ world) base
  rw [state]
  exact serving.served

/-! ### The admin routes that change clients -/

/-- The client an admin route names by the `id` of its row. -/
def resolved (env : Env) (world : World) (clientUuid : String) : Option Client :=
  (Query.eval env.backend world.store .listAllClients).find? (·.id == clientUuid)

theorem run_resolve_client (clientUuid : String) :
    (resolveClient clientUuid).run env.interp world =
      (match resolved env world clientUuid with
        | some client => .ok client
        | none => .error clientNotFound, world) := by
  unfold resolveClient
  rw [run_query_bind]
  unfold resolved
  cases (Query.eval env.backend world.store .listAllClients).find? (·.id == clientUuid) with
  | none => rfl
  | some client => rfl

theorem serve_delete_client (clientUuid : String) :
    (serve env world (.deleteClient clientUuid)).store =
      match resolved env world clientUuid with
      | some client => (Command.exec env.backend world.store (.deleteClient client.clientId)).2
      | none => world.store := by
  have unfolded : serve env world (.deleteClient clientUuid) =
      ((deleteClient clientUuid).run env.interp world).2 := state_discard _
  rw [unfolded]
  unfold deleteClient
  rw [run_bind, run_resolve_client]
  cases resolved env world clientUuid with
  | none => rfl
  | some client => rfl

theorem serve_set_client_enabled (env : Env) (world : World) (clientUuid : String) (enabled : Option Bool) :
    ∃ now, (serve env world (.setClientEnabled clientUuid enabled)).store =
      match resolved env world clientUuid, enabled with
      | some client, some flag =>
          let store := (Command.exec env.backend world.store
            (.setClientEnabled client.clientId flag now)).2
          if flag then store
          else (Command.exec env.backend store (.revokeTokensByClientId client.clientId)).2
      | _, _ => world.store := by
  have unfolded : serve env world (.setClientEnabled clientUuid enabled) =
      ((setClientEnabled env clientUuid enabled).run env.interp world).2 := state_discard _
  rw [unfolded]
  unfold setClientEnabled
  rw [run_bind, run_resolve_client]
  cases resolved env world clientUuid with
  | none => exact ⟨0, rfl⟩
  | some client =>
      cases enabled with
      | none => exact ⟨0, rfl⟩
      | some flag =>
          dsimp only
          unfold touchTime
          split
          · exact ⟨0, by cases flag <;> rfl⟩
          · exact ⟨env.platform.clock world.process.readings, by cases flag <;> rfl⟩

theorem serve_update_client (env : Env) (world : World) (clientUuid : String)
    (body : Except Response ClientUpdate) :
    ∃ now, (serve env world (.updateClient clientUuid body)).store =
      match resolved env world clientUuid, body with
      | some client, .ok update =>
          let store := (Command.exec env.backend world.store
            (.updateClient (update.apply client now))).2
          if update.enabled == some false then
            (Command.exec env.backend store (.revokeTokensByClientId client.clientId)).2
          else store
      | _, _ => world.store := by
  have unfolded : serve env world (.updateClient clientUuid body) =
      ((updateClient clientUuid body).run env.interp world).2 := state_discard _
  rw [unfolded]
  unfold updateClient
  rw [run_bind, run_resolve_client]
  refine ⟨env.platform.clock world.process.readings, ?_⟩
  cases resolved env world clientUuid with
  | none => rfl
  | some client =>
      cases body with
      | error response => rfl
      | ok update =>
          dsimp only [Program.ofExcept]
          rw [done_bind, run_ambient_bind, run_command_bind]
          split <;> rfl

theorem resolved_mem {clientUuid : String} {client : Client}
    (found : resolved env world clientUuid = some client) :
    client ∈ world.store.clients.rows := by
  have member := List.mem_of_find?_eq_some found
  exact List.mem_mergeSort.1 member

/-- The client a deletion names has no live token. -/
def DeletesIdle (env : Env) (world : World) : ServerRequest → Prop
  | .deleteClient clientUuid =>
      ∀ client ∈ resolved env world clientUuid, ∀ row ∈ world.store.tokens.rows,
        row.clientId = client.clientId → row.revoked = true
  | _ => True

theorem served_delete (clientUuid : String) (idle : DeletesIdle env world (.deleteClient clientUuid))
    (served : LiveTokensServed world.store) :
    LiveTokensServed (serve env world (.deleteClient clientUuid)).store := by
  rw [serve_delete_client]
  cases found : resolved env world clientUuid with
  | none => exact served
  | some client =>
      intro row member live
      have old : row ∈ world.store.tokens.rows := member
      obtain ⟨owner, stored, sameId, enabled⟩ := served row old live
      have other : row.clientId ≠ client.clientId := by
        intro same
        have revoked := idle client found row old same
        rw [live] at revoked
        cases revoked
      refine ⟨owner, ?_, sameId, enabled⟩
      rw [clients_after_delete]
      refine List.mem_filter.2 ⟨stored, ?_⟩
      rw [sameId]
      simpa using other

/-- A client row that stays enabled under a rewrite of the rows with one
`client_id` keeps its tokens served. -/
theorem served_rewrite {store later : Store} (served : LiveTokensServed store) (clientId : String)
    (change : Client → Client)
    (tokens : ∀ row ∈ later.tokens.rows, row.revoked = false → row ∈ store.tokens.rows)
    (rows : later.clients.rows = store.clients.rows.map fun row =>
      if row.clientId == clientId then change row else row)
    (keepsId : ∀ row, (change row).clientId = row.clientId)
    (enables : ∀ row ∈ store.clients.rows, row.clientId = clientId → row.enabled = true →
      (∃ token ∈ later.tokens.rows, token.revoked = false ∧ token.clientId = clientId) →
      (change row).enabled = true) : LiveTokensServed later := by
  intro row member live
  obtain ⟨owner, stored, sameId, enabled⟩ := served row (tokens row member live) live
  refine ⟨_, by rw [rows]; exact List.mem_map_of_mem stored, ?_, ?_⟩
  · split
    · rw [keepsId, sameId]
    · exact sameId
  · split
    · rename_i hit
      have named : owner.clientId = clientId := by simpa using hit
      exact enables owner stored named enabled ⟨row, member, live, sameId.symm.trans named⟩
    · exact enabled

theorem live_after_sweep {store : Store} {clientId : String} {row : Token}
    (member : row ∈ (Command.exec env.backend store
      (.revokeTokensByClientId clientId)).2.tokens.rows) (live : row.revoked = false) :
    row ∈ store.tokens.rows ∧ row.clientId ≠ clientId := by
  obtain ⟨before, old, rewritten⟩ := List.mem_map.1 member
  split at rewritten
  · subst rewritten
    cases live
  · rename_i missed
    subst rewritten
    refine ⟨old, ?_⟩
    intro same
    simp [same, live] at missed

theorem served_set_enabled (clientUuid : String) (enabled : Option Bool)
    (served : LiveTokensServed world.store) :
    LiveTokensServed (serve env world (.setClientEnabled clientUuid enabled)).store := by
  obtain ⟨now, state⟩ := serve_set_client_enabled env world clientUuid enabled
  rw [state]
  cases found : resolved env world clientUuid with
  | none => exact served
  | some client =>
      cases enabled with
      | none => exact served
      | some flag =>
          cases flag with
          | true =>
              refine served_rewrite served client.clientId _ (fun row member _ => member)
                (clients_after_enabled client.clientId true now) (fun _ => rfl) ?_
              intro row _ _ _ _
              rfl
          | false =>
              refine served_rewrite served client.clientId _
                (fun row member live => (live_after_sweep member live).1)
                (clients_after_enabled client.clientId false now) (fun _ => rfl) ?_
              rintro row _ _ _ ⟨token, member, live, same⟩
              exact absurd same (live_after_sweep member live).2

theorem served_update (clientUuid : String) (body : Except Response ClientUpdate)
    (served : LiveTokensServed world.store) :
    LiveTokensServed (serve env world (.updateClient clientUuid body)).store := by
  obtain ⟨now, state⟩ := serve_update_client env world clientUuid body
  rw [state]
  cases found : resolved env world clientUuid with
  | none => exact served
  | some client =>
      cases body with
      | error response => exact served
      | ok update =>
          have member := resolved_mem found
          have keepsId : ∀ row : Client,
              (updatedClient env.backend (update.apply client now) row).clientId = row.clientId := by
            intro row
            unfold updatedClient
            split <;> rfl
          have written : ∀ row : Client,
              (updatedClient env.backend (update.apply client now) row).enabled =
                update.enabled.getD client.enabled := by
            intro row
            unfold updatedClient ClientUpdate.apply
            split <;> rfl
          dsimp only
          split
          · refine served_rewrite served client.clientId _
              (fun row member live => (live_after_sweep member live).1)
              (clients_after_update (update.apply client now)) keepsId ?_
            rintro row _ _ _ ⟨token, member, live, same⟩
            exact absurd same (live_after_sweep member live).2
          · rename_i kept
            refine served_rewrite served client.clientId _ (fun row member _ => member)
              (clients_after_update (update.apply client now)) keepsId ?_
            intro row stored same enabled _
            have one : row = client := Table.eq_of_index world.store.clients
              (List.mem_singleton.2 rfl) stored member same
            rw [written]
            cases flag : update.enabled with
            | none => exact one ▸ enabled
            | some value =>
                cases value with
                | true => rfl
                | false =>
                    rw [flag] at kept
                    exact absurd rfl kept

theorem served_issue_code (request : Endpoints.CodeRequest)
    (served : LiveTokensServed world.store) :
    LiveTokensServed (serve env world (.issueCode request)).store := by
  refine serve_issue_code (fun world => LiveTokensServed world.store)
    (fun op world => served_routine op world) ?_ served
  intro code world served row member live
  have clients : (env.interp (.command (.saveAuthorizationCode code)) world).2.store.clients =
      world.store.clients := clients_kept rfl
  have tokens : (env.interp (.command (.saveAuthorizationCode code)) world).2.store.tokens =
      world.store.tokens := tokens_kept rfl
  rw [tokens] at member
  unfold InService
  rw [clients]
  exact served row member live

/-- In every run of the server from a store without tokens, as long as no client
is deleted while it has a live token, every live token belongs to a client that
exists and is enabled. -/
theorem live_tokens_served (env : Env) (world : World) (requests : List ServerRequest)
    (fresh : world.store.tokens.rows = [])
    (idle : Throughout env (DeletesIdle env) world requests) :
    LiveTokensServed (serveAll env world requests).store := by
  refine serve_all_invariant (fun world => LiveTokensServed world.store) (DeletesIdle env) ?_ ?_
    requests idle
  · intro world request idle served
    cases routine : request.isRoutine with
    | true =>
        exact serve_routine routine (fun world => LiveTokensServed world.store)
          (fun op world => served_routine op world) served
    | false =>
        cases request with
        | token request => exact served_token request served
        | issueCode request => exact served_issue_code request served
        | updateClient clientUuid body => exact served_update clientUuid body served
        | deleteClient clientUuid => exact served_delete clientUuid idle served
        | setClientEnabled clientUuid enabled => exact served_set_enabled clientUuid enabled served
        | _ => cases routine
  · intro row member
    rw [fresh] at member
    cases member

/-- The sample code is redeemed, its client disabled and then deleted. -/
theorem live_tokens_served_after_disabling :
    (serveAll sampleEnv sampleCodeWorld
        [.token sampleRedemption, .setClientEnabled "client-row" (some false),
          .deleteClient "client-row"]).store.tokens.rows.map Token.revoked = [true] ∧
      LiveTokensServed (serveAll sampleEnv sampleCodeWorld
        [.token sampleRedemption, .setClientEnabled "client-row" (some false),
          .deleteClient "client-row"]).store := by
  have idle : ∀ client ∈ resolved sampleEnv (serveAll sampleEnv sampleCodeWorld
        [.token sampleRedemption, .setClientEnabled "client-row" (some false)]) "client-row",
      ∀ row ∈ (serveAll sampleEnv sampleCodeWorld [.token sampleRedemption,
        .setClientEnabled "client-row" (some false)]).store.tokens.rows,
      row.clientId = client.clientId → row.revoked = true := by
    decide +kernel
  exact ⟨by decide +kernel, live_tokens_served sampleEnv sampleCodeWorld _ rfl
    ⟨trivial, trivial, idle, trivial⟩⟩

/-- The client is deleted right after the redemption: its token stays live. -/
theorem deleted_client_keeps_token :
    (serveAll sampleEnv sampleCodeWorld
        [.token sampleRedemption, .deleteClient "client-row"]).store.clients.rows = [] ∧
      ¬LiveTokensServed (serveAll sampleEnv sampleCodeWorld
        [.token sampleRedemption, .deleteClient "client-row"]).store := by
  decide +kernel

end OAuth2Server.ClientLifecycle
