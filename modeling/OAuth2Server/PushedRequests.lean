import OAuth2Server.AuthorizeCodes
import OAuth2Server.Dictionaries
import OAuth2Server.LoginRoundTrip
import Mathlib.Data.List.Perm.Subperm

/-!
# Where a pushed request is applied

A push stores one entry under a drawn URI, and an authorization request that
names the URI takes the entry out. The entries applied so far and those still
in the store are together no more than the entries stored, so that none is
applied twice.
-/

namespace OAuth2Server.PushedRequests

open OAuth2Server Models JsonText Storage Effects Interaction Interaction.Program
open Process ClientAuth Endpoints FrontChannel AuthorizeResponse RequestObject Authorize
open AuthorizeExits ClientIdentity LoginGate Footprints AuthorizeCodes LoginRoundTrip Dictionaries

set_option autoImplicit false

/-! ### Visits -/

/-- A request to one of the two endpoints that share the store. -/
inductive ParUse where
  | push (request : ParRequest)
  | authorize (query : String)

def ParUse.handler (env : Env) : ParUse → FrontHandler Response
  | .push request => par env request
  | .authorize query => Authorize.authorize env query

/-- A request and the state of the process it finds, with the session of its browser. -/
structure Visit where
  before : FrontWorld
  asked : ParUse

def Visit.answer (front : FrontEnv) (visit : Visit) : Response × FrontWorld :=
  (visit.asked.handler front.env).respond front.interp visit.before

def Visit.after (front : FrontEnv) (visit : Visit) : FrontWorld := (visit.answer front).2

/-- What a push has stored, under the URI of its answer. -/
def Visit.stored (front : FrontEnv) (visit : Visit) : Option (String × ParEntry) :=
  match visit.asked with
  | .authorize _ => none
  | .push _ =>
      if (visit.answer front).1.status = 201 then
        (((visit.answer front).1.body.get? "request_uri").bind Json.str?).bind fun requestUri =>
          ((visit.after front).parStore.lookup requestUri).map fun entry => (requestUri, entry)
      else none

/-- The entry whose parameters replace those of a query. -/
def appliedEntry (front : FrontEnv) (query : String) (state : FrontWorld) :
    Option (String × ParEntry) :=
  let params : Form := QueryText.parseQsl query
  if (params.map Prod.fst).Nodup then
    (params.get "request_uri").bind fun requestUri =>
      ((takePar requestUri (front.monotonic state) state.parStore).1.filter fun entry =>
        some entry.clientId == params.get "client_id").map fun entry => (requestUri, entry)
  else none

def Visit.applied (front : FrontEnv) (visit : Visit) : Option (String × ParEntry) :=
  match visit.asked with
  | .push _ => none
  | .authorize query => appliedEntry front query visit.before

/-- Between two visits the process serves other requests, none of which pushes
or resolves one. -/
structure Meanwhile (earlier later : FrontWorld) : Prop where
  parStore : later.parStore = earlier.parStore
  draws : earlier.world.process.draws ≤ later.world.process.draws

/-- Visits in the order they were made to a process that started without entries. -/
inductive Sequence (front : FrontEnv) : List Visit → FrontWorld → Prop
  | start (state : FrontWorld) : state.parStore = [] → Sequence front [] state
  | visit {earlier : List Visit} {reached : FrontWorld} (visit : Visit) :
      Sequence front earlier reached → Meanwhile reached visit.before →
        Sequence front (earlier ++ [visit]) (visit.after front)

/-! ### A push -/

section Pushing

variable {front : FrontEnv} {state later : FrontWorld}

/-- The body of a push, parsed. -/
def pushedParams (request : ParRequest) : Option Form :=
  (Text.utf8Decode request.body).map fun body => QueryText.parseQsl (String.ofList body)

/-- An entry and the push that made it: the client of the entry is the one that
was authenticated, and its parameters are those of the body less the
credentials. -/
structure PushedBy (front : FrontEnv) (request : ParRequest) (state later : FrontWorld)
    (entry : ParEntry) : Prop where
  body : ∃ params, pushedParams request = some params ∧
    entry.params = params.filter (fun pair => !strippedKeys.contains pair.1) ∧
    Form.get params "client_id" = some entry.clientId ∧
    ∃ client reached, (authenticate front.env params request.credentials).run front.env.interp
      state.world = (.ok client, reached) ∧ client.clientId = entry.clientId
  stamped : ∃ reading, During state.world later.world reading ∧
    entry.createdAt = front.env.platform.monotonic reading

/-- The credentials of a form that names its client are those of that client. -/
theorem presented_named {form : Form} {authorization secret presentedId : Option String}
    {clientId : String} (named : form.get "client_id" = some clientId) (nonempty : clientId ≠ "")
    (presented : presentedCredentials form authorization = .ok (presentedId, secret)) :
    presentedId = some clientId := by
  have truthy : Text.truthy (some clientId) = true := by simpa [Text.truthy] using nonempty
  unfold presentedCredentials at presented
  obtain ⟨basic, _, presented⟩ := except_bind_eq_ok.1 presented
  cases basic with
  | none =>
      cases presented
      exact named
  | some pair =>
      obtain ⟨basicId, basicSecret⟩ := pair
      dsimp only at presented
      rw [named, truthy] at presented
      by_cases same : clientId = basicId
      · subst same
        simp only [bne_self_eq_false, Bool.and_false, Bool.false_eq_true, if_false] at presented
        split at presented
        · cases presented
        · cases presented
          rfl
      · have differs : (some clientId != some basicId) = true := by simpa using same
        rw [differs] at presented
        cases presented

/-- The client of a form that names one is the client it names. -/
theorem authenticated_named {form : Form} {credentials : Credentials} {client : Client}
    {clientId : String} {world reached : World} (named : form.get "client_id" = some clientId)
    (nonempty : clientId ≠ "")
    (returned : (authenticate front.env form credentials).run front.env.interp world =
      (.ok client, reached)) : client.clientId = clientId := by
  have truthy : Text.truthy (some clientId) = true := by simpa [Text.truthy] using nonempty
  unfold authenticate at returned
  obtain ⟨⟨presentedId, secret⟩, presented, returned⟩ := run_of_except_bind_eq_ok returned
  have same := presented_named named nonempty presented
  subst same
  have kept : (some clientId).filter (· != "") = some clientId := by
    simpa [Option.filter_eq_some_iff] using nonempty
  dsimp only at returned
  rw [if_pos truthy, kept] at returned
  dsimp only at returned
  rw [run_query_bind] at returned
  split at returned
  · rename_i row found
    obtain ⟨_, returned⟩ := run_reject_bind_eq_ok returned
    obtain ⟨_, _, _, returned⟩ := run_bind_eq_ok returned
    obtain ⟨_, returned⟩ := run_reject_bind_eq_ok returned
    obtain ⟨_, _, _, ends⟩ := run_bind_eq_ok returned
    cases ends
    have member := Tables.Table.mem_of_first found
    simpa using member.2
  · cases returned

/-- The steps of a push before it stores anything. -/
def acceptPush (env : Env) (request : ParRequest) : FrontHandler (String × Form) :=
  match Text.utf8Decode request.body with
  | none => throw (parError "Invalid PAR request body encoding")
  | some body => do
      let params := QueryText.parseQsl (String.ofList body)
      rejectIf (!decide (params.map Prod.fst).Nodup)
        (parError "Duplicate parameter in PAR request")
      match (Form.get params "client_id").filter (· != "") with
      | none => throw (parError "Missing client_id in PAR request")
      | some clientId =>
          rejectIf (!Text.truthy (Form.get params "response_type"))
            (parError "Missing response_type in PAR request")
          let _ ← onServer (TokenEndpoint.call (authenticate env params request.credentials))
          pure (clientId, params)

/-- The answer to a push that was stored. -/
def pushAnswer (requestUri : String) : Response :=
  noStore (json 201 [("request_uri", .str requestUri), ("expires_in", .int 60)])

theorem par_eq (env : Env) (request : ParRequest) :
    par env request = acceptPush env request >>= fun accepted =>
      FrontChannel.perform (.storePar accepted.1
        (accepted.2.filter fun pair => !strippedKeys.contains pair.1)) >>= fun requestUri =>
          pure (pushAnswer requestUri) := by
  unfold par acceptPush
  cases Text.utf8Decode request.body with
  | none => rfl
  | some body =>
      dsimp only
      rw [bind_assoc]
      congr 1
      funext _
      cases (Form.get (QueryText.parseQsl (String.ofList body)) "client_id").filter (· != "") with
      | none => rfl
      | some clientId =>
          dsimp only
          rw [bind_assoc]
          congr 1
          funext _
          rw [bind_assoc]
          rfl

theorem uses_accept_push (env : Env) (request : ParRequest) :
    Uses (S := Front) KeepsPushed Page (acceptPush env request) := by
  have refused : ∀ description, Page (parError description) := fun _ => by
    show 400 ≤ 400
    omega
  unfold acceptPush
  cases Text.utf8Decode request.body with
  | none => exact refused _
  | some body =>
      dsimp only
      apply Uses.bind ((uses_reject_if _ _).2 fun _ => refused _)
      intro _
      cases (Form.get (QueryText.parseQsl (String.ofList body)) "client_id").filter (· != "") with
      | none => exact refused _
      | some clientId =>
          dsimp only
          apply Uses.bind ((uses_reject_if _ _).2 fun _ => refused _)
          intro _
          apply Uses.bind (uses_on_server_answered (fun _ => trivial) page_answer_raised _)
          intro _
          trivial

theorem accepted_push {request : ParRequest} {clientId : String} {params : Form}
    (ran : (acceptPush front.env request).run front.interp state =
      (.ok (clientId, params), later)) :
    pushedParams request = some params ∧ Form.get params "client_id" = some clientId ∧
      ∃ client, (authenticate front.env params request.credentials).run front.env.interp
        state.world = (.ok client, later.world) ∧ client.clientId = clientId := by
  unfold acceptPush at ran
  unfold pushedParams
  cases decoded : Text.utf8Decode request.body with
  | none =>
      rw [decoded] at ran
      cases ran
  | some body =>
      rw [decoded] at ran
      dsimp only at ran
      obtain ⟨_, ran⟩ := run_reject_bind_eq_ok ran
      cases presented :
          (Form.get (QueryText.parseQsl (String.ofList body)) "client_id").filter (· != "") with
      | none =>
          rw [presented] at ran
          cases ran
      | some named =>
          rw [presented] at ran
          dsimp only at ran
          obtain ⟨_, ran⟩ := run_reject_bind_eq_ok ran
          obtain ⟨client, reached, called, ends⟩ := run_bind_eq_ok ran
          cases ends
          rw [run_on_server] at called
          obtain ⟨answer, world⟩ := Prod.mk.inj called
          have answered : (TokenEndpoint.call (authenticate front.env
              (QueryText.parseQsl (String.ofList body)) request.credentials)).run front.env.interp
                state.world = (.ok client, later.world) := by
            rw [← world]
            exact Prod.ext answer rfl
          have returned := run_map_error_eq_ok answered
          obtain ⟨given, nonempty⟩ := Option.filter_eq_some_iff.1 presented
          exact ⟨rfl, given, client, returned,
            authenticated_named given (by simpa using nonempty) returned⟩

theorem kept_pushed {α : Type} {raises : Response → Prop} {program : FrontHandler α}
    {outcome : Except Response α} (uses : Uses (S := Front) KeepsPushed raises program)
    (ran : program.run front.interp state = (outcome, later)) :
    later.parStore = state.parStore := by
  have kept : (program.run front.interp state).2.parStore = state.parStore := by
    apply Uses.run_keeps (fun reached : FrontWorld => reached.parStore = state.parStore) _ uses rfl
    intro op reached keeps same
    cases op with
    | takePar requestUri => exact keeps.elim
    | storePar clientId params => exact keeps.elim
    | _ => exact same
  rw [ran] at kept
  exact kept

theorem front_draws_grow {α : Type} {program : FrontHandler α} {outcome : Except Response α}
    (ran : program.run front.interp state = (outcome, later)) :
    state.world.process.draws ≤ later.world.process.draws := by
  have kept := run_keeps front.interp
    (fun reached : FrontWorld => state.world.process.draws ≤ reached.world.process.draws) ?_
    program (le_refl state.world.process.draws)
  · rw [ran] at kept
    exact kept
  · intro op reached order
    cases op with
    | server op => exact order.trans (Runs.draws_step op reached.world)
    | storePar clientId params => exact Nat.le_succ_of_le order
    | _ => exact order

/-- The URI under the n-th draw. -/
def requestUrn (front : FrontEnv) (draw : Nat) : String :=
  "urn:ietf:params:oauth:request-uri:" ++ front.env.platform.random draw

/-- A push is refused and stores nothing, or stores one entry under a new draw. -/
theorem push_cases {request : ParRequest} {response : Response}
    (ran : (par front.env request).respond front.interp state = (response, later)) :
    (Page response ∧ later.parStore = state.parStore) ∨
      ∃ draw now entry, response = pushAnswer (requestUrn front draw) ∧
        state.world.process.draws ≤ draw ∧ draw < later.world.process.draws ∧
        later.parStore = Dict.set (requestUrn front draw) entry (sweepPar now state.parStore) ∧
        PushedBy front request state later entry := by
  unfold respond at ran
  rw [par_eq, run_bind] at ran
  cases accepting : (acceptPush front.env request).run front.interp state with
  | mk outcome middle =>
  have same := kept_pushed (uses_accept_push front.env request) accepting
  rw [accepting] at ran
  cases outcome with
  | error page =>
      left
      cases ran
      refine ⟨?_, same⟩
      exact (uses_accept_push front.env request).run_raises accepting
  | ok accepted =>
      right
      obtain ⟨clientId, params⟩ := accepted
      obtain ⟨body, named, client, returned, sameClient⟩ := accepted_push accepting
      cases ran
      refine ⟨middle.world.process.draws, front.monotonic middle,
        { clientId := clientId
          params := params.filter fun pair => !strippedKeys.contains pair.1
          createdAt := front.monotonic middle.read }, rfl, front_draws_grow accepting,
        Nat.lt_succ_self _, ?_, ⟨params, body, rfl, named, client, _, returned, sameClient⟩, ?_⟩
      · rw [← same]
        rfl
      · exact ⟨middle.world.process.readings + 1,
          ⟨Nat.le_succ_of_le (front_readings_grow accepting), Nat.lt_succ_self _⟩, rfl⟩

end Pushing

/-! ### An authorization request -/

section Applying

variable {front : FrontEnv} {query : String} {state later : FrontWorld}

theorem uses_login_gate_keeps (env : Env) (query : String) (params : Form) (channel : Channel) :
    Uses (S := Front) KeepsPushed (fun _ => True) (loginGate env query params channel) := by
  have expiry : ∀ authTime, Uses (S := Front) KeepsPushed (fun _ => True)
      (authExpired (params.get "max_age") authTime) := by
    intro authTime
    unfold authExpired
    split
    · trivial
    · trivial
    · exact (uses_on_server_any (fun _ => trivial) _).bind fun _ => trivial
  unfold loginGate
  dsimp only
  apply Uses.bind ((uses_reject_if _ _).2 fun _ => trivial)
  intro _
  apply Uses.bind (uses_front _ (by trivial))
  intro session
  apply Uses.bind (expiry _)
  intro expired
  split
  · trivial
  · apply Uses.bind ((uses_reject_if _ _).2 fun _ => trivial)
    intro _
    apply Uses.bind (uses_front _ (by trivial))
    intro _
    trivial

/-- What follows the pushed request. -/
def afterPushed (env : Env) (query : String) (merged : Form) : FrontHandler Response := do
  let params : Form := QueryText.parseQsl query
  let client ← knownClient (params.get "client_id")
  rejectIf (client.requireState && (params.get "state").isNone)
    (errorPage 400 "invalid_request" "state parameter is required for this client (RFC 9700 §4.7)")
  let resolved ← overlayJar env client params merged
  let request ← Program.ofExcept (checkRequest env resolved)
  let userId ← loginGate env query resolved.params request.channel
  finish env request userId

theorem authorize_eq (env : Env) (query : String) :
    authorize env query =
      rejectIf (!decide ((QueryText.parseQsl query).map Prod.fst).Nodup)
        (errorPage 400 "invalid_request" "duplicate query parameter") >>= fun _ =>
          resolvePushed (QueryText.parseQsl query) >>= afterPushed env query := by
  unfold authorize resolve afterPushed
  simp only [bind_assoc]

theorem uses_after_pushed (env : Env) (query : String) (merged : Form) :
    Uses (S := Front) KeepsPushed (fun _ => True) (afterPushed env query merged) := by
  unfold afterPushed
  dsimp only
  apply Uses.bind ((uses_known_client (fun _ => trivial) _).mono (fun _ keeps => keeps)
    fun _ _ => trivial)
  intro client
  apply Uses.bind ((uses_reject_if _ _).2 fun _ => trivial)
  intro _
  apply Uses.bind ((uses_overlay_jar (fun _ => trivial) env client _ merged).mono
    (fun _ keeps => keeps) fun _ _ => trivial)
  intro resolved
  apply Uses.bind ((uses_of_except _).2 fun _ _ => trivial)
  intro request
  apply Uses.bind (uses_login_gate_keeps env query _ _)
  intro userId
  apply (uses_finish env request userId).mono _ fun _ _ => trivial
  intro op finishing
  cases op with
  | takePar requestUri => exact finishing
  | storePar clientId params => exact finishing
  | _ => trivial

theorem resolve_pushed_store (params : Form) :
    ((resolvePushed params).run front.interp state).2.parStore =
      match params.get "request_uri" with
      | none => state.parStore
      | some requestUri => (takePar requestUri (front.monotonic state) state.parStore).2 := by
  unfold resolvePushed
  cases params.get "request_uri" with
  | none => rfl
  | some requestUri =>
      dsimp only
      rw [run_perform_bind]
      cases (front.interp (.takePar requestUri) state).1 with
      | none => rfl
      | some entry =>
          dsimp only
          cases (some entry.clientId != params.get "client_id") <;> rfl

/-- The store an authorization request leaves. -/
theorem authorize_store {response : Response}
    (ran : (authorize front.env query).respond front.interp state = (response, later)) :
    later.parStore =
      if ((QueryText.parseQsl query).map Prod.fst).Nodup then
        match Form.get (QueryText.parseQsl query) "request_uri" with
        | none => state.parStore
        | some requestUri => (takePar requestUri (front.monotonic state) state.parStore).2
      else state.parStore := by
  rw [authorize_eq] at ran
  by_cases distinct : ((QueryText.parseQsl query).map Prod.fst).Nodup
  · rw [if_pos distinct, ← resolve_pushed_store]
    unfold respond at ran
    rw [decide_eq_true distinct] at ran
    have entered : (rejectIf (!true)
        (errorPage 400 "invalid_request" "duplicate query parameter") >>=
        fun _ => resolvePushed (QueryText.parseQsl query) >>= afterPushed front.env query).run
          front.interp state =
        (resolvePushed (QueryText.parseQsl query) >>= afterPushed front.env query).run
          front.interp state := rfl
    rw [entered, run_bind] at ran
    cases resolving : (resolvePushed (QueryText.parseQsl query)).run front.interp state with
    | mk outcome middle =>
    rw [resolving] at ran
    cases outcome with
    | error page =>
        cases ran
        rfl
    | ok merged =>
        dsimp only at ran
        split at ran
        all_goals
          rename_i rest
          cases ran
          exact kept_pushed (uses_after_pushed front.env query merged) rest
  · rw [if_neg distinct]
    rw [decide_eq_false distinct] at ran
    cases ran
    rfl

/-- An authorization request takes out the entry it applies. -/
theorem authorize_spends {response : Response}
    (ran : (authorize front.env query).respond front.interp state = (response, later)) :
    ((appliedEntry front query state).toList ++ later.parStore).Subperm state.parStore := by
  rw [authorize_store ran]
  unfold appliedEntry
  dsimp only
  split
  · cases Form.get (QueryText.parseQsl query) "request_uri" with
    | none => exact List.Subperm.refl _
    | some requestUri =>
        have taken : (takePar requestUri (front.monotonic state) state.parStore).2.Sublist
            state.parStore := List.filter_sublist.trans List.filter_sublist
        cases found : (sweepPar (front.monotonic state) state.parStore).lookup requestUri with
        | none =>
            have absent : (takePar requestUri (front.monotonic state) state.parStore).1 = none :=
              found
            rw [Option.bind_some, absent]
            exact taken.subperm
        | some entry =>
            have present : (takePar requestUri (front.monotonic state) state.parStore).1 =
                some entry := found
            rw [Option.bind_some, present]
            have spent := (subperm_taken found).trans List.filter_sublist.subperm
            rw [Option.filter_some]
            split
            · exact spent
            · exact taken.subperm
  · exact List.Subperm.refl _

end Applying

/-! ### The ledger -/

section Ledger

variable {front : FrontEnv}

/-- What is applied and what is still in the store was stored, entry for entry. -/
structure Ledger (front : FrontEnv) (visits : List Visit) (reached : FrontWorld) : Prop where
  accounted : (visits.filterMap (Visit.applied front) ++ reached.parStore).Subperm
    (visits.filterMap (Visit.stored front))
  drawn : ∀ issued ∈ visits.filterMap (Visit.stored front),
    ∃ draw < reached.world.process.draws, issued.1 = requestUrn front draw
  named : Function.Injective front.env.platform.random →
    ((visits.filterMap (Visit.stored front)).map Prod.fst).Nodup

/-- A push that is visited. -/
theorem push_visit (front : FrontEnv) {visit : Visit} {request : ParRequest}
    (asked : visit.asked = .push request) :
    (visit.stored front = none ∧ (visit.after front).parStore = visit.before.parStore) ∨
      ∃ draw now entry, visit.stored front = some (requestUrn front draw, entry) ∧
        visit.before.world.process.draws ≤ draw ∧
        draw < (visit.after front).world.process.draws ∧
        (visit.after front).parStore =
          Dict.set (requestUrn front draw) entry (sweepPar now visit.before.parStore) ∧
        PushedBy front request visit.before (visit.after front) entry := by
  have ran : (par front.env request).respond front.interp visit.before =
      ((visit.answer front).1, visit.after front) := by
    unfold Visit.after Visit.answer
    rw [asked]
    rfl
  unfold Visit.stored
  rw [asked]
  dsimp only
  rcases push_cases ran with ⟨page, same⟩ | ⟨draw, now, entry, answer, after, before, grown, pushed⟩
  · left
    refine ⟨?_, same⟩
    rw [if_neg]
    intro created
    have failed : 400 ≤ (visit.answer front).1.status := page
    omega
  · right
    refine ⟨draw, now, entry, ?_, after, before, grown, pushed⟩
    have body : ((pushAnswer (requestUrn front draw)).body.get? "request_uri").bind Json.str? =
        some (requestUrn front draw) := rfl
    have created : (pushAnswer (requestUrn front draw)).status = 201 := rfl
    rw [answer, if_pos created, body, grown, Option.bind_some, lookup_set, if_pos rfl]
    rfl

/-- An authorization request that is visited. -/
theorem authorize_visit (front : FrontEnv) {visit : Visit} {query : String}
    (asked : visit.asked = .authorize query) :
    ((visit.applied front).toList ++ (visit.after front).parStore).Subperm
      visit.before.parStore := by
  have ran : (authorize front.env query).respond front.interp visit.before =
      ((visit.answer front).1, visit.after front) := by
    unfold Visit.after Visit.answer
    rw [asked]
    rfl
  unfold Visit.applied
  rw [asked]
  exact authorize_spends ran

theorem visit_draws (front : FrontEnv) (visit : Visit) :
    visit.before.world.process.draws ≤ (visit.after front).world.process.draws := by
  unfold Visit.after Visit.answer respond
  split
  all_goals
    rename_i ran
    exact front_draws_grow ran

/-- A visit keeps the ledger. -/
theorem Ledger.step {visits : List Visit} {reached : FrontWorld}
    (ledger : Ledger front visits reached) (visit : Visit) (meanwhile : Meanwhile reached visit.before) :
    Ledger front (visits ++ [visit]) (visit.after front) := by
  obtain ⟨accounted, drawn, named⟩ := ledger
  rw [← meanwhile.parStore] at accounted
  have grown := meanwhile.draws.trans (visit_draws front visit)
  have older : ∀ issued ∈ visits.filterMap (Visit.stored front),
      ∃ draw < (visit.after front).world.process.draws, issued.1 = requestUrn front draw := by
    intro issued member
    obtain ⟨draw, below, same⟩ := drawn issued member
    exact ⟨draw, below.trans_le grown, same⟩
  cases asked : visit.asked with
  | authorize query =>
      have stored : visit.stored front = none := by
        unfold Visit.stored
        rw [asked]
      have spends := authorize_visit front asked
      have same : (visits ++ [visit]).filterMap (Visit.stored front) =
          visits.filterMap (Visit.stored front) := by
        simp [List.filterMap_append, stored]
      have longer : (visits ++ [visit]).filterMap (Visit.applied front) =
          visits.filterMap (Visit.applied front) ++ (visit.applied front).toList := by
        cases applied : visit.applied front <;> simp [List.filterMap_append, applied]
      constructor
      · rw [same, longer, List.append_assoc]
        exact ((List.subperm_append_left _).2 spends).trans accounted
      · rw [same]
        exact older
      · rw [same]
        exact named
  | push request =>
      have applied : visit.applied front = none := by
        unfold Visit.applied
        rw [asked]
      have unchanged : (visits ++ [visit]).filterMap (Visit.applied front) =
          visits.filterMap (Visit.applied front) := by
        simp [List.filterMap_append, applied]
      rcases push_visit front asked with ⟨stored, kept⟩ |
        ⟨draw, now, entry, stored, after, before, set, _⟩
      · have same : (visits ++ [visit]).filterMap (Visit.stored front) =
            visits.filterMap (Visit.stored front) := by
          simp [List.filterMap_append, stored]
        constructor
        · rw [same, unchanged, kept]
          exact accounted
        · rw [same]
          exact older
        · rw [same]
          exact named
      · have longer : (visits ++ [visit]).filterMap (Visit.stored front) =
            visits.filterMap (Visit.stored front) ++ [(requestUrn front draw, entry)] := by
          simp [List.filterMap_append, stored]
        constructor
        · have swept : (sweepPar now visit.before.parStore).Subperm visit.before.parStore :=
            List.filter_sublist.subperm
          have added := (subperm_set (requestUrn front draw) entry
            (sweepPar now visit.before.parStore)).trans ((List.subperm_cons _).2 swept)
          rw [unchanged, longer, set]
          have placed := (List.subperm_append_left (visits.filterMap (Visit.applied front))).2 added
          have recorded := List.perm_middle.subperm.trans
            ((List.subperm_cons (requestUrn front draw, entry)).2 accounted)
          exact (placed.trans recorded).trans (List.perm_append_singleton _ _).symm.subperm
        · rw [longer]
          intro issued member
          rcases List.mem_append.1 member with old | new
          · exact older issued old
          · rw [List.mem_singleton.1 new]
            exact ⟨draw, before, rfl⟩
        · intro injective
          rw [longer, List.map_append, List.nodup_append]
          refine ⟨named injective, List.nodup_singleton _, ?_⟩
          intro issued old other new same
          obtain ⟨pair, member, rfl⟩ := List.mem_map.1 old
          obtain ⟨earlier, below, drawnAs⟩ := drawn pair member
          have fresh : other = requestUrn front draw := by simpa using new
          rw [fresh, drawnAs] at same
          have sameDraw := injective (String.append_right_inj _ |>.1 same)
          have order := below.trans_le (meanwhile.draws.trans after)
          omega

theorem sequence_ledger {visits : List Visit} {reached : FrontWorld}
    (sequence : Sequence front visits reached) : Ledger front visits reached := by
  induction sequence with
  | start state empty =>
      constructor
      · rw [empty]
        exact List.Subperm.refl _
      · intro issued member
        cases member
      · exact fun _ => List.nodup_nil
  | visit visit _ meanwhile ledger => exact ledger.step visit meanwhile

/-- What happened before a visit is a sequence of its own. -/
theorem sequence_before {visits earlier later : List Visit} {visit : Visit} {reached : FrontWorld}
    (sequence : Sequence front visits reached) (split : visits = earlier ++ visit :: later) :
    ∃ middle, Sequence front earlier middle ∧ Meanwhile middle visit.before := by
  induction sequence generalizing later with
  | start state empty => exact absurd split.symm (by simp)
  | @visit previous middle last shorter meanwhile induction =>
      rcases List.eq_nil_or_concat later with rfl | ⟨rest, other, rfl⟩
      · have same := List.append_inj' split rfl
        obtain ⟨rfl, single⟩ := same
        cases single
        exact ⟨middle, shorter, meanwhile⟩
      · have parts : previous ++ [last] = (earlier ++ visit :: rest) ++ [other] := by
          rw [split]
          simp
        exact induction (List.append_inj' parts rfl).1

/-- An application of a pushed request: an earlier push stored the entry under
the URI, less than a minute ago, for the client the query names. -/
structure Application (front : FrontEnv) (earlier : List Visit) (visit : Visit)
    (requestUri : String) (entry : ParEntry) : Prop where
  pushed : ∃ push ∈ earlier, ∃ request, push.asked = .push request ∧
    push.stored front = some (requestUri, entry) ∧
    PushedBy front request push.before (push.after front) entry
  lifetime : front.monotonic visit.before - entry.createdAt < 60
  query : ∃ query, visit.asked = .authorize query ∧
    Form.get (QueryText.parseQsl query) "request_uri" = some requestUri ∧
    Form.get (QueryText.parseQsl query) "client_id" = some entry.clientId

/-- An entry that is applied is a live one of the store. -/
theorem applied_entry {query requestUri : String} {state : FrontWorld} {entry : ParEntry}
    (applied : appliedEntry front query state = some (requestUri, entry)) :
    (requestUri, entry) ∈ state.parStore ∧
      front.monotonic state - entry.createdAt < 60 ∧
      Form.get (QueryText.parseQsl query) "request_uri" = some requestUri ∧
      Form.get (QueryText.parseQsl query) "client_id" = some entry.clientId := by
  unfold appliedEntry at applied
  dsimp only at applied
  split at applied
  · obtain ⟨named, given, applied⟩ := Option.bind_eq_some_iff.1 applied
    obtain ⟨found, kept, same⟩ := Option.map_eq_some_iff.1 applied
    cases same
    obtain ⟨taken, own⟩ := Option.filter_eq_some_iff.1 kept
    have live : (requestUri, entry) ∈ sweepPar (front.monotonic state) state.parStore := by
      obtain ⟨_, _, inside, _⟩ := List.lookup_eq_some_iff.1 taken
      rw [inside]
      exact List.mem_append_right _ List.mem_cons_self
    obtain ⟨stored, unexpired⟩ := List.mem_filter.1 live
    refine ⟨stored, ?_, given, (beq_iff_eq.1 own).symm⟩
    simp only [Bool.not_eq_true'] at unexpired
    exact not_le.1 (of_decide_eq_false unexpired)
  · cases applied

theorem application {visits earlier later : List Visit} {visit : Visit} {reached : FrontWorld}
    {requestUri : String} {entry : ParEntry} (sequence : Sequence front visits reached)
    (split : visits = earlier ++ visit :: later)
    (applied : visit.applied front = some (requestUri, entry)) :
    Application front earlier visit requestUri entry := by
  obtain ⟨middle, before, meanwhile⟩ := sequence_before sequence split
  have ledger := sequence_ledger before
  unfold Visit.applied at applied
  cases asked : visit.asked with
  | push request =>
      rw [asked] at applied
      cases applied
  | authorize query =>
      rw [asked] at applied
      obtain ⟨stored, lifetime, named, own⟩ := applied_entry applied
      rw [meanwhile.parStore] at stored
      have issued := ledger.accounted.subset (List.mem_append_right _ stored)
      obtain ⟨push, member, handed⟩ := List.mem_filterMap.1 issued
      refine ⟨⟨push, member, ?_⟩, lifetime, query, asked, named, own⟩
      cases pushAsked : push.asked with
      | authorize other =>
          unfold Visit.stored at handed
          rw [pushAsked] at handed
          cases handed
      | push request =>
          refine ⟨request, rfl, handed, ?_⟩
          rcases push_visit front pushAsked with ⟨nothing, _⟩ | ⟨_, _, _, same, _, _, _, pushed⟩
          · rw [nothing] at handed
            cases handed
          · rw [same] at handed
            cases handed
            exact pushed

/-- No entry is applied more often than it was stored, and under distinct draws
no URI is applied twice. -/
theorem applied_once {visits : List Visit} {reached : FrontWorld}
    (sequence : Sequence front visits reached) :
    (visits.filterMap (Visit.applied front)).Subperm (visits.filterMap (Visit.stored front)) ∧
      (Function.Injective front.env.platform.random →
        ((visits.filterMap (Visit.applied front)).map Prod.fst).Nodup) := by
  obtain ⟨accounted, _, named⟩ := sequence_ledger sequence
  have once := (List.sublist_append_left _ _).subperm.trans accounted
  refine ⟨once, fun injective => ?_⟩
  obtain ⟨issued, same, kept⟩ := once
  have distinct := (named injective).sublist (kept.map Prod.fst)
  exact (same.map Prod.fst).nodup_iff.1 distinct

end Ledger

end OAuth2Server.PushedRequests
