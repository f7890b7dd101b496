import Mathlib.Data.List.Destutter
import OAuth2Server.TokenBinding

/-!
# Delegation chains

Each token exchange stamps the exchanging client on the new access token, around
the actor claim of the token it was given. Along a chain of exchanges the claim
is the history of the actors, except that a client which exchanges a token of
its own starts the history anew.
-/

namespace OAuth2Server.Delegation

open OAuth2Server Models JsonText Storage Effects Interaction Interaction.Program
open ClientAuth Dpop Issuance Validation TokenEndpoint Protocol Footprints Runs SingleUse
open ReferenceJwt TokenBinding

set_option autoImplicit false

variable {env : Env}

/-! ### Nesting depth -/

mutual

/-- How deep a document nests arrays and objects. -/
def depth : Json → Nat
  | .arr items => 1 + itemDepth items
  | .obj members => 1 + memberDepth members
  | _ => 0

def itemDepth : List Json → Nat
  | [] => 0
  | item :: rest => max (depth item) (itemDepth rest)

def memberDepth : List (String × Json) → Nat
  | [] => 0
  | (_, value) :: rest => max (depth value) (memberDepth rest)

end

theorem member_depth_eq (members : List (String × Json)) :
    memberDepth members = itemDepth (members.map (·.2)) := by
  induction members with
  | nil => rfl
  | cons member rest induction => simp [memberDepth, itemDepth, induction]

theorem member_nodes_eq (members : List (String × Json)) :
    memberNodes members = itemNodes (members.map (·.2)) := by
  induction members with
  | nil => rfl
  | cons member rest induction => simp [memberNodes, itemNodes, induction]

theorem item_depth_le_iff (items : List Json) (bound : Nat) :
    itemDepth items ≤ bound ↔ ∀ item ∈ items, depth item ≤ bound := by
  induction items with
  | nil => simp [itemDepth]
  | cons item rest induction => simp [itemDepth, induction]

/-- The values still to be visited by the walk. -/
def pending (stack : List (Json × Nat)) : Nat := itemNodes (stack.map (·.1))

theorem item_nodes_append (left right : List Json) :
    itemNodes (left ++ right) = itemNodes left + itemNodes right := by
  induction left with
  | nil => simp [itemNodes]
  | cons item rest induction =>
      simp only [List.cons_append, itemNodes, induction]
      omega

theorem item_nodes_reverse (items : List Json) : itemNodes items.reverse = itemNodes items := by
  induction items with
  | nil => rfl
  | cons item rest induction =>
      simp only [List.reverse_cons, item_nodes_append, induction, itemNodes]
      omega

theorem pending_pushed (children : List Json) (level : Nat) (stack : List (Json × Nat)) :
    pending ((children.map fun child => (child, level)).reverse ++ stack) =
      itemNodes children + pending stack := by
  have values : ((children.map fun child => (child, level)).reverse).map (·.1) =
      children.reverse := by
    simp [List.map_reverse, Function.comp_def]
  unfold pending
  rw [List.map_append, item_nodes_append, values, item_nodes_reverse]

/-- A value of the stack stays within the limit. -/
def Fits (limit : Nat) (entry : Json × Nat) : Prop :=
  depth entry.1 = 0 ∨ entry.2 + depth entry.1 ≤ limit + 1

/-- One round at a container: it fits if its own level does and its children fit
one level further in. -/
theorem container_fits {node : Json} {children : List Json} {limit level : Nat}
    (deep : depth node = 1 + itemDepth children) :
    Fits limit (node, level) ↔
      level ≤ limit ∧ ∀ child ∈ children, Fits limit (child, level + 1) := by
  unfold Fits
  rw [deep]
  have within := item_depth_le_iff children (limit - level)
  constructor
  · intro fits
    have bounded : itemDepth children ≤ limit - level := by omega
    refine ⟨by omega, fun child member => ?_⟩
    have small := within.1 bounded child member
    dsimp only
    omega
  · rintro ⟨inside, fits⟩
    have bounded : itemDepth children ≤ limit - level := by
      apply within.2
      intro child member
      have small := fits child member
      dsimp only at small
      omega
    right
    dsimp only
    omega

theorem depth_within_iff (limit : Nat) : ∀ (fuel : Nat) (stack : List (Json × Nat)),
    pending stack ≤ fuel →
      (depthWithin limit fuel stack = true ↔ ∀ entry ∈ stack, Fits limit entry) := by
  intro fuel
  induction fuel with
  | zero =>
      intro stack enough
      cases stack with
      | nil => simp [depthWithin]
      | cons entry stack =>
          -- Every value counts, so an empty count is an empty stack.
          have positive : 0 < nodes entry.1 := by
            cases entry.1 <;> simp [nodes]
          simp only [pending, List.map_cons, itemNodes] at enough
          omega
  | succ fuel induction =>
      intro stack enough
      rcases stack with _ | ⟨⟨node, level⟩, stack⟩
      · simp [depthWithin]
      have container : ∀ children : List Json, nodes node = 1 + itemNodes children →
          depth node = 1 + itemDepth children →
          ((if limit < level then false else depthWithin limit fuel
              ((children.map fun child => (child, level + 1)).reverse ++ stack)) = true ↔
            ∀ entry ∈ (node, level) :: stack, Fits limit entry) := by
        intro children size deep
        have fewer : pending ((children.map fun child => (child, level + 1)).reverse ++ stack) ≤
            fuel := by
          rw [pending_pushed]
          have counted : pending ((node, level) :: stack) = nodes node + pending stack := rfl
          omega
        rw [List.forall_mem_cons, container_fits deep]
        by_cases outside : limit < level
        · simp only [outside, if_true, Bool.false_eq_true, false_iff]
          intro fits
          omega
        · simp only [outside, if_false]
          rw [induction _ fewer]
          have inside : level ≤ limit := by omega
          simp only [List.forall_mem_append, List.mem_reverse, List.forall_mem_map, inside, true_and]
      have scalar : nodes node = 1 → depth node = 0 →
          (depthWithin limit fuel stack = true ↔
            ∀ entry ∈ (node, level) :: stack, Fits limit entry) := by
        intro size flat
        have fewer : pending stack ≤ fuel := by
          have counted : pending ((node, level) :: stack) = nodes node + pending stack := rfl
          omega
        rw [List.forall_mem_cons, induction stack fewer]
        have fits : Fits limit (node, level) := Or.inl flat
        simp [fits]
      cases node with
      | arr items => exact container items rfl rfl
      | obj members =>
          apply container (members.map (·.2))
          · rw [← member_nodes_eq]
            rfl
          · rw [← member_depth_eq]
            rfl
      | _ => exact scalar rfl rfl

/-- `check_depth` accepts exactly the values that nest no deeper than the limit. -/
theorem check_depth_ok_iff (value : Json) (name : String) (limit : Nat) :
    checkDepth value name limit = .ok () ↔ depth value ≤ limit := by
  have walked := depth_within_iff limit (nodes value) [(value, 1)] (by simp [pending, itemNodes])
  have fits : (∀ entry ∈ [(value, 1)], Fits limit entry) ↔ depth value ≤ limit := by
    simp only [List.mem_singleton, forall_eq, Fits]
    omega
  rw [fits] at walked
  unfold checkDepth
  rw [← walked]
  split <;> simp_all

/-! ### Actor claims -/

def actClaim (env : Env) (token : String) : Option Json :=
  (decodeUnverifiedClaims env token).lookup "act"

/-- The actor claim that names the actors, the most recent one outermost. -/
def history : List String → Option Json
  | [] => none
  | actor :: earlier => some (.obj (("sub", .str actor) :: optionalMember "act" (history earlier)))

/-- The actors an actor claim names, read from the outside in. -/
def actors : Nat → Json → List String
  | 0, _ => []
  | fuel + 1, act =>
      match act.get? "sub" with
      | some (.str actor) =>
          match act.get? "act" with
          | some inner => actor :: actors fuel inner
          | none => [actor]
      | _ => []

/-- The actors of a token; the claim has more values than actors. -/
def actorsOf (env : Env) (token : String) : List String :=
  match actClaim env token with
  | some act => actors (nodes act) act
  | none => []

theorem history_nodes {chain : List String} {act : Json} (named : history chain = some act) :
    chain.length ≤ nodes act := by
  induction chain generalizing act with
  | nil => simp
  | cons actor earlier induction =>
      cases named
      cases inner : history earlier with
      | none =>
          cases earlier with
          | nil => simp [nodes, memberNodes]
          | cons next rest => cases inner
      | some prior =>
          have counted := induction inner
          simp only [List.length_cons, optionalMember, nodes, memberNodes]
          omega

theorem actors_history {chain : List String} {act : Json} (named : history chain = some act)
    (fuel : Nat) (enough : chain.length ≤ fuel) : actors fuel act = chain := by
  induction chain generalizing act fuel with
  | nil => cases named
  | cons actor earlier induction =>
      cases named
      rw [List.length_cons] at enough
      obtain ⟨fuel, rfl⟩ : ∃ fewer, fuel = fewer + 1 := ⟨fuel - 1, by omega⟩
      cases earlier with
      | nil => rfl
      | cons next rest =>
          have inner := induction (show history (next :: rest) = some _ from rfl) fuel (by omega)
          change actor :: actors fuel _ = _
          rw [inner]

theorem actors_of_history {token : String} {chain : List String}
    (claimed : actClaim env token = history chain) : actorsOf env token = chain := by
  unfold actorsOf
  rw [claimed]
  cases chain with
  | nil => rfl
  | cons actor earlier => exact actors_history rfl _ (history_nodes rfl)

theorem history_depth {chain : List String} {act : Json} (named : history chain = some act) :
    depth act = chain.length := by
  induction chain generalizing act with
  | nil => cases named
  | cons actor earlier induction =>
      cases named
      cases earlier with
      | nil => rfl
      | cons next rest =>
          have inner := induction (show history (next :: rest) = some _ from rfl)
          simp only [history, optionalMember, depth, memberDepth, List.length_cons] at inner ⊢
          omega

/-- What one exchange makes of the actors so far: a client that is already the
most recent actor stands alone. -/
def stamped (client : String) (chain : List String) : List String :=
  if chain.head? = some client then [client] else client :: chain

theorem actor_claim_eq (client : Client) {token : String} {chain : List String}
    (claimed : actClaim env token = history chain) :
    some (actorClaim env client token) = history (stamped client.clientId chain) := by
  unfold actClaim at claimed
  unfold actorClaim stamped
  dsimp only
  rw [claimed]
  cases chain with
  | nil => rfl
  | cons actor earlier =>
      have named : textMember (("sub", .str actor) :: optionalMember "act" (history earlier)) "sub" =
          some actor := rfl
      simp only [history, named, List.head?_cons]
      by_cases own : actor = client.clientId <;> simp [own, history, optionalMember]

theorem payload_act (claims : Claims) : (payloadMembers claims).lookup "act" = claims.act := by
  unfold payloadMembers
  simp only [List.append_assoc, List.cons_append, List.nil_append, List.lookup_cons]
  rw [lookup_optional _ _ (by decide)]
  rw [lookup_optional _ _ (by decide)]
  rw [lookup_optional _ _ (by decide)]
  cases claims.act with
  | none => rfl
  | some act => rfl

theorem minted_act {request : IssueRequest} {token : String} (minted : Minted env request token) :
    actClaim env token = request.act := by
  obtain ⟨claims, decoded, _, _, act⟩ := minted
  unfold actClaim decodeUnverifiedClaims
  rw [decoded, ← act]
  exact payload_act claims

/-! ### Exchanges -/

/-- A client that has passed the checks of the endpoint exchanges `old` for
`new`. -/
def Exchanges (env : Env) (client old new : String) : Prop :=
  ∃ world request context admitted response later,
    (Origin.token request).Presents .tokenExchange "subject_token" old ∧
    (preGrant env request).run env.interp world = (.ok context, admitted) ∧
    context.client.clientId = client ∧
    (TokenEndpoint.token env request).run env.interp world = (.ok response, later) ∧
    response.body.get? "access_token" = some (.str new)

/-- `last` comes from `first` by exchanges of the clients, in this order, whatever
else happens in between. -/
inductive Delegated (env : Env) (first : String) : List String → String → Prop
  | start : Delegated env first [] first
  | exchanged {clients : List String} {client old new : String}
      (chain : Delegated env first clients old) (exchanges : Exchanges env client old new) :
      Delegated env first (clients ++ [client]) new

theorem check_exchange_form_yields {request : Request} {subject : String}
    (presents : request.form.get "subject_token" = some subject) :
    Yields (fun found => found = subject) (checkExchangeForm request) := by
  unfold checkExchangeForm
  rw [presents]
  by_cases empty : subject = ""
  · subst empty
    trivial
  · have shown : (some subject).filter (· != "") = some subject := by simp [empty]
    rw [shown]
    apply yields_bind
    intro _
    apply yields_bind
    intro _
    rfl

/-- An exchange that answers has passed the depth limit, and its token carries the
actor claim. -/
theorem exchange_row_yields (signed : env.config.accessTokensOpaque = false)
    (faithful : RoundTrip env.platform.jwt) (context : Context) (request : Request)
    (subject : String) (row : Token) :
    Yields (Answers fun token => actClaim env token = some (actorClaim env context.client subject) ∧
        depth (actorClaim env context.client subject) ≤ 10)
      (exchangeRow env context request subject row) := by
  unfold exchangeRow
  refine yields_bind fun _ => yields_bind fun now => yields_bind fun _ => yields_bind fun scope => ?_
  dsimp only
  split
  · trivial
  · trivial
  · rename_i within
    have shallow := (check_depth_ok_iff _ _ _).1 within
    apply yields_bind
    intro resource
    apply Yields.mono (issued_yields signed faithful _ fun response =>
      answer_yields context response _ rfl)
    intro response answers token carries
    exact ⟨minted_act (answers token carries), shallow⟩

theorem token_exchange_answers (signed : env.config.accessTokensOpaque = false)
    (faithful : RoundTrip env.platform.jwt) (context : Context) {request : Request}
    {subject : String} (presents : request.form.get "subject_token" = some subject) :
    Yields (Answers fun token => actClaim env token = some (actorClaim env context.client subject) ∧
        depth (actorClaim env context.client subject) ≤ 10)
      (tokenExchange env context request) := by
  unfold tokenExchange
  apply yields_bind
  intro _
  apply yields_bind
  intro _
  apply (check_exchange_form_yields presents).bind
  intro found same
  subst same
  apply yields_bind
  intro row
  cases row with
  | none => trivial
  | some row => exact exchange_row_yields signed faithful context request found row

/-- One exchange. -/
theorem exchanged_act (signed : env.config.accessTokensOpaque = false)
    (faithful : RoundTrip env.platform.jwt) {client old new : String} {chain : List String}
    (claimed : actClaim env old = history chain) (exchanges : Exchanges env client old new) :
    actClaim env new = history (stamped client chain) ∧ (stamped client chain).length ≤ 10 := by
  obtain ⟨world, request, context, admitted, response, later, presents, passed, identified, ok,
    carries⟩ := exchanges
  obtain ⟨_, asked, asks, presented⟩ := presents
  cases asked
  obtain ⟨other, middle, again, _, handled⟩ := token_run_ok asks ok
  cases passed.symm.trans again
  have answers := (token_exchange_answers signed faithful context presented).run handled new carries
  have named := actor_claim_eq context.client claimed
  rw [identified] at named
  constructor
  · rw [answers.1, named]
  · rw [← history_depth named.symm]
    exact answers.2

/-! ### Chains -/

/-- The actors on the last token of a chain, most recent first. -/
def recorded (clients : List String) : List String :=
  clients.foldl (fun chain client => stamped client chain) []

theorem recorded_append (clients : List String) (client : String) :
    recorded (clients ++ [client]) = stamped client (recorded clients) := by
  simp [recorded]

theorem delegated_act (signed : env.config.accessTokensOpaque = false)
    (faithful : RoundTrip env.platform.jwt) {first last : String} {clients : List String}
    (plain : actClaim env first = none) (chain : Delegated env first clients last) :
    actClaim env last = history (recorded clients) ∧ (recorded clients).length ≤ 10 := by
  induction chain with
  | start => exact ⟨plain, by simp [recorded]⟩
  | exchanged chain exchanges induction =>
      rw [recorded_append]
      exact exchanged_act signed faithful induction.1 exchanges

/-- The clients of a chain, most recent first, consecutive equal ones once. -/
def hops (clients : List String) : List String := clients.reverse.destutter (· ≠ ·)

/-- A client exchanges its own token again only while it is the only actor. -/
def RepeatsAlone (clients : List String) : Prop :=
  ∀ before client after, clients = before ++ client :: client :: after →
    ∀ other ∈ before, other = client

theorem recorded_head (clients : List String) : (recorded clients).head? = clients.getLast? := by
  induction clients using List.reverseRecOn with
  | nil => rfl
  | append_singleton clients client induction =>
      rw [recorded_append]
      unfold stamped
      split <;> simp

theorem hops_append (clients : List String) (client : String) :
    hops (clients ++ [client]) =
      if clients.getLast? = some client then hops clients else client :: hops clients := by
  induction clients using List.reverseRecOn with
  | nil => simp [hops]
  | append_singleton clients latest induction =>
      by_cases same : latest = client
      · subst same
        simp [hops, List.destutter_cons_cons]
        rfl
      · have differs : client ≠ latest := fun equal => same equal.symm
        simp [hops, List.destutter_cons_cons, same, differs]
        rfl

theorem mem_hops (clients : List String) (client : String) :
    client ∈ hops clients ↔ client ∈ clients := by
  induction clients using List.reverseRecOn with
  | nil => simp [hops]
  | append_singleton clients latest induction =>
      rw [hops_append]
      split
      · rename_i last
        have member := List.mem_of_getLast? last
        simp only [induction, List.mem_append, List.mem_singleton]
        constructor
        · exact Or.inl
        · rintro (inside | rfl)
          · exact inside
          · exact member
      · rw [List.mem_cons, induction, List.mem_append, List.mem_singleton]
        exact or_comm

/-- Only one client makes only one hop. -/
theorem hops_singleton_iff {clients : List String} {client : String}
    (last : clients.getLast? = some client) :
    hops clients = [client] ↔ ∀ other ∈ clients, other = client := by
  constructor
  · intro single other member
    have hop := (mem_hops clients other).2 member
    rw [single] at hop
    exact List.mem_singleton.1 hop
  · intro only
    induction clients using List.reverseRecOn with
    | nil => cases last
    | append_singleton clients latest induction =>
        have equal : latest = client := only latest (by simp)
        subst equal
        rw [hops_append]
        split
        · rename_i again
          apply induction again
          intro other member
          exact only other (by simp [member])
        · rename_i fresh
          cases clients using List.reverseRecOn with
          | nil => rfl
          | append_singleton clients previous _ =>
              have equal : previous = latest := only previous (by simp)
              exact absurd (by simp [equal]) fresh

theorem repeats_alone_append (clients : List String) (client : String) :
    RepeatsAlone (clients ++ [client]) ↔ RepeatsAlone clients ∧
      (clients.getLast? = some client → ∀ other ∈ clients, other = client) := by
  constructor
  · intro alone
    constructor
    · intro before repeated after split
      apply alone before repeated (after ++ [client])
      simp [split]
    · intro last other member
      obtain ⟨before, rfl⟩ := List.getLast?_eq_some_iff.1 last
      have earlier := alone before client [] (by simp)
      rcases List.mem_append.1 member with inside | final
      · exact earlier other inside
      · exact List.mem_singleton.1 final
  · rintro ⟨alone, final⟩ before repeated after split other member
    cases after using List.reverseRecOn with
    | nil =>
        have parts : clients ++ [client] = (before ++ [repeated]) ++ [repeated] := by simpa using split
        obtain ⟨rfl, same⟩ := List.append_inj' parts rfl
        cases same
        exact final (by simp) other (by simp [member])
    | append_singleton after latest _ =>
        have parts : clients ++ [client] = (before ++ repeated :: repeated :: after) ++ [latest] := by
          simpa using split
        obtain ⟨rfl, same⟩ := List.append_inj' parts rfl
        exact alone before repeated after rfl other member

/-- The record is the list of the hops exactly when nobody repeats late. -/
theorem recorded_eq_hops_iff (clients : List String) :
    recorded clients = hops clients ↔ RepeatsAlone clients := by
  induction clients using List.reverseRecOn with
  | nil =>
      have vacuous : RepeatsAlone [] := by
        intro before client after split
        simp at split
      simpa [recorded, hops] using vacuous
  | append_singleton clients client induction =>
      rw [recorded_append, hops_append, repeats_alone_append]
      unfold stamped
      rw [recorded_head]
      by_cases last : clients.getLast? = some client
      · simp only [last, if_true, true_implies]
        rw [eq_comm, hops_singleton_iff last]
        constructor
        · intro only
          refine ⟨?_, only⟩
          intro before repeated after split other member
          rw [only other (by simp [split, member]), only repeated (by simp [split])]
        · exact And.right
      · simp only [last, if_false, List.cons.injEq, true_and, induction, false_implies, and_true]

/-- The chain is on its last token: the actors from the outside in are the hops,
no client is missing and the claim nests at most ten deep. -/
structure Records (env : Env) (clients : List String) (last : String) : Prop where
  hops : actorsOf env last = hops clients
  complete : ∀ client ∈ clients, client ∈ actorsOf env last
  shallow : ∀ act, actClaim env last = some act → depth act ≤ 10

/-- Along every chain of exchanges of signed access tokens the actor claim nests at
most ten deep, and it records the chain if and only if no client exchanges its
own token after another client took part. -/
theorem delegation_recorded_iff (env : Env) (signed : env.config.accessTokensOpaque = false)
    (faithful : RoundTrip env.platform.jwt) (first last : String) (clients : List String)
    (plain : actClaim env first = none) (chain : Delegated env first clients last) :
    (∀ act, actClaim env last = some act → depth act ≤ 10) ∧
      (Records env clients last ↔ RepeatsAlone clients) := by
  obtain ⟨claimed, bounded⟩ := delegated_act signed faithful plain chain
  have named := actors_of_history claimed
  have shallow : ∀ act, actClaim env last = some act → depth act ≤ 10 := by
    intro act carries
    rw [claimed] at carries
    rw [history_depth carries]
    exact bounded
  refine ⟨shallow, ?_⟩
  rw [← recorded_eq_hops_iff]
  constructor
  · intro records
    rw [← named]
    exact records.hops
  · intro same
    rw [same] at named
    refine ⟨named, ?_, shallow⟩
    intro client member
    rw [named]
    exact (mem_hops clients client).2 member

/-! ### Two clients -/

def exchangingClient (clientId : String) : Client :=
  { sampleClient with
    id := clientId
    clientId := clientId
    clientSecret := "s"
    grantTypes := "[\"" ++ tokenExchangeGrant ++ "\"]"
    tokenEndpointAuthMethod := "client_secret_post" }

def exchangingWorld : World where
  store := { Store.empty with
    clients := ⟨[exchangingClient "a", exchangingClient "b"], by simp [exchangingClient]⟩
    tokens := sampleTokenWorld.store.tokens }
  process := sampleProcess

def exchangeRequest (client subject : String) : Request where
  form := [("grant_type", tokenExchangeGrant), ("client_id", client), ("client_secret", "s"),
    ("subject_token", subject), ("subject_token_type", accessTokenTypeUrn)]

/-- The world after an exchange and the token it answered with. -/
def exchangedTo (client : String) (held : String × World) : Option (String × World) :=
  let request := exchangeRequest client held.1
  (answered request held.2).map fun token =>
    (token, ((TokenEndpoint.token signedEnv request).run signedEnv.interp held.2).2)

/-- The client that passes the checks of the endpoint. -/
def passes (client : String) (held : String × World) : Bool :=
  match ((preGrant signedEnv (exchangeRequest client held.1)).run signedEnv.interp held.2).1 with
  | .ok context => context.client.clientId == client
  | .error _ => false

theorem exchanges_of_evaluated {client : String} {held next : String × World}
    (exchanged : exchangedTo client held = some next) (passed : passes client held = true) :
    Exchanges signedEnv client held.1 next.1 := by
  obtain ⟨token, answer, rfl⟩ := Option.map_eq_some_iff.1 exchanged
  obtain ⟨response, later, ok, carries⟩ := answered_run answer
  unfold passes at passed
  generalize outcome : (preGrant signedEnv (exchangeRequest client held.1)).run signedEnv.interp
    held.2 = result at passed
  rcases result with ⟨refused | context, admitted⟩
  · cases passed
  · have presents : (Origin.token (exchangeRequest client held.1)).Presents .tokenExchange
        "subject_token" held.1 := ⟨_, rfl, rfl, rfl⟩
    exact ⟨held.2, _, context, admitted, response, later, presents, outcome, by simpa using passed,
      ok, carries⟩

/-- The clients exchange the token one after the other. -/
def exchangeAll : List String → String × World → Bool
  | [], _ => true
  | client :: rest, held => passes client held && (exchangedTo client held).any (exchangeAll rest)

theorem delegated_of_evaluated {first : String} {earlier : List String} (clients : List String)
    (held : String × World) (chain : Delegated signedEnv first earlier held.1)
    (evaluated : exchangeAll clients held = true) :
    ∃ last, Delegated signedEnv first (earlier ++ clients) last := by
  induction clients generalizing earlier held with
  | nil => exact ⟨held.1, by simpa using chain⟩
  | cons client rest induction =>
      obtain ⟨passed, continued⟩ := Bool.and_eq_true_iff.1 evaluated
      obtain ⟨next, exchanged, evaluated⟩ := (Option.any_eq_true _ _).1 continued
      have extended := Delegated.exchanged chain (exchanges_of_evaluated exchanged passed)
      simpa using induction next extended evaluated

theorem plain_start : actClaim signedEnv "access" = none := by decide +kernel

theorem exchange_all_append {first later : List String} {held : String × World}
    (evaluated : exchangeAll (first ++ later) held = true) : exchangeAll first held = true := by
  induction first generalizing held with
  | nil => rfl
  | cons client rest induction =>
      obtain ⟨passed, continued⟩ := Bool.and_eq_true_iff.1 evaluated
      obtain ⟨next, exchanged, evaluated⟩ := (Option.any_eq_true _ _).1 continued
      exact Bool.and_eq_true_iff.2
        ⟨passed, (Option.any_eq_true _ _).2 ⟨next, exchanged, induction evaluated⟩⟩

theorem second_exchanges_again :
    exchangeAll ["a", "b", "b"] ("access", exchangingWorld) = true := by
  decide +kernel

theorem two_exchange : exchangeAll ["a", "b"] ("access", exchangingWorld) = true :=
  @exchange_all_append ["a", "b"] ["b"] _ second_exchanges_again

/-- Two clients exchange a token one after the other, and both are recorded. -/
theorem two_actors_recorded :
    ∃ last, Delegated signedEnv "access" ["a", "b"] last ∧ Records signedEnv ["a", "b"] last := by
  obtain ⟨last, chain⟩ := delegated_of_evaluated _ _ .start two_exchange
  refine ⟨last, chain, ?_⟩
  apply (delegation_recorded_iff signedEnv rfl round_trip "access" last ["a", "b"] plain_start
    chain).2.2
  rw [← recorded_eq_hops_iff]
  decide

/-- The second client exchanges its own token again, and the first one is gone from
the record. -/
theorem repeated_exchange_forgets :
    ∃ last, Delegated signedEnv "access" ["a", "b", "b"] last ∧
      actorsOf signedEnv last = ["b"] ∧ ¬Records signedEnv ["a", "b", "b"] last := by
  obtain ⟨last, chain⟩ := delegated_of_evaluated _ _ .start second_exchanges_again
  have claimed := (delegated_act rfl round_trip plain_start chain).1
  have named : actorsOf signedEnv last = ["b"] := actors_of_history claimed
  refine ⟨last, chain, named, ?_⟩
  intro records
  have present := records.complete "a" (by decide)
  rw [named] at present
  exact absurd present (by decide)

end OAuth2Server.Delegation
