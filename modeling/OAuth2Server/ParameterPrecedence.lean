import OAuth2Server.PushedRequests

/-!
# Which source a parameter is read from

A parameter of an authorization request is the string of the request object,
else the value that was pushed, else the one of the query. The checks and the
row of the code are functions of these values, of the response type and mode,
which are never pushed, and of the three parameters only the query gives.
-/

namespace OAuth2Server.ParameterPrecedence

open OAuth2Server Models JsonText Storage Effects Interaction Interaction.Program
open Process ClientAuth Endpoints Validation FrontChannel AuthorizeResponse RequestObject
open Authorize AuthorizeExits ClientIdentity LoginGate AuthorizeCodes PushedRequests
open Dictionaries

set_option autoImplicit false

/-! ### Overlays -/

/-- The entries a dictionary is updated with win. -/
theorem update_get {other : Form} (distinct : Distinct other) (form : Form) (key : String) :
    (update form other).get key = (other.get key).or (form.get key) := by
  unfold update Form.get
  induction other generalizing form with
  | nil => rfl
  | cons pair rest induction =>
      obtain ⟨name, value⟩ := pair
      obtain ⟨fresh, later⟩ := List.nodup_cons.1 distinct
      rw [List.foldl_cons, induction later, lookup_set, List.lookup_cons]
      by_cases same : key = name
      · subst same
        have absent : rest.lookup key = none := by
          rw [List.lookup_eq_none_iff]
          intro entry member
          rw [bne_iff_ne]
          exact fun here => fresh (List.mem_map.2 ⟨entry, member, here.symm⟩)
        rw [absent, if_pos rfl]
        simp
      · have differs : (key == name) = false := by simpa using same
        rw [if_neg same, differs]

section Picked

variable (pick : String → Option String) (keys : List String)

/-- Each key that has a value, with it. -/
theorem picked_get (key : String) :
    Form.get (keys.filterMap fun name => (pick name).map fun value => (name, value)) key =
      if key ∈ keys then pick key else none := by
  unfold Form.get
  induction keys with
  | nil => rfl
  | cons name rest induction =>
      rw [List.filterMap_cons]
      by_cases same : key = name
      · subst same
        cases picked : pick key with
        | none =>
            rw [Option.map_none]
            dsimp only
            rw [induction]
            simp [picked]
        | some value => simp
      · have differs : (key == name) = false := by simpa using same
        cases pick name with
        | none => simp [induction, same]
        | some value => simp [List.lookup_cons, differs, induction, same]

theorem picked_distinct (nodup : keys.Nodup) :
    Distinct (keys.filterMap fun name => (pick name).map fun value => (name, value)) := by
  unfold Distinct
  rw [List.map_filterMap]
  apply nodup.filterMap
  intro first second name here there
  obtain ⟨pair, chosen, same⟩ := Option.map_eq_some_iff.1 here
  obtain ⟨other, chosenToo, sameToo⟩ := Option.map_eq_some_iff.1 there
  obtain ⟨_, _, rfl⟩ := Option.map_eq_some_iff.1 chosen
  obtain ⟨_, _, rfl⟩ := Option.map_eq_some_iff.1 chosenToo
  exact same.trans sameToo.symm

end Picked

/-! ### The three sources -/

/-- The value of a parameter in force. -/
def effective (claims : List (String × Json)) (pushed params : Form) (key : String) :
    Option String :=
  (textMember claims key).or ((pushed.get key).or (params.get key))

/-- The parameters pushed for a query. -/
def appliedParams (front : FrontEnv) (query : String) (state : FrontWorld) : Form :=
  ((appliedEntry front query state).map fun applied => applied.2.params).getD []

/-- The claims of the accepted request object; a query without one has none. -/
def AcceptedClaims (front : FrontEnv) (query : String) (state : FrontWorld) (client : Client)
    (claims : List (String × Json)) : Prop :=
  match Form.get (QueryText.parseQsl query) "request" with
  | none => claims = []
  | some requestJwt => ∃ reached decoded : World, reached.store = state.world.store ∧
      (decodeJar front.env client requestJwt
        (Text.rstripSlash front.env.config.issuer ++ "/oauth/authorize")).run front.env.interp
          reached = (.ok claims, decoded) ∧
      (processJar front.env client requestJwt
        (Text.rstripSlash front.env.config.issuer ++ "/oauth/authorize")).run front.env.interp
          reached = (.ok (overlayClaims claims), decoded)

/-- The response mode that is asked for. -/
def requestedMode (resolved : Resolved) : Option String :=
  if Text.truthy resolved.jarResponseMode then resolved.jarResponseMode
  else resolved.params.get "response_mode"

/-- Where each value of a resolved request is from. -/
structure Precedence (claims : List (String × Json)) (pushed params : Form) (resolved : Resolved) :
    Prop where
  merged : ∀ key ∈ parMergeKeys, resolved.merged.get key = effective claims pushed params key
  responseType : resolved.responseType =
    (textMember claims "response_type").or (params.get "response_type")
  responseMode : requestedMode resolved =
    ((textMember claims "response_mode").filter (· != "")).or (params.get "response_mode")
  clientId : params.get "client_id" = some resolved.client.clientId
  params : resolved.params = params

section Resolving

variable {front : FrontEnv} {query : String} {state : FrontWorld}

theorem claims_get (claims : List (String × Json)) {key : String} (listed : key ∈ jarOverlayKeys) :
    (overlayClaims claims).get key = textMember claims key := by
  have picked : (overlayClaims claims).get key =
      if key ∈ jarOverlayKeys then textMember claims key else none :=
    picked_get (textMember claims) _ key
  rw [picked, if_pos listed]

theorem overlay_get (claims : List (String × Json)) (form : Form) {key : String}
    (listed : key ∈ jarOverlayKeys) :
    (update form (overlayClaims claims)).get key = (textMember claims key).or (form.get key) := by
  have distinct : Distinct (overlayClaims claims) :=
    picked_distinct (textMember claims) _ (by decide)
  rw [update_get distinct, claims_get claims listed]

theorem pushed_get (pushed form : Form) (key : String) :
    (update form (pushedValues pushed)).get key =
      if key ∈ parMergeKeys then (pushed.get key).or (form.get key) else form.get key := by
  have distinct : Distinct (pushedValues pushed) := picked_distinct pushed.get _ (by decide)
  have picked : (pushedValues pushed).get key =
      if key ∈ parMergeKeys then pushed.get key else none := picked_get pushed.get _ key
  rw [update_get distinct, picked]
  split <;> rfl

/-- What the pushed request makes of the query. -/
theorem resolve_pushed_get {merged : Form} {later : FrontWorld}
    (distinct : ((QueryText.parseQsl query).map Prod.fst).Nodup)
    (ran : (resolvePushed (QueryText.parseQsl query)).run front.interp state =
      (.ok merged, later)) :
    ∀ key, merged.get key =
      if key ∈ parMergeKeys then
        ((appliedParams front query state).get key).or (Form.get (QueryText.parseQsl query) key)
      else Form.get (QueryText.parseQsl query) key := by
  unfold appliedParams appliedEntry
  dsimp only
  rw [if_pos distinct]
  unfold resolvePushed at ran
  cases named : Form.get (QueryText.parseQsl query) "request_uri" with
  | none =>
      rw [named] at ran
      cases ran
      intro key
      rw [Option.bind_none]
      split <;> rfl
  | some requestUri =>
      rw [named] at ran
      dsimp only at ran
      rw [run_perform_bind] at ran
      rw [Option.bind_some]
      cases taken : (takePar requestUri (front.monotonic state) state.parStore).1 with
      | none =>
          have answer : (front.interp (.takePar requestUri) state).1 = none := taken
          rw [answer] at ran
          cases ran
      | some entry =>
          have answer : (front.interp (.takePar requestUri) state).1 = some entry := taken
          rw [answer] at ran
          dsimp only at ran
          obtain ⟨own, built⟩ := run_reject_bind_eq_ok ran
          cases built
          have kept : (some entry.clientId == Form.get (QueryText.parseQsl query) "client_id") =
              true := by simpa using own
          intro key
          rw [Option.filter_some, if_pos kept]
          exact pushed_get entry.params _ key

theorem process_jar_ok {env : Env} {client : Client} {requestJwt authorizeUrl : String}
    {world later : World} {overlay : Form}
    (ran : (processJar env client requestJwt authorizeUrl).run env.interp world =
      (.ok overlay, later)) :
    ∃ claims, (decodeJar env client requestJwt authorizeUrl).run env.interp world =
      (.ok claims, later) ∧ overlay = overlayClaims claims := by
  unfold processJar at ran
  obtain ⟨claims, reached, decoded, ran⟩ := run_bind_eq_ok ran
  obtain ⟨_, built⟩ := run_reject_bind_eq_ok ran
  cases built
  exact ⟨claims, decoded, rfl⟩

/-- The parameters a request object may replace are all that are merged. -/
theorem merge_keys_overlaid {key : String} (listed : key ∈ parMergeKeys) :
    key ∈ jarOverlayKeys := by
  have subset : ∀ name ∈ parMergeKeys, name ∈ jarOverlayKeys := by decide
  exact subset key listed

theorem resolved_precedence {resolved : Resolved} {middle : FrontWorld}
    (ran : (resolve front.env (QueryText.parseQsl query)).run front.interp state =
      (.ok resolved, middle)) :
    ∃ claims, AcceptedClaims front query state resolved.client claims ∧
      Precedence claims (appliedParams front query state) (QueryText.parseQsl query) resolved := by
  obtain ⟨carried, named, _⟩ := resolved_client ran
  obtain ⟨merged, client, pushed, known, distinct, taken, found, _, overlaid⟩ := resolve_ok ran
  have sources := resolve_pushed_get distinct taken
  have unwritten := (reading_unwritten (uses_resolve_pushed_reads _) taken).trans
    (reading_unwritten (uses_known_client_reads _) found)
  have pushable : ∀ key ∈ parMergeKeys, merged.get key =
      ((appliedParams front query state).get key).or
        (Form.get (QueryText.parseQsl query) key) := by
    intro key listed
    rw [sources, if_pos listed]
  have unpushed : merged.get "response_type" =
      Form.get (QueryText.parseQsl query) "response_type" := by
    rw [sources, if_neg (by decide)]
  unfold AcceptedClaims
  unfold overlayJar at overlaid
  cases presented : Form.get (QueryText.parseQsl query) "request" with
  | none =>
      rw [presented] at overlaid
      cases overlaid
      refine ⟨[], rfl, ?_, ?_, rfl, named, rfl⟩
      · intro key listed
        exact pushable key listed
      · unfold Resolved.responseType Resolved.hasRequestObject
        rw [presented]
        rfl
  | some requestJwt =>
      rw [presented] at overlaid
      dsimp only at overlaid
      obtain ⟨overlay, reached, processed, overlaid⟩ := run_bind_eq_ok overlaid
      obtain ⟨_, built⟩ := run_reject_bind_eq_ok overlaid
      rw [run_on_server] at processed
      obtain ⟨answer, world⟩ := Prod.mk.inj processed
      have accepted := run_map_error_eq_ok (Prod.ext answer rfl)
      obtain ⟨claims, decoded, rfl⟩ := process_jar_ok accepted
      cases built
      refine ⟨claims, ⟨known.world, _, unwritten.store, decoded, accepted⟩, ?_, ?_, ?_, named, rfl⟩
      · intro key listed
        dsimp only
        rw [overlay_get claims merged (merge_keys_overlaid listed), pushable key listed]
        rfl
      · unfold Resolved.responseType Resolved.hasRequestObject
        rw [presented]
        rw [Option.isSome_some, if_pos rfl]
        dsimp only
        rw [overlay_get claims merged (by decide), unpushed]
      · unfold requestedMode
        dsimp only
        rw [claims_get claims (by decide)]
        cases asked : textMember claims "response_mode" with
        | none => rfl
        | some mode =>
            by_cases empty : mode = ""
            · subst empty
              rfl
            · have truthy : Text.truthy (some mode) = true := by simpa [Text.truthy] using empty
              rw [if_pos truthy, Option.filter_some, if_pos (by simpa using empty)]
              rfl

end Resolving

/-! ### What the rest of the request reads -/

/-- The steps after the sources are merged. -/
def proceed (env : Env) (query : String) (resolved : Resolved) : FrontHandler Response := do
  let request ← Program.ofExcept (checkRequest env resolved)
  let userId ← loginGate env query resolved.params request.channel
  finish env request userId

theorem authorize_proceeds (env : Env) (query : String) :
    authorize env query = resolve env (QueryText.parseQsl query) >>= proceed env query := rfl

/-- Two resolved requests with the same values in force. -/
structure Alike (left right : Resolved) : Prop where
  client : left.client = right.client
  requestObject : left.hasRequestObject = right.hasRequestObject
  merged : ∀ key ∈ parMergeKeys, left.merged.get key = right.merged.get key
  responseType : left.responseType = right.responseType
  responseMode : requestedMode left = requestedMode right
  prompt : left.params.get "prompt" = right.params.get "prompt"
  maxAge : left.params.get "max_age" = right.params.get "max_age"

section Reading

variable {left right : Resolved}

theorem Alike.hybrid (alike : Alike left right) : left.hybrid = right.hybrid := by
  unfold Resolved.hybrid
  rw [alike.responseType]

theorem Alike.trustedRedirect (alike : Alike left right) (env : Env) :
    trustedRedirect env left = trustedRedirect env right := by
  unfold Authorize.trustedRedirect
  rw [alike.merged "redirect_uri" (by decide), alike.client]

theorem Alike.trustedChannel (alike : Alike left right) (env : Env) :
    trustedChannel env left = trustedChannel env right := by
  have mode := alike.responseMode
  unfold requestedMode at mode
  unfold Authorize.trustedChannel
  rw [alike.trustedRedirect env, alike.hybrid, alike.merged "state" (by decide)]
  dsimp only
  rw [mode]

theorem Alike.requestedScope (alike : Alike left right) :
    requestedScope left.merged = requestedScope right.merged := by
  unfold Authorize.requestedScope
  rw [alike.merged "scope" (by decide)]

theorem Alike.checkGrant (alike : Alike left right) (env : Env) (channel : Channel) :
    checkGrant env left channel = checkGrant env right channel := by
  unfold Authorize.checkGrant
  rw [alike.client, alike.requestObject, alike.responseType, alike.hybrid, alike.requestedScope,
    alike.merged "nonce" (by decide)]

theorem Alike.checkChallenge (alike : Alike left right) (env : Env) (channel : Channel) :
    checkChallenge env left.merged channel = checkChallenge env right.merged channel := by
  unfold Authorize.checkChallenge
  rw [alike.merged "code_challenge" (by decide),
    alike.merged "code_challenge_method" (by decide)]

theorem Alike.checkRequest (alike : Alike left right) (env : Env) :
    checkRequest env left = checkRequest env right := by
  unfold Authorize.checkRequest
  dsimp only
  simp only [alike.trustedChannel env, alike.checkGrant env, alike.checkChallenge env, alike.hybrid,
    alike.client, alike.requestedScope, alike.merged "authorization_details" (by decide),
    alike.merged "resource" (by decide), alike.merged "claims" (by decide),
    alike.merged "dpop_jkt" (by decide), alike.merged "nonce" (by decide),
    alike.merged "code_challenge_method" (by decide), alike.merged "acr_values" (by decide)]

theorem Alike.loginGate (alike : Alike left right) (env : Env) (query : String)
    (channel : Channel) :
    loginGate env query left.params channel = loginGate env query right.params channel := by
  unfold Authorize.loginGate forceLogin promptValues
  rw [alike.prompt, alike.maxAge]

/-- Requests with the same values in force are answered by the same program. -/
theorem Alike.proceed (alike : Alike left right) (env : Env) (query : String) :
    proceed env query left = proceed env query right := by
  unfold ParameterPrecedence.proceed
  rw [alike.checkRequest env]
  congr 1
  funext request
  rw [alike.loginGate env query]

end Reading

/-! ### The row of the code -/

/-- The row of a code holds the values in force. -/
structure Filled (claims : List (String × Json)) (pushed params : Form) (row : AuthorizationCode) :
    Prop where
  clientId : params.get "client_id" = some row.clientId
  redirectUri : effective claims pushed params "redirect_uri" = some row.redirectUri
  scope : row.scope = ((effective claims pushed params "scope").filter (· != "")).getD "read"
  codeChallenge : row.codeChallenge = effective claims pushed params "code_challenge"
  codeChallengeMethod : row.codeChallengeMethod =
    effective claims pushed params "code_challenge_method"
  nonce : row.nonce = effective claims pushed params "nonce"
  resource : row.resource = effective claims pushed params "resource"
  authorizationDetails : row.authorizationDetails =
    effective claims pushed params "authorization_details"
  claimsRequest : row.claimsRequest = effective claims pushed params "claims"
  dpopJkt : row.dpopJkt = effective claims pushed params "dpop_jkt"

theorem filled_row {claims : List (String × Json)} {pushed params : Form} {env : Env}
    {resolved : Resolved} {request : CheckedRequest} {row : AuthorizationCode}
    (precedence : Precedence claims pushed params resolved) (checked : Checked env resolved request)
    (recorded : Recorded (codeRequest request row.userId) row) :
    Filled claims pushed params row := by
  have merged : ∀ key, key ∈ parMergeKeys →
      effective claims pushed params key = resolved.merged.get key :=
    fun key listed => (precedence.merged key listed).symm
  constructor
  · rw [recorded.clientId, precedence.clientId]
    exact congrArg (fun client : Client => some client.clientId) checked.client.symm
  · rw [merged _ (by decide), recorded.redirectUri]
    exact checked.trusted.redirectUri
  · rw [merged _ (by decide), recorded.scope]
    exact checked.scope
  · rw [merged _ (by decide), recorded.codeChallenge]
    exact checked.codeChallenge.symm
  · rw [merged _ (by decide), recorded.codeChallengeMethod]
    exact checked.codeChallengeMethod
  · rw [merged _ (by decide), recorded.nonce]
    exact checked.nonce
  · rw [merged _ (by decide), recorded.resource]
    exact checked.resource
  · rw [merged _ (by decide), recorded.authorizationDetails]
    exact checked.authorizationDetails
  · rw [merged _ (by decide), recorded.claimsRequest]
    exact checked.claimsRequest
  · rw [merged _ (by decide), recorded.dpopJkt]
    exact checked.dpopJkt

/-! ### Precedence -/

/-- One request reads every parameter from its source, and fills the row of its
code with what it read. -/
structure Sourced (front : FrontEnv) : Prop where
  resolved : ∀ query state resolved middle,
    (resolve front.env (QueryText.parseQsl query)).run front.interp state =
        (.ok resolved, middle) →
      ∃ claims, AcceptedClaims front query state resolved.client claims ∧
        Precedence claims (appliedParams front query state) (QueryText.parseQsl query) resolved
  read : ∀ query left right, Alike left right →
    proceed front.env query left = proceed front.env query right
  filled : ∀ query state response later,
    (authorize front.env query).respond front.interp state = (response, later) →
      ∀ row ∈ later.world.store.codes.rows, row ∉ state.world.store.codes.rows →
        ∃ client claims, AcceptedClaims front query state client claims ∧
          Filled claims (appliedParams front query state) (QueryText.parseQsl query) row

/-- Every parameter is the request object's, else the pushed one, else the
query's; a pushed request is applied once at most, within its minute, to its
own client. -/
theorem parameters_take_precedence (front : FrontEnv) :
    Sourced front ∧
      ∀ visits reached, Sequence front visits reached →
        (visits.filterMap (Visit.applied front)).Subperm
            (visits.filterMap (Visit.stored front)) ∧
          (Function.Injective front.env.platform.random →
            ((visits.filterMap (Visit.applied front)).map Prod.fst).Nodup) ∧
          ∀ earlier visit later requestUri entry, visits = earlier ++ visit :: later →
            visit.applied front = some (requestUri, entry) →
              Application front earlier visit requestUri entry := by
  refine ⟨⟨?_, ?_, ?_⟩, ?_⟩
  · intro query state resolved middle ran
    exact resolved_precedence ran
  · intro query left right alike
    exact alike.proceed front.env query
  · intro query state response later ran row member new
    obtain ⟨resolved, request, cleared⟩ := saved_code ran member new
    obtain ⟨middle, resolution⟩ := cleared.resolution
    obtain ⟨claims, accepted, precedence⟩ := resolved_precedence resolution
    exact ⟨resolved.client, claims, accepted,
      filled_row precedence cleared.checked cleared.recorded⟩
  · intro visits reached sequence
    obtain ⟨once, distinct⟩ := applied_once sequence
    refine ⟨once, distinct, ?_⟩
    intro earlier visit later requestUri entry split applied
    exact application sequence split applied

/-! ### A pushed request and its application -/

def pushedBody : Form :=
  [("client_id", "app"), ("response_type", "code"), ("redirect_uri", "https://app.example/cb"),
    ("scope", "read")]

def pushVisit : Visit where
  before := frontWorld true
  asked := .push
    { body := Text.utf8Encode (QueryText.urlencode pushedBody).toList
      credentials := noCredentials }

def pushedUri : String := "urn:ietf:params:oauth:request-uri:random-0"

def applyVisit : Visit where
  before := pushVisit.after frontEnv
  asked := .authorize (QueryText.urlencode [("client_id", "app"), ("request_uri", pushedUri)])

theorem sample_applied : (applyVisit.applied frontEnv).any (·.1 == pushedUri) = true := by
  unfold Visit.applied applyVisit appliedEntry
  dsimp only
  rw [QueryText.parse_qsl_urlencode]
  decide +kernel

/-- The sample push is applied to the request of its client. -/
theorem sample_application :
    ∃ entry, Application frontEnv [pushVisit] applyVisit pushedUri entry := by
  have pushes : Sequence frontEnv [pushVisit] (pushVisit.after frontEnv) :=
    .visit pushVisit (.start (frontWorld true) rfl) ⟨rfl, le_refl _⟩
  have visits : Sequence frontEnv [pushVisit, applyVisit] (applyVisit.after frontEnv) :=
    .visit applyVisit pushes ⟨rfl, le_refl _⟩
  obtain ⟨⟨requestUri, entry⟩, applied, named⟩ := (Option.any_eq_true _ _).1 sample_applied
  have same : requestUri = pushedUri := by simpa using named
  subst same
  exact ⟨entry, ((parameters_take_precedence frontEnv).2 _ _ visits).2.2 [pushVisit] applyVisit []
    _ entry rfl applied⟩

end OAuth2Server.ParameterPrecedence
