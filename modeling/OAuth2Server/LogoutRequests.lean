import OAuth2Server.Logout
import OAuth2Server.FrontChannel
import OAuth2Server.RevocationFinality

/-!
# A logout request

`GET /oauth/logout`. A hint is verified first, and its subject's tokens are revoked;
then the session is purged, the clients that subscribed are told, and the browser is
sent on to a URI that a client has registered, or nowhere.
-/

namespace OAuth2Server.LogoutRequests

open OAuth2Server Models JsonText Storage Effects Interaction Interaction.Program Tables
open ClientAuth Issuance KeySet TokenEndpoint Endpoints FrontChannel Logout Footprints
open SenderConstraint ReferenceJwt Runs Interleaving RevocationFinality

set_option autoImplicit false

/-! ### The hint -/

/-- `_error`. -/
def logoutError (description : String) : Response :=
  json 400 [("error", .str "invalid_request"), ("error_description", .str description)]

/-- `_extract_audiences`. -/
def extractAudiences (claims : List (String × Json)) : List String :=
  match claims.lookup "aud" with
  | some (.str audience) => [audience]
  | some (.arr items) => items.filterMap Json.str?
  | _ => []

/-- Whether one of the audiences is a registered client. -/
def anyRegistered : List String → Handler Bool
  | [] => pure false
  | audience :: rest => do
      let found ← query (.getClient audience)
      if found.isSome then pure true else anyRegistered rest

/-- The subject of a hint, whose tokens are revoked. -/
def hintSubject (claims : List (String × Json)) : Option String :=
  (textMember claims "sub").filter (· != "")

def answerHint : HintError → Response
  | .invalidHint => logoutError "invalid id_token_hint"
  | .other => internalServerError

/-- A hint that names no audience is addressed to anyone. -/
def matchesClient (audiences : List String) : Handler Bool :=
  if audiences.isEmpty then pure true else anyRegistered audiences

/-- A hint is verified, and addressed to a registered client if to anyone. -/
def checkHint (env : Env) (hint : String) : Handler (List (String × Json)) := do
  let claims ← (decodeHint env hint).mapError answerHint
  let matched ← matchesClient (extractAudiences claims)
  Program.rejectIf (!matched)
    (logoutError "id_token_hint aud does not match a registered client")
  pure claims

/-- What `logout` does with the hint: the subject it identifies. -/
def identify (env : Env) (params : Form) : Handler (Option String) :=
  match (params.get "id_token_hint").filter (· != "") with
  | none => pure none
  | some hint => do
      let claims ← checkHint env hint
      match hintSubject claims with
      | none => pure none
      | some sub => do
          discard (command (.revokeTokensByUserId sub))
          pure (some sub)

/-! ### Back-channel logout -/

/-- A POST of a logout token; there is none where the claims cannot be signed. -/
structure Dispatch where
  client : Client
  claims : List (String × Json)
  token : Option String

def backchannelEvent : String := "http://schemas.openid.net/event/backchannel-logout"

def backchannelLogoutTtlSecs : Int := 120

/-- The session id a client's logout token carries. -/
def tokenSid (client : Client) (sid : Option String) : Option String :=
  if client.backchannelLogoutSessionRequired then sid else none

/-- A subscriber that the request identifies a session to. -/
def notified (sub sid : Option String) (client : Client) : Bool :=
  client.backchannelLogoutUri != "" && (sub.isSome || (tokenSid client sid).isSome)

/-- `_dispatch_backchannel_logout`. -/
def dispatchBackchannelLogout (env : Env) (client : Client) (sub sid : Option String) :
    Handler Dispatch := do
  let time ← ambient .time
  let now := ⌊time⌋
  let jti ← ambient .uuid4Hex
  let claims := [("iss", Json.str env.config.issuer), ("aud", .str client.clientId),
    ("iat", .int now), ("exp", .int (now + backchannelLogoutTtlSecs)), ("jti", .str jti),
    ("events", .obj [(backchannelEvent, .obj [])])] ++
    optionalMember "sub" (sub.map Json.str) ++ optionalMember "sid" (sid.map Json.str)
  pure
    { client := client
      claims := claims
      token := jwtEncode env (.obj claims) (Text.utf8Encode env.config.jwtSecret.toList) "HS256"
        [("typ", "logout+JWT")] }

/-- The dispatches, which are begun in the order of the clients. -/
def dispatchAll (env : Env) (sub sid : Option String) : List Client → Handler (List Dispatch)
  | [] => pure []
  | client :: rest => do
      let dispatch ← dispatchBackchannelLogout env client sub (tokenSid client sid)
      let dispatches ← dispatchAll env sub sid rest
      pure (dispatch :: dispatches)

/-! ### Where the browser goes -/

/-- `client.get_post_logout_redirect_uris()`; `none` is an escaping exception. -/
def getPostLogoutRedirectUris (env : Env) (client : Client) : Option Json :=
  if client.postLogoutRedirectUris == "" then some (.arr [])
  else match loads env.platform.recursionLimit client.postLogoutRedirectUris with
    | .ok uris => some uris
    | .error .decode => some (.arr [])
    | .error _ => none

/-- `client.redirect_uri_list()`, as it is stored. -/
def redirectUris (env : Env) (client : Client) : Option Json :=
  if client.redirectUris == "" then some (.arr [])
  else (loads env.platform.recursionLimit client.redirectUris).toOption

/-- The client has registered the URI for one of its two purposes. -/
def registers (env : Env) (uri : String) (client : Client) : Option Bool :=
  match (getPostLogoutRedirectUris env client).bind (·.containsText uri) with
  | some true => some true
  | some false => (redirectUris env client).bind (·.containsText uri)
  | none => none

def anyRegisters (env : Env) (uri : String) : List Client → Option Bool
  | [] => some false
  | client :: rest =>
      match registers env uri client with
      | some true => some true
      | some false => anyRegisters env uri rest
      | none => none

/-- `_validate_post_logout_redirect_uri`. -/
def validatePostLogoutRedirectUri (env : Env) (uri : String) (clients : List Client) :
    Except Response Unit :=
  match Url.urlsplit uri with
  | none => throw internalServerError
  | some parsed =>
      if parsed.scheme == "" || parsed.netloc == "" then
        throw (logoutError "Invalid post_logout_redirect_uri")
      else if parsed.scheme != "http" && parsed.scheme != "https" then
        throw (logoutError "post_logout_redirect_uri must use http or https")
      else if parsed.fragment != "" then
        throw (logoutError "post_logout_redirect_uri must not contain a fragment")
      else
        match anyRegisters env uri clients with
        | some true => pure ()
        | some false => throw (logoutError "Unregistered post_logout_redirect_uri")
        | none => throw internalServerError

/-- The URL a logout ends at, if one is asked for. -/
def redirectUrl (env : Env) (params : Form) (clients : List Client) :
    Except Response (Option String) :=
  match (params.get "post_logout_redirect_uri").filter (· != "") with
  | none => pure none
  | some uri => do
      validatePostLogoutRedirectUri env uri clients
      pure (some (appendState uri (params.get "state")))

def frontchannelPage (clients : List Client) (issuer : String) (sid url : Option String) :
    Response where
  status := 200
  headers := [("content-type", "text/html; charset=utf-8")]
  body := .str (renderFrontchannelPage clients issuer sid url)

/-- The answer of a logout whose redirect is settled. -/
def landing (env : Env) (clients : List Client) (sid url : Option String) : Response :=
  let subscribers := clients.filter fun client => client.frontchannelLogoutUri != ""
  if !subscribers.isEmpty then frontchannelPage subscribers env.config.issuer sid url
  else
    match url with
    | some url => redirect 302 url
    | none => json 200 [("status", .str "logged_out")]

/-- The session a logout names; no session of the server holds a `session_id`. -/
def requestedSid (params : Form) : Option String := (params.get "sid").filter (· != "")

/-- What follows the purge of the session: what is sent, and the answer. -/
def conclude (env : Env) (params : Form) (sub : Option String) :
    Handler (List Dispatch × Response) := do
  let sid := requestedSid params
  let clients ← query .listAllClients
  let sent ← dispatchAll env sub sid (clients.filter (notified sub sid))
  match redirectUrl env params clients with
  | .error refused => pure (sent, refused)
  | .ok url => pure (sent, landing env clients sid url)

/-- The answer to a logout, and what it sent. -/
structure Outcome where
  response : Response
  sent : List Dispatch := []

/-- `logout`: the session goes once the hint is through. -/
def logout (front : FrontEnv) (params : Form) (state : FrontWorld) : Outcome × FrontWorld :=
  match (identify front.env params).run front.env.interp state.world with
  | (.error refused, world) => ({ response := refused }, { state with world := world })
  | (.ok sub, world) =>
      let purged := { state with world := world, session := {} }
      match (conclude front.env params sub).run front.env.interp world with
      | (.ok (sent, response), later) =>
          ({ response := response, sent := sent }, { purged with world := later })
      | (.error refused, later) => ({ response := refused }, { purged with world := later })

/-! ### The hint is read before anything is written -/

section Hint

variable {env : Env} {world later : World}

theorem uses_keyset_materials (header : List (String × Json)) (keys : List SigningKey) :
    Uses (S := Server) Identifying (fun _ => True) (keysetMaterials header keys) := by
  unfold keysetMaterials
  apply Uses.bind
  · unfold namedKey
    split
    · exact uses_find _ _
    · exact uses_pure _
  · intro found
    split
    · exact uses_pure _
    · exact Uses.bind (uses_active_keys _ _) fun _ => uses_pure _

theorem uses_decode_hint_with (hint : String) (key : VerifyKey) (alg : String) :
    Uses (S := Server) Identifying (fun _ => True) (decodeHintWith env hint key alg) := by
  unfold decodeHintWith
  apply Uses.bind (uses_ambient _ trivial)
  intro now
  split
  · exact uses_pure _
  · exact uses_pure _
  · trivial

theorem uses_try_materials (hint : String) (materials : List (List Nat)) :
    Uses (S := Server) Identifying (fun _ => True) (tryMaterials env hint materials) := by
  induction materials with
  | nil => trivial
  | cons material rest induction =>
      unfold tryMaterials
      split
      · exact induction
      · apply Uses.bind (uses_decode_hint_with _ _ _)
        intro payload
        split
        · exact uses_pure _
        · exact induction

theorem uses_decode_hint (hint : String) :
    Uses (S := Server) Identifying (fun _ => True) (decodeHint env hint) := by
  unfold decodeHint
  split
  · dsimp only
    split
    · apply Uses.bind (uses_decode_hint_with _ _ _)
      intro payload
      split
      · exact uses_pure _
      · trivial
    · split
      · trivial
      · apply Uses.bind (uses_ambient _ trivial)
        intro keys
        refine Uses.bind (Uses.bind (uses_keyset_materials _ _) fun materials => ?_) fun materials =>
          uses_try_materials _ _
        split <;> exact uses_pure _
  · trivial

/-- One of the audiences is the id of a client in the store. -/
def Registered (audiences : List String) (store : Store) : Prop :=
  ∃ client ∈ store.clients.rows, client.clientId ∈ audiences

theorem run_any_registered (env : Env) (audiences : List String) (world : World) :
    ∃ found, (anyRegistered audiences).run env.interp world = (.ok found, world) ∧
      (found = true ↔ Registered audiences world.store) := by
  induction audiences with
  | nil => exact ⟨false, rfl, by simp [Registered]⟩
  | cons audience rest induction =>
      unfold anyRegistered
      rw [run_query_bind]
      cases looked : Query.eval env.backend world.store (.getClient audience) with
      | some client =>
          obtain ⟨member, named⟩ := Table.mem_of_first looked
          simp only [beq_iff_eq] at named
          exact ⟨true, rfl, fun _ => ⟨client, member, by simp [named]⟩, fun _ => rfl⟩
      | none =>
          obtain ⟨found, ran, registered⟩ := induction
          refine ⟨found, ran, registered.trans ⟨?_, ?_⟩⟩
          · rintro ⟨client, member, listed⟩
            exact ⟨client, member, List.mem_cons_of_mem _ listed⟩
          · rintro ⟨client, member, listed⟩
            have other := List.find?_eq_none.1 looked client member
            rcases List.mem_cons.1 listed with same | listed
            · simp [same] at other
            · exact ⟨client, member, listed⟩

theorem run_matches_client (env : Env) (audiences : List String) (world : World) :
    ∃ matched, (matchesClient audiences).run env.interp world = (.ok matched, world) ∧
      (matched = true ↔ audiences = [] ∨ Registered audiences world.store) := by
  unfold matchesClient
  split
  · rename_i none
    exact ⟨true, rfl, fun _ => Or.inl (by simpa using none), fun _ => rfl⟩
  · rename_i some
    obtain ⟨found, ran, registered⟩ := run_any_registered env audiences world
    exact ⟨found, ran, by simpa [List.isEmpty_iff.not.1 some] using registered⟩

/-- The claims are those of a hint the server verifies, addressed to a
registered client if it is addressed to anyone. -/
structure Vouched (env : Env) (hint : String) (world : World) (claims : List (String × Json)) :
    Prop where
  verified : ∃ later, (decodeHint env hint).run env.interp world = (.ok claims, later)
  addressed : extractAudiences claims = [] ∨ Registered (extractAudiences claims) world.store

/-- The hint is no token the server verifies, or it is addressed to nobody the
server knows. -/
inductive HintRefused (env : Env) (hint : String) (world : World) : Response → Prop where
  | undecoded (error : HintError) (later : World)
      (raised : (decodeHint env hint).run env.interp world = (.error error, later)) :
      HintRefused env hint world (answerHint error)
  | misaddressed (claims : List (String × Json)) (later : World)
      (verified : (decodeHint env hint).run env.interp world = (.ok claims, later))
      (addressed : extractAudiences claims ≠ [])
      (unknown : ¬Registered (extractAudiences claims) world.store) :
      HintRefused env hint world
        (logoutError "id_token_hint aud does not match a registered client")

/-- A hint is refused or vouched for, and not both. -/
theorem HintRefused.unvouched {hint : String} {response : Response}
    (refused : HintRefused env hint world response) (claims : List (String × Json)) :
    ¬Vouched env hint world claims := by
  rintro ⟨⟨later, verified⟩, addressed⟩
  cases refused with
  | undecoded error _ raised =>
      rw [raised] at verified
      cases verified
  | misaddressed others _ decoded named unknown =>
      rw [decoded] at verified
      cases verified
      exact addressed.elim named unknown

theorem check_hint_settled (env : Env) (hint : String) (world : World) :
    ∃ later, later.store = world.store ∧
      ((∃ claims, (checkHint env hint).run env.interp world = (.ok claims, later) ∧
          Vouched env hint world claims) ∨
        ∃ refused, (checkHint env hint).run env.interp world = (.error refused, later) ∧
          HintRefused env hint world refused) := by
  have stays : ((decodeHint env hint).run env.interp world).2.store = world.store :=
    store_of_read_only ((uses_decode_hint hint).mono
      (fun op identifying => read_only_of_calm op (calm_of_identifying op identifying))
      fun _ raised => raised)
  unfold checkHint
  rw [run_bind, run_map_error]
  cases decoded : (decodeHint env hint).run env.interp world with
  | mk outcome later =>
      rw [decoded] at stays
      refine ⟨later, stays, ?_⟩
      cases outcome with
      | error error =>
          exact Or.inr ⟨answerHint error, rfl, .undecoded error later decoded⟩
      | ok claims =>
          simp only [Except.mapError]
          obtain ⟨matched, ran, addressed⟩ := run_matches_client env (extractAudiences claims) later
          rw [stays] at addressed
          rw [run_bind, ran]
          cases matched with
          | true => exact Or.inl ⟨claims, rfl, ⟨later, decoded⟩, addressed.1 rfl⟩
          | false =>
              have unaddressed := addressed.not.1 Bool.false_ne_true
              rw [not_or] at unaddressed
              exact Or.inr ⟨_, rfl, .misaddressed claims later decoded unaddressed.1 unaddressed.2⟩

/-- A token after its user, if one is identified, has been signed out. -/
def signedOut (sub : Option String) (row : Token) : Token :=
  if sub.isSome && row.userId == sub then { row with revoked := true } else row

/-- The tokens of the identified user are revoked, and nothing else is changed. -/
structure Revoked (sub : Option String) (before after : Store) : Prop where
  tokens : after.tokens.rows = before.tokens.rows.map (signedOut sub)
  others : after = { before with tokens := after.tokens }

theorem revoked_nobody (store : Store) : Revoked none store store := by
  constructor
  · have same : signedOut none = id := funext fun row => rfl
    rw [same, List.map_id]
  · rfl

theorem revoked_user (backend : Backend) (store : Store) (user : String) :
    Revoked (some user) store (Command.exec backend store (.revokeTokensByUserId user)).2 := by
  constructor
  · apply List.map_congr_left
    intro row _
    cases owned : row.userId == some user with
    | false => simp [signedOut, owned]
    | true =>
        cases live : row.revoked with
        | false => simp [signedOut, owned, live]
        | true =>
            simp only [signedOut, owned, live, Option.isSome_some, Bool.and_true, Bool.not_true,
              Bool.and_false, Bool.false_eq_true, if_false, if_true]
            rw [← live]
  · rfl

/-- The hint a request has; an empty one is none. -/
def presentedHint (params : Form) : Option String := (params.get "id_token_hint").filter (· != "")

/-- Nobody is identified without a hint; with one that is through, its subject is,
if it has one. -/
inductive Identified (env : Env) (params : Form) (world : World) : Option String → Prop where
  | unhinted (absent : presentedHint params = none) : Identified env params world none
  | hinted (hint : String) (claims : List (String × Json))
      (presented : presentedHint params = some hint) (vouched : Vouched env hint world claims) :
      Identified env params world (hintSubject claims)

theorem identify_settled (env : Env) (params : Form) (world : World) :
    (∃ hint refused later, (identify env params).run env.interp world = (.error refused, later) ∧
        later.store = world.store ∧ presentedHint params = some hint ∧
        HintRefused env hint world refused) ∨
      ∃ sub later, (identify env params).run env.interp world = (.ok sub, later) ∧
        Revoked sub world.store later.store ∧ Identified env params world sub := by
  unfold identify
  cases presented : (params.get "id_token_hint").filter (· != "") with
  | none => exact Or.inr ⟨none, world, rfl, revoked_nobody _, .unhinted presented⟩
  | some hint =>
      obtain ⟨later, stays, checked⟩ := check_hint_settled env hint world
      dsimp only
      rw [run_bind]
      rcases checked with ⟨claims, ran, vouched⟩ | ⟨refused, ran, why⟩
      · rw [ran]
        dsimp only
        right
        have identified : Identified env params world (hintSubject claims) :=
          .hinted hint claims presented vouched
        cases named : hintSubject claims with
        | none =>
            rw [named] at identified
            refine ⟨none, later, rfl, ?_, identified⟩
            rw [stays]
            exact revoked_nobody _
        | some user =>
            rw [named] at identified
            refine ⟨some user, _, rfl, ?_, identified⟩
            rw [← stays]
            exact revoked_user env.backend later.store user
      · rw [ran]
        exact Or.inl ⟨hint, refused, later, rfl, stays, presented, why⟩

end Hint

/-! ### Whom the logout is told to -/

/-- A logout token says to one client who is logged out, for two minutes, and
cannot be taken for an ID token. -/
structure Tells (env : Env) (sub sid : Option String) (dispatch : Dispatch) : Prop where
  issuer : dispatch.claims.lookup "iss" = some (.str env.config.issuer)
  audience : dispatch.claims.lookup "aud" = some (.str dispatch.client.clientId)
  subject : dispatch.claims.lookup "sub" = sub.map Json.str
  session : dispatch.claims.lookup "sid" = (tokenSid dispatch.client sid).map Json.str
  lifetime : ∃ issued : Int, dispatch.claims.lookup "iat" = some (.int issued) ∧
    dispatch.claims.lookup "exp" = some (.int (issued + backchannelLogoutTtlSecs))
  event : dispatch.claims.lookup "events" = some (.obj [(backchannelEvent, .obj [])])
  nonceless : dispatch.claims.lookup "nonce" = none
  signed : dispatch.token = jwtEncode env (.obj dispatch.claims)
    (Text.utf8Encode env.config.jwtSecret.toList) "HS256" [("typ", "logout+JWT")]

theorem run_dispatch (env : Env) (sub sid : Option String) (client : Client) (world : World) :
    ∃ dispatch later,
      (dispatchBackchannelLogout env client sub (tokenSid client sid)).run env.interp world =
        (.ok dispatch, later) ∧ later.store = world.store ∧ dispatch.client = client ∧
      Tells env sub sid dispatch := by
  unfold dispatchBackchannelLogout
  refine ⟨_, _, rfl, rfl, rfl, ?_⟩
  constructor
  · rfl
  · rfl
  · cases sub <;> cases tokenSid client sid <;> rfl
  · cases sub <;> cases tokenSid client sid <;> rfl
  · exact ⟨_, rfl, rfl⟩
  · rfl
  · cases sub <;> cases tokenSid client sid <;> rfl
  · rfl

theorem run_dispatch_all (env : Env) (sub sid : Option String) (clients : List Client)
    (world : World) :
    ∃ sent later, (dispatchAll env sub sid clients).run env.interp world = (.ok sent, later) ∧
      later.store = world.store ∧ sent.map Dispatch.client = clients ∧
      ∀ dispatch ∈ sent, Tells env sub sid dispatch := by
  induction clients generalizing world with
  | nil => exact ⟨[], world, rfl, rfl, rfl, fun _ none => nomatch none⟩
  | cons client rest induction =>
      obtain ⟨dispatch, middle, begun, kept, addressed, tells⟩ := run_dispatch env sub sid client world
      obtain ⟨sent, later, ran, stays, told, all⟩ := induction middle
      refine ⟨dispatch :: sent, later, ?_, stays.trans kept, ?_, ?_⟩
      · unfold dispatchAll
        rw [run_bind, begun]
        dsimp only
        rw [run_bind, ran]
        rfl
      · rw [List.map_cons, addressed, told]
      · intro other member
        rcases List.mem_cons.1 member with same | member
        · rw [same]
          exact tells
        · exact all other member

/-! ### Where the browser may go -/

section Landing

variable {env : Env} {params : Form}

/-- The browser may be sent there: the URI that was asked for is an absolute HTTP
URL without a fragment, and one of the clients has registered it. -/
def Allowed (env : Env) (params : Form) (clients : List Client) (url : String) : Prop :=
  ∃ uri parsed client, params.get "post_logout_redirect_uri" = some uri ∧
    url = appendState uri (params.get "state") ∧ Url.urlsplit uri = some parsed ∧
    parsed.scheme ∈ ["http", "https"] ∧ parsed.netloc ≠ "" ∧ parsed.fragment = "" ∧
    client ∈ clients ∧ registers env uri client = some true

theorem any_registers {uri : String} {clients : List Client}
    (found : anyRegisters env uri clients = some true) :
    ∃ client ∈ clients, registers env uri client = some true := by
  induction clients with
  | nil => cases found
  | cons client rest induction =>
      unfold anyRegisters at found
      split at found
      · rename_i registered
        exact ⟨client, List.mem_cons_self, registered⟩
      · obtain ⟨other, member, registered⟩ := induction found
        exact ⟨other, List.mem_cons_of_mem _ member, registered⟩
      · cases found

/-- A refusal of the redirect, or an exception on the way to it. -/
def RedirectRefused (response : Response) : Prop :=
  (∃ description, response = logoutError description) ∨ response = internalServerError

theorem validated_redirect (env : Env) (uri : String) (clients : List Client) :
    (∃ refused, validatePostLogoutRedirectUri env uri clients = .error refused ∧
        RedirectRefused refused) ∨
      validatePostLogoutRedirectUri env uri clients = .ok () ∧
        ∃ parsed, Url.urlsplit uri = some parsed ∧ parsed.scheme ∈ ["http", "https"] ∧
          parsed.netloc ≠ "" ∧ parsed.fragment = "" ∧
          ∃ client ∈ clients, registers env uri client = some true := by
  unfold validatePostLogoutRedirectUri
  split
  · exact Or.inl ⟨_, rfl, Or.inr rfl⟩
  · rename_i parsed split
    split
    · exact Or.inl ⟨_, rfl, Or.inl ⟨_, rfl⟩⟩
    · rename_i absolute
      split
      · exact Or.inl ⟨_, rfl, Or.inl ⟨_, rfl⟩⟩
      · rename_i web
        split
        · exact Or.inl ⟨_, rfl, Or.inl ⟨_, rfl⟩⟩
        · rename_i whole
          split
          · rename_i found
            right
            have located : parsed.netloc ≠ "" := by
              intro empty
              simp [empty] at absolute
            have scheme : parsed.scheme ∈ ["http", "https"] := by
              by_contra other
              apply web
              simpa using other
            exact ⟨rfl, parsed, split, scheme, located, by simpa using whole, any_registers found⟩
          · exact Or.inl ⟨_, rfl, Or.inl ⟨_, rfl⟩⟩
          · exact Or.inl ⟨_, rfl, Or.inr rfl⟩

theorem redirect_url_settled (env : Env) (params : Form) (clients : List Client) :
    (∃ refused, redirectUrl env params clients = .error refused ∧ RedirectRefused refused) ∨
      ∃ url, redirectUrl env params clients = .ok url ∧
        ∀ target, url = some target → Allowed env params clients target := by
  unfold redirectUrl
  cases asked : (params.get "post_logout_redirect_uri").filter (· != "") with
  | none => exact Or.inr ⟨none, rfl, fun _ impossible => nomatch impossible⟩
  | some uri =>
      obtain ⟨given, _⟩ := Option.filter_eq_some_iff.1 asked
      rcases validated_redirect env uri clients with ⟨refused, failed, why⟩ |
        ⟨passed, parsed, split, scheme, located, whole, client, member, listed⟩
      · left
        refine ⟨refused, ?_, why⟩
        dsimp only
        rw [failed]
        rfl
      · right
        refine ⟨some (appendState uri (params.get "state")), ?_, ?_⟩
        · dsimp only
          rw [passed]
          rfl
        · intro target same
          cases same
          exact ⟨uri, parsed, client, given, rfl, split, scheme, located, whole, member, listed⟩

theorem Allowed.perm {clients others : List Client} {url : String}
    (allowed : Allowed env params clients url) (same : clients.Perm others) :
    Allowed env params others url := by
  obtain ⟨uri, parsed, client, given, built, split, scheme, located, whole, member, listed⟩ := allowed
  exact ⟨uri, parsed, client, given, built, split, scheme, located, whole, same.subset member, listed⟩

/-- The answers to a logout whose hint is through, given the registered clients. -/
inductive Answered (env : Env) (params : Form) (clients : List Client) : Response → Prop where
  | refused (response : Response) (why : RedirectRefused response) :
      Answered env params clients response
  | page (subscribers : List Client) (url : Option String)
      (subscribed : subscribers.Perm
        (clients.filter fun client => client.frontchannelLogoutUri != ""))
      (allowed : ∀ target, url = some target → Allowed env params clients target) :
      Answered env params clients
        (frontchannelPage subscribers env.config.issuer (requestedSid params) url)
  | redirected (url : String) (allowed : Allowed env params clients url) :
      Answered env params clients (redirect 302 url)
  | confirmed : Answered env params clients (json 200 [("status", .str "logged_out")])

theorem answered_landing {clients rows : List Client} (listed : clients.Perm rows)
    (url : Option String) (allowed : ∀ target, url = some target → Allowed env params rows target) :
    Answered env params rows (landing env clients (requestedSid params) url) := by
  unfold landing
  dsimp only
  split
  · exact .page _ url (listed.filter _) allowed
  · cases url with
    | some target => exact .redirected target (allowed target rfl)
    | none => exact .confirmed

end Landing

/-! ### A whole logout -/

/-- A hint that is not through ends the request: nobody is logged out. -/
structure TurnedAway (env : Env) (params : Form) (before after : FrontWorld) (outcome : Outcome) :
    Prop where
  refused : ∃ hint, presentedHint params = some hint ∧
    HintRefused env hint before.world outcome.response
  silent : outcome.sent = []
  session : after.session = before.session
  store : after.world.store = before.world.store

/-- What a logout does, whatever becomes of the redirect. -/
structure LoggedOut (env : Env) (params : Form) (before after : FrontWorld) (outcome : Outcome)
    (sub : Option String) : Prop where
  identified : Identified env params before.world sub
  revoked : Revoked sub before.world.store after.world.store
  purged : after.session = {}
  told : (outcome.sent.map Dispatch.client).Perm
    (before.world.store.clients.rows.filter (notified sub (requestedSid params)))
  tells : ∀ dispatch ∈ outcome.sent, Tells env sub (requestedSid params) dispatch
  answered : Answered env params before.world.store.clients.rows outcome.response

theorem conclude_settled (env : Env) (params : Form) (sub : Option String) (world : World) :
    ∃ sent response later,
      (conclude env params sub).run env.interp world = (.ok (sent, response), later) ∧
      later.store = world.store ∧
      (sent.map Dispatch.client).Perm
        (world.store.clients.rows.filter (notified sub (requestedSid params))) ∧
      (∀ dispatch ∈ sent, Tells env sub (requestedSid params) dispatch) ∧
      Answered env params world.store.clients.rows response := by
  have listed : (Query.eval env.backend world.store .listAllClients).Perm
      world.store.clients.rows := List.mergeSort_perm _ _
  unfold conclude
  dsimp only
  rw [run_query_bind, run_bind]
  generalize Query.eval env.backend world.store .listAllClients = clients at listed ⊢
  obtain ⟨sent, later, ran, stays, told, tells⟩ := run_dispatch_all env sub (requestedSid params)
    (clients.filter (notified sub (requestedSid params))) world
  rw [ran]
  dsimp only
  have perm : (sent.map Dispatch.client).Perm
      (world.store.clients.rows.filter (notified sub (requestedSid params))) := by
    rw [told]
    exact listed.filter _
  rcases redirect_url_settled env params clients with
    ⟨refused, failed, why⟩ | ⟨url, passed, allowed⟩
  · refine ⟨sent, refused, later, ?_, stays, perm, tells, .refused refused why⟩
    rw [failed]
    rfl
  · have fits : ∀ target, url = some target → Allowed env params world.store.clients.rows target :=
      fun target same => (allowed target same).perm listed
    refine ⟨sent, _, later, ?_, stays, perm, tells, answered_landing listed url fits⟩
    rw [passed]
    rfl

/-- A request that is turned away is not logged out as well: what the hint is worth
decides between the two. -/
theorem TurnedAway.not_logged_out {env : Env} {params : Form} {before after : FrontWorld}
    {outcome : Outcome} (turned : TurnedAway env params before after outcome)
    (sub : Option String) : ¬LoggedOut env params before after outcome sub := by
  obtain ⟨hint, given, refused⟩ := turned.refused
  intro out
  cases out.identified with
  | unhinted absent =>
      rw [given] at absent
      cases absent
  | hinted same claims presented vouched =>
      rw [given] at presented
      cases presented
      exact refused.unvouched claims vouched

/-- A logout whose hint is refused changes nothing. Any other purges the session,
revokes the tokens of exactly the user the verified hint names, if there is one,
tells each subscriber it can identify the session to once, and sends the browser to
a registered URI or nowhere. -/
theorem logout_settled (front : FrontEnv) (params : Form) (state : FrontWorld) :
    TurnedAway front.env params state (logout front params state).2
        (logout front params state).1 ∨
      ∃ sub, LoggedOut front.env params state (logout front params state).2
        (logout front params state).1 sub := by
  unfold logout
  rcases identify_settled front.env params state.world with
    ⟨hint, refused, later, ran, stays, presented, why⟩ | ⟨sub, middle, ran, revoked, identified⟩
  · left
    rw [ran]
    exact ⟨⟨hint, presented, why⟩, rfl, rfl, stays⟩
  · right
    obtain ⟨sent, response, later, concluded, stays, told, tells, answered⟩ :=
      conclude_settled front.env params sub middle
    have clients : middle.store.clients = state.world.store.clients := by rw [revoked.others]
    rw [ran]
    dsimp only
    rw [concluded]
    refine ⟨sub, identified, ?_, rfl, ?_, tells, ?_⟩
    · dsimp only
      rw [stays]
      exact revoked
    · rw [← clients]
      exact told
    · rw [← clients]
      exact answered

/-! ### After a logout -/

section After

variable {front : FrontEnv} {params : Form} {state : FrontWorld} {user : String}

theorem logged_out (identified : ((identify front.env params).run front.env.interp state.world).1 =
      .ok (some user)) :
    Revoked (some user) state.world.store (logout front params state).2.world.store := by
  unfold logout
  rcases identify_settled front.env params state.world with
    ⟨hint, refused, later, ran, _⟩ | ⟨sub, middle, ran, revoked, _⟩
  · rw [ran] at identified
    cases identified
  · rw [ran] at identified
    cases identified
    obtain ⟨sent, response, later, concluded, stays, _⟩ :=
      conclude_settled front.env params (some user) middle
    rw [ran]
    dsimp only
    rw [concluded]
    dsimp only
    rw [stays]
    exact revoked

/-- Signing out changes no value a token is looked up by. -/
theorem find_signed_out {matching : Token → Bool} {sub : Option String} {rows : List Token}
    {row : Token} (blind : ∀ row, matching (signedOut sub row) = matching row)
    (found : rows.find? matching = some row) :
    (rows.map (signedOut sub)).find? matching = some (signedOut sub row) := by
  have same : matching ∘ signedOut sub = matching := funext blind
  rw [List.find?_map, same, found]
  rfl

theorem found_signed_out {env : Env} {sub : Option String} {before after : Store} {lookup : Lookup}
    {row : Token} (revoked : Revoked sub before after)
    (found : lookup.find env before = some row) :
    lookup.find env after = some (signedOut sub row) := by
  cases lookup with
  | access value =>
      change (after.tokens.rows.find? _) = _
      rw [revoked.tokens]
      apply find_signed_out _ found
      intro row
      unfold signedOut
      split <;> rfl
  | refresh value =>
      change (after.tokens.rows.find? _) = _
      rw [revoked.tokens]
      apply find_signed_out _ found
      intro row
      unfold signedOut
      split <;> rfl

/-- Once a logout has identified a user, whatever other requests are in flight and in
whatever order they go on, no request that starts afterwards gets anything for a
token the user had. Introspection of a refresh token is excepted where an access
token of the same value hides it. -/
theorem logged_out_for_good {ι : Type} [DecidableEq ι] (faithful : RoundTrip front.env.platform.jwt)
    (identified : ((identify front.env params).run front.env.interp state.world).1 =
      .ok (some user))
    {lookup : Lookup} {row : Token} (found : lookup.find front.env state.world.store = some row)
    (owned : row.userId = some user) (pool : Pool Server World Response Response ι)
    (resumed : pool.world = (logout front params state).2.world) {thread : ι} {visit : Visit}
    (starts : pool.rest thread = visit.program front.env)
    (presents : lookup ∈ visit.presented front.env) (schedule : List ι)
    (shown : ¬visit.Hides front.env (pool.exec front.env.interp schedule).world.store lookup)
    {response : Response}
    (finished : (pool.exec front.env.interp schedule).answer? thread = some response) :
    ¬visit.Serves front.env response := by
  have dropped : (signedOut (some user) row).revoked = true := by simp [signedOut, owned]
  have base : Dead front.env lookup (signedOut (some user) row) pool.world := by
    rw [resumed]
    exact dead_of_found (found_signed_out (logged_out identified) found) dropped
  have turned := visit_turned (signedOut (some user) row) faithful presents
  rw [← starts] at turned
  exact turned.answer dead_stable (hides_lasting visit) base shown finished

end After

/-! Alice signs out with a hint; afterwards her access token is shown and her
refresh token is introspected. -/

def aliceHint : String :=
  ReferenceJwt.library.encode (.obj [("iss", .str "s"), ("sub", .str "alice"), ("aud", .str "app")])
    (Text.utf8Encode "k".toList) "HS256" []

def aliceLogout : Form := [("id_token_hint", aliceHint)]

def signOutFront : FrontEnv where
  env := holderEnv
  defaultAcr := none
  verifyPassword := fun _ _ => false
  providerPkce := fun _ => none
  exchange := fun _ _ _ _ => .error "unused"
  userinfo := fun _ _ _ => .error "unused"

def signedIn : FrontWorld where
  world := sampleTokenWorld
  session := { userId := some "alice" }
  loginLimiter := { maxAttempts := 10, windowSecs := 900, windows := [] }
  parStore := []
  breakers := fun _ => {}

def laterVisits : Bool → Visit
  | false => .userinfo { form := [], authorization := some "Bearer access", method := .get }
  | true => .introspect { form := [("client_id", "app"), ("token", "refresh")] }

theorem alice_identified :
    ((identify signOutFront.env aliceLogout).run signOutFront.env.interp signedIn.world).1 =
      .ok (some "alice") := by
  generalize ran : (identify signOutFront.env aliceLogout).run signOutFront.env.interp
    signedIn.world = outcome
  have reads : outcome.1.toOption = some (some "alice") := by
    rw [← ran]
    decide +kernel
  cases whole : outcome.1 with
  | error refused =>
      rw [whole] at reads
      cases reads
  | ok sub =>
      rw [whole] at reads
      exact congrArg _ (Option.some.inj reads)

def afterSignOut : Pool Server World Response Response Bool :=
  Pool.start (logout signOutFront aliceLogout signedIn).2.world fun thread =>
    (laterVisits thread).program holderEnv

theorem starts_from {ι : Type} (world : World) (programs : ι → Handler Response) :
    (Pool.start world programs).world = world ∧ (Pool.start world programs).rest = programs :=
  ⟨rfl, rfl⟩

def laterMoves : List Bool := List.replicate 9 false ++ List.replicate 9 true

theorem signed_out_access_refused :
    ∃ shown introspected,
      (afterSignOut.exec holderEnv.interp laterMoves).answer? false = some shown ∧
      (afterSignOut.exec holderEnv.interp laterMoves).answer? true = some introspected ∧
      shown.status ≠ 200 ∧ ¬ReportsActive holderEnv introspected := by
  have faithful : RoundTrip signOutFront.env.platform.jwt := round_trip
  obtain ⟨resumed, starts⟩ := starts_from (logout signOutFront aliceLogout signedIn).2.world
    fun thread : Bool => (laterVisits thread).program signOutFront.env
  have begins : ∀ thread, afterSignOut.rest thread =
      (laterVisits thread).program signOutFront.env := congrFun starts
  have finished : ∀ thread : Bool, ((afterSignOut.exec holderEnv.interp
      laterMoves).answer? thread).isSome = true := by
    decide +kernel
  obtain ⟨shown, answered⟩ := Option.isSome_iff_exists.1 (finished false)
  obtain ⟨introspected, reported⟩ := Option.isSome_iff_exists.1 (finished true)
  have turned : ¬(laterVisits false).Serves signOutFront.env shown := by
    have found : (Lookup.access "access").find signOutFront.env signedIn.world.store =
        some sampleToken := by decide +kernel
    have presents : Lookup.access "access" ∈ (laterVisits false).presented signOutFront.env := by
      decide +kernel
    have apart : ¬(laterVisits false).Hides signOutFront.env
        (afterSignOut.exec signOutFront.env.interp laterMoves).world.store
        (.access "access") := not_false
    exact logged_out_for_good faithful alice_identified found rfl afterSignOut resumed
      (begins false) presents laterMoves apart answered
  have inactive : ¬(laterVisits true).Serves signOutFront.env introspected := by
    have found : (Lookup.refresh "refresh").find signOutFront.env signedIn.world.store =
        some sampleToken := by decide +kernel
    have presents : Lookup.refresh "refresh" ∈ (laterVisits true).presented signOutFront.env := by
      decide +kernel
    have alone : (Lookup.access "refresh").find signOutFront.env
        (afterSignOut.exec signOutFront.env.interp laterMoves).world.store = none := by
      decide +kernel
    exact logged_out_for_good faithful alice_identified found rfl afterSignOut resumed
      (begins true) presents laterMoves (not_not.2 alone) reported
  exact ⟨shown, introspected, answered, reported, turned, inactive⟩

end OAuth2Server.LogoutRequests
