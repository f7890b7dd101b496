import OAuth2Server.RequestObject

/-!
# `GET /oauth/authorize` and `POST /oauth/par`

`routes/authorize.py` and `routes/par.py`. A request is resolved from three
sources (the query, a pushed request, a request object), checked, held at the
login gate, and answered with a code. Up to the check of the redirect URI an
error is a JSON page; from there on it is delivered to that URI. The query
string is ASCII and carries no fragment, so that its two decodings in the
framework agree. Metrics and events are left out.
-/

namespace OAuth2Server.Authorize

open OAuth2Server Models JsonText Storage Effects Interaction
open Process ClientAuth Endpoints Validation FrontChannel AuthorizeResponse RequestObject

set_option autoImplicit false

/-! ### `int(text)` -/

/-- The zeros of the decimal digits, in the Unicode version of the interpreter. -/
def decimalZeros : List Nat :=
  [48, 1632, 1776, 1984, 2406, 2534, 2662, 2790, 2918, 3046, 3174, 3302, 3430, 3558, 3664, 3792,
    3872, 4160, 4240, 6112, 6160, 6470, 6608, 6784, 6800, 6992, 7088, 7232, 7248, 42528, 43216,
    43264, 43472, 43504, 43600, 44016, 65296, 66720, 68912, 69734, 69872, 69942, 70096, 70384,
    70736, 70864, 71248, 71360, 71472, 71904, 72016, 72784, 73040, 73120, 73552, 92768, 92864,
    93008, 120782, 120792, 120802, 120812, 120822, 123200, 123632, 124144, 125264, 130032]

/-- A character of a numeral, with blanks and digits of any script made ASCII. -/
def asciiNumeral (char : Char) : Char :=
  if char.toNat < 127 then char
  else if Text.isSpace char then ' '
  else match decimalZeros.find? fun base => base ≤ char.toNat && char.toNat < base + 10 with
    | some base => Char.ofNat (48 + (char.toNat - base))
    | none => '?'

/-- `int(text)`; `none` is `ValueError`. -/
def pyInt (text : String) : Option Int :=
  let blank := fun char : Char => char == ' ' || (9 ≤ char.toNat && char.toNat ≤ 13)
  let chars := (text.toList.map asciiNumeral).dropWhile blank
  let chars := (chars.reverse.dropWhile blank).reverse
  let signed := chars.head? == some '-' || chars.head? == some '+'
  let groups := Url.splitOn '_' (if signed then chars.tail else chars)
  let digits := groups.flatten
  if groups.all (fun group => !group.isEmpty && group.all isDigit) &&
      digits.length ≤ intMaxStrDigits then
    some (if chars.head? == some '-' then -(digitsValue digits : Int) else digitsValue digits)
  else none

/-! ### Error channels -/

/-- `_error_page`. -/
def errorPage (status : Nat) (error description : String) : Response :=
  json status [("error", .str error), ("error_description", .str description)]

/-- `_oauth_error_page`; anything but an `OAuthError` escapes. -/
def oauthErrorPage : Raised → Response
  | .oauth error description => errorPage 400 error (description.getD "")
  | _ => internalServerError

/-- How the answer reaches the client. -/
structure Channel where
  mode : ResponseMode
  redirectUri : String
  state : Option String

/-- `_deliver_error`. -/
def Channel.deliverError (env : Env) (channel : Channel) (error : String)
    (description : Option String) : Response :=
  match errorResponse channel.mode channel.redirectUri error description channel.state
      env.config.issuer with
  | .ok response => response
  | .error raised => oauthErrorPage raised

/-- An exception of a check after the redirect URI is trusted. -/
def Channel.answer (env : Env) (channel : Channel) : Raised → Response
  | .oauth error description => channel.deliverError env error description
  | _ => internalServerError

/-! ### Resolving the request -/

/-- `_PAR_MERGE_KEYS`. -/
def parMergeKeys : List String :=
  ["redirect_uri", "scope", "code_challenge", "code_challenge_method", "nonce", "resource",
    "state", "authorization_details", "claims", "acr_values", "dpop_jkt"]

/-- `dict.update(other)`. -/
def update (form other : Form) : Form :=
  other.foldl (fun merged pair => Dict.set pair.1 pair.2 merged) form

/-- The pushed values that replace those of the query. -/
def pushedValues (pushed : Form) : Form :=
  parMergeKeys.filterMap fun key => (pushed.get key).map fun value => (key, value)

/-- Step 1: the pushed request is taken out of the store, whatever follows. -/
def resolvePushed (params : Form) : FrontHandler Form :=
  match params.get "request_uri" with
  | none => pure params
  | some requestUri => do
      match ← perform (.takePar requestUri) with
      | none => throw (errorPage 400 "invalid_request" "Unknown or expired request_uri")
      | some entry =>
          Program.rejectIf (some entry.clientId != params.get "client_id")
            (errorPage 401 "invalid_client" "request_uri client_id mismatch")
          pure (update params (pushedValues entry.params))

def unknownClient : Response := errorPage 401 "invalid_client" "unknown or disabled client_id"

/-- Step 2: both lookups are made before either is judged. -/
def knownClient (clientId : Option String) : FrontHandler Client := do
  let found ← match clientId.filter (· != "") with
    | none => pure none
    | some id => onServer (query (.getClient id))
  let denylisted ← match clientId.filter (· != "") with
    | none => pure none
    | some id => onServer (checkSubjectDenylisted "client_id" id)
  Program.rejectIf clientId.isNone (errorPage 400 "invalid_request" "client_id is required")
  match found with
  | none => throw unknownClient
  | some client => do
      Program.rejectIf (!client.enabled || denylisted.isSome) unknownClient
      pure client

def hybridResponseType : String := "code id_token"

def supportedResponseTypes : List String := ["code", hybridResponseType]

def supported (responseType : Option String) : Bool :=
  responseType.any supportedResponseTypes.contains

/-- A request after its three sources are merged. -/
structure Resolved where
  client : Client
  params : Form
  merged : Form
  jarResponseMode : Option String

/-- `request_jwt is not None`. -/
def Resolved.hasRequestObject (resolved : Resolved) : Bool := (resolved.params.get "request").isSome

def Resolved.responseType (resolved : Resolved) : Option String :=
  if resolved.hasRequestObject then resolved.merged.get "response_type"
  else resolved.params.get "response_type"

def Resolved.hybrid (resolved : Resolved) : Bool :=
  resolved.responseType == some hybridResponseType

/-- Step 2c: the claims of a request object replace what query and push say. -/
def overlayJar (env : Env) (client : Client) (params merged : Form) : FrontHandler Resolved :=
  match params.get "request" with
  | none => pure
      { client := client, params := params, merged := merged, jarResponseMode := none }
  | some requestJwt => do
      let claims ← onServer ((processJar env client requestJwt
        (Text.rstripSlash env.config.issuer ++ "/oauth/authorize")).mapError oauthErrorPage)
      let merged := update merged claims
      Program.rejectIf (!supported (merged.get "response_type"))
        (errorPage 400 "invalid_request"
          "Unsupported response_type in JAR; supported values: code, code id_token")
      pure
        { client := client
          params := params
          merged := merged
          jarResponseMode := claims.get "response_mode" }

/-- Steps 0 to 2c. -/
def resolve (env : Env) (params : Form) : FrontHandler Resolved := do
  Program.rejectIf (!decide (params.map Prod.fst).Nodup)
    (errorPage 400 "invalid_request" "duplicate query parameter")
  let merged ← resolvePushed params
  let client ← knownClient (params.get "client_id")
  Program.rejectIf (client.requireState && (params.get "state").isNone)
    (errorPage 400 "invalid_request" "state parameter is required for this client (RFC 9700 §4.7)")
  overlayJar env client params merged

/-! ### Checking the request -/

/-- `for registered in client.redirect_uri_list()`; `none` is an escaping exception. -/
def redirectUriList (env : Env) (client : Client) : Option (List Json) :=
  if client.redirectUris == "" then some []
  else match loads env.platform.recursionLimit client.redirectUris with
    | .ok (.arr uris) => some uris
    | .ok (.obj members) => some (members.map fun member => .str member.1)
    | .ok (.str text) => some (text.toList.map fun char => .str char.toString)
    | _ => none

/-- `redirect_uri_matches` against a value of the list, which may not be a
string: `urlparse` takes an empty value for an empty URL and fails on any other. -/
def matchesRegistered (env : Env) (requested : String) : Json → Option Bool
  | .str registered => ClientUris.redirectUriMatches env.platform.lower registered requested
  | other => if other.truthy then none else (Url.urlsplit requested).map fun _ => false

/-- `any(redirect_uri_matches(registered, redirect_uri) for registered in ...)`. -/
def anyMatches (env : Env) (requested : String) : List Json → Option Bool
  | [] => some false
  | registered :: rest =>
      match matchesRegistered env requested registered with
      | none => none
      | some true => some true
      | some false => anyMatches env requested rest

def rejectWhen (condition : Bool) (response : Response) : Except Response Unit :=
  if condition then .error response else .ok ()

def unregisteredRedirect : Response :=
  errorPage 400 "invalid_request" "redirect_uri is not registered for this client"

/-- Step 3. -/
def trustedRedirect (env : Env) (resolved : Resolved) : Except Response String :=
  match (resolved.merged.get "redirect_uri").filter (· != "") with
  | none => .error unregisteredRedirect
  | some redirectUri =>
      match (redirectUriList env resolved.client).bind (anyMatches env redirectUri) with
      | none => .error internalServerError
      | some false => .error unregisteredRedirect
      | some true => .ok redirectUri

/-- Steps 3 and 3b. -/
def trustedChannel (env : Env) (resolved : Resolved) : Except Response Channel := do
  let redirectUri ← trustedRedirect env resolved
  let requested := if Text.truthy resolved.jarResponseMode then resolved.jarResponseMode
    else resolved.params.get "response_mode"
  let mode ← (resolveResponseMode requested resolved.hybrid).mapError oauthErrorPage
  pure { mode := mode, redirectUri := redirectUri, state := resolved.merged.get "state" }

/-- A request the endpoint may answer with a code. -/
structure CheckedRequest where
  client : Client
  channel : Channel
  hybrid : Bool
  scope : String
  codeChallenge : String
  codeChallengeMethod : Option String
  nonce : Option String
  authorizationDetails : Option String
  resource : Option String
  claimsRequest : Option String
  dpopJkt : Option String
  acrValues : Option String

def minCodeChallengeLen : Nat := 43

def maxCodeChallengeLen : Nat := 128

/-- `_DPOP_JKT_RE.fullmatch(text)`. -/
def isDpopJkt (text : String) : Bool :=
  text.toList.length == 43 && text.toList.all fun char =>
    Url.isAsciiLetter char || Url.isAsciiDigit char || char == '_' || char == '-'

/-- `claims` must be a JSON object within the limits. -/
def checkClaimsRequest (env : Env) (channel : Channel) (claimsRequest : Option String) :
    Except Response Unit :=
  let notObject := channel.deliverError env "invalid_request" (some "claims must be a JSON object")
  match claimsRequest with
  | none => .ok ()
  | some raw =>
      match checkJsonParam env raw "claims" 8192 10 with
      | .error (.limit description) =>
          .error (channel.deliverError env "invalid_request" (some description))
      | .error .decode => .error notObject
      | .error .unhandled => .error internalServerError
      | .ok document => rejectWhen (!document.isObj) notObject

def checkAuthorizationDetails (env : Env) (channel : Channel) (details : Option String) :
    Except Response Unit :=
  match details with
  | none => .ok ()
  | some raw =>
      ((validateAuthorizationDetails env raw).mapError (channel.answer env)).map fun _ => ()

/-- The scope asked for, `read` when none is. -/
def requestedScope (merged : Form) : String := ((merged.get "scope").filter (· != "")).getD "read"

/-- The checks of the client, the response type, the nonce and the scope. -/
def checkGrant (env : Env) (resolved : Resolved) (channel : Channel) : Except Response Unit := do
  let refusal (error description : String) := channel.deliverError env error (some description)
  let some allowed := grantAllowed env resolved.client "authorization_code"
    | throw internalServerError
  rejectWhen (!allowed)
    (refusal "unauthorized_client" "client is not authorized for this grant type")
  rejectWhen (!resolved.hasRequestObject && !supported resolved.responseType)
    (refusal "unsupported_response_type"
      "only the 'code' and 'code id_token' response_types are supported")
  rejectWhen (resolved.hybrid && !Text.truthy (resolved.merged.get "nonce"))
    (refusal "invalid_request" "nonce is required for response_type=code id_token")
  rejectWhen (!scopeIsSubset (requestedScope resolved.merged) resolved.client.scope)
    (refusal "invalid_scope" "requested scope exceeds the client's allowed scope")

/-- The PKCE challenge, which every request needs. -/
def checkChallenge (env : Env) (merged : Form) (channel : Channel) : Except Response String := do
  let refusal (description : String) :=
    channel.deliverError env "invalid_request" (some description)
  let some challenge := (merged.get "code_challenge").filter (· != "")
    | throw (refusal "a PKCE code_challenge is required (RFC 9700 §2.1.1)")
  rejectWhen (merged.get "code_challenge_method" != some "S256")
    (refusal "only the S256 code_challenge_method is supported")
  rejectWhen (!(decide (minCodeChallengeLen ≤ challenge.toList.length) &&
      decide (challenge.toList.length ≤ maxCodeChallengeLen)))
    (refusal "code_challenge must be between 43 and 128 characters")
  pure challenge

/-- Steps 3 to 4. -/
def checkRequest (env : Env) (resolved : Resolved) : Except Response CheckedRequest := do
  let merged := resolved.merged
  let channel ← trustedChannel env resolved
  checkGrant env resolved channel
  let challenge ← checkChallenge env merged channel
  checkAuthorizationDetails env channel (merged.get "authorization_details")
  let resource ← (validateResource (merged.get "resource")).mapError (channel.answer env)
  checkClaimsRequest env channel (merged.get "claims")
  rejectWhen ((merged.get "dpop_jkt").any fun jkt => !isDpopJkt jkt)
    (channel.deliverError env "invalid_request"
      (some "dpop_jkt must be a base64url-encoded SHA-256 JWK thumbprint"))
  pure
    { client := resolved.client
      channel := channel
      hybrid := resolved.hybrid
      scope := requestedScope merged
      codeChallenge := challenge
      codeChallengeMethod := merged.get "code_challenge_method"
      nonce := merged.get "nonce"
      authorizationDetails := merged.get "authorization_details"
      resource := resource
      claimsRequest := merged.get "claims"
      dpopJkt := merged.get "dpop_jkt"
      acrValues := merged.get "acr_values" }

/-! ### The login gate -/

/-- One parameter of `_strip_reauth_params`. -/
def stripPair (pair : String × String) : Option (String × String) :=
  if pair.1 == "max_age" then none
  else if pair.1 == "prompt" then
    let remaining := " ".intercalate ((Text.split pair.2).filter (· != "login"))
    if remaining != "" then some (pair.1, remaining) else none
  else some pair

/-- `_strip_reauth_params(query)`. -/
def stripReauthParams (query : String) : String :=
  QueryText.urlencode ((QueryText.parseQsl query).filterMap stripPair)

def authorizePath : String := "/oauth/authorize"

/-- The target a login leads back to. -/
def returnTarget (query : String) : String :=
  if query == "" then authorizePath else authorizePath ++ "?" ++ stripReauthParams query

def loginRedirect : Response := redirect 302 "/auth/login"

def promptValues (params : Form) : List String := Text.split ((params.get "prompt").getD "")

def forceLogin (params : Form) : Bool :=
  (promptValues params).contains "login" || (promptValues params).contains "select_account"

/-- `auth_expired`: a value that is no integer asks for nothing. -/
def authExpired (maxAge : Option String) (authTime : Option Int) : FrontHandler Bool :=
  match maxAge.bind pyInt, authTime with
  | none, _ => pure false
  | some _, none => pure true
  | some maxAgeSecs, some stamped => do
      let now ← onServer (ambient .time)
      pure (decide ((maxAgeSecs : ℚ) ≤ now - stamped))

/-- Step 5: the user of the session, or the way to the login. -/
def loginGate (env : Env) (query : String) (params : Form) (channel : Channel) :
    FrontHandler String := do
  let asked := promptValues params
  Program.rejectIf (asked.contains "none" && decide (1 < asked.length))
    (channel.deliverError env "invalid_request"
      (some "prompt=none cannot be combined with other values"))
  let session ← perform .session
  let expired ← authExpired (params.get "max_age") session.authTime
  match session.userId.filter fun _ => !(forceLogin params || expired) with
  | some userId => pure userId
  | none => do
      Program.rejectIf (asked.contains "none")
        (channel.deliverError env "login_required"
          (some "User is not authenticated and prompt=none was requested"))
      perform (.setReturnTo (returnTarget query))
      throw loginRedirect

/-! ### The answer -/

/-- `mint_id_token`, as the hybrid flow calls it: bound to the code, with what
the session attests to. -/
def mintHybridIdToken (env : Env) (request : CheckedRequest) (session : Session) (userId : String)
    (user : Option User) (code : String) : Service (Except String String) := do
  let scopes := Text.split request.scope
  let now ← ambient .now
  let iat := Issuance.timestamp now
  Issuance.encodeIdToken env
    { iss := env.config.issuer
      sub := userId
      aud := request.client.clientId
      exp := iat + env.config.accessTokenTtlSecs
      iat := iat
      nonce := request.nonce
      cHash := some (env.platform.halfHash code)
      email := if scopes.contains "email" then user.map (·.email) else none
      preferredUsername := if scopes.contains "profile" then user.map (·.username) else none
      acr := session.acr
      amr := session.amr
      authTime := session.authTime }

/-- The id_token of the front channel, when the flow is hybrid and the scope asks for it. -/
def hybridIdToken (env : Env) (request : CheckedRequest) (session : Session) (userId code : String) :
    FrontHandler (Option String) :=
  if request.hybrid && (Text.split request.scope).contains "openid" then do
    let user ← onServer (query (.getUserById userId))
    match ← onServer (TokenEndpoint.call
        (mintHybridIdToken env request session userId user code)) with
    | .ok token => pure (some token)
    | .error message => throw (errorPage 500 "server_error" message)
  else pure none

/-- Steps 5b and 6. -/
def finish (env : Env) (request : CheckedRequest) (userId : String) : FrontHandler Response := do
  let session ← perform .session
  let channel := request.channel
  Program.rejectIf
    (request.acrValues.any fun wanted => !session.acr.any (Text.split wanted).contains)
    (channel.deliverError env "insufficient_user_authentication"
      (some "Authentication Context Class does not satisfy acr_values"))
  let row ← onServer (TokenEndpoint.call (issueCode env
    { client := request.client
      userId := userId
      redirectUri := channel.redirectUri
      scope := request.scope
      codeChallenge := some request.codeChallenge
      codeChallengeMethod := request.codeChallengeMethod
      nonce := request.nonce
      authorizationDetails := request.authorizationDetails
      resource := request.resource
      claimsRequest := request.claimsRequest
      dpopJkt := request.dpopJkt }))
  let idToken ← hybridIdToken env request session userId row.code
  Program.ofExcept ((successResponse channel.mode channel.redirectUri row.code channel.state
    env.config.issuer idToken).mapError oauthErrorPage)

def authorize (env : Env) (query : String) : FrontHandler Response := do
  let resolved ← resolve env (QueryText.parseQsl query)
  let request ← Program.ofExcept (checkRequest env resolved)
  let userId ← loginGate env query resolved.params request.channel
  finish env request userId

/-! ### `POST /oauth/par` -/

structure ParRequest where
  body : List Nat
  credentials : Credentials

def parError (description : String) : Response :=
  noStore (errorPage 400 "invalid_request" description)

/-- `_STRIPPED_KEYS`. -/
def strippedKeys : List String := ["client_secret", "client_assertion", "client_assertion_type"]

def par (env : Env) (request : ParRequest) : FrontHandler Response :=
  match Text.utf8Decode request.body with
  | none => throw (parError "Invalid PAR request body encoding")
  | some body => do
      let params := QueryText.parseQsl (String.ofList body)
      Program.rejectIf (!decide (params.map Prod.fst).Nodup)
        (parError "Duplicate parameter in PAR request")
      match (Form.get params "client_id").filter (· != "") with
      | none => throw (parError "Missing client_id in PAR request")
      | some clientId =>
          Program.rejectIf (!Text.truthy (Form.get params "response_type"))
            (parError "Missing response_type in PAR request")
          let _ ← onServer (TokenEndpoint.call (authenticate env params request.credentials))
          let requestUri ← perform (.storePar clientId
            (params.filter fun pair => !strippedKeys.contains pair.1))
          pure (noStore (json 201 [("request_uri", .str requestUri), ("expires_in", .int 60)]))

end OAuth2Server.Authorize
