import OAuth2Server.FrontChannel
import OAuth2Server.ClientUris

/-!
# Authorization responses

`services/authorize_response.py`: how the answer of the authorization endpoint
reaches the client, once its redirect URI is trusted. The mode says where the
parameters go: the query, the fragment, or a form that submits itself.
-/

namespace OAuth2Server.AuthorizeResponse

open OAuth2Server JsonText Effects FrontChannel Url

set_option autoImplicit false

/-- `VALID_RESPONSE_MODES`, one constructor a mode. -/
inductive ResponseMode where
  | query
  | formPost
  | fragment
  deriving DecidableEq, Repr

def ResponseMode.name : ResponseMode → String
  | .query => "query"
  | .formPost => "form_post"
  | .fragment => "fragment"

def ResponseMode.parse (text : String) : Option ResponseMode :=
  [ResponseMode.query, .formPost, .fragment].find? fun mode => mode.name == text

def invalidRequest (description : String) : Raised := .oauth "invalid_request" (some description)

/-- `resolve_response_mode(requested, hybrid=hybrid)`. -/
def resolveResponseMode (requested : Option String) (hybrid : Bool) :
    Except Raised ResponseMode :=
  match requested with
  | none => .ok (if hybrid then .fragment else .query)
  | some text =>
      match ResponseMode.parse text with
      | none => .error (invalidRequest
          "Unsupported response_mode; supported values: query, form_post, fragment")
      | some mode =>
          if hybrid && mode == .query then
            .error (invalidRequest
              "response_mode=query is not allowed for response_type=code id_token")
          else .ok mode

/-- `_AUTH_RESPONSE_HEADERS`. -/
def authResponseHeaders : List (String × String) :=
  [("Cache-Control", "no-store"), ("Pragma", "no-cache"), ("Referrer-Policy", "no-referrer"),
    ("X-Frame-Options", "DENY"), ("Content-Security-Policy", "frame-ancestors 'none'"),
    ("X-Content-Type-Options", "nosniff")]

/-! ### `urlunsplit` -/

/-- `uses_netloc`. -/
def usesNetloc : List String :=
  ["", "ftp", "http", "gopher", "nntp", "telnet", "imap", "wais", "file", "mms", "https", "shttp",
    "snews", "prospero", "rtsp", "rtsps", "rtspu", "rsync", "svn", "svn+ssh", "sftp", "nfs", "git",
    "git+ssh", "ws", "wss", "itms-services"]

/-- `urlunsplit((scheme, netloc, path, query, ""))`. -/
def urlunsplit (scheme netloc path query : String) : String :=
  let rooted := path.toList.head? == some '/'
  let url :=
    if netloc != "" then "//" ++ netloc ++ (if path == "" || rooted then path else "/" ++ path)
    else if Text.startsWith path "//" then "//" ++ path
    else if scheme != "" && usesNetloc.contains scheme && (path == "" || rooted) then "//" ++ path
    else path
  let url := if scheme != "" then scheme ++ ":" ++ url else url
  if query != "" then url ++ "?" ++ query else url

/-- `_query_location`: the parameters follow the query the URI has. -/
def queryLocation (parts : SplitResult) (params : List (String × String)) : String :=
  urlunsplit parts.scheme parts.netloc parts.path
    (QueryText.urlencode (QueryText.parseQsl parts.query ++ params))

/-- `urlencode(params, quote_via=quote)`. -/
def urlencodeQuote (params : List (String × String)) : String :=
  "&".intercalate (params.map fun pair =>
    QueryText.quote (fun _ => false) pair.1 ++ "=" ++ QueryText.quote (fun _ => false) pair.2)

/-! ### The form -/

/-- `_html_escape_attr`; the source escapes `&` first, so every character is escaped once. -/
def htmlEscapeAttr (value : String) : String :=
  String.join (value.toList.map fun char =>
    if char == '&' then "&amp;"
    else if char == '"' then "&quot;"
    else if char == '<' then "&lt;"
    else if char == '>' then "&gt;"
    else if char == '\'' then "&#x27;"
    else char.toString)

def formPostBody (redirectUri : String) (params : List (String × String)) : String :=
  let inputs := "\n".intercalate (params.map fun pair =>
    "<input type=\"hidden\" name=\"" ++ htmlEscapeAttr pair.1 ++ "\" value=\"" ++
      htmlEscapeAttr pair.2 ++ "\"/>")
  "<!DOCTYPE html>\n" ++
    "<html><body onload=\"document.forms[0].submit()\">\n" ++
    "<form method=\"post\" action=\"" ++ htmlEscapeAttr redirectUri ++ "\">\n" ++
    inputs ++ "\n" ++
    "</form></body></html>"

/-! ### Delivery -/

/-- `_deliver`; a `ValueError` of `urlsplit` escapes. -/
def deliver (mode : ResponseMode) (redirectUri : String) (params : List (String × String)) :
    Except Raised Response :=
  match urlsplit redirectUri with
  | none => .error .other
  | some parts =>
      if parts.fragment != "" then
        .error (invalidRequest "redirect_uri must not contain a fragment")
      else match mode with
        | .formPost => .ok
            { status := 200
              headers := authResponseHeaders
              body := .str (formPostBody redirectUri params) }
        | .fragment => .ok (redirect 302 (redirectUri ++ "#" ++ urlencodeQuote params)
            authResponseHeaders)
        | .query => .ok (redirect 302 (queryLocation parts params) authResponseHeaders)

/-- `_present`. -/
def present (pairs : List (String × Option String)) : List (String × String) :=
  pairs.filterMap fun pair => pair.2.map fun value => (pair.1, value)

/-- `success_response`. -/
def successResponse (mode : ResponseMode) (redirectUri code : String) (state : Option String)
    (iss : String) (idToken : Option String) : Except Raised Response :=
  deliver mode redirectUri (present (match mode with
    | .query => [("code", some code), ("state", state), ("iss", some iss), ("id_token", idToken)]
    | _ => [("code", some code), ("iss", some iss), ("state", state), ("id_token", idToken)]))

/-- `error_response`. -/
def errorResponse (mode : ResponseMode) (redirectUri error : String) (description : Option String)
    (state : Option String) (iss : String) : Except Raised Response :=
  let head := [("error", some error), ("error_description", description)]
  deliver mode redirectUri (present (match mode with
    | .query => head ++ [("state", state), ("iss", some iss)]
    | _ => head ++ [("iss", some iss), ("state", state)]))

end OAuth2Server.AuthorizeResponse
