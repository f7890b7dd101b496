import OAuth2Server.KeySet
import OAuth2Server.Html
import OAuth2Server.QueryText

/-!
# Logout

`routes/logout.py`: the verification of an `id_token_hint`, and the texts a
logout answers with. A URL that comes from a client or a request is embedded
three times: in a query string, in an attribute and in a script.
-/

namespace OAuth2Server.Logout

open OAuth2Server Models JsonText Effects Interaction ClientAuth Issuance KeySet

set_option autoImplicit false

/-! ### `id_token_hint` -/

inductive HintError where
  | invalidHint
  | other
  deriving DecidableEq, Repr

/-- The materials of the key set: that of the named key, else of every active RS256 key. -/
def keysetMaterials (header : List (String × Json)) (keys : List SigningKey) :
    Program Server HintError (List (List Nat)) := do
  let found ← namedKey header keys
  match found.filter (·.algorithm == "RS256") with
  | some key => pure [key.keyMaterial]
  | none => do
      let active ← activeKeysForAlg "RS256" keys
      pure (active.map (·.keyMaterial))

/-- `_rs256_hint_verify_materials`. -/
def rs256HintVerifyMaterials (env : Env) (header : List (String × Json)) (keys : List SigningKey) :
    Program Server HintError (List (List Nat)) := do
  let materials ← keysetMaterials header keys
  match materials, env.config.idTokenPrivateKeyPem.filter (· != "") with
  | [], some pem => pure [Text.utf8Encode pem.toList]
  | materials, _ => pure materials

/-- `jwt.decode` under one key, its own exceptions kept. -/
def decodeHintWith (env : Env) (hint : String) (key : VerifyKey) (alg : String) :
    Program Server HintError (Option (List (String × Json))) := do
  let now ← ambient .now
  match decodeWith env hint env.config.issuer key alg now with
  | .ok payload => pure (some payload)
  | .error (.pyjwt _) => pure none
  | .error (.other _) => throw .other

/-- One material after the other; one that is no private key is passed over. -/
def tryMaterials (env : Env) (hint : String) :
    List (List Nat) → Program Server HintError (List (String × Json))
  | [] => throw .invalidHint
  | material :: rest =>
      match env.platform.jwt.rsaPublicKey material with
      | .error _ => tryMaterials env hint rest
      | .ok document => do
          match ← decodeHintWith env hint (.jwk "RSA" document) "RS256" with
          | some payload => pure payload
          | none => tryMaterials env hint rest

/-- `_decode_hint`. -/
def decodeHint (env : Env) (hint : String) : Program Server HintError (List (String × Json)) := do
  let .ok header := env.platform.jwt.unverifiedHeader hint | throw .invalidHint
  let alg := textMember header "alg"
  if alg == some "HS256" then
    match ← decodeHintWith env hint (.secret (Text.utf8Encode env.config.jwtSecret.toList))
        "HS256" with
    | some payload => pure payload
    | none => throw .invalidHint
  else if alg != some "RS256" then throw .invalidHint
  else do
    let keys ← ambient .keys
    let materials ← rs256HintVerifyMaterials env header keys
    tryMaterials env hint materials

/-! ### Texts -/

/-- `quote(text, safe="")`. -/
def quoteAll (text : String) : String := QueryText.quote (fun _ => false) text

/-- `_append_state(uri, state)`. -/
def appendState (uri : String) (state : Option String) : String :=
  match state with
  | none => uri
  | some state =>
      let separator := if uri.toList.contains '?' then "&" else "?"
      uri ++ separator ++ "state=" ++ quoteAll state

/-- The URL as a script holds it. -/
def scriptLiteral (url : String) : String :=
  String.join ((quoteText url).toList.map fun char =>
    if char == '<' then "\\u003c" else if char == '/' then "\\/" else char.toString)

/-- `_redirect_script(url)`. -/
def redirectScript (url : String) : String :=
  "<script>setTimeout(function()\x7b window.location.href = " ++ scriptLiteral url ++
    "; \x7d, 2000);</script>"

/-- The `src` of a client's iframe. -/
def frontchannelSrc (client : Client) (issuer : String) (sid : Option String) : String :=
  client.frontchannelLogoutUri ++ "?iss=" ++ quoteAll issuer ++
    (match sid.filter (fun sid => client.frontchannelLogoutSessionRequired && sid != "") with
    | some sid => "&sid=" ++ quoteAll sid
    | none => "")

def iframe (src : String) : String :=
  "<iframe src=\"" ++ String.ofList (Html.escape src.toList) ++ "\" style=\"display:none\" " ++
    "sandbox=\"allow-scripts allow-same-origin\"></iframe>"

def pageScript (redirectUrl : Option String) : String :=
  match redirectUrl.filter (· != "") with
  | some url => redirectScript url
  | none => ""

/-- `_render_frontchannel_page(clients, issuer, sid, redirect_url)`. -/
def renderFrontchannelPage (clients : List Client) (issuer : String)
    (sid redirectUrl : Option String) : String :=
  "<!doctype html><html><body><p>Logging out...</p>" ++
    String.join (clients.map fun client => iframe (frontchannelSrc client issuer sid)) ++
    pageScript redirectUrl ++
    "</body></html>"

end OAuth2Server.Logout
