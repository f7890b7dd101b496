import OAuth2Server.Administration
import OAuth2Server.ClientUris

/-!
# Client intake

The two ways a client enters the store, `POST /connect/register` and
`POST /admin/api/clients`, and its partial update, from the JSON body on. Each
path has its own validator. A body is `none` when it is no JSON; the models of
pydantic are read field by field in their declared order, and the first error
is the one reported.
-/

namespace OAuth2Server.ClientIntake

open OAuth2Server Models JsonText Storage Effects Interaction
open ClientUris Endpoints TokenEndpoint Administration

set_option autoImplicit false

/-! ### Reading a pydantic model -/

structure FieldError where
  loc : List String
  msg : String
  deriving DecidableEq, Repr

@[reducible] def Reader (α : Type) := Json → Except FieldError α

/-- `str` and `StrictStr`: JSON has no other value that either accepts. -/
def readStr : Reader String
  | .str text => .ok text
  | _ => .error ⟨[], "Input should be a valid string"⟩

def readItems : Nat → List Json → Except FieldError (List String)
  | _, [] => .ok []
  | index, item :: rest => do
      let text ← (readStr item).mapError fun error => ⟨toString index :: error.loc, error.msg⟩
      let texts ← readItems (index + 1) rest
      pure (text :: texts)

/-- `list[str]`. -/
def readStrs : Reader (List String)
  | .arr items => readItems 0 items
  | _ => .error ⟨[], "Input should be a valid list"⟩

def readDict : Reader (List (String × Json))
  | .obj members => .ok members
  | _ => .error ⟨[], "Input should be a valid dictionary"⟩

def readStrictBool : Reader Bool
  | .bool value => .ok value
  | _ => .error ⟨[], "Input should be a valid boolean"⟩

/-- `bool` outside strict mode: also 0 and 1 and the words for them. -/
def readBool : Reader Bool
  | .bool value => .ok value
  | .int 0 => .ok false
  | .int 1 => .ok true
  | .float value =>
      if value = 0 then .ok false else if value = 1 then .ok true
      else .error ⟨[], "Input should be a valid boolean"⟩
  | .str text =>
      if ["0", "off", "f", "false", "n", "no"].contains (Text.lower text) then .ok false
      else if ["1", "on", "t", "true", "y", "yes"].contains (Text.lower text) then .ok true
      else .error ⟨[], "Input should be a valid boolean, unable to interpret input"⟩
  | _ => .error ⟨[], "Input should be a valid boolean"⟩

/-- `T | None`. -/
def readOptional {α : Type} (read : Reader α) : Reader (Option α)
  | .null => .ok none
  | value => (read value).map some

def readField {α : Type} (members : List (String × Json)) (name : String) (default : α)
    (read : Reader α) : Except FieldError α :=
  match members.lookup name with
  | none => .ok default
  | some value => (read value).mapError fun error => ⟨name :: error.loc, error.msg⟩

/-! ### Shared rules -/

/-- `VALID_AUTH_METHODS`, sorted. -/
def validAuthMethods : List String :=
  ["client_secret_basic", "client_secret_jwt", "client_secret_post", "none", "private_key_jwt",
    "self_signed_tls_client_auth", "tls_client_auth"]

def authMethodError : String :=
  "token_endpoint_auth_method must be one of [" ++
    ", ".intercalate (validAuthMethods.map fun method => "'" ++ method ++ "'") ++ "]"

def jwksUriError : String := "jwks_uri must be an absolute https URL"

def privateKeyRequiresJwksError : String := "private_key_jwt requires jwks or jwks_uri"

def selfSignedRequiresJwksError : String :=
  "self_signed_tls_client_auth requires jwks or jwks_uri"

def exclusiveKeysError : String := "jwks and jwks_uri are mutually exclusive"

def blankSubjectDnError : String := "tls_client_certificate_subject_dn must not be blank"

/-- A guard of a validator. -/
def refuseIf (condition : Bool) (refusal : Response) : Except Response Unit :=
  if condition then .error refusal else .ok ()

/-- A URI rule: an exception of the parser is a 500. -/
def require (outcome : Option Bool) (refusal : Response) : Except Response Unit :=
  match outcome with
  | none => .error internalServerError
  | some holds => refuseIf (!holds) refusal

/-- `uri and not is_valid(uri)` is the refusal. -/
def requireIfGiven (uri : String) (outcome : Option Bool) (refusal : Response) :
    Except Response Unit :=
  if uri == "" then .ok () else require outcome refusal

/-- `json.dumps(value)`. -/
def dumped (env : Env) (value : Json) : String :=
  dumps { floatRepr := env.platform.floatRepr } value

/-- `json.dumps(jwks) if jwks else ""`. -/
def dumpedJwks (env : Env) (members : List (String × Json)) : String :=
  if members.isEmpty then "" else dumped env (.obj members)

def dumpedStrs (env : Env) (texts : List String) : String := dumped env (.arr (texts.map .str))

/-! ### Dynamic registration -/

structure ClientRegistration where
  redirectUris : List String
  clientName : String
  grantTypes : List String
  responseTypes : List String
  scope : String
  tokenEndpointAuthMethod : String
  contacts : List String
  jwks : Option (List (String × Json))
  jwksUri : Option String
  tlsClientCertificateSubjectDn : Option String
  backchannelLogoutUri : Option String
  backchannelLogoutSessionRequired : Bool
  frontchannelLogoutUri : Option String
  frontchannelLogoutSessionRequired : Bool
  postLogoutRedirectUris : List String

/-- `ClientRegistration.model_validate(body)`. -/
def modelValidate (body : Json) : Except FieldError ClientRegistration := do
  match body with
  | .obj members =>
      let redirectUris ← match members.lookup "redirect_uris" with
        | none => .error ⟨["redirect_uris"], "Field required"⟩
        | some value => (readStrs value).mapError fun error =>
            ⟨"redirect_uris" :: error.loc, error.msg⟩
      let clientName ← readField members "client_name" "" readStr
      let grantTypes ← readField members "grant_types" ["authorization_code"] readStrs
      let responseTypes ← readField members "response_types" ["code"] readStrs
      let scope ← readField members "scope" "" readStr
      let tokenEndpointAuthMethod ←
        readField members "token_endpoint_auth_method" "client_secret_basic" readStr
      let contacts ← readField members "contacts" [] readStrs
      -- Read for their type only: the row does not keep them.
      let _ ← readField members "logo_uri" none (readOptional readStr)
      let _ ← readField members "client_uri" none (readOptional readStr)
      let _ ← readField members "policy_uri" none (readOptional readStr)
      let _ ← readField members "tos_uri" none (readOptional readStr)
      let jwks ← readField members "jwks" none (readOptional readDict)
      let jwksUri ← readField members "jwks_uri" none (readOptional readStr)
      let tlsClientCertificateSubjectDn ←
        readField members "tls_client_certificate_subject_dn" none (readOptional readStr)
      let backchannelLogoutUri ←
        readField members "backchannel_logout_uri" none (readOptional readStr)
      let backchannelLogoutSessionRequired ←
        readField members "backchannel_logout_session_required" false readBool
      let frontchannelLogoutUri ←
        readField members "frontchannel_logout_uri" none (readOptional readStr)
      let frontchannelLogoutSessionRequired ←
        readField members "frontchannel_logout_session_required" false readBool
      let postLogoutRedirectUris ← readField members "post_logout_redirect_uris" [] readStrs
      pure
        { redirectUris, clientName, grantTypes, responseTypes, scope, tokenEndpointAuthMethod,
          contacts, jwks, jwksUri, tlsClientCertificateSubjectDn, backchannelLogoutUri,
          backchannelLogoutSessionRequired, frontchannelLogoutUri,
          frontchannelLogoutSessionRequired, postLogoutRedirectUris }
  | _ => .error ⟨[], "Input should be a valid dictionary or instance of ClientRegistration"⟩

/-- `_registration_error(description)`. -/
def registrationError (description : String) : Response :=
  noStore (json 400
    [("error", .str "invalid_client_metadata"), ("error_description", .str description)])

/-- The checks of `register_client`, in its order. -/
def checkRegistration (env : Env) (reg : ClientRegistration) : Except Response Unit := do
  refuseIf reg.redirectUris.isEmpty
    (registrationError "redirect_uris must be a non-empty list of absolute URLs")
  require (allValidRedirectUris reg.redirectUris)
    (registrationError "redirect_uris must be a non-empty list of absolute URLs")
  let backchannel := reg.backchannelLogoutUri.getD ""
  requireIfGiven backchannel (isValidRedirectUri backchannel)
    (registrationError "backchannel_logout_uri must be an absolute http(s) URL without fragment")
  let frontchannel := reg.frontchannelLogoutUri.getD ""
  requireIfGiven frontchannel (isValidRedirectUri frontchannel)
    (registrationError "frontchannel_logout_uri must be an absolute http(s) URL without fragment")
  require (allValidRedirectUris reg.postLogoutRedirectUris) (registrationError
    "post_logout_redirect_uris must be a list of absolute http(s) URLs without fragment")
  refuseIf (!validAuthMethods.contains reg.tokenEndpointAuthMethod)
    (registrationError authMethodError)
  let jwksUri := reg.jwksUri.getD ""
  -- The inline key set counts as given as soon as it is not `null`.
  let noKeys := reg.jwks.isNone && jwksUri == ""
  refuseIf (reg.tokenEndpointAuthMethod == "private_key_jwt" && noKeys)
    (registrationError privateKeyRequiresJwksError)
  refuseIf (reg.tokenEndpointAuthMethod == "self_signed_tls_client_auth" && noKeys)
    (registrationError selfSignedRequiresJwksError)
  refuseIf (reg.jwks.isSome && jwksUri != "") (registrationError exclusiveKeysError)
  let subjectDn := reg.tlsClientCertificateSubjectDn.getD ""
  refuseIf (subjectDn != "" && Text.strip subjectDn == "") (registrationError blankSubjectDnError)
  requireIfGiven jwksUri (isValidJwksUri env.platform.lower jwksUri)
    (registrationError jwksUriError)
  refuseIf (reg.tokenEndpointAuthMethod == "none" && reg.grantTypes.contains "client_credentials")
    (registrationError ("public clients (token_endpoint_auth_method=none) cannot use the " ++
      "client_credentials grant"))

/-- The columns of a registration. An empty key set is stored as none at all. -/
def registered (env : Env) (reg : ClientRegistration) : ClientMetadata where
  redirectUris := dumpedStrs env reg.redirectUris
  grantTypes := dumpedStrs env reg.grantTypes
  scope := reg.scope
  name := reg.clientName
  tokenEndpointAuthMethod := reg.tokenEndpointAuthMethod
  responseTypes := dumpedStrs env reg.responseTypes
  contacts := dumpedStrs env reg.contacts
  jwks := dumpedJwks env (reg.jwks.getD [])
  jwksUri := reg.jwksUri.getD ""
  tlsClientCertificateSubjectDn := reg.tlsClientCertificateSubjectDn.getD ""
  backchannelLogoutUri := reg.backchannelLogoutUri.getD ""
  backchannelLogoutSessionRequired := reg.backchannelLogoutSessionRequired
  frontchannelLogoutUri := reg.frontchannelLogoutUri.getD ""
  frontchannelLogoutSessionRequired := reg.frontchannelLogoutSessionRequired
  postLogoutRedirectUris := dumpedStrs env reg.postLogoutRedirectUris

def acceptRegistration (env : Env) (body : Option Json) : Except Response ClientMetadata := do
  match body.map modelValidate with
  | some (.ok reg) =>
      checkRegistration env reg
      pure (registered env reg)
  | _ => .error (registrationError "invalid registration request")

/-- `POST /connect/register`. -/
def register (env : Env) (body : Option Json) : Handler Response :=
  Administration.registerClient env (acceptRegistration env body)

/-! ### The admin validators -/

/-- `_json_body(request)`: anything but an object is empty. -/
def jsonBody : Option Json → List (String × Json)
  | some (.obj members) => members
  | _ => []

/-- One list of `_validate_redirect_uris`; `null` is "not provided". -/
def validateUriList (name : String) (uris : Json) : Except Response Unit :=
  match uris with
  | .null => .ok ()
  | uris =>
      match uris.strings? with
      | none => .error (badRequest (name ++ " must be a list of strings"))
      | some texts => require (allValidRedirectUris texts)
          (badRequest (name ++ " must be absolute http(s) URLs without fragments"))

/-- `_validate_redirect_uris(...)`. -/
def validateRedirectUris (redirectUris : Json) (backchannelLogoutUri frontchannelLogoutUri : String)
    (postLogoutRedirectUris : Json) : Except Response Unit := do
  validateUriList "redirect_uris" redirectUris
  requireIfGiven backchannelLogoutUri (isValidRedirectUri backchannelLogoutUri)
    (badRequest "backchannel_logout_uri must be an absolute http(s) URL without a fragment")
  requireIfGiven frontchannelLogoutUri (isValidRedirectUri frontchannelLogoutUri)
    (badRequest "frontchannel_logout_uri must be an absolute http(s) URL without a fragment")
  validateUriList "post_logout_redirect_uris" postLogoutRedirectUris

/-- `_validate_key_material(auth_method, jwks_json, jwks_uri)`. -/
def validateKeyMaterial (env : Env) (authMethod jwksJson jwksUri : String) :
    Except Response Unit := do
  refuseIf (!validAuthMethods.contains authMethod) (badRequest authMethodError)
  refuseIf (jwksJson != "" && jwksUri != "") (badRequest exclusiveKeysError)
  requireIfGiven jwksUri (isValidJwksUri env.platform.lower jwksUri) (badRequest jwksUriError)
  refuseIf (authMethod == "private_key_jwt" && jwksJson == "" && jwksUri == "")
    (badRequest privateKeyRequiresJwksError)
  refuseIf (authMethod == "self_signed_tls_client_auth" && jwksJson == "" && jwksUri == "")
    (badRequest selfSignedRequiresJwksError)

/-! ### Admin creation -/

/-- `str(value)`. -/
def str (env : Env) : Json → String
  | .str text => text
  | value => env.platform.strOf value

/-- `value or default`. -/
def orDefault (value default : Json) : Json := if value.truthy then value else default

def expectStr (value : Json) (refusal : Response) : Except Response String :=
  match value with
  | .str text => .ok text
  | _ => .error refusal

/-- `POST /admin/api/clients`. -/
def create (env : Env) (body : Option Json) : Handler Response := do
  let members := jsonBody body
  let get := fun key => (members.lookup key).getD .null
  let name := Text.strip (str env (orDefault (get "name") (.str "")))
  Program.rejectIf (name == "") (badRequest "name is required")
  let requested := get "client_id"
  if requested.truthy then
    let existing ← query (.getClient (str env requested))
    Program.rejectIf existing.isSome (json 409
      [("error", .str "already_exists"),
        ("error_description", .str "client_id already registered")])
  let clientId ← if requested.truthy then pure requested else do
    let hex ← ambient .uuid4Hex
    pure (.str ("client-" ++ String.ofList (hex.toList.take 12)))
  let authMethod ← Program.ofExcept (expectStr
    (orDefault (get "token_endpoint_auth_method") (.str "client_secret_basic"))
    (badRequest "token_endpoint_auth_method must be a string"))
  let jwks ← Program.ofExcept (match get "jwks" with
    | .null => .ok []
    | .obj members => .ok members
    | _ => .error (badRequest "jwks must be a JSON object"))
  let jwksUri ← Program.ofExcept (expectStr (orDefault (get "jwks_uri") (.str ""))
    (badRequest "jwks_uri must be a string"))
  let jwksJson := dumpedJwks env jwks
  let subjectDn ← Program.ofExcept (expectStr
    (orDefault (get "tls_client_certificate_subject_dn") (.str ""))
    (badRequest "tls_client_certificate_subject_dn must be a string"))
  Program.rejectIf (subjectDn != "" && Text.strip subjectDn == "") (badRequest blankSubjectDnError)
  Program.ofExcept (validateKeyMaterial env authMethod jwksJson jwksUri)
  let isPublic := authMethod == "none"
  let clientSecret ← if isPublic then pure "" else
    if (get "client_secret").truthy then pure (str env (get "client_secret"))
    else ambient .uuid4Hex
  let redirectUris := (members.lookup "redirect_uris").getD (.arr [])
  let grantTypes := (members.lookup "grant_types").getD
    (.arr [.str "authorization_code", .str "refresh_token"])
  let scope := orDefault (get "scope") (.str "")
  let postLogoutRedirectUris := get "post_logout_redirect_uris"
  let backchannelLogoutUri ← Program.ofExcept (expectStr
    (orDefault (get "backchannel_logout_uri") (.str "")) (badRequest "logout URIs must be strings"))
  let frontchannelLogoutUri ← Program.ofExcept (expectStr
    (orDefault (get "frontchannel_logout_uri") (.str ""))
    (badRequest "logout URIs must be strings"))
  Program.ofExcept (validateRedirectUris redirectUris backchannelLogoutUri frontchannelLogoutUri
    postLogoutRedirectUris)
  let now ← ambient .now
  let id ← ambient .uuid4Hex
  -- `Client(...)` takes no other type for these two.
  let clientId ← Program.ofExcept (expectStr clientId internalServerError)
  let scopeText ← Program.ofExcept (expectStr scope internalServerError)
  let metadata : ClientMetadata :=
    { redirectUris := dumped env redirectUris
      grantTypes := dumped env grantTypes
      scope := scopeText
      name := name
      tokenEndpointAuthMethod := authMethod
      jwks := jwksJson
      jwksUri := jwksUri
      tlsClientCertificateSubjectDn := subjectDn
      backchannelLogoutUri := backchannelLogoutUri
      frontchannelLogoutUri := frontchannelLogoutUri
      postLogoutRedirectUris :=
        if postLogoutRedirectUris.truthy then dumped env postLogoutRedirectUris else "" }
  let saved ← command (.saveClient (metadata.row id clientId clientSecret "" now))
  call (insertOrRaise saved)
  pure (json 201
    [("id", .str id), ("client_id", .str clientId),
      ("client_secret", if isPublic then .null else .str clientSecret), ("name", .str name),
      ("redirect_uris", redirectUris), ("grant_types", grantTypes), ("scope", scope),
      ("token_endpoint_auth_method", .str authMethod), ("jwks", get "jwks"),
      ("jwks_uri", .str jwksUri), ("tls_client_certificate_subject_dn", .str subjectDn),
      ("enabled", .bool true)])

/-! ### Partial updates -/

structure ClientUpdateBody where
  name : Option String
  redirectUris : Option (List String)
  grantTypes : Option (List String)
  scope : Option String
  tokenEndpointAuthMethod : Option String
  enabled : Option Bool
  jwks : Option (List (String × Json))
  jwksUri : Option String
  tlsClientCertificateSubjectDn : Option String
  backchannelLogoutUri : Option String
  frontchannelLogoutUri : Option String
  postLogoutRedirectUris : Option (List String)

def updateFields : List String :=
  ["name", "redirect_uris", "grant_types", "scope", "token_endpoint_auth_method", "enabled",
    "jwks", "jwks_uri", "tls_client_certificate_subject_dn", "backchannel_logout_uri",
    "frontchannel_logout_uri", "post_logout_redirect_uris"]

/-- `ClientUpdateBody.model_validate(raw)`, a `null` read as an absent field. -/
def readUpdate (members : List (String × Json)) : Except FieldError ClientUpdateBody := do
  let name ← readField members "name" none (readOptional readStr)
  let redirectUris ← readField members "redirect_uris" none (readOptional readStrs)
  let grantTypes ← readField members "grant_types" none (readOptional readStrs)
  let scope ← readField members "scope" none (readOptional readStr)
  let tokenEndpointAuthMethod ←
    readField members "token_endpoint_auth_method" none (readOptional readStr)
  let enabled ← readField members "enabled" none (readOptional readStrictBool)
  let jwks ← readField members "jwks" none (readOptional readDict)
  let jwksUri ← readField members "jwks_uri" none (readOptional readStr)
  let tlsClientCertificateSubjectDn ←
    readField members "tls_client_certificate_subject_dn" none (readOptional readStr)
  let backchannelLogoutUri ←
    readField members "backchannel_logout_uri" none (readOptional readStr)
  let frontchannelLogoutUri ←
    readField members "frontchannel_logout_uri" none (readOptional readStr)
  let postLogoutRedirectUris ←
    readField members "post_logout_redirect_uris" none (readOptional readStrs)
  pure
    { name, redirectUris, grantTypes, scope, tokenEndpointAuthMethod, enabled, jwks, jwksUri,
      tlsClientCertificateSubjectDn, backchannelLogoutUri, frontchannelLogoutUri,
      postLogoutRedirectUris }

/-- `_parse_body(request, ClientUpdateBody)`. Of several explicit nulls the code
names one in set order, here the first. -/
def parseBody (body : Option Json) : Except Response ClientUpdateBody :=
  match readUpdate (jsonBody body) with
  | .error error =>
      let field := ".".intercalate error.loc
      .error (badRequest ((if field == "" then "body" else field) ++ ": " ++ error.msg))
  | .ok update =>
      match updateFields.find? fun name =>
          match (jsonBody body).lookup name with
          | some .null => true
          | _ => false with
      | some name => .error (badRequest (name ++ " must not be null"))
      | none => .ok update

/-- The `updates` of `update_client`: the submitted fields as columns. -/
def ClientUpdateBody.updates (env : Env) (body : ClientUpdateBody) : ClientUpdate where
  name := body.name
  redirectUris := body.redirectUris.map (dumpedStrs env)
  grantTypes := body.grantTypes.map (dumpedStrs env)
  scope := body.scope
  tokenEndpointAuthMethod := body.tokenEndpointAuthMethod
  enabled := body.enabled
  jwks := body.jwks.map (dumpedJwks env)
  jwksUri := body.jwksUri
  tlsClientCertificateSubjectDn := body.tlsClientCertificateSubjectDn
  backchannelLogoutUri := body.backchannelLogoutUri
  frontchannelLogoutUri := body.frontchannelLogoutUri
  postLogoutRedirectUris := body.postLogoutRedirectUris.map fun uris =>
    if uris.isEmpty then "" else dumpedStrs env uris

def strsJson : Option (List String) → Json
  | none => .null
  | some texts => .arr (texts.map .str)

/-- The checks of `update_client`: of the submitted URIs, and of the key
material the merged row would have. -/
def acceptUpdate (env : Env) (client : Client) (body : Option Json) :
    Except Response ClientUpdate := do
  let update ← parseBody body
  let subjectDn := update.tlsClientCertificateSubjectDn.getD ""
  refuseIf (subjectDn != "" && Text.strip subjectDn == "") (badRequest blankSubjectDnError)
  let updates := update.updates env
  validateRedirectUris (strsJson update.redirectUris) (update.backchannelLogoutUri.getD "")
    (update.frontchannelLogoutUri.getD "") (strsJson update.postLogoutRedirectUris)
  validateKeyMaterial env
    (updates.tokenEndpointAuthMethod.getD client.tokenEndpointAuthMethod)
    (updates.jwks.getD client.jwks) (updates.jwksUri.getD client.jwksUri)
  pure updates

/-- `PUT /admin/api/clients/{id}`. -/
def update (env : Env) (clientUuid : String) (body : Option Json) : Handler Response := do
  let client ← resolveClient clientUuid
  let updates ← Program.ofExcept (acceptUpdate env client body)
  let now ← ambient .now
  let updated := updates.apply client now
  command (.updateClient updated)
  if updates.enabled == some false then
    discard (command (.revokeTokensByClientId client.clientId))
  pure (json 200 [("id", .str updated.id), ("client_id", .str updated.clientId),
    ("name", .str updated.name), ("enabled", .bool updated.enabled)])

/-! ### Requests -/

inductive ClientRequest where
  | register (body : Option Json)
  | create (body : Option Json)
  | update (clientUuid : String) (body : Option Json)
  | setEnabled (clientUuid : String) (body : Option Json)
  | regenerateSecret (clientUuid : String)
  | delete (clientUuid : String)

/-- `isinstance(body.get("enabled"), bool)`. -/
def enabledFlag (body : Option Json) : Option Bool :=
  match (jsonBody body).lookup "enabled" with
  | some (.bool value) => some value
  | _ => none

def ClientRequest.program (env : Env) : ClientRequest → Handler Response
  | .register body => ClientIntake.register env body
  | .create body => ClientIntake.create env body
  | .update clientUuid body => ClientIntake.update env clientUuid body
  | .setEnabled clientUuid body => setClientEnabled env clientUuid (enabledFlag body)
  | .regenerateSecret clientUuid => regenerateClientSecret env clientUuid
  | .delete clientUuid => deleteClient clientUuid

/-- The state after one request. -/
def handle (env : Env) (world : World) (request : ClientRequest) : World :=
  ((request.program env).run env.interp world).2

/-- The state after the requests, handled one after the other. -/
def handleAll (env : Env) (world : World) (requests : List ClientRequest) : World :=
  requests.foldl (handle env) world

end OAuth2Server.ClientIntake
