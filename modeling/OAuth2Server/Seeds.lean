import OAuth2Server.StrictJson
import OAuth2Server.Url

/-!
# The seed of conformance mode

`conformance.py` up to the validated seed: the document, its shape, the checks
beyond the shape, the mode switch and the production guard. The YAML loader,
the engine's URL parser and the file system are parameters, as is `repr`.
-/

namespace OAuth2Server.Seeds

open OAuth2Server JsonText StrictJson

set_option autoImplicit false

/-- What startup raises: a `ConformanceError`, or any other exception. -/
inductive Failure where
  | conformance (message : String)
  | escaped
  deriving DecidableEq, Repr

abbrev Checked := Except Failure

def refuse {α : Type} (message : String) : Checked α := .error (.conformance message)

/-- `if condition: raise ConformanceError(message)`. -/
def refuseIf (condition : Bool) (message : String) : Checked Unit :=
  if condition then refuse message else .ok ()

/-! ### Documents -/

/-- A key of a mapping. Only YAML has keys that are not strings; these are
known by their `str()`. -/
inductive Key where
  | text (name : String)
  | other (shown : String)
  deriving DecidableEq, Repr

/-- A loaded document. Of a value of no interest here only the type is kept. -/
inductive Doc where
  | null
  | bool (value : Bool)
  | text (value : String)
  | list (items : List Doc)
  | mapping (members : List (Key × Doc))
  | other (typeName : String)

mutual

/-- The objects that `json.loads` makes. -/
def Doc.ofJson : Json → Doc
  | .null => .null
  | .bool value => .bool value
  | .int _ => .other "int"
  | .float _ => .other "float"
  | .nonFinite _ => .other "float"
  | .str value => .text value
  | .arr items => .list (docItems items)
  | .obj members => .mapping (docMembers members)

def docItems : List Json → List Doc
  | [] => []
  | item :: rest => Doc.ofJson item :: docItems rest

def docMembers : List (String × Json) → List (Key × Doc)
  | [] => []
  | (key, value) :: rest => (.text key, Doc.ofJson value) :: docMembers rest

end

/-- `type(obj).__name__`. -/
def Doc.typeName : Doc → String
  | .null => "NoneType"
  | .bool _ => "bool"
  | .text _ => "str"
  | .list _ => "list"
  | .mapping _ => "dict"
  | .other name => name

def Doc.isNull : Doc → Bool
  | .null => true
  | _ => false

/-- What the strict loader raises: a `YAMLError` with its text, the hook's own
`ConformanceError`, or anything else. -/
inductive YamlError where
  | yaml (text : String)
  | conformance (message : String)
  | other

/-- Reading the file: an `OSError` with its text, or undecodable bytes. -/
inductive ReadError where
  | os (text : String)
  | undecodable

/-- The interpreter, its libraries and the file system. -/
structure Surroundings where
  repr : String → String
  lower : String → String
  recursionLimit : Nat
  yamlLoad : String → Except YamlError Doc
  /-- `make_url`: the backend's name and the database. -/
  makeUrl : String → Option (String × Option String)
  readText : String → Except ReadError String

section Building

variable (within : Surroundings)

/-- `_load_document`. -/
def loadDocument (text : String) : Checked Doc :=
  if Text.strip text == "" then refuse "seed file is empty"
  else match strictLoads within.recursionLimit text with
    | .ok value => .ok (Doc.ofJson value)
    | .error (.duplicate key) => refuse ("duplicate key " ++ within.repr key)
    | .error (.load .recursion) => .error .escaped
    | .error (.load .digits) => .error .escaped
    | .error (.load .decode) =>
        match within.yamlLoad text with
        | .ok .null => refuse "seed file is empty"
        | .ok document => .ok document
        | .error (.yaml error) => refuse ("seed is neither valid JSON nor YAML: " ++ error)
        | .error (.conformance message) => refuse message
        | .error .other => .error .escaped

abbrev Members := List (Key × Doc)

/-- `_mapping`. -/
def mapping (document : Doc) (place : String) : Checked Members :=
  match document with
  | .mapping members => .ok members
  | other => refuse (place ++ ": expected a mapping, got " ++ other.typeName)

/-- `obj.get(key)`, where `None` and an absent key are the same. -/
def field (members : Members) (key : String) : Doc :=
  (members.lookup (.text key)).getD .null

def Key.shown : Key → String
  | .text name => name
  | .other shown => shown

def Key.allowed (names : List String) : Key → Bool
  | .text name => names.contains name
  | .other _ => false

/-- `for key in required: if key not in obj`. -/
def requireKeys (members : Members) (place : String) : List String → Checked Unit
  | [] => .ok ()
  | key :: rest => do
      refuseIf (members.lookup (.text key)).isNone
        (place ++ ": missing required key " ++ within.repr key)
      requireKeys members place rest

def sorted (names : List String) : List String := names.mergeSort fun left right => left ≤ right

/-- `_check_keys`. -/
def checkKeys (members : Members) (allowed required : List String) (place : String) :
    Checked Unit := do
  let unknown := (members.filter fun member => !member.1.allowed allowed).map (·.1.shown)
  refuseIf (!unknown.isEmpty)
    (place ++ ": unknown field(s) " ++ String.intercalate ", " (sorted unknown))
  requireKeys within members place (sorted required)

/-- `_string`. -/
def string (members : Members) (key place : String) : Checked (Option String) :=
  match field members key with
  | .null => .ok none
  | .text value => .ok (some value)
  | _ => refuse (place ++ ": " ++ key ++ " must be a string")

def Doc.text? : Doc → Option String
  | .text value => some value
  | _ => none

/-- `_string_list`. -/
def stringList (members : Members) (key place : String) : Checked (Option (List String)) :=
  match field members key with
  | .null => .ok none
  | .list items =>
      match items.mapM Doc.text? with
      | some texts => .ok (some texts)
      | none => refuse (place ++ ": " ++ key ++ " must be a list of strings")
  | _ => refuse (place ++ ": " ++ key ++ " must be a list of strings")

/-- `obj.get(key)`, null or a boolean. -/
def boolean (members : Members) (key place : String) : Checked (Option Bool) :=
  match field members key with
  | .null => .ok none
  | .bool value => .ok (some value)
  | _ => refuse (place ++ ": " ++ key ++ " must be a boolean")

/-- `_list_of_mappings`. -/
def listOfMappings (members : Members) (key : String) : Checked (List Members) :=
  match field members key with
  | .list items => items.mapM fun item => mapping item (key ++ "[]")
  | _ => refuse ("seed: " ++ key ++ " must be a list")

/-! ### The seed model -/

structure SeedSigningKey where
  kid : String
  alg : String
  use : String := "sig"
  deriving DecidableEq

structure SeedClient where
  clientId : String
  redirectUris : List String
  name : Option String := none
  clientSecret : Option String := none
  tokenEndpointAuthMethod : Option String := none
  isPublicField : Option Bool := none
  scopes : Option (List String) := none
  grantTypes : Option (List String) := none
  deriving DecidableEq

/-- `SeedClient.is_public`. -/
def SeedClient.isPublic (client : SeedClient) : Bool :=
  client.isPublicField == some true || client.tokenEndpointAuthMethod == some "none"

structure SeedUser where
  username : String
  password : String
  email : Option String := none
  scopes : Option (List String) := none
  autoApproveClients : Option (List String) := none
  deriving DecidableEq

structure Seed where
  issuer : String
  clients : List SeedClient
  users : List SeedUser
  signingKeys : List SeedSigningKey := []
  deriving DecidableEq

/-- `value or default` on an optional string. -/
def orElse (value : Option String) (default : String) : String :=
  (value.filter (· != "")).getD default

/-- `_build_signing_key`. -/
def buildSigningKey (members : Members) : Checked SeedSigningKey := do
  let place := "signingKeys[]"
  checkKeys within members ["kid", "alg", "use"] ["kid", "alg"] place
  let kid ← string members "kid" place
  let alg ← string members "alg" place
  let use ← string members "use" place
  pure { kid := orElse kid "", alg := orElse alg "", use := orElse use "sig" }

/-- `_build_client`. -/
def buildClient (members : Members) : Checked SeedClient := do
  let place := "clients[]"
  checkKeys within members
    ["client_id", "name", "client_secret", "token_endpoint_auth_method", "public",
      "redirect_uris", "scopes", "grant_types"]
    ["client_id", "redirect_uris"] place
  let isPublicField ← boolean members "public" place
  let clientId ← string members "client_id" place
  let redirectUris ← stringList members "redirect_uris" place
  let name ← string members "name" place
  let clientSecret ← string members "client_secret" place
  let tokenEndpointAuthMethod ← string members "token_endpoint_auth_method" place
  let scopes ← stringList members "scopes" place
  let grantTypes ← stringList members "grant_types" place
  pure
    { clientId := orElse clientId ""
      redirectUris := redirectUris.getD []
      name := name
      clientSecret := clientSecret
      tokenEndpointAuthMethod := tokenEndpointAuthMethod
      isPublicField := isPublicField
      scopes := scopes
      grantTypes := grantTypes }

/-- `_build_user`. -/
def buildUser (members : Members) : Checked SeedUser := do
  let place := "users[]"
  checkKeys within members ["username", "password", "email", "scopes", "auto_approve_clients"]
    ["username", "password"] place
  let username ← string members "username" place
  let password ← string members "password" place
  let email ← string members "email" place
  let scopes ← stringList members "scopes" place
  let autoApproveClients ← stringList members "auto_approve_clients" place
  pure
    { username := orElse username ""
      password := orElse password ""
      email := email
      scopes := scopes
      autoApproveClients := autoApproveClients }

/-- `assert value is not None`. -/
def assertSome {α : Type} (value : Option α) : Checked α :=
  match value with
  | some value => .ok value
  | none => .error .escaped

/-- `_build_seed`. A null issuer fails the assertion. -/
def buildSeed (members : Members) : Checked Seed := do
  checkKeys within members ["issuer", "signingKeys", "clients", "users"]
    ["issuer", "clients", "users"] "seed"
  let issuer ← string members "issuer" "seed"
  let issuer ← assertSome issuer
  let keys ← if (field members "signingKeys").isNull then Except.ok []
    else listOfMappings members "signingKeys"
  let signingKeys ← keys.mapM (buildSigningKey within)
  let clientMembers ← listOfMappings members "clients"
  let clients ← clientMembers.mapM (buildClient within)
  let userMembers ← listOfMappings members "users"
  let users ← userMembers.mapM (buildUser within)
  pure { issuer := issuer, clients := clients, users := users, signingKeys := signingKeys }

/-! ### The checks beyond the shape -/

/-- A loop that checks its items one by one and remembers their names, so that
no name occurs twice. The names come back in the order the set grew. -/
def eachDistinct {α : Type} (name : α → String) (duplicate : String → String)
    (before after : α → Checked Unit) : List String → List α → Checked (List String)
  | seen, [] => .ok seen
  | seen, item :: rest => do
      before item
      refuseIf (seen.contains (name item)) (duplicate (name item))
      after item
      eachDistinct name duplicate before after (name item :: seen) rest

/-- A loop that checks its items one by one. -/
def checkEach {α : Type} (check : α → Checked Unit) : List α → Checked Unit
  | [] => .ok ()
  | item :: rest => do
      check item
      checkEach check rest

/-- `_nonempty`. -/
def nonempty (what value : String) : Checked Unit :=
  refuseIf (value == "") (what ++ " must not be empty")

/-- `_well_formed_alg`. -/
def wellFormedAlg (alg : String) : Bool :=
  let letters := alg.toList
  letters.length == 5 &&
    [['R', 'S'], ['E', 'S'], ['P', 'S'], ['H', 'S']].contains (letters.take 2) &&
    (letters.drop 2).all Url.isAsciiDigit

def supportedSeedAlgs : List String := ["HS256", "RS256"]

/-- `urlsplit`, whose `ValueError` nobody catches here. -/
def split (url : String) : Checked Url.SplitResult :=
  match Url.urlsplit url with
  | some parts => .ok parts
  | none => .error .escaped

/-- What a signing key is checked for once its id is new. -/
def checkSigningKey (key : SeedSigningKey) : Checked Unit := do
  refuseIf (key.use != "sig") ("signing key " ++ within.repr key.kid ++ ": use must be \"sig\"")
  refuseIf (!wellFormedAlg key.alg) ("signing key " ++ within.repr key.kid ++ ": alg " ++
    within.repr key.alg ++ " is not RS/ES/PS/HS + 3 digits")
  refuseIf (!supportedSeedAlgs.contains key.alg) ("signing key " ++ within.repr key.kid ++
    ": alg " ++ key.alg ++ " is not supported by this server (" ++
    String.intercalate ", " supportedSeedAlgs ++ ")")

def isHttp (scheme : String) : Bool := scheme == "http" || scheme == "https"

/-- `_validate_redirect_uri`. -/
def validateRedirectUri (cid uri : String) : Checked Unit := do
  let parts ← split uri
  let privateUse := parts.scheme.toList.contains '.' && !isHttp parts.scheme && parts.path != ""
  let web := isHttp parts.scheme && parts.netloc != ""
  refuseIf (!(web || privateUse))
    ("client " ++ within.repr cid ++ ": redirect_uri " ++ within.repr uri ++ " is invalid")
  refuseIf (parts.fragment != "")
    ("client " ++ within.repr cid ++ ": redirect_uri " ++ within.repr uri ++ " has a fragment")

def authMethods : List String := ["none", "client_secret_basic", "client_secret_post"]

def grantTypes : List String :=
  ["authorization_code", "refresh_token", "client_credentials",
    "urn:ietf:params:oauth:grant-type:device_code"]

/-- The method, when there is one. -/
def checkMethod (client : SeedClient) : Checked Unit :=
  match client.tokenEndpointAuthMethod with
  | none => .ok ()
  | some method => refuseIf (!authMethods.contains method) ("client " ++
      within.repr client.clientId ++ ": token_endpoint_auth_method " ++ within.repr method ++
      " is not supported")

/-- A public client has no secret and no method but `none`; any other has a secret. -/
def checkSecret (client : SeedClient) : Checked Unit :=
  let cid := within.repr client.clientId
  if client.isPublic then do
    refuseIf client.clientSecret.isSome
      ("client " ++ cid ++ ": a public client must not carry a secret")
    refuseIf (client.tokenEndpointAuthMethod.isSome &&
        client.tokenEndpointAuthMethod != some "none")
      ("client " ++ cid ++ ": a public client must use method none")
  else
    refuseIf client.clientSecret.isNone ("client " ++ cid ++
      ": a confidential client needs client_secret (or set public: true)")

/-- `_validate_client`. -/
def validateClient (client : SeedClient) : Checked Unit := do
  let cid := within.repr client.clientId
  refuseIf (client.name == some "") ("client " ++ cid ++ ": name must not be empty")
  checkMethod within client
  refuseIf (client.clientSecret == some "")
    ("client " ++ cid ++ ": client_secret must not be empty")
  checkSecret within client
  refuseIf client.redirectUris.isEmpty ("client " ++ cid ++ ": redirect_uris must not be empty")
  checkEach (validateRedirectUri within client.clientId) client.redirectUris
  checkEach (fun scope => refuseIf (scope == "" || scope.toList.any Text.isSpace)
    ("client " ++ cid ++ ": invalid scope " ++ within.repr scope)) (client.scopes.getD [])
  checkEach (fun grant => refuseIf (!grantTypes.contains grant)
    ("client " ++ cid ++ ": unsupported grant type " ++ within.repr grant))
    (client.grantTypes.getD [])

/-- What a user is checked for once the name is new. -/
def checkUser (clientIds : List String) (user : SeedUser) : Checked Unit := do
  refuseIf ((user.email.map fun email => decide (email.length < 3)).getD false)
    ("user " ++ within.repr user.username ++ ": email is too short")
  checkEach (fun approved => refuseIf (!clientIds.contains approved)
    ("user " ++ within.repr user.username ++ ": auto_approve_clients names unknown client " ++
      within.repr approved)) (user.autoApproveClients.getD [])

/-- The issuer: a web URL with a host and no slash at its end. -/
def validateIssuer (issuer : String) : Checked Unit := do
  let parts ← split issuer
  refuseIf (!isHttp parts.scheme)
    ("issuer " ++ within.repr issuer ++ " must be an http(s) URL")
  refuseIf (parts.netloc == "") ("issuer " ++ within.repr issuer ++ " must have a host")
  refuseIf (issuer.toList.getLast? == some '/') "issuer must not end with '/'"

/-- `_validate_seed`. -/
def validateSeed (seed : Seed) : Checked Unit := do
  validateIssuer within seed.issuer
  refuseIf seed.clients.isEmpty "clients must contain at least one client"
  refuseIf seed.users.isEmpty "users must contain at least one user"
  let _ ← eachDistinct SeedSigningKey.kid
    (fun kid => "duplicate signing key kid " ++ within.repr kid)
    (fun key => nonempty "signingKeys[].kid" key.kid) (checkSigningKey within) []
    seed.signingKeys
  let clientIds ← eachDistinct SeedClient.clientId
    (fun clientId => "duplicate client_id " ++ within.repr clientId)
    (fun client => nonempty "clients[].client_id" client.clientId) (validateClient within) []
    seed.clients
  let _ ← eachDistinct SeedUser.username
    (fun username => "duplicate username " ++ within.repr username)
    (fun user => do
      nonempty "users[].username" user.username
      nonempty ("user " ++ within.repr user.username ++ " password") user.password)
    (checkUser within clientIds) [] seed.users
  pure ()

def topLevel : Doc → Checked Members
  | .mapping members => .ok members
  | _ => refuse "seed is not a mapping"

/-- `Seed.parse`. -/
def parse (text : String) : Checked Seed := do
  let raw ← loadDocument within text
  let members ← topLevel raw
  let seed ← buildSeed within members
  validateSeed within seed
  pure seed

/-- `Seed.load`: a refusal names the file. -/
def load (path : String) : Checked Seed :=
  match within.readText path with
  | .error (.os text) => refuse ("cannot read seed file " ++ path ++ ": " ++ text)
  | .error .undecodable => .error .escaped
  | .ok text =>
      match parse within text with
      | .error (.conformance message) => refuse (path ++ ": " ++ message)
      | outcome => outcome

/-! ### The mode switch and the production guard -/

/-- The environment: `env.get(name)`. -/
abbrev Environment := String → Option String

def modeEnv : String := "OAUTH2_CONFORMANCE_MODE"

def seedEnv : String := "OAUTH2_CONFORMANCE_SEED"

/-- `mode_from_env`. -/
def modeFromEnv (env : Environment) : Checked (Option String) :=
  let mode := within.lower (Text.strip ((env modeEnv).getD ""))
  if ["", "0", "false"].contains mode then .ok none
  else if !(["1", "true"].contains mode) then
    refuse (modeEnv ++ "=" ++ within.repr mode ++
      " is not a recognized value; use 1 to enable or unset it")
  else
    let path := Text.strip ((env seedEnv).getD "")
    if path == "" then
      refuse (modeEnv ++ "=1 requires " ++ seedEnv ++ " to point at a seed file")
    else .ok (some path)

def profileEnvVars : List String :=
  ["OAUTH2_ENV", "OAUTH2_ENVIRONMENT", "OAUTH2_PROFILE", "APP_ENV", "ENVIRONMENT", "RUST_ENV",
    "NODE_ENV", "FLASK_ENV", "RAILS_ENV", "DEPLOY_ENV", "ASPNETCORE_ENVIRONMENT"]

def nonProductionEnvNames : List String :=
  ["test", "testing", "conformance", "dev", "development", "local", "ci"]

/-- `_is_in_memory_sqlite`. -/
def isInMemorySqlite (databaseUrl : String) : Bool :=
  match within.makeUrl databaseUrl with
  | none => false
  | some (backend, database) =>
      backend == "sqlite" && [none, some "", some ":memory:"].contains database

/-- What the guard reads of the configuration. -/
structure Profile where
  databaseUrl : String
  idTokenPrivateKeyPem : Option String

/-- One profile variable. -/
def checkProfileVar (env : Environment) (var : String) : Checked Unit :=
  match env var with
  | none => .ok ()
  | some value =>
      let name := within.lower (Text.strip value)
      refuseIf (name != "" && !nonProductionEnvNames.contains name)
        ("conformance mode refused: " ++ var ++ "=" ++ within.repr value ++
          " is not a known non-production environment (allowed: " ++
          String.intercalate ", " nonProductionEnvNames ++ ")")

/-- `check_not_production`. -/
def checkNotProduction (env : Environment) (config : Profile) : Checked Unit := do
  checkEach (checkProfileVar within env) profileEnvVars
  refuseIf (!isInMemorySqlite within config.databaseUrl)
    ("conformance mode refused: it requires an in-memory database " ++
      "(OAUTH2_DATABASE_URL=sqlite+aiosqlite://) so seeded test credentials are " ++
      "never persisted to a shared or production store")
  refuseIf (Text.truthy config.idTokenPrivateKeyPem)
    ("conformance mode refused: a real signing key is configured; the mode " ++
      "generates its own throwaway keys under the seeded kid")

/-- `seed_from_env`. -/
def seedFromEnv (env : Environment) (config : Profile) : Checked (Option Seed) := do
  match ← modeFromEnv within env with
  | none => pure none
  | some path => do
      checkNotProduction within env config
      let seed ← load within path
      pure (some seed)

end Building

end OAuth2Server.Seeds
