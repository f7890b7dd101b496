import OAuth2Server.Endpoints

/-!
# Admin and registration routes

`routes/admin/clients.py`, `users.py`, `tokens.py`, `devices.py`, `denylist.py`
and `routes/register.py`, behind the admin guard. A request carries its body as the
route's own parsing leaves it: a refused body is the response of its refusal.
Audit entries, and the timestamps in response bodies, are left out.
-/

namespace OAuth2Server.Administration

open OAuth2Server Models JsonText Storage Effects Interaction
open Endpoints TokenEndpoint

set_option autoImplicit false

/-- `_now_iso()`, which only the Mongo backend writes. -/
def touchTime {ε : Type} (env : Env) : Program Server ε Instant :=
  match env.backend with
  | .sql => pure 0
  | .mongo => ambient .now

def badRequest (description : String) : Response :=
  json 400 [("error", .str "invalid_request"), ("error_description", .str description)]

/-! ### Clients -/

def clientNotFound : Response := json 404 [("error", .str "client not found")]

/-- `_resolve_client`: the path names the row's `id`, not its `client_id`. -/
def resolveClient (clientUuid : String) : Handler Client := do
  let clients ← query .listAllClients
  match clients.find? (·.id == clientUuid) with
  | some client => pure client
  | none => throw clientNotFound

/-- The fields of a new client once its route has accepted them. -/
structure ClientMetadata where
  redirectUris : String
  grantTypes : String
  scope : String
  name : String
  tokenEndpointAuthMethod : String
  responseTypes : String := "[\"code\"]"
  contacts : String := ""
  jwks : String := ""
  jwksUri : String := ""
  tlsClientCertificateSubjectDn : String := ""
  backchannelLogoutUri : String := ""
  backchannelLogoutSessionRequired : Bool := false
  frontchannelLogoutUri : String := ""
  frontchannelLogoutSessionRequired : Bool := false
  postLogoutRedirectUris : String := ""

/-- The row both intake paths write: a new client is enabled. -/
def ClientMetadata.row (metadata : ClientMetadata) (id clientId clientSecret : String)
    (registrationAccessToken : String) (now : Instant) : Client where
  id := id
  clientId := clientId
  clientSecret := clientSecret
  redirectUris := metadata.redirectUris
  grantTypes := metadata.grantTypes
  scope := metadata.scope
  name := metadata.name
  createdAt := now
  updatedAt := now
  tokenEndpointAuthMethod := metadata.tokenEndpointAuthMethod
  registrationAccessToken := registrationAccessToken
  responseTypes := metadata.responseTypes
  contacts := metadata.contacts
  jwks := metadata.jwks
  jwksUri := metadata.jwksUri
  backchannelLogoutUri := metadata.backchannelLogoutUri
  backchannelLogoutSessionRequired := metadata.backchannelLogoutSessionRequired
  frontchannelLogoutUri := metadata.frontchannelLogoutUri
  frontchannelLogoutSessionRequired := metadata.frontchannelLogoutSessionRequired
  postLogoutRedirectUris := metadata.postLogoutRedirectUris
  tlsClientCertificateSubjectDn := metadata.tlsClientCertificateSubjectDn
  enabled := true

/-- `POST /connect/register`, from an accepted registration on. -/
def registerClient (env : Env) (body : Except Response ClientMetadata) : Handler Response := do
  Program.rejectIf (!env.config.dynamicRegistrationEnabled) (noStore (json 403
    [("error", .str "access_denied"),
      ("error_description", .str "dynamic client registration is disabled")]))
  let metadata ← Program.ofExcept body
  let isPublic := metadata.tokenEndpointAuthMethod == "none"
  let now ← ambient .now
  let clientId ← ambient (.tokenUrlsafe 16)
  let clientSecret ← if isPublic then pure "" else ambient (.tokenUrlsafe 32)
  let registrationAccessToken ← ambient (.tokenUrlsafe 32)
  let id ← ambient .uuid4Hex
  let saved ← command (.saveClient
    (metadata.row id clientId clientSecret registrationAccessToken now))
  call (insertOrRaise saved)
  pure (noStore (json 201 ([("client_id", .str clientId)] ++
    (if isPublic then [] else [("client_secret", .str clientSecret)]) ++
    [("registration_access_token", .str registrationAccessToken)])))

/-- `POST /admin/api/clients`, from an accepted body on. -/
def createClient (body : Except Response ClientMetadata) (requestedClientId : String)
    (requestedSecret : String) : Handler Response := do
  let metadata ← Program.ofExcept body
  if requestedClientId != "" then
    let existing ← query (.getClient requestedClientId)
    Program.rejectIf existing.isSome (json 409
      [("error", .str "already_exists"),
        ("error_description", .str "client_id already registered")])
  let drawn ← if requestedClientId != "" then pure requestedClientId else do
    let hex ← ambient .uuid4Hex
    pure ("client-" ++ String.ofList (hex.toList.take 12))
  let isPublic := metadata.tokenEndpointAuthMethod == "none"
  let clientSecret ← if isPublic then pure "" else
    if requestedSecret != "" then pure requestedSecret else ambient .uuid4Hex
  let now ← ambient .now
  let id ← ambient .uuid4Hex
  let saved ← command (.saveClient (metadata.row id drawn clientSecret "" now))
  call (insertOrRaise saved)
  pure (json 201 [("id", .str id), ("client_id", .str drawn)])

/-- The submitted fields of `PUT /admin/api/clients/{id}`. -/
structure ClientUpdate where
  name : Option String := none
  redirectUris : Option String := none
  grantTypes : Option String := none
  scope : Option String := none
  tokenEndpointAuthMethod : Option String := none
  enabled : Option Bool := none
  jwks : Option String := none
  jwksUri : Option String := none
  tlsClientCertificateSubjectDn : Option String := none
  backchannelLogoutUri : Option String := none
  frontchannelLogoutUri : Option String := none
  postLogoutRedirectUris : Option String := none

/-- `client.model_copy(update=...)`. -/
def ClientUpdate.apply (update : ClientUpdate) (client : Client) (now : Instant) : Client :=
  { client with
    name := update.name.getD client.name
    redirectUris := update.redirectUris.getD client.redirectUris
    grantTypes := update.grantTypes.getD client.grantTypes
    scope := update.scope.getD client.scope
    tokenEndpointAuthMethod := update.tokenEndpointAuthMethod.getD client.tokenEndpointAuthMethod
    enabled := update.enabled.getD client.enabled
    jwks := update.jwks.getD client.jwks
    jwksUri := update.jwksUri.getD client.jwksUri
    tlsClientCertificateSubjectDn :=
      update.tlsClientCertificateSubjectDn.getD client.tlsClientCertificateSubjectDn
    backchannelLogoutUri := update.backchannelLogoutUri.getD client.backchannelLogoutUri
    frontchannelLogoutUri := update.frontchannelLogoutUri.getD client.frontchannelLogoutUri
    postLogoutRedirectUris := update.postLogoutRedirectUris.getD client.postLogoutRedirectUris
    updatedAt := now }

/-- `PUT /admin/api/clients/{id}`. -/
def updateClient (clientUuid : String) (body : Except Response ClientUpdate) :
    Handler Response := do
  let client ← resolveClient clientUuid
  let update ← Program.ofExcept body
  let now ← ambient .now
  let updated := update.apply client now
  command (.updateClient updated)
  if update.enabled == some false then
    discard (command (.revokeTokensByClientId client.clientId))
  pure (json 200 [("id", .str updated.id), ("client_id", .str updated.clientId),
    ("name", .str updated.name), ("enabled", .bool updated.enabled)])

/-- `DELETE /admin/api/clients/{id}`. -/
def deleteClient (clientUuid : String) : Handler Response := do
  let client ← resolveClient clientUuid
  command (.deleteClient client.clientId)
  pure (json 200 [("message", .str "Client deleted")])

/-- `POST /admin/api/clients/{id}/enabled`; `none` is a body without a boolean. -/
def setClientEnabled (env : Env) (clientUuid : String) (enabled : Option Bool) :
    Handler Response := do
  let client ← resolveClient clientUuid
  match enabled with
  | none => throw (badRequest "enabled must be a boolean")
  | some enabled =>
      let now ← touchTime env
      command (.setClientEnabled client.clientId enabled now)
      if !enabled then
        discard (command (.revokeTokensByClientId client.clientId))
      pure (json 200 [("enabled", .bool enabled)])

/-- `POST /admin/api/clients/{id}/regenerate-secret`. -/
def regenerateClientSecret (env : Env) (clientUuid : String) : Handler Response := do
  let client ← resolveClient clientUuid
  Program.rejectIf client.isPublic (badRequest "public clients have no secret")
  let secret ← ambient .uuid4Hex
  let now ← touchTime env
  command (.setClientSecret client.clientId secret now)
  pure (json 200 [("client_id", .str client.clientId), ("client_secret", .str secret)])

/-! ### Users -/

def userNotFound : Response := json 404 [("error", .str "user not found")]

def validRole (role : String) : Bool := role == "admin" || role == "user"

structure NewUser where
  username : String
  email : String
  password : String
  role : String
  enabled : Bool

/-- `POST /admin/api/users`. -/
def createUser (body : NewUser) : Handler Response := do
  let username := Text.strip body.username
  let email := Text.strip body.email
  Program.rejectIf (username == "" || email == "" || body.password == "")
    (badRequest "username, email, password are required")
  let existing ← query (.getUserByUsername username)
  Program.rejectIf existing.isSome (json 409
    [("error", .str "already_exists"), ("error_description", .str "username already registered")])
  let passwordHash ← ambient (.hashPassword body.password)
  let now ← ambient .now
  let id ← ambient .uuid4Hex
  let saved ← command (.saveUser
    { id := id
      username := username
      passwordHash := passwordHash
      email := email
      enabled := body.enabled
      role := if validRole body.role then body.role else "user"
      createdAt := now
      updatedAt := now })
  call (insertOrRaise saved)
  pure (json 201 [("id", .str id), ("username", .str username)])

/-- The submitted fields of `PUT /admin/api/users/{id}`. -/
structure UserUpdate where
  email : Option String := none
  role : Option String := none
  enabled : Option Bool := none

def UserUpdate.apply (update : UserUpdate) (user : User) (now : Instant) : User :=
  { user with
    email := update.email.getD user.email
    role := (update.role.filter validRole).getD user.role
    enabled := update.enabled.getD user.enabled
    updatedAt := now }

/-- `PUT /admin/api/users/{id}`. -/
def updateUser (userId : String) (body : Except Response UserUpdate) : Handler Response := do
  match ← query (.getUserById userId) with
  | none => throw userNotFound
  | some user =>
      let update ← Program.ofExcept body
      let now ← ambient .now
      let updated := update.apply user now
      let saved ← command (.updateUser updated)
      call (insertOrRaise saved)
      if update.enabled == some false then
        discard (command (.revokeTokensByUserId userId))
      pure (json 200 [("id", .str updated.id), ("enabled", .bool updated.enabled)])

/-- `DELETE /admin/api/users/{id}`. -/
def deleteUser (userId : String) : Handler Response := do
  match ← query (.getUserById userId) with
  | none => throw userNotFound
  | some _ =>
      command (.deleteUser userId)
      discard (command (.revokeTokensByUserId userId))
      pure (json 200 [("message", .str "User deleted")])

/-- `POST /admin/api/users/{id}/enabled`; `none` is a body without a boolean. -/
def setUserEnabled (env : Env) (userId : String) (enabled : Option Bool) : Handler Response :=
  match enabled with
  | none => throw (badRequest "enabled must be a boolean")
  | some enabled => do
      let now ← touchTime env
      command (.setUserEnabled userId enabled now)
      if !enabled then
        discard (command (.revokeTokensByUserId userId))
      pure (json 200 [("enabled", .bool enabled)])

/-- `POST /admin/api/users/{id}/role`. -/
def setUserRole (env : Env) (userId role : String) : Handler Response := do
  Program.rejectIf (!validRole role) (badRequest "role must be 'admin' or 'user'")
  let now ← touchTime env
  command (.setUserRole userId role now)
  pure (json 200 [("role", .str role)])

/-- `POST /admin/api/users/{id}/password`. -/
def resetUserPassword (env : Env) (userId password : String) : Handler Response := do
  Program.rejectIf (decide (password.toList.length < 8)) (json 400
    [("error", .str "weak_password"),
      ("error_description", .str "password must be at least 8 characters")])
  let passwordHash ← ambient (.hashPassword password)
  let now ← touchTime env
  command (.setUserPasswordHash userId passwordHash now)
  discard (command (.revokeTokensByUserId userId))
  pure (json 200 [("message", .str "Password reset")])

/-! ### Tokens and devices -/

/-- `POST /admin/api/tokens/{id}/revoke`: an unknown id is a silent no-op. -/
def revokeTokenById (tokenId : String) : Handler Response := do
  match ← query (.getTokenById tokenId) with
  | some row => command (.revokeToken row.accessToken)
  | none => pure ()
  pure (json 200 [("message", .str "Token revoked")])

/-- `POST /admin/api/tokens/revoke-by-user`, and the sweep of a logout whose
hint names a subject. -/
def revokeTokensByUser (userId : String) : Handler Response := do
  let count ← command (.revokeTokensByUserId userId)
  pure (json 200 [("revoked", .int count)])

/-- `POST /admin/api/tokens/revoke-by-client`. -/
def revokeTokensByClient (clientId : String) : Handler Response := do
  let count ← command (.revokeTokensByClientId clientId)
  pure (json 200 [("revoked", .int count)])

/-- `POST /admin/api/device/{code}/expire`. -/
def expireDevice (deviceCode : String) : Handler Response := do
  let now ← ambient .now
  command (.expireDeviceAuthorization deviceCode now)
  pure (json 200 [("message", .str "Device code expired")])

/-! ### The denylist -/

def denylistKinds : List String := ["ip", "user_id", "username", "email", "client_id"]

/-- `POST /admin/api/denylist`; `expiresAt` is an error when it is no datetime. -/
def addDenylist (env : Env) (rawKind rawValue reason createdBy : String)
    (expiresAt : Except Unit (Option Instant)) : Handler Response := do
  let kind := env.platform.lower (Text.strip rawKind)
  let value := Text.strip rawValue
  Program.rejectIf (!denylistKinds.contains kind)
    (badRequest "kind must be one of: ip, user_id, username, email, client_id")
  Program.rejectIf (value == "") (badRequest "value is required")
  match expiresAt with
  | .error _ => throw (badRequest "expires_at must be a valid RFC3339 datetime")
  | .ok expiresAt =>
      let id ← ambient .uuid4Hex
      let now ← ambient .now
      command (.addDenylistEntry
        { id := id
          kind := kind
          value := value
          reason := reason
          createdBy := createdBy
          createdAt := now
          expiresAt := expiresAt })
      let active ← match expiresAt with
        | none => pure true
        | some expiresAt => do
            let now ← ambient .now
            pure (decide (now < expiresAt))
      pure (json 201 [("id", .str id), ("kind", .str kind), ("value", .str value),
        ("reason", .str reason), ("created_by", .str createdBy), ("active", .bool active)])

/-- `DELETE /admin/api/denylist/{id}`: an unknown id is a silent no-op. -/
def removeDenylist (entryId : String) : Handler Response := do
  command (.removeDenylistEntry entryId)
  pure (json 200 [("message", .str "Denylist entry removed")])

end OAuth2Server.Administration
