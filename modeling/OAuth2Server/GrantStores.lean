import OAuth2Server.Records
import OAuth2Server.Storage

/-!
# The grants of `SqlStorage` and `MongoStorage`

Tokens, authorization codes and device authorizations as the two backends keep
them. `SqlStorage` binds every field to a column of a SQLite table, a `None` as
`NULL` and a flag as 0 or 1. `MongoStorage` keeps the JSON form of the model and
leaves some fields out when they are `None`. An instant is ISO text that both
write and read with the same functions.
-/

namespace OAuth2Server.GrantStores

open OAuth2Server Models Storage Records

set_option autoImplicit false

/-! ### `model_dump(mode="json")` -/

def optionalText : Option String → Value
  | some content => .text content
  | none => .null

def tokenFields (token : Token) : Record :=
  [("id", .text token.id), ("access_token", .text token.accessToken),
    ("refresh_token", optionalText token.refreshToken), ("token_type", .text token.tokenType),
    ("expires_in", .int token.expiresIn), ("scope", .text token.scope),
    ("client_id", .text token.clientId), ("user_id", optionalText token.userId),
    ("created_at", .time token.createdAt), ("expires_at", .time token.expiresAt),
    ("revoked", .bool token.revoked), ("token_family", optionalText token.tokenFamily)]

def codeFields (code : AuthorizationCode) : Record :=
  [("id", .text code.id), ("code", .text code.code), ("client_id", .text code.clientId),
    ("user_id", .text code.userId), ("redirect_uri", .text code.redirectUri),
    ("scope", .text code.scope), ("created_at", .time code.createdAt),
    ("expires_at", .time code.expiresAt), ("used", .bool code.used),
    ("code_challenge", optionalText code.codeChallenge),
    ("code_challenge_method", optionalText code.codeChallengeMethod), ("nonce", optionalText code.nonce),
    ("resource", optionalText code.resource),
    ("authorization_details", optionalText code.authorizationDetails),
    ("claims_request", optionalText code.claimsRequest), ("token_family", optionalText code.tokenFamily),
    ("dpop_jkt", optionalText code.dpopJkt)]

def deviceFields (device : DeviceAuthorization) : Record :=
  [("id", .text device.id), ("device_code", .text device.deviceCode),
    ("user_code", .text device.userCode), ("client_id", .text device.clientId),
    ("scope", .text device.scope), ("created_at", .time device.createdAt),
    ("expires_at", .time device.expiresAt), ("interval_seconds", .int device.intervalSeconds),
    ("approved", .bool device.approved), ("denied", .bool device.denied),
    ("used", .bool device.used), ("user_id", optionalText device.userId)]

/-! ### Building a model from a record -/

def readText : Value → Option String
  | .text content => some content
  | _ => none

def readOptional : Value → Option (Option String)
  | .text content => some (some content)
  | .null => some none
  | _ => none

def readInt : Value → Option Int
  | .int number => some number
  | .bool flag => some (if flag then 1 else 0)
  | _ => none

def readBool : Value → Option Bool
  | .bool flag => some flag
  | .int number => if number = 0 then some false else if number = 1 then some true else none
  | _ => none

def readTime : Value → Option Instant
  | .time instant => some instant
  | _ => none

/-- A keyword argument of a model; a field that is not given has its default, if it
has one. -/
def argument {α : Type} (record : Record) (name : String) (read : Value → Option α)
    (default : Option α) : Option α :=
  match record.lookup name with
  | some value => read value
  | none => default

/-- `Token(**row)`; `None` stands for a validation error. `created_at` is always
stored, so its default is left out. -/
def loadToken (record : Record) : Option Token := do
  let id ← argument record "id" readText none
  let accessToken ← argument record "access_token" readText none
  let refreshToken ← argument record "refresh_token" readOptional (some none)
  let tokenType ← argument record "token_type" readText (some "Bearer")
  let expiresIn ← argument record "expires_in" readInt (some 3600)
  let scope ← argument record "scope" readText (some "")
  let clientId ← argument record "client_id" readText none
  let userId ← argument record "user_id" readOptional (some none)
  let createdAt ← argument record "created_at" readTime none
  let expiresAt ← argument record "expires_at" readTime none
  let revoked ← argument record "revoked" readBool (some false)
  let tokenFamily ← argument record "token_family" readOptional (some none)
  pure
    { id, accessToken, refreshToken, tokenType, expiresIn, scope, clientId, userId, createdAt,
      expiresAt, revoked, tokenFamily }

def loadCode (record : Record) : Option AuthorizationCode := do
  let id ← argument record "id" readText none
  let code ← argument record "code" readText none
  let clientId ← argument record "client_id" readText none
  let userId ← argument record "user_id" readText none
  let redirectUri ← argument record "redirect_uri" readText none
  let scope ← argument record "scope" readText none
  let createdAt ← argument record "created_at" readTime none
  let expiresAt ← argument record "expires_at" readTime none
  let used ← argument record "used" readBool (some false)
  let codeChallenge ← argument record "code_challenge" readOptional (some none)
  let codeChallengeMethod ← argument record "code_challenge_method" readOptional (some none)
  let nonce ← argument record "nonce" readOptional (some none)
  let resource ← argument record "resource" readOptional (some none)
  let authorizationDetails ← argument record "authorization_details" readOptional (some none)
  let claimsRequest ← argument record "claims_request" readOptional (some none)
  let tokenFamily ← argument record "token_family" readOptional (some none)
  let dpopJkt ← argument record "dpop_jkt" readOptional (some none)
  pure
    { id, code, clientId, userId, redirectUri, scope, createdAt, expiresAt, used, codeChallenge,
      codeChallengeMethod, nonce, resource, authorizationDetails, claimsRequest, tokenFamily,
      dpopJkt }

def loadDevice (record : Record) : Option DeviceAuthorization := do
  let id ← argument record "id" readText none
  let deviceCode ← argument record "device_code" readText none
  let userCode ← argument record "user_code" readText none
  let clientId ← argument record "client_id" readText none
  let scope ← argument record "scope" readText none
  let createdAt ← argument record "created_at" readTime none
  let expiresAt ← argument record "expires_at" readTime none
  let intervalSeconds ← argument record "interval_seconds" readInt (some 5)
  let approved ← argument record "approved" readBool (some false)
  let denied ← argument record "denied" readBool (some false)
  let used ← argument record "used" readBool (some false)
  let userId ← argument record "user_id" readOptional (some none)
  pure
    { id, deviceCode, userCode, clientId, scope, createdAt, expiresAt, intervalSeconds, approved,
      denied, used, userId }

/-! ### Calls -/

/-- The storage methods on grants. `expire_device_authorization` carries its
reading of the clock. -/
inductive GrantCall where
  | saveToken (token : Token)
  | getTokenByAccessToken (accessToken : String)
  | getTokenByRefreshToken (refreshToken : String)
  | getTokenById (tokenId : String)
  | revokeToken (token : String)
  | revokeTokenFamily (family : String)
  | revokeTokensByUserId (userId : String)
  | revokeTokensByClientId (clientId : String)
  | saveAuthorizationCode (code : AuthorizationCode)
  | getAuthorizationCode (code : String)
  | getAuthorizationCodeByTokenFamily (family : String)
  | markAuthorizationCodeUsed (code : String)
  | saveDeviceAuthorization (device : DeviceAuthorization)
  | getDeviceAuthorizationByDeviceCode (deviceCode : String)
  | getDeviceAuthorizationByUserCode (userCode : String)
  | approveDeviceAuthorization (userCode userId : String)
  | denyDeviceAuthorization (userCode : String)
  | markDeviceAuthorizationUsed (deviceCode : String)
  | expireDeviceAuthorization (deviceCode : String) (now : Instant)
  deriving DecidableEq

inductive Reply where
  | token (row : Option Token)
  | code (row : Option AuthorizationCode)
  | device (row : Option DeviceAuthorization)
  | count (rows : Nat)
  | done
  | raised
  deriving DecidableEq

/-- The records of the three kinds of grants. -/
structure Grants where
  tokens : List Record := []
  codes : List Record := []
  devices : List Record := []

/-- `return Model(**row) if row else None`. -/
def loaded {Model : Type} (load : Record → Option Model) (reply : Option Model → Reply)
    (record : Option Record) : Reply :=
  match record with
  | none => reply none
  | some record =>
      match load record with
      | some model => reply (some model)
      | none => .raised

/-- What is left after an insertion that may raise. -/
def saved (outcome : Option (List Record)) (put : List Record → Grants) (grants : Grants) :
    Reply × Grants :=
  match outcome with
  | some records => (.done, put records)
  | none => (.raised, grants)

/-! ### `SqlStorage` -/

/-- SQLite has no flags of its own. -/
def bindValue : Value → Value
  | .bool flag => .int (if flag then 1 else 0)
  | value => value

/-- `_dump`: each field as it is bound to its column. -/
def boundRow (fields : Record) : Record := fields.map fun field => (field.1, bindValue field.2)

/-- `UPDATE ... SET changes WHERE condition`. -/
def sqlUpdate (rows : List Record) (condition : Condition) (changes : Record) :
    Nat × List Record :=
  update rows condition (boundRow changes)

/-- `column = :value`, the value as it is bound. -/
def column (name : String) (value : Value) : Condition := .equals name (bindValue value)

def sqlCall (scan : Scan) (grants : Grants) : GrantCall → Reply × Grants
  | .saveToken token =>
      saved (insert grants.tokens ["id", "access_token"] (boundRow (tokenFields token)))
        (fun records => { grants with tokens := records }) grants
  | .getTokenByAccessToken accessToken =>
      (loaded loadToken .token (scan.first grants.tokens
        (column "access_token" (.text accessToken)).holds), grants)
  | .getTokenByRefreshToken refreshToken =>
      (loaded loadToken .token (scan.first grants.tokens
        (column "refresh_token" (.text refreshToken)).holds), grants)
  | .getTokenById tokenId =>
      (loaded loadToken .token (scan.first grants.tokens (column "id" (.text tokenId)).holds),
        grants)
  | .revokeToken token =>
      (.done, { grants with
        tokens := (sqlUpdate grants.tokens
          (.either (column "access_token" (.text token)) (column "refresh_token" (.text token)))
          [("revoked", .bool true)]).2 })
  | .revokeTokenFamily family =>
      let (rowcount, tokens) := sqlUpdate grants.tokens (column "token_family" (.text family))
        [("revoked", .bool true)]
      (.count rowcount, { grants with tokens := tokens })
  | .revokeTokensByUserId userId =>
      let (rowcount, tokens) := sqlUpdate grants.tokens
        (.both (column "user_id" (.text userId)) (column "revoked" (.bool false)))
        [("revoked", .bool true)]
      (.count rowcount, { grants with tokens := tokens })
  | .revokeTokensByClientId clientId =>
      let (rowcount, tokens) := sqlUpdate grants.tokens
        (.both (column "client_id" (.text clientId)) (column "revoked" (.bool false)))
        [("revoked", .bool true)]
      (.count rowcount, { grants with tokens := tokens })
  | .saveAuthorizationCode code =>
      saved (insert grants.codes ["id", "code"] (boundRow (codeFields code)))
        (fun records => { grants with codes := records }) grants
  | .getAuthorizationCode code =>
      (loaded loadCode .code (scan.first grants.codes (column "code" (.text code)).holds), grants)
  | .getAuthorizationCodeByTokenFamily family =>
      (loaded loadCode .code (scan.first grants.codes (column "token_family" (.text family)).holds),
        grants)
  | .markAuthorizationCodeUsed code =>
      let (rowcount, codes) := sqlUpdate grants.codes
        (.both (column "code" (.text code)) (column "used" (.bool false))) [("used", .bool true)]
      (.count rowcount, { grants with codes := codes })
  | .saveDeviceAuthorization device =>
      saved (insert grants.devices ["id", "device_code", "user_code"] (boundRow (deviceFields device)))
        (fun records => { grants with devices := records }) grants
  | .getDeviceAuthorizationByDeviceCode deviceCode =>
      (loaded loadDevice .device (scan.first grants.devices
        (column "device_code" (.text deviceCode)).holds), grants)
  | .getDeviceAuthorizationByUserCode userCode =>
      (loaded loadDevice .device (scan.first grants.devices
        (column "user_code" (.text userCode)).holds), grants)
  | .approveDeviceAuthorization userCode userId =>
      (.done, { grants with
        devices := (sqlUpdate grants.devices (column "user_code" (.text userCode))
          [("approved", .bool true), ("denied", .bool false), ("user_id", .text userId)]).2 })
  | .denyDeviceAuthorization userCode =>
      (.done, { grants with
        devices := (sqlUpdate grants.devices (column "user_code" (.text userCode))
          [("denied", .bool true), ("approved", .bool false)]).2 })
  | .markDeviceAuthorizationUsed deviceCode =>
      let (rowcount, devices) := sqlUpdate grants.devices
        (.both (column "device_code" (.text deviceCode)) (column "used" (.bool false)))
        [("used", .bool true)]
      (.count rowcount, { grants with devices := devices })
  | .expireDeviceAuthorization deviceCode now =>
      (.done, { grants with
        devices := (sqlUpdate grants.devices (column "device_code" (.text deviceCode))
          [("expires_at", .time (now - seconds 1))]).2 })

/-! ### `MongoStorage` -/

def tokenOmitted : List String := ["refresh_token", "token_family"]

def codeOmitted : List String :=
  ["code_challenge", "code_challenge_method", "nonce", "resource", "authorization_details",
    "claims_request", "token_family"]

def tokenDoc (token : Token) : Record := omitNone tokenOmitted (tokenFields token)

def codeDoc (code : AuthorizationCode) : Record := omitNone codeOmitted (codeFields code)

def deviceDoc (device : DeviceAuthorization) : Record := omitNone [] (deviceFields device)

/-- `1 if doc is not None else 0`. -/
def claimed (found : Option Nat) : Reply := .count (if found.isSome then 1 else 0)

def mongoCall (scan : Scan) (grants : Grants) : GrantCall → Reply × Grants
  | .saveToken token =>
      saved (insertOne grants.tokens ["access_token"] (tokenDoc token))
        (fun records => { grants with tokens := records }) grants
  | .getTokenByAccessToken accessToken =>
      (loaded loadToken .token (scan.first grants.tokens
        (Filter.selects · (.field "access_token" (.text accessToken)))), grants)
  | .getTokenByRefreshToken refreshToken =>
      (loaded loadToken .token (scan.first grants.tokens
        (Filter.selects · (.field "refresh_token" (.text refreshToken)))), grants)
  | .getTokenById tokenId =>
      (loaded loadToken .token (scan.first grants.tokens
        (Filter.selects · (.field "id" (.text tokenId)))), grants)
  | .revokeToken token =>
      (.done, { grants with
        tokens := (updateMany grants.tokens
          (.any (.field "access_token" (.text token)) (.field "refresh_token" (.text token)))
          [("revoked", .bool true)]).2 })
  | .revokeTokenFamily family =>
      let (modified, tokens) := updateMany grants.tokens (.field "token_family" (.text family))
        [("revoked", .bool true)]
      (.count modified, { grants with tokens := tokens })
  | .revokeTokensByUserId userId =>
      let (modified, tokens) := updateMany grants.tokens
        (.all (.field "user_id" (.text userId)) (.field "revoked" (.bool false)))
        [("revoked", .bool true)]
      (.count modified, { grants with tokens := tokens })
  | .revokeTokensByClientId clientId =>
      let (modified, tokens) := updateMany grants.tokens
        (.all (.field "client_id" (.text clientId)) (.field "revoked" (.bool false)))
        [("revoked", .bool true)]
      (.count modified, { grants with tokens := tokens })
  | .saveAuthorizationCode code =>
      saved (insertOne grants.codes ["code"] (codeDoc code))
        (fun records => { grants with codes := records }) grants
  | .getAuthorizationCode code =>
      (loaded loadCode .code (scan.first grants.codes
        (Filter.selects · (.field "code" (.text code)))), grants)
  | .getAuthorizationCodeByTokenFamily family =>
      (loaded loadCode .code (scan.first grants.codes
        (Filter.selects · (.field "token_family" (.text family)))), grants)
  | .markAuthorizationCodeUsed code =>
      let filter := Filter.all (.field "code" (.text code)) (.field "used" (.bool false))
      (claimed (scan.position grants.codes (Filter.selects · filter)),
        { grants with
          codes := scan.updateOne grants.codes (Filter.selects · filter)
            (setFields [("used", .bool true)]) })
  | .saveDeviceAuthorization device =>
      saved (insertOne grants.devices ["device_code", "user_code"] (deviceDoc device))
        (fun records => { grants with devices := records }) grants
  | .getDeviceAuthorizationByDeviceCode deviceCode =>
      (loaded loadDevice .device (scan.first grants.devices
        (Filter.selects · (.field "device_code" (.text deviceCode)))), grants)
  | .getDeviceAuthorizationByUserCode userCode =>
      (loaded loadDevice .device (scan.first grants.devices
        (Filter.selects · (.field "user_code" (.text userCode)))), grants)
  | .approveDeviceAuthorization userCode userId =>
      (.done, { grants with
        devices := scan.updateOne grants.devices
          (Filter.selects · (.field "user_code" (.text userCode)))
          (setFields [("approved", .bool true), ("denied", .bool false),
            ("user_id", .text userId)]) })
  | .denyDeviceAuthorization userCode =>
      (.done, { grants with
        devices := scan.updateOne grants.devices
          (Filter.selects · (.field "user_code" (.text userCode)))
          (setFields [("denied", .bool true), ("approved", .bool false)]) })
  | .markDeviceAuthorizationUsed deviceCode =>
      let filter := Filter.all (.field "device_code" (.text deviceCode)) (.field "used" (.bool false))
      (claimed (scan.position grants.devices (Filter.selects · filter)),
        { grants with
          devices := scan.updateOne grants.devices (Filter.selects · filter)
            (setFields [("used", .bool true)]) })
  | .expireDeviceAuthorization deviceCode now =>
      (.done, { grants with
        devices := scan.updateOne grants.devices
          (Filter.selects · (.field "device_code" (.text deviceCode)))
          (setFields [("expires_at", .time (now - seconds 1))]) })

/-! ### Runs -/

/-- The replies to a sequence of calls. -/
def replies (call : Grants → GrantCall → Reply × Grants) : Grants → List GrantCall → List Reply
  | _, [] => []
  | grants, next :: rest =>
      let (reply, later) := call grants next
      reply :: replies call later rest

end OAuth2Server.GrantStores
