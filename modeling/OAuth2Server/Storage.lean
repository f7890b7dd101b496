import OAuth2Server.Models
import OAuth2Server.Tables

/-!
# The store and its two backends

Every storage method is one atomic operation. The SQL backend (SQLite, foreign
keys not enforced) rewrites every row of an `UPDATE ... WHERE` and reports the
row count; the Mongo backend rewrites the first matching document, or counts
the modified ones. The audit log is not modelled: nothing reads it back.
-/

namespace OAuth2Server.Storage

open OAuth2Server Models Tables

set_option autoImplicit false

inductive Backend where
  | sql
  | mongo
  deriving DecidableEq, Repr

/-- `IntegrityError`, or Mongo's `OAuthError("invalid_request", "duplicate key")`. -/
inductive StorageError where
  | duplicateKey
  deriving DecidableEq, Repr

/-- The tables with the unique indexes both backends keep. -/
structure Store where
  clients : Table Client [Client.clientId]
  users : List User
  tokens : Table Token [Token.accessToken]
  codes : Table AuthorizationCode [AuthorizationCode.code]
  devices : Table DeviceAuthorization
    [DeviceAuthorization.deviceCode, DeviceAuthorization.userCode]
  trustedIssuers : List TrustedIssuer
  denylist : List DenylistEntry

def Store.empty : Store where
  clients := .empty
  users := []
  tokens := .empty
  codes := .empty
  devices := .empty
  trustedIssuers := []
  denylist := []

/-! ### Reads -/

inductive Query where
  | getClient (clientId : String)
  | listAllClients
  | getUserById (userId : String)
  | getUserByUsername (username : String)
  | getUsersByEmail (folded : String)
  | getTokenByAccessToken (accessToken : String)
  | getTokenByRefreshToken (refreshToken : String)
  | getTokenById (tokenId : String)
  | getAuthorizationCode (code : String)
  | getAuthorizationCodeByTokenFamily (family : String)
  | getDeviceAuthorizationByDeviceCode (deviceCode : String)
  | getDeviceAuthorizationByUserCode (userCode : String)
  | getTrustedIssuer (issuer : String)
  | findDenylistEntry (kind value : String)
  deriving DecidableEq

@[reducible] def Query.Ans : Query → Type
  | .getClient _ => Option Client
  | .listAllClients => List Client
  | .getUserById _ => Option User
  | .getUserByUsername _ => Option User
  | .getUsersByEmail _ => List User
  | .getTokenByAccessToken _ => Option Token
  | .getTokenByRefreshToken _ => Option Token
  | .getTokenById _ => Option Token
  | .getAuthorizationCode _ => Option AuthorizationCode
  | .getAuthorizationCodeByTokenFamily _ => Option AuthorizationCode
  | .getDeviceAuthorizationByDeviceCode _ => Option DeviceAuthorization
  | .getDeviceAuthorizationByUserCode _ => Option DeviceAuthorization
  | .getTrustedIssuer _ => Option TrustedIssuer
  | .findDenylistEntry _ _ => Option DenylistEntry

/-- SQLite's `trim()`: spaces only. -/
def sqlTrim (text : String) : String :=
  String.ofList ((text.toList.dropWhile (· == ' ')).reverse.dropWhile (· == ' ')).reverse

/-- The `\s*` at both ends of Mongo's pattern: ASCII whitespace. -/
def regexTrim (text : String) : String :=
  let white := fun char : Char => char == ' ' || (9 ≤ char.toNat && char.toNat ≤ 13)
  String.ofList ((text.toList.dropWhile white).reverse.dropWhile white).reverse

/-- The candidate rows of `get_users_by_email`. The database folds ASCII case
only, and trims what its own whitespace class covers. -/
def emailMatches (backend : Backend) (folded : String) (user : User) : Bool :=
  match backend with
  | .sql => Text.lower (sqlTrim user.email) == folded
  | .mongo => Text.lower (regexTrim user.email) == Text.lower folded

def Query.eval (backend : Backend) (store : Store) : (query : Query) → query.Ans
  | .getClient clientId => store.clients.first (·.clientId == clientId)
  | .listAllClients =>
      store.clients.rows.mergeSort fun left right => right.createdAt ≤ left.createdAt
  | .getUserById userId => store.users.find? (·.id == userId)
  | .getUserByUsername username => store.users.find? (·.username == username)
  | .getUsersByEmail folded => store.users.filter (emailMatches backend folded)
  | .getTokenByAccessToken accessToken => store.tokens.first (·.accessToken == accessToken)
  | .getTokenByRefreshToken refreshToken =>
      store.tokens.first (·.refreshToken == some refreshToken)
  | .getTokenById tokenId => store.tokens.first (·.id == tokenId)
  | .getAuthorizationCode code => store.codes.first (·.code == code)
  | .getAuthorizationCodeByTokenFamily family =>
      store.codes.first (·.tokenFamily == some family)
  | .getDeviceAuthorizationByDeviceCode deviceCode =>
      store.devices.first (·.deviceCode == deviceCode)
  | .getDeviceAuthorizationByUserCode userCode => store.devices.first (·.userCode == userCode)
  | .getTrustedIssuer issuer => store.trustedIssuers.find? (·.issuer == issuer)
  | .findDenylistEntry kind value =>
      store.denylist.find? fun entry => entry.kind == kind && entry.value == value

/-! ### Writes -/

inductive Command where
  | saveClient (client : Client)
  | updateClient (client : Client)
  | deleteClient (clientId : String)
  | setClientEnabled (clientId : String) (enabled : Bool) (now : Instant)
  | setClientSecret (clientId : String) (clientSecret : String) (now : Instant)
  | saveUser (user : User)
  | updateUser (user : User)
  | deleteUser (userId : String)
  | setUserEnabled (userId : String) (enabled : Bool) (now : Instant)
  | setUserRole (userId : String) (role : String) (now : Instant)
  | setUserPasswordHash (userId : String) (passwordHash : String) (now : Instant)
  | saveToken (token : Token)
  | revokeToken (token : String)
  | revokeTokenFamily (family : String)
  | revokeTokensByUserId (userId : String)
  | revokeTokensByClientId (clientId : String)
  | saveAuthorizationCode (code : AuthorizationCode)
  | markAuthorizationCodeUsed (code : String)
  | saveDeviceAuthorization (device : DeviceAuthorization)
  | approveDeviceAuthorization (userCode : String) (userId : String)
  | denyDeviceAuthorization (userCode : String)
  | markDeviceAuthorizationUsed (deviceCode : String)
  | expireDeviceAuthorization (deviceCode : String) (now : Instant)
  | saveTrustedIssuer (issuer : TrustedIssuer)
  | addDenylistEntry (entry : DenylistEntry)
  | removeDenylistEntry (entryId : String)
  deriving DecidableEq

@[reducible] def Command.Ans : Command → Type
  | .saveClient _ => Except StorageError Unit
  | .saveUser _ => Except StorageError Unit
  | .updateUser _ => Except StorageError Unit
  | .saveToken _ => Except StorageError Unit
  | .saveAuthorizationCode _ => Except StorageError Unit
  | .saveDeviceAuthorization _ => Except StorageError Unit
  | .revokeTokenFamily _ => Nat
  | .revokeTokensByUserId _ => Nat
  | .revokeTokensByClientId _ => Nat
  | .markAuthorizationCodeUsed _ => Nat
  | .markDeviceAuthorizationUsed _ => Nat
  | _ => Unit

/-- Sets `revoked` on the rows that match. -/
def revokeWhere (tokens : Table Token [Token.accessToken]) (matching : Token → Bool) :
    Table Token [Token.accessToken] :=
  tokens.updateAll matching (fun row => { row with revoked := true }) (by simp)

/-- `UPDATE ... WHERE` rewrites every matching row, `update_one` and
`find_one_and_update` the first. -/
def Backend.update {Row : Type} {indexes : List (Row → String)} (backend : Backend)
    (table : Table Row indexes) (matching : Row → Bool) (change : Row → Row)
    (keeps : ∀ index ∈ indexes, ∀ row, matching row = true → index (change row) = index row) :
    Table Row indexes :=
  match backend with
  | .sql => table.updateAll matching change keeps
  | .mongo => table.updateFirst matching change keeps

/-- The row count of a guarded `UPDATE`, or whether `find_one_and_update` found
a document. -/
def Backend.affected {Row : Type} {indexes : List (Row → String)} (backend : Backend)
    (table : Table Row indexes) (matching : Row → Bool) : Nat :=
  match backend with
  | .sql => table.count matching
  | .mongo => if (table.first matching).isSome then 1 else 0

/-- Rewrites the user rows under `userId`: all of them, or Mongo's first. -/
def changeUser (backend : Backend) (users : List User) (userId : String) (change : User → User) :
    List User :=
  match backend with
  | .sql => users.map fun row => if row.id == userId then change row else row
  | .mongo => Table.changeFirst (·.id == userId) change users

/-- `updated_at` is written by the Mongo backend only. -/
def touched (backend : Backend) (now before : Instant) : Instant :=
  match backend with
  | .sql => before
  | .mongo => now

/-- `UPDATE clients SET ...` writes the listed columns; `replace_one` writes the
whole document. The difference is `require_state` and `created_at`. -/
def updatedClient (backend : Backend) (client row : Client) : Client :=
  match backend with
  | .sql =>
      { client with
        id := row.id
        clientId := row.clientId
        createdAt := row.createdAt
        requireState := row.requireState }
  | .mongo => { client with clientId := row.clientId }

/-- Whether an insertion meets a primary key; Mongo documents have none on `id`. -/
def idTaken {Row : Type} (backend : Backend) (rows : List Row) (id : Row → String) (row : Row) :
    Bool :=
  match backend with
  | .sql => (rows.map id).contains (id row)
  | .mongo => false

/-- An insertion into a table with unique indexes. -/
def inserted {Row : Type} {indexes : List (Row → String)} (backend : Backend)
    (table : Table Row indexes) (id : Row → String) (row : Row) (put : Table Row indexes → Store)
    (store : Store) : Except StorageError Unit × Store :=
  if idTaken backend table.rows id row then (.error .duplicateKey, store)
  else
    match table.insert row with
    | some table => (.ok (), put table)
    | none => (.error .duplicateKey, store)

/-- `UPDATE users SET ...` refuses a username another row holds. -/
def usernameTaken (users : List User) (user : User) : Bool :=
  users.any fun row => row.id != user.id && row.username == user.username

/-- `modified_count` leaves out the documents that were revoked already. -/
def revokedCount (backend : Backend) (tokens : Table Token [Token.accessToken])
    (matching : Token → Bool) : Nat :=
  match backend with
  | .sql => tokens.count matching
  | .mongo => tokens.count fun row => matching row && !row.revoked

/-- Inserts a row, or replaces the first row with the same key. -/
def upsert {Row : Type} (same : Row → Row → Bool) (merge : Row → Row → Row) (row : Row)
    (rows : List Row) : List Row :=
  if rows.any (same row) then Table.changeFirst (same row) (merge row) rows else rows ++ [row]

def Command.exec (backend : Backend) (store : Store) : (command : Command) → command.Ans × Store
  | .saveClient client =>
      inserted backend store.clients Client.id client
        (fun table => { store with clients := table }) store
  | .updateClient client =>
      ((), { store with
        clients := backend.update store.clients (·.clientId == client.clientId)
          (updatedClient backend client) (by cases backend <;> simp [updatedClient]) })
  | .deleteClient clientId =>
      ((), { store with
        clients := match backend with
          | .sql => store.clients.deleteAll (·.clientId == clientId)
          | .mongo => store.clients.deleteFirst (·.clientId == clientId) })
  | .setClientEnabled clientId enabled now =>
      ((), { store with
        clients := backend.update store.clients (·.clientId == clientId)
          (fun row =>
            { row with enabled := enabled, updatedAt := touched backend now row.updatedAt })
          (by simp) })
  | .setClientSecret clientId clientSecret now =>
      ((), { store with
        clients := backend.update store.clients (·.clientId == clientId)
          (fun row =>
            { row with clientSecret := clientSecret, updatedAt := touched backend now row.updatedAt })
          (by simp) })
  | .saveUser user =>
      if idTaken backend store.users User.id user ||
          store.users.any (·.username == user.username) then
        (.error .duplicateKey, store)
      else (.ok (), { store with users := store.users ++ [user] })
  | .updateUser user =>
      if usernameTaken store.users user then (.error .duplicateKey, store)
      else
        (.ok (), { store with
          users := changeUser backend store.users user.id fun row =>
            { row with
              username := user.username
              email := user.email
              enabled := user.enabled
              role := user.role
              passwordHash := user.passwordHash
              updatedAt := user.updatedAt } })
  | .deleteUser userId =>
      match backend with
      | .sql =>
          -- The tokens are unlinked and revoked in the same transaction.
          ((), { store with
            users := store.users.filter (·.id != userId)
            tokens := store.tokens.updateAll (·.userId == some userId)
              (fun row => { row with revoked := true, userId := none }) (by simp) })
      | .mongo => ((), { store with users := store.users.eraseP (·.id == userId) })
  | .setUserEnabled userId enabled now =>
      ((), { store with
        users := changeUser backend store.users userId fun row =>
          { row with enabled := enabled, updatedAt := touched backend now row.updatedAt } })
  | .setUserRole userId role now =>
      ((), { store with
        users := changeUser backend store.users userId fun row =>
          { row with role := role, updatedAt := touched backend now row.updatedAt } })
  | .setUserPasswordHash userId passwordHash now =>
      ((), { store with
        users := changeUser backend store.users userId fun row =>
          { row with
            passwordHash := passwordHash
            updatedAt := touched backend now row.updatedAt } })
  | .saveToken token =>
      inserted backend store.tokens Token.id token
        (fun table => { store with tokens := table }) store
  | .revokeToken token =>
      ((), { store with
        tokens := revokeWhere store.tokens fun row =>
          row.accessToken == token || row.refreshToken == some token })
  | .revokeTokenFamily family =>
      let matching := fun row : Token => row.tokenFamily == some family
      (revokedCount backend store.tokens matching,
        { store with tokens := revokeWhere store.tokens matching })
  | .revokeTokensByUserId userId =>
      let matching := fun row : Token => row.userId == some userId && !row.revoked
      (store.tokens.count matching, { store with tokens := revokeWhere store.tokens matching })
  | .revokeTokensByClientId clientId =>
      let matching := fun row : Token => row.clientId == clientId && !row.revoked
      (store.tokens.count matching, { store with tokens := revokeWhere store.tokens matching })
  | .saveAuthorizationCode code =>
      inserted backend store.codes AuthorizationCode.id code
        (fun table => { store with codes := table }) store
  | .markAuthorizationCodeUsed code =>
      let matching := fun row : AuthorizationCode => row.code == code && !row.used
      (backend.affected store.codes matching,
        { store with
          codes := backend.update store.codes matching
            (fun row => { row with used := true }) (by simp) })
  | .saveDeviceAuthorization device =>
      inserted backend store.devices DeviceAuthorization.id device
        (fun table => { store with devices := table }) store
  | .approveDeviceAuthorization userCode userId =>
      ((), { store with
        devices := backend.update store.devices (·.userCode == userCode)
          (fun row => { row with approved := true, denied := false, userId := some userId })
          (by simp) })
  | .denyDeviceAuthorization userCode =>
      ((), { store with
        devices := backend.update store.devices (·.userCode == userCode)
          (fun row => { row with denied := true, approved := false }) (by simp) })
  | .markDeviceAuthorizationUsed deviceCode =>
      let matching := fun row : DeviceAuthorization => row.deviceCode == deviceCode && !row.used
      (backend.affected store.devices matching,
        { store with
          devices := backend.update store.devices matching
            (fun row => { row with used := true }) (by simp) })
  | .expireDeviceAuthorization deviceCode now =>
      ((), { store with
        devices := backend.update store.devices (·.deviceCode == deviceCode)
          (fun row => { row with expiresAt := now - seconds 1 }) (by simp) })
  | .saveTrustedIssuer issuer =>
      ((), { store with
        trustedIssuers := upsert (fun new row => row.issuer == new.issuer)
          (fun new row => { new with id := row.id, createdAt := row.createdAt }) issuer
          store.trustedIssuers })
  | .addDenylistEntry entry =>
      ((), { store with
        denylist := upsert (fun new row => row.kind == new.kind && row.value == new.value)
          (fun new row => { new with id := row.id, createdAt := row.createdAt }) entry
          store.denylist })
  | .removeDenylistEntry entryId =>
      ((), { store with
        denylist := match backend with
          | .sql => store.denylist.filter (·.id != entryId)
          | .mongo => store.denylist.eraseP (·.id == entryId) })

end OAuth2Server.Storage
