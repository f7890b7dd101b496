import OAuth2Server.GrantStores
import OAuth2Server.Backends

/-!
# Both backends answer alike on grants

The tables of `SqlStorage` and the collections of `MongoStorage` both mirror the
typed store: each record is the encoding of a row, and each statement does to the
records what the storage model does to the rows. As long as the saved rows are
distinct the two typed stores stay equal, and so do the answers.
-/

namespace OAuth2Server.BackendEquivalence

open OAuth2Server Models Tables Storage Backends Records GrantStores

set_option autoImplicit false

/-! ### Records read back as the models they encode -/

section Encodings

theorem lookup_bound (fields : Record) (name : String) :
    (boundRow fields).lookup name = (fields.lookup name).map bindValue := by
  induction fields with
  | nil => rfl
  | cons field rest induction =>
      obtain ⟨key, value⟩ := field
      by_cases here : name = key
      · subst here
        simp [boundRow]
      · have differs : (name == key) = false := by simpa using here
        simpa [boundRow, List.lookup_cons, differs] using induction

theorem argument_bound {α : Type} (fields : Record) (name : String) (read : Value → Option α)
    (default : Option α) (reads : ∀ value, read (bindValue value) = read value) :
    argument (boundRow fields) name read default = argument fields name read default := by
  unfold argument
  rw [lookup_bound]
  cases fields.lookup name with
  | none => rfl
  | some value => exact reads value

theorem read_text_bind (value : Value) : readText (bindValue value) = readText value := by
  cases value <;> rfl

theorem read_optional_bind (value : Value) : readOptional (bindValue value) = readOptional value := by
  cases value <;> rfl

theorem read_int_bind (value : Value) : readInt (bindValue value) = readInt value := by
  cases value <;> rfl

theorem read_bool_bind (value : Value) : readBool (bindValue value) = readBool value := by
  cases value with
  | bool flag => cases flag <;> rfl
  | _ => rfl

theorem read_time_bind (value : Value) : readTime (bindValue value) = readTime value := by
  cases value <;> rfl

theorem read_optional (value : Option String) : readOptional (optionalText value) = some value := by
  cases value <;> rfl

variable {names : List String} {fields : Record} {name : String}

theorem argument_kept {α : Type} (distinct : (fields.map Prod.fst).Nodup) (kept : name ∉ names)
    (read : Value → Option α) (default : Option α) :
    argument (omitNone names fields) name read default = argument fields name read default := by
  unfold argument
  rw [lookup_kept distinct kept]

/-- An optional field that was left out reads as `None`. -/
theorem argument_omitted (distinct : (fields.map Prod.fst).Nodup) :
    argument (omitNone names fields) name readOptional (some none) =
      argument fields name readOptional (some none) := by
  have through : ∀ record : Record, argument record name readOptional (some none) =
      readOptional ((record.lookup name).getD .null) := by
    intro record
    unfold argument
    cases record.lookup name <;> rfl
  rw [through, through, lookup_omit names name distinct]

end Encodings

theorem token_keys (token : Token) : ((tokenFields token).map Prod.fst).Nodup := by
  simp [tokenFields]

theorem code_keys (code : AuthorizationCode) : ((codeFields code).map Prod.fst).Nodup := by
  simp [codeFields]

theorem device_keys (device : DeviceAuthorization) :
    ((deviceFields device).map Prod.fst).Nodup := by
  simp [deviceFields]

theorem load_token_fields (token : Token) : loadToken (tokenFields token) = some token := by
  change (do
    let refreshToken ← readOptional (optionalText token.refreshToken)
    let userId ← readOptional (optionalText token.userId)
    let tokenFamily ← readOptional (optionalText token.tokenFamily)
    pure { token with refreshToken, userId, tokenFamily } : Option Token) = some token
  rw [read_optional, read_optional, read_optional]
  rfl

theorem load_token_row (token : Token) : loadToken (boundRow (tokenFields token)) = some token := by
  rw [← load_token_fields token]
  unfold loadToken
  simp only [argument_bound _ _ readText _ read_text_bind, argument_bound _ _ readInt _ read_int_bind,
    argument_bound _ _ readOptional _ read_optional_bind,
    argument_bound _ _ readBool _ read_bool_bind, argument_bound _ _ readTime _ read_time_bind]

theorem load_token_doc (token : Token) : loadToken (tokenDoc token) = some token := by
  rw [← load_token_fields token]
  unfold loadToken tokenDoc
  simp only [argument_omitted (token_keys token)]
  simp only [argument_kept (token_keys token) (by decide : "id" ∉ tokenOmitted),
    argument_kept (token_keys token) (by decide : "access_token" ∉ tokenOmitted),
    argument_kept (token_keys token) (by decide : "token_type" ∉ tokenOmitted),
    argument_kept (token_keys token) (by decide : "expires_in" ∉ tokenOmitted),
    argument_kept (token_keys token) (by decide : "scope" ∉ tokenOmitted),
    argument_kept (token_keys token) (by decide : "client_id" ∉ tokenOmitted),
    argument_kept (token_keys token) (by decide : "created_at" ∉ tokenOmitted),
    argument_kept (token_keys token) (by decide : "expires_at" ∉ tokenOmitted),
    argument_kept (token_keys token) (by decide : "revoked" ∉ tokenOmitted)]

theorem load_code_fields (code : AuthorizationCode) : loadCode (codeFields code) = some code := by
  change (do
    let codeChallenge ← readOptional (optionalText code.codeChallenge)
    let codeChallengeMethod ← readOptional (optionalText code.codeChallengeMethod)
    let nonce ← readOptional (optionalText code.nonce)
    let resource ← readOptional (optionalText code.resource)
    let authorizationDetails ← readOptional (optionalText code.authorizationDetails)
    let claimsRequest ← readOptional (optionalText code.claimsRequest)
    let tokenFamily ← readOptional (optionalText code.tokenFamily)
    let dpopJkt ← readOptional (optionalText code.dpopJkt)
    pure
      { code with
        codeChallenge, codeChallengeMethod, nonce, resource, authorizationDetails, claimsRequest,
        tokenFamily, dpopJkt } : Option AuthorizationCode) = some code
  simp only [read_optional]
  rfl

theorem load_code_row (code : AuthorizationCode) :
    loadCode (boundRow (codeFields code)) = some code := by
  rw [← load_code_fields code]
  unfold loadCode
  simp only [argument_bound _ _ readText _ read_text_bind,
    argument_bound _ _ readOptional _ read_optional_bind,
    argument_bound _ _ readBool _ read_bool_bind, argument_bound _ _ readTime _ read_time_bind]

theorem load_code_doc (code : AuthorizationCode) : loadCode (codeDoc code) = some code := by
  rw [← load_code_fields code]
  unfold loadCode codeDoc
  simp only [argument_omitted (code_keys code)]
  simp only [argument_kept (code_keys code) (by decide : "id" ∉ codeOmitted),
    argument_kept (code_keys code) (by decide : "code" ∉ codeOmitted),
    argument_kept (code_keys code) (by decide : "client_id" ∉ codeOmitted),
    argument_kept (code_keys code) (by decide : "user_id" ∉ codeOmitted),
    argument_kept (code_keys code) (by decide : "redirect_uri" ∉ codeOmitted),
    argument_kept (code_keys code) (by decide : "scope" ∉ codeOmitted),
    argument_kept (code_keys code) (by decide : "created_at" ∉ codeOmitted),
    argument_kept (code_keys code) (by decide : "expires_at" ∉ codeOmitted),
    argument_kept (code_keys code) (by decide : "used" ∉ codeOmitted)]

theorem device_doc_eq (device : DeviceAuthorization) : deviceDoc device = deviceFields device := by
  unfold deviceDoc omitNone
  rw [List.filter_eq_self]
  intro field member
  rfl

theorem load_device_fields (device : DeviceAuthorization) :
    loadDevice (deviceFields device) = some device := by
  change (do
    let userId ← readOptional (optionalText device.userId)
    pure { device with userId } : Option DeviceAuthorization) = some device
  rw [read_optional]
  rfl

theorem load_device_row (device : DeviceAuthorization) :
    loadDevice (boundRow (deviceFields device)) = some device := by
  rw [← load_device_fields device]
  unfold loadDevice
  simp only [argument_bound _ _ readText _ read_text_bind, argument_bound _ _ readInt _ read_int_bind,
    argument_bound _ _ readOptional _ read_optional_bind,
    argument_bound _ _ readBool _ read_bool_bind, argument_bound _ _ readTime _ read_time_bind]

theorem load_device_doc (device : DeviceAuthorization) :
    loadDevice (deviceDoc device) = some device := by
  rw [device_doc_eq]
  exact load_device_fields device

/-! ### Conditions and filters -/

section Conditions

variable {row document : Record} {name content : String}

theorem text_column {stored : String} (stores : row.lookup name = some (.text stored)) :
    (column name (.text content)).holds row = (stored == content) := by
  simp only [Condition.holds, column, Condition.truth, stores, bindValue]
  by_cases same : stored = content <;> simp [same]

/-- `NULL` matches no text. -/
theorem optional_column {stored : Option String}
    (stores : row.lookup name = some (bindValue (optionalText stored))) :
    (column name (.text content)).holds row = (stored == some content) := by
  cases stored with
  | none => simp [Condition.holds, column, Condition.truth, stores, optionalText, bindValue]
  | some text =>
      rw [text_column stores]
      simp

theorem flag_column {flag : Bool} (stores : row.lookup name = some (bindValue (.bool flag))) :
    (column name (.bool false)).holds row = !flag := by
  cases flag <;> simp [Condition.holds, column, Condition.truth, stores, bindValue]

theorem either_holds (left right : Condition) :
    (Condition.either left right).holds row = (left.holds row || right.holds row) := by
  unfold Condition.holds
  rw [Condition.truth]
  rcases left.truth row with _ | _ | _ <;> rcases right.truth row with _ | _ | _ <;> rfl

theorem both_holds (left right : Condition) :
    (Condition.both left right).holds row = (left.holds row && right.holds row) := by
  unfold Condition.holds
  rw [Condition.truth]
  rcases left.truth row with _ | _ | _ <;> rcases right.truth row with _ | _ | _ <;> rfl

theorem text_field {stored : String}
    (written : (document.lookup name).getD .null = .text stored) :
    (Filter.field name (.text content)).selects document = (stored == content) := by
  simp only [Filter.selects, written]
  by_cases same : stored = content <;> simp [same]

/-- Neither a missing field nor `null` matches a text. -/
theorem optional_field {stored : Option String}
    (written : (document.lookup name).getD .null = optionalText stored) :
    (Filter.field name (.text content)).selects document = (stored == some content) := by
  cases stored with
  | none => simp [Filter.selects, written, optionalText]
  | some text =>
      rw [text_field written]
      simp

theorem flag_field {flag : Bool} (written : (document.lookup name).getD .null = .bool flag) :
    (Filter.field name (.bool false)).selects document = !flag := by
  cases flag <;> simp [Filter.selects, written]

end Conditions

theorem token_doc_lookup (token : Token) (name : String) :
    ((tokenDoc token).lookup name).getD .null = ((tokenFields token).lookup name).getD .null :=
  lookup_omit tokenOmitted name (token_keys token)

theorem code_doc_lookup (code : AuthorizationCode) (name : String) :
    ((codeDoc code).lookup name).getD .null = ((codeFields code).lookup name).getD .null :=
  lookup_omit codeOmitted name (code_keys code)

theorem device_doc_lookup (device : DeviceAuthorization) (name : String) :
    ((deviceDoc device).lookup name).getD .null = ((deviceFields device).lookup name).getD .null :=
  lookup_omit [] name (device_keys device)

/-! ### Changes -/

theorem revoke_row (token : Token) :
    setColumns (boundRow [("revoked", .bool true)]) (boundRow (tokenFields token)) =
      boundRow (tokenFields { token with revoked := true }) := rfl

theorem revoke_doc (token : Token) :
    setFields [("revoked", .bool true)] (tokenDoc token) =
      tokenDoc { token with revoked := true } := by
  unfold tokenDoc
  rw [set_fields_omit (token_keys token) (by decide) (by simp [tokenFields])]
  rfl

/-- Revoking a document again does not modify it. -/
theorem revoke_doc_changes (token : Token) :
    (tokenDoc { token with revoked := true } != tokenDoc token) = !token.revoked := by
  cases revoked : token.revoked with
  | true =>
      have same : { token with revoked := true } = token := by
        rw [← revoked]
      simp [same]
  | false =>
      have differs : tokenDoc { token with revoked := true } ≠ tokenDoc token := by
        intro same
        have loads := load_token_doc { token with revoked := true }
        rw [same, load_token_doc, Option.some.injEq] at loads
        rw [loads] at revoked
        cases revoked
      simpa using differs

theorem spend_row (code : AuthorizationCode) :
    setColumns (boundRow [("used", .bool true)]) (boundRow (codeFields code)) =
      boundRow (codeFields { code with used := true }) := rfl

theorem spend_doc (code : AuthorizationCode) :
    setFields [("used", .bool true)] (codeDoc code) = codeDoc { code with used := true } := by
  unfold codeDoc
  rw [set_fields_omit (code_keys code) (by decide) (by simp [codeFields])]
  rfl

theorem approve_row (userId : String) (device : DeviceAuthorization) :
    setColumns (boundRow [("approved", .bool true), ("denied", .bool false),
        ("user_id", .text userId)]) (boundRow (deviceFields device)) =
      boundRow (deviceFields
        { device with approved := true, denied := false, userId := some userId }) := rfl

theorem approve_doc (userId : String) (device : DeviceAuthorization) :
    setFields [("approved", .bool true), ("denied", .bool false), ("user_id", .text userId)]
        (deviceDoc device) =
      deviceDoc { device with approved := true, denied := false, userId := some userId } := by
  unfold deviceDoc
  rw [set_fields_omit (device_keys device) (by simp) (by simp [deviceFields])]
  rfl

theorem deny_row (device : DeviceAuthorization) :
    setColumns (boundRow [("denied", .bool true), ("approved", .bool false)])
        (boundRow (deviceFields device)) =
      boundRow (deviceFields { device with denied := true, approved := false }) := rfl

theorem deny_doc (device : DeviceAuthorization) :
    setFields [("denied", .bool true), ("approved", .bool false)] (deviceDoc device) =
      deviceDoc { device with denied := true, approved := false } := by
  unfold deviceDoc
  rw [set_fields_omit (device_keys device) (by simp) (by simp [deviceFields])]
  rfl

theorem use_row (device : DeviceAuthorization) :
    setColumns (boundRow [("used", .bool true)]) (boundRow (deviceFields device)) =
      boundRow (deviceFields { device with used := true }) := rfl

theorem use_doc (device : DeviceAuthorization) :
    setFields [("used", .bool true)] (deviceDoc device) =
      deviceDoc { device with used := true } := by
  unfold deviceDoc
  rw [set_fields_omit (device_keys device) (by simp) (by simp [deviceFields])]
  rfl

theorem expire_row (instant : Instant) (device : DeviceAuthorization) :
    setColumns (boundRow [("expires_at", .time instant)]) (boundRow (deviceFields device)) =
      boundRow (deviceFields { device with expiresAt := instant }) := rfl

theorem expire_doc (instant : Instant) (device : DeviceAuthorization) :
    setFields [("expires_at", .time instant)] (deviceDoc device) =
      deviceDoc { device with expiresAt := instant } := by
  unfold deviceDoc
  rw [set_fields_omit (device_keys device) (by simp) (by simp [deviceFields])]
  rfl

/-! ### The typed store -/

/-- The outcome of an insertion. -/
def insertReply (outcome : Except StorageError Unit) : Reply :=
  match outcome with
  | .ok () => .done
  | .error _ => .raised

/-- A call on the typed store. -/
def storeCall (backend : Backend) (store : Store) : GrantCall → Reply × Store
  | .saveToken token =>
      let outcome := Command.exec backend store (.saveToken token)
      (insertReply outcome.1, outcome.2)
  | .getTokenByAccessToken accessToken =>
      (.token (Query.eval backend store (.getTokenByAccessToken accessToken)), store)
  | .getTokenByRefreshToken refreshToken =>
      (.token (Query.eval backend store (.getTokenByRefreshToken refreshToken)), store)
  | .getTokenById tokenId => (.token (Query.eval backend store (.getTokenById tokenId)), store)
  | .revokeToken token => (.done, (Command.exec backend store (.revokeToken token)).2)
  | .revokeTokenFamily family =>
      let outcome := Command.exec backend store (.revokeTokenFamily family)
      (.count outcome.1, outcome.2)
  | .revokeTokensByUserId userId =>
      let outcome := Command.exec backend store (.revokeTokensByUserId userId)
      (.count outcome.1, outcome.2)
  | .revokeTokensByClientId clientId =>
      let outcome := Command.exec backend store (.revokeTokensByClientId clientId)
      (.count outcome.1, outcome.2)
  | .saveAuthorizationCode code =>
      let outcome := Command.exec backend store (.saveAuthorizationCode code)
      (insertReply outcome.1, outcome.2)
  | .getAuthorizationCode code =>
      (.code (Query.eval backend store (.getAuthorizationCode code)), store)
  | .getAuthorizationCodeByTokenFamily family =>
      (.code (Query.eval backend store (.getAuthorizationCodeByTokenFamily family)), store)
  | .markAuthorizationCodeUsed code =>
      let outcome := Command.exec backend store (.markAuthorizationCodeUsed code)
      (.count outcome.1, outcome.2)
  | .saveDeviceAuthorization device =>
      let outcome := Command.exec backend store (.saveDeviceAuthorization device)
      (insertReply outcome.1, outcome.2)
  | .getDeviceAuthorizationByDeviceCode deviceCode =>
      (.device (Query.eval backend store (.getDeviceAuthorizationByDeviceCode deviceCode)), store)
  | .getDeviceAuthorizationByUserCode userCode =>
      (.device (Query.eval backend store (.getDeviceAuthorizationByUserCode userCode)), store)
  | .approveDeviceAuthorization userCode userId =>
      (.done, (Command.exec backend store (.approveDeviceAuthorization userCode userId)).2)
  | .denyDeviceAuthorization userCode =>
      (.done, (Command.exec backend store (.denyDeviceAuthorization userCode)).2)
  | .markDeviceAuthorizationUsed deviceCode =>
      let outcome := Command.exec backend store (.markDeviceAuthorizationUsed deviceCode)
      (.count outcome.1, outcome.2)
  | .expireDeviceAuthorization deviceCode now =>
      (.done, (Command.exec backend store (.expireDeviceAuthorization deviceCode now)).2)

/-- How a backend writes the three kinds of grants. -/
structure Encoding where
  token : Token → Record
  code : AuthorizationCode → Record
  device : DeviceAuthorization → Record

def sqlEncoding : Encoding where
  token row := boundRow (tokenFields row)
  code row := boundRow (codeFields row)
  device row := boundRow (deviceFields row)

def mongoEncoding : Encoding where
  token := tokenDoc
  code := codeDoc
  device := deviceDoc

/-- The records are the encoded rows of the typed store. -/
structure Mirrors (encoding : Encoding) (store : Store) (grants : Grants) : Prop where
  tokens : grants.tokens = store.tokens.rows.map encoding.token
  codes : grants.codes = store.codes.rows.map encoding.code
  devices : grants.devices = store.devices.rows.map encoding.device

/-! ### Distinct rows -/

structure TokensDistinct (rows : List Token) : Prop where
  ids : (rows.map Token.id).Nodup
  accessTokens : (rows.map Token.accessToken).Nodup
  refreshTokens : (rows.filterMap Token.refreshToken).Nodup

structure CodesDistinct (rows : List AuthorizationCode) : Prop where
  ids : (rows.map AuthorizationCode.id).Nodup
  codes : (rows.map AuthorizationCode.code).Nodup
  families : (rows.filterMap AuthorizationCode.tokenFamily).Nodup

structure DevicesDistinct (rows : List DeviceAuthorization) : Prop where
  ids : (rows.map DeviceAuthorization.id).Nodup
  deviceCodes : (rows.map DeviceAuthorization.deviceCode).Nodup
  userCodes : (rows.map DeviceAuthorization.userCode).Nodup

def savedTokens (calls : List GrantCall) : List Token :=
  calls.filterMap fun
    | .saveToken token => some token
    | _ => none

def savedCodes (calls : List GrantCall) : List AuthorizationCode :=
  calls.filterMap fun
    | .saveAuthorizationCode code => some code
    | _ => none

def savedDevices (calls : List GrantCall) : List DeviceAuthorization :=
  calls.filterMap fun
    | .saveDeviceAuthorization device => some device
    | _ => none

/-- The rows of the store and those still to be saved are distinct. -/
structure Apart (store : Store) (calls : List GrantCall) : Prop where
  tokens : TokensDistinct (store.tokens.rows ++ savedTokens calls)
  codes : CodesDistinct (store.codes.rows ++ savedCodes calls)
  devices : DevicesDistinct (store.devices.rows ++ savedDevices calls)

section Distinct

variable {Row Key : Type} {rows rest : List Row} {row other : Row} {matching : Row → Bool}

theorem key_ne {key : Row → Key} (distinct : ((rows ++ row :: rest).map key).Nodup)
    (member : other ∈ rows) : key other ≠ key row := by
  rw [List.map_append, List.map_cons] at distinct
  intro same
  have apart := (List.nodup_append.1 distinct).2.2
  exact apart (key other) (List.mem_map_of_mem member) (key row) (by simp) same

theorem at_most_one_of_index {key : Row → Key} (wanted : Key)
    (distinct : ((rows ++ rest).map key).Nodup)
    (keyed : ∀ row, matching row = true → key row = wanted) : AtMostOne matching rows := by
  rw [List.map_append] at distinct
  refine (List.pairwise_map.1 distinct.of_append_left).imp ?_
  intro left right differs both
  exact differs ((keyed left both.1).trans (keyed right both.2).symm)

theorem at_most_one_of_optional {key : Row → Option Key} (wanted : Key)
    (distinct : ((rows ++ rest).filterMap key).Nodup)
    (keyed : ∀ row, matching row = true → key row = some wanted) : AtMostOne matching rows := by
  rw [List.filterMap_append] at distinct
  exact at_most_one_of_key distinct.of_append_left keyed

/-- A row that meets no key is inserted. -/
theorem inserted_fresh {indexes : List (Row → String)} (backend : Backend)
    (table : Table Row indexes) (id : Row → String) (row : Row) (put : Table Row indexes → Store)
    (store : Store) (ids : ∀ other ∈ table.rows, id other ≠ id row)
    (fresh : ∀ index ∈ indexes, ∀ other ∈ table.rows, index other ≠ index row) :
    ∃ grown, inserted backend table id row put store = (.ok (), put grown) ∧
      grown.rows = table.rows ++ [row] := by
  have untaken : idTaken backend table.rows id row = false := by
    cases backend with
    | sql => simpa [idTaken] using ids
    | mongo => rfl
  have admitted : table.conflicts row = false := by
    unfold Table.conflicts
    rw [List.any_eq_false]
    intro index indexed
    simpa using fresh index indexed
  unfold inserted
  rw [if_neg (by simp [untaken])]
  unfold Table.insert
  rw [dif_pos admitted]
  exact ⟨_, rfl, rfl⟩

end Distinct

variable {store : Store} {grants : Grants} {call : GrantCall} {rest : List GrantCall}

theorem save_token_accepted (backend : Backend) {token : Token}
    (apart : Apart store (.saveToken token :: rest)) :
    ∃ grown, Command.exec backend store (.saveToken token) =
        (.ok (), { store with tokens := grown }) ∧
      grown.rows = store.tokens.rows ++ [token] := by
  have distinct : TokensDistinct (store.tokens.rows ++ token :: savedTokens rest) := apart.tokens
  apply inserted_fresh
  · exact fun other => key_ne distinct.ids
  · simpa using fun other => key_ne distinct.accessTokens

theorem save_code_accepted (backend : Backend) {code : AuthorizationCode}
    (apart : Apart store (.saveAuthorizationCode code :: rest)) :
    ∃ grown, Command.exec backend store (.saveAuthorizationCode code) =
        (.ok (), { store with codes := grown }) ∧
      grown.rows = store.codes.rows ++ [code] := by
  have distinct : CodesDistinct (store.codes.rows ++ code :: savedCodes rest) := apart.codes
  apply inserted_fresh
  · exact fun other => key_ne distinct.ids
  · simpa using fun other => key_ne distinct.codes

theorem save_device_accepted (backend : Backend) {device : DeviceAuthorization}
    (apart : Apart store (.saveDeviceAuthorization device :: rest)) :
    ∃ grown, Command.exec backend store (.saveDeviceAuthorization device) =
        (.ok (), { store with devices := grown }) ∧
      grown.rows = store.devices.rows ++ [device] := by
  have distinct : DevicesDistinct (store.devices.rows ++ device :: savedDevices rest) :=
    apart.devices
  apply inserted_fresh
  · exact fun other => key_ne distinct.ids
  · simp only [List.forall_mem_cons]
    exact ⟨fun other => key_ne distinct.deviceCodes, fun other => key_ne distinct.userCodes, by simp⟩

/-! ### Calls on records -/

section Calls

variable {Model : Type} {encode : Model → Record} {models : List Model}
  {selects : Record → Bool} {matching : Model → Bool} {scan : Scan}

/-- A `get` finds the row and reads it back. -/
theorem get_encoded {load : Record → Option Model} {reply : Option Model → Reply}
    (reads : ∀ model, load (encode model) = some model)
    (agrees : ∀ model, selects (encode model) = matching model)
    (single : AtMostOne matching models) :
    loaded load reply (scan.first (models.map encode) selects) = reply (models.find? matching) := by
  rw [first_encoded agrees single]
  cases models.find? matching with
  | none => rfl
  | some model => simp [loaded, reads]

end Calls

theorem sql_update {Model : Type} {encode : Model → Record} {condition : Condition}
    {matching : Model → Bool} {changed : Model → Model} {changes : Record}
    (agrees : ∀ row, condition.holds (encode row) = matching row)
    (changing : ∀ row, setColumns (boundRow changes) (encode row) = encode (changed row))
    (models : List Model) :
    sqlUpdate (models.map encode) condition changes =
      (models.countP matching,
        (models.map fun row => if matching row then changed row else row).map encode) :=
  update_encoded agrees changing

theorem sql_user_code (userCode : String) (row : DeviceAuthorization) :
    (column "user_code" (.text userCode)).holds (sqlEncoding.device row) =
      (row.userCode == userCode) :=
  text_column rfl

theorem sql_device_code (deviceCode : String) (row : DeviceAuthorization) :
    (column "device_code" (.text deviceCode)).holds (sqlEncoding.device row) =
      (row.deviceCode == deviceCode) :=
  text_column rfl

/-- `UPDATE tokens SET revoked` against the typed store. -/
theorem sql_revoke {condition : Condition} {matching : Token → Bool}
    (agrees : ∀ row, condition.holds (sqlEncoding.token row) = matching row)
    (tokens : Table Token [Token.accessToken]) :
    sqlUpdate (tokens.rows.map sqlEncoding.token) condition [("revoked", .bool true)] =
      (tokens.count matching, (revokeWhere tokens matching).rows.map sqlEncoding.token) :=
  sql_update agrees revoke_row tokens.rows

/-- The column of a row that no stored row has. -/
theorem column_fresh {Model : Type} {encode : Model → Record} {key : Model → String}
    {models rest : List Model} {model : Model} {name : String}
    (written : ∀ row, (encode row).lookup name = some (.text (key row)))
    (distinct : ((models ++ model :: rest).map key).Nodup) (other : Record)
    (member : other ∈ models.map encode) : other.lookup name ≠ (encode model).lookup name := by
  obtain ⟨row, rowIn, rfl⟩ := List.mem_map.1 member
  rw [written, written]
  intro same
  cases key_ne distinct rowIn (by injection same with same; injection same)

theorem sql_simulates (scan : Scan) (mirrors : Mirrors sqlEncoding store grants)
    (apart : Apart store (call :: rest)) :
    (sqlCall scan grants call).1 = (storeCall .sql store call).1 ∧
      Mirrors sqlEncoding (storeCall .sql store call).2 (sqlCall scan grants call).2 := by
  obtain ⟨tokens, codes, devices⟩ := grants
  obtain ⟨tokenRows, codeRows, deviceRows⟩ := mirrors
  dsimp only at tokenRows codeRows deviceRows
  subst tokenRows codeRows deviceRows
  cases call with
  | saveToken token =>
      have distinct : TokensDistinct (store.tokens.rows ++ token :: savedTokens rest) := apart.tokens
      have accepted : insert (store.tokens.rows.map sqlEncoding.token) ["id", "access_token"]
          (sqlEncoding.token token) = _ := insert_fresh (by
        simp only [List.forall_mem_cons]
        exact ⟨column_fresh (fun _ => rfl) distinct.ids,
          column_fresh (fun _ => rfl) distinct.accessTokens, by simp⟩)
      obtain ⟨grown, outcome, rows⟩ := save_token_accepted .sql apart
      change (saved (insert _ _ (sqlEncoding.token token)) _ _).1 = _ ∧
        Mirrors _ _ (saved (insert _ _ (sqlEncoding.token token)) _ _).2
      simp only [storeCall, outcome, accepted, saved]
      exact ⟨rfl, by simp [rows], rfl, rfl⟩
  | saveAuthorizationCode code =>
      have distinct : CodesDistinct (store.codes.rows ++ code :: savedCodes rest) := apart.codes
      have accepted : insert (store.codes.rows.map sqlEncoding.code) ["id", "code"]
          (sqlEncoding.code code) = _ := insert_fresh (by
        simp only [List.forall_mem_cons]
        exact ⟨column_fresh (fun _ => rfl) distinct.ids,
          column_fresh (fun _ => rfl) distinct.codes, by simp⟩)
      obtain ⟨grown, outcome, rows⟩ := save_code_accepted .sql apart
      change (saved (insert _ _ (sqlEncoding.code code)) _ _).1 = _ ∧
        Mirrors _ _ (saved (insert _ _ (sqlEncoding.code code)) _ _).2
      simp only [storeCall, outcome, accepted, saved]
      exact ⟨rfl, rfl, by simp [rows], rfl⟩
  | saveDeviceAuthorization device =>
      have distinct : DevicesDistinct (store.devices.rows ++ device :: savedDevices rest) :=
        apart.devices
      have accepted : insert (store.devices.rows.map sqlEncoding.device)
          ["id", "device_code", "user_code"] (sqlEncoding.device device) = _ := insert_fresh (by
        simp only [List.forall_mem_cons]
        exact ⟨column_fresh (fun _ => rfl) distinct.ids,
          column_fresh (fun _ => rfl) distinct.deviceCodes,
          column_fresh (fun _ => rfl) distinct.userCodes, by simp⟩)
      obtain ⟨grown, outcome, rows⟩ := save_device_accepted .sql apart
      change (saved (insert _ _ (sqlEncoding.device device)) _ _).1 = _ ∧
        Mirrors _ _ (saved (insert _ _ (sqlEncoding.device device)) _ _).2
      simp only [storeCall, outcome, accepted, saved]
      exact ⟨rfl, rfl, rfl, by simp [rows]⟩
  | getTokenByAccessToken accessToken =>
      refine ⟨?_, rfl, rfl, rfl⟩
      exact get_encoded load_token_row (fun row => text_column rfl)
        (at_most_one_of_index accessToken apart.tokens.accessTokens (by simp))
  | getTokenByRefreshToken refreshToken =>
      refine ⟨?_, rfl, rfl, rfl⟩
      exact get_encoded load_token_row (fun row => optional_column rfl)
        (at_most_one_of_optional refreshToken apart.tokens.refreshTokens (by simp))
  | getTokenById tokenId =>
      refine ⟨?_, rfl, rfl, rfl⟩
      exact get_encoded load_token_row (fun row => text_column rfl)
        (at_most_one_of_index tokenId apart.tokens.ids (by simp))
  | revokeToken token =>
      have agrees : ∀ row : Token, (Condition.either (column "access_token" (.text token))
          (column "refresh_token" (.text token))).holds (sqlEncoding.token row) =
            (row.accessToken == token || row.refreshToken == some token) := by
        intro row
        rw [either_holds]
        exact congrArg₂ or (text_column rfl) (optional_column rfl)
      refine ⟨rfl, ?_, rfl, rfl⟩
      exact congrArg Prod.snd (sql_revoke agrees store.tokens)
  | revokeTokenFamily family =>
      have agrees : ∀ row : Token, (column "token_family" (.text family)).holds
          (sqlEncoding.token row) = (row.tokenFamily == some family) :=
        fun row => optional_column rfl
      simp only [sqlCall]
      rw [sql_revoke agrees store.tokens]
      exact ⟨rfl, rfl, rfl, rfl⟩
  | revokeTokensByUserId userId =>
      have agrees : ∀ row : Token, (Condition.both (column "user_id" (.text userId))
          (column "revoked" (.bool false))).holds (sqlEncoding.token row) =
            (row.userId == some userId && !row.revoked) := by
        intro row
        rw [both_holds]
        exact congrArg₂ and (optional_column rfl) (flag_column rfl)
      simp only [sqlCall]
      rw [sql_revoke agrees store.tokens]
      exact ⟨rfl, rfl, rfl, rfl⟩
  | revokeTokensByClientId clientId =>
      have agrees : ∀ row : Token, (Condition.both (column "client_id" (.text clientId))
          (column "revoked" (.bool false))).holds (sqlEncoding.token row) =
            (row.clientId == clientId && !row.revoked) := by
        intro row
        rw [both_holds]
        exact congrArg₂ and (text_column rfl) (flag_column rfl)
      simp only [sqlCall]
      rw [sql_revoke agrees store.tokens]
      exact ⟨rfl, rfl, rfl, rfl⟩
  | getAuthorizationCode code =>
      refine ⟨?_, rfl, rfl, rfl⟩
      exact get_encoded load_code_row (fun row => text_column rfl)
        (at_most_one_of_index code apart.codes.codes (by simp))
  | getAuthorizationCodeByTokenFamily family =>
      refine ⟨?_, rfl, rfl, rfl⟩
      exact get_encoded load_code_row (fun row => optional_column rfl)
        (at_most_one_of_optional family apart.codes.families (by simp))
  | markAuthorizationCodeUsed code =>
      have agrees : ∀ row : AuthorizationCode, (Condition.both (column "code" (.text code))
          (column "used" (.bool false))).holds (sqlEncoding.code row) =
            (row.code == code && !row.used) := by
        intro row
        rw [both_holds]
        exact congrArg₂ and (text_column rfl) (flag_column rfl)
      simp only [sqlCall]
      rw [sql_update agrees spend_row]
      exact ⟨rfl, rfl, rfl, rfl⟩
  | getDeviceAuthorizationByDeviceCode deviceCode =>
      refine ⟨?_, rfl, rfl, rfl⟩
      exact get_encoded load_device_row (fun row => text_column rfl)
        (at_most_one_of_index deviceCode apart.devices.deviceCodes (by simp))
  | getDeviceAuthorizationByUserCode userCode =>
      refine ⟨?_, rfl, rfl, rfl⟩
      exact get_encoded load_device_row (fun row => text_column rfl)
        (at_most_one_of_index userCode apart.devices.userCodes (by simp))
  | approveDeviceAuthorization userCode userId =>
      refine ⟨rfl, rfl, rfl, ?_⟩
      exact congrArg Prod.snd (sql_update (sql_user_code userCode) (approve_row userId) store.devices.rows)
  | denyDeviceAuthorization userCode =>
      refine ⟨rfl, rfl, rfl, ?_⟩
      exact congrArg Prod.snd (sql_update (sql_user_code userCode) deny_row store.devices.rows)
  | markDeviceAuthorizationUsed deviceCode =>
      have agrees : ∀ row : DeviceAuthorization, (Condition.both
          (column "device_code" (.text deviceCode)) (column "used" (.bool false))).holds
            (sqlEncoding.device row) = (row.deviceCode == deviceCode && !row.used) := by
        intro row
        rw [both_holds]
        exact congrArg₂ and (text_column rfl) (flag_column rfl)
      simp only [sqlCall]
      rw [sql_update agrees use_row]
      exact ⟨rfl, rfl, rfl, rfl⟩
  | expireDeviceAuthorization deviceCode now =>
      refine ⟨rfl, rfl, rfl, ?_⟩
      exact congrArg Prod.snd (sql_update (sql_device_code deviceCode) (expire_row _)
        store.devices.rows)

/-! ### Calls on documents -/

/-- The field of a document that no stored document has. -/
theorem field_fresh {Model : Type} {encode : Model → Record} {key : Model → String}
    {models rest : List Model} {model : Model} {name : String}
    (written : ∀ row, ((encode row).lookup name).getD .null = .text (key row))
    (distinct : ((models ++ model :: rest).map key).Nodup) (other : Record)
    (member : other ∈ models.map encode) :
    (other.lookup name).getD .null ≠ ((encode model).lookup name).getD .null := by
  obtain ⟨row, rowIn, rfl⟩ := List.mem_map.1 member
  rw [written, written]
  intro same
  cases key_ne distinct rowIn (by injection same)

/-- `update_many` on the tokens against the typed store. -/
theorem mongo_revoke {filter : Filter} {matching : Token → Bool}
    (agrees : ∀ row, filter.selects (mongoEncoding.token row) = matching row)
    (tokens : Table Token [Token.accessToken]) :
    updateMany (tokens.rows.map mongoEncoding.token) filter [("revoked", .bool true)] =
      (tokens.count fun row => matching row && !row.revoked,
        (revokeWhere tokens matching).rows.map mongoEncoding.token) := by
  rw [update_many_encoded agrees revoke_doc]
  have counted : (fun row : Token => matching row &&
      mongoEncoding.token { row with revoked := true } != mongoEncoding.token row) =
      fun row => matching row && !row.revoked := by
    funext row
    exact congrArg (matching row && ·) (revoke_doc_changes row)
  rw [counted]
  rfl

/-- A single-document update against the typed store, where the filter names an
indexed value. -/
theorem mongo_update {Model : Type} {indexes : List (Model → String)} {encode : Model → Record}
    (scan : Scan) (table : Table Model indexes) {filter : Filter} {matching : Model → Bool}
    {changed : Model → Model} {changes : Record}
    (agrees : ∀ row, filter.selects (encode row) = matching row)
    (changing : ∀ row, setFields changes (encode row) = encode (changed row))
    (keeps : ∀ index ∈ indexes, ∀ row, matching row = true → index (changed row) = index row)
    (index : Model → String) (indexed : index ∈ indexes) (key : String)
    (keyed : ∀ row, matching row = true → index row = key) :
    scan.updateOne (table.rows.map encode) (filter.selects ·) (setFields changes) =
        (Backend.update .mongo table matching changed keeps).rows.map encode ∧
      claimed (scan.position (table.rows.map encode) (filter.selects ·)) =
        .count (Backend.affected .mongo table matching) := by
  have single : AtMostOne matching table.rows := by
    refine (List.pairwise_map.1 (table.unique index indexed)).imp ?_
    intro left right differs both
    exact differs ((keyed left both.1).trans (keyed right both.2).symm)
  constructor
  · rw [update_rows index indexed key keyed]
    exact update_one_encoded agrees single changing
  · have found : (table.first matching).isSome = table.rows.any matching := by
      rw [Bool.eq_iff_iff, List.any_eq_true]
      exact List.find?_isSome
    unfold claimed
    rw [position_is_some agrees, ← found]
    rfl

theorem mongo_user_code (userCode : String) (row : DeviceAuthorization) :
    (Filter.field "user_code" (.text userCode)).selects (mongoEncoding.device row) =
      (row.userCode == userCode) :=
  text_field (device_doc_lookup row "user_code")

theorem mongo_device_code (deviceCode : String) (row : DeviceAuthorization) :
    (Filter.field "device_code" (.text deviceCode)).selects (mongoEncoding.device row) =
      (row.deviceCode == deviceCode) :=
  text_field (device_doc_lookup row "device_code")

theorem mongo_simulates (scan : Scan) (mirrors : Mirrors mongoEncoding store grants)
    (apart : Apart store (call :: rest)) :
    (mongoCall scan grants call).1 = (storeCall .mongo store call).1 ∧
      Mirrors mongoEncoding (storeCall .mongo store call).2 (mongoCall scan grants call).2 := by
  obtain ⟨tokens, codes, devices⟩ := grants
  obtain ⟨tokenRows, codeRows, deviceRows⟩ := mirrors
  dsimp only at tokenRows codeRows deviceRows
  subst tokenRows codeRows deviceRows
  cases call with
  | saveToken token =>
      have distinct : TokensDistinct (store.tokens.rows ++ token :: savedTokens rest) := apart.tokens
      have accepted : insertOne (store.tokens.rows.map mongoEncoding.token) ["access_token"]
          (tokenDoc token) = _ := insert_one_fresh (by
        simp only [List.forall_mem_cons]
        exact ⟨field_fresh (fun row => token_doc_lookup row "access_token") distinct.accessTokens,
          by simp⟩)
      obtain ⟨grown, outcome, rows⟩ := save_token_accepted .mongo apart
      simp only [mongoCall, storeCall, outcome, accepted, saved]
      exact ⟨rfl, by simp [rows, mongoEncoding], rfl, rfl⟩
  | getTokenByAccessToken accessToken =>
      refine ⟨?_, rfl, rfl, rfl⟩
      exact get_encoded load_token_doc (fun row => text_field (token_doc_lookup row "access_token"))
        (at_most_one_of_index accessToken apart.tokens.accessTokens (by simp))
  | revokeToken token =>
      have agrees : ∀ row : Token, (Filter.any (.field "access_token" (.text token))
          (.field "refresh_token" (.text token))).selects (mongoEncoding.token row) =
            (row.accessToken == token || row.refreshToken == some token) :=
        fun row => congrArg₂ or (text_field (token_doc_lookup row "access_token"))
          (optional_field (token_doc_lookup row "refresh_token"))
      refine ⟨rfl, ?_, rfl, rfl⟩
      exact congrArg Prod.snd (mongo_revoke agrees store.tokens)
  | revokeTokensByUserId userId =>
      have agrees : ∀ row : Token, (Filter.all (.field "user_id" (.text userId))
          (.field "revoked" (.bool false))).selects (mongoEncoding.token row) =
            (row.userId == some userId && !row.revoked) :=
        fun row => congrArg₂ and (optional_field (token_doc_lookup row "user_id"))
          (flag_field (token_doc_lookup row "revoked"))
      simp only [mongoCall]
      rw [mongo_revoke agrees store.tokens]
      refine ⟨?_, rfl, rfl, rfl⟩
      simp only [storeCall, Command.exec, Bool.and_assoc, Bool.and_self]
  | getTokenByRefreshToken refreshToken =>
      refine ⟨?_, rfl, rfl, rfl⟩
      exact get_encoded load_token_doc
        (fun row => optional_field (token_doc_lookup row "refresh_token"))
        (at_most_one_of_optional refreshToken apart.tokens.refreshTokens (by simp))
  | getTokenById tokenId =>
      refine ⟨?_, rfl, rfl, rfl⟩
      exact get_encoded load_token_doc (fun row => text_field (token_doc_lookup row "id"))
        (at_most_one_of_index tokenId apart.tokens.ids (by simp))
  | revokeTokenFamily family =>
      have agrees : ∀ row : Token, (Filter.field "token_family" (.text family)).selects
          (mongoEncoding.token row) = (row.tokenFamily == some family) :=
        fun row => optional_field (token_doc_lookup row "token_family")
      simp only [mongoCall]
      rw [mongo_revoke agrees store.tokens]
      exact ⟨rfl, rfl, rfl, rfl⟩
  | revokeTokensByClientId clientId =>
      have agrees : ∀ row : Token, (Filter.all (.field "client_id" (.text clientId))
          (.field "revoked" (.bool false))).selects (mongoEncoding.token row) =
            (row.clientId == clientId && !row.revoked) :=
        fun row => congrArg₂ and (text_field (token_doc_lookup row "client_id"))
          (flag_field (token_doc_lookup row "revoked"))
      simp only [mongoCall]
      rw [mongo_revoke agrees store.tokens]
      refine ⟨?_, rfl, rfl, rfl⟩
      simp only [storeCall, Command.exec, Bool.and_assoc, Bool.and_self]
  | saveAuthorizationCode code =>
      have distinct : CodesDistinct (store.codes.rows ++ code :: savedCodes rest) := apart.codes
      have accepted : insertOne (store.codes.rows.map mongoEncoding.code) ["code"]
          (codeDoc code) = _ := insert_one_fresh (by
        simp only [List.forall_mem_cons]
        exact ⟨field_fresh (fun row => code_doc_lookup row "code") distinct.codes, by simp⟩)
      obtain ⟨grown, outcome, rows⟩ := save_code_accepted .mongo apart
      simp only [mongoCall, storeCall, outcome, accepted, saved]
      exact ⟨rfl, rfl, by simp [rows, mongoEncoding], rfl⟩
  | getAuthorizationCode code =>
      refine ⟨?_, rfl, rfl, rfl⟩
      exact get_encoded load_code_doc (fun row => text_field (code_doc_lookup row "code"))
        (at_most_one_of_index code apart.codes.codes (by simp))
  | getAuthorizationCodeByTokenFamily family =>
      refine ⟨?_, rfl, rfl, rfl⟩
      exact get_encoded load_code_doc (fun row => optional_field (code_doc_lookup row "token_family"))
        (at_most_one_of_optional family apart.codes.families (by simp))
  | markAuthorizationCodeUsed code =>
      have agrees : ∀ row : AuthorizationCode, (Filter.all (.field "code" (.text code))
          (.field "used" (.bool false))).selects (mongoEncoding.code row) =
            (row.code == code && !row.used) :=
        fun row => congrArg₂ and (text_field (code_doc_lookup row "code"))
          (flag_field (code_doc_lookup row "used"))
      obtain ⟨updated, counted⟩ := mongo_update scan store.codes agrees spend_doc
        (by simp) AuthorizationCode.code (by simp) code (by simp +contextual)
      exact ⟨counted, rfl, updated, rfl⟩
  | saveDeviceAuthorization device =>
      have distinct : DevicesDistinct (store.devices.rows ++ device :: savedDevices rest) :=
        apart.devices
      have accepted : insertOne (store.devices.rows.map mongoEncoding.device)
          ["device_code", "user_code"] (deviceDoc device) = _ := insert_one_fresh (by
        simp only [List.forall_mem_cons]
        exact ⟨field_fresh (fun row => device_doc_lookup row "device_code") distinct.deviceCodes,
          field_fresh (fun row => device_doc_lookup row "user_code") distinct.userCodes, by simp⟩)
      obtain ⟨grown, outcome, rows⟩ := save_device_accepted .mongo apart
      simp only [mongoCall, storeCall, outcome, accepted, saved]
      exact ⟨rfl, rfl, rfl, by simp [rows, mongoEncoding]⟩
  | getDeviceAuthorizationByDeviceCode deviceCode =>
      refine ⟨?_, rfl, rfl, rfl⟩
      exact get_encoded load_device_doc (mongo_device_code deviceCode)
        (at_most_one_of_index deviceCode apart.devices.deviceCodes (by simp))
  | getDeviceAuthorizationByUserCode userCode =>
      refine ⟨?_, rfl, rfl, rfl⟩
      exact get_encoded load_device_doc (mongo_user_code userCode)
        (at_most_one_of_index userCode apart.devices.userCodes (by simp))
  | approveDeviceAuthorization userCode userId =>
      refine ⟨rfl, rfl, rfl, ?_⟩
      exact (mongo_update scan store.devices (mongo_user_code userCode) (approve_doc userId) (by simp)
        DeviceAuthorization.userCode (by simp) userCode (by simp)).1
  | denyDeviceAuthorization userCode =>
      refine ⟨rfl, rfl, rfl, ?_⟩
      exact (mongo_update scan store.devices (mongo_user_code userCode) deny_doc (by simp)
        DeviceAuthorization.userCode (by simp) userCode (by simp)).1
  | markDeviceAuthorizationUsed deviceCode =>
      have agrees : ∀ row : DeviceAuthorization, (Filter.all
          (.field "device_code" (.text deviceCode)) (.field "used" (.bool false))).selects
            (mongoEncoding.device row) = (row.deviceCode == deviceCode && !row.used) :=
        fun row => congrArg₂ and (mongo_device_code deviceCode row)
          (flag_field (device_doc_lookup row "used"))
      obtain ⟨updated, counted⟩ := mongo_update scan store.devices agrees use_doc
        (by simp) DeviceAuthorization.deviceCode (by simp) deviceCode
        (by simp +contextual)
      exact ⟨counted, rfl, rfl, updated⟩
  | expireDeviceAuthorization deviceCode now =>
      refine ⟨rfl, rfl, rfl, ?_⟩
      exact (mongo_update scan store.devices (mongo_device_code deviceCode) (expire_doc _)
        (by simp) DeviceAuthorization.deviceCode (by simp) deviceCode (by simp)).1

/-! ### The typed stores -/

/-- The row count of a guarded `UPDATE` is what `find_one_and_update` reports. -/
theorem affected_agrees {Model : Type} {indexes : List (Model → String)}
    (table : Table Model indexes) {matching : Model → Bool} (index : Model → String)
    (indexed : index ∈ indexes) (key : String)
    (keyed : ∀ row, matching row = true → index row = key) :
    Backend.affected .mongo table matching = Backend.affected .sql table matching := by
  have single : AtMostOne matching table.rows := by
    refine (List.pairwise_map.1 (table.unique index indexed)).imp ?_
    intro left right differs both
    exact differs ((keyed left both.1).trans (keyed right both.2).symm)
  have counted := count_of_at_most_one single
  have found : (table.first matching).isSome = table.rows.any matching := by
    rw [Bool.eq_iff_iff, List.any_eq_true]
    exact List.find?_isSome
  rw [← found] at counted
  exact counted.symm

theorem update_agrees {Model : Type} {indexes : List (Model → String)}
    (table : Table Model indexes) {matching : Model → Bool} {change : Model → Model}
    (keeps : ∀ index ∈ indexes, ∀ row, matching row = true → index (change row) = index row)
    (index : Model → String) (indexed : index ∈ indexes) (key : String)
    (keyed : ∀ row, matching row = true → index row = key) :
    Backend.update .mongo table matching change keeps =
      Backend.update .sql table matching change keeps := by
  apply Table.eq_of_rows
  rw [update_rows index indexed key keyed, update_rows index indexed key keyed]

/-- `revoke_token_family` reports a row count or a `modified_count`. -/
def GrantCall.countsModified : GrantCall → Bool
  | .revokeTokenFamily _ => true
  | _ => false

theorem stores_agree (apart : Apart store (call :: rest)) :
    (storeCall .mongo store call).2 = (storeCall .sql store call).2 ∧
      (GrantCall.countsModified call = false →
        (storeCall .mongo store call).1 = (storeCall .sql store call).1) := by
  cases call with
  | saveToken token =>
      obtain ⟨left, leftOk, leftRows⟩ := save_token_accepted .mongo apart
      obtain ⟨right, rightOk, rightRows⟩ := save_token_accepted .sql apart
      have same : left = right := Table.eq_of_rows (leftRows.trans rightRows.symm)
      simp [storeCall, leftOk, rightOk, same]
  | markAuthorizationCodeUsed code =>
      simp only [storeCall, Command.exec]
      rw [update_agrees store.codes _ AuthorizationCode.code (by simp) code (by simp +contextual),
        affected_agrees store.codes AuthorizationCode.code (by simp) code (by simp +contextual)]
      simp
  | approveDeviceAuthorization userCode userId =>
      simp only [storeCall, Command.exec]
      rw [update_agrees store.devices _ DeviceAuthorization.userCode (by simp) userCode (by simp)]
      simp
  | denyDeviceAuthorization userCode =>
      simp only [storeCall, Command.exec]
      rw [update_agrees store.devices _ DeviceAuthorization.userCode (by simp) userCode (by simp)]
      simp
  | markDeviceAuthorizationUsed deviceCode =>
      simp only [storeCall, Command.exec]
      rw [update_agrees store.devices _ DeviceAuthorization.deviceCode (by simp) deviceCode
          (by simp +contextual),
        affected_agrees store.devices DeviceAuthorization.deviceCode (by simp) deviceCode
          (by simp +contextual)]
      simp
  | expireDeviceAuthorization deviceCode now =>
      simp only [storeCall, Command.exec]
      rw [update_agrees store.devices _ DeviceAuthorization.deviceCode (by simp) deviceCode (by simp)]
      simp
  | saveAuthorizationCode code =>
      obtain ⟨left, leftOk, leftRows⟩ := save_code_accepted .mongo apart
      obtain ⟨right, rightOk, rightRows⟩ := save_code_accepted .sql apart
      have same : left = right := Table.eq_of_rows (leftRows.trans rightRows.symm)
      simp [storeCall, leftOk, rightOk, same]
  | saveDeviceAuthorization device =>
      obtain ⟨left, leftOk, leftRows⟩ := save_device_accepted .mongo apart
      obtain ⟨right, rightOk, rightRows⟩ := save_device_accepted .sql apart
      have same : left = right := Table.eq_of_rows (leftRows.trans rightRows.symm)
      simp [storeCall, leftOk, rightOk, same]
  | revokeTokenFamily family => exact ⟨rfl, by simp [GrantCall.countsModified]⟩
  | _ => exact ⟨rfl, fun _ => rfl⟩

/-! ### Runs -/

theorem tokens_distinct_map {rows rest : List Token} {change : Token → Token}
    (distinct : TokensDistinct (rows ++ rest)) (ids : ∀ row, (change row).id = row.id)
    (accessTokens : ∀ row, (change row).accessToken = row.accessToken)
    (refreshTokens : ∀ row, (change row).refreshToken = row.refreshToken) :
    TokensDistinct (rows.map change ++ rest) := by
  obtain ⟨distinctIds, distinctAccess, distinctRefresh⟩ := distinct
  constructor
  · simpa [Function.comp_def, ids] using distinctIds
  · simpa [Function.comp_def, accessTokens] using distinctAccess
  · simpa [Function.comp_def, List.filterMap_map, refreshTokens] using distinctRefresh

theorem codes_distinct_map {rows rest : List AuthorizationCode}
    {change : AuthorizationCode → AuthorizationCode}
    (distinct : CodesDistinct (rows ++ rest)) (ids : ∀ row, (change row).id = row.id)
    (codes : ∀ row, (change row).code = row.code)
    (families : ∀ row, (change row).tokenFamily = row.tokenFamily) :
    CodesDistinct (rows.map change ++ rest) := by
  obtain ⟨distinctIds, distinctCodes, distinctFamilies⟩ := distinct
  constructor
  · simpa [Function.comp_def, ids] using distinctIds
  · simpa [Function.comp_def, codes] using distinctCodes
  · simpa [Function.comp_def, List.filterMap_map, families] using distinctFamilies

theorem devices_distinct_map {rows rest : List DeviceAuthorization}
    {change : DeviceAuthorization → DeviceAuthorization}
    (distinct : DevicesDistinct (rows ++ rest)) (ids : ∀ row, (change row).id = row.id)
    (deviceCodes : ∀ row, (change row).deviceCode = row.deviceCode)
    (userCodes : ∀ row, (change row).userCode = row.userCode) :
    DevicesDistinct (rows.map change ++ rest) := by
  obtain ⟨distinctIds, distinctDevices, distinctUsers⟩ := distinct
  constructor
  · simpa [Function.comp_def, ids] using distinctIds
  · simpa [Function.comp_def, deviceCodes] using distinctDevices
  · simpa [Function.comp_def, userCodes] using distinctUsers

theorem revoked_distinct {tokens : Table Token [Token.accessToken]} {rest : List Token}
    (distinct : TokensDistinct (tokens.rows ++ rest)) (matching : Token → Bool) :
    TokensDistinct ((revokeWhere tokens matching).rows ++ rest) := by
  apply tokens_distinct_map distinct <;> intro row <;> split <;> rfl

/-- A call keeps the rows distinct from those still to be saved. -/
theorem apart_step (apart : Apart store (call :: rest)) :
    Apart (storeCall .sql store call).2 rest := by
  have ⟨tokens, codes, devices⟩ := apart
  cases call with
  | saveToken token =>
      obtain ⟨grown, outcome, rows⟩ := save_token_accepted .sql apart
      simp only [storeCall, outcome]
      exact ⟨by simpa [rows, savedTokens] using tokens, codes, devices⟩
  | saveAuthorizationCode code =>
      obtain ⟨grown, outcome, rows⟩ := save_code_accepted .sql apart
      simp only [storeCall, outcome]
      exact ⟨tokens, by simpa [rows, savedCodes] using codes, devices⟩
  | saveDeviceAuthorization device =>
      obtain ⟨grown, outcome, rows⟩ := save_device_accepted .sql apart
      simp only [storeCall, outcome]
      exact ⟨tokens, codes, by simpa [rows, savedDevices] using devices⟩
  | revokeToken token => exact ⟨revoked_distinct tokens _, codes, devices⟩
  | revokeTokenFamily family => exact ⟨revoked_distinct tokens _, codes, devices⟩
  | revokeTokensByUserId userId => exact ⟨revoked_distinct tokens _, codes, devices⟩
  | revokeTokensByClientId clientId => exact ⟨revoked_distinct tokens _, codes, devices⟩
  | markAuthorizationCodeUsed code =>
      refine ⟨tokens, ?_, devices⟩
      apply codes_distinct_map codes <;> intro row <;> split <;> rfl
  | approveDeviceAuthorization userCode userId =>
      refine ⟨tokens, codes, ?_⟩
      apply devices_distinct_map devices <;> intro row <;> split <;> rfl
  | denyDeviceAuthorization userCode =>
      refine ⟨tokens, codes, ?_⟩
      apply devices_distinct_map devices <;> intro row <;> split <;> rfl
  | markDeviceAuthorizationUsed deviceCode =>
      refine ⟨tokens, codes, ?_⟩
      apply devices_distinct_map devices <;> intro row <;> split <;> rfl
  | expireDeviceAuthorization deviceCode now =>
      refine ⟨tokens, codes, ?_⟩
      apply devices_distinct_map devices <;> intro row <;> split <;> rfl
  | _ => exact ⟨tokens, codes, devices⟩

/-- The saved rows of a sequence of calls have distinct ids, token values, codes,
user codes and, among authorization codes, token families. -/
structure Distinct (calls : List GrantCall) : Prop where
  tokens : TokensDistinct (savedTokens calls)
  codes : CodesDistinct (savedCodes calls)
  devices : DevicesDistinct (savedDevices calls)

theorem store_call_answers (apart : Apart store (call :: rest)) :
    (storeCall .sql store call).1 ≠ .raised := by
  cases call with
  | saveToken token =>
      obtain ⟨grown, outcome, _⟩ := save_token_accepted .sql apart
      simp [storeCall, outcome, insertReply]
  | saveAuthorizationCode code =>
      obtain ⟨grown, outcome, _⟩ := save_code_accepted .sql apart
      simp [storeCall, outcome, insertReply]
  | saveDeviceAuthorization device =>
      obtain ⟨grown, outcome, _⟩ := save_device_accepted .sql apart
      simp [storeCall, outcome, insertReply]
  | _ => simp [storeCall]

/-- Two stores that mirror the same rows answer alike, call after call. -/
theorem replies_agree (sqlScan mongoScan : Scan) (calls : List GrantCall) (store : Store)
    (rows documents : Grants) (sqlMirrors : Mirrors sqlEncoding store rows)
    (mongoMirrors : Mirrors mongoEncoding store documents) (apart : Apart store calls)
    (position : Nat) (call : GrantCall) (called : calls[position]? = some call)
    (observed : GrantCall.countsModified call = false) :
    ∃ reply, (replies (sqlCall sqlScan) rows calls)[position]? = some reply ∧
      (replies (mongoCall mongoScan) documents calls)[position]? = some reply ∧
      reply ≠ .raised := by
  induction calls generalizing store rows documents position with
  | nil => cases called
  | cons next rest induction =>
      obtain ⟨sqlReply, sqlLater⟩ := sql_simulates sqlScan sqlMirrors apart
      obtain ⟨mongoReply, mongoLater⟩ := mongo_simulates mongoScan mongoMirrors apart
      obtain ⟨later, reply⟩ := stores_agree apart
      cases position with
      | zero =>
          cases called
          rw [reply observed] at mongoReply
          exact ⟨_, congrArg some sqlReply, congrArg some mongoReply, store_call_answers apart⟩
      | succ position =>
          rw [later] at mongoLater
          exact induction _ _ _ sqlLater mongoLater (apart_step apart) position called

/-- `SqlStorage` and `MongoStorage`, started empty, answer every call on grants
alike, whatever order each visits its records in; only the count that
`revoke_token_family` returns may differ. -/
theorem backends_answer_alike (sqlScan mongoScan : Scan) (calls : List GrantCall)
    (distinct : Distinct calls) (position : Nat) (call : GrantCall)
    (called : calls[position]? = some call) (observed : GrantCall.countsModified call = false) :
    ∃ reply, (replies (sqlCall sqlScan) {} calls)[position]? = some reply ∧
      (replies (mongoCall mongoScan) {} calls)[position]? = some reply ∧ reply ≠ .raised := by
  have apart : Apart Store.empty calls := ⟨distinct.tokens, distinct.codes, distinct.devices⟩
  exact replies_agree sqlScan mongoScan calls Store.empty {} {} ⟨rfl, rfl, rfl⟩ ⟨rfl, rfl, rfl⟩
    apart position call called observed

/-! A client-only token is saved, revoked with the tokens of its client and read
back; its document has no refresh token and no family. -/

def exampleToken : Token where
  id := "row"
  accessToken := "access"
  clientId := "app"
  createdAt := 0
  expiresAt := 3600000000

def exampleCalls : List GrantCall :=
  [.saveToken exampleToken, .revokeTokensByClientId "app", .getTokenByAccessToken "access"]

theorem revoked_token_read_alike :
    (replies (sqlCall .natural) {} exampleCalls)[2]? =
        some (.token (some { exampleToken with revoked := true })) ∧
      (replies (mongoCall .latest) {} exampleCalls)[2]? =
        some (.token (some { exampleToken with revoked := true })) := by
  have distinct : Distinct exampleCalls :=
    ⟨⟨by decide, by decide, by decide⟩, ⟨by decide, by decide, by decide⟩,
      ⟨by decide, by decide, by decide⟩⟩
  have read : (replies (sqlCall .natural) {} exampleCalls)[2]? =
      some (.token (some { exampleToken with revoked := true })) := by
    decide +kernel
  obtain ⟨reply, sqlReply, mongoReply, _⟩ := backends_answer_alike .natural .latest exampleCalls
    distinct 2 (.getTokenByAccessToken "access") rfl rfl
  rw [← read, sqlReply]
  exact ⟨rfl, mongoReply⟩

end OAuth2Server.BackendEquivalence
