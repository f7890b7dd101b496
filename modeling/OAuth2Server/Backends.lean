import OAuth2Server.Storage

/-!
# What each write leaves behind

The tables after every command, in a form both backends share: where a write
names an indexed value, the SQL `UPDATE` and the single-document update of
Mongo rewrite the same row.
-/

namespace OAuth2Server.Backends

open OAuth2Server Models Tables Storage

set_option autoImplicit false

/-! ### Updates by an indexed value -/

section Updates

variable {Row : Type} {indexes : List (Row → String)} {table : Table Row indexes}
  {matching : Row → Bool} {change : Row → Row} {backend : Backend}

theorem update_rows
    {keeps : ∀ index ∈ indexes, ∀ row, matching row = true → index (change row) = index row}
    (index : Row → String) (indexed : index ∈ indexes) (key : String)
    (keyed : ∀ row, matching row = true → index row = key) :
    (backend.update table matching change keeps).rows =
      table.rows.map fun row => if matching row then change row else row := by
  cases backend with
  | sql => rfl
  | mongo =>
      exact Table.change_first_eq_map matching change index key keyed table.rows
        (table.unique index indexed)

/-- A guarded update reports no row exactly when no row matches. -/
theorem affected_eq_zero_iff :
    backend.affected table matching = 0 ↔ ∀ row ∈ table.rows, matching row = false := by
  cases backend with
  | sql => simp [Backend.affected, Table.count, List.countP_eq_zero]
  | mongo =>
      cases found : table.first matching with
      | none =>
          have absent := List.find?_eq_none.1 found
          simpa [Backend.affected, found] using absent
      | some row =>
          obtain ⟨member, hit⟩ := Table.mem_of_first found
          simp only [Backend.affected, found, Option.isSome_some, if_true, Nat.one_ne_zero,
            false_iff, not_forall]
          exact ⟨row, member, by simp [hit]⟩

end Updates

/-- An insertion succeeds and appends its row, or fails and changes nothing. -/
theorem inserted_cases {Row : Type} {indexes : List (Row → String)} (backend : Backend)
    (table : Table Row indexes) (id : Row → String) (row : Row) (put : Table Row indexes → Store)
    (store : Store) :
    inserted backend table id row put store = (.error .duplicateKey, store) ∨
      ∃ grown, inserted backend table id row put store = (.ok (), put grown) ∧
        grown.rows = table.rows ++ [row] := by
  unfold inserted
  split
  · exact Or.inl rfl
  · rcases Table.insert_cases table row with refused | ⟨grown, accepted, appended⟩
    · rw [refused]
      exact Or.inl rfl
    · rw [accepted]
      exact Or.inr ⟨grown, rfl, appended⟩

/-! ### Which tables a command writes -/

def writesClients : Command → Bool
  | .saveClient _ | .updateClient _ | .deleteClient _ | .setClientEnabled _ _ _
  | .setClientSecret _ _ _ => true
  | _ => false

def writesUsers : Command → Bool
  | .saveUser _ | .updateUser _ | .deleteUser _ | .setUserEnabled _ _ _ | .setUserRole _ _ _
  | .setUserPasswordHash _ _ _ => true
  | _ => false

def writesTokens : Command → Bool
  | .saveToken _ | .revokeToken _ | .revokeTokenFamily _ | .revokeTokensByUserId _
  | .revokeTokensByClientId _ | .deleteUser _ => true
  | _ => false

def writesCodes : Command → Bool
  | .saveAuthorizationCode _ | .markAuthorizationCodeUsed _ => true
  | _ => false

def writesDevices : Command → Bool
  | .saveDeviceAuthorization _ | .approveDeviceAuthorization _ _ | .denyDeviceAuthorization _
  | .markDeviceAuthorizationUsed _ | .expireDeviceAuthorization _ _ => true
  | _ => false

section Frames

variable {backend : Backend} {store : Store} {command : Command}

theorem inserted_keeps {α Row : Type} {indexes : List (Row → String)} (column : Store → α)
    (table : Table Row indexes) (id : Row → String) (row : Row) (put : Table Row indexes → Store)
    (apart : ∀ grown, column (put grown) = column store) :
    column (inserted backend table id row put store).2 = column store := by
  rcases inserted_cases backend table id row put store with refused | ⟨grown, accepted, _⟩
  · rw [refused]
  · rw [accepted]
    exact apart grown

theorem clients_kept (apart : writesClients command = false) :
    (command.exec backend store).2.clients = store.clients := by
  cases command with
  | saveToken token => exact inserted_keeps Store.clients _ _ _ _ fun _ => rfl
  | saveAuthorizationCode code => exact inserted_keeps Store.clients _ _ _ _ fun _ => rfl
  | saveDeviceAuthorization device => exact inserted_keeps Store.clients _ _ _ _ fun _ => rfl
  | saveUser user => simp only [Command.exec]; split <;> rfl
  | updateUser user => simp only [Command.exec]; split <;> rfl
  | deleteUser userId => cases backend <;> rfl
  | _ => first | rfl | simp [writesClients] at apart

theorem users_kept (apart : writesUsers command = false) :
    (command.exec backend store).2.users = store.users := by
  cases command with
  | saveClient client => exact inserted_keeps Store.users _ _ _ _ fun _ => rfl
  | saveToken token => exact inserted_keeps Store.users _ _ _ _ fun _ => rfl
  | saveAuthorizationCode code => exact inserted_keeps Store.users _ _ _ _ fun _ => rfl
  | saveDeviceAuthorization device => exact inserted_keeps Store.users _ _ _ _ fun _ => rfl
  | _ => first | rfl | simp [writesUsers] at apart

theorem tokens_kept (apart : writesTokens command = false) :
    (command.exec backend store).2.tokens = store.tokens := by
  cases command with
  | saveClient client => exact inserted_keeps Store.tokens _ _ _ _ fun _ => rfl
  | saveAuthorizationCode code => exact inserted_keeps Store.tokens _ _ _ _ fun _ => rfl
  | saveDeviceAuthorization device => exact inserted_keeps Store.tokens _ _ _ _ fun _ => rfl
  | saveUser user => simp only [Command.exec]; split <;> rfl
  | updateUser user => simp only [Command.exec]; split <;> rfl
  | _ => first | rfl | simp [writesTokens] at apart

theorem codes_kept (apart : writesCodes command = false) :
    (command.exec backend store).2.codes = store.codes := by
  cases command with
  | saveClient client => exact inserted_keeps Store.codes _ _ _ _ fun _ => rfl
  | saveToken token => exact inserted_keeps Store.codes _ _ _ _ fun _ => rfl
  | saveDeviceAuthorization device => exact inserted_keeps Store.codes _ _ _ _ fun _ => rfl
  | saveUser user => simp only [Command.exec]; split <;> rfl
  | updateUser user => simp only [Command.exec]; split <;> rfl
  | deleteUser userId => cases backend <;> rfl
  | _ => first | rfl | simp [writesCodes] at apart

theorem devices_kept (apart : writesDevices command = false) :
    (command.exec backend store).2.devices = store.devices := by
  cases command with
  | saveClient client => exact inserted_keeps Store.devices _ _ _ _ fun _ => rfl
  | saveToken token => exact inserted_keeps Store.devices _ _ _ _ fun _ => rfl
  | saveAuthorizationCode code => exact inserted_keeps Store.devices _ _ _ _ fun _ => rfl
  | saveUser user => simp only [Command.exec]; split <;> rfl
  | updateUser user => simp only [Command.exec]; split <;> rfl
  | deleteUser userId => cases backend <;> rfl
  | _ => first | rfl | simp [writesDevices] at apart

end Frames

/-! ### Token rows -/

/-- What a write may do to a token row: revoke it, or unlink its user when it is
revoked as well. -/
structure Evolves (before later : Token) : Prop where
  accessToken : later.accessToken = before.accessToken
  refreshToken : later.refreshToken = before.refreshToken
  clientId : later.clientId = before.clientId
  scope : later.scope = before.scope
  tokenFamily : later.tokenFamily = before.tokenFamily
  revoked : before.revoked = true → later.revoked = true
  userId : later.userId = before.userId ∨ later.userId = none ∧ later.revoked = true

theorem Evolves.refl (row : Token) : Evolves row row :=
  ⟨rfl, rfl, rfl, rfl, rfl, id, Or.inl rfl⟩

theorem Evolves.trans {first second third : Token} (earlier : Evolves first second)
    (later : Evolves second third) : Evolves first third where
  accessToken := later.accessToken.trans earlier.accessToken
  refreshToken := later.refreshToken.trans earlier.refreshToken
  clientId := later.clientId.trans earlier.clientId
  scope := later.scope.trans earlier.scope
  tokenFamily := later.tokenFamily.trans earlier.tokenFamily
  revoked := fun revoked => later.revoked (earlier.revoked revoked)
  userId := by
    rcases later.userId with same | unlinked
    · rcases earlier.userId with before | ⟨before, revoked⟩
      · exact Or.inl (same.trans before)
      · exact Or.inr ⟨same.trans before, later.revoked revoked⟩
    · exact Or.inr unlinked

theorem evolves_revoke (matching : Token → Bool) (row : Token) :
    Evolves row (if matching row then { row with revoked := true } else row) := by
  split
  · exact ⟨rfl, rfl, rfl, rfl, rfl, fun _ => rfl, Or.inl rfl⟩
  · exact Evolves.refl row

section Commands

variable {backend : Backend} {store : Store} {command : Command}

theorem inserted_step {Row : Type} {indexes : List (Row → String)} {evolves : Row → Row → Prop}
    {fresh : Row → Prop} (reflexive : ∀ row, evolves row row) (column : Store → Table Row indexes)
    (id : Row → String) (row : Row) (new : fresh row) (put : Table Row indexes → Store)
    (stored : ∀ grown, column (put grown) = grown) :
    Step evolves fresh (column store).rows
      (column (inserted backend (column store) id row put store).2).rows := by
  rcases inserted_cases backend (column store) id row put store with
    refused | ⟨grown, accepted, appended⟩
  · rw [refused]
    exact Step.unchanged reflexive rfl
  · rw [accepted]
    exact .append row new (by rw [stored grown, appended])

theorem tokens_step (backend : Backend) (store : Store) (command : Command) :
    Step Evolves (fun token => command = .saveToken token) store.tokens.rows
    (command.exec backend store).2.tokens.rows := by
  by_cases apart : writesTokens command = false
  · exact Step.unchanged Evolves.refl (by rw [tokens_kept apart])
  · cases command with
    | saveToken token =>
        refine inserted_step Evolves.refl Store.tokens Token.id token ?_
          (fun table => { store with tokens := table }) fun _ => rfl
        rfl
    | revokeToken token => exact .rewrite _ (evolves_revoke _) rfl
    | revokeTokenFamily family => exact .rewrite _ (evolves_revoke _) rfl
    | revokeTokensByUserId userId => exact .rewrite _ (evolves_revoke _) rfl
    | revokeTokensByClientId clientId => exact .rewrite _ (evolves_revoke _) rfl
    | deleteUser userId =>
        cases backend with
        | mongo => exact Step.unchanged Evolves.refl rfl
        | sql =>
            refine .rewrite _ (fun row => ?_) rfl
            dsimp only
            split
            · exact ⟨rfl, rfl, rfl, rfl, rfl, fun _ => rfl, Or.inr ⟨rfl, rfl⟩⟩
            · exact Evolves.refl row
    | _ => simp [writesTokens] at apart

/-- A row whose insertion succeeded is stored. -/
theorem saved_member {row : Token} (saved : (Command.exec backend store (.saveToken row)).1 = .ok ()) :
    row ∈ (Command.exec backend store (.saveToken row)).2.tokens.rows := by
  have stored := inserted_cases backend store.tokens Token.id row
    (fun table => { store with tokens := table }) store
  simp only [Command.exec] at saved ⊢
  rcases stored with refused | ⟨grown, accepted, appended⟩
  · rw [refused] at saved
    cases saved
  · rw [accepted]
    dsimp only
    rw [appended]
    exact List.mem_append_right _ (List.mem_singleton_self row)

/-- A sweep leaves no live row among those it names. -/
theorem revoked_of_matching {tokens : Table Token [Token.accessToken]} {matching : Token → Bool}
    (named : Token → Bool)
    (covers : ∀ row, named row = true → row.revoked = false → matching row = true) {row : Token}
    (member : row ∈ (revokeWhere tokens matching).rows) (hit : named row = true) :
    row.revoked = true := by
  obtain ⟨before, _, rfl⟩ := List.mem_map.1 member
  by_cases matched : matching before = true
  · simp [matched]
  · rw [if_neg matched] at hit ⊢
    cases live : before.revoked with
    | true => rfl
    | false => exact absurd (covers before hit live) matched

/-! ### Clients -/

theorem clients_after_update (client : Client) :
    (Command.exec backend store (.updateClient client)).2.clients.rows =
      store.clients.rows.map fun row =>
        if row.clientId == client.clientId then updatedClient backend client row else row :=
  update_rows Client.clientId (List.mem_singleton.2 rfl) client.clientId fun row hit => by
    simpa using hit

theorem clients_after_enabled (clientId : String) (enabled : Bool) (now : Instant) :
    (Command.exec backend store (.setClientEnabled clientId enabled now)).2.clients.rows =
      store.clients.rows.map fun row =>
        if row.clientId == clientId then
          { row with enabled := enabled, updatedAt := touched backend now row.updatedAt }
        else row :=
  update_rows Client.clientId (List.mem_singleton.2 rfl) clientId fun row hit => by
    simpa using hit

theorem clients_after_secret (clientId clientSecret : String) (now : Instant) :
    (Command.exec backend store (.setClientSecret clientId clientSecret now)).2.clients.rows =
      store.clients.rows.map fun row =>
        if row.clientId == clientId then
          { row with
            clientSecret := clientSecret
            updatedAt := touched backend now row.updatedAt }
        else row :=
  update_rows Client.clientId (List.mem_singleton.2 rfl) clientId fun row hit => by
    simpa using hit

theorem clients_after_delete (clientId : String) :
    (Command.exec backend store (.deleteClient clientId)).2.clients.rows =
      store.clients.rows.filter fun row => !(row.clientId == clientId) := by
  cases backend with
  | sql => rfl
  | mongo =>
      refine Table.erase_first_eq_filter _ Client.clientId clientId ?_ _
        (store.clients.unique Client.clientId (List.mem_singleton.2 rfl))
      intro row hit
      simpa using hit

/-! ### Authorization codes -/

/-- What a write may do to a code: mark it used. -/
def Spends (before later : AuthorizationCode) : Prop :=
  later = before ∨ later = { before with used := true }

theorem Spends.refl (row : AuthorizationCode) : Spends row row := Or.inl rfl

theorem codes_after_mark (code : String) :
    (Command.exec backend store (.markAuthorizationCodeUsed code)).2.codes.rows =
      store.codes.rows.map fun row =>
        if row.code == code && !row.used then { row with used := true } else row :=
  update_rows AuthorizationCode.code (List.mem_singleton.2 rfl) code fun row hit => by
    simp only [Bool.and_eq_true, beq_iff_eq] at hit
    exact hit.1

/-- The claim of a code fails exactly when no unused row has it. -/
theorem mark_code_eq_zero_iff (code : String) :
    (Command.exec backend store (.markAuthorizationCodeUsed code)).1 = 0 ↔
      ∀ row ∈ store.codes.rows, row.code = code → row.used = true := by
  refine affected_eq_zero_iff.trans ?_
  simp

theorem codes_step (backend : Backend) (store : Store) (command : Command) :
    Step Spends (fun code => command = .saveAuthorizationCode code)
    store.codes.rows (command.exec backend store).2.codes.rows := by
  by_cases apart : writesCodes command = false
  · exact Step.unchanged Spends.refl (by rw [codes_kept apart])
  · cases command with
    | saveAuthorizationCode code =>
        refine inserted_step Spends.refl Store.codes AuthorizationCode.id code ?_
          (fun table => { store with codes := table }) fun _ => rfl
        rfl
    | markAuthorizationCodeUsed code =>
        refine .rewrite _ (fun row => ?_) (codes_after_mark code)
        split
        · exact Or.inr rfl
        · exact Or.inl rfl
    | _ => simp [writesCodes] at apart

/-! ### Device authorizations -/

/-- What a write may do to a device authorization. -/
structure Advances (before later : DeviceAuthorization) : Prop where
  deviceCode : later.deviceCode = before.deviceCode
  userCode : later.userCode = before.userCode
  clientId : later.clientId = before.clientId
  scope : later.scope = before.scope
  used : before.used = true → later.used = true

theorem Advances.refl (row : DeviceAuthorization) : Advances row row := ⟨rfl, rfl, rfl, rfl, id⟩

theorem devices_after_mark (deviceCode : String) :
    (Command.exec backend store (.markDeviceAuthorizationUsed deviceCode)).2.devices.rows =
      store.devices.rows.map fun row =>
        if row.deviceCode == deviceCode && !row.used then { row with used := true } else row :=
  update_rows DeviceAuthorization.deviceCode List.mem_cons_self deviceCode fun row hit => by
    simp only [Bool.and_eq_true, beq_iff_eq] at hit
    exact hit.1

theorem mark_device_eq_zero_iff (deviceCode : String) :
    (Command.exec backend store (.markDeviceAuthorizationUsed deviceCode)).1 = 0 ↔
      ∀ row ∈ store.devices.rows, row.deviceCode = deviceCode → row.used = true := by
  refine affected_eq_zero_iff.trans ?_
  simp

theorem devices_after_approve (userCode userId : String) :
    (Command.exec backend store (.approveDeviceAuthorization userCode userId)).2.devices.rows =
      store.devices.rows.map fun row =>
        if row.userCode == userCode then
          { row with approved := true, denied := false, userId := some userId }
        else row :=
  update_rows DeviceAuthorization.userCode (by simp) userCode fun row hit => by
    simpa using hit

theorem devices_after_deny (userCode : String) :
    (Command.exec backend store (.denyDeviceAuthorization userCode)).2.devices.rows =
      store.devices.rows.map fun row =>
        if row.userCode == userCode then { row with denied := true, approved := false } else row :=
  update_rows DeviceAuthorization.userCode (by simp) userCode fun row hit => by
    simpa using hit

theorem devices_after_expire (deviceCode : String) (now : Instant) :
    (Command.exec backend store (.expireDeviceAuthorization deviceCode now)).2.devices.rows =
      store.devices.rows.map fun row =>
        if row.deviceCode == deviceCode then { row with expiresAt := now - seconds 1 } else row :=
  update_rows DeviceAuthorization.deviceCode List.mem_cons_self deviceCode fun row hit => by simpa using hit

theorem devices_step (backend : Backend) (store : Store) (command : Command) :
    Step Advances (fun device => command = .saveDeviceAuthorization device)
    store.devices.rows (command.exec backend store).2.devices.rows := by
  by_cases apart : writesDevices command = false
  · exact Step.unchanged Advances.refl (by rw [devices_kept apart])
  · cases command with
    | saveDeviceAuthorization device =>
        refine inserted_step Advances.refl Store.devices DeviceAuthorization.id device ?_
          (fun table => { store with devices := table }) fun _ => rfl
        rfl
    | approveDeviceAuthorization userCode userId =>
        refine .rewrite _ (fun row => ?_) (devices_after_approve userCode userId)
        split
        · exact ⟨rfl, rfl, rfl, rfl, id⟩
        · exact Advances.refl row
    | denyDeviceAuthorization userCode =>
        refine .rewrite _ (fun row => ?_) (devices_after_deny userCode)
        split
        · exact ⟨rfl, rfl, rfl, rfl, id⟩
        · exact Advances.refl row
    | markDeviceAuthorizationUsed deviceCode =>
        refine .rewrite _ (fun row => ?_) (devices_after_mark deviceCode)
        split
        · exact ⟨rfl, rfl, rfl, rfl, fun _ => rfl⟩
        · exact Advances.refl row
    | expireDeviceAuthorization deviceCode now =>
        refine .rewrite _ (fun row => ?_) (devices_after_expire deviceCode now)
        split
        · exact ⟨rfl, rfl, rfl, rfl, id⟩
        · exact Advances.refl row
    | _ => simp [writesDevices] at apart

end Commands

end OAuth2Server.Backends
