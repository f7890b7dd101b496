import OAuth2Server.Runs

/-!
# Scopes along a derivation

A token is issued on a root grant, and further tokens are derived from it by
refreshing and exchanging, by any clients and in any order of steps. No token
of such a chain has a scope that the root, or any token before it, lacks.
-/

namespace OAuth2Server.ScopeNarrowing

open OAuth2Server Models Tables Storage Effects Interaction Interaction.Program Interleaving
open Validation Dpop TokenEndpoint Protocol Runs Backends

set_option autoImplicit false

variable {ι : Type} [DecidableEq ι] {env : Env} {world : World} {origins : ι → Origin}

/-! ### Derivations -/

/-- What a derivation starts from: the code or the device authorization that was
redeemed, or the client that asked for a token of its own or on an assertion,
each as it was read. -/
inductive Root where
  | code (row : AuthorizationCode)
  | device (row : DeviceAuthorization)
  | client (client : Client)

/-- The scope a root stands for; that of a client is its registered scope. -/
def Root.scope : Root → String
  | .code row => row.scope
  | .device row => row.scope
  | .client registered => registered.scope

/-- The request performed the operation and got the answer. -/
def Performs {ι : Type} (pool : Requests ι) (thread : ι) (op : Op) (answer : op.Ans) : Prop :=
  (⟨op, answer⟩ : Event Server) ∈ pool.history thread

/-- The request is one on the root. -/
def RootedIn {ι : Type} (origins : ι → Origin) (pool : Requests ι) (thread : ι) : Root → Prop
  | .code row => ∃ code, Performs pool thread (.query (.getAuthorizationCode code)) (some row)
  | .device row =>
      ∃ code, Performs pool thread (.query (.getDeviceAuthorizationByDeviceCode code)) (some row)
  | .client registered =>
      ((origins thread).Asks .clientCredentials ∨ (origins thread).Asks .jwtBearer) ∧
        ∃ clientId, Performs pool thread (.query (.getClient clientId)) (some registered)

/-- The request refreshes or exchanges the token, which it read as `row`. -/
def PresentsToken {ι : Type} (pool : Requests ι) (thread : ι) (row : Token) : Prop :=
  (∃ refreshToken,
      Performs pool thread (.query (.getTokenByRefreshToken refreshToken)) (some row)) ∨
    ∃ accessToken, Performs pool thread (.query (.getTokenByAccessToken accessToken)) (some row)

/-- The rows of a chain, the latest first: the root's token, and then each token
saved by a request that presented the one before it. -/
inductive Derived {ι : Type} (origins : ι → Origin) (pool : Requests ι) (root : Root) :
    List Token → Prop
  | issued (thread : ι) (row : Token) (rooted : RootedIn origins pool thread root)
      (saves : Saves pool thread row) : Derived origins pool root [row]
  | derived (thread : ι) (row parent read : Token) (earlier : List Token)
      (chain : Derived origins pool root (parent :: earlier))
      (presents : PresentsToken pool thread read)
      (same : read.accessToken = parent.accessToken) (saves : Saves pool thread row) :
      Derived origins pool root (row :: parent :: earlier)

/-! ### From the history of a request to its session -/

/-- What a request was told is in its session. -/
structure Recalled (history : List (Event Server)) (session : Session) : Prop where
  grounds : ∀ op answer grounds, Reads op answer grounds →
    (⟨op, answer⟩ : Event Server) ∈ history → session.grounds = some grounds
  client : ∀ clientId client,
    (⟨.query (.getClient clientId), some client⟩ : Event Server) ∈ history →
      session.client = some client

theorem grounds_of_reads {session : Session} {op : Op} {answer : op.Ans} {grounds : Grounds}
    (move : Move session op) (reads : Reads op answer grounds) :
    (after session op answer).grounds = some grounds := by
  cases reads with
  | code code row =>
      cases move with
      | aside settled => cases settled
      | readCode _ opened => rw [after_pending opened.2.2]; rfl
  | refresh refreshToken row =>
      cases move with
      | aside settled => cases settled
      | readRefresh _ opened => rw [after_pending opened.2.2]; rfl
  | device deviceCode row =>
      cases move with
      | aside settled => cases settled
      | readDevice _ opened => rw [after_pending opened.2.2]; rfl
  | subject accessToken row =>
      cases move with
      | aside settled => cases settled
      | readSubject _ opened => rw [after_pending opened.2.2]; rfl
  | verifying userCode row =>
      cases move with
      | aside settled => cases settled
      | readVerifying _ opened => rw [after_pending opened.2.2]; rfl

/-- The client is looked up once. -/
theorem client_kept {session : Session} {op : Op} {answer : op.Ans} {client : Client}
    (move : Move session op) (known : session.client = some client) :
    (after session op answer).client = some client := by
  cases move with
  | aside settled same => rw [same answer, known]
  | readClient clientId unknown => cases unknown.symm.trans known
  | readUser userId pending =>
      rw [after_pending pending]
      cases answer <;> exact known
  | saveUser user opened enabled =>
      rw [after_pending opened.2.2]
      cases answer <;> exact known
  | readUsers _ pending | draw pending | claimCode _ pending | rotate _ _ pending
  | sweepCode _ _ pending | sweepRefresh _ _ pending | claimDevice _ pending | approve _ _ pending
  | deny _ pending | enter _ pending =>
      rw [after_pending pending]
      exact known
  | readCode _ opened | readRefresh _ opened | readDevice _ opened | readSubject _ opened
  | readVerifying _ opened =>
      rw [after_pending opened.2.2]
      exact known
  | save request row entered =>
      rw [after_entered entered]
      exact known

theorem recalled_reached (env : Env) (world : World) (origins : ι → Origin) (schedule : List ι) (thread : ι) :
    Recalled ((reached env world origins schedule).history thread)
      (sessions origins (reached env world origins schedule) thread) := by
  refine Pool.history_invariant (protocol_sound env) Recalled ?_
    (following_reached env world origins [])
    ?_ schedule thread
  · intro history session op answer permitted _ recalled
    have move := move_of_allowed permitted
    constructor
    · intro read found grounds reads member
      rcases List.mem_append.1 member with old | new
      · exact grounds_kept move (recalled.grounds read found grounds reads old)
      · cases List.mem_singleton.1 new
        exact grounds_of_reads move reads
    · intro clientId client member
      rcases List.mem_append.1 member with old | new
      · exact client_kept move (recalled.client clientId client old)
      · cases List.mem_singleton.1 new
        cases move with
        | aside settled => cases settled
        | readClient _ _ opened => exact congrArg Session.client (after_pending opened.2.2)
  · intro other
    constructor
    · intro read found grounds reads member
      cases member
    · intro clientId client member
      cases member

/-! ### Rows that were read or saved -/

/-- A row that a request has read as a token, or has saved. -/
def Seen (session : Session) (row : Token) : Prop :=
  session.grounds = some (.refresh row) ∨ session.grounds = some (.subject row) ∨
    ∃ request, session.issuance = .saved request row

/-- What a request has seen of a token is stored, up to revocation. -/
theorem seen_stored (schedule : List ι) (thread : ι) (row : Token)
    (seen : Seen (sessions origins (reached env world origins schedule) thread) row) :
    ∃ stored ∈ (reached env world origins schedule).world.store.tokens.rows,
      Evolves row stored := by
  revert row
  revert thread
  refine run_always (fun world states => ∀ (thread : ι) row, Seen (states thread) row →
    ∃ stored ∈ world.store.tokens.rows, Evolves row stored) ?_ ?_ schedule
  · intro pool mover op move before thread row seen
    have carried : Seen (sessions origins pool thread) row →
        ∃ stored ∈ (env.interp op pool.world).2.store.tokens.rows, Evolves row stored := by
      intro known
      obtain ⟨stored, member, evolves⟩ := before thread row known
      obtain ⟨later, stays, further⟩ := (tokens_moved env pool.world op).persists Evolves.refl member
      exact ⟨later, stays, evolves.trans further⟩
    have found : row ∈ pool.world.store.tokens.rows →
        ∃ stored ∈ (env.interp op pool.world).2.store.tokens.rows, Evolves row stored :=
      (tokens_moved env pool.world op).persists Evolves.refl
    rcases moved_cases env origins pool mover op thread with ⟨rfl, now⟩ | ⟨_, kept⟩
    · rw [now] at seen
      rcases seen with refresh | subject | ⟨request, saved⟩
      · rcases grounds_after move refresh with known | ⟨_, _, reads⟩
        · exact carried (Or.inl known)
        · generalize given : (env.interp op pool.world).1 = answer at reads
          cases reads with
          | refresh looked row => exact found (Table.mem_of_first given).1
      · rcases grounds_after move subject with known | ⟨_, _, reads⟩
        · exact carried (Or.inr (Or.inl known))
        · generalize given : (env.interp op pool.world).1 = answer at reads
          cases reads with
          | subject looked row => exact found (Table.mem_of_first given).1
      · rcases saved_after saved with known | same
        · exact carried (Or.inr (Or.inr ⟨request, known⟩))
        · obtain ⟨rfl, answer⟩ := Sigma.mk.inj_iff.1 same
          exact ⟨row, saved_member (eq_of_heq answer), Evolves.refl row⟩
    · exact carried (kept ▸ seen)
  · intro thread row seen
    rcases seen with refresh | subject | ⟨request, saved⟩
    · cases refresh
    · cases subject
    · cases saved

/-- Two rows that were seen under one access token have one scope. -/
theorem seen_scope_eq {schedule : List ι} {left right : ι} {first second : Token}
    (firstSeen : Seen (sessions origins (reached env world origins schedule) left) first)
    (secondSeen : Seen (sessions origins (reached env world origins schedule) right) second)
    (same : first.accessToken = second.accessToken) : first.scope = second.scope := by
  obtain ⟨stored, storedIn, evolved⟩ := seen_stored schedule left first firstSeen
  obtain ⟨other, otherIn, otherEvolved⟩ := seen_stored schedule right second secondSeen
  have one := Table.eq_of_index _ (List.mem_singleton.2 rfl) storedIn otherIn
    (evolved.accessToken.trans (same.trans otherEvolved.accessToken.symm))
  rw [← evolved.scope, one, otherEvolved.scope]

/-! ### One link of a chain -/

section Links

variable {schedule : List ι} {thread : ι}

theorem grounds_of_token {row : Token}
    (presents : PresentsToken (reached env world origins schedule) thread row) :
    (sessions origins (reached env world origins schedule) thread).grounds = some (.refresh row) ∨
      (sessions origins (reached env world origins schedule) thread).grounds =
        some (.subject row) := by
  have recalled := recalled_reached env world origins schedule thread
  rcases presents with ⟨refreshToken, performed⟩ | ⟨accessToken, performed⟩
  · exact Or.inl (recalled.grounds _ _ _ (.refresh refreshToken row) performed)
  · exact Or.inr (recalled.grounds _ _ _ (.subject accessToken row) performed)

/-- A token refreshed or exchanged from another stays within its scope. -/
theorem scope_of_presented {row read : Token}
    (presents : PresentsToken (reached env world origins schedule) thread read)
    (saves : Saves (reached env world origins schedule) thread row) :
    Text.split row.scope ⊆ Text.split read.scope := by
  obtain ⟨request, _, records, _, _, grounds⟩ := saved_of_saves saves
  rw [records.scope]
  rcases grounds_of_token presents with refresh | subject
  · rw [refresh] at grounds
    obtain ⟨_, _, _, _, _, within, _⟩ := grounds
    exact scope_is_subset_iff.1 within
  · rw [subject] at grounds
    obtain ⟨_, _, _, _, within, _⟩ := grounds
    exact scope_is_subset_iff.1 within

/-- The first token of a chain stays within the scope of its root. -/
theorem scope_of_root {root : Root} {row : Token}
    (rooted : RootedIn origins (reached env world origins schedule) thread root)
    (saves : Saves (reached env world origins schedule) thread row) :
    Text.split row.scope ⊆ Text.split root.scope := by
  have recalled := recalled_reached env world origins schedule thread
  obtain ⟨request, _, records, client, _, grounds⟩ := saved_of_saves saves
  rw [records.scope]
  cases root with
  | code found =>
      obtain ⟨code, performed⟩ := rooted
      rw [recalled.grounds _ _ _ (.code code found) performed] at grounds
      obtain ⟨_, _, _, _, _, sameScope, _⟩ := grounds
      rw [sameScope]
      exact List.Subset.refl _
  | device found =>
      obtain ⟨deviceCode, performed⟩ := rooted
      rw [recalled.grounds _ _ _ (.device deviceCode found) performed] at grounds
      obtain ⟨_, _, _, _, _, sameScope, _⟩ := grounds
      rw [sameScope]
      exact List.Subset.refl _
  | client registered =>
      obtain ⟨asks, clientId, performed⟩ := rooted
      have known := recalled.client clientId registered performed
      cases client.symm.trans known
      rw [← session_origin origins (reached env world origins schedule) thread] at asks
      have elsewhere : ∀ grant : Grant, grant ≠ .clientCredentials → grant ≠ .jwtBearer →
          ¬(sessions origins (reached env world origins schedule) thread).origin.Asks grant := by
        intro grant notOwn notAssertion other
        rcases asks with own | assertion
        · exact notOwn (asks_unique other own)
        · exact notAssertion (asks_unique other assertion)
      split at grounds
      · exact absurd (asks_of_presents grounds.1) (elsewhere _ (by decide) (by decide))
      · obtain ⟨⟨_, other, _⟩, _⟩ := grounds
        exact absurd (asks_of_presents other) (elsewhere _ (by decide) (by decide))
      · exact absurd (asks_of_presents grounds.1) (elsewhere _ (by decide) (by decide))
      · exact absurd (asks_of_presents grounds.1) (elsewhere _ (by decide) (by decide))
      · exact grounds.elim
      · exact scope_is_subset_iff.1 grounds.2.1

theorem seen_of_saves {row : Token}
    (saves : Saves (reached env world origins schedule) thread row) :
    Seen (sessions origins (reached env world origins schedule) thread) row := by
  obtain ⟨request, saved, _⟩ := saved_of_saves saves
  exact Or.inr (Or.inr ⟨request, saved⟩)

theorem seen_of_presents {row : Token}
    (presents : PresentsToken (reached env world origins schedule) thread row) :
    Seen (sessions origins (reached env world origins schedule) thread) row :=
  (grounds_of_token presents).imp_right Or.inl

end Links

/-! ### Chains -/

theorem derived_seen {root : Root} {schedule : List ι} {row : Token} {earlier : List Token}
    (chain : Derived origins (reached env world origins schedule) root (row :: earlier)) :
    ∃ thread, Seen (sessions origins (reached env world origins schedule) thread) row := by
  cases chain with
  | issued thread _ _ saves => exact ⟨thread, seen_of_saves saves⟩
  | derived thread _ _ _ _ _ _ _ saves => exact ⟨thread, seen_of_saves saves⟩

/-- In every run, every token of a chain of refreshes and exchanges stays within
the scope of its root and of every token before it. -/
theorem scope_never_widens (env : Env) (world : World) (origins : ι → Origin) (schedule : List ι)
    (root : Root) (row : Token) (earlier : List Token)
    (chain : Derived origins (reached env world origins schedule) root (row :: earlier)) :
    Text.split row.scope ⊆ Text.split root.scope ∧
      ∀ parent ∈ earlier, Text.split row.scope ⊆ Text.split parent.scope := by
  generalize rows : row :: earlier = whole at chain
  induction chain generalizing row earlier with
  | issued thread saved rooted saves =>
      cases rows
      exact ⟨scope_of_root rooted saves, by simp⟩
  | derived thread saved parent read before chain presents same saves induction =>
      cases rows
      obtain ⟨other, parentSeen⟩ := derived_seen chain
      have link := scope_of_presented presents saves
      rw [seen_scope_eq (seen_of_presents presents) parentSeen same] at link
      obtain ⟨root, rest⟩ := induction parent before rfl
      refine ⟨List.Subset.trans link root, fun ancestor member => ?_⟩
      rcases List.mem_cons.1 member with rfl | older
      · exact link
      · exact List.Subset.trans link (rest ancestor older)

/-! ### A code, a narrowing refresh and an exchange -/

/-- A confidential client that may exchange tokens. -/
def sampleService : Client :=
  { sampleClient with
    id := "service-row"
    clientId := "service"
    clientSecret := "hidden"
    grantTypes := "[\"" ++ tokenExchangeGrant ++ "\"]"
    tokenEndpointAuthMethod := "client_secret_post" }

def sampleWideCode : AuthorizationCode := { sampleCode with scope := "read write" }

def sampleDelegation : World where
  store := { sampleStore with
    clients := ⟨[sampleClient, sampleService], by decide⟩
    codes := ⟨[sampleWideCode], by simp⟩ }
  process := sampleProcess

/-- The app redeems the code and narrows the token; the service exchanges it. -/
def sampleParties : Fin 3 → Origin
  | 0 => .token sampleRedemption
  | 1 => .token
      { form := [("grant_type", "refresh_token"), ("client_id", "app"),
          ("refresh_token", "random-1"), ("scope", "read")] }
  | 2 => .token
      { form := [("grant_type", tokenExchangeGrant), ("client_id", "service"),
          ("client_secret", "hidden"), ("subject_token", "random-3"),
          ("subject_token_type", accessTokenTypeUrn)] }

def sampleChain : Requests (Fin 3) :=
  reached sampleEnv sampleDelegation sampleParties
    (List.replicate 12 0 ++ List.replicate 12 1 ++ List.replicate 10 2)

/-- The tokens a request has saved. -/
def savedRows (history : List (Event Server)) : List Token :=
  history.filterMap fun
    | ⟨.command (.saveToken row), .ok ()⟩ => some row
    | _ => none

/-- The tokens a request has looked up. -/
def lookedUpRows (history : List (Event Server)) : List Token :=
  history.filterMap fun
    | ⟨.query (.getTokenByRefreshToken _), some row⟩ => some row
    | ⟨.query (.getTokenByAccessToken _), some row⟩ => some row
    | _ => none

/-- The codes a request has looked up. -/
def lookedUpCodes (history : List (Event Server)) : List AuthorizationCode :=
  history.filterMap fun
    | ⟨.query (.getAuthorizationCode _), some row⟩ => some row
    | _ => none

theorem saves_of_eval {pool : Requests (Fin 3)} {thread : Fin 3} {row : Token}
    (evaluated : row ∈ savedRows (pool.history thread)) : Saves pool thread row := by
  obtain ⟨event, member, kept⟩ := List.mem_filterMap.1 evaluated
  split at kept
  · cases kept
    exact member
  · cases kept

theorem presents_of_eval {pool : Requests (Fin 3)} {thread : Fin 3} {row : Token}
    (evaluated : row ∈ lookedUpRows (pool.history thread)) : PresentsToken pool thread row := by
  obtain ⟨event, member, kept⟩ := List.mem_filterMap.1 evaluated
  split at kept
  · cases kept
    exact Or.inl ⟨_, member⟩
  · cases kept
    exact Or.inr ⟨_, member⟩
  · cases kept

theorem rooted_of_eval {pool : Requests (Fin 3)} {thread : Fin 3} {row : AuthorizationCode}
    (evaluated : row ∈ lookedUpCodes (pool.history thread)) :
    RootedIn sampleParties pool thread (.code row) := by
  obtain ⟨event, member, kept⟩ := List.mem_filterMap.1 evaluated
  split at kept
  · cases kept
    exact ⟨_, member⟩
  · cases kept

def redeemedToken : Token :=
  { sampleToken with
    id := "random-2"
    accessToken := "random-0"
    refreshToken := some "random-1"
    scope := "read write"
    createdAt := 2
    expiresAt := 3600000001 }

def refreshedToken : Token :=
  { redeemedToken with
    id := "random-5"
    accessToken := "random-3"
    refreshToken := some "random-4"
    scope := "read"
    createdAt := 5
    expiresAt := 3600000004 }

def exchangedToken : Token :=
  { refreshedToken with
    id := "random-7"
    accessToken := "random-6"
    refreshToken := none
    clientId := "service"
    createdAt := 8
    expiresAt := 3600000007
    tokenFamily := none }

/-- The exchanged token stays within the code's scope and within both tokens it
was derived from. -/
theorem scope_never_widens_by_exchange :
    Derived sampleParties sampleChain (.code sampleWideCode)
        [exchangedToken, refreshedToken, redeemedToken] ∧
      Text.split exchangedToken.scope ⊆ Text.split sampleWideCode.scope ∧
      ∀ parent ∈ [refreshedToken, redeemedToken],
        Text.split exchangedToken.scope ⊆ Text.split parent.scope := by
  have evaluated : (sampleWideCode ∈ lookedUpCodes (sampleChain.history 0) ∧
        redeemedToken ∈ savedRows (sampleChain.history 0)) ∧
      (redeemedToken ∈ lookedUpRows (sampleChain.history 1) ∧
        refreshedToken ∈ savedRows (sampleChain.history 1)) ∧
      refreshedToken ∈ lookedUpRows (sampleChain.history 2) ∧
        exchangedToken ∈ savedRows (sampleChain.history 2) := by
    decide +kernel
  obtain ⟨⟨code, first⟩, ⟨presented, second⟩, delegated, third⟩ := evaluated
  have redeemed : Derived sampleParties sampleChain (.code sampleWideCode) [redeemedToken] :=
    .issued 0 redeemedToken (rooted_of_eval code) (saves_of_eval first)
  have refreshed : Derived sampleParties sampleChain (.code sampleWideCode)
      [refreshedToken, redeemedToken] :=
    .derived 1 refreshedToken redeemedToken redeemedToken [] redeemed
      (presents_of_eval presented) rfl (saves_of_eval second)
  have exchanged : Derived sampleParties sampleChain (.code sampleWideCode)
      [exchangedToken, refreshedToken, redeemedToken] :=
    .derived 2 exchangedToken refreshedToken refreshedToken [redeemedToken] refreshed
      (presents_of_eval delegated) rfl (saves_of_eval third)
  exact ⟨exchanged, scope_never_widens sampleEnv sampleDelegation sampleParties _
    (.code sampleWideCode) exchangedToken [refreshedToken, redeemedToken] exchanged⟩

end OAuth2Server.ScopeNarrowing
