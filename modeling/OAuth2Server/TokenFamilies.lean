import OAuth2Server.SingleUse
import OAuth2Server.Server

/-!
# Families of refresh tokens

A refresh token carries the family of the grant it descends from, and a family
has at most one live refresh token as long as requests do not overlap. The
invariant behind it also covers the codes: a code that can still be redeemed
has a family of its own with no token in it.
-/

namespace OAuth2Server.TokenFamilies

open OAuth2Server Models Tables Storage Effects Interaction Interaction.Program
open ClientAuth Dpop TokenEndpoint Endpoints Protocol Runs Backends Server Footprints SingleUse

set_option autoImplicit false

variable {env : Env} {world : World} {family : String}

/-- An unrevoked row with a refresh token. -/
def Live (row : Token) : Prop := row.revoked = false ∧ row.refreshToken.isSome = true

/-- The random source never repeats itself, and is never empty. -/
structure Distinct (env : Env) : Prop where
  injective : Function.Injective env.platform.random
  nonempty : ∀ draw, env.platform.random draw ≠ ""

/-- What holds of the families between requests. -/
structure Families (env : Env) (world : World) : Prop where
  carried : ∀ row ∈ world.store.tokens.rows, row.refreshToken.isSome = true →
    ∃ family, row.tokenFamily = some family ∧ family ≠ ""
  single : ∀ left ∈ world.store.tokens.rows, ∀ right ∈ world.store.tokens.rows, Live left →
    Live right → left.tokenFamily = right.tokenFamily → left = right
  tokensUndrawn : ∀ row ∈ world.store.tokens.rows, ∀ family, row.tokenFamily = some family →
    Undrawn env family world
  codesCarry : ∀ code ∈ world.store.codes.rows, ∃ family, code.tokenFamily = some family ∧
    family ≠ "" ∧ Undrawn env family world
  codesApart : ∀ left ∈ world.store.codes.rows, ∀ right ∈ world.store.codes.rows,
    left.tokenFamily = right.tokenFamily → left = right
  unusedFree : ∀ code ∈ world.store.codes.rows, code.used = false →
    ∀ row ∈ world.store.tokens.rows, row.tokenFamily ≠ code.tokenFamily

/-- A family that may be given a live refresh token: it has none, and no code
that could still be redeemed for another. -/
structure Vacant (env : Env) (family : String) (world : World) : Prop where
  nonempty : family ≠ ""
  undrawn : Undrawn env family world
  tokens : ∀ row ∈ world.store.tokens.rows, row.tokenFamily = some family → ¬Live row
  codes : ∀ code ∈ world.store.codes.rows, code.tokenFamily = some family → code.used = true

/-! ### Operations that insert nothing -/

section Inert

variable {op : Op}

theorem token_before (inert : Inert op) {row : Token}
    (member : row ∈ (env.interp op world).2.store.tokens.rows) :
    ∃ before ∈ world.store.tokens.rows, Evolves before row := by
  rcases (tokens_moved env world op).origin Evolves.refl member with old | inserted
  · exact old
  · subst inserted
    cases inert

theorem code_before (inert : Inert op) {row : AuthorizationCode}
    (member : row ∈ (env.interp op world).2.store.codes.rows) :
    ∃ before ∈ world.store.codes.rows, Spends before row := by
  rcases op with read | write | act
  · exact ⟨row, member, Spends.refl row⟩
  · rcases (codes_step env.backend world.store write).origin Spends.refl member with old | inserted
    · exact old
    · subst inserted
      cases inert
  · exact ⟨row, member, Spends.refl row⟩

theorem live_of_evolves {before row : Token} (evolves : Evolves before row) (live : Live row) :
    Live before := by
  constructor
  · by_contra revoked
    have later := evolves.revoked (by simpa using revoked)
    rw [live.1] at later
    cases later
  · rw [← evolves.refreshToken]
    exact live.2

theorem spends_family {before row : AuthorizationCode} (spends : Spends before row) :
    row.code = before.code ∧ row.tokenFamily = before.tokenFamily := by
  rcases spends with rfl | rfl
  · exact ⟨rfl, rfl⟩
  · exact ⟨rfl, rfl⟩

theorem spends_unused {before row : AuthorizationCode} (spends : Spends before row)
    (unused : row.used = false) : before = row := by
  rcases spends with rfl | rfl
  · rfl
  · cases unused

theorem families_inert (inert : Inert op) (families : Families env world) :
    Families env (env.interp op world).2 where
  carried := by
    intro row member refresh
    obtain ⟨before, old, evolves⟩ := token_before inert member
    rw [evolves.tokenFamily]
    exact families.carried before old (evolves.refreshToken ▸ refresh)
  single := by
    intro left leftIn right rightIn leftLive rightLive same
    obtain ⟨first, firstIn, firstEvolves⟩ := token_before inert leftIn
    obtain ⟨second, secondIn, secondEvolves⟩ := token_before inert rightIn
    have sameBefore : first.tokenFamily = second.tokenFamily := by
      rw [← firstEvolves.tokenFamily, ← secondEvolves.tokenFamily]
      exact same
    have one := families.single first firstIn second secondIn
      (live_of_evolves firstEvolves leftLive) (live_of_evolves secondEvolves rightLive) sameBefore
    have sameToken : left.accessToken = right.accessToken := by
      rw [firstEvolves.accessToken, secondEvolves.accessToken, one]
    exact Table.eq_of_index _ (List.mem_singleton.2 rfl) leftIn rightIn sameToken
  tokensUndrawn := by
    intro row member family carries
    obtain ⟨before, old, evolves⟩ := token_before inert member
    exact undrawn_step op (families.tokensUndrawn before old family
      (evolves.tokenFamily.symm.trans carries))
  codesCarry := by
    intro code member
    obtain ⟨before, old, spends⟩ := code_before inert member
    obtain ⟨family, carries, nonempty, undrawn⟩ := families.codesCarry before old
    exact ⟨family, (spends_family spends).2.trans carries, nonempty, undrawn_step op undrawn⟩
  codesApart := by
    intro left leftIn right rightIn same
    obtain ⟨first, firstIn, firstSpends⟩ := code_before inert leftIn
    obtain ⟨second, secondIn, secondSpends⟩ := code_before inert rightIn
    have one := families.codesApart first firstIn second secondIn
      ((spends_family firstSpends).2.symm.trans (same.trans (spends_family secondSpends).2))
    have sameCode : left.code = right.code := by
      rw [(spends_family firstSpends).1, (spends_family secondSpends).1, one]
    exact Table.eq_of_index _ (List.mem_singleton.2 rfl) leftIn rightIn sameCode
  unusedFree := by
    intro code codeIn unused row rowIn
    obtain ⟨before, old, spends⟩ := code_before inert codeIn
    obtain ⟨stored, storedIn, evolves⟩ := token_before inert rowIn
    have same := spends_unused spends unused
    rw [evolves.tokenFamily]
    exact families.unusedFree code (same ▸ old) unused stored storedIn

theorem vacant_inert (inert : Inert op) (vacant : Vacant env family world) :
    Vacant env family (env.interp op world).2 where
  nonempty := vacant.nonempty
  undrawn := undrawn_step op vacant.undrawn
  tokens := by
    intro row member carries live
    obtain ⟨before, old, evolves⟩ := token_before inert member
    exact vacant.tokens before old (evolves.tokenFamily.symm.trans carries)
      (live_of_evolves evolves live)
  codes := by
    intro code member carries
    obtain ⟨before, old, spends⟩ := code_before inert member
    have used := vacant.codes before old ((spends_family spends).2.symm.trans carries)
    rcases spends with rfl | rfl
    · exact used
    · rfl

end Inert

/-! ### Insertions -/

/-- A row that fits in has no refresh token and no family, or a vacant family. -/
theorem families_save {row : Token} (families : Families env world)
    (fits : row.refreshToken.isSome = false ∧ row.tokenFamily = none ∨
      ∃ family, row.tokenFamily = some family ∧ Vacant env family world) :
    Families env (env.interp (.command (.saveToken row)) world).2 := by
  have stored := inserted_cases env.backend world.store.tokens Token.id row
    (fun table => { world.store with tokens := table }) world.store
  simp only [interp_command, Command.exec]
  rcases stored with refused | ⟨grown, accepted, appended⟩
  · rw [refused]
    exact families
  · rw [accepted]
    have cases : ∀ other ∈ grown.rows, other ∈ world.store.tokens.rows ∨ other = row := by
      intro other member
      rw [appended] at member
      simpa using member
    have alone : ∀ other ∈ world.store.tokens.rows, Live other → Live row →
        other.tokenFamily ≠ row.tokenFamily := by
      intro other old otherLive live same
      rcases fits with ⟨none, _⟩ | ⟨family, carries, vacant⟩
      · rw [live.2] at none
        cases none
      · exact vacant.tokens other old (same.trans carries) otherLive
    constructor
    · intro other member refresh
      rcases cases other member with old | rfl
      · exact families.carried other old refresh
      · rcases fits with ⟨none, _⟩ | ⟨family, carries, vacant⟩
        · rw [refresh] at none
          cases none
        · exact ⟨family, carries, vacant.nonempty⟩
    · intro left leftIn right rightIn leftLive rightLive same
      rcases cases left leftIn with leftOld | rfl
      · rcases cases right rightIn with rightOld | rfl
        · exact families.single left leftOld right rightOld leftLive rightLive same
        · exact absurd same (alone left leftOld leftLive rightLive)
      · rcases cases right rightIn with rightOld | rfl
        · exact absurd same.symm (alone right rightOld rightLive leftLive)
        · rfl
    · intro other member family carries
      rcases cases other member with old | rfl
      · exact families.tokensUndrawn other old family carries
      · rcases fits with ⟨_, none⟩ | ⟨vacated, vacates, vacant⟩
        · rw [carries] at none
          cases none
        · cases carries.symm.trans vacates
          exact vacant.undrawn
    · exact families.codesCarry
    · exact families.codesApart
    · intro code codeIn unused other member same
      rcases cases other member with old | rfl
      · exact families.unusedFree code codeIn unused other old same
      · rcases fits with ⟨_, none⟩ | ⟨family, carries, vacant⟩
        · obtain ⟨family, carries, _⟩ := families.codesCarry code codeIn
          rw [none, carries] at same
          cases same
        · have used := vacant.codes code codeIn (same.symm.trans carries)
          rw [unused] at used
          cases used

/-- A family nothing has been issued in. -/
structure Unseen (env : Env) (family : String) (world : World) : Prop where
  nonempty : family ≠ ""
  undrawn : Undrawn env family world
  tokens : ∀ row ∈ world.store.tokens.rows, row.tokenFamily ≠ some family
  codes : ∀ code ∈ world.store.codes.rows, code.tokenFamily ≠ some family

theorem Unseen.vacant (unseen : Unseen env family world) : Vacant env family world where
  nonempty := unseen.nonempty
  undrawn := unseen.undrawn
  tokens := fun row member carries => absurd carries (unseen.tokens row member)
  codes := fun code member carries => absurd carries (unseen.codes code member)

/-- A new identifier is the family of nothing. -/
theorem unseen_draw (distinct : Distinct env) (families : Families env world) :
    Unseen env (env.platform.random world.process.draws)
      (env.interp (.ambient .uuid4Hex) world).2 where
  nonempty := distinct.nonempty _
  undrawn := by
    intro draw later same
    have one := distinct.injective same
    have advanced : world.process.draws + 1 ≤ draw := later
    omega
  tokens := by
    intro row member carries
    exact families.tokensUndrawn row member _ carries world.process.draws (le_refl _) rfl
  codes := by
    intro code member carries
    obtain ⟨family, own, _, undrawn⟩ := families.codesCarry code member
    cases own.symm.trans carries
    exact undrawn world.process.draws (le_refl _) rfl

/-- A new code has an unseen family. -/
theorem families_issue {row : AuthorizationCode} (families : Families env world)
    (carries : row.tokenFamily = some family) (unseen : Unseen env family world) :
    Families env (env.interp (.command (.saveAuthorizationCode row)) world).2 := by
  have stored := inserted_cases env.backend world.store.codes AuthorizationCode.id row
    (fun table => { world.store with codes := table }) world.store
  simp only [interp_command, Command.exec]
  rcases stored with refused | ⟨grown, accepted, appended⟩
  · rw [refused]
    exact families
  · rw [accepted]
    have cases : ∀ other ∈ grown.rows, other ∈ world.store.codes.rows ∨ other = row := by
      intro other member
      rw [appended] at member
      simpa using member
    constructor
    · exact families.carried
    · exact families.single
    · exact families.tokensUndrawn
    · intro code member
      rcases cases code member with old | rfl
      · exact families.codesCarry code old
      · exact ⟨family, carries, unseen.nonempty, unseen.undrawn⟩
    · intro left leftIn right rightIn same
      rcases cases left leftIn with leftOld | rfl
      · rcases cases right rightIn with rightOld | rfl
        · exact families.codesApart left leftOld right rightOld same
        · exact absurd (same.trans carries) (unseen.codes left leftOld)
      · rcases cases right rightIn with rightOld | rfl
        · exact absurd (same.symm.trans carries) (unseen.codes right rightOld)
        · rfl
    · intro code codeIn unused other member same
      rcases cases code codeIn with old | rfl
      · exact families.unusedFree code old unused other member same
      · exact unseen.tokens other member (same.trans carries)

/-! ### Authorization requests -/

/-- The state `issue_code` leaves: five readings, and the insertion of a code
whose family is the third identifier drawn. -/
theorem issue_code_state (env : Env) (world : World) (request : CodeRequest) :
    ∃ drawn row, drawn = (env.interp (.ambient (.tokenUrlsafe 32))
        (env.interp (.ambient .uuid4Hex) (env.interp (.ambient .now) world).2).2).2 ∧
      row.tokenFamily = some (env.platform.random drawn.process.draws) ∧
      serve env world (.issueCode request) =
        (env.interp (.command (.saveAuthorizationCode row))
          (env.interp (.ambient .now) (env.interp (.ambient .uuid4Hex) drawn).2).2).2 := by
  have state : serve env world (.issueCode request) =
      ((issueCode env request).run env.interp world).2 := by
    refine (state_discard _).trans ?_
    exact congrArg Prod.snd (run_map_error env.interp _ (issueCode env request) world)
  have unchanged : ∀ (saved : Except StorageError Unit) (row : AuthorizationCode) (world : World),
      ((insertOrRaise saved >>= fun _ => pure row : Service AuthorizationCode).run
        env.interp world).2 = world := by
    intro saved row world
    cases saved <;> rfl
  rw [state]
  unfold issueCode
  rw [run_ambient_bind, run_ambient_bind, run_ambient_bind, run_ambient_bind, run_ambient_bind]
  dsimp only
  rw [run_command_bind, unchanged]
  exact ⟨_, _, rfl, rfl, rfl⟩

theorem families_issue_code (distinct : Distinct env) (request : CodeRequest)
    (families : Families env world) : Families env (serve env world (.issueCode request)) := by
  obtain ⟨drawn, row, reached, carries, state⟩ := issue_code_state env world request
  have settled : Families env drawn := by
    rw [reached]
    exact families_inert trivial (families_inert trivial (families_inert trivial families))
  rw [state]
  refine families_issue ?_ carries ?_
  · exact families_inert trivial (families_inert trivial settled)
  · have unseen := unseen_draw distinct settled
    exact ⟨unseen.nonempty, undrawn_step _ unseen.undrawn, unseen.tokens, unseen.codes⟩

/-! ### Token requests -/

/-- What a token request needs of the family it is about to add a row to. -/
structure Ready (env : Env) (session : Session) (world : World) : Prop where
  refresh : ∀ row, session.grounds = some (.refresh row) →
    (session.stage = .found → row ∈ world.store.tokens.rows) ∧
      (session.stage = .claimed → ∃ family, row.tokenFamily = some family ∧
        Vacant env family world)
  code : ∀ row, session.grounds = some (.code row) →
    (session.stage = .found → row ∈ world.store.codes.rows) ∧
      (session.stage = .claimed → ∃ family, row.tokenFamily = some family ∧
        Vacant env family world)
  drawn : ∀ family, session.drawn = some family → Vacant env family world

/-- The request has not inserted its row yet. -/
def Unsettled (session : Session) : Prop :=
  session.issuance = .pending ∨ ∃ request, session.issuance = .entered request

structure Guarded (env : Env) (session : Session) (world : World) : Prop where
  families : Families env world
  ready : Unsettled session → Ready env session world
  consistent : Consistent session

section Step

variable {session : Session} {op : Op}

/-- A request that has not inserted its row has inserted nothing. -/
theorem inert_of_unsettled {answer : op.Ans} (move : Move session op)
    (unsettled : Unsettled (after session op answer)) : Unsettled session ∧ Inert op := by
  constructor
  · cases issuance : session.issuance with
    | pending => exact Or.inl issuance
    | entered request => exact Or.inr ⟨request, issuance⟩
    | saved request row => simp [Unsettled, after, issuance] at unsettled
    | refused request => simp [Unsettled, after, issuance] at unsettled
  · cases move with
    | aside settled =>
        rcases op with read | write | act
        · trivial
        · cases settled
        · trivial
    | save request row entered records =>
        rw [Unsettled, after_entered entered] at unsettled
        cases answer <;> simp at unsettled
    | _ => trivial

/-- The tokens stay while the request has done nothing about its own. -/
theorem tokens_same_of_found {answer : op.Ans} (move : Move session op)
    (unsettled : Unsettled (after session op answer))
    (found : (after session op answer).stage = .found) :
    (env.interp op world).2.store.tokens = world.store.tokens := by
  rcases op with read | write | act
  · rfl
  · by_cases apart : writesTokens write = false
    · exact tokens_kept apart
    · cases move with
      | aside settled => cases settled
      | rotate row refreshToken pending =>
          rw [after_pending pending] at found
          cases found
      | sweepCode row family pending =>
          rw [after_pending pending] at found
          cases found
      | sweepRefresh row family pending =>
          rw [after_pending pending] at found
          cases found
      | save request row entered records =>
          exact (inert_of_unsettled (.save request row entered records) unsettled).2.elim
      | _ => exact absurd rfl apart
  · rfl

/-- The family of a refresh token that is rotated is left without a live one. -/
theorem vacant_rotated {row : Token} (families : Families env world)
    (member : row ∈ world.store.tokens.rows) (live : Live row) :
    ∃ family, row.tokenFamily = some family ∧
      Vacant env family (env.interp (.command (.revokeToken row.accessToken)) world).2 := by
  obtain ⟨family, carries, nonempty⟩ := families.carried row member live.2
  have inert : Inert (.command (.revokeToken row.accessToken)) := trivial
  refine ⟨family, carries, nonempty, ?_, ?_, ?_⟩
  · exact undrawn_step _ (families.tokensUndrawn row member family carries)
  · intro other otherIn otherCarries otherLive
    obtain ⟨before, old, evolves⟩ := token_before inert otherIn
    have one := families.single before old row member (live_of_evolves evolves otherLive) live
      (evolves.tokenFamily.symm.trans (otherCarries.trans carries.symm))
    have covers : ∀ stored : Token, (stored.accessToken == row.accessToken) = true →
        stored.revoked = false →
          (stored.accessToken == row.accessToken || stored.refreshToken == some row.accessToken) =
            true := by
      intro stored hit _
      rw [hit, Bool.true_or]
    have revoked := revoked_of_matching (fun stored => stored.accessToken == row.accessToken) covers
      otherIn (by simp [evolves.accessToken, one])
    rw [otherLive.1] at revoked
    cases revoked
  · intro code codeIn codeCarries
    by_contra unused
    have free := families.unusedFree code codeIn (by simpa using unused) row member
    exact free (carries.trans codeCarries.symm)

/-- The family of a code that is claimed has no token yet, and no other code. -/
theorem vacant_claimed {row : AuthorizationCode} (families : Families env world)
    (member : row ∈ world.store.codes.rows) (unused : row.used = false) :
    ∃ family, row.tokenFamily = some family ∧
      Vacant env family (env.interp (.command (.markAuthorizationCodeUsed row.code)) world).2 := by
  obtain ⟨family, carries, nonempty, undrawn⟩ := families.codesCarry row member
  refine ⟨family, carries, nonempty, undrawn_step _ undrawn, ?_, ?_⟩
  · intro other otherIn otherCarries _
    exact families.unusedFree row member unused other otherIn (otherCarries.trans carries.symm)
  · intro code codeIn codeCarries
    rw [interp_command, codes_after_mark] at codeIn
    obtain ⟨before, old, rfl⟩ := List.mem_map.1 codeIn
    have sameFamily : before.tokenFamily = some family := by
      split at codeCarries <;> exact codeCarries
    have one := families.codesApart before old row member (sameFamily.trans carries.symm)
    rw [one]
    simp [unused]

theorem ready_refresh {row : Token} (move : Move session op) (families : Families env world)
    (ready : Ready env session world)
    (unsettled : Unsettled (after session op (env.interp op world).1))
    (known : (after session op (env.interp op world).1).grounds = some (.refresh row)) :
    ((after session op (env.interp op world).1).stage = .found →
        row ∈ (env.interp op world).2.store.tokens.rows) ∧
      ((after session op (env.interp op world).1).stage = .claimed →
        ∃ family, row.tokenFamily = some family ∧ Vacant env family (env.interp op world).2) := by
  constructor
  · intro found
    rcases grounds_after move known with kept | ⟨_, _, reads⟩
    · rw [tokens_same_of_found move unsettled found]
      exact (ready.refresh row kept).1 (found_before found)
    · generalize given : (env.interp op world).1 = answer at reads
      cases reads with
      | refresh looked row => exact (Table.mem_of_first given).1
  · intro claimed
    obtain ⟨kept, already | ⟨found, claims⟩⟩ := claimed_after move known claimed
    · obtain ⟨family, carries, vacant⟩ := (ready.refresh row kept).2 already
      exact ⟨family, carries, vacant_inert (inert_of_unsettled move unsettled).2 vacant⟩
    · generalize (env.interp op world).1 = answer at claims
      cases claims with
      | refresh row live refreshToken carries presents =>
          have stored := (ready.refresh row kept).1 found
          exact vacant_rotated families stored ⟨live, by rw [carries]; rfl⟩

theorem ready_code {row : AuthorizationCode} (move : Move session op)
    (families : Families env world) (ready : Ready env session world)
    (unsettled : Unsettled (after session op (env.interp op world).1))
    (known : (after session op (env.interp op world).1).grounds = some (.code row)) :
    ((after session op (env.interp op world).1).stage = .found →
        row ∈ (env.interp op world).2.store.codes.rows) ∧
      ((after session op (env.interp op world).1).stage = .claimed →
        ∃ family, row.tokenFamily = some family ∧ Vacant env family (env.interp op world).2) := by
  constructor
  · intro found
    exact code_stored move (fun row kept => (ready.code row kept).1) known found
  · intro claimed
    obtain ⟨kept, already | ⟨found, claims⟩⟩ := claimed_after move known claimed
    · obtain ⟨family, carries, vacant⟩ := (ready.code row kept).2 already
      exact ⟨family, carries, vacant_inert (inert_of_unsettled move unsettled).2 vacant⟩
    · generalize (env.interp op world).1 = answer at claims
      cases claims with
      | code row unused presents count won =>
          exact vacant_claimed families ((ready.code row kept).1 found) unused

theorem ready_drawn (distinct : Distinct env) (move : Move session op)
    (families : Families env world) (ready : Ready env session world)
    (unsettled : Unsettled (after session op (env.interp op world).1))
    (drawn : (after session op (env.interp op world).1).drawn = some family) :
    Vacant env family (env.interp op world).2 := by
  rcases drawn_after drawn with before | now
  · exact vacant_inert (inert_of_unsettled move unsettled).2 (ready.drawn family before)
  · obtain ⟨rfl, answer⟩ := Sigma.mk.inj_iff.1 now
    have same : env.platform.random world.process.draws = family := eq_of_heq answer
    rw [← same]
    exact (unseen_draw distinct families).vacant

/-- The row a request inserts fits into the families. -/
theorem fits_of_entitled {request : IssueRequest} {row : Token} (ready : Ready env session world)
    (entitled : session.Entitles request) (records : Records request row) :
    row.refreshToken.isSome = false ∧ row.tokenFamily = none ∨
      ∃ family, row.tokenFamily = some family ∧ Vacant env family world := by
  rw [records.refresh, records.tokenFamily]
  obtain ⟨_, _, grounds⟩ := entitled
  split at grounds
  · rename_i found known
    obtain ⟨_, claimed, _, _, _, _, _, sameFamily⟩ := grounds
    rw [sameFamily]
    exact Or.inr ((ready.code found known).2 claimed)
  · rename_i found known
    obtain ⟨_, claimed, _, _, _, _, _, _, sameFamily⟩ := grounds
    obtain ⟨family, carries, vacant⟩ := (ready.refresh found known).2 claimed
    refine Or.inr ⟨family, ?_, vacant⟩
    rw [sameFamily, carries]
    simp [vacant.nonempty]
  · obtain ⟨_, _, _, _, _, _, _, present, drawn⟩ := grounds
    obtain ⟨family, carries⟩ := Option.isSome_iff_exists.1 present
    exact Or.inr ⟨family, carries, ready.drawn family (drawn.symm.trans carries)⟩
  · obtain ⟨_, _, _, _, _, plain, none⟩ := grounds
    exact Or.inl ⟨plain, none⟩
  · exact grounds.elim
  · obtain ⟨_, _, plain, none, _⟩ := grounds
    exact Or.inl ⟨plain, none⟩

theorem guarded_move (distinct : Distinct env) (move : Move session op)
    (guarded : Guarded env session world) :
    Guarded env (after session op (env.interp op world).1) (env.interp op world).2 := by
  refine ⟨?_, ?_, consistent_after move guarded.consistent⟩
  · by_cases inert : Inert op
    · exact families_inert inert guarded.families
    · cases move with
      | aside settled =>
          rcases op with read | write | act
          · exact absurd trivial inert
          · cases settled
          · exact absurd trivial inert
      | save request row entered records =>
          have entitled := guarded.consistent
          simp only [Consistent, entered] at entitled
          have ready := guarded.ready (Or.inr ⟨request, entered⟩)
          exact families_save guarded.families (fits_of_entitled ready entitled records)
      | _ => exact absurd trivial inert
  · intro unsettled
    have ready := guarded.ready (inert_of_unsettled move unsettled).1
    constructor
    · exact fun row => ready_refresh move guarded.families ready unsettled
    · exact fun row => ready_code move guarded.families ready unsettled
    · exact fun family => ready_drawn distinct move guarded.families ready unsettled

end Step

theorem token_state (request : Request) :
    serve env world (.token request) = ((token env request).run env.interp world).2 :=
  state_discard _

theorem families_token (distinct : Distinct env) (request : Request)
    (families : Families env world) : Families env (serve env world (.token request)) := by
  have base : Guarded env { origin := .token request } world := by
    refine ⟨families, fun _ => ⟨?_, ?_, ?_⟩, trivial⟩
    · intro row known
      cases known
    · intro row known
      cases known
    · intro family known
      cases known
  obtain ⟨session, _, guarded⟩ := token_run_invariant env world request (Guarded env)
    (fun _ _ => True) (fun _ _ _ move _ => guarded_move distinct move)
    (along_of_forall env.interp (fun _ _ => trivial) _ world) base
  rw [token_state]
  exact guarded.families

/-! ### Runs -/

theorem families_serve (distinct : Distinct env) (request : ServerRequest)
    (families : Families env world) : Families env (serve env world request) := by
  by_cases asks : ∃ asked, request = .token asked
  · obtain ⟨asked, rfl⟩ := asks
    exact families_token distinct asked families
  · by_cases authorizes : ∃ asked, request = .issueCode asked
    · obtain ⟨asked, rfl⟩ := authorizes
      exact families_issue_code distinct asked families
    · exact serve_inert (fun asked same => asks ⟨asked, same⟩)
        (fun asked same => authorizes ⟨asked, same⟩) (Families env)
        (fun op world inert => families_inert inert) families

theorem families_run (distinct : Distinct env) (families : Families env world)
    (requests : List ServerRequest) : Families env (serveAll env world requests) :=
  serve_all_invariant (Families env) (fun _ _ => True)
    (fun _ request _ => families_serve distinct request) families requests
    (throughout_of_forall (fun _ _ => trivial) requests)

/-- A row is kept for ever, and what is revoked stays revoked. -/
theorem row_kept {row : Token} (requests : List ServerRequest)
    (member : row ∈ world.store.tokens.rows) :
    ∃ later ∈ (serveAll env world requests).store.tokens.rows, Evolves row later := by
  refine serve_all_invariant (fun world => ∃ later ∈ world.store.tokens.rows, Evolves row later)
    (fun _ _ => True) ?_ ⟨row, member, Evolves.refl row⟩ requests
    (throughout_of_forall (fun _ _ => trivial) requests)
  intro _ request _ kept
  refine run_keeps env.interp (fun world => ∃ later ∈ world.store.tokens.rows, Evolves row later)
    ?_ (request.program env) kept
  rintro op _ ⟨stored, storedIn, evolves⟩
  obtain ⟨later, laterIn, further⟩ := (tokens_moved env _ op).persists Evolves.refl storedIn
  exact ⟨later, laterIn, evolves.trans further⟩

/-! ### A family without a live token -/

/-- The request has nothing that would lead to a row of the family. -/
structure Barren (env : Env) (family : String) (session : Session) (world : World) : Prop where
  vacant : Vacant env family world
  refresh : ∀ row, session.grounds = some (.refresh row) → Live row →
    row.tokenFamily ≠ some family
  code : ∀ row, session.grounds = some (.code row) → row.used = false →
    row.tokenFamily ≠ some family
  drawn : session.drawn ≠ some family
  consistent : Consistent session

section Barren

variable {session : Session} {op : Op}

theorem not_entitled {request : IssueRequest} (barren : Barren env family session world)
    (entitled : session.Entitles request) : request.tokenFamily ≠ some family := by
  intro carries
  obtain ⟨_, _, grounds⟩ := entitled
  split at grounds
  · rename_i row known
    obtain ⟨_, _, _, unused, _, _, _, sameFamily⟩ := grounds
    exact barren.code row known unused (sameFamily.symm.trans carries)
  · rename_i row known
    obtain ⟨⟨refreshToken, _, own⟩, _, _, live, _, _, _, _, sameFamily⟩ := grounds
    rw [carries] at sameFamily
    rcases Option.or_eq_some_iff.1 sameFamily.symm with kept | ⟨_, drawn⟩
    · exact barren.refresh row known ⟨live, by rw [own]; rfl⟩ (Option.filter_eq_some_iff.1 kept).1
    · exact barren.drawn drawn
  · obtain ⟨_, _, _, _, _, _, _, _, drawn⟩ := grounds
    exact barren.drawn (drawn.symm.trans carries)
  · obtain ⟨_, _, _, _, _, _, none⟩ := grounds
    rw [carries] at none
    cases none
  · exact grounds.elim
  · obtain ⟨_, _, _, none, _⟩ := grounds
    rw [carries] at none
    cases none

/-- A row of another family, or none, does not end the vacancy. -/
theorem vacant_save {row : Token} (vacant : Vacant env family world)
    (other : row.tokenFamily ≠ some family) :
    Vacant env family (env.interp (.command (.saveToken row)) world).2 where
  nonempty := vacant.nonempty
  undrawn := vacant.undrawn
  tokens := by
    intro stored member carries live
    rcases (tokens_moved env world _).origin Evolves.refl member with
      ⟨before, old, evolves⟩ | inserted
    · exact vacant.tokens before old (evolves.tokenFamily.symm.trans carries)
        (live_of_evolves evolves live)
    · cases inserted
      exact other carries
  codes := by
    intro code member carries
    have same : (env.interp (.command (.saveToken row)) world).2.store.codes = world.store.codes :=
      codes_kept rfl
    rw [same] at member
    exact vacant.codes code member carries

theorem vacant_issue {row : AuthorizationCode} (vacant : Vacant env family world)
    (other : row.tokenFamily ≠ some family) :
    Vacant env family (env.interp (.command (.saveAuthorizationCode row)) world).2 where
  nonempty := vacant.nonempty
  undrawn := vacant.undrawn
  tokens := by
    intro stored member carries
    have same : (env.interp (.command (.saveAuthorizationCode row)) world).2.store.tokens =
        world.store.tokens := tokens_kept rfl
    rw [same] at member
    exact vacant.tokens stored member carries
  codes := by
    intro code member carries
    rcases (codes_step env.backend world.store (.saveAuthorizationCode row)).origin Spends.refl
      member with ⟨before, old, spends⟩ | inserted
    · have used := vacant.codes before old ((spends_family spends).2.symm.trans carries)
      rcases spends with rfl | rfl
      · exact used
      · rfl
    · cases inserted
      exact absurd carries other

theorem barren_move (move : Move session op) (barren : Barren env family session world) :
    Barren env family (after session op (env.interp op world).1) (env.interp op world).2 := by
  refine ⟨?_, ?_, ?_, drawn_step op barren.vacant.undrawn barren.drawn,
    consistent_after move barren.consistent⟩
  · by_cases inert : Inert op
    · exact vacant_inert inert barren.vacant
    · cases move with
      | aside settled =>
          rcases op with read | write | act
          · exact absurd trivial inert
          · cases settled
          · exact absurd trivial inert
      | save request row entered records =>
          have entitled := barren.consistent
          simp only [Consistent, entered] at entitled
          refine vacant_save barren.vacant ?_
          rw [records.tokenFamily]
          exact not_entitled barren entitled
      | _ => exact absurd trivial inert
  · intro row known live carries
    rcases grounds_after move known with kept | ⟨_, _, reads⟩
    · exact barren.refresh row kept live carries
    · generalize given : (env.interp op world).1 = answer at reads
      cases reads with
      | refresh looked row =>
          exact barren.vacant.tokens row (Table.mem_of_first given).1 carries live
  · intro row known unused carries
    rcases grounds_after move known with kept | ⟨_, _, reads⟩
    · exact barren.code row kept unused carries
    · generalize given : (env.interp op world).1 = answer at reads
      cases reads with
      | code looked row =>
          have used := barren.vacant.codes row (Table.mem_of_first given).1 carries
          rw [unused] at used
          cases used

end Barren

theorem barren_start (vacant : Vacant env family world) (request : Request) :
    Barren env family { origin := .token request } world := by
  refine ⟨vacant, ?_, ?_, ?_, trivial⟩
  · intro row known
    cases known
  · intro row known
    cases known
  · intro known
    cases known

/-- A family that has lost its live token never gets another. -/
theorem vacant_serve (request : ServerRequest) (vacant : Vacant env family world) :
    Vacant env family (serve env world request) := by
  by_cases asks : ∃ asked, request = .token asked
  · obtain ⟨asked, rfl⟩ := asks
    obtain ⟨session, _, barren⟩ := token_run_invariant env world asked (Barren env family)
      (fun _ _ => True) (fun _ _ _ move _ => barren_move move)
      (along_of_forall env.interp (fun _ _ => trivial) _ world) (barren_start vacant asked)
    rw [token_state]
    exact barren.vacant
  · by_cases authorizes : ∃ asked, request = .issueCode asked
    · obtain ⟨asked, rfl⟩ := authorizes
      obtain ⟨drawn, row, reached, carries, state⟩ := issue_code_state env world asked
      have settled : Vacant env family drawn := by
        rw [reached]
        exact vacant_inert trivial (vacant_inert trivial (vacant_inert trivial vacant))
      have other : row.tokenFamily ≠ some family := by
        rw [carries]
        intro same
        exact settled.undrawn drawn.process.draws (le_refl _) (Option.some.inj same)
      rw [state]
      exact vacant_issue (vacant_inert trivial (vacant_inert trivial settled)) other
    · exact serve_inert (fun asked same => asks ⟨asked, same⟩)
        (fun asked same => authorizes ⟨asked, same⟩) (Vacant env family)
        (fun op world inert => vacant_inert inert) vacant

/-! ### Reuse of a revoked refresh token -/

/-- The request passes what comes before the grant and finds a revoked refresh
token of its own client. -/
structure FindsRevoked (env : Env) (world : World) (request : Request) (row : Token) : Prop where
  finds : ∃ text, (Origin.token request).Presents .refreshToken "refresh_token" text ∧
    text ≠ "" ∧ refreshRow text world = some row
  passes : ∃ context later, (preGrant env request).run env.interp world = (.ok context, later) ∧
    grantAllowed env context.client Grant.refreshToken.name = some true ∧
    row.clientId = context.client.clientId
  revoked : row.revoked = true

theorem refuse_revoked_bind {row : Token} (carries : row.tokenFamily = some family)
    (nonempty : family ≠ "") {α β : Type} (rest : α → Handler β) :
    ((refuseRevoked row >>= rest).run env.interp world).2.store =
      (Command.exec env.backend world.store (.revokeTokenFamily family)).2 := by
  have kept : row.tokenFamily.filter (· != "") = some family := by
    rw [carries]
    simp [nonempty]
  unfold refuseRevoked
  rw [kept]
  rfl

theorem swept_store {request : Request} {row : Token} (finds : FindsRevoked env world request row)
    (carries : row.tokenFamily = some family) (nonempty : family ≠ "") :
    (serve env world (.token request)).store =
      (Command.exec env.backend world.store (.revokeTokenFamily family)).2 := by
  obtain ⟨⟨text, ⟨_, asked, asks, presents⟩, given, found⟩,
    ⟨context, later, passed, allowed, own⟩, revoked⟩ := finds
  cases asked
  have store : later.store = world.store := by
    have kept : ((preGrant env request).run env.interp world).2.store = world.store :=
      store_of_read_only (uses_pre_grant env request)
    rw [passed] at kept
    exact kept
  have shown : (request.form.get "refresh_token").filter (· != "") = some text := by
    rw [presents]
    simp [given]
  have answered : Query.eval env.backend later.store (.getTokenByRefreshToken text) = some row := by
    rw [store]
    exact found
  rw [token_state, token_run asks passed, ← store]
  have checked : (checkRefresh env context request).run env.interp later =
      (refuseRevoked row : Handler Rotation).run env.interp later := by
    unfold checkRefresh requireGrant
    rw [allowed, shown]
    simp only [Bool.not_true, returnIf, rejectIf, Bool.false_eq_true, if_false, done_bind]
    refine (run_query_bind _ _).trans ?_
    rw [answered]
    simp [own, revoked]
  change ((TokenEndpoint.refreshToken env context request).run env.interp later).2.store = _
  unfold TokenEndpoint.refreshToken
  rw [run_bind, checked, ← run_bind]
  exact refuse_revoked_bind carries nonempty _
theorem vacant_of_revoked {row : Token} (families : Families env world)
    (member : row ∈ world.store.tokens.rows) (carries : row.tokenFamily = some family)
    (nonempty : family ≠ "")
    (revoked : ∀ other ∈ world.store.tokens.rows, other.tokenFamily = some family →
      other.revoked = true) : Vacant env family world where
  nonempty := nonempty
  undrawn := families.tokensUndrawn row member family carries
  tokens := by
    intro other otherIn otherCarries live
    have ended := revoked other otherIn otherCarries
    rw [live.1] at ended
    cases ended
  codes := by
    intro code codeIn codeCarries
    by_contra unused
    have free := families.unusedFree code codeIn (by simpa using unused) row member
    exact free (carries.trans codeCarries.symm)

/-- A refresh token that is found revoked is refused. -/
theorem revoked_refused {request : Request} {text : String}
    (presents : (Origin.token request).Presents .refreshToken "refresh_token" text)
    (revoked : RefreshRevoked text world) :
    (respond env.interp (token env request) world).1.status ≠ 200 := by
  let inv : Session → World → Prop := fun session world =>
    session.origin = .token request ∧ RefreshRevoked text world ∧
      ∀ row, session.grounds = some (.refresh row) → row.refreshToken = some text →
        row.revoked = true
  have preserved : ∀ session world op, Move session op → True → inv session world →
      inv (after session op (env.interp op world).1) (env.interp op world).2 := by
    rintro session world op move _ ⟨asked, revoked, known⟩
    refine ⟨(after_origin _ _ _).trans asked, refresh_revoked_step op revoked, ?_⟩
    intro row grounds carries
    rcases grounds_after move grounds with kept | ⟨_, _, reads⟩
    · exact known row kept carries
    · generalize given : (env.interp op world).1 = answer at reads
      cases reads with
      | refresh looked row =>
          have key : row.refreshToken = some looked := by
            simpa using (Table.mem_of_first given).2
          cases key.symm.trans carries
          obtain ⟨stored, found, ended⟩ := revoked
          cases found.symm.trans given
          exact ended
  obtain ⟨session, ended, asked, _, known⟩ := token_run_invariant env world request inv
    (fun _ _ => True) preserved (along_of_forall env.interp (fun _ _ => trivial) _ world)
    ⟨rfl, revoked, fun row known => by cases known⟩
  unfold respond
  generalize (token env request).run env.interp world = outcome at ended ⊢
  rcases outcome with ⟨response | response, reached⟩
  · exact (ended ⟨request, asked⟩).1
  · obtain ⟨_, issued, _, _, _, entitled⟩ := ended ⟨request, asked⟩
    rw [← asked] at presents
    obtain ⟨row, grounds, carries, byRefresh⟩ := entitled_by_refresh entitled presents
    have ended := known row grounds carries
    rw [byRefresh.2.2.2.1] at ended
    cases ended
/-- Nothing has been issued yet, and every code has a family of its own. -/
structure Unissued (env : Env) (world : World) : Prop where
  tokens : world.store.tokens.rows = []
  codesCarry : ∀ code ∈ world.store.codes.rows, ∃ family, code.tokenFamily = some family ∧
    family ≠ "" ∧ Undrawn env family world
  codesApart : ∀ left ∈ world.store.codes.rows, ∀ right ∈ world.store.codes.rows,
    left.tokenFamily = right.tokenFamily → left = right

theorem families_of_unissued (unissued : Unissued env world) : Families env world := by
  have none : ∀ row, row ∉ world.store.tokens.rows := by
    intro row member
    rw [unissued.tokens] at member
    cases member
  refine ⟨?_, ?_, ?_, unissued.codesCarry, unissued.codesApart, ?_⟩
  · exact fun row member => absurd member (none row)
  · exact fun left member => absurd member (none left)
  · exact fun row member => absurd member (none row)
  · exact fun code _ _ row member => absurd member (none row)

/-- A refresh token once found revoked leaves its family without a live one. -/
theorem vacant_of_reuse (distinct : Distinct env) (families : Families env world)
    {request : Request} {row : Token} (finds : FindsRevoked env world request row)
    (carries : row.tokenFamily = some family) :
    Vacant env family (serve env world (.token request)) := by
  obtain ⟨text, _, _, found⟩ := finds.finds
  have stored := Table.mem_of_first found
  have refresh : row.refreshToken = some text := by simpa using stored.2
  obtain ⟨own, ownCarries, nonempty⟩ := families.carried row stored.1 (by rw [refresh]; rfl)
  cases carries.symm.trans ownCarries
  have swept := swept_store finds carries nonempty
  have settled := families_serve distinct (.token request) families
  obtain ⟨later, laterIn, evolves⟩ := row_kept [.token request] stored.1
  refine vacant_of_revoked settled laterIn (evolves.tokenFamily.trans carries) nonempty ?_
  intro other otherIn otherCarries
  rw [swept] at otherIn
  exact revoked_of_matching (fun stored => stored.tokenFamily == some family)
    (fun stored hit _ => hit) otherIn (by simp [otherCarries])

/-- The status of a token request handled alone. -/
def tokenStatus (env : Env) (world : World) (request : Request) : Nat :=
  (respond env.interp (token env request) world).1.status

/-- Over every sequence of requests handled one after the other: a refresh token
has a family, a family has at most one live refresh token, nothing revoked is
live again, and once a revoked refresh token of a family is found by a refresh
request of its own client, no refresh token of the family is good for another. -/
theorem families_keep_one_live_token (env : Env) (world : World) (distinct : Distinct env)
    (unissued : Unissued env world) :
    (∀ requests, ∀ row ∈ (serveAll env world requests).store.tokens.rows,
      row.refreshToken.isSome = true → row.tokenFamily.isSome = true) ∧
    (∀ requests, ∀ left ∈ (serveAll env world requests).store.tokens.rows,
      ∀ right ∈ (serveAll env world requests).store.tokens.rows, Live left → Live right →
        left.tokenFamily = right.tokenFamily → left = right) ∧
    (∀ earlier later, ∀ row ∈ (serveAll env world earlier).store.tokens.rows,
      row.revoked = true →
        (∃ kept ∈ (serveAll env world (earlier ++ later)).store.tokens.rows,
          kept.accessToken = row.accessToken) ∧
        ∀ kept ∈ (serveAll env world (earlier ++ later)).store.tokens.rows,
          kept.accessToken = row.accessToken → kept.revoked = true) ∧
    (∀ earlier later request row family again text other,
      FindsRevoked env (serveAll env world earlier) request row →
      row.tokenFamily = some family →
      (Origin.token again).Presents .refreshToken "refresh_token" text →
      refreshRow text (serveAll env world (earlier ++ .token request :: later)) = some other →
      other.tokenFamily = some family →
      tokenStatus env (serveAll env world (earlier ++ .token request :: later)) again ≠ 200) := by
  have families := families_of_unissued unissued
  refine ⟨?_, ?_, ?_, ?_⟩
  · intro requests row member refresh
    obtain ⟨family, carries, _⟩ := (families_run distinct families requests).carried row member
      refresh
    rw [carries]
    rfl
  · intro requests
    exact (families_run distinct families requests).single
  · intro earlier later row member revoked
    rw [serve_all_append]
    obtain ⟨kept, keptIn, evolves⟩ := row_kept later member
    refine ⟨⟨kept, keptIn, evolves.accessToken⟩, ?_⟩
    intro other otherIn sameToken
    have one := Table.eq_of_index _ (List.mem_singleton.2 rfl) otherIn keptIn
      (sameToken.trans evolves.accessToken.symm)
    rw [one]
    exact evolves.revoked revoked
  · intro earlier later request row family again text other finds carries presents found
      otherCarries
    rw [serve_all_append] at found ⊢
    have swept := vacant_of_reuse distinct (families_run distinct families earlier) finds carries
    have vacant := serve_all_invariant (Vacant env family) (fun _ _ => True)
      (fun world request _ => vacant_serve request) swept later
      (throughout_of_forall (fun _ _ => trivial) later)
    have stored := Table.mem_of_first found
    have dead := vacant.tokens other stored.1 otherCarries
    have refresh : other.refreshToken = some text := by simpa using stored.2
    have revoked : other.revoked = true := by
      by_contra live
      exact dead ⟨by simpa using live, by rw [refresh]; rfl⟩
    exact revoked_refused presents ⟨other, found, revoked⟩

/-! ### A sample family -/

theorem sample_random (draw : Nat) :
    sampleEnv.platform.random draw = "random-" ++ Nat.repr draw := rfl

theorem sample_distinct : Distinct sampleEnv := by
  constructor
  · intro left right same
    rw [sample_random, sample_random] at same
    have digits : Nat.toDigits 10 left = Nat.toDigits 10 right := by
      rw [← Nat.toList_repr, ← Nat.toList_repr, (String.append_right_inj _).1 same]
    rw [← Nat.ofDigitChars_ten_toDigits (n := left), digits, Nat.ofDigitChars_ten_toDigits]
  · intro draw empty
    have length := congrArg String.length empty
    rw [sample_random, String.length_append] at length
    have start : "random-".length = 7 := rfl
    have nothing : "".length = 0 := rfl
    omega

theorem sample_unissued : Unissued sampleEnv sampleCodeWorld := by
  have only : ∀ code ∈ sampleCodeWorld.store.codes.rows, code = sampleCode := by
    intro code member
    exact List.mem_singleton.1 member
  refine ⟨rfl, ?_, ?_⟩
  · intro code member
    rw [only code member]
    refine ⟨"family", rfl, by decide, ?_⟩
    intro draw _ same
    have first := congrArg (fun text : String => text.toList.head?) same
    simp [sample_random] at first
  · intro left leftIn right rightIn _
    rw [only left leftIn, only right rightIn]

/-- A refresh request of the sample client. -/
def samplePresents (text : String) : Request where
  form := [("grant_type", "refresh_token"), ("client_id", "app"), ("refresh_token", text)]

/-- The sample code is redeemed and its refresh token rotated. -/
def sampleRotated : List ServerRequest :=
  [.token sampleRedemption, .token (samplePresents "random-1")]

/-- The rotated family, computed: before the first token is presented again, after
it, and after it is presented with a `DPoP` header that is no text. -/
theorem sample_family_computed :
    ((refreshRow "random-1" (serveAll sampleEnv sampleCodeWorld sampleRotated)).map
        (fun row => (row.revoked, row.clientId, row.tokenFamily)) =
          some (true, "app", some "family") ∧
      ((preGrant sampleEnv (samplePresents "random-1")).run sampleEnv.interp
        (serveAll sampleEnv sampleCodeWorld sampleRotated)).1.toOption.map (fun context =>
          (grantAllowed sampleEnv context.client Grant.refreshToken.name,
            context.client.clientId)) = some (some true, "app") ∧
      (refreshRow "random-4" (serveAll sampleEnv sampleCodeWorld sampleRotated)).map
        (fun row => (row.revoked, row.clientId, row.tokenFamily)) =
          some (false, "app", some "family") ∧
      tokenStatus sampleEnv (serveAll sampleEnv sampleCodeWorld sampleRotated)
        (samplePresents "random-4") = 200) ∧
    (refreshRow "random-4" (serveAll sampleEnv sampleCodeWorld
      (sampleRotated ++ [.token (samplePresents "random-1")]))).map Token.tokenFamily =
        some (some "family") ∧
    tokenStatus sampleEnv (serveAll sampleEnv sampleCodeWorld (sampleRotated ++
      [.token { samplePresents "random-1" with dpop := some [255] }])) (samplePresents "random-4") =
        200 := by
  decide +kernel

/-- The rotated refresh token is presented again, and found revoked. -/
theorem sample_reuse_found :
    ∃ row, FindsRevoked sampleEnv (serveAll sampleEnv sampleCodeWorld sampleRotated)
      (samplePresents "random-1") row ∧ row.tokenFamily = some "family" := by
  obtain ⟨⟨found, passes, _, _⟩, _, _⟩ := sample_family_computed
  obtain ⟨row, stored, shape⟩ := Option.map_eq_some_iff.1 found
  obtain ⟨revoked, client, carries⟩ : row.revoked = true ∧ row.clientId = "app" ∧
      row.tokenFamily = some "family" := by simpa using shape
  refine ⟨row, ⟨⟨"random-1", ⟨_, rfl, rfl, rfl⟩, by decide, stored⟩, ?_, revoked⟩, carries⟩
  generalize (preGrant sampleEnv (samplePresents "random-1")).run sampleEnv.interp
    (serveAll sampleEnv sampleCodeWorld sampleRotated) = result at passes ⊢
  rcases result with ⟨response | context, later⟩
  · cases passes
  · have both : grantAllowed sampleEnv context.client Grant.refreshToken.name = some true ∧
        context.client.clientId = "app" := by simpa [Except.toOption] using passes
    exact ⟨context, later, rfl, both.1, client.trans both.2.symm⟩

/-- After the reuse the successor of the token, good until then, is refused. -/
theorem families_keep_one_live_token_after_reuse :
    tokenStatus sampleEnv (serveAll sampleEnv sampleCodeWorld sampleRotated)
        (samplePresents "random-4") = 200 ∧
      tokenStatus sampleEnv (serveAll sampleEnv sampleCodeWorld
        (sampleRotated ++ [.token (samplePresents "random-1")])) (samplePresents "random-4") ≠
          200 := by
  obtain ⟨⟨_, _, _, good⟩, successor, _⟩ := sample_family_computed
  refine ⟨good, ?_⟩
  obtain ⟨row, finds, carries⟩ := sample_reuse_found
  obtain ⟨other, stored, shared⟩ := Option.map_eq_some_iff.1 successor
  obtain ⟨_, _, _, refused⟩ := families_keep_one_live_token sampleEnv sampleCodeWorld
    sample_distinct sample_unissued
  have presents : (Origin.token (samplePresents "random-4")).Presents .refreshToken "refresh_token"
      "random-4" := ⟨samplePresents "random-4", rfl, rfl, rfl⟩
  exact refused sampleRotated [] (samplePresents "random-1") row "family"
    (samplePresents "random-4") "random-4" other finds carries presents stored shared

/-- The same reuse with a `DPoP` header that is no text: the request is turned
away before the token is looked up, and the family lives on. -/
theorem reuse_overlooked_before_lookup :
    Distinct sampleEnv ∧ Unissued sampleEnv sampleCodeWorld ∧
    (refreshRow "random-1" (serveAll sampleEnv sampleCodeWorld sampleRotated)).map
        (fun row => (row.revoked, row.clientId, row.tokenFamily)) =
      some (true, "app", some "family") ∧
    (refreshRow "random-4" (serveAll sampleEnv sampleCodeWorld sampleRotated)).map
        (fun row => (row.revoked, row.clientId, row.tokenFamily)) =
      some (false, "app", some "family") ∧
    tokenStatus sampleEnv (serveAll sampleEnv sampleCodeWorld (sampleRotated ++
        [.token { samplePresents "random-1" with dpop := some [255] }])) (samplePresents "random-4") =
      200 := by
  obtain ⟨⟨found, _, successor, _⟩, _, survives⟩ := sample_family_computed
  exact ⟨sample_distinct, sample_unissued, found, successor, survives⟩

end OAuth2Server.TokenFamilies
