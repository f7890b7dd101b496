import OAuth2Server.LoginGate

/-!
# Which account a social login is linked to

`_link_by_verified_email` counts the rows that fold to the verified address, but
only among those the database has picked before, and the database knows another
notion of case and of blanks than Python. An account is linked to unambiguously
as long as no row that folds to the address is left out by the database.
-/

namespace OAuth2Server.AccountLinking

open OAuth2Server Models Storage Effects Interaction Interaction.Program
open Endpoints

set_option autoImplicit false

section Linking

variable {env : Env} {userinfo : SocialUserInfo} {world : World}

/-- The row counts as an account of the address. -/
def folds (env : Env) (userinfo : SocialUserInfo) (row : User) : Bool :=
  foldEmail env row.email == foldEmail env userinfo.email

/-- The database picks the row. -/
def picked (env : Env) (userinfo : SocialUserInfo) (row : User) : Bool :=
  emailMatches env.backend (env.platform.lower (Text.strip (foldEmail env userinfo.email))) row

/-- Linking is enabled and the address was verified by the provider. -/
structure MayLink (env : Env) (userinfo : SocialUserInfo) : Prop where
  enabled : env.config.socialLinkByVerifiedEmail = true
  verified : userinfo.emailVerified = true
  address : foldEmail env userinfo.email ≠ ""

/-- An enabled account without privileges, under both readings of its address. -/
structure Ordinary (env : Env) (row : User) : Prop where
  enabled : row.enabled = true
  role : row.role ≠ "admin"
  casefolded : foldEmail env row.email ∉ env.config.adminEmails
  lowered : env.platform.lower (Text.strip row.email) ∉ env.config.adminEmails

/-- The account returned is an ordinary one and the only one of the whole table
with the address. -/
def LinksUnambiguously (env : Env) (userinfo : SocialUserInfo) (world : World) : Prop :=
  ∀ user later, (linkByVerifiedEmail env userinfo).run env.interp world = (.ok (some user), later) →
    MayLink env userinfo ∧ world.store.users.filter (folds env userinfo) = [user] ∧
      Ordinary env user

theorem single_folds {user : User} {rows : List User}
    (single : rows.filter (folds env userinfo) = [user]) :
    foldEmail env user.email = foldEmail env userinfo.email := by
  have listed : user ∈ rows.filter (folds env userinfo) := by simp [single]
  have same := (List.mem_filter.1 listed).2
  simpa [folds] using same

/-- What `_link_by_verified_email` returns, from the table it looks at. -/
theorem link_some_iff (user : User) (later : World) :
    (linkByVerifiedEmail env userinfo).run env.interp world = (.ok (some user), later) ↔
      later = world ∧ MayLink env userinfo ∧
        (world.store.users.filter (picked env userinfo)).filter (folds env userinfo) = [user] ∧
        Ordinary env user := by
  have asked : ∀ rest : List User → Service (Option User),
      (query (.getUsersByEmail (env.platform.lower (Text.strip (foldEmail env userinfo.email)))) >>=
        rest).run env.interp world =
      (rest (world.store.users.filter (picked env userinfo))).run env.interp world := fun _ => rfl
  unfold linkByVerifiedEmail
  dsimp only
  constructor
  · intro ran
    split at ran
    · cases ran
    · rename_i gate
      simp only [Bool.or_eq_true, Bool.not_eq_true', beq_iff_eq, not_or, Bool.not_eq_false]
        at gate
      rw [asked] at ran
      split at ran
      · rename_i candidate single
        split at ran
        · cases ran
        · rename_i admitted
          cases ran
          simp only [Bool.or_eq_true, beq_iff_eq, Bool.not_eq_true', not_or, Bool.not_eq_false,
            List.contains_iff_mem] at admitted
          have same := single_folds single
          refine ⟨rfl, ⟨gate.1.1, gate.1.2, gate.2⟩, single, ?_⟩
          refine ⟨admitted.2, admitted.1.1.1, ?_, admitted.1.2⟩
          rw [same]
          exact admitted.1.1.2
      · cases ran
  · rintro ⟨unmoved, may, single, ordinary⟩
    have same := single_folds single
    have passed : (!env.config.socialLinkByVerifiedEmail || !userinfo.emailVerified ||
        foldEmail env userinfo.email == "") = false := by
      simp [may.enabled, may.verified, may.address]
    have casefolded := ordinary.casefolded
    rw [same] at casefolded
    have alone : ((world.store.users.filter (picked env userinfo)).filter fun row =>
        foldEmail env row.email == foldEmail env userinfo.email) = [user] := single
    rw [unmoved, if_neg (by simp [passed]), asked, alone]
    simp [ordinary.enabled, ordinary.role, casefolded, ordinary.lowered]

/-- A row of the address that the database leaves out. -/
def LeftOut (env : Env) (userinfo : SocialUserInfo) (row : User) : Prop :=
  folds env userinfo row = true ∧ picked env userinfo row = false

/-- A filter that leaves none of them out comes to the same. -/
theorem filter_picked_eq {rows : List User}
    (complete : ∀ row ∈ rows, ¬ LeftOut env userinfo row) :
    (rows.filter (picked env userinfo)).filter (folds env userinfo) =
      rows.filter (folds env userinfo) := by
  rw [List.filter_filter]
  apply List.filter_congr
  intro row listed
  have kept := complete row listed
  cases own : folds env userinfo row with
  | false => simp
  | true =>
    cases found : picked env userinfo row with
    | true => rfl
    | false => exact absurd ⟨own, found⟩ kept

/-- Linking is unambiguous exactly when no row of the address is left out beside
an account that would be linked to. -/
theorem links_unambiguously_iff (env : Env) (userinfo : SocialUserInfo) (world : World) :
    LinksUnambiguously env userinfo world ↔
      ¬ (MayLink env userinfo ∧
        (∃ row ∈ world.store.users, LeftOut env userinfo row) ∧
        ∃ user, (world.store.users.filter (picked env userinfo)).filter (folds env userinfo) =
          [user] ∧ Ordinary env user) := by
  constructor
  · intro unambiguous ⟨may, ⟨row, listed, own, missed⟩, user, single, ordinary⟩
    have linked := (link_some_iff user world).2 ⟨rfl, may, single, ordinary⟩
    have whole := (unambiguous user world linked).2.1
    have rowListed : row ∈ world.store.users.filter (folds env userinfo) :=
      List.mem_filter.2 ⟨listed, own⟩
    rw [whole, List.mem_singleton] at rowListed
    have userListed : user ∈ (world.store.users.filter (picked env userinfo)).filter
        (folds env userinfo) := by simp [single]
    have found := (List.mem_filter.1 (List.mem_filter.1 userListed).1).2
    rw [← rowListed, missed] at found
    cases found
  · intro complete user later linked
    obtain ⟨_, may, single, ordinary⟩ := (link_some_iff user later).1 linked
    refine ⟨may, ?_, ordinary⟩
    have none : ∀ row ∈ world.store.users, ¬ LeftOut env userinfo row := by
      intro row listed missed
      exact complete ⟨may, ⟨row, listed, missed⟩, user, single, ordinary⟩
    rw [← filter_picked_eq none]
    exact single

end Linking

/-- `casefold()` of a text whose only special letter is `ß`. -/
def sharpCasefold (text : String) : String :=
  String.ofList (text.toList.flatMap fun char =>
    if char = 'ß' then ['s', 's'] else [char.toLower])

def linkingEnv : Env :=
  { Runs.sampleEnv with
    config := { Runs.sampleEnv.config with socialLinkByVerifiedEmail := true }
    platform := { Runs.samplePlatform with casefold := sharpCasefold } }

def linkingUser (name email : String) : User where
  id := name
  username := name
  passwordHash := ""
  email := email
  role := "user"
  createdAt := 0
  updatedAt := 0

/-- Two accounts whose addresses fold together, one of them out of the database's sight. -/
def linkingWorld : World where
  store := { Runs.sampleStore with users :=
    [linkingUser "a" "strasse@x.example", linkingUser "b" "straße@x.example"] }
  process := Runs.sampleProcess

def linkingProfile : SocialUserInfo where
  provider := "google"
  providerUserId := "1"
  email := "strasse@x.example"
  emailVerified := true

/-- The first account is taken for the only one. -/
theorem folded_twin_overlooked :
    ¬ ∀ (env : Env) (userinfo : SocialUserInfo) (world : World),
      LinksUnambiguously env userinfo world := by
  intro unambiguous
  apply (links_unambiguously_iff linkingEnv linkingProfile linkingWorld).1 (unambiguous _ _ _)
  have may : MayLink linkingEnv linkingProfile :=
    { enabled := rfl
      verified := rfl
      address := by decide +kernel }
  have missed : LeftOut linkingEnv linkingProfile (linkingUser "b" "straße@x.example") := by
    constructor
    · decide +kernel
    · decide +kernel
  have ordinary : Ordinary linkingEnv (linkingUser "a" "strasse@x.example") :=
    { enabled := rfl
      role := by decide
      casefolded := by decide +kernel
      lowered := by decide +kernel }
  refine ⟨may, ⟨_, ?_, missed⟩, linkingUser "a" "strasse@x.example", ?_, ordinary⟩
  · simp [linkingWorld]
  · decide +kernel

end OAuth2Server.AccountLinking
