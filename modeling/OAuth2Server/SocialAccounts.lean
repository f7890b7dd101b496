import OAuth2Server.SocialHandshake
import OAuth2Server.AccountLinking

/-!
# Whom a social login logs in

The account of a callback is the one named after its provider and the id in the
provider's own answer, or an account with an address the provider has verified. The
answer is given for the token that the callback's own code was exchanged for.
-/

namespace OAuth2Server.SocialAccounts

open OAuth2Server Models JsonText Storage Effects Interaction Interaction.Program
open Dpop Endpoints TokenEndpoint FrontChannel SocialProviders AccountLinking

set_option autoImplicit false

/-! ### What a provider answers -/

/-- The document a provider answers a request for. -/
def Answers (http : HttpClient) (turn : Nat) (url : String) (headers : List (String × String))
    (data : Json) : Prop :=
  ∃ response, http.get turn url headers = .ok response ∧ response.status = 200 ∧
    response.json = some data

/-- A user as the documents of its provider describe it. -/
inductive Vouches (env : Env) (http : HttpClient) (turn : Nat) (rc : ProviderRuntimeConfig)
    (accessToken : String) : SocialUserInfo → Prop
  | google (data userId email : Json) : rc.provider = "google" →
      Answers http turn rc.userinfoUrl (bearerHeader accessToken) data →
      data.get? "id" = some userId → data.get? "email" = some email →
      data.get? "verified_email" = some (.bool true) →
      Vouches env http turn rc accessToken
        { provider := "google"
          providerUserId := pyStr env userId
          email := pyStr env email
          emailVerified := true }
  | tenant (data userId principal : Json) :
      rc.provider = "microsoft" ∨ rc.provider = "azure" →
      Answers http turn rc.userinfoUrl (bearerHeader accessToken) data →
      data.get? "id" = some userId → data.get? "userPrincipalName" = some principal →
      Vouches env http turn rc accessToken
        { provider := rc.provider
          providerUserId := pyStr env userId
          email := pyStr env principal
          emailVerified := false }
  | github (headers : List (String × String)) (data userId email entry : Json)
      (entries : List Json) : rc.provider = "github" →
      Answers http turn rc.userinfoUrl headers data → data.get? "id" = some userId →
      Answers http turn githubEmailsUrl headers (.arr entries) → entry ∈ entries →
      (member entry "primary").isSome = true → (member entry "verified").isSome = true →
      entry.get? "email" = some email →
      Vouches env http turn rc accessToken
        { provider := "github"
          providerUserId := pyStr env userId
          email := pyStr env email
          emailVerified := true }

section Answered

variable {env : Env} {http : HttpClient} {turn : Nat} {rc : ProviderRuntimeConfig}
  {accessToken : String} {userinfo : SocialUserInfo}

end Answered

/-! ### The account of a callback -/

/-- The account was found by an address its provider verified: linking is on, and
the account is enabled and without privileges. -/
structure Linked (env : Env) (world : World) (userinfo : SocialUserInfo) (user : User) : Prop where
  may : MayLink env userinfo
  stored : user ∈ world.store.users
  address : foldEmail env user.email = foldEmail env userinfo.email
  ordinary : Ordinary env user

/-- The account is named after the provider and the id, or linked. -/
def Belongs (env : Env) (world : World) (userinfo : SocialUserInfo) (user : User) : Prop :=
  user.username = userinfo.provider ++ ":" ++ userinfo.providerUserId ∨
    Linked env world userinfo user

/-- The provider gave the token for the code that the callback brought, in the first
request that the callback makes to it. -/
structure Exchanged (config : SocialConfig) (http : HttpClient) (env : Env)
    (request : CallbackRequest) (opened : FrontWorld) (rc : ProviderRuntimeConfig)
    (accessToken : String) : Prop where
  resolved : resolveProviderConfig config request.provider = some rc
  exchanged : ∃ code, request.params.get "code" = some code ∧
    exchangeCode env http opened.world.process.requests rc code
      (if rc.pkce then opened.session.pkceVerifier else none) = .ok accessToken

/-- A session is written for an account that belongs to a user the provider's own
documents describe: those it answers next, for the token it has just given. -/
def Admits (config : SocialConfig) (http : HttpClient) (env : Env) (request : CallbackRequest)
    (opened state : FrontWorld) : FrontOp → Prop
  | .setLogin user _ _ => ∃ rc accessToken userinfo,
      Exchanged config http env request opened rc accessToken ∧
        Vouches env http (opened.world.process.requests + 1) rc accessToken userinfo ∧
          (userinfo.emailVerified = true → rc.provider = "google" ∨ rc.provider = "github") ∧
            Belongs env state.world { userinfo with provider := request.provider } user
  | _ => True

section Callback

variable {config : SocialConfig} {http : HttpClient} {base : FrontEnv} {request : CallbackRequest}

end Callback

end OAuth2Server.SocialAccounts
