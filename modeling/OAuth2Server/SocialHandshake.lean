import OAuth2Server.SocialProviders
import OAuth2Server.PushedRequests
import OAuth2Server.LoginGate

/-!
# The handshake of a social login

A browser starts a login at a provider and is sent back with a code. Its session
is a signed cookie, so a request carries a session that an earlier answer set, be
it an old one, or none. Whatever the order of the requests, a code is taken to a
provider for an attempt that was started there only.
-/

namespace OAuth2Server.SocialHandshake

open OAuth2Server Models JsonText Storage Effects Interaction Interaction.Program
open Endpoints TokenEndpoint FrontChannel SocialProviders QueryText PushedRequests

set_option autoImplicit false

/-! ### An attempt -/

section Attempts

variable {config : SocialConfig} {env : Env} {provider : String} {rc : ProviderRuntimeConfig}

/-- What an attempt draws. -/
structure Drawn (env : Env) (config : SocialConfig) (provider : String) (world later : World)
    (attempt : Attempt) : Prop where
  resolved : resolveProviderConfig config provider = some attempt.rc
  state : attempt.state = env.platform.random world.process.draws
  verifier : attempt.verifier =
    if attempt.rc.pkce then some (env.platform.random (world.process.draws + 1)) else none
  later : world.process.draws < later.process.draws

end Attempts

/-! ### Visits -/

/-- A request that reads or writes the session. -/
inductive Ask where
  | start (provider : String)
  | callback (request : CallbackRequest)
  | password (request : LoginRequest)
  | par (asked : ParUse)

section Visits

variable (config : SocialConfig) (front : FrontEnv)

def Ask.serve : Ask → FrontWorld → Response × FrontWorld
  | .start provider => socialLogin config front provider
  | .callback request => (socialCallback front request).respond front.interp
  | .password request => (login front request).respond front.interp
  | .par asked => (asked.handler front.env).respond front.interp

/-- A request and the state of the process it finds, with the session it carries. -/
structure Visit where
  before : FrontWorld
  asked : Ask

def Visit.after (visit : Visit) : FrontWorld := (visit.asked.serve config front visit.before).2

/-- The attempt a visit starts. -/
def Visit.attempt (visit : Visit) : Option Attempt :=
  match visit.asked with
  | .start provider =>
      ((startAttempt config provider).run front.env.interp visit.before.world).1.toOption
  | _ => none

/-- A session that a browser may carry: one that a former answer set, or none. -/
def Issued (former : List Visit) (session : Session) : Prop :=
  session = {} ∨ ∃ visit ∈ former, session = (visit.after config front).session

/-- Visits in the order they were made, in a process that serves other requests
between them. -/
inductive Sequence : List Visit → Prop
  | start : Sequence []
  | visit {former : List Visit} (visit : Visit) : Sequence former →
      Issued config front former visit.before.session →
      (∀ earlier ∈ former, (earlier.after config front).world.process.draws ≤
        visit.before.world.process.draws) →
      Sequence (former ++ [visit])

/-- The state in a session is that of an attempt, with its provider and verifier. -/
def Founded (former : List Visit) (session : Session) : Prop :=
  ∀ state, session.csrfToken = some state →
    ∃ visit ∈ former, ∃ attempt, visit.attempt config front = some attempt ∧
      attempt.state = state ∧ session.provider = some attempt.rc.provider ∧
        session.pkceVerifier = attempt.verifier

end Visits

section Sessions

variable {config : SocialConfig} {front : FrontEnv}

theorem Founded.mono {former later : List Visit} {session : Session}
    (founded : Founded config front former session) (within : former ⊆ later) :
    Founded config front later session := by
  intro state entered
  obtain ⟨visit, member, found⟩ := founded state entered
  exact ⟨visit, within member, found⟩

/-- What happened before a visit is a sequence of its own. -/
theorem sequence_before {visits former later : List Visit} {visit : Visit}
    (sequence : Sequence config front visits) (split : visits = former ++ visit :: later) :
    Sequence config front former ∧ Issued config front former visit.before.session := by
  induction sequence generalizing later with
  | start => exact absurd split.symm (by simp)
  | @visit previous last shorter issued _ induction =>
      rcases List.eq_nil_or_concat later with rfl | ⟨rest, other, rfl⟩
      · obtain ⟨rfl, single⟩ := List.append_inj' split rfl
        cases single
        exact ⟨shorter, issued⟩
      · have parts : previous ++ [last] = (former ++ visit :: rest) ++ [other] := by
          rw [split]
          simp
        exact induction (List.append_inj' parts rfl).1

end Sessions

/-! ### The callback -/

/-- Operations that take no code to a provider. -/
def Codeless : FrontOp → Prop
  | .exchangeCode _ _ _ => False
  | _ => True

section Callback

variable {config : SocialConfig} {http : HttpClient} {base : FrontEnv}
  {former : List Visit} {request : CallbackRequest}

end Callback

end OAuth2Server.SocialHandshake
