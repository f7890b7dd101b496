import OAuth2Server.JsonText

/-!
# Domain models

The rows of the store, the claims of an access token and of an id_token, the
token response, signing keys and the configuration read by the modelled
routes. Column names are the source's. A datetime is a number of microseconds
since the epoch.
-/

namespace OAuth2Server.Models

open OAuth2Server JsonText

set_option autoImplicit false

/-- Microseconds since the epoch, UTC. -/
abbrev Instant := Int

/-- `timedelta(seconds=n)`. -/
def seconds (n : Int) : Int := n * 1000000

structure Client where
  id : String
  clientId : String
  clientSecret : String
  redirectUris : String
  grantTypes : String
  scope : String
  name : String
  createdAt : Instant
  updatedAt : Instant
  tokenEndpointAuthMethod : String := "client_secret_basic"
  registrationAccessToken : String := ""
  responseTypes : String := "[\"code\"]"
  contacts : String := ""
  logoUri : String := ""
  clientUri : String := ""
  policyUri : String := ""
  tosUri : String := ""
  jwks : String := ""
  jwksUri : String := ""
  backchannelLogoutUri : String := ""
  backchannelLogoutSessionRequired : Bool := false
  frontchannelLogoutUri : String := ""
  frontchannelLogoutSessionRequired : Bool := false
  postLogoutRedirectUris : String := ""
  enabled : Bool := true
  requireState : Bool := false
  tlsClientCertificateSubjectDn : String := ""
  dpopNonceRequired : Bool := false
  deriving DecidableEq

def Client.isPublic (client : Client) : Bool := client.tokenEndpointAuthMethod == "none"

structure User where
  id : String
  username : String
  passwordHash : String
  email : String
  enabled : Bool := true
  role : String := "user"
  createdAt : Instant
  updatedAt : Instant
  deriving DecidableEq

structure Token where
  id : String
  accessToken : String
  refreshToken : Option String := none
  tokenType : String := "Bearer"
  expiresIn : Int := 3600
  scope : String := ""
  clientId : String
  userId : Option String := none
  createdAt : Instant
  expiresAt : Instant
  revoked : Bool := false
  tokenFamily : Option String := none
  deriving DecidableEq

structure AuthorizationCode where
  id : String
  code : String
  clientId : String
  userId : String
  redirectUri : String
  scope : String
  createdAt : Instant
  expiresAt : Instant
  used : Bool := false
  codeChallenge : Option String := none
  codeChallengeMethod : Option String := none
  nonce : Option String := none
  resource : Option String := none
  authorizationDetails : Option String := none
  claimsRequest : Option String := none
  tokenFamily : Option String := none
  dpopJkt : Option String := none
  deriving DecidableEq

structure DeviceAuthorization where
  id : String
  deviceCode : String
  userCode : String
  clientId : String
  scope : String
  createdAt : Instant
  expiresAt : Instant
  intervalSeconds : Int := 5
  approved : Bool := false
  denied : Bool := false
  used : Bool := false
  userId : Option String := none
  deriving DecidableEq

structure TrustedIssuer where
  id : String
  issuer : String
  jwksUri : String
  allowedAudiences : String := "[]"
  subjectMapping : String := "sub"
  jitProvision : Bool := false
  allowedClientIds : String := "[]"
  enabled : Bool := true
  createdAt : Instant
  updatedAt : Instant
  deriving DecidableEq

structure DenylistEntry where
  id : String
  kind : String
  value : String
  reason : String := ""
  createdBy : String := ""
  createdAt : Instant
  expiresAt : Option Instant := none
  deriving DecidableEq

structure SigningKey where
  kid : String
  algorithm : String
  keyMaterial : List Nat
  isCurrent : Bool := true
  createdAt : Instant
  expiresAt : Option Instant := none
  deriving DecidableEq

/-- RFC 9068 access-token claims. -/
structure Claims where
  sub : String
  iss : String
  aud : List String
  exp : Int
  iat : Int
  scope : String
  jti : String
  clientId : Option String := none
  cnf : Option Json := none
  authorizationDetails : Option (List Json) := none
  act : Option Json := none

/-- A dictionary entry that `exclude_none` drops when the field is unset. -/
def optionalMember (key : String) (value : Option Json) : List (String × Json) :=
  match value with
  | none => []
  | some json => [(key, json)]

/-- `Claims.to_payload`: unset fields are left out, and a single audience is
written as a bare string. -/
def Claims.toPayload (claims : Claims) : Json :=
  .obj ([("sub", .str claims.sub), ("iss", .str claims.iss),
      ("aud", match claims.aud with
        | [audience] => .str audience
        | audiences => .arr (audiences.map .str)),
      ("exp", .int claims.exp), ("iat", .int claims.iat), ("scope", .str claims.scope),
      ("jti", .str claims.jti)] ++
    optionalMember "client_id" (claims.clientId.map .str) ++ optionalMember "cnf" claims.cnf ++
    optionalMember "authorization_details" (claims.authorizationDetails.map .arr) ++
    optionalMember "act" claims.act)

structure IdTokenClaims where
  iss : String
  sub : String
  aud : String
  exp : Int
  iat : Int
  nonce : Option String := none
  atHash : Option String := none
  cHash : Option String := none
  email : Option String := none
  preferredUsername : Option String := none
  acr : Option String := none
  amr : Option (List String) := none
  authTime : Option Int := none

/-- `model_dump(exclude_none=True)`. -/
def IdTokenClaims.toPayload (claims : IdTokenClaims) : Json :=
  .obj ([("iss", .str claims.iss), ("sub", .str claims.sub), ("aud", .str claims.aud),
      ("exp", .int claims.exp), ("iat", .int claims.iat)] ++
    optionalMember "nonce" (claims.nonce.map .str) ++
    optionalMember "at_hash" (claims.atHash.map .str) ++
    optionalMember "c_hash" (claims.cHash.map .str) ++
    optionalMember "email" (claims.email.map .str) ++
    optionalMember "preferred_username" (claims.preferredUsername.map .str) ++
    optionalMember "acr" (claims.acr.map .str) ++
    optionalMember "amr" (claims.amr.map fun methods => .arr (methods.map .str)) ++
    optionalMember "auth_time" (claims.authTime.map .int))

structure TokenResponse where
  accessToken : String
  refreshToken : Option String := none
  tokenType : String := "Bearer"
  expiresIn : Int
  scope : Option String := none
  idToken : Option String := none
  authorizationDetails : Option (List Json) := none

/-- `model_dump(exclude_none=True)`. -/
def TokenResponse.body (response : TokenResponse) : Json :=
  .obj ([("access_token", .str response.accessToken)] ++
    optionalMember "refresh_token" (response.refreshToken.map .str) ++
    [("token_type", .str response.tokenType), ("expires_in", .int response.expiresIn)] ++
    optionalMember "scope" (response.scope.map .str) ++
    optionalMember "id_token" (response.idToken.map .str) ++
    optionalMember "authorization_details" (response.authorizationDetails.map .arr))

/-- The settings the modelled routes read, as resolved at start-up:
`dpopNonceSecret` is the decoded key, `idTokenAlg` is never unset. -/
structure Config where
  jwtSecret : String
  issuer : String
  accessTokensOpaque : Bool := false
  accessTokenTtlSecs : Int := 3600
  refreshTokenTtlSecs : Int := 86400
  authorizationCodeTtlSecs : Int := 600
  idTokenPrivateKeyPem : Option String := none
  idTokenKid : Option String := none
  idTokenAlg : String := "HS256"
  keyRotationGraceHours : Int := 24
  dpopNonceSecret : List Nat := []
  dpopNonceLifetimeSecs : Int := 300
  rarTypesSupported : List String := ["openid"]
  rateLimitWindowSecs : Int := 60
  rateLimitInvalidClientMaxRequests : Int := 5
  trustProxyHeaders : Bool := false
  dynamicRegistrationEnabled : Bool := false
  socialLinkByVerifiedEmail : Bool := false
  adminEmails : List String := []
  adminClientIds : List String := []
  deriving DecidableEq

end OAuth2Server.Models
