import OAuth2Server.Interaction
import OAuth2Server.Interleaving
import OAuth2Server.Tables
import OAuth2Server.Text
import OAuth2Server.JsonText
import OAuth2Server.Url
import OAuth2Server.Models
import OAuth2Server.Process
import OAuth2Server.Storage
import OAuth2Server.Backends
import OAuth2Server.Effects
import OAuth2Server.Validation
import OAuth2Server.ClientAuth
import OAuth2Server.Dpop
import OAuth2Server.JwtBearer
import OAuth2Server.Issuance
import OAuth2Server.TokenEndpoint
import OAuth2Server.Endpoints
import OAuth2Server.Administration
import OAuth2Server.Footprints
import OAuth2Server.Protocol
import OAuth2Server.Conformance
import OAuth2Server.Runs
import OAuth2Server.SingleUse
import OAuth2Server.FamilyRevocation
import OAuth2Server.DeviceDecision
import OAuth2Server.ScopeNarrowing
import OAuth2Server.Server
import OAuth2Server.ClientLifecycle
import OAuth2Server.UserLifecycle
import OAuth2Server.TokenFamilies
import OAuth2Server.ReferenceJwt
import OAuth2Server.TokenBinding
import OAuth2Server.ExpiringEntries
import OAuth2Server.ReplayGuards
import OAuth2Server.PartialUpdates
import OAuth2Server.AdminUpdates
import OAuth2Server.KeySet
import OAuth2Server.KeyRotation
import OAuth2Server.LiveTokens
import OAuth2Server.Resilience
import OAuth2Server.ProbeAccounting
import OAuth2Server.Resources
import OAuth2Server.SenderConstraint
import OAuth2Server.CurrentSigners
import OAuth2Server.SocialProbes
import OAuth2Server.BackPressure
import OAuth2Server.ClientIdentity
import OAuth2Server.Delegation
import OAuth2Server.RecordedEvents
import OAuth2Server.Records
import OAuth2Server.GrantStores
import OAuth2Server.BackendEquivalence
import OAuth2Server.FederatedSubjects
import OAuth2Server.ClientUris
import OAuth2Server.ClientIntake
import OAuth2Server.ClientRows
import OAuth2Server.QueryText
import OAuth2Server.FrontChannel
import OAuth2Server.LoginGate
import OAuth2Server.AuthorizeResponse
import OAuth2Server.RequestObject
import OAuth2Server.Authorize
import OAuth2Server.AuthorizeExits
import OAuth2Server.AuthorizeCodes
import OAuth2Server.Histories
import OAuth2Server.CodeBinding
import OAuth2Server.PublishedKeys
import OAuth2Server.PushedRequests
import OAuth2Server.ParameterPrecedence
import OAuth2Server.UnspentGrants
import OAuth2Server.Reliance
import OAuth2Server.Words
import OAuth2Server.LoginRoundTrip
import OAuth2Server.PenaltyBuckets
import OAuth2Server.ProofRejection
import OAuth2Server.RequestTrust
import OAuth2Server.AccountLinking
import OAuth2Server.Html
import OAuth2Server.ResponseRoundTrip
import OAuth2Server.Logout
import OAuth2Server.JsonStrings
import OAuth2Server.StrictJson
import OAuth2Server.JsonRoundTrip
import OAuth2Server.Seeds
import OAuth2Server.SeedAcceptance
import OAuth2Server.NamedInserts
import OAuth2Server.RequestLimits
import OAuth2Server.SocialProviders
import OAuth2Server.SocialHandshake
import OAuth2Server.SocialAccounts
import OAuth2Server.SeedApplication
import OAuth2Server.LogoutTexts
import OAuth2Server.LogoutRequests
import OAuth2Server.LogoutHints
import OAuth2Server.SqlText
import OAuth2Server.Migrations
import OAuth2Server.MigrationRuns
import OAuth2Server.ThumbprintKeys
import OAuth2Server.JsonParams
import OAuth2Server.UrlValidators
import OAuth2Server.JwksUriHosts
import OAuth2Server.KeyedCells
import OAuth2Server.Dictionaries
import OAuth2Server.TokenBuckets
import OAuth2Server.DevicePolls
import OAuth2Server.FixedWindows
import OAuth2Server.LoginThrottle
import OAuth2Server.Base64Url
import OAuth2Server.NonceWindow
import OAuth2Server.ClaimsRequests
import OAuth2Server.Liveness
import OAuth2Server.AdminGuard
import OAuth2Server.RevocationFinality
import OAuth2Server.NonceSecret
import OAuth2Server.DepthWalk
import OAuth2Server.JwksLifetime
import OAuth2Server.WireClaims
import OAuth2Server.LikePatterns
import OAuth2Server.OrderedPages
import OAuth2Server.Listing
import OAuth2Server.EventIngest
import OAuth2Server.FixedDigits
import OAuth2Server.Calendar
import OAuth2Server.TimestampText
import OAuth2Server.SearchAgreement
import OAuth2Server.PagePartition
import OAuth2Server.Doubles
import OAuth2Server.IsoDates
import OAuth2Server.IsoTexts
import OAuth2Server.StoredDatetimes
import OAuth2Server.LegacyTimestamps
