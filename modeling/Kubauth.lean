import Kubauth.Audit.Authenticator
import Kubauth.Audit.Cleaner
import Kubauth.Authenticator.Federation
import Kubauth.Base64Url
import Kubauth.Claims.MergeRules
import Kubauth.Claims.NormalForm
import Kubauth.Claims.Normalization
import Kubauth.Controllers.ClientCredentials
import Kubauth.Controllers.ClientIds
import Kubauth.Controllers.ClientRegistration
import Kubauth.Controllers.ClientWatch
import Kubauth.Controllers.UpstreamRegistration
import Kubauth.Controllers.UpstreamWatch
import Kubauth.Dialogue
import Kubauth.ExpandEnv.Factorization
import Kubauth.ExpandEnv.References
import Kubauth.Fosite.AllowLists
import Kubauth.Handlers.Identity
import Kubauth.Handlers.Pipeline
import Kubauth.HttpClient
import Kubauth.HttpServer.CertWatcher
import Kubauth.HttpServer.Logging
import Kubauth.Ldap.Authenticator
import Kubauth.Ldap.Directory
import Kubauth.Ldap.Discipline
import Kubauth.Ldap.Setup
import Kubauth.Merger.ClaimPrecedence
import Kubauth.Merger.FailingProviders
import Kubauth.PasswordGrant.Attempts
import Kubauth.PasswordGrant.InPlace
import Kubauth.PasswordGrant.Issuance
import Kubauth.Protector.Admission
import Kubauth.Protector.Interference
import Kubauth.Protector.Penalty
import Kubauth.Protector.PendingFailures
import Kubauth.Server.AuthTime
import Kubauth.Server.AuthorizeRequests
import Kubauth.Server.DisabledUsers
import Kubauth.Server.Disclosure
import Kubauth.Server.Jwks
import Kubauth.Server.SigningKey
import Kubauth.Server.SsoClaims
import Kubauth.Server.UpstreamClaims
import Kubauth.SessionStore.Expiry
import Kubauth.SessionStore.Freshness
import Kubauth.Storage.CodeRedemption
import Kubauth.Storage.Concurrency
import Kubauth.Storage.JwtAssertions
import Kubauth.Storage.RefreshRotation
import Kubauth.Storage.Revocation
import Kubauth.Storage.SingleCreations
import Kubauth.Storage.SpentCredentials
import Kubauth.Ucrd.ListingOrder
import Kubauth.Upstreams.Renaming
