import OpenProof.TokenLineage
import OpenProof.PostgresTokens
import OpenProof.ConsentGate
import OpenProof.ScopeConfinement
import OpenProof.TenantConfinement
import OpenProof.ClientChanges
import OpenProof.ServiceProvisioning
import OpenProof.GatewayRetries
import OpenProof.CircuitBreakers
import OpenProof.EmailConvergence
import OpenProof.HandoffRuns
import OpenProof.MergeOutcomes
import OpenProof.MergeRuns
import OpenProof.ChallengeLimits
import OpenProof.EmailChangeOutcomes
import OpenProof.SignupRaces
import OpenProof.TotpEnrollments
import OpenProof.RemovedMemberships
import OpenProof.ScimVersions
import OpenProof.PushedRequests
import OpenProof.PostgresDevices
import OpenProof.SessionReplacements
import OpenProof.PasskeyCounters
import OpenProof.OrganizationOwners
import OpenProof.ConsentHistories
import OpenProof.Policies
import OpenProof.TotpReplays
import OpenProof.RecoveryCodeRuns
import OpenProof.RetiredMasterKeys
import OpenProof.CredentialRekeys
import OpenProof.PostgresSessions
import OpenProof.PasskeyRaces
import OpenProof.TenantIsolation
import OpenProof.SavedRecords
import OpenProof.RepeatedProofs
import OpenProof.IdTokenAcceptance
import OpenProof.AssertionWindows
import OpenProof.GroupPatches
import OpenProof.LongestRoutes
import OpenProof.WeightedShares
import OpenProof.RateLimits
import OpenProof.SessionCredentials
import OpenProof.ClaimTimes
import OpenProof.JsonWriters
import OpenProof.CoseKeys
import OpenProof.SiweMessages
import OpenProof.AbiCalldata
import OpenProof.LoginReturns
import OpenProof.LoopbackRedirects
import OpenProof.SamlTimes
import OpenProof.LdapLogins
import OpenProof.PasswordHashes
import OpenProof.TextEncodings
import OpenProof.JwsVerification
import OpenProof.ProfileMutators
import OpenProof.Spans
import OpenProof.ConnectionPools
