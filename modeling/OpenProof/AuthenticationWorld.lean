import OpenProof.AuthenticationTransactions
import OpenProof.IdentityProfiles

namespace OpenProof.AuthenticationWorld
open AtomicPrograms Foundation AuthenticationTransactions ExternalIdentities IdentityProfiles Identities

structure ChallengeIdTag
abbrev ChallengeId := StrongId ChallengeIdTag

structure ClientContext where
  remoteAddress : Text
  userAgent : Text
  deriving DecidableEq

structure AuthenticationRequest where
  provider : ProviderId
  client : ClientContext
  requestedAssurance : Option AssuranceLevel
  parameters : AttributeMap

structure AuthenticationChallenge where
  id : ChallengeId
  expiresAt : Instant
  parameters : AttributeMap

def AuthenticationChallenge.isExpiredAt (challenge : AuthenticationChallenge) (now : Instant) : Bool :=
  challenge.expiresAt ≤ now

structure AuthenticationResponse where
  challengeId : ChallengeId
  client : ClientContext
  parameters : AttributeMap

-- A provider is foreign code: it may also throw.
inductive ProviderAnswer (α : Type) where
  | returned (result : Result α)
  | threw

structure AuthenticationProvider where
  interactionModel : InteractionModel
  maximumClaimableAssurance : AssuranceLevel
  beginAuthentication : AuthenticationRequest → ProviderAnswer AuthenticationChallenge
  completeAuthentication : AuthenticationResponse → ProviderAnswer AuthenticationOutcome

structure ProviderTrustPolicy where
  maximums : Map ProviderId AssuranceLevel
  selfProvisioning : Map ProviderId Bool

namespace ProviderTrustPolicy

def trust (policy : ProviderTrustPolicy) (providerId : ProviderId) (maximum : AssuranceLevel)
    (allowSelfProvisioning : Bool) : Result ProviderTrustPolicy :=
  if providerId.empty then fail .invalidArgument "A provider trust rule must name a provider."
  else if policy.maximums.holds providerId then
    .error (.of .alreadyExists "A trust rule for that provider already exists."
      "Duplicate provider assurance policy was rejected instead of silently replacing the operator-reviewed cap.")
  else .ok ⟨policy.maximums.insert providerId maximum,
    policy.selfProvisioning.insert providerId allowSelfProvisioning⟩

def maximumFor (policy : ProviderTrustPolicy) (providerId : ProviderId) : Option AssuranceLevel :=
  policy.maximums[providerId]?

def maySelfProvision (policy : ProviderTrustPolicy) (providerId : ProviderId) : Bool :=
  policy.selfProvisioning[providerId]?.getD false

end ProviderTrustPolicy

-- One step each: a method of a store or directory that holds its mutex, one call of a
-- provider, one look at the clock, one random token.
inductive AuthOp where
  | now
  | randomToken (bytes : Nat)
  | findProvider (id : ProviderId)
  | interactionModel (id : ProviderId)
  | maximumClaimableAssurance (id : ProviderId)
  | beginAuthentication (request : AuthenticationRequest)
  | completeAuthentication (id : ProviderId) (response : AuthenticationResponse)
  | begin_ (transaction : AuthenticationTransaction)
  | consume (id : TransactionId) (presentedNonce : Text) (presentedBinding : BindingDigest) (now : Instant)
  | purgeExpired (now : Instant)
  | ownerOf (external : ExternalIdentityRef)
  | attach (link : IdentityLink)
  | updatePresentation (external : ExternalIdentityRef)
  | findById (organization : OrganizationId) (id : IdentityId)
  | add (organization : OrganizationId) (identity : Identity)
  | changeStatus (organization : OrganizationId) (id : IdentityId) (status : IdentityStatus)
  | findVerifiedByEmail (email : Text)
  | findProfile (id : IdentityId)
  | saveProfile (profile : IdentityProfile)

abbrev AuthOp.Ret : AuthOp → Type
  | .now => Instant
  | .randomToken _ => Result Text
  | .findProvider _ => Bool
  | .interactionModel _ => InteractionModel
  | .maximumClaimableAssurance _ => AssuranceLevel
  | .beginAuthentication _ => ProviderAnswer AuthenticationChallenge
  | .completeAuthentication .. => ProviderAnswer AuthenticationOutcome
  | .begin_ _ => Result Unit
  | .consume .. => Result AuthenticationTransaction
  | .purgeExpired _ => Nat
  | .ownerOf _ => Result (Option IdentityId)
  | .attach _ => Result Unit
  | .updatePresentation _ => Result Unit
  | .findById .. => Result (Option Identity)
  | .add .. => Result Unit
  | .changeStatus .. => Result Unit
  | .findVerifiedByEmail _ => Result (List IdentityId)
  | .findProfile _ => Result (Option IdentityProfile)
  | .saveProfile _ => Result Unit

structure AuthState where
  clock : Instant
  randomness : Nat → Result Text
  providers : ProviderId → Option AuthenticationProvider
  transactions : TransactionStore
  directory : Directory
  identities : IdentityStore
  profiles : ProfileStore

variable (sha256 : Text → Result Sha256Digest)

def exec : (op : AuthOp) → AuthState → op.Ret × AuthState
  | .now,w => (w.clock,w)
  | .randomToken bytes,w => (w.randomness bytes,w)
  | .findProvider id,w => ((w.providers id).isSome,w)
  | .interactionModel id,w => ((w.providers id).elim .redirect (·.interactionModel),w)
  | .maximumClaimableAssurance id,w => ((w.providers id).elim .ial0 (·.maximumClaimableAssurance),w)
  | .beginAuthentication request,w =>
    ((w.providers request.provider).elim .threw (·.beginAuthentication request),w)
  | .completeAuthentication id response,w => ((w.providers id).elim .threw (·.completeAuthentication response),w)
  | .begin_ transaction,w =>
    let r := w.transactions.begin_ transaction
    (r.1,{ w with transactions := r.2 })
  | .consume id presentedNonce presentedBinding now,w =>
    let r := w.transactions.consume id (sha256 presentedNonce) presentedBinding now
    (r.1,{ w with transactions := r.2 })
  | .purgeExpired now,w =>
    let r := w.transactions.purgeExpired now
    (r.1,{ w with transactions := r.2 })
  | .ownerOf external,w => (.ok (w.directory.ownerOf external),w)
  | .attach link,w =>
    let r := w.directory.attach link
    (r.1,{ w with directory := r.2 })
  | .updatePresentation external,w =>
    let r := w.directory.updatePresentation external
    (r.1,{ w with directory := r.2 })
  | .findById organization id,w => (.ok (w.identities.findById organization id),w)
  | .add organization identity,w =>
    let r := w.identities.add organization identity
    (r.1,{ w with identities := r.2 })
  | .changeStatus organization id status,w =>
    let r := w.identities.changeStatus organization id status
    (r.1,{ w with identities := r.2 })
  | .findVerifiedByEmail email,w => (.ok (w.profiles.findVerifiedByEmail email),w)
  | .findProfile id,w => (.ok w.profiles[id]?,w)
  | .saveProfile profile,w => (.ok (),{ w with profiles := w.profiles.save profile })

abbrev AuthCall (α : Type) := Prog AuthOp AuthOp.Ret Error α

def ask (op : AuthOp) : AuthCall op.Ret := .perform op

end OpenProof.AuthenticationWorld
