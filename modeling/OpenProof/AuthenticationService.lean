import OpenProof.AuthenticationWorld

namespace OpenProof.AuthenticationService
open Foundation AuthenticationTransactions ExternalIdentities IdentityProfiles AuthenticationWorld
open AtomicPrograms.Prog Identities

-- What the service is built with. The null pointers of the source are flags here.
structure Authenticator where
  trustPolicy : ProviderTrustPolicy
  maximumTransactionLifetime : Duration
  lifecycleRepository : Bool
  organization : OrganizationId
  profileRepository : Bool
  sha256 : Text → Result Sha256Digest
  positive : 0 < maximumTransactionLifetime

def kChallengeIdMetadata : Text := "challenge_id"
def kRequestedAssuranceMetadata : Text := "requested_assurance"
def kConnectionIdentityMetadata : Text := "connection_identity"

def authenticationFailure (detail : Text) : Error :=
  .of .authenticationFailed (defaultErrorMessage .authenticationFailed) detail

def assuranceLevels : List AssuranceLevel := [.ial0,.ial1,.ial2,.ial3,.ial4]

def parseAssurance (value : Text) : Option AssuranceLevel :=
  assuranceLevels.find? fun level => assuranceLevelName level == value

theorem parseAssurance_name (level : AssuranceLevel) : parseAssurance (assuranceLevelName level) = some level := by
  cases level <;> decide

def presentationClaim (claims : VerifiedClaims) (name : ClaimName) (maximum : Nat) : Option Text :=
  (claims.get name).filter fun value => !value.isEmpty && value.length ≤ maximum

def externalFromOutcome (outcome : AuthenticationOutcome) : ExternalIdentityRef where
  providerId := outcome.provider
  subject := outcome.subject
  displayName := presentationClaim outcome.claims .displayName 256
  preferredUsername := presentationClaim outcome.claims .preferredUsername 128
  pictureUrl := presentationClaim outcome.claims .pictureUrl 2048

-- `std::min`.
def lower (one two : AssuranceLevel) : AssuranceLevel := if two.rank < one.rank then two else one

structure AuthenticationStart where
  transactionId : TransactionId
  challenge : AuthenticationChallenge
  continuationToken : Text

structure VerifiedAuthentication where
  outcome : AuthenticationOutcome
  identity : IdentityId

structure CompletedExchange where
  outcome : AuthenticationOutcome
  connectionTarget : Option IdentityId
  completedAt : Instant

variable (a : Authenticator)

def effectiveMaximum (providerId : ProviderId) : AuthCall (Option AssuranceLevel) :=
  match a.trustPolicy.maximumFor providerId with
  | none => .ret none
  | some configured =>
    (ask (.maximumClaimableAssurance providerId)).bind fun declared => .ret (some (lower configured declared))

def requireActiveIdentity (identity : IdentityId) : AuthCall Unit :=
  if !a.lifecycleRepository then .ret ()
  else if a.organization.empty then
    .fail (authenticationFailure "Authentication lifecycle gate is configured without an organization.")
  else (ask (.findById a.organization identity)).bind fun canonical =>
    match canonical with
    | .error e => .fail e
    | .ok canonical =>
      refuseIf (!canonical.any Identity.canAuthenticate)
        (authenticationFailure "Authentication refused by canonical identity lifecycle state.")

def metadataOf (request : AuthenticationRequest) (challenge : AuthenticationChallenge)
    (connectionTarget : Option IdentityId) (transaction : AuthenticationTransaction) : AuthenticationTransaction :=
  let transaction := transaction.setMetadata kChallengeIdMetadata challenge.id.value
  let transaction := request.requestedAssurance.elim transaction fun level =>
    transaction.setMetadata kRequestedAssuranceMetadata (assuranceLevelName level)
  connectionTarget.elim transaction fun target => transaction.setMetadata kConnectionIdentityMetadata target.value

def record (request : AuthenticationRequest) (binding : BindingDigest) (correlation : Text)
    (connectionTarget : Option IdentityId) (challenge : AuthenticationChallenge) (now : Instant) :
    AuthCall AuthenticationStart := do
  refuseIf (challenge.id.empty || challenge.isExpiredAt now)
    (authenticationFailure "Provider returned an empty or already-expired challenge.")
  let generatedId ← check (← ask (.randomToken 32))
  let continuationToken ← check (← ask (.randomToken 32))
  let model ← ask (.interactionModel request.provider)
  let transaction ← check (AuthenticationTransaction.create ⟨generatedId⟩ request.provider model continuationToken
    (a.sha256 continuationToken) binding correlation now
    (min (challenge.expiresAt - now) a.maximumTransactionLifetime))
  check (← ask (.begin_ (metadataOf request challenge connectionTarget transaction)))
  return ⟨⟨generatedId⟩,challenge,continuationToken⟩

def started (answer : ProviderAnswer AuthenticationChallenge) : Result AuthenticationChallenge :=
  match answer with
  | .returned (.ok challenge) => .ok challenge
  | .returned (.error _) => .error (authenticationFailure "Authentication provider rejected the start operation.")
  | .threw => .error (authenticationFailure "Authentication provider threw while starting an exchange.")

def beginInternal (request : AuthenticationRequest) (binding : BindingDigest) (correlation : Text)
    (connectionTarget : Option IdentityId) : AuthCall AuthenticationStart := do
  let registered ← ask (.findProvider request.provider)
  refuseIf (!registered)
    (authenticationFailure "Authentication start refused: provider is not registered.")
  match ← effectiveMaximum a request.provider with
  | none => .fail (authenticationFailure "Authentication start refused: provider has no operator trust policy.")
  | some maximum =>
    refuseIf (request.requestedAssurance.any fun requested => !meetsAssurance maximum requested)
      (.of .assuranceInsufficient (defaultErrorMessage .assuranceInsufficient)
        "Requested assurance exceeds the lower of the provider-declared and operator-configured caps.")
    let challenge ← check (started (← ask (.beginAuthentication request)))
    let now ← ask .now
    record a request binding correlation connectionTarget challenge now

def begin_ (request : AuthenticationRequest) (binding : BindingDigest) (correlation : Text) :
    AuthCall AuthenticationStart := beginInternal a request binding correlation none

def beginConnection (request : AuthenticationRequest) (binding : BindingDigest) (correlation : Text)
    (identity : IdentityId) : AuthCall AuthenticationStart := do
  refuseIf identity.empty (.because .invalidArgument "A connection ceremony requires a canonical identity.")
  requireActiveIdentity a identity
  beginInternal a request binding correlation (some identity)

def answered (answer : ProviderAnswer AuthenticationOutcome) : Result AuthenticationOutcome :=
  match answer with
  | .returned (.ok outcome) => .ok outcome
  | .returned (.error e) => .error (authenticationFailure
      (Text.of "Authentication provider rejected the completion operation."
        ++ if e.internalDetail.isEmpty then [] else Text.of " Provider detail: " ++ e.internalDetail))
  | .threw => .error (authenticationFailure "Authentication provider threw while completing an exchange.")

def accepted (transaction : AuthenticationTransaction) (maximum : AssuranceLevel) (outcome : AuthenticationOutcome)
    (requireConnection : Bool) (completedAt : Instant) : Result CompletedExchange :=
  let connection := transaction.metadata[kConnectionIdentityMetadata]?
  if outcome.provider ≠ transaction.provider then
    .error (authenticationFailure "Provider returned an outcome under a different provider identifier.")
  else if !meetsAssurance maximum outcome.claimedAssurance then
    .error (authenticationFailure "Provider outcome exceeded its effective assurance cap.")
  else if transaction.metadata[kRequestedAssuranceMetadata]?.any fun requested =>
      !(parseAssurance requested).any fun required => meetsAssurance outcome.claimedAssurance required then
    .error (.of .assuranceInsufficient (defaultErrorMessage .assuranceInsufficient)
      "Provider completed the exchange below the assurance requested at start.")
  else if outcome.verifiedAt < transaction.createdAt || completedAt < outcome.verifiedAt then
    .error (authenticationFailure "Provider returned a verification timestamp outside the transaction window.")
  else if connection.isSome ≠ requireConnection || connection.any List.isEmpty then
    .error (authenticationFailure
      "Authentication completion refused: ceremony purpose does not match the endpoint.")
  else .ok ⟨outcome,connection.map StrongId.mk,completedAt⟩

def completeConsumed (transaction : AuthenticationTransaction) (response : AuthenticationResponse)
    (requireConnection : Bool) : AuthCall CompletedExchange := do
  refuseIf (!transaction.metadata[kChallengeIdMetadata]?.any fun expected => expected == response.challengeId.value)
    (authenticationFailure
      "Authentication completion refused: challenge identifier does not match the server-side transaction.")
  let registered ← ask (.findProvider transaction.provider)
  refuseIf (!registered) (authenticationFailure
    "Authentication completion refused: transaction provider is no longer registered.")
  match ← effectiveMaximum a transaction.provider with
  | none => .fail (authenticationFailure "Authentication completion refused: provider trust policy is absent.")
  | some maximum =>
    let outcome ← check (answered (← ask (.completeAuthentication transaction.provider response)))
    let completionFinishedAt ← ask .now
    check (accepted transaction maximum outcome requireConnection completionFinishedAt)

def completeExchange (transactionId : TransactionId) (continuationToken : Text) (binding : BindingDigest)
    (response : AuthenticationResponse) (requireConnection : Bool) : AuthCall CompletedExchange := do
  let now ← ask .now
  let transaction ← check (← ask (.consume transactionId continuationToken binding now))
  completeConsumed a transaction response requireConnection

def verifiedLink (identity : IdentityId) (external : ExternalIdentityRef) (verifiedAt : Instant) :
    Result IdentityLink := do
  let link ← IdentityLink.request identity external verifiedAt 300000
  let link ← link.requireVerification verifiedAt
  let link ← link.markVerified verifiedAt
  link.complete verifiedAt

def attachVerified (identity : IdentityId) (external : ExternalIdentityRef) (verifiedAt : Instant) :
    AuthCall Unit := do
  let link ← check (verifiedLink identity external verifiedAt)
  check (← ask (.attach link))

def tally : List IdentityId → (activeCandidates : List IdentityId) → (blockedCandidates : Nat) →
    AuthCall (List IdentityId × Nat)
  | [],activeCandidates,blockedCandidates => .ret (activeCandidates,blockedCandidates)
  | candidate :: rest,activeCandidates,blockedCandidates => do
    match ← check (← ask (.findById a.organization candidate)) with
    | none => tally rest activeCandidates blockedCandidates
    | some canonical =>
      if canonical.canAuthenticate then tally rest (activeCandidates ++ [candidate]) blockedCandidates
      else if canonical.status ≠ .deleted ∧ canonical.status ≠ .merged then
        tally rest activeCandidates (blockedCandidates+1)
      else tally rest activeCandidates blockedCandidates

def convergeOn (external : ExternalIdentityRef) (completedAt : Instant) (activeCandidates : List IdentityId)
    (blockedCandidates : Nat) : AuthCall (Option IdentityId) := do
  refuseIf (activeCandidates.length > 1 || (blockedCandidates > 0 && !activeCandidates.isEmpty))
    (.of .conflict "That verified email is already associated with multiple identities."
      "Federated sign-in refused to guess between canonical identities that share the same verified email. An explicit merge is required.")
  match activeCandidates with
  | [] =>
    refuseIf (blockedCandidates > 0) (authenticationFailure
      "Federated sign-in refused to self-provision because the verified email belongs to an existing non-authenticating canonical identity.")
    return none
  | identity :: _ =>
    attachVerified identity external completedAt
    return some identity

def converge (outcome : AuthenticationOutcome) (external : ExternalIdentityRef) (completedAt : Instant) :
    AuthCall (Option IdentityId) :=
  if a.profileRepository && a.lifecycleRepository && !a.organization.empty
      && a.trustPolicy.maySelfProvision outcome.provider && outcome.claims.isTrue .emailVerified then
    match (outcome.claims.get .email).filter fun email => !email.isEmpty with
    | none => .ret none
    | some verifiedEmail => do
      let candidates ← check (← ask (.findVerifiedByEmail verifiedEmail))
      let (activeCandidates,blockedCandidates) ← tally a candidates [] 0
      convergeOn external completedAt activeCandidates blockedCandidates
  else .ret none

def undoing (identity : IdentityId) (step : AuthCall Unit) : AuthCall Unit :=
  step.attempt.bind fun outcome =>
    match outcome with
    | .ok _ => .ret ()
    | .error e => (ask (.changeStatus a.organization identity .deleted)).bind fun _ => .fail e

def newProfile (identity : IdentityId) (claims : VerifiedClaims) (completedAt : Instant) : AuthCall Unit := do
  let profile ← check (IdentityProfile.create identity completedAt)
  let profile ← check (profile.applyVerifiedClaims claims completedAt)
  check (← ask (.saveProfile profile))

def provision (outcome : AuthenticationOutcome) (external : ExternalIdentityRef) (completedAt : Instant) :
    AuthCall IdentityId := do
  refuseIf (!a.trustPolicy.maySelfProvision outcome.provider || !a.lifecycleRepository || a.organization.empty)
    (authenticationFailure
      "Authentication completion refused: the external identity has no explicit link to a canonical identity.")
  let generated ← check (← ask (.randomToken 24))
  let identity : IdentityId := ⟨Text.of "opi_" ++ generated⟩
  let canonical ← check (Identity.create identity .human completedAt)
  check (← ask (.add a.organization canonical))
  if a.profileRepository then undoing a identity (newProfile identity outcome.claims completedAt)
  undoing a identity (attachVerified identity external completedAt)
  return identity

def resolveIdentity (outcome : AuthenticationOutcome) (external : ExternalIdentityRef) (completedAt : Instant) :
    AuthCall IdentityId := do
  match ← ask (.ownerOf external) with
  | .error _ => .fail (authenticationFailure
      "Authentication completion could not resolve the external identity directory.")
  | .ok (some owner) => return owner
  | .ok none =>
    match ← converge a outcome external completedAt with
    | some identity => return identity
    | none => provision a outcome external completedAt

def refreshProfile (identity : IdentityId) (claims : VerifiedClaims) (completedAt : Instant)
    (fill : IdentityProfile → VerifiedClaims → Instant → Result IdentityProfile) : AuthCall Unit :=
  if !a.profileRepository then .ret ()
  else do
    match ← check (← ask (.findProfile identity)) with
    | none =>
      let profile ← check (IdentityProfile.create identity completedAt)
      let profile ← check (fill profile claims completedAt)
      check (← ask (.saveProfile profile))
    | some profile =>
      let profile ← check (profile.refreshPresentationClaims claims completedAt)
      check (← ask (.saveProfile profile))

def complete (transactionId : TransactionId) (continuationToken : Text) (binding : BindingDigest)
    (response : AuthenticationResponse) : AuthCall VerifiedAuthentication := do
  let exchange ← completeExchange a transactionId continuationToken binding response false
  let external := externalFromOutcome exchange.outcome
  let identity ← resolveIdentity a exchange.outcome external exchange.completedAt
  requireActiveIdentity a identity
  check (← ask (.updatePresentation external))
  refreshProfile a identity exchange.outcome.claims exchange.completedAt IdentityProfile.applyVerifiedClaims
  return ⟨exchange.outcome,identity⟩

def connect (target : IdentityId) (exchange : CompletedExchange) : AuthCall ExternalIdentityRef := do
  requireActiveIdentity a target
  let external := externalFromOutcome exchange.outcome
  let owner ← check (← ask (.ownerOf external))
  refuseIf (owner.any (· ≠ target))
    (.because .conflict "That external account is already connected to another OpenProof identity.")
  if owner.isNone then attachVerified target external exchange.completedAt
  check (← ask (.updatePresentation external))
  refreshProfile a target exchange.outcome.claims exchange.completedAt IdentityProfile.refreshPresentationClaims
  return external

def completeConnection (transactionId : TransactionId) (continuationToken : Text) (binding : BindingDigest)
    (response : AuthenticationResponse) : AuthCall ExternalIdentityRef := do
  let exchange ← completeExchange a transactionId continuationToken binding response true
  -- A connection names its target; `completeExchange` has refused any other exchange.
  match exchange.connectionTarget with
  | none => .fail (.plain .internal)
  | some target => connect a target exchange

end OpenProof.AuthenticationService
