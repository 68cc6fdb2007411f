import OpenProof.AuthenticationService
import OpenProof.SenderProofs

namespace OpenProof.AuthenticationHandoffs
open Foundation AuthenticationTransactions ExternalIdentities AuthenticationWorld AuthenticationService
open AtomicPrograms.Prog Identities GatewayWorld Http SenderProofs

def kHandoffProvider : Text := "openproof-browser-handoff"
def kHandoffIdentityMetadata : Text := "handoff_identity"
def kHandoffProviderMetadata : Text := "handoff_provider"
def kHandoffReturnMetadata : Text := "handoff_return"
def kAuthenticationHandoffProvider : Text := "openproof-browser-auth-handoff"
def kAuthenticationHandoffResultProvider : Text := "openproof-browser-auth-result"
def kAuthenticationHandoffResultIdMetadata : Text := "auth_handoff_result_id"
def kAuthenticationHandoffRedeemDigestMetadata : Text := "auth_handoff_redeem_digest"
def kAuthenticationHandoffIdentityMetadata : Text := "auth_handoff_identity"
def kAuthenticationHandoffSubjectMetadata : Text := "auth_handoff_subject"
def kAuthenticationHandoffAssuranceMetadata : Text := "auth_handoff_assurance"
def kAuthenticationHandoffFactorsMetadata : Text := "auth_handoff_factors"
def kAuthenticationHandoffPhishingMetadata : Text := "auth_handoff_phishing"
def kAuthenticationHandoffVerifiedAtMetadata : Text := "auth_handoff_verified_at"
def kBrowserHandoffLifetime : Duration := 120000

def digestHex (digest : Sha256Digest) : Text := toHex (digestBytes digest)

def parseHex : Text → Option Text
  | high :: low :: rest =>
    match hexValue high,hexValue low with
    | some high,some low => (parseHex rest).map ((high*16+low).toUInt8 :: ·)
    | _,_ => none
  | [_] => none
  | [] => some []

def digestOf (bytes : Text) : Sha256Digest := BitVec.ofNat 256 (bytes.foldl (fun value byte => value*256+byte.toNat) 0)

def parseDigestHex (text : Text) : Option Sha256Digest :=
  if text.length ≠ 64 then none else (parseHex text).map digestOf

structure BrowserConnectionHandoff where
  ticket : Text
  expiresAt : Instant

structure BrowserConnectionTarget where
  identity : IdentityId
  provider : ProviderId
  returnTarget : Text

structure BrowserAuthenticationHandoff where
  publisherTicket : Text
  redeemTicket : Text
  expiresAt : Instant

def ticketOf (id secret : Text) : Text := id ++ Text.of "." ++ secret

def parseTicket (presented : Text) : Option (Text × Text) :=
  match splitAt (ch '.') presented with
  | (_,none) => none
  | (id,some secret) =>
    if id.isEmpty || secret.isEmpty || presented.length > 256 || secret.contains (ch '.') then none
    else some (id,secret)

def named (metadata : AttributeMap) (key : Text) : Option Text := metadata[key]?.filter fun value => !value.isEmpty

variable (a : Authenticator)

def handoffLifetime : Duration := min kBrowserHandoffLifetime a.maximumTransactionLifetime

def issueBrowserConnectionHandoff (identity : IdentityId) (providerId : ProviderId) (returnTarget correlation : Text) :
    AuthCall BrowserConnectionHandoff := do
  refuseIf (identity.empty || providerId.empty || returnTarget.isEmpty || returnTarget.length > 2048
      || correlation.isEmpty)
    (.because .invalidArgument "The browser connection handoff is invalid.")
  requireActiveIdentity a identity
  let generatedId ← ask (.randomToken 32)
  let generatedSecret ← ask (.randomToken 32)
  let id ← check generatedId
  let secret ← check generatedSecret
  let now ← ask .now
  let transaction ← check (AuthenticationTransaction.create ⟨id⟩ ⟨kHandoffProvider⟩ .redirect secret (a.sha256 secret) 0
    correlation now (handoffLifetime a))
  check (← ask (.begin_ (((transaction.setMetadata kHandoffIdentityMetadata identity.value).setMetadata
    kHandoffProviderMetadata providerId.value).setMetadata kHandoffReturnMetadata returnTarget)))
  return ⟨ticketOf id secret,now+handoffLifetime a⟩

def consumeBrowserConnectionHandoff (ticket : Text) : AuthCall BrowserConnectionTarget :=
  match parseTicket ticket with
  | none => .fail (authenticationFailure "Browser handoff redemption refused: malformed ticket.")
  | some (id,secret) => do
    let now ← ask .now
    match ← ask (.consume ⟨id⟩ secret 0 now) with
    | .error _ => .fail (authenticationFailure
        "Browser handoff redemption refused: ticket is unknown, expired, invalid, or already consumed.")
    | .ok consumed =>
      refuseIf (consumed.provider.value ≠ kHandoffProvider)
        (authenticationFailure "Browser handoff redemption refused: transaction purpose mismatch.")
      match named consumed.metadata kHandoffIdentityMetadata,named consumed.metadata kHandoffProviderMetadata,
          named consumed.metadata kHandoffReturnMetadata with
      | some identity,some providerId,some returnTarget =>
        requireActiveIdentity a ⟨identity⟩
        return ⟨⟨identity⟩,⟨providerId⟩,returnTarget⟩
      | _,_,_ => .fail (authenticationFailure
          "Browser handoff redemption refused: server-bound state is incomplete.")

def issueBrowserAuthenticationHandoff (providerId : ProviderId) (correlation : Text) :
    AuthCall BrowserAuthenticationHandoff := do
  refuseIf (providerId.empty || correlation.isEmpty)
    (.because .invalidArgument "The browser authentication handoff is invalid.")
  let registered ← ask (.findProvider providerId)
  let unavailable : Error := .because .notFound "That authentication provider is not available."
  refuseIf (!registered) unavailable
  let model ← ask (.interactionModel providerId)
  refuseIf (model ≠ .challengeResponse) unavailable
  let publisherIdValue ← ask (.randomToken 32)
  let publisherSecretValue ← ask (.randomToken 32)
  let resultIdValue ← ask (.randomToken 32)
  let redeemSecretValue ← ask (.randomToken 32)
  let publisherId ← check publisherIdValue
  let publisherSecret ← check publisherSecretValue
  let resultId ← check resultIdValue
  let redeemSecret ← check redeemSecretValue
  let redeemDigest ← check (a.sha256 redeemSecret)
  let now ← ask .now
  let transaction ← check (AuthenticationTransaction.create ⟨publisherId⟩ ⟨kAuthenticationHandoffProvider⟩ .redirect
    publisherSecret (a.sha256 publisherSecret) 0 correlation now (handoffLifetime a))
  check (← ask (.begin_ (((transaction.setMetadata kHandoffProviderMetadata providerId.value).setMetadata
    kAuthenticationHandoffResultIdMetadata resultId).setMetadata kAuthenticationHandoffRedeemDigestMetadata
      (digestHex redeemDigest))))
  return ⟨ticketOf publisherId publisherSecret,ticketOf resultId redeemSecret,now+handoffLifetime a⟩

def resultMetadata (authentication : VerifiedAuthentication) : AttributeMap :=
  let outcome := authentication.outcome
  ((((((((∅ : AttributeMap).insert kAuthenticationHandoffIdentityMetadata authentication.identity.value).insert
    kHandoffProviderMetadata outcome.provider.value).insert
    kAuthenticationHandoffSubjectMetadata outcome.subject.value).insert
    kAuthenticationHandoffAssuranceMetadata (assuranceLevelName outcome.claimedAssurance)).insert
    kAuthenticationHandoffFactorsMetadata (decimal outcome.strength.factors.toNat)).insert
    kAuthenticationHandoffPhishingMetadata (if outcome.strength.phishingResistant then "1" else "0")).insert
    kAuthenticationHandoffVerifiedAtMetadata (decimal outcome.verifiedAt))

def publisherState (metadata : AttributeMap) : Option (Text × Text × Text) :=
  match metadata[kHandoffProviderMetadata]?,metadata[kAuthenticationHandoffResultIdMetadata]?,
      metadata[kAuthenticationHandoffRedeemDigestMetadata]? with
  | some providerId,some resultId,some digest =>
    if providerId.isEmpty || resultId.isEmpty then none else some (providerId,resultId,digest)
  | _,_,_ => none

def publishBrowserAuthenticationHandoff (publisherTicket : Text) (authentication : VerifiedAuthentication) :
    AuthCall Unit :=
  match parseTicket publisherTicket with
  | none => .fail (authenticationFailure "Browser authentication handoff publication refused: malformed ticket.")
  | some (id,secret) => do
    let now ← ask .now
    let consumed ← check (← ask (.consume ⟨id⟩ secret 0 now))
    refuseIf (consumed.provider.value ≠ kAuthenticationHandoffProvider)
      (authenticationFailure "Browser authentication handoff publication refused: purpose mismatch.")
    match publisherState consumed.metadata with
    | none => .fail (authenticationFailure
        "Browser authentication handoff publication refused: state is incomplete.")
    | some (providerId,resultId,digest) =>
      refuseIf (authentication.outcome.provider.value ≠ providerId)
        (authenticationFailure "Browser authentication handoff publication refused: provider mismatch.")
      match parseDigestHex digest with
      | none => .fail (authenticationFailure
          "Browser authentication handoff publication refused: invalid redeem digest.")
      | some redeemDigest =>
        let now ← ask .now
        refuseIf (consumed.expiresAt ≤ now)
          (.because .failedPrecondition "This authentication request has expired.")
        let result ← check (AuthenticationTransaction.restore ⟨resultId⟩ ⟨kAuthenticationHandoffResultProvider⟩ .redirect
          redeemDigest 0 consumed.correlation .pending now consumed.expiresAt (resultMetadata authentication))
        check (← ask (.begin_ result))

structure HandoffResult where
  identity : IdentityId
  provider : ProviderId
  subject : ExternalSubject
  assurance : AssuranceLevel
  strength : AuthenticationStrength
  verifiedAt : Instant
  deriving DecidableEq

-- `std::from_chars` for `unsigned int`, when it has to consume everything.
def unsignedFromChars (text : Text) : Option Nat :=
  (digitsValue text).bind fun value => if value < 4294967296 then some value.toNat else none

def readStrength (factors phishing : Text) : Option AuthenticationStrength :=
  match unsignedFromChars factors with
  | none => none
  | some factors =>
    if factors > 7 || (phishing ≠ Text.of "0" && phishing ≠ Text.of "1") then none
    else some ⟨factors.toUInt8,phishing = Text.of "1"⟩

def readResult (metadata : AttributeMap) : Result HandoffResult :=
  match metadata[kAuthenticationHandoffIdentityMetadata]?,metadata[kHandoffProviderMetadata]?,
      metadata[kAuthenticationHandoffSubjectMetadata]?,metadata[kAuthenticationHandoffAssuranceMetadata]?,
      metadata[kAuthenticationHandoffFactorsMetadata]?,metadata[kAuthenticationHandoffPhishingMetadata]?,
      metadata[kAuthenticationHandoffVerifiedAtMetadata]? with
  | some identity,some providerId,some subject,some assurance,some factors,some phishing,some verifiedAt =>
    match parseAssurance assurance,readStrength factors phishing,(fromChars verifiedAt).filter fun value => 0 ≤ value with
    | some assurance,some strength,some verifiedAt => .ok ⟨⟨identity⟩,⟨providerId⟩,⟨subject⟩,assurance,strength,verifiedAt⟩
    | _,_,_ => .error (authenticationFailure
        "Browser authentication handoff redemption refused: result is invalid.")
  | _,_,_,_,_,_,_ => .error (authenticationFailure
      "Browser authentication handoff redemption refused: state is incomplete.")

def currentMaximum (providerId : ProviderId) : AuthCall (Option AssuranceLevel) := do
  if ← ask (.findProvider providerId) then effectiveMaximum a providerId else return none

def redeemResult (result : HandoffResult) : AuthCall VerifiedAuthentication := do
  let maximum ← currentMaximum a result.provider
  refuseIf (!maximum.any fun maximum => meetsAssurance maximum result.assurance)
    (authenticationFailure "Browser authentication handoff redemption refused: provider trust changed.")
  requireActiveIdentity a result.identity
  let owner ← ask (.ownerOf ⟨result.provider,result.subject,none,none,none⟩)
  refuseIf (!owner.toOption.any fun owner => owner == some result.identity)
    (authenticationFailure "Browser authentication handoff redemption refused: identity link changed.")
  let outcome ← check (AuthenticationOutcome.create result.provider result.subject ⟨∅⟩ result.assurance result.strength ∅
    result.verifiedAt)
  return ⟨outcome,result.identity⟩

def redeemBrowserAuthenticationHandoff (redeemTicket : Text) : AuthCall VerifiedAuthentication :=
  match parseTicket redeemTicket with
  | none => .fail (authenticationFailure "Browser authentication handoff redemption refused: malformed ticket.")
  | some (id,secret) => do
    let now ← ask .now
    let consumed ← check (← ask (.consume ⟨id⟩ secret 0 now))
    refuseIf (consumed.provider.value ≠ kAuthenticationHandoffResultProvider)
      (authenticationFailure "Browser authentication handoff redemption refused: purpose mismatch.")
    let result ← check (readResult consumed.metadata)
    redeemResult a result

end OpenProof.AuthenticationHandoffs
