import OpenProof.Cbor
import OpenProof.Passkeys
import OpenProof.SenderProofs

namespace OpenProof.PasskeyProvider
open AtomicPrograms Foundation Passkeys AuthenticationTransactions AuthenticationWorld Cbor ExternalIdentities
open GatewayWorld Http Identities Prog SenderProofs World

def kUserPresent : UInt8 := 0x01
def kUserVerified : UInt8 := 0x04
def kAttestedCredentialData : UInt8 := 0x40
def kExtensionData : UInt8 := 0x80
def kMaximumClientData : Nat := 16*1024
def kMaximumAttestation : Nat := 64*1024
def kMaximumCredentialIdBytes : Nat := 1023

def failure (detail : Text) : Error := .of .authenticationFailed (defaultErrorMessage .authenticationFailed) detail

def base64UrlSymbol (value : UInt32) : UInt8 :=
  ((Text.of "ABCDEFGHIJKLMNOPQRSTUVWXYZabcdefghijklmnopqrstuvwxyz0123456789-_")[(value &&& 0x3F).toNat]?).getD 0

def toBase64Url : Text → Text
  | first :: second :: third :: rest =>
    let triple := first.toUInt32 <<< 16 ||| second.toUInt32 <<< 8 ||| third.toUInt32
    base64UrlSymbol (triple >>> 18) :: base64UrlSymbol (triple >>> 12) :: base64UrlSymbol (triple >>> 6)
      :: base64UrlSymbol triple :: toBase64Url rest
  | [first,second] =>
    [base64UrlSymbol (first.toUInt32 >>> 2),base64UrlSymbol (first.toUInt32 <<< 4 ||| second.toUInt32 >>> 4),
      base64UrlSymbol (second.toUInt32 <<< 2)]
  | [first] => [base64UrlSymbol (first.toUInt32 >>> 2),base64UrlSymbol (first.toUInt32 <<< 4)]
  | [] => []

def decodeCanonical (encoded : Text) (maximum : Nat) : Result Text :=
  if encoded.isEmpty || maximum*2 < encoded.length then .error (.plain .invalidArgument)
  else match fromBase64Url encoded with
    | .error _ => .error (.plain .invalidArgument)
    | .ok decoded =>
      if decoded.isEmpty || maximum < decoded.length || toBase64Url decoded != encoded then
        .error (.plain .invalidArgument)
      else .ok decoded

structure PasskeyConfig where
  relyingPartyId : Text
  origin : Text
  derivationKey : Text
  ceremonyLifetime : Duration

-- What the provider is built with, and the library functions it calls. The last one is the
-- check of an ES256 signature over a message, by the two coordinates of a key.
structure PasskeyAuthenticationProvider where
  config : PasskeyConfig
  hmacSha256 : (key message : Text) → Result Sha256Digest
  sha256 : Text → Result Sha256Digest
  parseJson : Text → Option Json
  serialize : Json → Text
  verifySignature : (x y message signature : Text) → Result Unit

structure AssertionResponse where
  credentialId : Text
  clientDataJson : Text
  authenticatorData : Text
  signature : Text
  userHandle : Option Text

structure ParsedAuthenticator where
  flags : UInt8
  signCount : UInt32
  trailing : Text

def signCountOf (data : Text) : UInt32 :=
  ((data.drop 33).take 4).foldl (fun count byte => count <<< 8 ||| byte.toUInt32) 0

inductive Op where
  | now
  | random (count : Nat)
  | passkey (op : PasskeyOp)

abbrev Op.Ret : Op → Type
  | .now => Instant
  | .random _ => Result Text
  | .passkey op => op.Ret

-- `entropy` is what the random generator will return.
structure State where
  clock : Instant
  entropy : List (Result Text)
  repository : PasskeyRepository

def exec : (op : Op) → State → op.Ret × State
  | .now,w => (w.clock,w)
  | .random _,w => (w.entropy.headD (.error randomFailure),{ w with entropy := w.entropy.tail })
  | .passkey op,w => ((w.repository.exec op).1,{ w with repository := (w.repository.exec op).2 })

abbrev Call (α : Type) := Prog Op Op.Ret Error α

def ask (op : Op) : Prog Op Op.Ret Error op.Ret := .perform op

namespace PasskeyAuthenticationProvider
variable (p : PasskeyAuthenticationProvider)

def challengeFor (purpose : Text) (id : ChallengeId) : Result Text :=
  (p.hmacSha256 p.config.derivationKey (purpose ++ [ch ':'] ++ id.value)).map fun digest => toBase64Url (digestBytes digest)

def bound (object : JsonObject) (expectedType expectedChallenge expectedOrigin : Text) : Bool :=
  Http.jsonString object "type" == some expectedType
    && Http.jsonString object "challenge" == some expectedChallenge
    && Http.jsonString object "origin" == some expectedOrigin
    && (match object.find "crossOrigin" with
      | none => true
      | some (.bool value) => !value
      | some _ => false)

def verifyClientData (encoded expectedType expectedChallenge expectedOrigin : Text) : Result Text :=
  match decodeCanonical encoded kMaximumClientData with
  | .error _ => .error (failure "WebAuthn client data encoding is invalid.")
  | .ok raw =>
    match p.parseJson raw with
    | some (.object object) =>
      if bound object expectedType expectedChallenge expectedOrigin then .ok raw
      else .error (failure "WebAuthn client data binding failed.")
    | _ => .error (failure "WebAuthn client data is malformed.")

def verifyAuthenticatorPrefix (data relyingPartyId : Text) (requireAttestedData : Bool) : Result ParsedAuthenticator :=
  if data.length < 37 then .error (failure "WebAuthn authenticator data is truncated.")
  else if (p.sha256 relyingPartyId).toOption.map digestBytes ≠ some (data.take 32) then
    .error (failure "WebAuthn RP ID hash is invalid.")
  else
    let flags := (data[32]?).getD 0
    if flags &&& kUserPresent = 0 || flags &&& kUserVerified = 0
        || (requireAttestedData && flags &&& kAttestedCredentialData = 0) then
      .error (failure "WebAuthn user presence or verification is missing.")
    else .ok ⟨flags,signCountOf data,data.drop 37⟩

def verifyEs256 (xEncoded yEncoded message signature : Text) : Result Unit :=
  match decodeCanonical xEncoded 32,decodeCanonical yEncoded 32 with
  | .ok x,.ok y =>
    if x.length ≠ 32 || y.length ≠ 32 || signature.isEmpty || 128 < signature.length then
      .error (failure "WebAuthn public key or signature is invalid.")
    else p.verifySignature x y message signature
  | _,_ => .error (failure "WebAuthn public key or signature is invalid.")

def verifyTrailing (flags : UInt8) (trailing : Text) : Result Unit :=
  if flags &&& kExtensionData ≠ 0 then
    match CborReader.skip ⟨trailing,0⟩ with
    | .error _ => .error (failure "WebAuthn assertion extension data is malformed.")
    | .ok extensions =>
      if extensions.done then .ok () else .error (failure "WebAuthn assertion extension data is malformed.")
  else if !trailing.isEmpty then .error (failure "WebAuthn assertion data has trailing bytes.")
  else .ok ()

def verifyUserHandle (stored : PasskeyCredential) (userHandle : Option Text) : Result Unit :=
  match userHandle with
  | none => .ok ()
  | some handle =>
    if (p.sha256 stored.identity.value).toOption.map (fun digest => toBase64Url (digestBytes digest)) = some handle then
      .ok ()
    else .error (failure "WebAuthn user handle binding failed.")

def verifyStored (stored : PasskeyCredential) (response : AssertionResponse) (client authenticatorData signature : Text) :
    Result UInt32 := do
  let parsed ← p.verifyAuthenticatorPrefix authenticatorData p.config.relyingPartyId false
  if parsed.flags &&& kAttestedCredentialData ≠ 0 then
    .error (failure "Unexpected attested data in WebAuthn assertion.")
  else
    verifyTrailing parsed.flags parsed.trailing
    p.verifyUserHandle stored response.userHandle
    let clientHash ← p.sha256 client
    p.verifyEs256 stored.publicKeyX stored.publicKeyY (authenticatorData ++ digestBytes clientHash) signature
    if (stored.signCount ≠ 0 ∨ parsed.signCount ≠ 0) ∧ parsed.signCount ≤ stored.signCount then
      .error (failure "WebAuthn signature counter did not advance.")
    else return parsed.signCount

def verifyAssertion (response : AssertionResponse) (expectedChallenge : Text) (now : Instant) : Call PasskeyCredential :=
  match p.verifyClientData response.clientDataJson "webauthn.get" expectedChallenge p.config.origin,
      decodeCanonical response.credentialId kMaximumCredentialIdBytes,
      decodeCanonical response.authenticatorData kMaximumAttestation,decodeCanonical response.signature 256 with
  | .ok client,.ok _,.ok authenticatorData,.ok signature => do
    match ← ask (.passkey (.findCredential response.credentialId)) with
    | .ok (some stored) =>
      let next ← check (p.verifyStored stored response client authenticatorData signature)
      check (← ask (.passkey (.advanceCounter response.credentialId stored.signCount next now)))
      return { stored with signCount := next,lastUsedAt := now }
    | _ => .fail (failure "WebAuthn credential is unknown.")
  | _,_,_,_ => .fail (failure "WebAuthn assertion encoding is invalid.")

def id : ProviderId := ⟨"passkey"⟩

def parameter (values : AttributeMap) (name : Text) : Option Text := values[name]?.filter fun value => !value.isEmpty

def assertionOf (response : AuthenticationResponse) : Option AssertionResponse :=
  match parameter response.parameters "credential_id",parameter response.parameters "client_data_json",
      parameter response.parameters "authenticator_data",parameter response.parameters "signature" with
  | some credentialId,some clientData,some authenticatorData,some signature =>
    some ⟨credentialId,clientData,authenticatorData,signature,parameter response.parameters "user_handle"⟩
  | _,_,_,_ => none

def publicKeyOptions (challenge : Text) : Json :=
  .object [("challenge",.string challenge),("rpId",.string p.config.relyingPartyId),
    ("timeout",.int64 p.config.ceremonyLifetime),("userVerification",.string "required")]

def beginAuthentication (request : AuthenticationRequest) : Call AuthenticationChallenge := do
  if request.provider ≠ id then .fail (.plain .invalidArgument)
  else
    let random ← check (← ask (.random 24))
    let idValue : ChallengeId := ⟨Text.of "pka_" ++ random⟩
    let challenge ← check (p.challengeFor "authenticate" idValue)
    let at_ ← ask .now
    return ⟨idValue,at_+p.config.ceremonyLifetime,
      (∅ : AttributeMap).insert "public_key_options" (p.serialize (p.publicKeyOptions challenge))⟩

def evidence (credential : PasskeyCredential) : Map Text Text :=
  ((((∅ : Map Text Text).insert "protocol" "webauthn_level3").insert "credential_id" credential.credentialId).insert
    "algorithm" "ES256").insert "user_verification" "required"

def possession : AuthenticationFactor := 2

def strength : AuthenticationStrength := ⟨possession,true⟩

def completeAuthentication (response : AuthenticationResponse) : Call AuthenticationOutcome :=
  match assertionOf response with
  | none => .fail (failure "WebAuthn assertion is incomplete.")
  | some assertion => do
    let challenge ← check (p.challengeFor "authenticate" response.challengeId)
    let at_ ← ask .now
    let credential ← p.verifyAssertion assertion challenge at_
    let verifiedAt ← ask .now
    check (AuthenticationOutcome.create id ⟨credential.identity.value⟩ ⟨∅⟩ .ial2 strength (evidence credential) verifiedAt)

end PasskeyAuthenticationProvider

end OpenProof.PasskeyProvider
