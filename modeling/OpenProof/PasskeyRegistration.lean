import OpenProof.AuthenticationService
import OpenProof.CallEmbeddings
import OpenProof.DirectoryChanges
import OpenProof.PasskeyProvider

namespace OpenProof.PasskeyRegistration
open AtomicPrograms CallEmbeddings Foundation Passkeys AuthenticationService AuthenticationWorld Cbor
open ExternalIdentities Identities PasskeyProvider Prog

structure RegistrationResponse where
  credentialId : Text
  clientDataJson : Text
  attestationObject : Text

structure ParsedCoseKey where
  x : Text
  y : Text
  consumed : Nat

structure AttestationResult where
  credentialId : Text
  x : Text
  y : Text
  signCount : UInt32

-- What the loop over the parameters of a key has read.
structure CoseParameters where
  kty : Option Int
  alg : Option Int
  crv : Option Int
  x : Option Text
  y : Option Text

namespace CoseParameters

def next (read : CoseParameters) (reader : CborReader) : Result (CoseParameters × CborReader) :=
  match reader.integer with
  | .error _ => .error (failure "WebAuthn COSE key is malformed.")
  | .ok (key,reader) =>
    if key = 1 ∨ key = 3 ∨ key = -1 then
      match reader.integer with
      | .error _ => .error (failure "WebAuthn COSE key parameter is malformed.")
      | .ok (value,reader) =>
        if key = 1 then .ok ({ read with kty := some value },reader)
        else if key = 3 then .ok ({ read with alg := some value },reader)
        else .ok ({ read with crv := some value },reader)
    else if key = -2 ∨ key = -3 then
      match reader.bytes 64 with
      | .error _ => .error (failure "WebAuthn EC coordinate is invalid.")
      | .ok (value,reader) =>
        if value.length ≠ 32 then .error (failure "WebAuthn EC coordinate is invalid.")
        else if key = -2 then .ok ({ read with x := some value },reader)
        else .ok ({ read with y := some value },reader)
    else
      match reader.skip with
      | .error _ => .error (failure "WebAuthn COSE key contains invalid data.")
      | .ok reader => .ok (read,reader)

def all : Nat → CoseParameters → CborReader → Result (CoseParameters × CborReader)
  | 0,read,reader => .ok (read,reader)
  | count+1,read,reader => (read.next reader).bind fun one => all count one.1 one.2

end CoseParameters

def parseEs256Key (input : Text) : Result ParsedCoseKey :=
  match CborReader.head ⟨input,0⟩ with
  | .error _ => .error (failure "WebAuthn COSE key is invalid.")
  | .ok (map,reader) =>
    if map.major ≠ 5 ∨ map.value < 5 ∨ map.value > 16 then .error (failure "WebAuthn COSE key is invalid.")
    else do
      let (read,reader) ← CoseParameters.all map.value ⟨none,none,none,none,none⟩ reader
      match read with
      | ⟨some 2,some (-7),some 1,some x,some y⟩ => .ok ⟨toBase64Url x,toBase64Url y,reader.offset⟩
      | _ => .error (failure "WebAuthn credential is not an ES256 P-256 key.")

structure AttestationEntries where
  fmt : Option Text
  authData : Option Text
  sawAttStmt : Bool
  emptyAttStmt : Bool

namespace AttestationEntries

def next (read : AttestationEntries) (reader : CborReader) : Result (AttestationEntries × CborReader) :=
  match reader.text 32 with
  | .error _ => .error (failure "WebAuthn attestation object is malformed.")
  | .ok (key,reader) =>
    if key = Text.of "fmt" then
      if read.fmt.isSome then .error (failure "Duplicate WebAuthn attestation format.")
      else match reader.text 32 with
        | .error _ => .error (failure "WebAuthn attestation format is malformed.")
        | .ok (value,reader) => .ok ({ read with fmt := some value },reader)
    else if key = Text.of "authData" then
      if read.authData.isSome then .error (failure "Duplicate WebAuthn authenticator data.")
      else match reader.bytes kMaximumAttestation with
        | .error _ => .error (failure "WebAuthn authenticator data is malformed.")
        | .ok (value,reader) => .ok ({ read with authData := some value },reader)
    else if key = Text.of "attStmt" then
      if read.sawAttStmt then .error (failure "Duplicate WebAuthn attestation statement.")
      else match reader.head with
        | .error _ => .error (failure "WebAuthn attestation statement is malformed.")
        | .ok (value,reader) =>
          if value.major ≠ 5 then .error (failure "WebAuthn attestation statement is malformed.")
          else match CborReader.times (fun reader => reader.skip.bind CborReader.skip) value.value reader with
            | .error _ => .error (failure "WebAuthn attestation statement is malformed.")
            | .ok reader => .ok ({ read with sawAttStmt := true,emptyAttStmt := value.value = 0 },reader)
    else match reader.skip with
      | .error _ => .error (failure "WebAuthn attestation object is malformed.")
      | .ok reader => .ok (read,reader)

def all : Nat → AttestationEntries → CborReader → Result (AttestationEntries × CborReader)
  | 0,read,reader => .ok (read,reader)
  | count+1,read,reader => (read.next reader).bind fun one => all count one.1 one.2

end AttestationEntries

def attestedData (attestationBytes : Text) : Result Text :=
  match CborReader.head ⟨attestationBytes,0⟩ with
  | .error _ => .error (failure "WebAuthn attestation object is invalid.")
  | .ok (map,reader) =>
    if map.major ≠ 5 ∨ map.value > 16 then .error (failure "WebAuthn attestation object is invalid.")
    else do
      let (read,reader) ← AttestationEntries.all map.value ⟨none,none,false,false⟩ reader
      match read.authData with
      | some authData =>
        if !reader.done || read.fmt ≠ some (Text.of "none") || !read.sawAttStmt || !read.emptyAttStmt then
          .error (failure "Only privacy-preserving WebAuthn none attestation is accepted.")
        else .ok authData
      | none => .error (failure "Only privacy-preserving WebAuthn none attestation is accepted.")

def verifyExtensions (flags : UInt8) (trailing : Text) : Result Unit :=
  if flags &&& kExtensionData ≠ 0 then
    match CborReader.skip ⟨trailing,0⟩ with
    | .error _ => .error (failure "WebAuthn extension data is malformed.")
    | .ok extensions => if extensions.done then .ok () else .error (failure "WebAuthn extension data is malformed.")
  else if !trailing.isEmpty then .error (failure "WebAuthn authenticator data has trailing bytes.")
  else .ok ()

def verifyAttested (response : RegistrationResponse) (rawCredential : Text) (parsed : PasskeyProvider.ParsedAuthenticator) :
    Result AttestationResult :=
  if parsed.trailing.length < 18 then .error (failure "WebAuthn attested credential data is truncated.")
  else
    let trailing := parsed.trailing.drop 16
    let credentialLength := ((trailing[0]?).getD 0).toNat*256+((trailing[1]?).getD 0).toNat
    let trailing := trailing.drop 2
    if credentialLength = 0 || credentialLength > kMaximumCredentialIdBytes || trailing.length < credentialLength then
      .error (failure "WebAuthn credential ID is invalid.")
    else if trailing.take credentialLength ≠ rawCredential then
      .error (failure "WebAuthn credential ID binding failed.")
    else do
      let trailing := trailing.drop credentialLength
      let key ← parseEs256Key trailing
      verifyExtensions parsed.flags (trailing.drop key.consumed)
      .ok ⟨response.credentialId,key.x,key.y,parsed.signCount⟩

def verifyAttestation (p : PasskeyAuthenticationProvider) (response : RegistrationResponse) (expectedChallenge : Text) :
    Result AttestationResult := do
  let _ ← p.verifyClientData response.clientDataJson "webauthn.create" expectedChallenge p.config.origin
  match decodeCanonical response.attestationObject kMaximumAttestation,
      decodeCanonical response.credentialId kMaximumCredentialIdBytes with
  | .ok attestationBytes,.ok rawCredential =>
    let authData ← attestedData attestationBytes
    let parsed ← p.verifyAuthenticatorPrefix authData p.config.relyingPartyId true
    verifyAttested response rawCredential parsed
  | _,_ => .error (failure "WebAuthn registration encoding is invalid.")

theorem verifyAttestation_id {p : PasskeyAuthenticationProvider}
    (verified : verifyAttestation p response challenge = .ok attestation) :
    attestation.credentialId = response.credentialId := by
  obtain ⟨client,-,verified⟩ := bind_ok verified
  split at verified
  · obtain ⟨authData,-,verified⟩ := bind_ok verified
    obtain ⟨parsed,-,verified⟩ := bind_ok verified
    unfold verifyAttested at verified
    dsimp only at verified
    split_ifs at verified
    obtain ⟨key,-,verified⟩ := bind_ok verified
    obtain ⟨checked,-,verified⟩ := bind_ok verified
    cases verified
    rfl
  · cases verified

structure State where
  passkeys : InMemoryPasskeyRepository
  auth : AuthState

inductive Op where
  | passkey (op : PasskeyOp)
  | auth (op : AuthOp)
  | detachIfAnotherAuthenticationMethod (external : ExternalIdentityRef) (expectedOwner : IdentityId)
      (authenticationProviders : List ProviderId)

abbrev Op.Ret : Op → Type
  | .passkey op => op.Ret
  | .auth op => op.Ret
  | .detachIfAnotherAuthenticationMethod .. => Result Unit

variable (sha256 : Text → Result Sha256Digest)

def exec : (op : Op) → State → op.Ret × State
  | .passkey op,w => ((w.passkeys.exec op).1,{ w with passkeys := (w.passkeys.exec op).2 })
  | .auth op,w => ((AuthenticationWorld.exec sha256 op w.auth).1,
      { w with auth := (AuthenticationWorld.exec sha256 op w.auth).2 })
  | .detachIfAnotherAuthenticationMethod external expectedOwner authenticationProviders,w =>
    let r := w.auth.directory.detachIfAnotherAuthenticationMethod external expectedOwner authenticationProviders
    (r.1,{ w with auth := { w.auth with directory := r.2 } })

abbrev Call (α : Type) := Prog Op Op.Ret Error α

def ask (op : Op) : Call op.Ret := .perform op
def now : Call Instant := ask (.auth .now)
def ofAuth {α : Type} (call : AuthenticationWorld.AuthCall α) : Call α := embed Op.auth (fun _ answer => answer) call

def passkeyRef (identity : IdentityId) : ExternalIdentityRef := ⟨⟨"passkey"⟩,⟨identity.value⟩,none,none,none⟩

namespace PasskeyService
variable (p : PasskeyAuthenticationProvider)

def linkFor (identity : IdentityId) : Call IdentityLink := do
  let link ← check (IdentityLink.request identity (passkeyRef identity) (← now) 300000)
  let link ← check (link.requireVerification (← now))
  let link ← check (link.markVerified (← now))
  check (link.complete (← now))

def withdraw (identity : IdentityId) (credentialId : Text) (e : Error) : Call Unit := do
  let _ ← ask (.passkey (.removeCredential identity credentialId))
  .fail e

def connect (identity : IdentityId) (credentialId : Text) : Call Unit := do
  match ← (linkFor identity).attempt with
  | .error _ => withdraw identity credentialId (.plain .internal)
  | .ok link =>
    match ← ask (.auth (.attach link)) with
    | .error e => withdraw identity credentialId e
    | .ok () => .ret ()

def completeRegistration (identity : IdentityId) (ceremonyId : ChallengeId) (response : RegistrationResponse) :
    Call Unit := do
  let challenge ← check (p.challengeFor "register" ceremonyId)
  let attestation ← check (verifyAttestation p response challenge)
  check (← ask (.passkey (.consumeCeremony ceremonyId identity (← now))))
  let owner ← check (← ask (.auth (.ownerOf (passkeyRef identity))))
  refuseIf (owner.any fun owner => owner ≠ identity) (.plain .conflict)
  let createdAt ← now
  let lastUsedAt ← now
  check (← ask (.passkey (.addCredential ⟨attestation.credentialId,identity,attestation.x,attestation.y,
    attestation.signCount,createdAt,lastUsedAt⟩)))
  match owner with
  | some _ => .ret ()
  | none => connect identity response.credentialId

def connectedCredential : Error :=
  .because .failedPrecondition "Disconnect passkey sign-in before removing the final passkey credential."

def remove (identity : IdentityId) (credentialId : Text) : Call Unit := do
  match ← ask (.passkey (.removeCredentialIfAnotherExists identity credentialId)) with
  | .ok () => .ret ()
  | .error e =>
    if e.code ≠ .failedPrecondition then .fail e
    else do
      match ← check (← ask (.auth (.ownerOf (passkeyRef identity)))) with
      | some owner => if owner ≠ identity then .fail (.plain .permissionDenied) else .fail connectedCredential
      | none => check (← ask (.passkey (.removeCredential identity credentialId)))

end PasskeyService

-- `AuthenticationService::disconnect`; `providerIds` are the ids of its registry.
def disconnect (a : Authenticator) (providerIds : List ProviderId) (identity : IdentityId) (external : ExternalIdentityRef) :
    Call Unit := do
  ofAuth (requireActiveIdentity a identity)
  let known ← ask (.auth (.findProvider external.providerId))
  refuseIf (!known) (.because .invalidArgument "Only authentication connections can be disconnected here.")
  check (← ask (.detachIfAnotherAuthenticationMethod external identity providerIds))
  if !a.profileRepository then .ret ()
  else
    match ← check (← ask (.auth (.findProfile identity))) with
    | none => .ret ()
    | some profile =>
      if profile.avatarSource ≠ external.providerId.value then .ret ()
      else do
        let reset ← check (profile.setAvatarSource "auto" (← now))
        check (← ask (.auth (.saveProfile reset)))

end OpenProof.PasskeyRegistration
