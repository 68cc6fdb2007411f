import OpenProof.CeremonyWorld

namespace OpenProof.Ceremonies
open AtomicPrograms Foundation ExternalIdentities IdentityProfiles Accounts AccountWorld AccountService
open CeremonyWorld Identities
open AtomicPrograms.Prog (check refuseIf)

structure CeremonyService extends Service where
  phoneProvider : ProviderId

def acceptedPassword (password : Text) : Bool := 8 ≤ password.length && password.length ≤ 1024

variable (s : CeremonyService)

-- `if (!result) { undo; return fail(result.error()); }`
def orElse (result : Result α) (undo : CeremonyCall Unit) : CeremonyCall α :=
  match result with
  | .ok a => .ret a
  | .error e => undo.bind fun _ => .fail e

def silently (op : AccountOp) : CeremonyCall Unit := (perform op).bind fun _ => .ret ()

def rebindBack (identity : IdentityId) (replacement previous : ExternalSubject) : CeremonyCall Unit :=
  (Prog.perform (CeremonyOp.rebindSubject identity replacement previous)).bind fun _ => .ret ()

def guarded (step : CeremonyCall (Result α)) (undo : CeremonyCall Unit) : CeremonyCall α := do
  orElse (← step) undo

def settle (profile : IdentityProfile) (replacement : Text) (undo : CeremonyCall Unit) : CeremonyCall Unit := do
  let verified ← orElse (profile.setEmail replacement true (← perform .now)) undo
  guarded (perform (.saveProfile verified)) undo

def confirmEmail (identity : IdentityId) (profile : IdentityProfile) (replacement : Text) : CeremonyCall Unit := do
  let newExternal := localRef s.toService replacement
  settle profile replacement (silently (.releaseSubject newExternal identity))
  check (← perform (.releaseSubject newExternal identity))

def beginSignIn (identity : IdentityId) (profile : IdentityProfile) (replacement password : Text) : CeremonyCall Unit := do
  let newExternal := localRef s.toService replacement
  let release := silently (.releaseSubject newExternal identity)
  let remove := (silently (.removePending identity newExternal.subject)).bind fun _ => release
  guarded (perform (.enrollPending identity newExternal.subject password)) release
  guarded (onward (attachVerified identity newExternal)).attempt remove
  settle profile replacement ((silently (.detach newExternal identity)).bind fun _ => remove)
  check (← perform (.releaseSubject newExternal identity))

def moveSignIn (identity : IdentityId) (profile : IdentityProfile) (previous : ExternalSubject) (replacement : Text) :
    CeremonyCall Unit := do
  let newExternal := localRef s.toService replacement
  let oldExternal := localRef s.toService previous.value
  let release := silently (.releaseSubject newExternal identity)
  let detach := (silently (.detach newExternal identity)).bind fun _ => release
  guarded (onward (attachVerified identity newExternal)).attempt release
  guarded (Prog.perform (CeremonyOp.rebindSubject identity previous newExternal.subject)) detach
  settle profile replacement ((rebindBack identity newExternal.subject previous).bind fun _ => detach)
  guarded (perform (.detach oldExternal identity)) release
  check (← perform (.releaseSubject newExternal identity))

def completeEmailChange (expectedIdentity : IdentityId) (id : VerificationId) (secret : Text)
    (newPassword : Option Text) : CeremonyCall Unit := do
  refuseIf (newPassword.any fun password => !acceptedPassword password)
    (.because .invalidArgument "The password length is outside the accepted range.")
  let challenge ← onward (consume s.toService id secret .changeEmail (some expectedIdentity))
  let replacement := challenge.destination
  let newExternal := localRef s.toService replacement
  let release := silently (.releaseSubject newExternal challenge.identity)
  let reservedOwner ← check (← perform (.reservedOwner newExternal (← perform .now)))
  refuseIf (reservedOwner ≠ some challenge.identity)
    (genericVerificationFailure "Email subject reservation is absent or belongs to another identity.")
  let profile ← guarded (onward (requireProfile challenge.identity)).attempt release
  let connections ← guarded (perform (.externalIdentitiesOf challenge.identity)) release
  match connections.find? fun external => external.providerId = s.localProvider with
  | none =>
    match newPassword with
    | some password => beginSignIn s challenge.identity profile replacement password
    | none => confirmEmail s challenge.identity profile replacement
  | some found =>
    if found.subject.value = replacement then confirmEmail s challenge.identity profile replacement
    else moveSignIn s challenge.identity profile found.subject replacement

def completePhoneVerification (expectedIdentity : IdentityId) (id : VerificationId) (secret : Text) :
    CeremonyCall Unit := do
  let challenge ← onward (consume s.toService id secret .verifyPhone none)
  refuseIf (challenge.identity ≠ expectedIdentity)
    (genericVerificationFailure "Verification challenge does not belong to the authenticated identity.")
  let external : ExternalIdentityRef := ⟨s.phoneProvider,⟨challenge.destination⟩,none,none,none⟩
  let detach := silently (.detach external challenge.identity)
  onward (attachVerified challenge.identity external)
  let profile ← guarded (onward (requireProfile challenge.identity)).attempt detach
  let verified ← check (profile.setPhoneNumber challenge.destination true (← perform .now))
  guarded (perform (.saveProfile verified)) detach
  check (← perform (.releaseSubject external challenge.identity))

def completePasswordReset (id : VerificationId) (secret newPassword : Text) : CeremonyCall Unit := do
  refuseIf (!acceptedPassword newPassword)
    (.because .invalidArgument "The password length is outside the accepted range.")
  let challenge ← onward (consume s.toService id secret .passwordReset none)
  let external := localRef s.toService challenge.destination
  let owner ← perform (.ownerOf external)
  refuseIf (!owner.toOption.any fun owner => owner = some challenge.identity)
    (genericVerificationFailure "Password reset subject ownership changed during the ceremony.")
  check (← Prog.perform (CeremonyOp.changePassword external.subject newPassword))
  let revoked ← Prog.perform (CeremonyOp.revokeAll challenge.identity (← perform .now))
  (check revoked).bind fun _ => .ret ()

end OpenProof.Ceremonies
