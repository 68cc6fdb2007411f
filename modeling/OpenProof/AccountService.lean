import OpenProof.AccountWorld

namespace OpenProof.AccountService
open AtomicPrograms Foundation ExternalIdentities IdentityProfiles Accounts AccountWorld AtomicPrograms.Prog
open Identities

structure AccountPolicy where
  emailVerificationLifetime : Duration
  phoneVerificationLifetime : Duration
  passwordResetLifetime : Duration
  maximumAttempts : Nat
  positive : 0 < emailVerificationLifetime ∧ 0 < phoneVerificationLifetime ∧ 0 < passwordResetLifetime
  bounded : emailVerificationLifetime ≤ 172800000 ∧ phoneVerificationLifetime ≤ 1800000 ∧
    passwordResetLifetime ≤ 7200000
  allowing : 0 < maximumAttempts ∧ maximumAttempts ≤ 20

def AccountPolicy.create (emailVerificationLifetime phoneVerificationLifetime passwordResetLifetime : Duration)
    (maximumAttempts : Nat) : Result AccountPolicy :=
  if positive : 0 < emailVerificationLifetime ∧ 0 < phoneVerificationLifetime ∧ 0 < passwordResetLifetime then
    if bounded : emailVerificationLifetime ≤ 172800000 ∧ phoneVerificationLifetime ≤ 1800000 ∧
        passwordResetLifetime ≤ 7200000 then
      if allowing : 0 < maximumAttempts ∧ maximumAttempts ≤ 20 then
        .ok ⟨emailVerificationLifetime,phoneVerificationLifetime,passwordResetLifetime,maximumAttempts,
          positive,bounded,allowing⟩
      else fail .invalidArgument "The account verification policy is invalid."
    else fail .invalidArgument "The account verification policy is invalid."
  else fail .invalidArgument "The account verification policy is invalid."

-- What the service is built with. The key of the digests is inside `hmacSha256`.
structure Service where
  organization : OrganizationId
  localProvider : ProviderId
  hmacSha256 : Text → Result VerificationDigest
  policy : AccountPolicy

-- `rfind` and `substr`: what stands after the last occurrence.
def afterLast (symbol : UInt8) : Text → Option Text
  | [] => none
  | byte :: rest => (afterLast symbol rest).or (if byte == symbol then some rest else none)

def validEmail (value : Text) : Bool :=
  if value.length < 3 || value.length > 320 || value.head? == some (ch '@') || value.getLast? == some (ch '@')
      || value.contains (ch ' ') then false
  else (afterLast (ch '@') value).any fun domain =>
    domain.length+1 < value.length && !domain.isEmpty && domain.contains (ch '.')

def normalizeEmail (value : Text) : Result Text :=
  if !validEmail value then fail .invalidArgument "The email address is invalid." else .ok (toLower value)

def genericVerificationFailure (detail : Text) : Error :=
  .of .authenticationFailed (defaultErrorMessage .authenticationFailed) detail

-- `if (!result) { undo; return fail(result.error()); }`
def orUndo (result : Result α) (undo : AccountCall Unit) : AccountCall α :=
  match result with
  | .ok a => .ret a
  | .error e => undo.bind fun _ => .fail e

variable (s : Service)

def digest (id : VerificationId) (secret : Text) : Result VerificationDigest :=
  if id.empty || secret.isEmpty || secret.length > 256 then
    .error (genericVerificationFailure "Verification input is malformed.")
  else s.hmacSha256 (id.value ++ ch ':' :: secret)

def issue (identity : IdentityId) (purpose : VerificationPurpose) (destination : Text) (lifetime : Duration) :
    AccountCall VerificationDispatch := do
  let idRaw ← check (← ask (.randomToken 24))
  let id : VerificationId := ⟨Text.of "opv_" ++ idRaw⟩
  let secret ← check (← ask (.randomToken 24))
  let fingerprint ← check (digest s id secret)
  let now ← ask .now
  let challenge ← check (VerificationChallenge.create id identity purpose .email destination fingerprint now lifetime)
  check (← ask (.replace challenge))
  return ⟨id,identity,purpose,.email,destination,secret,challenge.expiresAt⟩

def consume (id : VerificationId) (secret : Text) (purpose : VerificationPurpose)
    (expectedIdentity : Option IdentityId) : AccountCall VerificationChallenge := do
  let fingerprint ← check (digest s id secret)
  let now ← ask .now
  let challenge ← check (← ask (.consume id fingerprint now s.policy.maximumAttempts expectedIdentity))
  refuseIf (challenge.purpose ≠ purpose)
    (genericVerificationFailure "Verification challenge purpose did not match the endpoint.")
  return challenge

def requireProfile (identity : IdentityId) : AccountCall IdentityProfile := do
  match ← check (← ask (.findProfile identity)) with
  | none => .fail (.plain .notFound)
  | some profile => return profile

def attachVerified (identity : IdentityId) (external : ExternalIdentityRef) : AccountCall Unit := do
  let link ← check (IdentityLink.request identity external (← ask .now) 300000)
  let link ← check (link.requireVerification (← ask .now))
  let link ← check (link.markVerified (← ask .now))
  let link ← check (link.complete (← ask .now))
  check (← ask (.attach link))

def localRef (normalized : Text) : ExternalIdentityRef := ⟨s.localProvider,⟨normalized⟩,none,none,none⟩

def tally : List IdentityId → (activeVerifiedMatches : List IdentityId) → (blockedVerifiedMatches : Nat) →
    AccountCall (List IdentityId × Nat)
  | [],activeVerifiedMatches,blockedVerifiedMatches => .ret (activeVerifiedMatches,blockedVerifiedMatches)
  | candidate :: rest,activeVerifiedMatches,blockedVerifiedMatches => do
    match ← check (← ask (.findById s.organization candidate)) with
    | none => tally rest activeVerifiedMatches blockedVerifiedMatches
    | some canonical =>
      if canonical.canAuthenticate then tally rest (activeVerifiedMatches ++ [candidate]) blockedVerifiedMatches
      else if canonical.status ≠ .deleted ∧ canonical.status ≠ .merged then
        tally rest activeVerifiedMatches (blockedVerifiedMatches+1)
      else tally rest activeVerifiedMatches blockedVerifiedMatches

def joined (activeVerifiedMatches : List IdentityId) (blockedVerifiedMatches : Nat) : Result (Option IdentityId) :=
  if activeVerifiedMatches.length > 1 || (blockedVerifiedMatches > 0 && !activeVerifiedMatches.isEmpty) then
    .error (.of .conflict "That verified email is already associated with multiple identities."
      "Local signup refused to guess between canonical identities that share the same verified email. An explicit merge is required.")
  else if activeVerifiedMatches.isEmpty && blockedVerifiedMatches > 0 then
    fail .alreadyExists "An account with that verified email already exists."
  else .ok activeVerifiedMatches.head?

def reserve (external : ExternalIdentityRef) (identity : IdentityId) : AccountCall (Result Unit) := do
  let now ← ask .now
  let base ← ask .now
  ask (.reserveSubject external identity now (base + s.policy.emailVerificationLifetime))

def release (external : ExternalIdentityRef) (identity : IdentityId) : AccountCall Unit :=
  (ask (.releaseSubject external identity)).bind fun _ => .ret ()

def withdraw (external : ExternalIdentityRef) (identity : IdentityId) : AccountCall Unit :=
  (ask (.removePending identity external.subject)).bind fun _ => release external identity

def discardIdentity (identity : IdentityId) : AccountCall Unit :=
  (ask (.changeStatus s.organization identity .deleted)).bind fun _ => .ret ()

-- The address is reserved for an identity and its local account enrolled; what came
-- before this is the caller's to undo.
def hold (identity : IdentityId) (normalized password : Text) (undo : AccountCall Unit) : AccountCall Unit := do
  let external := localRef s normalized
  orUndo (← reserve s external identity) undo
  orUndo (← ask (.enrollPending identity external.subject password)) ((release external identity).bind fun _ => undo)

def joinExisting (existingIdentity : IdentityId) (normalized password : Text) : AccountCall IdentityId := do
  let external := localRef s normalized
  let connections ← check (← ask (.externalIdentitiesOf existingIdentity))
  refuseIf (connections.any fun connected => connected.providerId = s.localProvider)
    (.because .alreadyExists "Email sign-in is already configured for this account.")
  hold s existingIdentity normalized password (.ret ())
  let dispatch ← orUndo
    (← (issue s existingIdentity .signupEmail normalized s.policy.emailVerificationLifetime).attempt)
    (withdraw external existingIdentity)
  orUndo (← ask (.deliver dispatch)) (withdraw external existingIdentity)
  return existingIdentity

def enrolNew (normalized password : Text) : AccountCall IdentityId := do
  let idRaw ← check (← ask (.randomToken 24))
  let identity : IdentityId := ⟨Text.of "opi_" ++ idRaw⟩
  let canonical ← check (Identity.create identity .human (← ask .now))
  let deactivated ← check (canonical.changeStatus .deactivated)
  check (← ask (.add s.organization deactivated))
  hold s identity normalized password (discardIdentity s identity)
  return identity

def pendingProfile (identity : IdentityId) (normalized : Text) (displayName : Option Text) :
    AccountCall IdentityProfile := do
  let profile ← check (IdentityProfile.create identity (← ask .now))
  let profile ← check (profile.setEmail normalized false (← ask .now))
  match displayName with
  | none => return profile
  | some name => check (profile.updateSelfService (some name) none none none (← ask .now))

def introduce (identity : IdentityId) (normalized : Text) (displayName : Option Text) : AccountCall IdentityId := do
  let external := localRef s normalized
  let profile ← pendingProfile identity normalized displayName
  orUndo (← ask (.saveProfile profile)) ((withdraw external identity).bind fun _ => discardIdentity s identity)
  let dispatch ← issue s identity .signupEmail normalized s.policy.emailVerificationLifetime
  check (← ask (.deliver dispatch))
  return identity

def screen (normalized : Text) : AccountCall (Option IdentityId) := do
  let external := localRef s normalized
  let existing ← check (← ask (.ownerOf external))
  refuseIf existing.isSome (.because .alreadyExists "An account with that identifier already exists.")
  let reserved ← check (← ask (.reservedOwner external (← ask .now)))
  refuseIf reserved.isSome
    (.because .alreadyExists "An account with that identifier is already pending verification.")
  let verifiedMatches ← check (← ask (.findVerifiedByEmail normalized))
  let (activeVerifiedMatches,blockedVerifiedMatches) ← tally s verifiedMatches [] 0
  check (joined activeVerifiedMatches blockedVerifiedMatches)

def signup (email password : Text) (displayName : Option Text) : AccountCall IdentityId := do
  let normalized ← check (normalizeEmail email)
  match ← screen s normalized with
  | some existingIdentity => joinExisting s existingIdentity normalized password
  | none => (enrolNew s normalized password).bind fun identity => introduce s identity normalized displayName

def resendSignupVerification (email : Text) : AccountCall Unit := do
  let normalized ← check (normalizeEmail email)
  match ← check (← ask (.reservedOwner (localRef s normalized) (← ask .now))) with
  | none => return ()
  | some reserved =>
    let dispatch ← issue s reserved .signupEmail normalized s.policy.emailVerificationLifetime
    check (← ask (.deliver dispatch))

def unverify (profile : IdentityProfile) (destination : Text) : AccountCall Unit := do
  let now ← ask .now
  let reverted := match profile.setEmail destination false now with
    | .ok changed => changed
    | .error _ => profile
  (ask (.saveProfile reverted)).bind fun _ => .ret ()

def activate (challenge : VerificationChallenge) (profile : IdentityProfile) : AccountCall ExternalIdentityRef := do
  let external := localRef s challenge.destination
  orUndo (← (attachVerified challenge.identity external).attempt) (unverify profile challenge.destination)
  orUndo (← ask (.changeStatus s.organization challenge.identity .active))
    ((ask (.detach external challenge.identity)).bind fun _ => unverify profile challenge.destination)
  check (← ask (.releaseSubject external challenge.identity))
  return external

def verifyEmailAndGetExternal (id : VerificationId) (secret : Text) : AccountCall ExternalIdentityRef := do
  let challenge ← consume s id secret .signupEmail none
  let reserved ← ask (.reservedOwner (localRef s challenge.destination) (← ask .now))
  refuseIf (!reserved.toOption.any fun owner => owner = some challenge.identity)
    (genericVerificationFailure "Signup subject reservation is absent or belongs to another identity.")
  let profile ← requireProfile challenge.identity
  let verified ← check (profile.setEmail challenge.destination true (← ask .now))
  check (← ask (.saveProfile verified))
  activate s challenge verified

def verifyEmail (id : VerificationId) (secret : Text) : AccountCall Unit :=
  (verifyEmailAndGetExternal s id secret).bind fun _ => .ret ()

def linked (identity : IdentityId) (external : ExternalIdentityRef) (clock : Nat → Instant) : Result IdentityLink := do
  let link ← IdentityLink.request identity external (clock 0) 300000
  let link ← link.requireVerification (clock 1)
  let link ← link.markVerified (clock 2)
  link.complete (clock 3)

section

theorem linked_spec (done : linked identity external clock = .ok link) :
    link.owner = identity ∧ link.external = external ∧ link.state = .linked := by
  obtain ⟨first,requested,onward⟩ := bind_ok done
  obtain ⟨second,required,onward⟩ := bind_ok onward
  obtain ⟨third,verified,completed⟩ := bind_ok onward
  rw [IdentityLink.transitionTo_spec completed,IdentityLink.transitionTo_spec verified,
    IdentityLink.transitionTo_spec required]
  obtain ⟨-,further⟩ := passed requested
  obtain ⟨-,further⟩ := passed further
  obtain ⟨-,further⟩ := passed further
  cases further
  exact ⟨rfl,rfl,rfl⟩

theorem linked_prompt (named : identity.empty = false)
    (given : external.providerId.empty = false ∧ external.subject.empty = false)
    (prompt : ∀ n,n ≤ 3 → clock n < clock 0 + 300000) : ∃ link,linked identity external clock = .ok link := by
  have one := Int.not_le.mpr (prompt 1 (by decide))
  have two := Int.not_le.mpr (prompt 2 (by decide))
  have three := Int.not_le.mpr (prompt 3 (by decide))
  refine ⟨⟨identity,external,clock 0,clock 0+300000,.linked⟩,?_⟩
  simp [linked,IdentityLink.request,IdentityLink.requireVerification,IdentityLink.markVerified,IdentityLink.complete,
    IdentityLink.transitionTo,IdentityLink.isExpiredAt,isPermittedTransition,named,given,one,two,three,bind,Except.bind]

theorem attachVerified_run (done : linked identity external w.clock = .ok link)
    (attached : (w.directory.attach link).1 = .ok ()) : (attachVerified identity external).run exec w =
      (.ok (),{ w with clock := fun n => w.clock (n+4), directory := (w.directory.attach link).2 }) := by
  obtain ⟨first,requested,onward⟩ := bind_ok done
  obtain ⟨second,required,onward⟩ := bind_ok onward
  obtain ⟨third,verified,completed⟩ := bind_ok onward
  simp only [attachVerified,Prog.bind_eq,ask,Prog.run_perform_bind,exec,tail_get,requested,check,Prog.ret_bind]
  simp only [required,Prog.ret_bind,Prog.run_perform_bind,exec,tail_get]
  simp only [verified,Prog.ret_bind,Prog.run_perform_bind,exec,tail_get]
  simp only [completed,Prog.ret_bind,Prog.run_perform_bind,exec,attached,Prog.run_ret]
  rfl

end

end OpenProof.AccountService
