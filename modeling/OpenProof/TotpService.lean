import OpenProof.CallHistories
import OpenProof.TotpWorld

namespace OpenProof.TotpService
open CallTraces CallHistories Foundation ExternalIdentities TotpWorld CallProtocols
open AtomicPrograms.Prog Identities

structure TotpEnrollmentStart where
  id : TotpEnrollmentId
  secretBase32 : Text
  expiresAt : Instant
  replacing : Bool
  deriving DecidableEq

variable (s : TotpWorld.TotpService)

def localSubject (identity : IdentityId) : TotpCall (Option ExternalSubject) := do
  let connections ← check (← ask (.externalIdentitiesOf identity))
  return (connections.find? fun external => external.providerId == s.localProvider).map ExternalIdentityRef.subject

-- `localSubject` where its absence is an error.
def requireSubject (identity : IdentityId) : TotpCall ExternalSubject := do
  match ← localSubject s identity with
  | none => .fail (.because .failedPrecondition "A local email/password sign-in method is required.")
  | some subject => return subject

def beginTotpEnrollment (identity : IdentityId) (password : Text) (currentAssurance : AssuranceLevel) :
    TotpCall TotpEnrollmentStart := do
  let subject ← requireSubject s identity
  check (← ask (.verifyPassword subject password))
  let enabled ← check (← ask (.hasTotp subject))
  refuseIf (enabled && !meetsAssurance currentAssurance .ial2)
    (.because .assuranceInsufficient "Replacing an existing authenticator requires an IAL2 session.")
  let secret ← check (TotpSecret.generate (← ask .randomSecret))
  let identifier ← check (← ask (.randomToken kTotpEnrollmentIdEntropyBytes))
  let enrollmentId : TotpEnrollmentId := ⟨Text.of "opt_" ++ identifier⟩
  let expiresAt := (← ask .now) + kTotpEnrollmentLifetime
  check (← ask (.enroll identity subject enrollmentId secret expiresAt enabled))
  return ⟨enrollmentId,secret.enrollmentBase32,expiresAt,enabled⟩

def completeTotpEnrollment (identity : IdentityId) (enrollmentId : TotpEnrollmentId) (verificationCode : Text)
    (currentAssurance : AssuranceLevel) : TotpCall Unit := do
  refuseIf (enrollmentId.empty || verificationCode.length ≠ 6 || !verificationCode.all isDigit)
    (.because .invalidArgument "The authenticator verification code is invalid.")
  check (← ask (.complete identity enrollmentId verificationCode currentAssurance))

def disableTotp (identity : IdentityId) (password : Text) (currentAssurance : AssuranceLevel) : TotpCall Unit := do
  refuseIf (!meetsAssurance currentAssurance .ial2)
    (.because .assuranceInsufficient "Disabling an authenticator requires an IAL2 session.")
  let subject ← requireSubject s identity
  check (← ask (.verifyPassword subject password))
  check (← ask (.disable identity subject))

inductive TotpRequest where
  | begins (identity : IdentityId) (password : Text) (currentAssurance : AssuranceLevel)
  | completes (identity : IdentityId) (enrollmentId : TotpEnrollmentId) (verificationCode : Text)
      (currentAssurance : AssuranceLevel)
  | disables (identity : IdentityId) (password : Text) (currentAssurance : AssuranceLevel)

inductive TotpReply where
  | started (start : TotpEnrollmentStart)
  | done

def calling : TotpRequest → TotpCall TotpReply
  | .begins identity password currentAssurance =>
    (beginTotpEnrollment s identity password currentAssurance).bind fun start => .ret (.started start)
  | .completes identity enrollmentId verificationCode currentAssurance =>
    (completeTotpEnrollment identity enrollmentId verificationCode currentAssurance).bind fun _ => .ret .done
  | .disables identity password currentAssurance =>
    (disableTotp s identity password currentAssurance).bind fun _ => .ret .done

abbrev TotpTrace := List (Exchange TotpOp TotpOp.Ret)

def Asks (request : TotpRequest) (past : TotpTrace) : TotpOp → Prop
  | .enroll identity subject _ _ _ enabled => ∃ password currentAssurance,
      request = .begins identity password currentAssurance ∧ ⟨.verifyPassword subject password,.ok ()⟩ ∈ past ∧
        (enabled = true → meetsAssurance currentAssurance .ial2 = true)
  | .complete identity enrollmentId verificationCode currentAssurance =>
    request = .completes identity enrollmentId verificationCode currentAssurance
  | .disable identity subject => ∃ password currentAssurance,request = .disables identity password currentAssurance ∧
      ⟨.verifyPassword subject password,.ok ()⟩ ∈ past ∧ meetsAssurance currentAssurance .ial2 = true
  | _ => True

section
variable {s : TotpWorld.TotpService} {request : TotpRequest} {past : TotpTrace} {identity : IdentityId}
  {password : Text} {currentAssurance : AssuranceLevel}

theorem localSubject_asks : Follows (remembering (Asks request)) (fun _ _ => True) past (localSubject s identity) :=
  .ask trivial fun _ => .check (fun _ _ => trivial) fun _ _ => trivial

theorem requireSubject_asks : Follows (remembering (Asks request)) (fun _ _ => True) past (requireSubject s identity) := by
  refine localSubject_asks.bind (fun _ found _ => ?_) fun _ _ _ => trivial
  cases found <;> trivial

theorem begin_asks : Follows (remembering (Asks (.begins identity password currentAssurance))) (fun _ _ => True) past
    (beginTotpEnrollment s identity password currentAssurance) := by
  refine requireSubject_asks.bind (fun past subject _ => ?_) fun _ _ _ => trivial
  refine .ask trivial fun verified => .check (fun _ right => .ask trivial fun told => ?_) fun _ _ => trivial
  refine .check (fun enabled _ => .refuse (fun strong => .ask trivial fun drawn => ?_) trivial) fun _ _ => trivial
  refine .check (fun secret _ => .ask trivial fun token => .check (fun identifier _ => ?_) fun _ _ => trivial)
    fun _ _ => trivial
  refine .ask trivial fun now => .ask ⟨password,currentAssurance,rfl,?_,?_⟩ fun _ => .check (fun _ _ => trivial)
    fun _ _ => trivial
  · simp [remembering,right]
  · intro on
    simpa [on] using strong

theorem complete_asks :
    Follows (remembering (Asks (.completes identity enrollmentId verificationCode currentAssurance))) (fun _ _ => True) past
      (completeTotpEnrollment identity enrollmentId verificationCode currentAssurance) :=
  .refuse (fun _ => .ask rfl fun _ => .checked trivial) trivial

theorem disable_asks : Follows (remembering (Asks (.disables identity password currentAssurance))) (fun _ _ => True) past
    (disableTotp s identity password currentAssurance) := by
  refine .refuse (fun strong => requireSubject_asks.bind (fun past subject _ => ?_) fun _ _ _ => trivial) trivial
  refine .ask trivial fun verified => .check (fun _ right => ?_) fun _ _ => trivial
  refine .ask ⟨password,currentAssurance,rfl,?_,?_⟩ fun _ => .checked trivial
  · simp [remembering,right]
  · simpa using strong

theorem calling_asks : Follows (remembering (Asks request)) (fun _ _ => True) [] (calling s request) := by
  cases request with
  | begins identity password currentAssurance => exact begin_asks.bind (fun _ _ _ => trivial) fun _ _ _ => trivial
  | completes identity enrollmentId verificationCode currentAssurance =>
    exact complete_asks.bind (fun _ _ _ => trivial) fun _ _ _ => trivial
  | disables identity password currentAssurance => exact disable_asks.bind (fun _ _ _ => trivial) fun _ _ _ => trivial

end

end OpenProof.TotpService
