import OpenProof.AuthenticationService
import OpenProof.SessionIndex
import OpenProof.World

namespace OpenProof.SessionCalls
open AtomicPrograms Foundation Sessions SessionIndex Identities AuthenticationWorld AuthenticationService
open World Prog

-- A store out of step with itself cannot be had.
structure SessionRepository where
  maps : InMemorySessionRepository
  paired : Paired maps

def SessionRepository.exec (op : SessionOp) : SessionRepository → op.Ret × SessionRepository
  | ⟨maps,paired⟩ => ((op.exec maps).1,⟨(op.exec maps).2,exec_paired op paired⟩)

inductive Op where
  | now
  | random (count : Nat)
  | session (op : SessionOp)

abbrev Op.Ret : Op → Type
  | .now => Instant
  | .random _ => Result Text
  | .session op => op.Ret

-- `entropy` is what the random generator will return.
structure State where
  clock : Instant
  entropy : List (Result Text)
  repository : SessionRepository

def exec : (op : Op) → State → op.Ret × State
  | .now,w => (w.clock,w)
  | .random _,w => (w.entropy.headD (.error randomFailure),{ w with entropy := w.entropy.tail })
  | .session op,w => ((w.repository.exec op).1,{ w with repository := (w.repository.exec op).2 })

abbrev Call (α : Type) := Prog Op Op.Ret Error α

def ask (op : Op) : Prog Op Op.Ret Error op.Ret := .perform op

def now : Call Instant := ask .now
def randomToken (bytes : Nat) : Call Text := (ask (.random bytes)).bind Prog.check

structure SessionKey where
  secret : Text
  long : 32 ≤ secret.length

def SessionKey.create (secret : Text) : Result SessionKey :=
  if short : secret.length < 32 then fail .invalidArgument "A session key must contain at least 32 bytes."
  else .ok ⟨secret,Nat.not_lt.mp short⟩

structure SessionPolicy where
  absoluteLifetime : Duration
  idleTimeout : Duration
  positive : 0 < absoluteLifetime ∧ 0 < idleTimeout
  within : idleTimeout ≤ absoluteLifetime

namespace SessionPolicy

def Refused (absoluteLifetime idleTimeout : Duration) : Prop :=
  absoluteLifetime ≤ 0 ∨ idleTimeout ≤ 0 ∨ idleTimeout > absoluteLifetime

instance refusedDecidable (absoluteLifetime idleTimeout : Duration) : Decidable (Refused absoluteLifetime idleTimeout) :=
  inferInstanceAs (Decidable (_ ∨ _ ∨ _))

theorem positive_of {absoluteLifetime idleTimeout : Duration} (accepted : ¬Refused absoluteLifetime idleTimeout) :
    0 < absoluteLifetime ∧ 0 < idleTimeout := by
  simpa only [Refused,not_or,Int.not_le] using And.intro (not_or.mp accepted).1 (not_or.mp (not_or.mp accepted).2).1

theorem within_of {absoluteLifetime idleTimeout : Duration} (accepted : ¬Refused absoluteLifetime idleTimeout) :
    idleTimeout ≤ absoluteLifetime := Int.not_lt.mp (not_or.mp (not_or.mp accepted).2).2

def create (absoluteLifetime idleTimeout : Duration) : Result SessionPolicy :=
  if refused : Refused absoluteLifetime idleTimeout then
    fail .invalidArgument
      "Session lifetimes must be positive and idle timeout must not exceed absolute lifetime."
  else .ok ⟨absoluteLifetime,idleTimeout,positive_of refused,within_of refused⟩

end SessionPolicy

structure SessionService where
  key : SessionKey
  policy : SessionPolicy
  hmacSha256 : (key message : Text) → Result Sha256Digest

structure SessionGrant where
  id : SessionId
  token : Text

def invalidToken (detail : Text) : Error :=
  .of .authenticationFailed (defaultErrorMessage .authenticationFailed) detail

namespace SessionService
variable (s : SessionService)

def digest (token : Text) : Result TokenDigest :=
  if token.isEmpty then .error (invalidToken "An empty session token was presented.")
  else s.hmacSha256 s.key.secret token

def kept (text : Text) : Option Text := if text.isEmpty then none else some text

def issue (authentication : VerifiedAuthentication) (client : ClientContext) : Call SessionGrant := do
  let generatedId ← randomToken 32
  let token ← randomToken 32
  let fingerprint ← check (s.digest token)
  let at_ ← now
  let session ← check (Session.create ⟨generatedId⟩ authentication.identity authentication.outcome.provider
    authentication.outcome.claimedAssurance authentication.outcome.strength authentication.outcome.verifiedAt fingerprint at_
    s.policy.absoluteLifetime s.policy.idleTimeout (kept client.userAgent) (kept client.remoteAddress))
  check (← ask (.session (.add session)))
  return ⟨⟨generatedId⟩,token⟩

def authenticate (token : Text) : Call Session := do
  let fingerprint ← check (s.digest token)
  let at_ ← now
  check (← ask (.session (.use fingerprint at_)))

def rotate (token : Text) : Call SessionGrant := do
  let oldFingerprint ← check (s.digest token)
  let at_ ← now
  let current ← check (← ask (.session (.use oldFingerprint at_)))
  let replacement ← randomToken 32
  let replacementFingerprint ← check (s.digest replacement)
  let later ← now
  check (← ask (.session (.rotate current.id oldFingerprint replacementFingerprint later)))
  return ⟨current.id,replacement⟩

def revoke (id : SessionId) : Call Unit := do
  let at_ ← now
  check (← ask (.session (.revoke id at_)))

def revokeAll (identity : IdentityId) : Call Nat := do
  let at_ ← now
  check (← ask (.session (.revokeAll identity at_)))

def revokeOwned (identity : IdentityId) (id : SessionId) : Call Unit := do
  match ← ask (.session (.find id)) with
  | none => .fail (.because .notFound "That session was not found.")
  | some found =>
    if found.identity ≠ identity then .fail (.because .notFound "That session was not found.")
    else
      let at_ ← now
      check (← ask (.session (.revoke id at_)))

def list (identity : IdentityId) : Call (List Session) := do
  let values ← ask (.session (.list identity))
  let at_ ← now
  return (values.filter fun value => value.state = .active && !value.isExpiredAt at_).mergeSort
    fun left right => left.lastSeenAt ≥ right.lastSeenAt

def previousId (previousToken : Option Text) : Call (Option SessionId) :=
  match previousToken with
  | none => .ret none
  | some token =>
    if token.isEmpty then .ret none
    else (s.authenticate token).attempt.bind fun existing =>
      match existing with
      | .ok session => .ret (some session.id)
      | .error _ => .ret none

def issueReplacing (authentication : VerifiedAuthentication) (client : ClientContext) (previousToken : Option Text) :
    Call SessionGrant := do
  let previous ← s.previousId previousToken
  let created ← s.issue authentication client
  match previous with
  | none => return created
  | some id =>
    if id = created.id then return created
    else
      let revoked ← (revoke id).attempt
      match revoked with
      | .ok () => return created
      | .error e =>
        let _ ← ((revoke created.id).attempt : Call (Except Error Unit))
        .fail e

end SessionService

end OpenProof.SessionCalls
