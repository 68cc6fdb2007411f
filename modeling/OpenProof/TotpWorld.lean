import OpenProof.AccountService

namespace OpenProof.TotpWorld
open AtomicPrograms Foundation ExternalIdentities Accounts AccountWorld AccountService Accounts.LocalAccounts
open Identities

structure TotpPolicy where
  step : Duration
  digits : Nat
  pastWindow : Nat
  futureWindow : Nat

-- As many bytes as were asked for.
abbrev Drawn (count : Nat) := { bytes : Text // bytes.length = count }

structure TotpSecret where
  bytes : Text
  deriving DecidableEq

def TotpSecret.generate (drawn : Result (Drawn 20)) : Result TotpSecret := drawn.map fun bytes => ⟨bytes.1⟩

def base32Symbol (index : UInt32) : UInt8 :=
  ((Text.of "ABCDEFGHIJKLMNOPQRSTUVWXYZ234567")[(index &&& 0x1F).toNat]?).getD 0

def base32Drain (accumulator : UInt32) : Nat → Text × Nat
  | bits+5 =>
    let (written,left) := base32Drain accumulator bits
    (base32Symbol (accumulator >>> UInt32.ofNat bits) :: written,left)
  | bits => ([],bits)

def base32From (accumulator : UInt32) (bits : Nat) : Text → Text
  | [] => if 0 < bits then [base32Symbol (accumulator <<< UInt32.ofNat (5-bits))] else []
  | byte :: rest =>
    let gathered := (accumulator <<< 8) ||| byte.toUInt32
    let (written,left) := base32Drain gathered (bits+8)
    written ++ base32From gathered left rest

def base32 (bytes : Text) : Text := base32From 0 0 bytes

def TotpSecret.enrollmentBase32 (secret : TotpSecret) : Text := base32 secret.bytes

def timeStep (now : Instant) (step : Duration) : Result Nat :=
  if now < 0 || step ≤ 0 then fail .invalidArgument "TOTP time is outside the supported range."
  else .ok (now / step).toNat

abbrev Hotp := TotpSecret → Nat → Nat → Result Text

def matchStep (hotp : Hotp) (secret : TotpSecret) (digits : Nat) (presented : Text) (lastAcceptedStep : Option Nat) :
    List Nat → Result Nat
  | [] => .error (authenticationFailure "TOTP response did not verify.")
  | candidate :: later =>
    match hotp secret candidate digits with
    | .error e => .error e
    | .ok expected =>
      if expected = presented then
        if lastAcceptedStep.any fun last => candidate ≤ last then
          .error (authenticationFailure "TOTP response was replayed.")
        else .ok candidate
      else matchStep hotp secret digits presented lastAcceptedStep later

def verifyTotp (hotp : Hotp) (secret : TotpSecret) (policy : TotpPolicy) (presented : Text) (now : Instant)
    (lastAcceptedStep : Option Nat) : Result Nat :=
  if presented.length ≠ policy.digits || !presented.all isDigit then
    .error (authenticationFailure "TOTP response is malformed.")
  else match timeStep now policy.step with
    | .error e => .error e
    | .ok current =>
      let first := if policy.pastWindow ≤ current then current - policy.pastWindow else 0
      let last := current + policy.futureWindow
      matchStep hotp secret policy.digits presented lastAcceptedStep (List.range' first (last+1-first))

structure TotpAccount where
  password : PasswordHash
  totp : Option TotpSecret
  lastAcceptedTotpStep : Option Nat

abbrev TotpAccounts := Map ExternalSubject TotpAccount

namespace TotpAccounts

def verifyPassword (verifies : Text → PasswordHash → Result Bool) (dummyHash : PasswordHash) (subject : ExternalSubject)
    (password : Text) (accounts : TotpAccounts) : Result Unit :=
  match accounts[subject]? with
  | none =>
    match verifies password dummyHash with
    | .error e => .error e
    | .ok _ => .error (authenticationFailure "Local account is unknown.")
  | some account =>
    match verifies password account.password with
    | .error e => .error e
    | .ok passwordMatches =>
      if passwordMatches then .ok () else .error (authenticationFailure "Local password did not verify.")

def hasTotp (subject : ExternalSubject) (accounts : TotpAccounts) : Result Bool :=
  match accounts[subject]? with
  | none => .error (authenticationFailure "Local account is unknown.")
  | some account => .ok account.totp.isSome

def replaceTotp (hotp : Hotp) (policy : TotpPolicy) (subject : ExternalSubject) (secret : TotpSecret)
    (verificationCode : Text) (now : Instant) (accounts : TotpAccounts) : Result Unit × TotpAccounts :=
  match accounts[subject]? with
  | none => (.error (authenticationFailure "Local account is unknown."),accounts)
  | some account =>
    match verifyTotp hotp secret policy verificationCode now none with
    | .error e => (.error e,accounts)
    | .ok accepted =>
      (.ok (),accounts.insert subject { account with totp := some secret,lastAcceptedTotpStep := some accepted })

def removeTotp (subject : ExternalSubject) (accounts : TotpAccounts) : Result Unit × TotpAccounts :=
  match accounts[subject]? with
  | none => (.error (authenticationFailure "Local account is unknown."),accounts)
  | some account =>
    if account.totp.isNone then (fail .failedPrecondition "TOTP is not enabled for this local account.",accounts)
    else (.ok (),accounts.insert subject { account with totp := none,lastAcceptedTotpStep := none })

end TotpAccounts

abbrev RecoveryCodes := Map IdentityId (List Sha256Digest)

-- `RecoveryCodeService::revoke` over `InMemoryRecoveryCodeRepository`.
def revoke (identity : IdentityId) (codes : RecoveryCodes) : Result Unit × RecoveryCodes :=
  if identity.empty then (fail .invalidArgument "Recovery-code revocation requires an identity.",codes)
  else (.ok (),codes.erase identity)

structure TotpEnrollmentTag
abbrev TotpEnrollmentId := StrongId TotpEnrollmentTag

structure PendingTotpEnrollment where
  identity : IdentityId
  subject : ExternalSubject
  secret : TotpSecret
  expiresAt : Instant
  replacementAuthorized : Bool
  attempts : Nat
  deriving DecidableEq

abbrev Pendings := Map TotpEnrollmentId PendingTotpEnrollment

def kTotpEnrollmentIdEntropyBytes : Nat := 24
def kTotpEnrollmentLifetime : Duration := 600000
def kTotpEnrollmentMaximumAttempts : Nat := 5

-- What the service is built with; `hotp` and the password check are the two primitives.
structure TotpService where
  localProvider : ProviderId
  totpPolicy : TotpPolicy
  hotp : Hotp
  verifies : Text → PasswordHash → Result Bool
  dummyHash : PasswordHash

structure TotpState where
  clock : Nat → Instant
  randomness : Nat → Nat → Result Text
  secrets : Nat → Result (Drawn 20)
  directory : Directory
  accounts : TotpAccounts
  recoveryCodes : RecoveryCodes
  pendingTotp : Pendings

-- The walk that drops an identity's own enrolments and all that have expired; the clock is
-- read anew at each one of another identity.
def dropStale (identity : IdentityId) :
    List (TotpEnrollmentId × PendingTotpEnrollment) → Pendings → (Nat → Instant) → Pendings × (Nat → Instant)
  | [],pendings,clock => (pendings,clock)
  | (id,pending) :: rest,pendings,clock =>
    if pending.identity = identity then dropStale identity rest (pendings.erase id) clock
    else if pending.expiresAt ≤ clock 0 then dropStale identity rest (pendings.erase id) (tail clock)
    else dropStale identity rest pendings (tail clock)

def dropOwn (identity : IdentityId) (pendings : Pendings) : Pendings :=
  pendings.filter fun _ pending => decide (pending.identity ≠ identity)

-- The three sections that hold `m_totpMutex`, each from the lock to the end of its scope.
def enroll (identity : IdentityId) (subject : ExternalSubject) (enrollmentId : TotpEnrollmentId) (secret : TotpSecret)
    (expiresAt : Instant) (enabled : Bool) (w : TotpState) : Result Unit × TotpState :=
  match w.accounts.hasTotp subject with
  | .error e => (.error e,w)
  | .ok currentEnabled =>
    if currentEnabled ≠ enabled then
      (fail .failedPrecondition "The authenticator state changed while enrollment was starting.",w)
    else
      let (kept,clock) := dropStale identity w.pendingTotp.toList w.pendingTotp w.clock
      (.ok (),{ w with
        clock := clock
        pendingTotp := kept.insertIfNew enrollmentId ⟨identity,subject,secret,expiresAt,enabled,0⟩ })

def complete (s : TotpService) (identity : IdentityId) (enrollmentId : TotpEnrollmentId) (verificationCode : Text)
    (currentAssurance : AssuranceLevel) (w : TotpState) : Result Unit × TotpState :=
  match w.pendingTotp[enrollmentId]? with
  | none => (.error (genericVerificationFailure "The authenticator enrollment is unknown."),w)
  | some found =>
    if found.identity ≠ identity then
      (.error (genericVerificationFailure "The authenticator enrollment belongs to another identity."),w)
    else
      let read := { w with clock := tail w.clock }
      let erased := { read with pendingTotp := w.pendingTotp.erase enrollmentId }
      if found.expiresAt ≤ w.clock 0 then
        (.error (genericVerificationFailure "The authenticator enrollment expired."),erased)
      else if found.replacementAuthorized && !meetsAssurance currentAssurance .ial2 then
        (fail .assuranceInsufficient "Replacing an existing authenticator requires an IAL2 session.",read)
      else match w.accounts.hasTotp found.subject with
        | .error e => (.error e,read)
        | .ok enabled =>
          if enabled ≠ found.replacementAuthorized then
            (fail .failedPrecondition "The authenticator state changed during enrollment.",erased)
          else
            let (installed,accounts) :=
              w.accounts.replaceTotp s.hotp s.totpPolicy found.subject found.secret verificationCode (w.clock 1)
            let again := tail (tail w.clock)
            match installed with
            | .error e =>
              if e.code = .authenticationFailed then
                if kTotpEnrollmentMaximumAttempts ≤ found.attempts+1 then (.error e,{ erased with clock := again })
                else (.error e,{ w with
                  clock := again
                  pendingTotp := w.pendingTotp.insert enrollmentId { found with attempts := found.attempts+1 } })
              else (.error e,{ w with clock := again })
            | .ok _ => (.ok (),{ erased with clock := again,accounts := accounts })

def disable (identity : IdentityId) (subject : ExternalSubject) (w : TotpState) : Result Unit × TotpState :=
  match w.accounts.hasTotp subject with
  | .error e => (.error e,w)
  | .ok enabled =>
    if !enabled then (fail .failedPrecondition "TOTP is not enabled for this local account.",w)
    else
      let cleared := { w with pendingTotp := dropOwn identity w.pendingTotp }
      let (revoked,recoveryCodes) := revoke identity w.recoveryCodes
      match revoked with
      | .error e => (.error e,cleared)
      | .ok _ =>
        let (removed,accounts) := w.accounts.removeTotp subject
        (removed,{ cleared with recoveryCodes := recoveryCodes,accounts := accounts })

inductive TotpOp where
  | now
  | randomToken (bytes : Nat)
  | randomSecret
  | externalIdentitiesOf (owner : IdentityId)
  | verifyPassword (subject : ExternalSubject) (password : Text)
  | hasTotp (subject : ExternalSubject)
  | enroll (identity : IdentityId) (subject : ExternalSubject) (enrollmentId : TotpEnrollmentId) (secret : TotpSecret)
      (expiresAt : Instant) (enabled : Bool)
  | complete (identity : IdentityId) (enrollmentId : TotpEnrollmentId) (verificationCode : Text)
      (currentAssurance : AssuranceLevel)
  | disable (identity : IdentityId) (subject : ExternalSubject)

abbrev TotpOp.Ret : TotpOp → Type
  | .now => Instant
  | .randomToken _ => Result Text
  | .randomSecret => Result (Drawn 20)
  | .externalIdentitiesOf _ => Result (List ExternalIdentityRef)
  | .verifyPassword .. => Result Unit
  | .hasTotp _ => Result Bool
  | .enroll .. => Result Unit
  | .complete .. => Result Unit
  | .disable .. => Result Unit

def exec (s : TotpService) : (op : TotpOp) → TotpState → op.Ret × TotpState
  | .now,w => (w.clock 0,{ w with clock := tail w.clock })
  | .randomToken bytes,w => (w.randomness 0 bytes,{ w with randomness := tail w.randomness })
  | .randomSecret,w => (w.secrets 0,{ w with secrets := tail w.secrets })
  | .externalIdentitiesOf owner,w => (.ok (w.directory.externalIdentitiesOf owner),w)
  | .verifyPassword subject password,w => (w.accounts.verifyPassword s.verifies s.dummyHash subject password,w)
  | .hasTotp subject,w => (w.accounts.hasTotp subject,w)
  | .enroll identity subject enrollmentId secret expiresAt enabled,w =>
    enroll identity subject enrollmentId secret expiresAt enabled w
  | .complete identity enrollmentId verificationCode currentAssurance,w =>
    complete s identity enrollmentId verificationCode currentAssurance w
  | .disable identity subject,w => disable identity subject w

abbrev TotpCall (α : Type) := Prog TotpOp TotpOp.Ret Error α

def ask (op : TotpOp) : TotpCall op.Ret := .perform op

end OpenProof.TotpWorld
