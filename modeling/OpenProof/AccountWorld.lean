import OpenProof.Accounts

namespace OpenProof.AccountWorld
open AtomicPrograms Foundation ExternalIdentities IdentityProfiles Accounts Identities

-- One step each: a method of a store or directory that holds its mutex, one look at the
-- clock, one random token, one delivery.
inductive AccountOp where
  | now
  | randomToken (bytes : Nat)
  | deliver (dispatch : VerificationDispatch)
  | ownerOf (external : ExternalIdentityRef)
  | externalIdentitiesOf (owner : IdentityId)
  | attach (link : IdentityLink)
  | detach (external : ExternalIdentityRef) (expectedOwner : IdentityId)
  | findById (organization : OrganizationId) (id : IdentityId)
  | add (organization : OrganizationId) (identity : Identity)
  | changeStatus (organization : OrganizationId) (id : IdentityId) (status : IdentityStatus)
  | findProfile (id : IdentityId)
  | saveProfile (profile : IdentityProfile)
  | findVerifiedByEmail (email : Text)
  | replace (challenge : VerificationChallenge)
  | consume (id : VerificationId) (presented : VerificationDigest) (now : Instant) (maximumAttempts : Nat)
      (expectedIdentity : Option IdentityId)
  | reservedOwner (external : ExternalIdentityRef) (now : Instant)
  | reserveSubject (external : ExternalIdentityRef) (identity : IdentityId) (now expiresAt : Instant)
  | releaseSubject (external : ExternalIdentityRef) (expectedOwner : IdentityId)
  | enrollPending (canonicalIdentity : IdentityId) (subject : ExternalSubject) (password : Text)
  | removePending (identity : IdentityId) (subject : ExternalSubject)

abbrev AccountOp.Ret : AccountOp → Type
  | .now => Instant
  | .randomToken _ => Result Text
  | .deliver _ => Result Unit
  | .ownerOf _ => Result (Option IdentityId)
  | .externalIdentitiesOf _ => Result (List ExternalIdentityRef)
  | .attach _ => Result Unit
  | .detach .. => Result Unit
  | .findById .. => Result (Option Identity)
  | .add .. => Result Unit
  | .changeStatus .. => Result Unit
  | .findProfile _ => Result (Option IdentityProfile)
  | .saveProfile _ => Result Unit
  | .findVerifiedByEmail _ => Result (List IdentityId)
  | .replace _ => Result Unit
  | .consume .. => Result VerificationChallenge
  | .reservedOwner .. => Result (Option IdentityId)
  | .reserveSubject .. => Result Unit
  | .releaseSubject .. => Result Unit
  | .enrollPending .. => Result Unit
  | .removePending .. => Result Unit

-- The readings of the clock and the random tokens are those to come, in their order.
structure AccountState where
  clock : Nat → Instant
  randomness : Nat → Nat → Result Text
  hasher : Text → Result PasswordHash
  delivery : VerificationDispatch → Result Unit
  directory : Directory
  identities : IdentityStore
  profiles : ProfileStore
  repository : AccountRepository
  accounts : LocalAccounts

def tail {α : Type} (stream : Nat → α) : Nat → α := fun n => stream (n+1)

@[simp] theorem tail_get {α : Type} (stream : Nat → α) (n : Nat) : tail stream n = stream (n+1) := rfl

def exec : (op : AccountOp) → AccountState → op.Ret × AccountState
  | .now,w => (w.clock 0,{ w with clock := tail w.clock })
  | .randomToken bytes,w => (w.randomness 0 bytes,{ w with randomness := tail w.randomness })
  | .deliver dispatch,w => (w.delivery dispatch,w)
  | .ownerOf external,w => (.ok (w.directory.ownerOf external),w)
  | .externalIdentitiesOf owner,w => (.ok (w.directory.externalIdentitiesOf owner),w)
  | .attach link,w =>
    let r := w.directory.attach link
    (r.1,{ w with directory := r.2 })
  | .detach external expectedOwner,w =>
    let r := w.directory.detach external expectedOwner
    (r.1,{ w with directory := r.2 })
  | .findById organization id,w => (.ok (w.identities.findById organization id),w)
  | .add organization identity,w =>
    let r := w.identities.add organization identity
    (r.1,{ w with identities := r.2 })
  | .changeStatus organization id status,w =>
    let r := w.identities.changeStatus organization id status
    (r.1,{ w with identities := r.2 })
  | .findProfile id,w => (.ok w.profiles[id]?,w)
  | .saveProfile profile,w => (.ok (),{ w with profiles := w.profiles.save profile })
  | .findVerifiedByEmail email,w => (.ok (w.profiles.findVerifiedByEmail email),w)
  | .replace challenge,w => (.ok (),{ w with repository := w.repository.replace challenge })
  | .consume id presented now maximumAttempts expectedIdentity,w =>
    let r := w.repository.consume id presented now maximumAttempts expectedIdentity
    (r.1,{ w with repository := r.2 })
  | .reservedOwner external now,w => (.ok (w.repository.reservedOwner external now),w)
  | .reserveSubject external identity now expiresAt,w =>
    let r := w.repository.reserveSubject external identity now expiresAt
    (r.1,{ w with repository := r.2 })
  | .releaseSubject external expectedOwner,w =>
    let r := w.repository.releaseSubject external expectedOwner
    (r.1,{ w with repository := r.2 })
  | .enrollPending canonicalIdentity subject password,w =>
    let r := w.accounts.enrollPending canonicalIdentity subject (w.hasher password)
    (r.1,{ w with accounts := r.2 })
  | .removePending identity subject,w =>
    let r := w.accounts.removePending identity subject
    (r.1,{ w with accounts := r.2 })

abbrev AccountCall (α : Type) := Prog AccountOp AccountOp.Ret Error α

def ask (op : AccountOp) : AccountCall op.Ret := .perform op

end OpenProof.AccountWorld
