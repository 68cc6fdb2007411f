import OpenProof.Authorizations

namespace OpenProof.Tokens
open Foundation SortedList Identities Clients

structure TokenFamilyIdTag
abbrev TokenFamilyId := StrongId TokenFamilyIdTag
abbrev TokenDigest := Sha256Digest

inductive SenderConstraintKind where
  | dpop
  | mtls
  deriving DecidableEq

@[ext] structure SenderConstraint where
  kind : SenderConstraintKind
  value : Text
  deriving DecidableEq

def SenderConstraint.create (kind : SenderConstraintKind) (value : Text) : Result SenderConstraint :=
  if value.isEmpty || value.length > 256 || value.any isBlankOrControl then
    fail .invalidArgument "The OAuth sender constraint is invalid."
  else .ok ⟨kind,value⟩

-- The constructor sorts and deduplicates both lists, so they are kept that way here.
structure TokenContext where
  client : ClientId
  identity : IdentityId
  provider : ProviderId
  assurance : AssuranceLevel
  strength : AuthenticationStrength
  scopes : SortedSet Text
  authenticatedAt : Instant
  audiences : SortedSet Text
  senderConstraint : Option SenderConstraint
  deriving DecidableEq

namespace TokenContext

def permits (context : TokenContext) (scope : Text) : Bool :=
  scope.isEmpty || context.scopes.contains scope
def permitsAudience (context : TokenContext) (audience : Text) : Bool :=
  audience.isEmpty || context.audiences.contains audience

theorem permits_eq_true (context : TokenContext) (scope : Text) :
    context.permits scope = true ↔ scope = [] ∨ scope ∈ context.scopes.items := by
  simp [permits]

theorem permitsAudience_eq_true (context : TokenContext) (audience : Text) :
    context.permitsAudience audience = true ↔ audience = [] ∨ audience ∈ context.audiences.items := by
  simp [permitsAudience]

end TokenContext

inductive AccessTokenState where
  | active
  | revoked
  deriving DecidableEq

inductive RefreshTokenState where
  | active
  | used
  | revoked
  deriving DecidableEq

structure AccessTokenRecord where
  digest : TokenDigest
  family : TokenFamilyId
  context : TokenContext
  issuedAt : Instant
  expiresAt : Instant
  state : AccessTokenState
  revokedAt : Option Instant
  deriving DecidableEq

namespace AccessTokenRecord

def fresh (digest : TokenDigest) (family : TokenFamilyId) (context : TokenContext)
    (issuedAt expiresAt : Instant) : AccessTokenRecord :=
  ⟨digest,family,context,issuedAt,expiresAt,.active,none⟩

def usableAt (record : AccessTokenRecord) (now : Instant) : Bool :=
  record.state == .active && now < record.expiresAt

def revoke (record : AccessTokenRecord) (now : Instant) : AccessTokenRecord :=
  if record.state = .active then { record with state := .revoked, revokedAt := some now } else record

@[simp] theorem revoke_digest (record : AccessTokenRecord) (now : Instant) :
    (record.revoke now).digest = record.digest := by unfold revoke; split <;> rfl
@[simp] theorem revoke_family (record : AccessTokenRecord) (now : Instant) :
    (record.revoke now).family = record.family := by unfold revoke; split <;> rfl
@[simp] theorem revoke_context (record : AccessTokenRecord) (now : Instant) :
    (record.revoke now).context = record.context := by unfold revoke; split <;> rfl
@[simp] theorem revoke_issuedAt (record : AccessTokenRecord) (now : Instant) :
    (record.revoke now).issuedAt = record.issuedAt := by unfold revoke; split <;> rfl
@[simp] theorem revoke_expiresAt (record : AccessTokenRecord) (now : Instant) :
    (record.revoke now).expiresAt = record.expiresAt := by unfold revoke; split <;> rfl
@[simp] theorem revoke_state (record : AccessTokenRecord) (now : Instant) : (record.revoke now).state = .revoked := by
  unfold revoke
  split
  · rfl
  · rename_i inactive
    cases state : record.state with
    | active => exact absurd state inactive
    | revoked => rfl

theorem not_usableAt_of_revoked {record : AccessTokenRecord} (dead : record.state = .revoked)
    (now : Instant) : record.usableAt now = false := by
  simp [usableAt,dead]

end AccessTokenRecord

structure RefreshTokenRecord where
  digest : TokenDigest
  family : TokenFamilyId
  sequence : Nat
  context : TokenContext
  issuedAt : Instant
  expiresAt : Instant
  state : RefreshTokenState
  changedAt : Option Instant
  deriving DecidableEq

namespace RefreshTokenRecord

def fresh (digest : TokenDigest) (family : TokenFamilyId) (sequence : Nat) (context : TokenContext)
    (issuedAt expiresAt : Instant) : RefreshTokenRecord :=
  ⟨digest,family,sequence,context,issuedAt,expiresAt,.active,none⟩

def usableAt (record : RefreshTokenRecord) (now : Instant) : Bool :=
  record.state == .active && now < record.expiresAt

def markUsed (record : RefreshTokenRecord) (now : Instant) : RefreshTokenRecord :=
  if record.state = .active then { record with state := .used, changedAt := some now } else record

def revoke (record : RefreshTokenRecord) (now : Instant) : RefreshTokenRecord :=
  if record.state ≠ .revoked then { record with state := .revoked, changedAt := some now } else record

-- Everything but the state and the time of its last change.
structure SameGrant (before after : RefreshTokenRecord) : Prop where
  digest : after.digest = before.digest
  family : after.family = before.family
  sequence : after.sequence = before.sequence
  context : after.context = before.context
  issuedAt : after.issuedAt = before.issuedAt
  expiresAt : after.expiresAt = before.expiresAt

theorem SameGrant.refl (record : RefreshTokenRecord) : SameGrant record record :=
  ⟨rfl,rfl,rfl,rfl,rfl,rfl⟩

theorem SameGrant.trans (one : SameGrant a b) (two : SameGrant b c) : SameGrant a c :=
  ⟨two.digest.trans one.digest,two.family.trans one.family,two.sequence.trans one.sequence,
    two.context.trans one.context,two.issuedAt.trans one.issuedAt,two.expiresAt.trans one.expiresAt⟩

section
variable (record : RefreshTokenRecord)
include record

theorem revoke_same (now : Instant) : SameGrant record (record.revoke now) := by
  unfold revoke
  split <;> exact ⟨rfl,rfl,rfl,rfl,rfl,rfl⟩

theorem markUsed_same (now : Instant) : SameGrant record (record.markUsed now) := by
  unfold markUsed
  split <;> exact ⟨rfl,rfl,rfl,rfl,rfl,rfl⟩

@[simp] theorem revoke_family (now : Instant) :
    (record.revoke now).family = record.family := (revoke_same record now).family

@[simp] theorem revoke_state (now : Instant) : (record.revoke now).state = .revoked := by
  unfold revoke
  split
  · rfl
  · rename_i dead
    exact not_not.mp dead

theorem markUsed_state (now : Instant) : (record.markUsed now).state ≠ .active := by
  unfold markUsed
  split <;> simp_all

end

theorem not_usableAt_of_revoked {record : RefreshTokenRecord} (dead : record.state = .revoked)
    (now : Instant) : record.usableAt now = false := by
  simp [usableAt,dead]

end RefreshTokenRecord

def invalidCredential (detail : Text) : Error :=
  .of .authenticationFailed (defaultErrorMessage .authenticationFailed) detail

-- `InMemoryTokenRepository`: one mutex around every method, so each method is one
-- atomic step. The hex keys of the source order as the digests do.
structure TokenStore where
  access : Map TokenDigest AccessTokenRecord
  refresh : Map TokenDigest RefreshTokenRecord

namespace TokenStore

def empty : TokenStore := ⟨∅,∅⟩

def revokeRecords (store : TokenStore) (family : TokenFamilyId) (now : Instant) : TokenStore where
  access := store.access.map fun _ record => if record.family = family then record.revoke now else record
  refresh := store.refresh.map fun _ record => if record.family = family then record.revoke now else record

def storeInitial (access : AccessTokenRecord) (refresh : RefreshTokenRecord) (store : TokenStore) :
    Result Unit × TokenStore :=
  if store.access.holds access.digest || store.refresh.holds refresh.digest then
    (fail .alreadyExists "The generated token fingerprint already exists.",store)
  else (.ok (),⟨store.access.insert access.digest access,store.refresh.insert refresh.digest refresh⟩)

def storeAccessOnly (access : AccessTokenRecord) (store : TokenStore) : Result Unit × TokenStore :=
  if store.access.holds access.digest then
    (fail .alreadyExists "The generated token fingerprint already exists.",store)
  else (.ok (),{ store with access := store.access.insert access.digest access })

def findAccess (digest : TokenDigest) (store : TokenStore) : Result AccessTokenRecord :=
  match store.access[digest]? with
  | none => .error (invalidCredential "Unknown access token.")
  | some record => .ok record

def findRefresh (digest : TokenDigest) (store : TokenStore) : Result RefreshTokenRecord :=
  match store.refresh[digest]? with
  | none => .error (invalidCredential "Unknown refresh token.")
  | some record => .ok record

-- Sequence numbers are `uint64`; the successor cannot wrap because the map would
-- have to hold 2^64 records of one family first.
def rotateRefresh (presented : TokenDigest) (now : Instant) (replacementAccess : AccessTokenRecord)
    (replacementRefresh : RefreshTokenRecord) (store : TokenStore) : Result Unit × TokenStore :=
  match store.refresh[presented]? with
  | none => (.error (invalidCredential "Unknown refresh token."),store)
  | some found =>
    if !found.usableAt now then
      (.error (invalidCredential "Refresh token reuse or expiry detected; family revoked."),
        store.revokeRecords found.family now)
    else if replacementAccess.family ≠ found.family ∨ replacementRefresh.family ≠ found.family
        ∨ replacementRefresh.sequence ≠ found.sequence+1 then
      (fail .invalidArgument "The refresh rotation replacement is inconsistent.",store)
    else if store.access.holds replacementAccess.digest
        || store.refresh.holds replacementRefresh.digest then
      (fail .alreadyExists "The generated token fingerprint already exists.",store)
    else
      (.ok (),
        { access := store.access.insert replacementAccess.digest replacementAccess
          refresh := (store.refresh.insert presented (found.markUsed now)).insert
            replacementRefresh.digest replacementRefresh })

def revokeFamily (family : TokenFamilyId) (now : Instant) (store : TokenStore) :
    Result Unit × TokenStore :=
  (.ok (),store.revokeRecords family now)

def revokeToken (digest : TokenDigest) (now : Instant) (store : TokenStore) :
    Result Unit × TokenStore :=
  match store.access[digest]? with
  | some record => (.ok (),{ store with access := store.access.insert digest (record.revoke now) })
  | none =>
    match store.refresh[digest]? with
    | some record => (.ok (),store.revokeRecords record.family now)
    | none => (.ok (),store)

end TokenStore

end OpenProof.Tokens
