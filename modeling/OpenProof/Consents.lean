import OpenProof.Resources

namespace OpenProof.Consents
open Foundation SortedList Identities Clients

structure ConsentIdTag
abbrev ConsentId := StrongId ConsentIdTag

def normalizeScopes (scopes : List Text) : Result (SortedSet Text) :=
  if scopes.isEmpty || scopes.length > 256 then
    fail .invalidArgument "A consent grant must contain scopes."
  else match parseScopes scopes with
    | .error e => .error e
    | .ok _ => .ok (.ofList scopes)

structure ConsentGrant where
  id : ConsentId
  identity : IdentityId
  client : ClientId
  audience : Text
  scopes : SortedSet Text
  grantedAt : Instant
  expiresAt : Option Instant
  revokedAt : Option Instant
  deriving DecidableEq

namespace ConsentGrant

def restore (id : ConsentId) (identity : IdentityId) (clientId : ClientId) (audience : Text)
    (scopes : List Text) (grantedAt : Instant) (expiresAt revokedAt : Option Instant) :
    Result ConsentGrant :=
  match normalizeScopes scopes with
  | .error _ => fail .invalidArgument "The consent grant is invalid."
  | .ok normalized =>
    if id.empty || identity.empty || clientId.empty || audience.isEmpty || audience.length > 2048
        || expiresAt.any (· ≤ grantedAt) || revokedAt.any (· < grantedAt) then
      fail .invalidArgument "The consent grant is invalid."
    else .ok ⟨id,identity,clientId,audience,normalized,grantedAt,expiresAt,revokedAt⟩

def create (id : ConsentId) (identity : IdentityId) (clientId : ClientId) (audience : Text)
    (scopes : List Text) (grantedAt : Instant) (expiresAt : Option Instant) : Result ConsentGrant :=
  restore id identity clientId audience scopes grantedAt expiresAt none

def activeAt (grant : ConsentGrant) (now : Instant) : Bool :=
  grant.revokedAt.isNone && grant.expiresAt.all (now < ·)

def covers (grant : ConsentGrant) (scopes : List Text) : Bool := grant.scopes.containsAll scopes

def revoke (grant : ConsentGrant) (now : Instant) : ConsentGrant :=
  { grant with revokedAt := some (grant.revokedAt.getD now) }

theorem create_spec {id : ConsentId} {identity : IdentityId} {audience : Text} {scopes : List Text}
    {grantedAt : Instant} {expiresAt : Option Instant}
    (done : create id identity clientId audience scopes grantedAt expiresAt = .ok grant) :
    grant = ⟨id,identity,clientId,audience,.ofList scopes,grantedAt,expiresAt,none⟩ ∧
      expiresAt.all (grantedAt < ·) := by
  unfold create restore normalizeScopes at done
  split at done
  · cases done
  · rename_i normalized ok
    split_ifs at ok
    split at ok
    · cases ok
    · cases ok
      split_ifs at done with invalid
      cases done
      refine ⟨rfl,?_⟩
      cases expiresAt with
      | none => rfl
      | some expiry =>
        simp only [Bool.or_eq_true,not_or,Option.any_some,decide_eq_true_eq] at invalid
        simpa using invalid.1.2

end ConsentGrant

-- `InMemoryConsentRepository`.
abbrev ConsentStore := Map ConsentId ConsentGrant

namespace ConsentStore

def sameGrantee (a b : ConsentGrant) : Bool :=
  a.identity = b.identity && a.client = b.client && a.audience = b.audience

def save (grant : ConsentGrant) (grants : ConsentStore) : ConsentStore :=
  (grants.map fun _ value =>
    if sameGrantee value grant && value.activeAt grant.grantedAt then value.revoke grant.grantedAt
    else value).insert grant.id grant

def findActive (identity : IdentityId) (clientId : ClientId) (audience : Text) (now : Instant)
    (grants : ConsentStore) : Option ConsentGrant :=
  grants.elements.find? fun value =>
    value.identity = identity && value.client = clientId && value.audience = audience
      && value.activeAt now

def list (identity : IdentityId) (grants : ConsentStore) : List ConsentGrant :=
  grants.elements.filter fun value => value.identity = identity

def revoke (id : ConsentId) (identity : IdentityId) (now : Instant) (grants : ConsentStore) :
    Result Unit × ConsentStore :=
  match grants[id]? with
  | none => (.error (.plain .notFound),grants)
  | some found =>
    if found.identity ≠ identity then (.error (.plain .permissionDenied),grants)
    else (.ok (),grants.insert id (found.revoke now))

end ConsentStore

end OpenProof.Consents
