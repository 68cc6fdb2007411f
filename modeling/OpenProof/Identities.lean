import OpenProof.Foundation
import OpenProof.KeyedTables

namespace OpenProof.Identities
open Foundation KeyedTables

structure IdentityIdTag
structure OrganizationIdTag
structure ProviderIdTag
structure RoleTag

abbrev IdentityId := StrongId IdentityIdTag
abbrev OrganizationId := StrongId OrganizationIdTag
abbrev ProviderId := StrongId ProviderIdTag
abbrev Role := StrongId RoleTag

inductive SubjectKind where
  | human
  | service
  | workload
  | organization
  deriving DecidableEq

inductive IdentityStatus where
  | active
  | suspended
  | locked
  | deactivated
  | deleted
  | merged
  deriving DecidableEq

def permitsAuthentication : IdentityStatus → Bool
  | .active => true
  | .suspended | .locked | .deactivated | .deleted | .merged => false

structure Identity where
  id : IdentityId
  kind : SubjectKind
  status : IdentityStatus
  createdAt : Instant
  deriving DecidableEq

namespace Identity

def create (id : IdentityId) (kind : SubjectKind) (createdAt : Instant) : Result Identity :=
  if id.empty then fail .invalidArgument "An identity must have an identifier."
  else .ok ⟨id,kind,.active,createdAt⟩

theorem create_fails {id : IdentityId} {kind : SubjectKind} {createdAt : Instant}
    (failed : create id kind createdAt = .error e) : e.code = .invalidArgument := by
  unfold create at failed
  split_ifs at failed
  cases failed
  rfl

def canAuthenticate (identity : Identity) : Bool := permitsAuthentication identity.status

def changeStatus (identity : Identity) (status : IdentityStatus) : Result Identity :=
  match identity.status with
  | .deleted => .error (.of .failedPrecondition "This identity cannot be modified."
      "A deleted identity cannot change status. Its key may still be referenced by audit records and external associations, so resurrecting it would silently reattach them.")
  | .merged => .error (.of .failedPrecondition "This identity cannot be modified."
      "A merged identity cannot change status. Its associations were transferred to a successor, so reactivating it would produce two live identities claiming the same external accounts.")
  | _ => .ok { identity with status := status }

end Identity

structure Owned where
  organization : OrganizationId
  identity : Identity
  deriving DecidableEq

-- `InMemoryIdentityRepository`; each method holds the mutex for its whole body.
abbrev IdentityStore := Map IdentityId Owned

namespace IdentityStore

def add (organization : OrganizationId) (identity : Identity) (entries : IdentityStore) :
    Result Unit × IdentityStore :=
  if entries.holds identity.id then
    (.error (.of .alreadyExists "That identity already exists."
      "Identity keys are globally unique across organizations; a duplicate was rejected rather than shadowing the existing record."),
      entries)
  else (.ok (),entries.insert identity.id ⟨organization,identity⟩)

theorem add_fails (failed : (add organization identity entries).1 = .error e) : e.code = .alreadyExists := by
  unfold add at failed
  split_ifs at failed
  cases failed
  rfl

theorem add_cases (organization : OrganizationId) (identity : Identity) (entries : IdentityStore) :
    (∃ e,entries.add organization identity = (.error e,entries)) ∨ entries[identity.id]? = none ∧
      entries.add organization identity = (.ok (),entries.insert identity.id ⟨organization,identity⟩) := by
  unfold add
  split
  · exact .inl ⟨_,rfl⟩
  · rename_i free
    simp only [Map.holds,Bool.not_eq_true,Option.isSome_eq_false_iff,Option.isNone_iff_eq_none] at free
    exact .inr ⟨free,rfl⟩

def findById (organization : OrganizationId) (id : IdentityId) (entries : IdentityStore) :
    Option Identity :=
  match entries[id]? with
  | none => none
  | some owned => if owned.organization ≠ organization then none else some owned.identity

def changeStatus (organization : OrganizationId) (id : IdentityId) (status : IdentityStatus)
    (entries : IdentityStore) : Result Unit × IdentityStore :=
  match entries[id]? with
  | none => (.error (.plain .notFound),entries)
  | some owned =>
    if owned.organization ≠ organization then (.error (.plain .notFound),entries)
    else match owned.identity.changeStatus status with
      | .error e => (.error e,entries)
      | .ok changed => (.ok (),entries.insert id { owned with identity := changed })

theorem changeStatus_cases (organization : OrganizationId) (id : IdentityId) (status : IdentityStatus)
    (identities : IdentityStore) : (∃ e,identities.changeStatus organization id status = (.error e,identities)) ∨
      ∃ owned,identities[id]? = some owned ∧ owned.organization = organization ∧
        identities.changeStatus organization id status =
          (.ok (),identities.insert id { owned with identity := { owned.identity with status := status } }) := by
  unfold IdentityStore.changeStatus
  split
  · exact .inl ⟨_,rfl⟩
  · rename_i owned found
    split
    · exact .inl ⟨_,rfl⟩
    · rename_i within
      unfold Identity.changeStatus
      split
      · rename_i e failed
        exact .inl ⟨e,rfl⟩
      · rename_i changed done
        refine .inr ⟨owned,found,not_not.mp within,?_⟩
        split at done
        · cases done
        · cases done
        · cases done
          rfl

theorem changeStatus_fails {id : IdentityId} {identities : IdentityStore}
    (failed : (identities.changeStatus organization id status).1 = .error e) :
    e.code = .notFound ∨ e.code = .failedPrecondition := by
  unfold IdentityStore.changeStatus at failed
  split at failed
  · cases failed
    exact .inl rfl
  · split at failed
    · cases failed
      exact .inl rfl
    · unfold Identity.changeStatus at failed
      split at failed
      · rename_i changed
        split at changed
        · cases changed
          cases failed
          exact .inr rfl
        · cases changed
          cases failed
          exact .inr rfl
        · cases changed
      · cases failed

def idsOfKind (organization : OrganizationId) (kind : SubjectKind) (entries : IdentityStore) : List IdentityId :=
  (rowsWhere (fun _ owned => owned.organization = organization && owned.identity.kind = kind) entries).map Prod.fst

def countIn (organization : OrganizationId) (entries : IdentityStore) : Nat :=
  (rowsWhere (fun _ owned => owned.organization = organization) entries).length

end IdentityStore

inductive AssuranceLevel where
  | ial0
  | ial1
  | ial2
  | ial3
  | ial4
  deriving DecidableEq

def AssuranceLevel.rank : AssuranceLevel → Nat
  | .ial0 => 0
  | .ial1 => 1
  | .ial2 => 2
  | .ial3 => 3
  | .ial4 => 4

def assuranceLevelName : AssuranceLevel → Text
  | .ial0 => "ial0"
  | .ial1 => "ial1"
  | .ial2 => "ial2"
  | .ial3 => "ial3"
  | .ial4 => "ial4"

def meetsAssurance (actual required : AssuranceLevel) : Bool := required.rank ≤ actual.rank

-- Bits of `std::uint8_t`: knowledge, possession, inherence.
abbrev AuthenticationFactor := UInt8

def AuthenticationFactor.knowledge : AuthenticationFactor := 1

structure AuthenticationStrength where
  factors : AuthenticationFactor
  phishingResistant : Bool
  deriving DecidableEq

-- What the endpoints read of an accepted browser session.
structure AuthenticatedSession where
  identity : IdentityId
  provider : ProviderId
  assurance : AssuranceLevel
  strength : AuthenticationStrength
  authenticatedAt : Instant
  deriving DecidableEq

inductive MembershipState where
  | invited
  | active
  | suspended
  | removed
  deriving DecidableEq

structure Membership where
  state : MembershipState
  roles : List Role
  deriving DecidableEq

def Membership.hasRole (membership : Membership) (role : Role) : Bool :=
  match membership.state with
  | .active => membership.roles.contains role
  | .invited | .suspended | .removed => false

end OpenProof.Identities
