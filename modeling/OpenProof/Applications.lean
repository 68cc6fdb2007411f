import OpenProof.Identities

namespace OpenProof.Applications
open Foundation Identities

structure ApplicationIdTag
abbrev ApplicationId := StrongId ApplicationIdTag

inductive Environment where
  | development
  | staging
  | production
  deriving DecidableEq

def environmentName : Environment → Text
  | .development => "development"
  | .staging => "staging"
  | .production => "production"

inductive ApplicationStatus where
  | active
  | suspended
  | revoked
  deriving DecidableEq

def applicationStatusName : ApplicationStatus → Text
  | .active => "active"
  | .suspended => "suspended"
  | .revoked => "revoked"

def isSeparator (byte : UInt8) : Bool := byte == ch '-' || byte == ch '.'

def identifierBody (previousSeparator : Bool) : Text → Bool
  | [] => true
  | byte :: rest =>
    (isLower byte || isDigit byte || isSeparator byte)
      && !(isSeparator byte && previousSeparator) && identifierBody (isSeparator byte) rest

def validIdentifier (value : Text) : Bool :=
  2 ≤ value.length && value.length ≤ 64 && value.head?.any isLower
    && !value.getLast?.any isSeparator && identifierBody false value

def validDisplayName (value : Text) : Bool :=
  !value.isEmpty && value.length ≤ 120 && !value.any isControl

-- No constructor lets another identifier in: it is what the index of the store relies on.
structure Application where
  id : ApplicationId
  owner : OrganizationId
  identifier : Text
  displayName : Text
  environment : Environment
  status : ApplicationStatus
  createdAt : Instant
  updatedAt : Instant
  named : validIdentifier identifier = true
  deriving DecidableEq

namespace Application

def create (id : ApplicationId) (owner : OrganizationId) (identifier displayName : Text)
    (environment : Environment) (createdAt : Instant) : Result Application :=
  if invalid : id.empty || owner.empty || !validIdentifier identifier || !validDisplayName displayName then
    fail .invalidArgument "The application registration is invalid."
  else .ok ⟨id,owner,identifier,displayName,environment,.active,createdAt,createdAt,by simp_all⟩

def restore (id : ApplicationId) (owner : OrganizationId) (identifier displayName : Text)
    (environment : Environment) (status : ApplicationStatus) (createdAt updatedAt : Instant) : Result Application :=
  match create id owner identifier displayName environment createdAt with
  | .error e => .error e
  | .ok restored =>
    if updatedAt < createdAt then fail .internal "Stored application timestamps are invalid."
    else .ok { restored with status := status, updatedAt := updatedAt }

theorem create_spec {id : ApplicationId} {owner : OrganizationId} {identifier displayName : Text}
    {environment : Environment} {createdAt : Instant}
    (done : create id owner identifier displayName environment createdAt = .ok application) :
    application.id = id ∧ application.owner = owner := by
  unfold create at done
  split_ifs at done
  cases done
  exact ⟨rfl,rfl⟩

def permitsAuthorization (application : Application) : Bool := application.status == .active

def suspend (application : Application) (now : Instant) : Result Application :=
  if application.status = .revoked then
    fail .failedPrecondition "A revoked application cannot change state."
  else if application.status ≠ .active ∨ now < application.updatedAt then
    fail .failedPrecondition "The application cannot be suspended."
  else .ok { application with status := .suspended, updatedAt := now }

def activate (application : Application) (now : Instant) : Result Application :=
  if application.status = .revoked then
    fail .failedPrecondition "A revoked application cannot be reactivated."
  else if application.status ≠ .suspended ∨ now < application.updatedAt then
    fail .failedPrecondition "The application cannot be activated."
  else .ok { application with status := .active, updatedAt := now }

def revoke (application : Application) (now : Instant) : Result Application :=
  if application.status = .revoked ∨ now < application.updatedAt then
    fail .failedPrecondition "The application cannot be revoked."
  else .ok { application with status := .revoked, updatedAt := now }

def rename (application : Application) (displayName : Text) (now : Instant) : Result Application :=
  if application.status = .revoked ∨ now < application.updatedAt ∨ validDisplayName displayName = false then
    fail .failedPrecondition "The application cannot be renamed."
  else .ok { application with displayName := displayName, updatedAt := now }

structure SameRegistration (before after : Application) : Prop where
  id : after.id = before.id
  owner : after.owner = before.owner
  identifier : after.identifier = before.identifier

theorem suspend_same (done : application.suspend now = .ok changed) : SameRegistration application changed := by
  unfold suspend at done
  split_ifs at done
  cases done
  exact ⟨rfl,rfl,rfl⟩

theorem activate_same (done : application.activate now = .ok changed) : SameRegistration application changed := by
  unfold activate at done
  split_ifs at done
  cases done
  exact ⟨rfl,rfl,rfl⟩

theorem revoke_same (done : application.revoke now = .ok changed) : SameRegistration application changed := by
  unfold revoke at done
  split_ifs at done
  cases done
  exact ⟨rfl,rfl,rfl⟩

end Application

-- `InMemoryApplicationRepository`: the records and the per-tenant identifier index.
structure ApplicationStore where
  applications : Map ApplicationId Application
  identifiers : Map Text ApplicationId

namespace ApplicationStore

def tenantIdentifierKey (owner : OrganizationId) (identifier : Text) : Text :=
  owner.value ++ 0 :: identifier

def add (application : Application) (store : ApplicationStore) : Result Unit × ApplicationStore :=
  if store.applications.holds application.id
      || store.identifiers.holds (tenantIdentifierKey application.owner application.identifier) then
    (fail .alreadyExists "The application already exists.",store)
  else
    (.ok (),
      { identifiers := store.identifiers.insert
          (tenantIdentifierKey application.owner application.identifier) application.id
        applications := store.applications.insert application.id application })

def save (application : Application) (store : ApplicationStore) : Result Unit × ApplicationStore :=
  match store.applications[application.id]? with
  | none => (.error (.plain .notFound),store)
  | some found =>
    if found.identifier ≠ application.identifier then
      (fail .failedPrecondition "An application identifier is immutable.",store)
    else (.ok (),{ store with applications := store.applications.insert application.id application })

def findById (id : ApplicationId) (store : ApplicationStore) : Option Application :=
  store.applications[id]?

def list (store : ApplicationStore) : List Application := store.applications.elements

end ApplicationStore

end OpenProof.Applications
