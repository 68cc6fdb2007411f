import OpenProof.SortedList
import OpenProof.Clients

namespace OpenProof.Resources
open Foundation SortedList Identities Clients

structure ResourceIdTag
abbrev ResourceId := StrongId ResourceIdTag

inductive ResourceStatus where
  | active
  | suspended
  | revoked
  deriving DecidableEq

def validAudience (value : Text) : Bool :=
  !value.isEmpty && value.length ≤ 2048 && !value.contains (ch ' ') && !value.contains (ch '\t')
    && !value.contains (ch '\r') && !value.contains (ch '\n')

def normalizedScopes (scopes : List Text) : Result (SortedSet Text) :=
  if scopes.isEmpty || scopes.length > 256 then
    fail .invalidArgument "A resource server must declare scopes."
  else match parseScopes scopes with
    | .error e => .error e
    | .ok _ => .ok (.ofList scopes)

def normalizedAudiences (audiences : List Text) : Result (SortedSet Text) :=
  if audiences.isEmpty || audiences.length > 64 || audiences.any (fun value => !validAudience value) then
    fail .invalidArgument "A service identity audience grant is invalid."
  else .ok (.ofList audiences)

structure ResourceServer where
  id : ResourceId
  audience : Text
  displayName : Text
  scopes : SortedSet Text
  status : ResourceStatus
  createdAt : Instant
  updatedAt : Instant
  deriving DecidableEq

namespace ResourceServer

def restore (id : ResourceId) (audience displayName : Text) (scopes : List Text)
    (status : ResourceStatus) (createdAt updatedAt : Instant) : Result ResourceServer :=
  match normalizedScopes scopes with
  | .error _ => fail .invalidArgument "The resource-server registration is invalid."
  | .ok normalized =>
    if id.empty || !validAudience audience || displayName.isEmpty || displayName.length > 256
        || updatedAt < createdAt then
      fail .invalidArgument "The resource-server registration is invalid."
    else .ok ⟨id,audience,displayName,normalized,status,createdAt,updatedAt⟩

def create (id : ResourceId) (audience displayName : Text) (scopes : List Text) (now : Instant) :
    Result ResourceServer :=
  restore id audience displayName scopes .active now now

def active (resource : ResourceServer) : Bool := resource.status == .active
def permitsScope (resource : ResourceServer) (scope : Text) : Bool := resource.scopes.contains scope
def permitsScopes (resource : ResourceServer) (scopes : List Text) : Bool :=
  resource.scopes.containsAll scopes

def setStatus (resource : ResourceServer) (status : ResourceStatus) (now : Instant) :
    Result ResourceServer :=
  if resource.status = .revoked ∧ status ≠ .revoked then
    fail .failedPrecondition "A revoked resource server cannot be reactivated."
  else .ok { resource with status := status, updatedAt := now }

theorem setStatus_same {resource changed : ResourceServer} {status : ResourceStatus}
    (done : resource.setStatus status now = .ok changed) :
    changed.audience = resource.audience ∧ changed.scopes = resource.scopes := by
  unfold setStatus at done
  split_ifs at done
  cases done
  exact ⟨rfl,rfl⟩

end ResourceServer

structure ServiceIdentity where
  identity : IdentityId
  client : ClientId
  audiences : SortedSet Text
  scopes : SortedSet Text
  active : Bool
  createdAt : Instant
  updatedAt : Instant
  deriving DecidableEq

namespace ServiceIdentity

def restore (identity : IdentityId) (clientId : ClientId) (audiences scopes : List Text) (active : Bool)
    (createdAt updatedAt : Instant) : Result ServiceIdentity :=
  match normalizedAudiences audiences,normalizedScopes scopes with
  | .ok normalizedAudience,.ok normalizedScope =>
    if identity.empty || clientId.empty || updatedAt < createdAt then
      fail .invalidArgument "The service identity registration is invalid."
    else .ok ⟨identity,clientId,normalizedAudience,normalizedScope,active,createdAt,updatedAt⟩
  | _,_ => fail .invalidArgument "The service identity registration is invalid."

def create (identity : IdentityId) (clientId : ClientId) (audiences scopes : List Text)
    (now : Instant) : Result ServiceIdentity :=
  restore identity clientId audiences scopes true now now

def permitsAudience (service : ServiceIdentity) (audience : Text) : Bool :=
  service.audiences.contains audience
def permitsScopes (service : ServiceIdentity) (scopes : List Text) : Bool :=
  service.scopes.containsAll scopes

def deactivate (service : ServiceIdentity) (now : Instant) : ServiceIdentity :=
  { service with active := false, updatedAt := now }
def activate (service : ServiceIdentity) (now : Instant) : ServiceIdentity :=
  { service with active := true, updatedAt := now }

theorem create_client {identity : IdentityId} {audiences scopes : List Text}
    (done : create identity clientId audiences scopes now = .ok service) : service.client = clientId := by
  unfold create restore at done
  split at done
  · split_ifs at done
    cases done
    rfl
  · cases done

theorem create_fails {identity : IdentityId} {audiences scopes : List Text}
    (failed : create identity clientId audiences scopes now = .error e) : e.code = .invalidArgument := by
  unfold create restore at failed
  split at failed
  · split_ifs at failed
    cases failed
    rfl
  · cases failed
    rfl

end ServiceIdentity

-- `InMemoryResourceRepository`.
structure ResourceStore where
  resources : Map Text ResourceServer
  services : Map ClientId ServiceIdentity

namespace ResourceStore

def add (resource : ResourceServer) (store : ResourceStore) : Result Unit × ResourceStore :=
  if store.resources.holds resource.audience then (.error (.plain .alreadyExists),store)
  else (.ok (),{ store with resources := store.resources.insert resource.audience resource })

def save (resource : ResourceServer) (store : ResourceStore) : Result Unit × ResourceStore :=
  if store.resources.holds resource.audience then
    (.ok (),{ store with resources := store.resources.insert resource.audience resource })
  else (.error (.plain .notFound),store)

def findByAudience (audience : Text) (store : ResourceStore) : Option ResourceServer :=
  store.resources[audience]?

def list (store : ResourceStore) : List ResourceServer := store.resources.elements

def saveService (service : ServiceIdentity) (store : ResourceStore) : Result Unit × ResourceStore :=
  (.ok (),{ store with services := store.services.insert service.client service })

def serviceForClient (clientId : ClientId) (store : ResourceStore) : Option ServiceIdentity :=
  store.services[clientId]?

end ResourceStore

end OpenProof.Resources
