import OpenProof.IdentityProfiles
import OpenProof.Memberships
import OpenProof.ScimDirectory

namespace OpenProof.ScimWorld
open AtomicPrograms Foundation IdentityProfiles Memberships ScimDirectory
open Identities (IdentityId OrganizationId Identity IdentityStatus IdentityStore)

-- One step each: a statement or a transaction of the directory, a method of a store that
-- holds its mutex, one look at the clock, one random token.
inductive ScimOp where
  | now
  | randomToken (bytes : Nat)
  | findUser (organization : OrganizationId) (identity : IdentityId)
  | findUserByName (organization : OrganizationId) (userName : Text)
  | addUser (user : UserRecord)
  | saveUser (user : UserRecord)
  | removeUser (organization : OrganizationId) (identity : IdentityId)
  | findGroup (organization : OrganizationId) (id : GroupId)
  | findGroupByName (organization : OrganizationId) (displayName : Text)
  | saveGroup (group : GroupRecord)
  | groupExists (organization : OrganizationId) (id : GroupId)
  | listGroupMembers (organization : OrganizationId) (id : GroupId)
  | replaceGroupMembers (organization : OrganizationId) (id : GroupId) (members : List IdentityId)
  | findById (organization : OrganizationId) (id : IdentityId)
  | addIdentity (organization : OrganizationId) (identity : Identity)
  | changeStatus (organization : OrganizationId) (id : IdentityId) (status : IdentityStatus)
  | findProfile (identity : IdentityId)
  | saveProfile (profile : IdentityProfile)
  | findMembership (organization : OrganizationId) (identity : IdentityId)
  | addMembership (membership : Membership)
  | saveMembership (membership : Membership)

abbrev ScimOp.Ret : ScimOp → Type
  | .now => Instant
  | .randomToken _ => Result Text
  | .findUser .. => Result (Option UserRecord)
  | .findUserByName .. => Result (Option UserRecord)
  | .addUser _ => Result Unit
  | .saveUser _ => Result Unit
  | .removeUser .. => Result Unit
  | .findGroup .. => Result (Option GroupRecord)
  | .findGroupByName .. => Result (Option GroupRecord)
  | .saveGroup _ => Result Unit
  | .groupExists .. => Result Bool
  | .listGroupMembers .. => Result (List IdentityId)
  | .replaceGroupMembers .. => Result Unit
  | .findById .. => Result (Option Identity)
  | .addIdentity .. => Result Unit
  | .changeStatus .. => Result Unit
  | .findProfile _ => Result (Option IdentityProfile)
  | .saveProfile _ => Result Unit
  | .findMembership .. => Result (Option Membership)
  | .addMembership _ => Result Unit
  | .saveMembership _ => Result Unit

-- `InMemoryIdentityProfileRepository`, with its keys.
structure Profiles where
  entries : ProfileStore
  keyed : ∀ (identity : IdentityId) (profile : IdentityProfile),entries[identity]? = some profile →
    profile.identity = identity

namespace Profiles

theorem empty_keyed : ∀ (identity : IdentityId) (profile : IdentityProfile),
    (∅ : ProfileStore)[identity]? = some profile → profile.identity = identity := by
  intro identity profile found
  simp at found

theorem save_keyed {profiles : Profiles} : ∀ (identity : IdentityId) (stored : IdentityProfile),
    (profiles.entries.save profile)[identity]? = some stored → stored.identity = identity :=
  Map.insert_keyed profiles.keyed profile

def empty : Profiles := ⟨∅,empty_keyed⟩

def find (identity : IdentityId) (profiles : Profiles) : Option IdentityProfile := profiles.entries[identity]?

def save (profile : IdentityProfile) (profiles : Profiles) : Profiles := ⟨profiles.entries.save profile,save_keyed⟩

@[simp] theorem find_save (identity : IdentityId) (profile : IdentityProfile) (profiles : Profiles) :
    (profiles.save profile).find identity = if profile.identity = identity then some profile else profiles.find identity :=
  Map.find_insert ..

end Profiles

-- The members of a group are rows of their own; they go with the group and with the user.
structure ScimState where
  clock : Nat → Instant
  randomness : Nat → Nat → Result Text
  users : Table IdentityId
  groups : Table GroupId
  groupMembers : Map GroupId (List IdentityId)
  identities : IdentityStore
  profiles : Profiles
  memberships : MembershipStore

def tail {α : Type} (stream : Nat → α) : Nat → α := fun n => stream (n+1)

def restoredUser : Option UserRecord → Result (Option UserRecord)
  | none => .ok none
  | some row =>
    (UserRecord.create row.id row.organization row.name row.externalId row.createdAt row.updatedAt).map some

def restoredGroup : Option GroupRecord → Result (Option GroupRecord)
  | none => .ok none
  | some row =>
    (GroupRecord.create row.id row.organization row.name row.externalId row.createdAt row.updatedAt).map some

def removeUser (organization : OrganizationId) (identity : IdentityId) (w : ScimState) : Result Unit × ScimState :=
  match w.users.remove organization identity with
  | (.error e,_) => (.error e,w)
  | (.ok _,users) => (.ok (),{ w with
      users := users
      groupMembers := w.groupMembers.map fun _ members => members.filter fun member => member ≠ identity })

def insertMembers (organization : OrganizationId) (users : Table IdentityId) :
    List IdentityId → List IdentityId → Result (List IdentityId)
  | inserted,[] => .ok inserted
  | inserted,member :: rest =>
    if inserted.contains member then .error (uniqueViolation "insert SCIM group member")
    else if (users.find organization member).isNone then .error (foreignKeyViolation "insert SCIM group member")
    else insertMembers organization users (inserted ++ [member]) rest

def replaceGroupMembers (organization : OrganizationId) (id : GroupId) (members : List IdentityId) (w : ScimState) :
    Result Unit × ScimState :=
  match w.groups.find organization id with
  | none => (.error (.plain .notFound),w)
  | some _ =>
    match insertMembers organization w.users [] members with
    | .error e => (.error e,w)
    | .ok inserted => (.ok (),{ w with groupMembers := w.groupMembers.insert id inserted })

def listGroupMembers (organization : OrganizationId) (id : GroupId) (w : ScimState) : List IdentityId :=
  match w.groups.find organization id with
  | none => []
  | some _ => (w.groupMembers[id]?.getD []).insertionSort fun a b => a.value ≤ b.value

def exec : (op : ScimOp) → ScimState → op.Ret × ScimState
  | .now,w => (w.clock 0,{ w with clock := tail w.clock })
  | .randomToken bytes,w => (w.randomness 0 bytes,{ w with randomness := tail w.randomness })
  | .findUser organization identity,w => (restoredUser (w.users.find organization identity),w)
  | .findUserByName organization userName,w => (restoredUser (w.users.findByName organization userName),w)
  | .addUser user,w =>
    let r := w.users.add "insert SCIM user" user
    (r.1,{ w with users := r.2 })
  | .saveUser user,w =>
    let r := w.users.save "save SCIM user" user
    (r.1,{ w with users := r.2 })
  | .removeUser organization identity,w => removeUser organization identity w
  | .findGroup organization id,w => (restoredGroup (w.groups.find organization id),w)
  | .findGroupByName organization displayName,w => (restoredGroup (w.groups.findByName organization displayName),w)
  | .saveGroup group,w =>
    let r := w.groups.save "save SCIM group" group
    (r.1,{ w with groups := r.2 })
  | .groupExists organization id,w => (.ok (w.groups.find organization id).isSome,w)
  | .listGroupMembers organization id,w => (.ok (listGroupMembers organization id w),w)
  | .replaceGroupMembers organization id members,w => replaceGroupMembers organization id members w
  | .findById organization id,w => (.ok (w.identities.findById organization id),w)
  | .addIdentity organization identity,w =>
    let r := w.identities.add organization identity
    (r.1,{ w with identities := r.2 })
  | .changeStatus organization id status,w =>
    let r := w.identities.changeStatus organization id status
    (r.1,{ w with identities := r.2 })
  | .findProfile identity,w => (.ok (w.profiles.find identity),w)
  | .saveProfile profile,w => (.ok (),{ w with profiles := w.profiles.save profile })
  | .findMembership organization identity,w => (.ok (w.memberships.find organization identity),w)
  | .addMembership membership,w =>
    let r := w.memberships.add membership
    (r.1,{ w with memberships := r.2 })
  | .saveMembership membership,w =>
    let r := w.memberships.save membership
    (r.1,{ w with memberships := r.2 })

abbrev ScimCall (α : Type) := Prog ScimOp ScimOp.Ret Error α

def ask (op : ScimOp) : ScimCall op.Ret := .perform op

end OpenProof.ScimWorld
