import OpenProof.ScimWorld

namespace OpenProof.ScimService
open Foundation Memberships ScimDirectory ScimWorld AtomicPrograms.Prog
open IdentityProfiles (IdentityProfile)
open Identities (IdentityId OrganizationId Identity IdentityStatus)

structure UserView where
  record : UserRecord
  status : IdentityStatus
  profile : Option IdentityProfile
  deriving DecidableEq

structure GroupView where
  record : GroupRecord
  members : List IdentityId
  deriving DecidableEq

def provisioned (profile : IdentityProfile) (displayName : Option Text) (userName : Text) (email : Option Text)
    (now : Instant) : Result IdentityProfile :=
  match profile.updateSelfService displayName (some userName) none none now with
  | .error e => .error e
  | .ok updated =>
    match email with
    | none => .ok updated
    | some email => updated.setEmail email false now

variable (organization : OrganizationId)

def hydrate (record : UserRecord) : ScimCall UserView := do
  match ← check (← ask (.findById organization record.id)) with
  | none => .fail (.plain .notFound)
  | some identity =>
    let profile ← check (← ask (.findProfile record.id))
    return ⟨record,identity.status,profile⟩

-- The change of a membership that `setActive` makes before it changes the status.
def settle (current : Membership) (active : Bool) : ScimCall Unit :=
  if active then
    if current.state = .suspended then do
      let changed ← check current.reinstate
      check (← ask (.saveMembership changed))
    else .ret ()
  else
    if current.state = .active then do
      let changed ← check current.suspend
      check (← ask (.saveMembership changed))
    else .ret ()

def setActive (id : IdentityId) (active : Bool) : ScimCall Unit := do
  match ← check (← ask (.findMembership organization id)) with
  | none => .fail (.plain .notFound)
  | some current =>
    refuseIf current.gone (.because .failedPrecondition "A removed SCIM membership cannot change active state.")
    settle current active
    check (← ask (.changeStatus organization id (if active then .active else .suspended)))

def drafted (id : IdentityId) (userName : Text) (externalId displayName email : Option Text) (now : Instant) :
    Result (Identity × Membership × IdentityProfile × UserRecord) :=
  match Identity.create id .human now,Membership.invite organization id now,IdentityProfile.create id now,
      UserRecord.create id organization userName externalId now now with
  | .ok identity,.ok membership,.ok profile,.ok record =>
    match membership.accept,provisioned profile displayName userName email now with
    | .ok accepted,.ok profiled => .ok (identity,accepted,profiled,record)
    | _,_ => .error (.plain .invalidArgument)
  | _,_,_,_ => .error (.plain .invalidArgument)

-- `if (!result) { (void)undo; return fail(result.error()); }`
def orUndo (result : Result Unit) (undo : ScimCall Unit) : ScimCall Unit :=
  match result with
  | .ok _ => .ret ()
  | .error e => do
    let _ ← (undo.attempt : ScimCall (Except Error Unit))
    .fail e

def createUser (userName : Text) (externalId : Option Text) (active : Bool) (displayName email : Option Text) :
    ScimCall UserView := do
  refuseIf (!validText userName 320 || !validOptional displayName 512 || !validOptional email 320
    || !validOptional externalId 1024) (.plain .invalidArgument)
  let existing ← check (← ask (.findUserByName organization userName))
  refuseIf existing.isSome (.plain .alreadyExists)
  let random ← check (← ask (.randomToken 24))
  let id : IdentityId := ⟨Text.of "scim_" ++ random⟩
  let now ← ask .now
  let (identity,membership,profile,record) ← check (drafted organization id userName externalId displayName email now)
  check (← ask (.addIdentity organization identity))
  orUndo (← ask (.addMembership membership)) (do check (← ask (.changeStatus organization id .deactivated)))
  orUndo (← ask (.saveProfile profile)) (setActive organization id false)
  orUndo (← ask (.addUser record)) (setActive organization id false)
  if active then hydrate organization record
  else do
    setActive organization id false
    hydrate organization record

def profileOf (id : IdentityId) : ScimCall IdentityProfile := do
  match ← check (← ask (.findProfile id)) with
  | some profile => return profile
  | none =>
    let now ← ask .now
    check (IdentityProfile.create id now)

def requireUser (id : IdentityId) : ScimCall UserRecord := do
  match ← check (← ask (.findUser organization id)) with
  | none => .fail (.plain .notFound)
  | some record => return record

def replaceUser (id : IdentityId) (userName : Text) (externalId : Option Text) (active : Bool)
    (displayName email : Option Text) : ScimCall UserView := do
  let existing ← requireUser organization id
  let byName ← check (← ask (.findUserByName organization userName))
  refuseIf (byName.any fun found => found.id != id) (.plain .alreadyExists)
  let profile ← profileOf id
  let now ← ask .now
  let updated ← check (provisioned profile displayName userName email now)
  setActive organization id active
  check (← ask (.saveProfile updated))
  let record ← check (UserRecord.rename existing userName externalId now)
  check (← ask (.saveUser record))
  hydrate organization record

def user (id : IdentityId) : ScimCall UserView := do
  let record ← requireUser organization id
  hydrate organization record

def expel (membership : Option Membership) : ScimCall Unit :=
  match membership with
  | none => .ret ()
  | some current =>
    if current.gone then .ret ()
    else do
      let removed ← check current.remove
      check (← ask (.saveMembership removed))

def removeUser (id : IdentityId) : ScimCall Unit := do
  let membership ← check (← ask (.findMembership organization id))
  expel membership
  check (← ask (.changeStatus organization id .deactivated))
  check (← ask (.removeUser organization id))

def eachMember : List IdentityId → ScimCall Unit
  | [] => .ret ()
  | member :: rest => do
    let _ ← requireUser organization member
    eachMember rest

def validateMembers (members : List IdentityId) : ScimCall Unit := do
  refuseIf (adjacentEqual (members.insertionSort fun a b => a.value ≤ b.value))
    (.because .invalidArgument "A SCIM group contains duplicate members.")
  eachMember organization members

def requireGroup (id : GroupId) : ScimCall GroupRecord := do
  match ← check (← ask (.findGroup organization id)) with
  | none => .fail (.plain .notFound)
  | some record => return record

def groupMembers (id : GroupId) : ScimCall (List IdentityId) := do
  let there ← check (← ask (.groupExists organization id))
  refuseIf (!there) (.plain .notFound)
  check (← ask (.listGroupMembers organization id))

def group (id : GroupId) : ScimCall GroupView := do
  let record ← requireGroup organization id
  let members ← groupMembers organization id
  return ⟨record,members⟩

def replaceGroup (id : GroupId) (displayName : Text) (externalId : Option Text) (members : List IdentityId) :
    ScimCall GroupView := do
  let existing ← requireGroup organization id
  let duplicate ← check (← ask (.findGroupByName organization displayName))
  refuseIf (duplicate.any fun found => found.id != id) (.plain .alreadyExists)
  validateMembers organization members
  let now ← ask .now
  let record ← check (GroupRecord.rename existing displayName externalId now)
  check (← ask (.saveGroup record))
  check (← ask (.replaceGroupMembers organization id members))
  return ⟨record,members⟩

-- What a replacement gives a user, and what it gives a group.
structure Attributes where
  userName : Text
  externalId : Option Text
  active : Bool
  displayName : Option Text
  email : Option Text
  deriving DecidableEq

structure GroupAttributes where
  displayName : Text
  externalId : Option Text
  members : List IdentityId
  deriving DecidableEq

abbrev replacing (id : IdentityId) (given : Attributes) : ScimCall UserView :=
  replaceUser organization id given.userName given.externalId given.active given.displayName given.email

abbrev regrouping (id : GroupId) (given : GroupAttributes) : ScimCall GroupView :=
  replaceGroup organization id given.displayName given.externalId given.members

end OpenProof.ScimService
