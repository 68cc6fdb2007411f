import Mathlib.Data.List.Sort
import OpenProof.Memberships
import OpenProof.TotpWorld

namespace OpenProof.Administration
open Foundation ExternalIdentities Memberships TotpWorld
open Identities (Identity IdentityId OrganizationId ProviderId Role)

def validText (value : Text) (maximum : Nat) : Bool := !value.isEmpty && value.length ≤ maximum && !value.any isControl

def sortRoles (roles : List Role) : List Role := roles.insertionSort fun a b => a.value ≤ b.value

def validRoles (roles : List Role) : Bool :=
  !roles.isEmpty && roles.length ≤ 16 && roles.all fun role => validText role.value 200

theorem kept_dropped {membership : Membership} (kept : ¬membership.state = .removed) (roles : List Role) :
    membership.state = .removed → roles = [] := fun removed => absurd removed kept

def grantRole (role : Role) (membership : Membership) : Result Membership :=
  if role.empty then fail .invalidArgument "A role must have a name."
  else if kept : membership.state = .removed then
    .error (.of .failedPrecondition "This membership has been removed."
      "Refused to grant a role to a removed membership; the authority would be attached to a relationship that no longer exists.")
  else if membership.roles.contains role then .ok membership
  else .ok { membership with
    roles := sortRoles (membership.roles ++ [role]),dropped := kept_dropped kept (sortRoles (membership.roles ++ [role])) }

structure LocalMemberEnrollment where
  organizationId : OrganizationId
  identity : Identity
  link : IdentityLink
  membership : Membership
  generatedPassword : Text
  generatedTotp : TotpSecret

def LocalMemberEnrollment.create (organizationId : OrganizationId) (identityId : IdentityId) (providerId : ProviderId)
    (externalSubject : ExternalSubject) (roles : List Role) (generatedPassword : Text) (generatedTotp : TotpSecret)
    (now : Instant) : Result LocalMemberEnrollment := do
  if !validText organizationId.value 200 || !validText identityId.value 200 || !validText providerId.value 200
      || !validText externalSubject.value 1000 || identityId.value = externalSubject.value || !validRoles roles
      || generatedPassword.length < 32 || 1024 < generatedPassword.length then
    fail .invalidArgument "The local-member enrollment request is invalid."
  let roles := sortRoles roles
  if adjacentEqual roles then fail .invalidArgument "Local-member roles must be unique."
  let identity ← Identity.create identityId .human now
  let link ← IdentityLink.request identityId ⟨providerId,externalSubject,none,none,none⟩ now 300000
  let membership ← Membership.invite organizationId identityId now
  let required ← link.requireVerification now
  let verified ← required.markVerified now
  let completed ← verified.complete now
  let granted ← roles.foldlM (fun membership role => grantRole role membership) membership
  let accepted ← granted.accept
  return ⟨organizationId,identity,completed,accepted,generatedPassword,generatedTotp⟩

inductive MemberLifecycleAction where
  | suspend
  | reinstate
  | remove
  deriving DecidableEq

def memberLifecycleActionName : MemberLifecycleAction → Text
  | .suspend => "suspend"
  | .reinstate => "reinstate"
  | .remove => "remove"

structure MemberRoleReplacement where
  organizationId : OrganizationId
  identityId : IdentityId
  roles : List Role
  occurredAt : Instant
  distinct : adjacentEqual roles = false

def MemberRoleReplacement.create (organizationId : OrganizationId) (identityId : IdentityId) (roles : List Role)
    (now : Instant) : Result MemberRoleReplacement :=
  if !validText organizationId.value 200 || !validText identityId.value 200 || !validRoles roles then
    fail .invalidArgument "The role replacement request is invalid."
  else if twice : adjacentEqual (sortRoles roles) = true then
    fail .invalidArgument "Replacement roles must be unique."
  else .ok ⟨organizationId,identityId,sortRoles roles,now,Bool.eq_false_iff.mpr twice⟩

structure MemberLifecycleChange where
  organizationId : OrganizationId
  identityId : IdentityId
  action : MemberLifecycleAction
  occurredAt : Instant

def MemberLifecycleChange.create (organizationId : OrganizationId) (identityId : IdentityId)
    (action : MemberLifecycleAction) (now : Instant) : Result MemberLifecycleChange :=
  if !validText organizationId.value 200 || !validText identityId.value 200 then
    fail .invalidArgument "The membership lifecycle request is invalid."
  else .ok ⟨organizationId,identityId,action,now⟩

structure LocalCredentialReset where
  organizationId : OrganizationId
  identityId : IdentityId
  generatedPassword : Text
  generatedTotp : TotpSecret
  occurredAt : Instant

def LocalCredentialReset.create (organizationId : OrganizationId) (identityId : IdentityId) (generatedPassword : Text)
    (generatedTotp : TotpSecret) (now : Instant) : Result LocalCredentialReset :=
  if !validText organizationId.value 200 || !validText identityId.value 200 || generatedPassword.length < 32
      || 1024 < generatedPassword.length then
    fail .invalidArgument "The credential reset request is invalid."
  else .ok ⟨organizationId,identityId,generatedPassword,generatedTotp,now⟩

end OpenProof.Administration
