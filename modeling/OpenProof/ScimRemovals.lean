import OpenProof.ScimService

namespace OpenProof.ScimRemovals
open AtomicPrograms Foundation Memberships ScimDirectory ScimWorld ScimService AtomicPrograms.Prog
open Identities (IdentityId OrganizationId Identity IdentityStatus IdentityStore)

def statusOf (organization : OrganizationId) (id : IdentityId) (w : ScimState) : Option IdentityStatus :=
  (w.identities.findById organization id).map Identity.status

def memberOf (organization : OrganizationId) (id : IdentityId) (w : ScimState) : Option Membership :=
  w.memberships.find organization id

def ended (membership : Membership) : Membership :=
  { membership with state := .removed,roles := [],dropped := Membership.none_dropped }

def expelled (membership : Option Membership) (store : MembershipStore) : MembershipStore :=
  match membership with
  | none => store
  | some current => if current.gone then store else store.put (ended current)

section
variable {organization : OrganizationId} {id : IdentityId} {w : ScimState} {membership : Option Membership}
  {status : IdentityStatus}

theorem expel_run (found : memberOf organization id w = membership) :
    (expel membership).run exec w = (.ok (),{ w with memberships := expelled membership w.memberships }) := by
  cases membership with
  | none => rfl
  | some current =>
    dsimp only [expel,expelled]
    cases standing : current.gone with
    | true => rfl
    | false =>
      have there : current.state ≠ .removed := by simpa [Membership.gone] using standing
      have removed : current.remove = .ok (ended current) := if_neg there
      have saved := MembershipStore.save_found found (show (ended current).key = current.key from rfl)
      rw [removed]
      simp [ask,exec,check,saved]

theorem removeUser_run : (ScimService.removeUser organization id).run exec w =
    let expelled := { w with memberships := expelled (memberOf organization id w) w.memberships }
    match w.identities.changeStatus organization id .deactivated with
    | (.error e,_) => (.error e,expelled)
    | (.ok _,identities) => ScimWorld.removeUser organization id { expelled with identities := identities } := by
  have began := expel_run (rfl : memberOf organization id w = _)
  unfold ScimService.removeUser
  simp only [ask,Prog.bind_eq,Prog.run_perform_bind,exec,Prog.check_ok,Prog.ret_bind]
  rw [show w.memberships.find organization id = memberOf organization id w from rfl,Prog.run_bind,began]
  simp only [Prog.run_perform_bind,exec]
  rcases IdentityStore.changeStatus_cases organization id .deactivated w.identities with ⟨e,same⟩ | ⟨owned,-,-,same⟩
  · rw [same]
    rfl
  · rw [same]
    simp only [Prog.check_ok,Prog.ret_bind,Prog.run_perform_bind,Prog.run_check]
    rfl

theorem unlisted_run (absent : w.users.find organization id = none) :
    ∃ e,(ScimService.removeUser organization id).run exec w = (.error e,{ w with
      memberships := expelled (memberOf organization id w) w.memberships
      identities := (w.identities.changeStatus organization id .deactivated).2 }) := by
  rw [removeUser_run]
  rcases IdentityStore.changeStatus_cases organization id .deactivated w.identities with ⟨e,same⟩ | ⟨owned,-,-,same⟩
  · rw [same]
    exact ⟨e,rfl⟩
  · rw [same]
    simp only [ScimWorld.removeUser,Table.remove,absent]
    exact ⟨_,rfl⟩

theorem expelled_same (found : memberOf organization id w = membership) :
    (expelled membership w.memberships).find organization id = membership ↔
      ∀ current,membership = some current → current.state = .removed := by
  cases membership with
  | none => exact ⟨fun _ => nofun,fun _ => found⟩
  | some current =>
    dsimp only [expelled]
    cases standing : current.gone with
    | true =>
      have past : current.state = .removed := by simpa [Membership.gone] using standing
      constructor
      · rintro - _ ⟨⟩
        exact past
      · exact fun _ => found
    | false =>
      have there : current.state ≠ .removed := by simpa [Membership.gone] using standing
      have here : (ended current).key = ⟨organization,id⟩ := show current.key = _ from MembershipStore.find_key found
      simp only [Bool.false_eq_true,if_false,MembershipStore.find_put,here,if_true]
      constructor
      · intro same
        exact absurd (congrArg Membership.state (Option.some.inj same)).symm there
      · intro past
        exact absurd (past current rfl) there

theorem deactivated_same : ((w.identities.changeStatus organization id .deactivated).2.findById organization id).map
      Identity.status = statusOf organization id w ↔
    ∀ status,statusOf organization id w = some status → status = .deactivated ∨ status = .deleted ∨ status = .merged := by
  unfold statusOf IdentityStore.changeStatus IdentityStore.findById
  cases stored : w.identities[id]? with
  | none => simp [stored]
  | some owned =>
    by_cases within : owned.organization = organization
    · cases standing : owned.identity.status <;> simp [stored,within,standing,Identity.changeStatus]
    · simp [stored,within]

end

structure Confined (organization : OrganizationId) (id : IdentityId) (w : ScimState) : Prop where
  fails : ∃ e,((ScimService.removeUser organization id).run exec w).1 = .error e
  status : statusOf organization id ((ScimService.removeUser organization id).run exec w).2 = statusOf organization id w
  member : memberOf organization id ((ScimService.removeUser organization id).run exec w).2 = memberOf organization id w

-- Nobody there to take anything from: no membership, or one that has ended; no identity of the
-- organization, or one that is deactivated or past any change.
structure Ended (organization : OrganizationId) (id : IdentityId) (w : ScimState) : Prop where
  left : ∀ membership,memberOf organization id w = some membership → membership.state = .removed
  closed : ∀ status,statusOf organization id w = some status →
    status = .deactivated ∨ status = .deleted ∨ status = .merged

-- Who is not in the directory is safe from it only after the end.
theorem removal_confined_iff {organization : OrganizationId} {id : IdentityId} {w : ScimState}
    (absent : w.users.find organization id = none) : Confined organization id w ↔ Ended organization id w := by
  obtain ⟨e,ran⟩ := unlisted_run absent
  constructor
  · rintro ⟨-,status,member⟩
    rw [ran] at status member
    exact ⟨(expelled_same rfl).mp member,deactivated_same.mp status⟩
  · rintro ⟨left,closed⟩
    refine ⟨⟨e,congrArg Prod.fst ran⟩,?_,?_⟩
    · rw [ran]
      exact deactivated_same.mpr closed
    · rw [ran]
      exact (expelled_same rfl).mpr left

section

def demoOwner (status : IdentityStatus) (membership : Membership) : ScimState where
  clock _ := 0
  randomness n _ := .ok [UInt8.ofNat (65+n)]
  users := .empty
  groups := .empty
  groupMembers := ∅
  identities := Std.ExtTreeMap.insert ∅ ⟨"opi_E"⟩ ⟨⟨"org"⟩,⟨⟨"opi_E"⟩,.human,status,0⟩⟩
  profiles := .empty
  memberships := MembershipStore.empty.put membership

def demoMembership : Membership := ⟨⟨"org"⟩,⟨"opi_E"⟩,.active,0,[⟨"owner"⟩],Membership.active_dropped⟩

def demoRemoved : Result Unit × ScimState :=
  (ScimService.removeUser ⟨"org"⟩ ⟨"opi_E"⟩).run exec (demoOwner .active demoMembership)

theorem removal_unconfined : (demoOwner .active demoMembership).users.find ⟨"org"⟩ ⟨"opi_E"⟩ = none ∧
    demoRemoved.1 = .error (.plain .notFound) ∧
      statusOf ⟨"org"⟩ ⟨"opi_E"⟩ (demoOwner .active demoMembership) = some .active ∧
        statusOf ⟨"org"⟩ ⟨"opi_E"⟩ demoRemoved.2 = some .deactivated ∧
          memberOf ⟨"org"⟩ ⟨"opi_E"⟩ (demoOwner .active demoMembership) = some demoMembership ∧
            memberOf ⟨"org"⟩ ⟨"opi_E"⟩ demoRemoved.2 = some (ended demoMembership) ∧
              ¬Confined ⟨"org"⟩ ⟨"opi_E"⟩ (demoOwner .active demoMembership) := by
  have status : statusOf ⟨"org"⟩ ⟨"opi_E"⟩ (demoOwner .active demoMembership) = some .active := by decide
  have later : statusOf ⟨"org"⟩ ⟨"opi_E"⟩ demoRemoved.2 = some .deactivated := by decide
  refine ⟨by decide,by decide,status,later,by decide,by decide,?_⟩
  intro confined
  have same : statusOf ⟨"org"⟩ ⟨"opi_E"⟩ demoRemoved.2 = _ := confined.status
  rw [status,later] at same
  cases same

theorem removal_confined_left : Confined ⟨"org"⟩ ⟨"opi_E"⟩ (demoOwner .deactivated (ended demoMembership)) := by
  apply (removal_confined_iff (by decide)).mpr
  constructor
  · intro membership found
    have stored : memberOf ⟨"org"⟩ ⟨"opi_E"⟩ (demoOwner .deactivated (ended demoMembership)) =
        some (ended demoMembership) := by decide
    cases stored.symm.trans found
    rfl
  · intro status found
    have stored : statusOf ⟨"org"⟩ ⟨"opi_E"⟩ (demoOwner .deactivated (ended demoMembership)) = some .deactivated := by
      decide
    cases stored.symm.trans found
    exact .inl rfl

end

end OpenProof.ScimRemovals
