import OpenProof.Identities

namespace OpenProof.Memberships
open Foundation Std Identities

-- Removal drops every role.
structure Membership where
  organization : OrganizationId
  identity : IdentityId
  state : MembershipState
  invitedAt : Instant
  roles : List Role
  dropped : state = .removed → roles = []
  deriving DecidableEq

namespace Membership

theorem none_dropped {state : MembershipState} : state = .removed → ([] : List Role) = [] := fun _ => rfl

theorem active_dropped {roles : List Role} : MembershipState.active = .removed → roles = [] := nofun

theorem suspended_dropped {roles : List Role} : MembershipState.suspended = .removed → roles = [] := nofun

def invite (organization : OrganizationId) (identity : IdentityId) (invitedAt : Instant) : Result Membership :=
  if organization.empty then fail .invalidArgument "A membership must name an organization."
  else if identity.empty then fail .invalidArgument "A membership must name an identity."
  else .ok ⟨organization,identity,.invited,invitedAt,[],none_dropped⟩

variable (membership : Membership)

def withState (state : MembershipState) (dropped : state = .removed → membership.roles = []) : Membership :=
  { membership with state := state,dropped := dropped }

def accept : Result Membership :=
  if membership.state ≠ .invited then fail .failedPrecondition "This invitation is no longer open."
  else .ok (membership.withState .active active_dropped)

def suspend : Result Membership :=
  if membership.state ≠ .active then fail .failedPrecondition "Only an active membership can be suspended."
  else .ok (membership.withState .suspended suspended_dropped)

def reinstate : Result Membership :=
  if membership.state ≠ .suspended then fail .failedPrecondition "Only a suspended membership can be reinstated."
  else .ok (membership.withState .active active_dropped)

def remove : Result Membership :=
  if membership.state = .removed then fail .failedPrecondition "This membership has already been removed."
  else .ok { membership with state := .removed,roles := [],dropped := none_dropped }

def gone : Bool := membership.state == .removed

variable {membership}

theorem suspend_spec (done : membership.suspend = .ok changed) :
    membership.state = .active ∧ changed = membership.withState .suspended suspended_dropped := by
  unfold suspend at done
  split at done
  · cases done
  · rename_i active
    cases done
    exact ⟨not_not.mp active,rfl⟩

theorem reinstate_spec (done : membership.reinstate = .ok changed) :
    membership.state = .suspended ∧ changed = membership.withState .active active_dropped := by
  unfold reinstate at done
  split at done
  · cases done
  · rename_i suspended
    cases done
    exact ⟨not_not.mp suspended,rfl⟩

theorem remove_spec (done : membership.remove = .ok changed) : membership.state ≠ .removed ∧
    changed = { membership with state := .removed,roles := [],dropped := none_dropped } := by
  unfold remove at done
  split at done
  · cases done
  · rename_i there
    cases done
    exact ⟨there,rfl⟩

end Membership

structure MemberKey where
  organization : OrganizationId
  identity : IdentityId
  deriving DecidableEq

instance memberKeyOrd : Ord MemberKey :=
  ⟨compareLex (compareOn MemberKey.organization) (compareOn MemberKey.identity)⟩
instance memberKeyTransOrd : TransOrd MemberKey :=
  inferInstanceAs (TransCmp (compareLex (compareOn MemberKey.organization) (compareOn MemberKey.identity)))
instance memberKeyLawfulEqOrd : LawfulEqOrd MemberKey where
  compare_self {a} := (ReflCmp.compare_self :
    compareLex (compareOn MemberKey.organization) (compareOn MemberKey.identity) a a = .eq)
  eq_of_compare {a b} equal := by
    obtain ⟨first,second⟩ := Ordering.then_eq_eq.mp equal
    cases a
    cases b
    exact congrArg₂ MemberKey.mk (LawfulEqOrd.eq_of_compare first) (LawfulEqOrd.eq_of_compare second)

def Membership.key (membership : Membership) : MemberKey := ⟨membership.organization,membership.identity⟩

-- `InMemoryMembershipRepository`; each method holds the mutex for its whole body.
structure MembershipStore where
  entries : Map MemberKey Membership
  keyed : ∀ (key : MemberKey) (membership : Membership),entries[key]? = some membership → membership.key = key

namespace MembershipStore

theorem empty_keyed : ∀ (key : MemberKey) (membership : Membership),
    (∅ : Map MemberKey Membership)[key]? = some membership → membership.key = key := by
  intro key membership found
  simp at found

theorem put_keyed {membership : Membership} {store : MembershipStore} : ∀ (key : MemberKey) (stored : Membership),
    (store.entries.insert membership.key membership)[key]? = some stored → stored.key = key :=
  Map.insert_keyed store.keyed membership

def empty : MembershipStore := ⟨∅,empty_keyed⟩

def put (membership : Membership) (store : MembershipStore) : MembershipStore :=
  ⟨store.entries.insert membership.key membership,put_keyed⟩

def add (membership : Membership) (store : MembershipStore) : Result Unit × MembershipStore :=
  if store.entries.holds membership.key then
    (.error (.of .alreadyExists "That identity is already a member of this organization."
      "A second membership for the same pair would make the member's effective role set ambiguous."),store)
  else (.ok (),store.put membership)

def find (organization : OrganizationId) (identity : IdentityId) (store : MembershipStore) : Option Membership :=
  store.entries[(⟨organization,identity⟩ : MemberKey)]?

def save (membership : Membership) (store : MembershipStore) : Result Unit × MembershipStore :=
  if !store.entries.holds membership.key then (fail .notFound "That membership was not found.",store)
  else (.ok (),store.put membership)

@[simp] theorem find_put (organization : OrganizationId) (identity : IdentityId) (membership : Membership)
    (store : MembershipStore) : (store.put membership).find organization identity =
      if membership.key = ⟨organization,identity⟩ then some membership else store.find organization identity :=
  Map.find_insert ..

theorem find_key {membership : Membership} {store : MembershipStore}
    (found : store.find organization identity = some membership) : membership.key = ⟨organization,identity⟩ :=
  store.keyed _ _ found

theorem add_cases (membership : Membership) (store : MembershipStore) :
    (∃ e,store.add membership = (.error e,store)) ∨ store.find membership.organization membership.identity = none ∧
        store.add membership = (.ok (),store.put membership) := by
  unfold add
  split
  · exact .inl ⟨_,rfl⟩
  · rename_i free
    simp only [Map.holds,Bool.not_eq_true,Option.isSome_eq_false_iff,Option.isNone_iff_eq_none] at free
    exact .inr ⟨free,rfl⟩

theorem save_cases (membership : Membership) (store : MembershipStore) :
    (∃ e,store.save membership = (.error e,store)) ∧ store.find membership.organization membership.identity = none ∨
      (∃ stored,store.find membership.organization membership.identity = some stored) ∧
        store.save membership = (.ok (),store.put membership) := by
  unfold save Map.holds
  cases stored : store.entries[membership.key]? with
  | none => exact .inl ⟨⟨_,rfl⟩,stored⟩
  | some held => exact .inr ⟨⟨held,stored⟩,rfl⟩

theorem save_found {membership changed : Membership} {store : MembershipStore}
    (found : store.find organization identity = some membership) (same : changed.key = membership.key) : store.save changed = (.ok (),store.put changed) := by
  rcases save_cases changed store with ⟨-,absent⟩ | ⟨-,saved⟩
  · have there : store.entries[changed.key]? = some membership := by
      rw [same,find_key found]
      exact found
    have absent : store.entries[changed.key]? = none := absent
    rw [there] at absent
    cases absent
  · exact saved

end MembershipStore

end OpenProof.Memberships
