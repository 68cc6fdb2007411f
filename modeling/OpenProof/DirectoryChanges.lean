import Mathlib.Data.List.Induction
import OpenProof.ExternalIdentities

namespace OpenProof.DirectoryChanges
open Foundation ExternalIdentities Identities List
open Std

inductive DirectoryOp where
  | attach (link : IdentityLink)
  | detach (external : ExternalIdentityRef) (expectedOwner : IdentityId)
  | detachIfAnotherAuthenticationMethod (external : ExternalIdentityRef) (expectedOwner : IdentityId)
      (authenticationProviders : List ProviderId)
  | reassign (external : ExternalIdentityRef) (expectedCurrentOwner newOwner : IdentityId)
  | updatePresentation (external : ExternalIdentityRef)

def DirectoryOp.apply : DirectoryOp → Directory → Result Unit × Directory
  | .attach link => Directory.attach link
  | .detach external expectedOwner => Directory.detach external expectedOwner
  | .detachIfAnotherAuthenticationMethod external expectedOwner authenticationProviders =>
    Directory.detachIfAnotherAuthenticationMethod external expectedOwner authenticationProviders
  | .reassign external expectedCurrentOwner newOwner => Directory.reassign external expectedCurrentOwner newOwner
  | .updatePresentation external => Directory.updatePresentation external

def after (ops : List DirectoryOp) (directory : Directory) : Directory :=
  ops.foldl (fun directory op => (op.apply directory).2) directory

def empty : Directory := ⟨∅,∅⟩

theorem after_append (ops more : List DirectoryOp) (directory : Directory) :
    after (ops ++ more) directory = after more (after ops directory) := foldl_append

-- All that one operation can do to the owner of an account.
inductive Hand (key : ExternalKey) : DirectoryOp → Option IdentityId → Option IdentityId → Prop where
  | kept {op : DirectoryOp} {owner : Option IdentityId} : Hand key op owner owner
  | given {link : IdentityLink} (linked : link.state = .linked) (same : link.external.key = key) :
      Hand key (.attach link) none (some link.owner)
  | released {external : ExternalIdentityRef} {owner : IdentityId} (same : external.key = key) :
      Hand key (.detach external owner) (some owner) none
  | spared {external : ExternalIdentityRef} {owner : IdentityId} {providers : List ProviderId}
      (same : external.key = key) :
      Hand key (.detachIfAnotherAuthenticationMethod external owner providers) (some owner) none
  | passed {external : ExternalIdentityRef} {owner next : IdentityId} (same : external.key = key) :
      Hand key (.reassign external owner next) (some owner) (some next)

section
variable {key : ExternalKey} {directory : Directory} {providers : List ProviderId}

theorem attach_hand : Hand key (.attach link) directory.owners[key]? (directory.attach link).2.owners[key]? := by
  unfold Directory.attach
  split
  · exact .kept
  · rename_i linked
    split
    · split <;> exact .kept
    · rename_i free
      rw [Map.find_insert]
      split
      · rename_i same
        rw [← same,free]
        exact .given (not_not.mp linked) rfl
      · exact .kept

theorem detach_hand :
    Hand key (.detach external owner) directory.owners[key]? (directory.detach external owner).2.owners[key]? := by
  unfold Directory.detach
  split
  · exact .kept
  · rename_i held found
    split
    · exact .kept
    · rename_i expected
      rw [Map.find_erase]
      split
      · rename_i same
        rw [← same,found,not_not.mp expected]
        exact .released rfl
      · exact .kept

theorem detachIfAnother_hand :
    Hand key (.detachIfAnotherAuthenticationMethod external owner providers) directory.owners[key]?
      (directory.detachIfAnotherAuthenticationMethod external owner providers).2.owners[key]? := by
  unfold Directory.detachIfAnotherAuthenticationMethod
  split
  · exact .kept
  · rename_i held found
    split
    · exact .kept
    · rename_i expected
      split
      · exact .kept
      · rw [Map.find_erase]
        split
        · rename_i same
          rw [← same,found,not_not.mp expected]
          exact .spared rfl
        · exact .kept

theorem reassign_hand {next} : Hand key (.reassign external owner next) directory.owners[key]?
    (directory.reassign external owner next).2.owners[key]? := by
  unfold Directory.reassign
  split
  · exact .kept
  · rename_i held found
    split
    · exact .kept
    · rename_i expected
      rw [Map.find_insert]
      split
      · rename_i same
        rw [← same,found,not_not.mp expected]
        exact .passed rfl
      · exact .kept

theorem updatePresentation_owners : (directory.updatePresentation external).2.owners = directory.owners := by
  unfold Directory.updatePresentation
  split
  · rfl
  · split <;> rfl

theorem apply_hand (op : DirectoryOp) : Hand key op directory.owners[key]? (op.apply directory).2.owners[key]? := by
  cases op with
  | attach link => exact attach_hand
  | detach external owner => exact detach_hand
  | detachIfAnotherAuthenticationMethod external owner providers => exact detachIfAnother_hand
  | reassign external owner next => exact reassign_hand
  | updatePresentation external =>
    rw [DirectoryOp.apply,updatePresentation_owners]
    exact .kept

end

structure Presented (directory : Directory) : Prop where
  shown : ∀ key : ExternalKey,directory.presentations[key]?.isSome = directory.owners[key]?.isSome
  named : ∀ (key : ExternalKey) (external : ExternalIdentityRef),
    directory.presentations[key]? = some external → external.key = key

section
variable {directory : Directory} {providers : List ProviderId}

section
variable (presented : Presented directory)
include presented

theorem Presented.insert {key : ExternalKey} (named : external.key = key)
    (owned : ∀ other : ExternalKey,owners[other]?.isSome = (other = key || directory.owners[other]?.isSome)) :
    Presented ⟨owners,directory.presentations.insert key external⟩ := by
  constructor
  · intro other
    rw [owned other,← presented.shown other,Map.find_insert]
    by_cases same : key = other
    · simp [same]
    · simp [same,Ne.symm same]
  · intro other shown found
    rcases Map.insert_cases found with ⟨same,rfl⟩ | before
    · exact named.trans same
    · exact presented.named other shown before

theorem Presented.erase (key : ExternalKey) :
    Presented ⟨directory.owners.erase key,directory.presentations.erase key⟩ := by
  constructor
  · intro other
    simp only [Map.find_erase]
    split
    · rfl
    · exact presented.shown other
  · intro other shown found
    exact presented.named other shown (Map.erase_cases found)

theorem Presented.attach : Presented (directory.attach link).2 := by
  unfold Directory.attach
  split
  · exact presented
  · split
    · split <;> exact presented
    · refine presented.insert rfl fun key => ?_
      rw [Map.find_insert]
      by_cases same : link.external.key = key
      · simp [same]
      · simp [same,Ne.symm same]

theorem Presented.detach : Presented (directory.detach external owner).2 := by
  unfold Directory.detach
  split
  · exact presented
  · split
    · exact presented
    · exact presented.erase _

theorem Presented.detachIfAnother :
    Presented (directory.detachIfAnotherAuthenticationMethod external owner providers).2 := by
  unfold Directory.detachIfAnotherAuthenticationMethod
  split
  · exact presented
  · split
    · exact presented
    · split
      · exact presented
      · exact presented.erase _

theorem Presented.reassign {next} : Presented (directory.reassign external owner next).2 := by
  unfold Directory.reassign
  split
  · exact presented
  · rename_i held found
    split
    · exact presented
    · refine ⟨fun key => ?_,presented.named⟩
      rw [Map.find_insert,presented.shown key]
      split
      · rename_i same
        rw [← same,found]
        rfl
      · rfl

theorem Presented.updatePresentation : Presented (directory.updatePresentation external).2 := by
  have owned : directory.owners.holds external.key = true → ∀ key : ExternalKey,
      directory.owners[key]?.isSome = (key = external.key || directory.owners[key]?.isSome) := by
    intro held key
    by_cases same : key = external.key
    · simpa [same,Map.holds] using held
    · simp [same]
  unfold Directory.updatePresentation
  split
  · exact presented
  · rename_i held
    have held : directory.owners.holds external.key = true := by simpa using held
    split
    · exact presented.insert rfl (owned held)
    · exact presented.insert rfl (owned held)

theorem Presented.apply (op : DirectoryOp) : Presented (op.apply directory).2 := by
  cases op with
  | attach link => exact presented.attach
  | detach external owner => exact presented.detach
  | detachIfAnotherAuthenticationMethod external owner providers => exact presented.detachIfAnother
  | reassign external owner next => exact presented.reassign
  | updatePresentation external => exact presented.updatePresentation

theorem Presented.after (ops : List DirectoryOp) : Presented (after ops directory) := by
  induction ops generalizing directory with
  | nil => exact presented
  | cons op ops ih => exact ih (presented.apply op)

end

theorem empty_presented : Presented empty := by
  constructor
  · intro key
    simp [empty]
  · intro key external found
    simp [empty] at found

theorem listed_key {key : ExternalKey} (presented : Presented directory) :
    (directory.presentations[key]?.getD ⟨key.provider,key.subject,none,none,none⟩).key = key := by
  cases shown : directory.presentations[key]? with
  | none => rfl
  | some external => exact presented.named key external shown

theorem listed_owned (presented : Presented directory) (listed : external ∈ directory.externalIdentitiesOf owner) :
    directory.owners[external.key]? = some owner := by
  obtain ⟨entry,inside,rfl⟩ := mem_map.mp listed
  obtain ⟨found,mine⟩ := mem_filter.mp inside
  rw [listed_key presented,ExtTreeMap.mem_toList_iff_getElem?_eq_some.mp found,beq_iff_eq.mp mine]

theorem owned_listed {key : ExternalKey} (presented : Presented directory)
    (owned : directory.owners[key]? = some owner) : ∃ external ∈ directory.externalIdentitiesOf owner,external.key = key := by
  refine ⟨_,mem_map.mpr ⟨(key,owner),mem_filter.mpr ⟨?_,beq_self_eq_true owner⟩,rfl⟩,listed_key presented⟩
  exact ExtTreeMap.mem_toList_iff_getElem?_eq_some.mpr owned

theorem distinct_keys (owned : (ExternalKey × IdentityId) → Bool) (owners : Map ExternalKey IdentityId) :
    (owners.toList.filter owned).Pairwise fun one two => one.1 ≠ two.1 := by
  refine (ExtTreeMap.distinct_keys_toList.filter owned).imp fun apart same => apart ?_
  rw [same]
  exact ReflCmp.compare_self

theorem listing_distinct (presented : Presented directory) :
    ((directory.externalIdentitiesOf owner).map ExternalIdentityRef.key).Nodup := by
  apply pairwise_map.mpr
  apply pairwise_map.mpr
  refine (distinct_keys _ directory.owners).imp fun apart => ?_
  rw [listed_key presented,listed_key presented]
  exact apart

theorem another_method (key : ExternalKey) (more : 1 < directory.methods owner providers) :
    ∃ other : ExternalKey,other ≠ key ∧ directory.owners[other]? = some owner ∧ other.provider ∈ providers := by
  have chosen : ∀ entry ∈ directory.owners.toList.filter fun entry =>
      entry.2 == owner && providers.contains entry.1.provider,
      directory.owners[entry.1]? = some owner ∧ entry.1.provider ∈ providers := by
    intro entry inside
    obtain ⟨found,mine⟩ := mem_filter.mp inside
    simp only [Bool.and_eq_true,beq_iff_eq,contains_iff_mem] at mine
    exact ⟨by rw [ExtTreeMap.mem_toList_iff_getElem?_eq_some.mp found,mine.1],mine.2⟩
  have apart := distinct_keys (fun entry => entry.2 == owner && providers.contains entry.1.provider) directory.owners
  unfold Directory.methods at more
  generalize directory.owners.toList.filter (fun entry =>
    entry.2 == owner && providers.contains entry.1.provider) = entries at chosen apart more
  rcases entries with _ | ⟨one,_ | ⟨two,rest⟩⟩
  · cases more
  · exact absurd more (Nat.lt_irrefl 1)
  · by_cases same : one.1 = key
    · refine ⟨two.1,?_,chosen two (by simp)⟩
      rintro rfl
      exact (pairwise_cons.mp apart).1 two mem_cons_self same
    · exact ⟨one.1,same,chosen one mem_cons_self⟩

end

inductive Releases (key : ExternalKey) (owner : IdentityId) : DirectoryOp → Prop where
  | detach {external : ExternalIdentityRef} (same : external.key = key) : Releases key owner (.detach external owner)
  | spared {external : ExternalIdentityRef} {providers : List ProviderId} (same : external.key = key) :
      Releases key owner (.detachIfAnotherAuthenticationMethod external owner providers)

inductive Released (key : ExternalKey) (directory : Directory) : List DirectoryOp → Prop where
  | by_owner {first rest : List DirectoryOp} {release : DirectoryOp} {current : IdentityId}
      (owned : (after first directory).owners[key]? = some current) (releases : Releases key current release)
      (gone : (release.apply (after first directory)).2.owners[key]? = none) :
      Released key directory (first ++ release :: rest)

-- How an identity comes to own an account that was another's when the operations began.
inductive Acquired (key : ExternalKey) (identity : IdentityId) (directory : Directory) : List DirectoryOp → Prop where
  | reassigned {first rest : List DirectoryOp} {external : ExternalIdentityRef} {current : IdentityId}
      (same : external.key = key) (owned : (after first directory).owners[key]? = some current) :
      Acquired key identity directory (first ++ .reassign external current identity :: rest)
  | reattached {first rest : List DirectoryOp} {link : IdentityLink} (released : Released key directory first)
      (same : link.external.key = key) (mine : link.owner = identity) :
      Acquired key identity directory (first ++ .attach link :: rest)

-- What is left when a method may go only where another one stays.
inductive Guarded (providers : List ProviderId) : DirectoryOp → Prop where
  | attach (link : IdentityLink) : Guarded providers (.attach link)
  | spared (external : ExternalIdentityRef) (owner : IdentityId) :
      Guarded providers (.detachIfAnotherAuthenticationMethod external owner providers)
  | updatePresentation (external : ExternalIdentityRef) : Guarded providers (.updatePresentation external)

def SignsIn (providers : List ProviderId) (identity : IdentityId) (directory : Directory) : Prop :=
  ∃ key : ExternalKey,directory.owners[key]? = some identity ∧ key.provider ∈ providers

section
variable {key : ExternalKey} {directory : Directory} {ops : List DirectoryOp} {one two identity : IdentityId}
  {providers : List ProviderId}

theorem Released.more (released : Released key directory ops) (op : DirectoryOp) :
    Released key directory (ops ++ [op]) := by
  cases released with
  | by_owner owned releases gone =>
    rw [append_assoc]
    exact .by_owner owned releases gone

theorem Acquired.more (acquired : Acquired key identity directory ops) (op : DirectoryOp) :
    Acquired key identity directory (ops ++ [op]) := by
  cases acquired with
  | reassigned same owned =>
    rw [append_assoc]
    exact .reassigned same owned
  | reattached released same mine =>
    rw [append_assoc]
    exact .reattached released same mine

theorem after_last : after (ops ++ [op]) directory = (op.apply (after ops directory)).2 :=
  after_append ops [op] directory

theorem released_between (owned : directory.owners[key]? = some one)
    (free : (after ops directory).owners[key]? = none) : Released key directory ops := by
  induction ops using reverseRecOn with
  | nil =>
    rw [show directory.owners[key]? = none from free] at owned
    cases owned
  | append_singleton ops op ih =>
    rw [after_last] at free
    have hand : Hand key op (after ops directory).owners[key]? _ := apply_hand op
    have gone := free
    rw [free] at hand
    generalize held : (after ops directory).owners[key]? = owner at hand
    cases hand with
    | kept => exact (ih held).more op
    | released same => exact .by_owner held (.detach same) gone
    | spared same => exact .by_owner held (.spared same) gone

theorem acquired_between (owned : directory.owners[key]? = some one)
    (later : (after ops directory).owners[key]? = some two) (apart : one ≠ two) : Acquired key two directory ops := by
  induction ops using reverseRecOn generalizing two with
  | nil =>
    rw [show directory.owners[key]? = some two from later] at owned
    cases owned
    exact absurd rfl apart
  | append_singleton ops op ih =>
    rw [after_last] at later
    have hand : Hand key op (after ops directory).owners[key]? _ := apply_hand op
    rw [later] at hand
    generalize held : (after ops directory).owners[key]? = owner at hand
    cases hand with
    | kept => exact (ih held apart).more op
    | given linked same => exact .reattached (released_between owned held) same rfl
    | passed same => exact .reassigned same held

theorem spared_signsIn {external : ExternalIdentityRef} {owner : IdentityId} (able : SignsIn providers identity directory) :
    SignsIn providers identity (directory.detachIfAnotherAuthenticationMethod external owner providers).2 := by
  obtain ⟨key,owned,listed⟩ := able
  unfold Directory.detachIfAnotherAuthenticationMethod
  split
  · exact ⟨key,owned,listed⟩
  · rename_i held found
    split
    · exact ⟨key,owned,listed⟩
    · rename_i expected
      split
      · exact ⟨key,owned,listed⟩
      · rename_i several
        by_cases mine : owner = identity
        · obtain ⟨other,apart,owned,listed⟩ := another_method external.key (Nat.lt_of_not_le several)
          refine ⟨other,?_,listed⟩
          rw [Map.find_erase,if_neg apart.symm,owned,mine]
        · refine ⟨key,?_,listed⟩
          rw [Map.find_erase,if_neg,owned]
          rintro rfl
          rw [owned] at found
          cases found
          exact mine (not_not.mp expected).symm

theorem guarded_signsIn (guarded : Guarded providers op) (able : SignsIn providers identity directory) :
    SignsIn providers identity (op.apply directory).2 := by
  cases guarded with
  | attach link =>
    obtain ⟨key,owned,listed⟩ := able
    have hand : Hand key (.attach link) directory.owners[key]? _ := attach_hand
    rw [owned] at hand
    refine ⟨key,?_,listed⟩
    generalize later : (directory.attach link).2.owners[key]? = owner at hand
    cases hand with
    | kept => exact later
  | spared external owner => exact spared_signsIn able
  | updatePresentation external =>
    obtain ⟨key,owned,listed⟩ := able
    exact ⟨key,by rw [DirectoryOp.apply,updatePresentation_owners,owned],listed⟩

theorem guarded_run (guarded : ∀ op ∈ ops,Guarded providers op) (able : SignsIn providers identity directory) :
    SignsIn providers identity (after ops directory) := by
  induction ops generalizing directory with
  | nil => exact able
  | cons op ops ih =>
    exact ih (fun later inside => guarded later (mem_cons_of_mem op inside))
      (guarded_signsIn (guarded op mem_cons_self) able)

end

-- Whatever has been asked of a directory that was empty: every account is listed for one
-- identity, goes over only from the one that is named, and is presented only while it is
-- owned; and whoever can sign in still can while methods go by the guarded call alone.
theorem ownership_guarded (ops : List DirectoryOp) :
    (∀ one two a b,one ∈ (after ops empty).externalIdentitiesOf a → two ∈ (after ops empty).externalIdentitiesOf b →
      one.key = two.key → a = b) ∧ (∀ key a more,(after ops empty).owners[key]? = some a →
      ((after more (after ops empty)).owners[key]? = none → Released key (after ops empty) more) ∧
      ∀ b,(after more (after ops empty)).owners[key]? = some b → a ≠ b → Acquired key b (after ops empty) more) ∧
    (∀ key : ExternalKey,(after ops empty).presentations.holds key → (after ops empty).owners.holds key) ∧
    ∀ providers more identity,(∀ op ∈ more,Guarded providers op) → SignsIn providers identity (after ops empty) →
      SignsIn providers identity (after more (after ops empty)) := by
  have presented := empty_presented.after ops
  refine ⟨?_,?_,?_,?_⟩
  · intro one two a b first second same
    have owned := listed_owned presented first
    rw [same,listed_owned presented second] at owned
    exact (Option.some.inj owned).symm
  · intro key a more owned
    exact ⟨released_between owned,fun b later => acquired_between owned later⟩
  · intro key shown
    rwa [Map.holds,← presented.shown key]
  · intro providers more identity guarded able
    exact guarded_run guarded able

end OpenProof.DirectoryChanges
