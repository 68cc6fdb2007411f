import OpenProof.DirectoryChanges
import OpenProof.IdentityMerges
import OpenProof.SoloCalls

namespace OpenProof.MergeOutcomes
open CallLogs SoloCalls Foundation ExternalIdentities AuthenticationWorld IdentityMerges DirectoryChanges
open Identities

-- Stores that may fail: while there is trouble it is all they answer, and nothing is written.
structure Shaky where
  state : AuthState
  trouble : Option Error

def failure : (op : MergeOp) → Error → Option op.Ret
  | .auth (.findById ..),e => some (.error e)
  | .auth (.changeStatus ..),e => some (.error e)
  | .externalIdentitiesOf _,e => some (.error e)
  | .reassign ..,e => some (.error e)
  | .auth _,_ => none

def falter (sha256 : Text → Result Sha256Digest) (op : MergeOp) (w : Shaky) : op.Ret × Shaky :=
  match w.trouble.bind (failure op) with
  | some answer => (answer,w)
  | none => ((execMerge sha256 op w.state).1,{ w with state := (execMerge sha256 op w.state).2 })

def shaken (sha256 : Text → Result Sha256Digest) : Stage MergeOp MergeOp.Ret Shaky where
  exec := falter sha256
  drift before after := after.state = before.state

-- Some accounts have gone from the source to the target, and nothing else has changed.
structure Partway (merge : IdentityMerge) (keys : List ExternalKey) (before after : AuthState) : Prop where
  owners : ∀ key : ExternalKey,after.directory.owners[key]? =
    if key ∈ keys then some merge.target else before.directory.owners[key]?
  taken : ∀ key ∈ keys,before.directory.owners[key]? = some merge.source
  presentations : after.directory.presentations = before.directory.presentations
  identities : after.identities = before.identities

-- What the source had is the target's, and what is anybody else's stays with him.
structure Inherits (merge : IdentityMerge) (before after : AuthState) : Prop where
  emptied : ∀ key : ExternalKey,after.directory.owners[key]? ≠ some merge.source
  united : ∀ key : ExternalKey,after.directory.owners[key]? = some merge.target ↔
    before.directory.owners[key]? = some merge.source ∨ before.directory.owners[key]? = some merge.target
  others : ∀ (key : ExternalKey) (identity : IdentityId),identity ≠ merge.source → identity ≠ merge.target →
    (after.directory.owners[key]? = some identity ↔ before.directory.owners[key]? = some identity)
  presentations : after.directory.presentations = before.directory.presentations

structure Absorbed (merge : IdentityMerge) (record : MergeRecord) (before after : AuthState) : Prop
    extends Inherits merge before after where
  distinct : (record.movedAssociations.map ExternalIdentityRef.key).Nodup
  moved : ∀ key : ExternalKey,key ∈ record.movedAssociations.map ExternalIdentityRef.key ↔
    before.directory.owners[key]? = some merge.source
  retired : ∃ owned,before.identities[merge.source]? = some owned ∧ owned.organization = merge.organization ∧
    after.identities[merge.source]? = some { owned with identity := { owned.identity with status := .merged } }
  untouched : ∀ id : IdentityId,id ≠ merge.source → after.identities[id]? = before.identities[id]?

section
variable {sha256 : Text → Result Sha256Digest} {merge : IdentityMerge} {keys more : List ExternalKey}
  {before middle later : AuthState} {w : Shaky} {source target id : IdentityId}

theorem Partway.refl : Partway merge [] before before := ⟨fun _ => rfl,List.forall_mem_nil _,rfl,rfl⟩

theorem Partway.trans (one : Partway merge keys before middle) (two : Partway merge more middle later) :
    Partway merge (keys ++ more) before later := by
  refine ⟨?_,?_,two.presentations.trans one.presentations,two.identities.trans one.identities⟩
  · intro key
    rw [two.owners key,one.owners key]
    by_cases late : key ∈ more <;> by_cases early : key ∈ keys <;> simp [late,early]
  · intro key inside
    rcases List.mem_append.mp inside with early | late
    · exact one.taken key early
    · have owned := two.taken key late
      rw [one.owners key] at owned
      split at owned
      · exact absurd (Option.some.inj owned).symm merge.apart
      · exact owned

theorem Partway.presented (partway : Partway merge keys before later) (presented : Presented before.directory) :
    Presented later.directory := by
  constructor
  · intro key
    rw [partway.presentations,presented.shown key,partway.owners key]
    split
    · rename_i inside
      rw [partway.taken key inside]
      rfl
    · rfl
  · intro key external found
    rw [partway.presentations] at found
    exact presented.named key external found

theorem Partway.inherits (partway : Partway merge keys before later)
    (whole : ∀ key : ExternalKey,before.directory.owners[key]? = some merge.source → key ∈ keys) :
    Inherits merge before later := by
  have apart := merge.apart
  refine ⟨?_,?_,?_,partway.presentations⟩
  · intro key owned
    rw [partway.owners key] at owned
    split at owned
    · exact apart (Option.some.inj owned).symm
    · rename_i outside
      exact outside (whole key owned)
  · intro key
    rw [partway.owners key]
    split
    · rename_i inside
      simp [partway.taken key inside]
    · rename_i outside
      constructor
      · exact .inr
      · intro either
        rcases either with mine | his
        · exact absurd (whole key mine) outside
        · exact his
  · intro key identity foreign other
    rw [partway.owners key]
    split
    · rename_i inside
      rw [partway.taken key inside]
      simp [Ne.symm foreign,Ne.symm other]
    · exact Iff.rfl

theorem Inherits.after_partway (partway : Partway merge keys before middle) (inherits : Inherits merge middle later) :
    Inherits merge before later := by
  have apart := merge.apart
  refine ⟨inherits.emptied,?_,?_,inherits.presentations.trans partway.presentations⟩
  · intro key
    rw [inherits.united key,partway.owners key]
    split
    · rename_i inside
      simp [partway.taken key inside]
    · exact Iff.rfl
  · intro key identity foreign other
    rw [inherits.others key identity foreign other,partway.owners key]
    split
    · rename_i inside
      rw [partway.taken key inside]
      simp [Ne.symm foreign,Ne.symm other]
    · exact Iff.rfl

theorem falter_cases (sha256 : Text → Result Sha256Digest) (op : MergeOp) (w : Shaky) : (∃ e,failure op e = some (falter sha256 op w).1) ∧ (falter sha256 op w).2 = w ∨
    falter sha256 op w = ((execMerge sha256 op w.state).1,{ w with state := (execMerge sha256 op w.state).2 }) := by
  unfold falter
  cases refused : w.trouble.bind (failure op) with
  | none => exact .inr rfl
  | some answer =>
    obtain ⟨e,-,same⟩ := Option.bind_eq_some_iff.mp refused
    exact .inl ⟨⟨e,same⟩,rfl⟩

theorem falter_found (sha256 : Text → Result Sha256Digest) (organization : OrganizationId) (id : IdentityId) (w : Shaky) :
    (falter sha256 (.auth (.findById organization id)) w).2 = w ∧ ∀ found,
    (falter sha256 (.auth (.findById organization id)) w).1 = .ok found →
      found = w.state.identities.findById organization id := by
  rcases falter_cases sha256 (.auth (.findById organization id)) w with ⟨⟨e,refused⟩,same⟩ | answered
  · refine ⟨same,fun found done => ?_⟩
    rw [done] at refused
    cases refused
  · rw [answered]
    exact ⟨rfl,fun found done => (Except.ok.inj done).symm⟩

theorem falter_listed (sha256 : Text → Result Sha256Digest) (id : IdentityId) (w : Shaky) : (falter sha256 (.externalIdentitiesOf id) w).2 = w ∧ ∀ listed,
    (falter sha256 (.externalIdentitiesOf id) w).1 = .ok listed → listed = w.state.directory.externalIdentitiesOf id := by
  rcases falter_cases sha256 (.externalIdentitiesOf id) w with ⟨⟨e,refused⟩,same⟩ | answered
  · refine ⟨same,fun listed done => ?_⟩
    rw [done] at refused
    cases refused
  · rw [answered]
    exact ⟨rfl,fun listed done => (Except.ok.inj done).symm⟩

theorem falter_reassigned (sha256 : Text → Result Sha256Digest) (merge : IdentityMerge) (external : ExternalIdentityRef)
    (w : Shaky) : (∃ e,falter sha256 (.reassign external merge.source merge.target) w = (.error e,w)) ∨
    (falter sha256 (.reassign external merge.source merge.target) w).1 = .ok () ∧
      Partway merge [external.key] w.state (falter sha256 (.reassign external merge.source merge.target) w).2.state := by
  rcases falter_cases sha256 (.reassign external merge.source merge.target) w with ⟨⟨e,refused⟩,same⟩ | answered
  · exact .inl ⟨e,Prod.ext (Option.some.inj refused).symm same⟩
  · rw [answered]
    rcases Directory.reassign_cases external merge.source merge.target w.state.directory with ⟨e,failed⟩ | ⟨owned,done⟩
    · refine .inl ⟨e,?_⟩
      simp only [execMerge,failed]
    · refine .inr ⟨by simp only [execMerge,done],?_⟩
      simp only [execMerge,done]
      refine ⟨?_,?_,rfl,rfl⟩
      · intro key
        simp [eq_comm]
      · intro key inside
        cases List.mem_singleton.mp inside
        exact owned

structure Retired (merge : IdentityMerge) (before after : AuthState) : Prop where
  directory : after.directory = before.directory
  retired : ∃ owned,before.identities[merge.source]? = some owned ∧ owned.organization = merge.organization ∧
    after.identities[merge.source]? = some { owned with identity := { owned.identity with status := .merged } }
  untouched : ∀ id : IdentityId,id ≠ merge.source → after.identities[id]? = before.identities[id]?

theorem falter_retired (sha256 : Text → Result Sha256Digest) (merge : IdentityMerge) (w : Shaky) :
    (∃ e,falter sha256 (.auth (.changeStatus merge.organization merge.source .merged)) w = (.error e,w)) ∨
      (falter sha256 (.auth (.changeStatus merge.organization merge.source .merged)) w).1 = .ok () ∧ Retired merge w.state (falter sha256 (.auth (.changeStatus merge.organization merge.source .merged)) w).2.state := by
  rcases falter_cases sha256 (.auth (.changeStatus merge.organization merge.source .merged)) w with
    ⟨⟨e,refused⟩,same⟩ | answered
  · exact .inl ⟨e,Prod.ext (Option.some.inj refused).symm same⟩
  · rw [answered]
    rcases IdentityStore.changeStatus_cases merge.organization merge.source .merged w.state.identities with
      ⟨e,failed⟩ | ⟨owned,found,within,done⟩
    · refine .inl ⟨e,?_⟩
      simp only [execMerge,exec,failed]
    · refine .inr ⟨by simp only [execMerge,exec,done],?_⟩
      simp only [execMerge,exec,done]
      refine ⟨rfl,⟨owned,found,within,by simp⟩,?_⟩
      intro id other
      simp [Ne.symm other]

end

section
variable {sha256 : Text → Result Sha256Digest} {merge : IdentityMerge} {w : Shaky}

theorem shaken_exec : (shaken sha256).exec = falter sha256 := rfl

theorem moveAll_ends (listed moved : List ExternalIdentityRef) :
    Ends (shaken sha256) (moveAll merge.source merge.target listed moved) w fun r later =>
      ∃ keys,Partway merge keys w.state later.state ∧
        ∀ all,r = .ok all → all = moved ++ listed ∧ keys = listed.map ExternalIdentityRef.key := by
  induction listed generalizing moved w with
  | nil =>
    refine .ret ⟨[],.refl,?_⟩
    intro all same
    cases same
    exact ⟨(List.append_nil moved).symm,rfl⟩
  | cons external rest ih =>
    refine .ask fun v still => ?_
    have same : v.state = w.state := still
    rcases falter_reassigned sha256 merge external v with ⟨e,failed⟩ | ⟨done,partway⟩
    · rw [shaken_exec,failed]
      exact .fail ⟨[],same ▸ .refl,nofun⟩
    · rw [shaken_exec,done]
      rw [same] at partway
      refine (ih (moved ++ [external])).mono ?_
      rintro r later ⟨keys,further,whole⟩
      refine ⟨[external.key] ++ keys,partway.trans further,?_⟩
      intro all finished
      obtain ⟨rfl,rfl⟩ := whole all finished
      exact ⟨List.append_assoc moved [external] rest,rfl⟩

theorem absorb_ends : Ends (shaken sha256) (absorb merge) w fun r later =>
    (∀ e,r = .error e → ∃ keys,Partway merge keys w.state later.state) ∧
    ∀ moved,r = .ok moved → moved = w.state.directory.externalIdentitiesOf merge.source ∧
      ∃ middle,Partway merge (moved.map ExternalIdentityRef.key) w.state middle ∧ Retired merge middle later.state := by
  have unchanged : ∀ {v : Shaky} {e : Error},v.state = w.state →
      (∀ e',(.error e : Except Error (List ExternalIdentityRef)) = .error e' →
        ∃ keys,Partway merge keys w.state v.state) ∧
      ∀ moved,(.error e : Except Error (List ExternalIdentityRef)) = .ok moved →
        moved = w.state.directory.externalIdentitiesOf merge.source ∧
          ∃ middle,Partway merge (moved.map ExternalIdentityRef.key) w.state middle ∧ Retired merge middle v.state :=
    fun same => ⟨fun _ _ => ⟨[],same ▸ .refl⟩,nofun⟩
  refine .ask fun v one => ?_
  rw [shaken_exec,(falter_found sha256 merge.organization merge.source v).1]
  refine .check (fun sourceLookup _ => ?_) fun e _ => unchanged one
  refine .ask fun v two => ?_
  have two := two.trans one
  rw [shaken_exec,(falter_found sha256 merge.organization merge.target v).1]
  refine .check (fun targetLookup _ => ?_) fun e _ => unchanged two
  split
  · refine .refuseIf (fun _ => ?_) fun _ => unchanged two
    refine .ask fun v three => ?_
    have three := three.trans two
    rw [shaken_exec,(falter_listed sha256 merge.source v).1]
    refine .check (fun owned found => ?_) fun e _ => unchanged three
    have listed := (falter_listed sha256 merge.source v).2 owned found
    rw [three] at listed
    refine .bind (moveAll_ends owned []) (fun moved middle moving => ?_) fun e middle moving => ?_
    · obtain ⟨keys,partway,whole⟩ := moving
      obtain ⟨rfl,rfl⟩ := whole moved rfl
      rw [three] at partway
      refine .ask fun v four => ?_
      have four : v.state = middle.state := four
      rcases falter_retired sha256 merge v with ⟨e,failed⟩ | ⟨done,retired⟩
      · rw [shaken_exec,failed]
        exact .fail ⟨fun _ _ => ⟨_,four ▸ partway⟩,nofun⟩
      · rw [shaken_exec,done]
        rw [four] at retired
        refine .ret ⟨nofun,?_⟩
        intro all same
        cases same
        exact ⟨listed,middle.state,partway,retired⟩
    · obtain ⟨keys,partway,-⟩ := moving
      rw [three] at partway
      exact ⟨fun _ _ => ⟨keys,partway⟩,nofun⟩
  · exact .fail (unchanged two)

theorem markApplied_verified (verified : merge.state = .verified) (alive : merge.isExpiredAt now = false) :
    merge.markApplied now = (.ok (),{ merge with state := .applied }) := by
  unfold IdentityMerge.markApplied IdentityMerge.transitionTo
  simp [verified,alive,isTerminalMergeState]

theorem applyMerge_ends (presented : Presented w.state.directory) :
    Ends (shaken sha256) (applyMerge merge now) w fun r later => ∃ result merge',r = .ok (result,merge') ∧
      (∀ e,result = .error e → ∃ keys,Partway merge keys w.state later.state) ∧
      ∀ record,result = .ok record → Absorbed merge record w.state later.state ∧ merge'.state = .applied := by
  unfold applyMerge
  split
  · exact .ret ⟨_,_,rfl,fun _ _ => ⟨[],.refl⟩,nofun⟩
  · rename_i verified
    split
    · exact .ret ⟨_,_,rfl,fun _ _ => ⟨[],.refl⟩,nofun⟩
    · rename_i alive
      refine .bind absorb_ends.attempt (fun outcome middle known => ?_) ?_
      · obtain ⟨outcome',same,partly,whole⟩ := known
        cases same
        cases outcome with
        | error e => exact .ret ⟨_,_,rfl,fun _ _ => partly e rfl,nofun⟩
        | ok moved =>
          obtain ⟨listed,between,partway,retired⟩ := whole moved rfl
          have applied := markApplied_verified (not_not.mp verified) (Bool.eq_false_iff.mpr alive)
          refine .ret ⟨_,_,rfl,?_,?_⟩
          · intro e failed
            rw [applied] at failed
            cases failed
          · intro record done
            rw [applied] at done ⊢
            cases done
            have named : ∀ key : ExternalKey,key ∈ moved.map ExternalIdentityRef.key ↔
                w.state.directory.owners[key]? = some merge.source := by
              intro key
              rw [listed]
              constructor
              · intro inside
                obtain ⟨external,member,rfl⟩ := List.mem_map.mp inside
                exact listed_owned presented member
              · intro owned
                obtain ⟨external,member,rfl⟩ := owned_listed presented owned
                exact List.mem_map_of_mem member
            have inherits := partway.inherits fun key owned => (named key).mpr owned
            have same := retired.directory
            refine ⟨⟨⟨?_,?_,?_,?_⟩,?_,named,?_,?_⟩,rfl⟩
            · rw [same]
              exact inherits.emptied
            · rw [same]
              exact inherits.united
            · rw [same]
              exact inherits.others
            · rw [same]
              exact inherits.presentations
            · dsimp only
              rw [listed]
              exact listing_distinct presented
            · rw [← partway.identities]
              exact retired.retired
            · rw [← partway.identities]
              exact retired.untouched
      · rintro e middle ⟨outcome,impossible,-⟩
        cases impossible

-- Attempts that have failed, one after another, each at whatever step.
inductive Tried (sha256 : Text → Result Sha256Digest) (merge : IdentityMerge) (original : AuthState) : AuthState → Prop where
  | start : Tried sha256 merge original original
  | failed {attempt attempt' : IdentityMerge} {now : Instant} {w later : Shaky} {e : Error} :
      Tried sha256 merge original w.state → attempt.source = merge.source → attempt.target = merge.target →
        Solo (shaken sha256) (applyMerge attempt now) w (.ok (.error e,attempt')) later →
          Tried sha256 merge original later.state

theorem Partway.of_attempt {keys : List ExternalKey} {before after : AuthState}
    (partway : Partway attempt keys before after) (source : attempt.source = merge.source)
    (target : attempt.target = merge.target) : Partway merge keys before after :=
  ⟨target ▸ partway.owners,source ▸ partway.taken,partway.presentations,partway.identities⟩

theorem tried_partway {original middle : AuthState} (presented : Presented original.directory)
    (tried : Tried sha256 merge original middle) : ∃ keys,Partway merge keys original middle := by
  induction tried with
  | start => exact ⟨[],.refl⟩
  | failed _ source target went ih =>
    obtain ⟨keys,partway⟩ := ih
    obtain ⟨result,attempt',same,partly,-⟩ := applyMerge_ends (partway.presented presented) _ _ went
    cases same
    obtain ⟨more,further⟩ := partly _ rfl
    exact ⟨keys ++ more,partway.trans (further.of_attempt source target)⟩

end

-- A merge, alone, at any directory that calls have led to, after any failed attempts:
-- it leaves each account with its owner or takes it from source to target, and when it
-- succeeds the target has all that the two had to begin with.
theorem merge_absorbs {sha256 : Text → Result Sha256Digest} {merge : IdentityMerge} {ops : List DirectoryOp}
    {original : AuthState} {w : Shaky} {now : Instant} (reached : original.directory = after ops empty)
    (tried : Tried sha256 merge original w.state) :
    Ends (shaken sha256) (applyMerge merge now) w fun r later => ∃ result merge',r = .ok (result,merge') ∧
      (∀ e,result = .error e → ∃ keys,Partway merge keys original later.state) ∧ ∀ record,result = .ok record →
        Absorbed merge record w.state later.state ∧ Inherits merge original later.state ∧ merge'.state = .applied := by
  have presented : Presented original.directory := by
    rw [reached]
    exact empty_presented.after ops
  obtain ⟨keys,partway⟩ := tried_partway presented tried
  refine (applyMerge_ends (partway.presented presented)).mono ?_
  rintro r later ⟨result,merge',same,partly,whole⟩
  refine ⟨result,merge',same,?_,?_⟩
  · intro e failed
    obtain ⟨more,further⟩ := partly e failed
    exact ⟨keys ++ more,partway.trans further⟩
  · intro record done
    obtain ⟨absorbed,applied⟩ := whole record done
    exact ⟨absorbed,absorbed.toInherits.after_partway partway,applied⟩

theorem demo_apart : (⟨"old"⟩ : IdentityId) ≠ ⟨"new"⟩ := by
  decide

def demoMerge : IdentityMerge := ⟨⟨"org"⟩,⟨"old"⟩,⟨"new"⟩,.verified,0,100,demo_apart⟩

def demoAccount (subject : Text) : ExternalIdentityRef := ⟨⟨"mail"⟩,⟨subject⟩,none,none,none⟩

def demoLinks : List DirectoryOp :=
  [.attach ⟨⟨"old"⟩,demoAccount "one",0,10,.linked⟩,.attach ⟨⟨"old"⟩,demoAccount "two",0,10,.linked⟩]

def demoBefore : AuthState where
  clock := 5
  randomness _ := .ok "token"
  providers _ := none
  transactions := ∅
  directory := after demoLinks empty
  identities := (Std.ExtTreeMap.insert ∅ ⟨"old"⟩ ⟨⟨"org"⟩,⟨⟨"old"⟩,.human,.active,0⟩⟩).insert ⟨"new"⟩
    ⟨⟨"org"⟩,⟨⟨"new"⟩,.human,.active,0⟩⟩
  profiles := ∅

def demoDigest (_ : Text) : Result Sha256Digest := .ok 0

def calm (w : Shaky) : Shaky := w
def stormy (w : Shaky) : Shaky := { w with trouble := some (.plain .unavailable) }

def demoFailed : Except Error (Result MergeRecord × IdentityMerge) × Shaky :=
  through (falter demoDigest) (applyMerge demoMerge 5) [calm,calm,calm,calm,stormy] ⟨demoBefore,none⟩

def demoRetried : Except Error (Result MergeRecord × IdentityMerge) × Shaky :=
  (applyMerge demoMerge 6).run (falter demoDigest) ⟨demoFailed.2.state,none⟩

theorem merge_absorbs_retried : ∃ record merge',
    demoFailed.2.state.directory.owners[(demoAccount "one").key]? = some ⟨"new"⟩ ∧
      demoFailed.2.state.directory.owners[(demoAccount "two").key]? = some ⟨"old"⟩ ∧
      demoRetried.1 = .ok (.ok record,merge') ∧ Inherits demoMerge demoBefore demoRetried.2.state := by
  have failing : demoFailed.1.toOption.map (fun a => a.1.toOption.isSome) = some false := by decide
  have retried : demoRetried.1.toOption.map (fun a => a.1.toOption.isSome) = some true := by decide
  have went : Solo (shaken demoDigest) (applyMerge demoMerge 5) ⟨demoBefore,none⟩ demoFailed.1 demoFailed.2 := by
    refine solo_through (fun _ => rfl) ?_
    simp [calm,stormy,shaken]
  obtain ⟨result,attempt',same,-,-⟩ := merge_absorbs rfl .start _ _ went
  cases result with
  | ok record =>
    rw [same] at failing
    cases failing
  | error e =>
    rw [same] at went
    have stopped : Tried demoDigest demoMerge demoBefore demoFailed.2.state := .failed .start rfl rfl went
    have tried : Tried demoDigest demoMerge demoBefore (Shaky.mk demoFailed.2.state none).state := stopped
    have again : Solo (shaken demoDigest) (applyMerge demoMerge 6) ⟨demoFailed.2.state,none⟩ demoRetried.1
      demoRetried.2 := solo_run fun _ => rfl
    obtain ⟨result,merge',same,-,whole⟩ := merge_absorbs rfl tried _ _ again
    cases result with
    | error e =>
      rw [same] at retried
      cases retried
    | ok record => exact ⟨record,merge',by decide,by decide,same,(whole record rfl).2.1⟩

end OpenProof.MergeOutcomes
