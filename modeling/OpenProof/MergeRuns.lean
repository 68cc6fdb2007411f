import OpenProof.DirectoryChanges
import OpenProof.IdentityMerges
import OpenProof.AuthenticationRuns

namespace OpenProof.MergeRuns
open CallTraces CallLogs Foundation AuthenticationTransactions ExternalIdentities List
open AuthenticationWorld AuthenticationService AuthenticationTraces IdentityMerges DirectoryChanges Identities

inductive Outcome where
  | merged (result : Result MergeRecord)
  | other

def merging (merge : IdentityMerge) (now : Instant) : MergeCall Outcome :=
  (applyMerge merge now).bind fun done => .ret (.merged done.1)

def lift : AuthCall α → MergeCall α
  | .ret a => .ret a
  | .fail e => .fail e
  | .call op next => .call (.auth op) fun answer => lift (next answer)

def beside (p : AuthCall α) : MergeCall Outcome := (lift p).bind fun _ => .ret .other

inductive Links : MergeCall Outcome → Prop where
  | connection (a : Authenticator) (transactionId : TransactionId) (continuationToken : Text) (binding : BindingDigest)
      (response : AuthenticationResponse) :
      Links (beside (completeConnection a transactionId continuationToken binding response))
  | attach (link : IdentityLink) : Links (beside (ask (.attach link)))

def mergeStage (sha256 : Text → Result Sha256Digest) : Stage MergeOp MergeOp.Ret AuthState where
  exec := execMerge sha256
  drift before after := after.directory = before.directory ∧ after.identities = before.identities

abbrev MergeFloor := Floor MergeOp MergeOp.Ret Error Outcome AuthState
abbrev MergeEntry := Entry MergeOp MergeOp.Ret AuthState

def Linking : MergeOp → Prop
  | .auth (.add ..) | .auth (.changeStatus ..) => False
  | .auth _ => True
  | _ => False

section

theorem lift_only {p : AuthCall α} (only : p.Only P) (same : ∀ op,P op → Q (.auth op)) : (lift p).Only Q := by
  induction p with
  | ret | fail => trivial
  | call op next ih => exact ⟨same op only.1,fun answer => ih answer (only.2 answer)⟩

def Quiet : AuthOp → Prop
  | .add .. | .changeStatus .. => False
  | _ => True

theorem completeConnection_quiet :
    (completeConnection a transactionId continuationToken binding response).Only Quiet := by
  have quiet : ∀ op,Plain op → Quiet op := by
    intro op plain
    cases op <;> first | exact plain | trivial
  refine .bind (.bind (.perform trivial) fun now => .bind (.perform trivial) fun answer => .bind (.check _ _)
    fun transaction => completeConsumed_plain.weaken quiet) fun exchange => ?_
  split
  · trivial
  · exact connect_plain.weaken quiet

theorem Links.only (links : Links p) : p.Only Linking := by
  have quiet : ∀ op,Quiet op → Linking (.auth op) := by
    intro op quiet
    cases op <;> trivial
  cases links with
  | connection a transactionId continuationToken binding response =>
    exact (lift_only completeConnection_quiet quiet).bind fun _ => trivial
  | attach link => exact ⟨trivial,fun answer => trivial⟩

end

inductive Merges (merge : IdentityMerge) : MergeOp → Prop where
  | found (id : IdentityId) : Merges merge (.auth (.findById merge.organization id))
  | listed : Merges merge (.externalIdentitiesOf merge.source)
  | moved (external : ExternalIdentityRef) : Merges merge (.reassign external merge.source merge.target)
  | retired : Merges merge (.auth (.changeStatus merge.organization merge.source .merged))

def mergeSteps (merge : IdentityMerge) (source target : Identity) (listed : List ExternalIdentityRef) :
    List (Exchange MergeOp MergeOp.Ret) :=
  [⟨.auth (.findById merge.organization merge.source),.ok (some source)⟩,
    ⟨.auth (.findById merge.organization merge.target),.ok (some target)⟩,
    ⟨.externalIdentitiesOf merge.source,.ok listed⟩] ++
  (listed.map fun external => ⟨.reassign external merge.source merge.target,.ok ()⟩) ++
  [⟨.auth (.changeStatus merge.organization merge.source .merged),.ok ()⟩]

section
variable {merge : IdentityMerge} {now : Instant}

theorem moveAll_only (listed moved : List ExternalIdentityRef) :
    (moveAll merge.source merge.target listed moved).Only (Merges merge) := by
  induction listed generalizing moved with
  | nil => trivial
  | cons external rest ih => exact .bind (.perform (.moved external)) fun _ => .bind (.check _ _) fun _ => ih _

theorem merging_only : (merging merge now).Only (Merges merge) := by
  have absorbs : (absorb merge).Only (Merges merge) := by
    refine .bind (.perform (.found merge.source)) fun one => .bind (.check _ _) fun source =>
      .bind (.perform (.found merge.target)) fun two => .bind (.check _ _) fun target => ?_
    split
    · exact .bind (.refuseIf _ _ _) fun _ => .bind (.perform .listed) fun answer => .bind (.check _ _) fun owned =>
        .bind (moveAll_only owned []) fun moved => .bind (.perform .retired) fun _ => .bind (.check _ _) fun _ => trivial
    · trivial
  refine .bind ?_ fun done => trivial
  unfold applyMerge
  split
  · trivial
  · split
    · trivial
    · refine .bind absorbs.attempt fun outcome => ?_
      cases outcome <;> trivial

theorem moveAll_yields (listed moved : List ExternalIdentityRef) :
    Yields (moveAll merge.source merge.target listed moved) fun trace all => all = moved ++ listed ∧
      trace = listed.map fun external => ⟨.reassign external merge.source merge.target,.ok ()⟩ := by
  induction listed generalizing moved with
  | nil => exact .ret ⟨(append_nil moved).symm,rfl⟩
  | cons external rest ih =>
    refine .ask fun answer => .check fun done reassigned => ?_
    cases reassigned
    refine (ih (moved ++ [external])).mono ?_
    rintro trace all ⟨rfl,rfl⟩
    exact ⟨append_assoc moved [external] rest,rfl⟩

theorem absorb_yields : Yields (absorb merge) fun trace moved => ∃ source target,
    isTerminalIdentityStatus source.status = false ∧ isTerminalIdentityStatus target.status = false ∧
      trace = mergeSteps merge source target moved := by
  refine .ask fun one => .check fun source first => .ask fun two => .check fun target second => ?_
  cases first
  cases second
  split
  · rename_i source target
    refine .refuseIf fun alive => .ask fun answer => .check fun listed found => ?_
    cases found
    rw [Bool.or_eq_false_iff] at alive
    refine .bind (moveAll_yields listed []) fun trace moved known => ?_
    obtain ⟨rfl,rfl⟩ := known
    refine .ask fun last => .check fun done retired => .ret ?_
    cases retired
    exact ⟨source,target,alive.1,alive.2,rfl⟩
  · exact .fail

theorem merging_yields : Yields (merging merge now) fun trace outcome => ∀ record,outcome = .merged (.ok record) →
    ∃ source target listed,isTerminalIdentityStatus source.status = false ∧
      isTerminalIdentityStatus target.status = false ∧ trace = mergeSteps merge source target listed := by
  have applies : Yields (applyMerge merge now) fun trace done => ∀ record,done.1 = .ok record →
      ∃ source target listed,isTerminalIdentityStatus source.status = false ∧
        isTerminalIdentityStatus target.status = false ∧ trace = mergeSteps merge source target listed := by
    unfold applyMerge
    split
    · exact .ret nofun
    · split
      · exact .ret nofun
      · refine .bind absorb_yields.attempt fun trace outcome known => ?_
        cases outcome with
        | error e => exact .ret nofun
        | ok moved =>
          obtain ⟨source,target,one,two,same⟩ := known moved rfl
          refine .ret fun record _ => ⟨source,target,moved,one,two,?_⟩
          rw [same,append_nil]
  refine .bind applies fun trace done known => .ret ?_
  intro record same
  rw [append_nil]
  exact known record (Outcome.merged.inj same)

end

def directoryOp : MergeOp → Option DirectoryOp
  | .auth (.attach link) => some (.attach link)
  | .auth (.updatePresentation external) => some (.updatePresentation external)
  | .reassign external expectedCurrentOwner newOwner => some (.reassign external expectedCurrentOwner newOwner)
  | _ => none

inductive Shift (merge : IdentityMerge) (key : ExternalKey) : MergeOp → Option IdentityId → Option IdentityId → Prop where
  | kept {op : MergeOp} {owner : Option IdentityId} : Shift merge key op owner owner
  | given {link : IdentityLink} (linked : link.state = .linked) (same : link.external.key = key) :
      Shift merge key (.auth (.attach link)) none (some link.owner)
  | passed {external : ExternalIdentityRef} : Shift merge key (.reassign external merge.source merge.target)
      (some merge.source) (some merge.target)

section
variable {sha256 : Text → Result Sha256Digest} {merge : IdentityMerge}

theorem execMerge_directory : (execMerge sha256 op w).2.directory =
    (directoryOp op).elim w.directory fun change => (change.apply w.directory).2 := by
  cases op with
  | auth op => cases op <;> rfl
  | externalIdentitiesOf | reassign => rfl

theorem linking_shift (linking : Linking op) (key : ExternalKey) :
    Shift merge key op w.directory.owners[key]? (execMerge sha256 op w).2.directory.owners[key]? := by
  rw [execMerge_directory]
  cases op with
  | auth op =>
    cases op with
    | attach link =>
      have hand : Hand key (.attach link) w.directory.owners[key]? _ := apply_hand (.attach link)
      dsimp only [directoryOp,Option.elim_some]
      generalize w.directory.owners[key]? = held,
        ((DirectoryOp.attach link).apply w.directory).2.owners[key]? = owner at hand
      cases hand with
      | kept => exact .kept
      | given linked same => exact .given linked same
    | updatePresentation external =>
      dsimp only [directoryOp,Option.elim_some,DirectoryOp.apply]
      rw [updatePresentation_owners]
      exact .kept
    | _ => exact .kept
  | externalIdentitiesOf | reassign => cases linking

theorem merges_shift (merges : Merges merge op) (key : ExternalKey) :
    Shift merge key op w.directory.owners[key]? (execMerge sha256 op w).2.directory.owners[key]? := by
  rw [execMerge_directory]
  cases merges with
  | moved external =>
    have hand : Hand key (.reassign external merge.source merge.target) w.directory.owners[key]? _ := apply_hand _
    dsimp only [directoryOp,Option.elim_some]
    generalize w.directory.owners[key]? = held,
      ((DirectoryOp.reassign external merge.source merge.target).apply w.directory).2.owners[key]? = owner at hand
    cases hand with
    | kept => exact .kept
    | passed same => exact .passed
  | _ => exact .kept

theorem linking_identities (linking : Linking op) : (execMerge sha256 op w).2.identities = w.identities := by
  cases op with
  | auth op => cases op with
    | add | changeStatus => cases linking
    | _ => rfl
  | externalIdentitiesOf | reassign => cases linking

theorem merges_identities (merges : Merges merge op) (id : IdentityId) (other : id ≠ merge.source) :
    (execMerge sha256 op w).2.identities[id]? = w.identities[id]? := by
  cases merges with
  | retired =>
    dsimp only [execMerge,exec]
    unfold Identities.IdentityStore.changeStatus
    split
    · rfl
    · split
      · rfl
      · split
        · rfl
        · rw [Map.find_insert,if_neg other.symm]
  | _ => rfl

end

structure Lands (link : IdentityLink) (entry : MergeEntry) : Prop where
  attaches : entry.exchange.1 = .auth (.attach link)
  linked : link.state = .linked
  free : entry.found.directory.owners[link.external.key]? = none

-- Nothing is linked to the source once the merge has listed what the source has; nor
-- to somebody else who has been merged away.
structure Timely (i : Nat) (merge : IdentityMerge) (log : List MergeEntry) : Prop where
  early : ∀ (before : List MergeEntry) entry rest link,log = before ++ entry :: rest → Lands link entry → link.owner = merge.source →
    ∀ earlier ∈ before,earlier.caller = i → earlier.exchange.1 ≠ .externalIdentitiesOf merge.source
  live : ∀ entry ∈ log,∀ link owned,Lands link entry → link.owner ≠ merge.source →
    entry.found.identities[link.owner]? = some owned → owned.identity.status ≠ .merged

-- One merge that has come to its end, and any calls that link accounts beside it.
structure Concurrent (sha256 : Text → Result Sha256Digest) (merge : IdentityMerge) (now : Instant) (initial : AuthState)
    (i : Nat) (floor : MergeFloor) : Prop where
  played : Plays (mergeStage sha256) initial floor
  merger : ∃ record,floor.members[i]? = some ⟨merging merge now,.ret (.merged (.ok record))⟩
  links : ∀ j m,floor.members[j]? = some m → j ≠ i → Links m.begun

section
variable {sha256 : Text → Result Sha256Digest} {merge : IdentityMerge} {now : Instant} {initial : AuthState}
  {i : Nat} {floor : MergeFloor}

section
variable (run : Concurrent sha256 merge now initial i floor)
include run

theorem Concurrent.ops : ∀ entry ∈ floor.log,Linking entry.exchange.1 ∨ Merges merge entry.exchange.1 := by
  intro entry inside
  obtain ⟨record,merger⟩ := run.merger
  have entered := run.played.accounted.entered entry inside
  have member := getElem?_eq_getElem entered
  by_cases mine : entry.caller = i
  · exact .inr (run.played.only merger merging_only entry inside mine)
  · exact .inl (run.played.only member (run.links _ _ member mine).only entry inside rfl)

theorem Concurrent.shift (key : ExternalKey) :
    ∀ entry ∈ floor.log,Shift merge key entry.exchange.1 entry.found.directory.owners[key]?
      (execMerge sha256 entry.exchange.1 entry.found).2.directory.owners[key]? := by
  intro entry inside
  rcases run.ops entry inside with linking | merges
  · exact linking_shift linking key
  · exact merges_shift merges key

theorem Concurrent.identities : ∀ entry ∈ floor.log,∀ id : IdentityId,id ≠ merge.source →
      (execMerge sha256 entry.exchange.1 entry.found).2.identities[id]? = entry.found.identities[id]? := by
  intro entry inside id other
  rcases run.ops entry inside with linking | merges
  · rw [linking_identities linking]
  · exact merges_identities merges id other

theorem Concurrent.records (id : IdentityId) (other : id ≠ merge.source) : floor.world.identities[id]? = initial.identities[id]? ∧
      ∀ entry ∈ floor.log,entry.found.identities[id]? = initial.identities[id]? := by
  apply run.played.always (φ:=fun w => w.identities[id]? = initial.identities[id]?)
  · intro w w' same holds
    rw [same.2]
    exact holds
  · rfl
  · intro entry inside holds
    exact (run.identities entry inside id other).trans holds

theorem Concurrent.presented (presented : Presented initial.directory) : ∀ entry ∈ floor.log,Presented entry.found.directory := by
  refine (run.played.always (φ:=fun w => Presented w.directory) ?_ presented ?_).2
  · intro w w' same holds
    rw [same.1]
    exact holds
  · intro entry _ holds
    rw [show (mergeStage sha256).exec = execMerge sha256 from rfl,execMerge_directory]
    cases directoryOp entry.exchange.1 with
    | none => exact holds
    | some change => exact holds.apply change

theorem Concurrent.entries : ∃ (looked listing : MergeEntry) (target : Identity) (listed : List ExternalIdentityRef)
      (first rest : List MergeEntry),floor.log = first ++ listing :: rest ∧ listing.caller = i ∧
        listing.exchange = ⟨.externalIdentitiesOf merge.source,.ok listed⟩ ∧ looked ∈ floor.log ∧
        looked.exchange = ⟨.auth (.findById merge.organization merge.target),.ok (some target)⟩ ∧
        isTerminalIdentityStatus target.status = false ∧ ∀ external ∈ listed,∃ move ∈ floor.log,
          move.exchange = ⟨.reassign external merge.source merge.target,.ok ()⟩ := by
  obtain ⟨record,merger⟩ := run.merger
  obtain ⟨source,target,listed,-,alive,same⟩ := merging_yields _ _ (run.played.returned merger) record rfl
  have inside : (mergeSteps merge source target listed).Sublist (own i floor.log) := same ▸ .refl _
  obtain ⟨entries,told,mine,shown⟩ := sublist_own inside
  simp only [mergeSteps,cons_append,nil_append,map_eq_cons_iff,map_eq_append_iff] at shown
  obtain ⟨_,_,rfl,_,looked,_,rfl,two,listing,_,rfl,three,moves,last,rfl,moved,-⟩ := shown
  obtain ⟨first,rest,split⟩ := append_of_mem (told.subset (show listing ∈ _ by simp))
  refine ⟨looked,listing,target,listed,first,rest,split,mine listing (by simp),three,
    told.subset (by simp),two,alive,?_⟩
  intro external chosen
  have among : (⟨.reassign external merge.source merge.target,.ok ()⟩ : Exchange MergeOp MergeOp.Ret) ∈
      moves.map Entry.exchange := by
    rw [moved]
    exact mem_map_of_mem chosen
  obtain ⟨move,member,same⟩ := mem_map.mp among
  exact ⟨move,told.subset (by simp [member]),same⟩

end

theorem isTerminal_merged (alive : isTerminalIdentityStatus status = false) : status ≠ .merged := by
  rintro rfl
  cases alive

section
variable (run : Concurrent sha256 merge now initial i floor)
include run

theorem Concurrent.listed_gone (inside : move ∈ floor.log)
    (moved : move.exchange = ⟨.reassign external merge.source merge.target,.ok ()⟩) :
    floor.world.directory.owners[external.key]? ≠ some merge.source := by
  obtain ⟨first,rest,split⟩ := append_of_mem inside
  have held := run.played.since
    (φ:=fun w => ∃ owner,w.directory.owners[external.key]? = some owner ∧ owner ≠ merge.source) ?_ first move rest split ?_ ?_
  · obtain ⟨owner,owned,other⟩ := held
    rw [owned]
    exact fun same => other (Option.some.inj same)
  · intro w w' same holds
    rw [same.1]
    exact holds
  · have answered := run.played.answered move inside
    obtain ⟨caller,found,exchange⟩ := move
    cases moved
    refine ⟨merge.target,?_,merge.apart.symm⟩
    dsimp only [mergeStage,execMerge] at answered ⊢
    rcases Directory.reassign_cases external merge.source merge.target found.directory with ⟨e,failed⟩ | ⟨owned,done⟩
    · rw [failed] at answered
      cases answered
    · rw [done]
      simp
  · rintro later member ⟨owner,owned,other⟩
    have shift := run.shift external.key later (by rw [split]; simp [member])
    rw [owned] at shift
    dsimp only [mergeStage]
    generalize (execMerge sha256 later.exchange.1 later.found).2.directory.owners[external.key]? = next at shift ⊢
    generalize later.exchange.1 = op at shift
    cases shift with
    | kept => exact ⟨owner,rfl,other⟩
    | passed => exact absurd rfl other

theorem Concurrent.source_emptied (presented : Presented initial.directory) (timely : Timely i merge floor.log)
    (key : ExternalKey) : floor.world.directory.owners[key]? ≠ some merge.source := by
  obtain ⟨-,listing,-,listed,first,rest,split,mine,asked,-,-,-,moves⟩ := run.entries
  have inside : listing ∈ floor.log := by simp [split]
  by_cases known : ∃ external ∈ listed,external.key = key
  · obtain ⟨external,member,rfl⟩ := known
    obtain ⟨move,moved,exchange⟩ := moves external member
    exact run.listed_gone moved exchange
  · have shown := run.presented presented listing inside
    have answered := run.played.answered listing inside
    refine run.played.since (φ:=fun w => w.directory.owners[key]? ≠ some merge.source) ?_ first listing rest split ?_ ?_
    · intro w w' same holds
      rw [same.1]
      exact holds
    · obtain ⟨caller,found,exchange⟩ := listing
      cases asked
      intro owned
      obtain ⟨external,member,same⟩ := owned_listed shown owned
      rw [← Except.ok.inj answered] at member
      exact known ⟨external,member,same⟩
    · intro later member free
      obtain ⟨before,after,inner⟩ := append_of_mem member
      have shift := run.shift key later (by simp [split,member])
      have whole : floor.log = (first ++ listing :: before) ++ later :: after := by simp [split,inner]
      dsimp only [mergeStage]
      generalize held : later.found.directory.owners[key]? = owner at shift free
      generalize (execMerge sha256 later.exchange.1 later.found).2.directory.owners[key]? = next at shift ⊢
      generalize attaches : later.exchange.1 = op at shift
      cases shift with
      | kept => exact free
      | given linked same =>
        rintro theirs
        refine timely.early _ later after _ whole ⟨attaches,linked,same ▸ held⟩ (Option.some.inj theirs) listing (by simp)
          mine ?_
        rw [asked]
      | passed => exact absurd rfl free

theorem Concurrent.others_bare (timely : Timely i merge floor.log)
    (clean : ∀ (key : ExternalKey) (id : IdentityId) (owned : Identities.Owned), initial.directory.owners[key]? = some id → initial.identities[id]? = some owned → owned.identity.status ≠ .merged)
    (key : ExternalKey) (id : IdentityId) (other : id ≠ merge.source)
    (owns : floor.world.directory.owners[key]? = some id) :
    ∀ owned,initial.identities[id]? = some owned → owned.identity.status ≠ .merged := by
  obtain ⟨looked,-,target,-,-,-,-,-,-,seen,asked,alive,-⟩ := run.entries
  have living : ∀ owned,initial.identities[merge.target]? = some owned → owned.identity.status ≠ .merged := by
    intro owned record
    have answered := run.played.answered looked seen
    have recorded := (run.records merge.target merge.apart.symm).2 looked seen
    obtain ⟨caller,found,exchange⟩ := looked
    cases asked
    have found := Except.ok.inj answered
    rw [Identities.IdentityStore.findById,recorded,record] at found
    dsimp only at found
    split at found
    · cases found
    · cases found
      exact isTerminal_merged alive
  refine (run.played.always (φ:=fun w => ∀ id : IdentityId,id ≠ merge.source → w.directory.owners[key]? = some id →
    ∀ owned,initial.identities[id]? = some owned → owned.identity.status ≠ .merged) ?_ ?_ ?_).1 id other owns
  · intro w w' same holds
    rw [same.1]
    exact holds
  · intro id _ owns owned record
    exact clean key id owned owns record
  · intro entry inside holds id other owns
    have shift := run.shift key entry inside
    dsimp only [mergeStage] at owns
    rw [owns] at shift
    generalize held : entry.found.directory.owners[key]? = owner at shift holds
    generalize attaches : entry.exchange.1 = op at shift
    cases shift with
    | kept => exact holds id other rfl
    | given linked same =>
      intro owned record
      have recorded := (run.records _ other).2 entry inside
      exact timely.live entry inside _ owned ⟨attaches,linked,same ▸ held⟩ other (recorded.trans record)
    | passed => exact living

end

end

-- A merge that succeeds among calls that link accounts: when none of them lands on the
-- source after the listing, no identity that is merged away owns anything.
theorem merged_own_nothing {sha256 : Text → Result Sha256Digest} {merge : IdentityMerge} {now : Instant}
    {initial : AuthState} {ops : List DirectoryOp} {i : Nat} {floor : MergeFloor}
    (reached : initial.directory = after ops empty)
    (clean : ∀ (key : ExternalKey) (id : IdentityId) (owned : Identities.Owned),
      initial.directory.owners[key]? = some id → initial.identities[id]? = some owned → owned.identity.status ≠ .merged)
    (run : Concurrent sha256 merge now initial i floor) (timely : Timely i merge floor.log) :
    ∀ (key : ExternalKey) (id : IdentityId) (owned : Identities.Owned),floor.world.directory.owners[key]? = some id →
      floor.world.identities[id]? = some owned → owned.identity.status ≠ .merged := by
  have presented : Presented initial.directory := by
    rw [reached]
    exact empty_presented.after ops
  intro key id owned owns record
  by_cases source : id = merge.source
  · rw [source] at owns
    exact absurd owns (run.source_emptied presented timely key)
  · rw [(run.records id source).1] at record
    exact run.others_bare timely clean key id source owns owned record

section
open AuthenticationRuns

def demoMerge : IdentityMerge := ⟨⟨"org"⟩,⟨"old"⟩,⟨"new"⟩,.verified,0,100,by decide⟩

def demoLinks : List DirectoryOp := [.attach ⟨⟨"old"⟩,⟨⟨"mail"⟩,⟨"bob"⟩,none,none,none⟩,0,10,.linked⟩]

def demoIdentities : AuthState := { demoWorld with
  directory := after demoLinks empty
  identities := (Std.ExtTreeMap.insert ∅ ⟨"old"⟩ ⟨⟨"org"⟩,⟨⟨"old"⟩,.human,.active,0⟩⟩).insert ⟨"new"⟩
    ⟨⟨"org"⟩,⟨⟨"new"⟩,.human,.active,0⟩⟩ }

def demoInitial : AuthState := { demoIdentities with
  transactions := ((beginConnection demoAuthenticator demoRequest 0 "flow" ⟨"old"⟩).run (exec demoSha256)
    demoIdentities).2.transactions }

def demoConnection : MergeCall Outcome :=
  beside (completeConnection demoAuthenticator ⟨"token"⟩ "token" 0 demoResponse)

def demoTurns : List (Turn MergeOp MergeOp.Ret Error Outcome AuthState) :=
  [.enter demoConnection,.enter (merging demoMerge 5)] ++ steps 0 8 ++ steps 1 3 ++ steps 0 1 ++ steps 1 2

def demoSubject : ExternalKey := ⟨⟨"mail"⟩,⟨"ann"⟩⟩

def hasMerged : MergeCall Outcome → Bool
  | .ret (.merged (.ok _)) => true
  | _ => false

theorem hasMerged_returned (merged : hasMerged p = true) : ∃ record,p = .ret (.merged (.ok record)) := by
  unfold hasMerged at merged
  split at merged
  · exact ⟨_,rfl⟩
  · cases merged

theorem demo_concurrent {floor : MergeFloor}
    (two : turns.filterMap Turn.entered = [demoConnection,merging demoMerge 5])
    (still : ∀ turn ∈ turns,turn.Allowed (mergeStage demoSha256))
    (taken : takeTurns (execMerge demoSha256) turns (⟨demoInitial,[],[]⟩ : MergeFloor) = some floor)
    (ended : (floor.members[1]?.any fun m => hasMerged m.rest) = true) :
    Concurrent demoSha256 demoMerge 5 demoInitial 1 floor := by
  have known : ∀ (j : Nat) (m : Member MergeOp MergeOp.Ret Error Outcome),floor.members[j]? = some m →
      ([demoConnection,merging demoMerge 5] : List (MergeCall Outcome))[j]? = some m.begun := by
    intro j m found
    rw [← two]
    exact takeTurns_member taken found
  refine ⟨Plays.start.turns still taken,?_,?_⟩
  · obtain ⟨⟨p,rest⟩,found,merged⟩ := (Option.any_eq_true _ _).mp ended
    obtain ⟨record,same⟩ := hasMerged_returned merged
    have mine := known 1 _ found
    cases same
    cases mine
    exact ⟨record,found⟩
  · intro j m found other
    have his := known j m found
    rcases j with _ | _ | j
    · rw [← Option.some.inj his]
      exact .connection _ _ _ _ _
    · exact absurd rfl other
    · cases his

theorem demo_clean : ∀ (key : ExternalKey) (id : IdentityId) (owned : Identities.Owned),
    demoInitial.directory.owners[key]? = some id → demoInitial.identities[id]? = some owned →
      owned.identity.status ≠ .merged := by
  intro key id owned _ record
  rcases Map.insert_cases record with ⟨-,rfl⟩ | record
  · decide
  · rcases Map.insert_cases record with ⟨-,rfl⟩ | record
    · decide
    · rw [Std.ExtTreeMap.getElem?_empty] at record
      cases record

-- The link that lands after the listing stays with the source.
theorem merged_source_owns : ∃ floor : MergeFloor,Concurrent demoSha256 demoMerge 5 demoInitial 1 floor ∧
    demoInitial.directory = after demoLinks empty ∧
    (∀ (key : ExternalKey) (id : IdentityId) (owned : Identities.Owned),demoInitial.directory.owners[key]? = some id →
      demoInitial.identities[id]? = some owned → owned.identity.status ≠ .merged) ∧
    floor.world.directory.owners[demoSubject]? = some ⟨"old"⟩ ∧
      floor.world.identities[(⟨"old"⟩ : IdentityId)]?.map (fun owned => owned.identity.status) = some .merged := by
  have done : (takeTurns (execMerge demoSha256) demoTurns (⟨demoInitial,[],[]⟩ : MergeFloor)).any (fun floor =>
      floor.world.directory.owners[demoSubject]? == some ⟨"old"⟩ &&
        floor.world.identities[(⟨"old"⟩ : IdentityId)]?.map (fun owned => owned.identity.status) == some .merged &&
          (floor.members[1]?.any fun m => hasMerged m.rest)) = true := by
    decide
  obtain ⟨floor,taken,holds⟩ := (Option.any_eq_true _ _).mp done
  simp only [Bool.and_eq_true,beq_iff_eq] at holds
  obtain ⟨⟨owns,status⟩,ended⟩ := holds
  refine ⟨floor,demo_concurrent rfl ?_ taken ended,rfl,demo_clean,owns,status⟩
  simp [demoTurns,steps,Turn.Allowed]

def linkOf : MergeOp → Option IdentityLink
  | .auth (.attach link) => some link
  | _ => none

def tidy (i : Nat) (merge : IdentityMerge) : Bool → List MergeEntry → Bool
  | _,[] => true
  | begun,entry :: rest => (linkOf entry.exchange.1).all (fun link => link.owner == merge.source && !begun) &&
      tidy i merge (begun || entry.caller == i) rest

theorem tidy_first {before : List MergeEntry} {entry : MergeEntry} {i : Nat} {merge : IdentityMerge} (attaches : entry.exchange.1 = .auth (.attach link))
    (checked : tidy i merge begun (before ++ entry :: rest) = true) :
    link.owner = merge.source ∧ begun = false ∧ ∀ earlier ∈ before,earlier.caller ≠ i := by
  induction before generalizing begun with
  | nil =>
    simp only [nil_append,tidy,attaches,linkOf,Option.all_some,Bool.and_eq_true,beq_iff_eq,
      Bool.not_eq_true'] at checked
    exact ⟨checked.1.1,checked.1.2,forall_mem_nil _⟩
  | cons first before ih =>
    simp only [cons_append,tidy,Bool.and_eq_true] at checked
    obtain ⟨mine,fresh,others⟩ := ih checked.2
    simp only [Bool.or_eq_false_iff,beq_eq_false_iff_ne] at fresh
    refine ⟨mine,fresh.1,?_⟩
    intro earlier member
    rcases mem_cons.mp member with rfl | later
    · exact fresh.2
    · exact others earlier later

theorem tidy_timely {i : Nat} {merge : IdentityMerge} (checked : tidy i merge false log = true) :
    Timely i merge log := by
  constructor
  · rintro before entry rest link rfl lands - earlier member mine
    exact absurd mine ((tidy_first lands.attaches checked).2.2 earlier member)
  · intro entry inside link owned lands other
    obtain ⟨before,rest,rfl⟩ := append_of_mem inside
    exact absurd (tidy_first lands.attaches checked).1 other

-- The same two calls, the connection first: its link goes to the target with the rest.
theorem merged_own_nothing_in_time : ∃ floor : MergeFloor,Concurrent demoSha256 demoMerge 5 demoInitial 1 floor ∧
    floor.world.directory.owners[demoSubject]? = some ⟨"new"⟩ ∧
      ∀ (key : ExternalKey) (id : IdentityId) (owned : Identities.Owned),floor.world.directory.owners[key]? = some id →
        floor.world.identities[id]? = some owned → owned.identity.status ≠ .merged := by
  let turns : List (Turn MergeOp MergeOp.Ret Error Outcome AuthState) :=
    [.enter demoConnection,.enter (merging demoMerge 5)] ++ steps 0 12 ++ steps 1 6
  have done : (takeTurns (execMerge demoSha256) turns (⟨demoInitial,[],[]⟩ : MergeFloor)).any (fun floor =>
      floor.world.directory.owners[demoSubject]? == some ⟨"new"⟩ && tidy 1 demoMerge false floor.log &&
        (floor.members[1]?.any fun m => hasMerged m.rest)) = true := by
    decide
  obtain ⟨floor,taken,holds⟩ := (Option.any_eq_true _ _).mp done
  simp only [Bool.and_eq_true,beq_iff_eq] at holds
  obtain ⟨⟨owns,checked⟩,ended⟩ := holds
  have run : Concurrent demoSha256 demoMerge 5 demoInitial 1 floor := by
    refine demo_concurrent rfl ?_ taken ended
    simp [turns,steps,Turn.Allowed]
  exact ⟨floor,run,owns,merged_own_nothing rfl demo_clean run (tidy_timely checked)⟩

end

end OpenProof.MergeRuns
