import OpenProof.CallHistories
import OpenProof.AuthenticationRuns

namespace OpenProof.SubjectConvergence
open AtomicPrograms CallTraces CallLogs CallHistories Foundation AuthenticationTransactions ExternalIdentities
open IdentityProfiles AuthenticationWorld AuthenticationService AuthenticationTraces AuthenticationRuns Identities

def signInStage (sha256 : Text → Result Sha256Digest) : Stage AuthOp AuthOp.Ret AuthState where
  exec := exec sha256
  drift before after := after.directory = before.directory ∧ after.identities = before.identities ∧
    after.profiles = before.profiles

def Settles (key : ExternalKey) (trace : AuthTrace) : Prop :=
  ∀ organization identity,⟨.add organization identity,.ok ()⟩ ∈ trace →
    (∃ step ∈ trace,Resolves key identity.id step) ∨
      ∃ answer,[⟨.add organization identity,.ok ()⟩,⟨.changeStatus organization identity.id .deleted,answer⟩].Sublist trace

def Addless : AuthOp → Prop
  | .add .. => False
  | _ => True

section
variable {a : Authenticator} {outcome : AuthenticationOutcome} {identity : IdentityId} {key : ExternalKey}

theorem settles_addless (addless : ∀ exchange ∈ trace,Addless exchange.1) : Settles key trace :=
  fun _ _ inside => (addless _ inside).elim

theorem Settles.later (settles : Settles key trace) (addless : ∀ exchange ∈ before,Addless exchange.1) : Settles key (before ++ trace) := by
  intro organization identity inside
  rcases List.mem_append.mp inside with early | late
  · exact (addless _ early).elim
  · rcases settles organization identity late with ⟨step,member,resolves⟩ | ⟨answer,undone⟩
    · exact .inl ⟨step,List.mem_append_right before member,resolves⟩
    · exact .inr ⟨answer,undone.trans (List.sublist_append_right before trace)⟩

theorem Settles.earlier (settles : Settles key trace) (addless : ∀ exchange ∈ after,Addless exchange.1) : Settles key (trace ++ after) := by
  intro organization identity inside
  rcases List.mem_append.mp inside with early | late
  · rcases settles organization identity early with ⟨step,member,resolves⟩ | ⟨answer,undone⟩
    · exact .inl ⟨step,List.mem_append_left after member,resolves⟩
    · exact .inr ⟨answer,undone.trans (List.sublist_append_left trace after)⟩
  · exact (addless _ late).elim

theorem addless_of_plain {p : AuthCall α} (plain : p.Only Plain) : p.Only Addless := by
  refine plain.weaken fun op plain => ?_
  cases op <;> first | exact plain | trivial

theorem undoing_leaves {step : AuthCall Unit} (plain : step.Only Plain) :
    Leaves (undoing a identity step) fun trace r => (∀ exchange ∈ trace,Addless exchange.1) ∧
      ((∃ done,r = .ok done ∧ Trace step trace (.ok done)) ∨
        ∃ answer,⟨.changeStatus a.organization identity .deleted,answer⟩ ∈ trace) := by
  have tried : Leaves (step.attempt : AuthCall (Result Unit)) fun trace r =>
      ∃ outcome,r = .ok outcome ∧ Trace step trace outcome := .attempt fun _ _ path => path
  refine .bind tried ?_ ?_
  · rintro trace outcome ⟨_,same,path⟩
    cases same
    have addless := path.only (addless_of_plain plain)
    cases outcome with
    | ok done =>
      apply Leaves.ret
      rw [List.append_nil]
      exact ⟨addless,.inl ⟨done,rfl,path⟩⟩
    | error e =>
      refine .ask fun answer => .fail ⟨?_,.inr ⟨answer,by simp⟩⟩
      intro exchange inside
      rcases List.mem_append.mp inside with early | late
      · exact addless exchange early
      · cases List.mem_singleton.mp late
        trivial
  · rintro trace e ⟨_,impossible,-⟩
    cases impossible

def Finishes (a : Authenticator) (key : ExternalKey) (identity : IdentityId) (trace : AuthTrace) : Prop :=
  (∀ exchange ∈ trace,Addless exchange.1) ∧ ((∃ step ∈ trace,Resolves key identity step) ∨
    ∃ answer,⟨.changeStatus a.organization identity .deleted,answer⟩ ∈ trace)

theorem attaching_finishes : Leaves ((undoing a identity (attachVerified identity external completedAt)).bind
    fun _ => .ret identity) fun trace _ => Finishes a external.key identity trace := by
  refine .bind (undoing_leaves attachVerified_plain) ?_ ?_
  · rintro trace done ⟨addless,⟨_,-,path⟩ | undone⟩
    · apply Leaves.ret
      rw [List.append_nil]
      exact ⟨addless,.inl (attachVerified_yields trace _ path)⟩
    · apply Leaves.ret
      rw [List.append_nil]
      exact ⟨addless,.inr undone⟩
  · rintro trace e ⟨addless,⟨_,impossible,-⟩ | undone⟩
    · cases impossible
    · exact ⟨addless,.inr undone⟩

theorem newProfile_plain : (newProfile identity claims completedAt).Only Plain :=
  .bind (.check _ _) fun _ => .bind (.check _ _) fun _ => .bind (.perform trivial) fun _ => .check _ _

theorem Finishes.later (finishes : Finishes a key identity trace) (addless : ∀ exchange ∈ before,Addless exchange.1) : Finishes a key identity (before ++ trace) := by
  obtain ⟨after,⟨step,inside,resolves⟩ | ⟨answer,undone⟩⟩ := finishes
  · exact ⟨fun exchange member => (List.mem_append.mp member).elim (addless exchange) (after exchange),
      .inl ⟨step,List.mem_append_right before inside,resolves⟩⟩
  · exact ⟨fun exchange member => (List.mem_append.mp member).elim (addless exchange) (after exchange),
      .inr ⟨answer,List.mem_append_right before undone⟩⟩

theorem provisioned_finishes : Leaves (do
    if a.profileRepository then undoing a identity (newProfile identity claims completedAt)
    undoing a identity (attachVerified identity external completedAt)
    return identity : AuthCall IdentityId) fun trace _ => Finishes a external.key identity trace := by
  split
  · refine .bind (undoing_leaves newProfile_plain) ?_ ?_
    · rintro trace done ⟨addless,-⟩
      exact attaching_finishes.mono fun after r finishes => finishes.later addless
    · rintro trace e ⟨addless,⟨_,impossible,-⟩ | undone⟩
      · cases impossible
      · exact ⟨addless,.inr undone⟩
  · exact attaching_finishes

theorem Finishes.settles {organization : OrganizationId} (finishes : Finishes a key canonical.id trace)
    (within : organization = a.organization) : Settles key (⟨.add organization canonical,answer⟩ :: trace) := by
  cases within
  obtain ⟨addless,linked | ⟨undone,inside⟩⟩ := finishes
  · intro organization identity added
    rcases List.mem_cons.mp added with same | late
    · cases same
      obtain ⟨step,member,resolves⟩ := linked
      exact .inl ⟨step,List.mem_cons_of_mem _ member,resolves⟩
    · exact (addless _ late).elim
  · intro organization identity added
    rcases List.mem_cons.mp added with same | late
    · cases same
      exact .inr ⟨undone,.cons_cons _ (List.singleton_sublist.mpr inside)⟩
    · exact (addless _ late).elim

theorem create_id {id : IdentityId} {kind : Identities.SubjectKind}
    (created : Identity.create id kind createdAt = .ok canonical) : canonical.id = id ∧ canonical.status = .active := by
  obtain ⟨-,created⟩ := passed created
  cases created
  exact ⟨rfl,rfl⟩

theorem provision_settles : Leaves (provision a outcome external completedAt) fun trace _ => Settles external.key trace := by
  refine .refuseIf (fun _ => .ask fun answer => .check (fun generated _ => .check (fun canonical created => .ask fun added =>
    .check (fun done _ => ?_) ?_) ?_) ?_) ?_
  · have named := (create_id created).1
    refine provisioned_finishes.mono fun trace r finishes => ?_
    rw [← named] at finishes
    have settles : Settles external.key (⟨.add a.organization canonical,added⟩ :: trace) := finishes.settles rfl
    have drawn : ∀ exchange ∈ ([⟨.randomToken 24,answer⟩] : AuthTrace),Addless exchange.1 := by simp [Addless]
    exact settles.later drawn
  · rintro e rfl
    intro organization identity inside
    simp at inside
  · exact fun e _ => settles_addless (by simp [Addless])
  · exact fun e _ => settles_addless (by simp [Addless])
  · exact settles_addless (List.forall_mem_nil _)

theorem resolveIdentity_settles :
    Leaves (resolveIdentity a outcome external completedAt) fun trace _ => Settles external.key trace := by
  refine .ask fun answer => ?_
  cases answer with
  | error e => exact .fail (settles_addless (by simp [Addless]))
  | ok owner =>
    cases owner with
    | some owner => exact .ret (settles_addless (by simp [Addless]))
    | none =>
      have first : ∀ trace : AuthTrace,(∀ exchange ∈ trace,Addless exchange.1) →
          ∀ exchange ∈ (⟨.ownerOf external,.ok none⟩ :: trace : AuthTrace),Addless exchange.1 := by
        intro trace addless exchange inside
        rcases List.mem_cons.mp inside with rfl | later
        · trivial
        · exact addless exchange later
      refine .bind (.only (addless_of_plain converge_plain)) (fun trace found addless => ?_) fun trace e addless =>
        settles_addless (first trace addless)
      cases found with
      | some identity =>
        apply Leaves.ret
        rw [List.append_nil]
        exact settles_addless (first trace addless)
      | none => exact provision_settles.mono fun after r settles => settles.later (first trace addless)

end

section
variable {a : Authenticator} {transactionId : TransactionId} {continuationToken : Text} {binding : BindingDigest}
  {response : AuthenticationResponse}

def Verifies (trace : AuthTrace) (key : ExternalKey) : Prop :=
  ∃ id response outcome,⟨.completeAuthentication id response,.returned (.ok outcome)⟩ ∈ trace ∧
    key = ⟨outcome.provider,outcome.subject⟩

theorem completeExchange_addless : (completeExchange a transactionId continuationToken binding response false).Only
    Addless :=
  .bind (.perform trivial) fun _ => .bind (.perform trivial) fun _ => .bind (.check _ _) fun _ =>
    addless_of_plain completeConsumed_plain

theorem Verifies.earlier {key : ExternalKey} (verified : Verifies trace key) (after : AuthTrace) :
    Verifies (trace ++ after) key := by
  obtain ⟨id,response,outcome,inside,same⟩ := verified
  exact ⟨id,response,outcome,List.mem_append_left after inside,same⟩

theorem exchange_verifies : Yields (completeExchange a transactionId continuationToken binding response false)
    fun trace exchange => Verifies trace (externalFromOutcome exchange.outcome).key := by
  refine completeExchange_yields.mono ?_
  rintro trace exchange ⟨c,-,-,steps⟩
  refine ⟨c.transaction.provider,response,exchange.outcome,steps.subset ?_,rfl⟩
  simp [Ceremony.steps,Ceremony.verification]

theorem complete_settles : Leaves (complete a transactionId continuationToken binding response) fun trace _ =>
    (∀ exchange ∈ trace,Addless exchange.1) ∨ ∃ key,Verifies trace key ∧ Settles key trace := by
  refine .bind ((Leaves.only completeExchange_addless).and exchange_verifies.leaves) ?_ ?_
  · rintro trace exchange ⟨addless,verifies⟩
    have verified := verifies exchange rfl
    have onward : ∀ identity,((requireActiveIdentity a identity).bind fun _ =>
        (ask (.updatePresentation (externalFromOutcome exchange.outcome))).bind fun updated => (Prog.check updated).bind
          fun _ => (refreshProfile a identity exchange.outcome.claims exchange.completedAt
            IdentityProfile.applyVerifiedClaims).bind fun _ =>
              (.ret ⟨exchange.outcome,identity⟩ : AuthCall VerifiedAuthentication)).Only Addless := by
      intro identity
      exact .bind (addless_of_plain requireActiveIdentity_plain) fun _ => .bind (.perform trivial) fun _ =>
        .bind (.check _ _) fun _ => .bind (addless_of_plain refreshProfile_plain) fun _ => trivial
    refine .bind resolveIdentity_settles (fun resolved identity settles => ?_) fun resolved e settles => ?_
    · refine (Leaves.only (onward identity)).mono fun after r rest => ?_
      exact .inr ⟨_,verified.earlier _,(settles.earlier rest).later addless⟩
    · exact .inr ⟨_,verified.earlier _,settles.later addless⟩
  · rintro trace e ⟨addless,-⟩
    exact .inl addless

theorem completing_settles : Leaves (completing a transactionId continuationToken binding response) fun trace _ =>
    (∀ exchange ∈ trace,Addless exchange.1) ∨ ∃ key,Verifies trace key ∧ Settles key trace := by
  refine .bind complete_settles (fun trace v settles => .ret ?_) fun trace e settles => settles
  rw [List.append_nil]
  exact settles

theorem completing_replies : Yields (completing a transactionId continuationToken binding response) fun _ reply =>
    ∃ v,reply = .authenticated v := .bind .any fun _ v _ => .ret ⟨v,rfl⟩

def Gentle : AuthOp → Prop
  | .changeStatus _ _ status => status = .deleted
  | .add _ identity => identity.status = .active
  | _ => True

theorem Plain.gentle (op : AuthOp) (plain : Plain op) : Gentle op := by
  cases op <;> first | exact plain.elim | trivial

theorem undoing_gentle {identity : IdentityId} (plain : step.Only Plain) : (undoing a identity step).Only Gentle := by
  refine .bind (plain.weaken Plain.gentle).attempt fun outcome => ?_
  cases outcome with
  | ok done => trivial
  | error e => exact .bind (.perform rfl) fun _ => trivial

theorem provision_gentle {outcome : AuthenticationOutcome} {external : ExternalIdentityRef} {completedAt : Instant} :
    (provision a outcome external completedAt).Only Gentle := by
  have attaches : ∀ identity,((undoing a identity (attachVerified identity external completedAt)).bind
      fun _ => (.ret identity : AuthCall IdentityId)).Only Gentle :=
    fun identity => .bind (undoing_gentle attachVerified_plain) fun _ => trivial
  refine .bind (.refuseIf _ _ _) fun _ => .bind (.perform trivial) fun answer => .bind (.check _ _) fun generated => ?_
  dsimp only
  cases created : Identity.create ⟨Text.of "opi_" ++ generated⟩ .human completedAt with
  | error e => trivial
  | ok canonical =>
    have allowed : Gentle (.add a.organization canonical) := (create_id created).2
    refine (Prog.Only.perform allowed).bind fun added => .bind (.check _ _) fun _ => ?_
    split
    · exact .bind (undoing_gentle newProfile_plain) fun _ => attaches _
    · exact attaches _

theorem completing_gentle : (completing a transactionId continuationToken binding response).Only Gentle := by
  refine .bind (.bind ?_ fun exchange => .bind ?_ fun identity => .bind ?_ fun _ => .bind (.perform trivial) fun updated =>
    .bind (.check _ _) fun _ => .bind ?_ fun _ => trivial) fun v => trivial
  · exact .bind (.perform trivial) fun _ => .bind (.perform trivial) fun _ => .bind (.check _ _) fun _ =>
      completeConsumed_plain.weaken Plain.gentle
  · refine .bind (.perform trivial) fun answer => ?_
    cases answer with
    | error e => trivial
    | ok owner =>
      cases owner with
      | some owner => trivial
      | none =>
        refine .bind (converge_plain.weaken Plain.gentle) fun found => ?_
        cases found with
        | some identity => trivial
        | none => exact provision_gentle
  · exact requireActiveIdentity_plain.weaken Plain.gentle
  · exact refreshProfile_plain.weaken Plain.gentle

end

def Stands (organization : OrganizationId) (id : IdentityId) (kind : IdentityStatus → Prop) (w : AuthState) : Prop :=
  ∃ owned,w.identities[id]? = some owned ∧ owned.organization = organization ∧ kind owned.identity.status

section
variable {sha256 : Text → Result Sha256Digest} {w : AuthState} {organization : OrganizationId} {id : IdentityId}
  {key : ExternalKey} {owner : IdentityId}

theorem owner_kept (owns : w.directory.owners[key]? = some owner) :
    (exec sha256 op w).2.directory.owners[key]? = some owner := by
  cases op with
  | attach link =>
    unfold exec Directory.attach
    dsimp only
    split
    · exact owns
    · split
      · split <;> exact owns
      · rename_i free
        have other : link.external.key ≠ key := by
          rintro rfl
          rw [owns] at free
          cases free
        simpa [other] using owns
  | updatePresentation external =>
    unfold exec Directory.updatePresentation
    dsimp only
    split
    · exact owns
    · split <;> exact owns
  | _ => exact owns

theorem stands_kept (gentle : Gentle op) (closed : kind .deleted) (stands : Stands organization id kind w) :
    Stands organization id kind (exec sha256 op w).2 := by
  obtain ⟨owned,found,within,holds⟩ := stands
  cases op with
  | add other identity =>
    unfold exec IdentityStore.add
    dsimp only
    split
    · exact ⟨owned,found,within,holds⟩
    · rename_i fresh
      have different : identity.id ≠ id := by
        rintro rfl
        simp [Map.holds,found] at fresh
      exact ⟨owned,by simpa [different] using found,within,holds⟩
  | changeStatus other changed status =>
    cases gentle
    rcases IdentityStore.changeStatus_cases other changed .deleted w.identities with ⟨e,same⟩ | ⟨before,known,-,same⟩
    · exact ⟨owned,by simpa [exec,same] using found,within,holds⟩
    · by_cases mine : changed = id
      · cases mine
        cases found.symm.trans known
        refine ⟨{ owned with identity := { owned.identity with status := .deleted } },?_,within,closed⟩
        simp [exec,same]
      · exact ⟨owned,by simpa [exec,same,mine] using found,within,holds⟩
  | _ => exact ⟨owned,found,within,holds⟩

theorem add_stands {identity : Identity} (done : (exec sha256 (.add organization identity) w).1 = .ok ()) :
    Stands organization identity.id (· = identity.status) (exec sha256 (.add organization identity) w).2 := by
  unfold exec IdentityStore.add at done ⊢
  dsimp only at done ⊢
  split at done
  · cases done
  · rename_i fresh
    rw [if_neg fresh]
    exact ⟨⟨organization,identity⟩,by simp,rfl,rfl⟩

theorem taken_back (stands : Stands organization id (· ≠ .merged) w) :
    Stands organization id (· = .deleted) (exec sha256 (.changeStatus organization id .deleted) w).2 := by
  obtain ⟨owned,found,within,holds⟩ := stands
  cases status : owned.identity.status with
  | merged => exact absurd status holds
  | deleted =>
    refine ⟨owned,?_,within,status⟩
    simp [exec,IdentityStore.changeStatus,found,within,Identity.changeStatus,status]
  | _ =>
    refine ⟨{ owned with identity := { owned.identity with status := .deleted } },?_,within,rfl⟩
    simp [exec,IdentityStore.changeStatus,found,within,Identity.changeStatus,status]

end

def SignIn (call : AuthCall Reply) : Prop :=
  ∃ a transactionId continuationToken binding response,call = completing a transactionId continuationToken binding response

structure Alike (floor : AuthFloor) (key : ExternalKey) : Prop where
  signIns : ∀ m ∈ floor.members,SignIn m.begun
  subject : ∀ entry ∈ floor.log,∀ id response outcome,
    entry.exchange = ⟨.completeAuthentication id response,.returned (.ok outcome)⟩ →
      key = ⟨outcome.provider,outcome.subject⟩

section
variable {sha256 : Text → Result Sha256Digest} {initial : AuthState} {floor : AuthFloor} {key : ExternalKey}
  {entry : AuthEntry} {owner : IdentityId} {organization : OrganizationId} {identity : Identity}

section
variable (played : Plays (signInStage sha256) initial floor)
include played

theorem signIn_gentle (signIns : ∀ m ∈ floor.members,SignIn m.begun) :
    ∀ entry ∈ floor.log,Gentle entry.exchange.1 := by
  intro entry inside
  have entered := played.accounted.entered entry inside
  have member := List.getElem?_eq_getElem entered
  obtain ⟨a,transactionId,continuationToken,binding,response,same⟩ := signIns _ (List.getElem_mem entered)
  have only : floor.members[entry.caller].begun.Only Gentle := by
    rw [same]
    exact completing_gentle
  exact played.only member only entry inside rfl

theorem owned_since (inside : entry ∈ floor.log)
    (owns : (exec sha256 entry.exchange.1 entry.found).2.directory.owners[key]? = some owner) :
    floor.world.directory.owners[key]? = some owner := by
  obtain ⟨first,rest,split⟩ := List.append_of_mem inside
  refine played.since (φ:=fun w => w.directory.owners[key]? = some owner) ?_ first entry rest split owns ?_
  · rintro w w' ⟨same,-,-⟩ held
    rw [same]
    exact held
  · intro later _ held
    exact owner_kept held

theorem resolved_owned (inside : step ∈ own i floor.log) (resolves : Resolves key owner step) :
    floor.world.directory.owners[key]? = some owner := by
  obtain ⟨entry,member,-,rfl⟩ := mem_own.mp inside
  have answered := played.answered entry member
  refine owned_since played member ?_
  obtain ⟨caller,found,⟨op,answer⟩⟩ := entry
  have answered : answer = (exec sha256 op found).1 := answered
  subst answered
  exact resolves_owner resolves

end

theorem verified_subject (alike : Alike floor key) (verified : Verifies (own i floor.log) other) : key = other := by
  obtain ⟨id,response,outcome,inside,rfl⟩ := verified
  obtain ⟨entry,member,-,exchanged⟩ := mem_own.mp inside
  exact alike.subject entry member id response outcome exchanged

theorem stands_still {id : IdentityId} {kind : IdentityStatus → Prop} : ∀ w w',(signInStage sha256).drift w w' →
    Stands organization id kind w → Stands organization id kind w' := by
  rintro w w' ⟨-,same,-⟩ ⟨owned,found,known⟩
  rw [← same] at found
  exact ⟨owned,found,known⟩

theorem undone_deleted (played : Plays (signInStage sha256) initial floor)
    (gentle : ∀ entry ∈ floor.log,Gentle entry.exchange.1)
    (undone : [⟨.add organization identity,.ok ()⟩,⟨.changeStatus organization identity.id .deleted,answer⟩].Sublist
      (own i floor.log)) : Stands organization identity.id (· = .deleted) floor.world := by
  obtain ⟨entries,told,-,same⟩ := sublist_own undone
  obtain ⟨added,_,rfl,adds,same⟩ := List.map_eq_cons_iff.mp same
  obtain ⟨changed,_,rfl,changes,same⟩ := List.map_eq_cons_iff.mp same
  cases List.map_eq_nil_iff.mp same
  obtain ⟨first,between,after,split⟩ := pair_split told
  have answered := played.answered added (by simp [split])
  have onRecord : Stands organization identity.id (· ≠ .merged) (exec sha256 added.exchange.1 added.found).2 := by
    rw [adds] at answered ⊢
    obtain ⟨owned,found,within,status⟩ := @add_stands sha256 _ _ _ answered.symm
    have active : identity.status = .active := by
      have known := gentle added (by simp [split])
      rwa [adds] at known
    refine ⟨owned,found,within,?_⟩
    rw [status,active]
    exact nofun
  have before : Stands organization identity.id (· ≠ .merged) changed.found := by
    refine kept_until played stands_still split onRecord ?_
    intro entry inside stands
    exact stands_kept (gentle entry (by simp [split,inside])) nofun stands
  have shape : floor.log = (first ++ added :: between) ++ changed :: after := by simp [split]
  refine played.since stands_still _ _ _ shape ?_ ?_
  · rw [changes]
    exact @taken_back sha256 _ _ _ before
  · intro entry inside stands
    exact stands_kept (gentle entry (by simp [split,inside])) rfl stands

end

-- One identity at most ever owns the subject, every sign-in that succeeds returns that one,
-- and every other that a sign-in added on its way has been deleted when it ends.
theorem subject_converges {sha256 : Text → Result Sha256Digest} {initial : AuthState} {floor : AuthFloor}
    {key : ExternalKey} (played : Plays (signInStage sha256) initial floor) (alike : Alike floor key) :
    (∀ entry ∈ floor.log,∀ owner,(exec sha256 entry.exchange.1 entry.found).2.directory.owners[key]? = some owner →
      floor.world.directory.owners[key]? = some owner) ∧ (∀ m ∈ floor.members,∀ v,m.rest = .ret (.authenticated v) →
      floor.world.directory.owners[key]? = some v.identity) ∧
    ∀ entry ∈ floor.log,∀ organization identity,entry.exchange = ⟨.add organization identity,.ok ()⟩ →
      ∀ call r,floor.members[entry.caller]? = some ⟨call,settled r⟩ →
        floor.world.directory.owners[key]? = some identity.id ∨
          Stands organization identity.id (· = .deleted) floor.world := by
  refine ⟨fun entry inside owner owns => owned_since played inside owns,?_,?_⟩
  · intro m inside v done
    obtain ⟨i,entered,rfl⟩ := List.getElem_of_mem inside
    obtain ⟨a,transactionId,continuationToken,binding,response,same⟩ := alike.signIns _ inside
    have finished : floor.members[i]? = some ⟨completing a transactionId continuationToken binding response,
        .ret (.authenticated v)⟩ := by
      rw [List.getElem?_eq_getElem entered,← same,← done]
    obtain ⟨c,resolution,checks,sound,resolves,admits,steps⟩ := completing_yields _ _ (played.returned finished) v rfl
    have verified : Verifies (own i floor.log) ⟨v.outcome.provider,v.outcome.subject⟩ :=
      ⟨_,_,v.outcome,steps.subset (by simp [Ceremony.steps,Ceremony.verification]; exact .inl ⟨rfl,rfl⟩),rfl⟩
    rw [← verified_subject alike verified] at resolves
    exact resolved_owned played (steps.subset (by simp)) resolves
  · intro entry inside organization identity adds call r finished
    obtain ⟨a,transactionId,continuationToken,binding,response,same⟩ := alike.signIns _ (List.mem_of_getElem? finished)
    cases same
    have mine := mem_own.mpr ⟨entry,inside,rfl,adds⟩
    rcases completing_settles _ _ (ended_then played finished) with addless | ⟨other,verified,settles⟩
    · exact (addless _ mine).elim
    · rw [← verified_subject alike verified] at settles
      rcases settles organization identity mine with ⟨step,member,resolves⟩ | ⟨answer,undone⟩
      · exact .inl (resolved_owned played member resolves)
      · exact .inr (undone_deleted played (signIn_gentle played alike.signIns) undone)

def subjectOf : Exchange AuthOp AuthOp.Ret → Option ExternalKey
  | ⟨.completeAuthentication _ _,.returned (.ok outcome)⟩ => some ⟨outcome.provider,outcome.subject⟩
  | _ => none

def demoWaiting : AuthState := { demoWorld with
  transactions := ((demoStart.run (exec demoSha256) { demoWorld with
    randomness := fun _ => .ok "other"
    transactions := demoBegun.transactions }).2).transactions }

def demoOther (a : Authenticator) : AuthCall Reply := completing a ⟨"other"⟩ "other" 0 demoResponse

def demoFirst (a : Authenticator) : AuthCall Reply := completing a ⟨"token"⟩ "token" 0 demoResponse

def demoSubject : ExternalKey := ⟨⟨"mail"⟩,⟨"ann"⟩⟩

theorem demo_alike {a : Authenticator} {w : AuthState} {floor : AuthFloor}
    (two : turns.filterMap Turn.entered = [demoFirst a,demoOther a])
    (taken : takeTurns (exec demoSha256) turns (⟨w,[],[]⟩ : AuthFloor) = some floor)
    (told : (floor.log.all fun entry => (subjectOf entry.exchange).all (· == demoSubject)) = true) :
    Alike floor demoSubject := by
  constructor
  · intro m inside
    obtain ⟨i,entered,rfl⟩ := List.getElem_of_mem inside
    have known := takeTurns_member taken (List.getElem?_eq_getElem entered)
    rw [two] at known
    rcases List.mem_cons.mp (List.mem_of_getElem? known) with same | later
    · exact ⟨_,_,_,_,_,same⟩
    · exact ⟨_,_,_,_,_,List.mem_singleton.mp later⟩
  · intro entry inside id response outcome exchanged
    have seen := List.all_eq_true.mp told entry inside
    rw [exchanged] at seen
    exact (beq_iff_eq.mp seen).symm

theorem told_verifies {key : ExternalKey} (told : (trace.any fun exchange => subjectOf exchange == some key) = true) : Verifies trace key := by
  obtain ⟨exchange,inside,same⟩ := List.any_eq_true.mp told
  have same := beq_iff_eq.mp same
  unfold subjectOf at same
  split at same
  · exact ⟨_,_,_,inside,(Option.some.inj same).symm⟩
  · cases same

def demoStrict : Authenticator :=
  { demoAuthenticator with trustPolicy := ⟨demoAuthenticator.trustPolicy.maximums,∅⟩ }

-- A provider that may not provision: the two are refused, and nobody owns the subject.
theorem subject_unowned : ∃ floor : AuthFloor,Plays (signInStage demoSha256) demoWaiting floor ∧ Alike floor demoSubject ∧
    floor.members.length = 2 ∧ (∀ m ∈ floor.members,(ended m.rest).isSome = true) ∧ Verifies (own 0 floor.log) demoSubject ∧
      Verifies (own 1 floor.log) demoSubject ∧ floor.world.directory.owners[demoSubject]? = none := by
  let turns : List (Turn AuthOp AuthOp.Ret Error Reply AuthState) :=
    [.enter (demoFirst demoStrict),.enter (demoOther demoStrict)] ++ steps 0 6 ++ steps 1 7 ++ steps 0 1
  have done : (takeTurns (exec demoSha256) turns (⟨demoWaiting,[],[]⟩ : AuthFloor)).any (fun floor =>
      (floor.log.all fun entry => (subjectOf entry.exchange).all (· == demoSubject)) && floor.members.length == 2 &&
        (floor.members.all fun m => (ended m.rest).isSome) &&
          ((own 0 floor.log).any fun exchange => subjectOf exchange == some demoSubject) &&
            ((own 1 floor.log).any fun exchange => subjectOf exchange == some demoSubject) &&
              floor.world.directory.owners[demoSubject]? == none) = true := by
    decide
  obtain ⟨floor,taken,holds⟩ := (Option.any_eq_true _ _).mp done
  simp only [Bool.and_eq_true,beq_iff_eq,List.all_eq_true (l:=floor.members)] at holds
  obtain ⟨⟨⟨⟨⟨told,two⟩,finished⟩,one⟩,other⟩,unowned⟩ := holds
  refine ⟨floor,Plays.start.turns ?_ taken,demo_alike rfl taken told,two,finished,told_verifies one,told_verifies other,
    unowned⟩
  simp [turns,steps,Turn.Allowed]

-- Both add an identity before either has linked the subject; one of them is deleted.
theorem subject_converges_raced : ∃ (floor : AuthFloor) (v : VerifiedAuthentication),
    Plays (signInStage demoSha256) demoWaiting floor ∧ Alike floor demoSubject ∧
      floor.members[0]? = some ⟨demoFirst demoAuthenticator,.ret (.authenticated v)⟩ ∧
      floor.world.directory.owners[demoSubject]? = some v.identity ∧
      ∀ entry ∈ floor.log,∀ organization identity,entry.exchange = ⟨.add organization identity,.ok ()⟩ →
        identity.id = v.identity ∨ Stands organization identity.id (· = .deleted) floor.world := by
  let turns : List (Turn AuthOp AuthOp.Ret Error Reply AuthState) :=
    [.enter (demoFirst demoAuthenticator),.enter (demoOther demoAuthenticator)] ++ steps 0 10 ++
      [.drift fun w => { w with randomness := fun _ => .ok "other" }] ++ steps 1 10 ++ steps 0 5 ++ steps 1 2
  have done : (takeTurns (exec demoSha256) turns (⟨demoWaiting,[],[]⟩ : AuthFloor)).any (fun floor =>
      (floor.log.all fun entry => (subjectOf entry.exchange).all (· == demoSubject)) &&
        (floor.members.all fun m => (ended m.rest).isSome) &&
          (floor.members[0]?.bind fun m => ended m.rest).any Except.isOk) = true := by
    decide
  obtain ⟨floor,taken,holds⟩ := (Option.any_eq_true _ _).mp done
  simp only [Bool.and_eq_true,List.all_eq_true (l:=floor.members)] at holds
  obtain ⟨⟨told,finished⟩,one⟩ := holds
  have played : Plays (signInStage demoSha256) demoWaiting floor :=
    Plays.start.turns (by simp [turns,steps,Turn.Allowed,signInStage]) taken
  have alike := demo_alike rfl taken told
  obtain ⟨r,member,succeeded⟩ := takeTurns_ended taken (show _ = some (demoFirst demoAuthenticator) from rfl) one
  cases r with
  | error e => cases succeeded
  | ok reply =>
    obtain ⟨v,rfl⟩ := completing_replies _ _ (played.returned member)
    obtain ⟨-,returns,taken⟩ := subject_converges played alike
    have owns := returns _ (List.mem_of_getElem? member) v rfl
    refine ⟨floor,v,played,alike,member,owns,?_⟩
    intro entry inside organization identity adds
    have entered := played.accounted.entered entry inside
    obtain ⟨r,shape⟩ := Option.isSome_iff_exists.mp (finished _ (List.getElem_mem entered))
    have theirs : floor.members[entry.caller]? = some ⟨floor.members[entry.caller].begun,settled r⟩ := by
      rw [List.getElem?_eq_getElem entered,← ended_settled shape]
    rcases taken entry inside organization identity adds _ r theirs with owner | deleted
    · exact .inl (Option.some.inj (owner.symm.trans owns))
    · exact .inr deleted

end OpenProof.SubjectConvergence
