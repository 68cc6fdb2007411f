import OpenProof.SubjectConvergence

namespace OpenProof.EmailTraces
open CallTraces CallLogs CallHistories Foundation List
open IdentityProfiles AuthenticationWorld AuthenticationService AuthenticationTraces AuthenticationRuns SubjectConvergence
open CallProtocols Identities

def Looked (a : Authenticator) (past : AuthTrace) (id : IdentityId) : Prop :=
  ∀ email candidates,⟨.findVerifiedByEmail email,.ok candidates⟩ ∈ past → ∀ candidate ∈ candidates,candidate = id ∨
    ∃ answer,[⟨.findVerifiedByEmail email,.ok candidates⟩,⟨.findById a.organization candidate,.ok answer⟩].Sublist past ∧
      answer.any Identity.canAuthenticate = false

def OnRecord (a : Authenticator) (past : AuthTrace) (id : IdentityId) : Prop :=
  a.lifecycleRepository = true → (∃ identity,identity.id = id ∧ ⟨.add a.organization identity,.ok ()⟩ ∈ past) ∨
    ∃ record,⟨.findById a.organization id,.ok (some record)⟩ ∈ past

def Asks (a : Authenticator) (past : AuthTrace) : AuthOp → Prop
  | .saveProfile profile => ∃ id,Looked a past id ∧ OnRecord a past id ∧
      (profile.identity = id ∨ ∃ found,⟨.findProfile id,.ok (some found)⟩ ∈ past ∧ profile.identity = found.identity)
  | .add .. | .findVerifiedByEmail _ => a.lifecycleRepository = true
  | _ => True

def Searchless : AuthOp → Prop
  | .findVerifiedByEmail _ => False
  | _ => True

def Since (past later : AuthTrace) : Prop := ∃ more,later = past ++ more ∧ ∀ exchange ∈ more,Searchless exchange.1

section
variable {id : IdentityId}

theorem Since.same : Since past past := GoesOn.same

theorem Since.step (since : Since past later) (searchless : Searchless op) :
    Since past (later ++ [⟨op,answer⟩]) := GoesOn.step since searchless

theorem Since.trans (one : Since past later) (two : Since later last) : Since past last :=
  GoesOn.trans one two

theorem Since.sublist (since : Since past later) : past.Sublist later := GoesOn.sublist since

theorem Looked.since (looked : Looked a past id) (since : Since past later) : Looked a later id := by
  intro email candidates inside candidate member
  obtain ⟨more,rfl,searchless⟩ := since
  rcases mem_append.mp inside with old | new
  · rcases looked email candidates old candidate member with same | ⟨answer,seen,barred⟩
    · exact .inl same
    · exact .inr ⟨answer,seen.trans (sublist_append_left past more),barred⟩
  · exact (searchless _ new).elim

theorem OnRecord.since (recorded : OnRecord a past id) (since : Since past later) : OnRecord a later id := by
  intro lifecycle
  rcases recorded lifecycle with ⟨identity,same,added⟩ | ⟨record,seen⟩
  · exact .inl ⟨identity,same,since.sublist.subset added⟩
  · exact .inr ⟨record,since.sublist.subset seen⟩

theorem looked_searchless (searchless : ∀ exchange ∈ past,Searchless exchange.1) (id : IdentityId) : Looked a past id :=
  fun _ _ inside => (searchless _ inside).elim

theorem quiet_follows {p : AuthCall α} (quiet : p.Only Quiet) : Follows (remembering (Asks a))
    (fun later r => ∃ more,later = past ++ more ∧ Trace p more r ∧ ∀ exchange ∈ more,Searchless exchange.1) past p := by
  refine (follows_trace quiet ?_).mono ?_
  · intro past op quiet
    cases op <;> first | exact quiet.elim | trivial
  · rintro later r ⟨more,rfl,path⟩
    refine ⟨more,rfl,path,?_⟩
    intro exchange inside
    obtain ⟨op,answer⟩ := exchange
    have quiet : Quiet op := path.only quiet _ inside
    cases op <;> first | exact quiet.elim | trivial

end

section
variable {id identity : IdentityId}

theorem tally_yields (candidates active : List IdentityId) (blocked : Nat) :
    Yields (tally a candidates active blocked) fun trace counted => (∀ candidate ∈ active,candidate ∈ counted.1) ∧
      ∀ candidate ∈ candidates,candidate ∈ counted.1 ∨
        ∃ answer,⟨.findById a.organization candidate,.ok answer⟩ ∈ trace ∧ answer.any Identity.canAuthenticate = false := by
  induction candidates generalizing active blocked with
  | nil => exact .ret ⟨fun _ inside => inside,forall_mem_nil _⟩
  | cons candidate rest ih =>
    refine .ask fun answer => .check fun canonical known => ?_
    cases known
    have passes : ∀ active' blocked',(∀ c ∈ active,c ∈ active') →
        (candidate ∈ active' ∨ canonical.any Identity.canAuthenticate = false) →
        Yields (tally a rest active' blocked') fun trace counted => (∀ c ∈ active,c ∈ counted.1) ∧
          ∀ c ∈ candidate :: rest,c ∈ counted.1 ∨ ∃ answer,⟨.findById a.organization c,.ok answer⟩ ∈
            (⟨.findById a.organization candidate,.ok canonical⟩ :: trace : AuthTrace) ∧
              answer.any Identity.canAuthenticate = false := by
      intro active' blocked' kept here
      refine (ih active' blocked').mono ?_
      rintro trace counted ⟨before,others⟩
      refine ⟨fun c inside => before c (kept c inside),?_⟩
      intro c inside
      rcases mem_cons.mp inside with rfl | later
      · rcases here with counted | barred
        · exact .inl (before _ counted)
        · exact .inr ⟨canonical,mem_cons_self,barred⟩
      · rcases others c later with counted | ⟨answer,seen,barred⟩
        · exact .inl counted
        · exact .inr ⟨answer,mem_cons_of_mem _ seen,barred⟩
    cases canonical with
    | none => exact passes active blocked (fun _ inside => inside) (.inr rfl)
    | some record =>
      dsimp only
      cases signs : record.canAuthenticate with
      | true =>
        exact passes (active ++ [candidate]) blocked (fun _ inside => mem_append_left _ inside)
          (.inl (mem_append_right _ mem_cons_self))
      | false =>
        have barred : (some record).any Identity.canAuthenticate = false := signs
        simp only [Bool.false_eq_true,if_false]
        split
        · exact passes active (blocked+1) (fun _ inside => inside) (.inr barred)
        · exact passes active blocked (fun _ inside => inside) (.inr barred)

theorem convergeOn_finds (active : List IdentityId) (blocked : Nat) :
    Yields (convergeOn external completedAt active blocked) fun _ found => active = found.toList := by
  refine .refuseIf fun few => ?_
  cases active with
  | nil => exact .refuseIf fun _ => .ret rfl
  | cons first others =>
    have alone : others = [] := by
      simp only [Bool.or_eq_false_iff,decide_eq_false_iff_not,length_cons] at few
      exact length_eq_zero_iff.mp (by omega)
    exact .bind .any fun _ _ _ => .ret (by rw [alone]; rfl)

theorem converge_follows (searchless : ∀ exchange ∈ past,Searchless exchange.1) :
    Follows (remembering (Asks a)) (fun later r => ∀ found,r = .ok found → ∀ id,(∀ other,found = some other → other = id) →
      Looked a later id) past (converge a outcome external completedAt) := by
  have unsearched : Follows (remembering (Asks a)) (fun later r => ∀ found,r = .ok found → ∀ id,
      (∀ other,found = some other → other = id) → Looked a later id) past (.ret none : AuthCall (Option IdentityId)) :=
    fun _ _ id _ => looked_searchless searchless id
  unfold converge
  split
  · rename_i eligible
    split
    · exact unsearched
    · rename_i address _
      have lifecycle : a.lifecycleRepository = true := by
        simp only [Bool.and_eq_true] at eligible
        exact eligible.1.1.1.2
      refine .ask lifecycle fun answer => .check (fun candidates known => ?_) fun e _ => nofun
      cases known
      have quiet : ((tally a candidates [] 0).bind fun counted =>
          convergeOn external completedAt counted.1 counted.2).Only Quiet :=
        .bind (tally_quiet candidates [] 0) fun _ => convergeOn_quiet
      refine (quiet_follows quiet).mono ?_
      rintro later r ⟨more,rfl,path,without⟩ found rfl id same email others inside candidate member
      have seen : Yields ((tally a candidates [] 0).bind fun counted =>
          convergeOn external completedAt counted.1 counted.2) fun trace found => ∀ candidate ∈ candidates,
            candidate ∈ found.toList ∨ ∃ answer,⟨.findById a.organization candidate,.ok answer⟩ ∈ trace ∧
              answer.any Identity.canAuthenticate = false := by
        refine .bind (tally_yields candidates [] 0) fun done counted known => ?_
        refine (convergeOn_finds counted.1 counted.2).mono fun trace found same candidate member => ?_
        rcases known.2 candidate member with active | ⟨answer,told,barred⟩
        · exact .inl (same ▸ active)
        · exact .inr ⟨answer,mem_append_left trace told,barred⟩
      have mine : (⟨.findVerifiedByEmail email,.ok others⟩ : Exchange AuthOp AuthOp.Ret) =
          ⟨.findVerifiedByEmail address,.ok candidates⟩ := by
        rcases mem_append.mp inside with old | new
        · rcases mem_append.mp old with before | here
          · exact (searchless _ before).elim
          · exact mem_singleton.mp here
        · exact (without _ new).elim
      cases mine
      rcases seen more found path candidate member with active | ⟨answer,told,barred⟩
      · cases found with
        | none => cases active
        | some other =>
          cases mem_singleton.mp active
          exact .inl (same _ rfl)
      · refine .inr ⟨answer,?_,barred⟩
        exact (sublist_append_right past [_]).append (singleton_sublist.mpr told)
  · exact unsearched

theorem undoing_follows (follows : Follows (remembering (Asks a)) (fun later _ => Since past later)
    past step) : Follows (remembering (Asks a)) (fun later _ => Since past later) past (undoing a identity step) := by
  refine .bind follows.attempt (fun later outcome since => ?_) fun later e since => ?_
  · obtain ⟨_,same,since⟩ := since
    cases same
    cases outcome with
    | ok done => exact since
    | error e => exact .ask trivial fun answer => since.step trivial
  · obtain ⟨_,impossible,-⟩ := since
    cases impossible

theorem quiet_since {p : AuthCall α} (quiet : p.Only Quiet) :
    Follows (remembering (Asks a)) (fun later _ => Since past later) past p :=
  (quiet_follows quiet).mono fun _ _ ⟨more,same,_,without⟩ => ⟨more,same,without⟩

theorem create_identity (created : IdentityProfile.create identity createdAt = .ok profile) : profile.identity = identity := by
  obtain ⟨-,created⟩ := passed created
  cases created
  rfl

theorem applied_identity {profile applied : IdentityProfile}
    (done : profile.applyVerifiedClaims claims now = .ok applied) : applied.identity = profile.identity := by
  obtain ⟨-,done⟩ := passed done
  obtain ⟨-,done⟩ := passed done
  cases done
  rfl

theorem refreshed_identity {profile refreshed : IdentityProfile}
    (done : profile.refreshPresentationClaims claims now = .ok refreshed) : refreshed.identity = profile.identity := by
  obtain ⟨-,done⟩ := passed done
  obtain ⟨-,done⟩ := passed done
  split at done
  · cases done
    rfl
  · cases done
    rfl

theorem newProfile_follows (looked : Looked a past identity) (recorded : OnRecord a past identity) :
    Follows (remembering (Asks a)) (fun later _ => Since past later) past (newProfile identity claims completedAt) := by
  refine .check (fun profile created => .check (fun applied done => ?_) fun e _ => .same) fun e _ => .same
  have mine : applied.identity = identity := (applied_identity done).trans (create_identity created)
  refine .ask ⟨identity,looked,recorded,.inl mine⟩ fun answer => .checked ?_
  exact Since.same.step (show Searchless (.saveProfile applied) from trivial)

theorem provision_follows (looked : ∀ id,Looked a past id) : Follows (remembering (Asks a))
    (fun later r => ∀ id,r = .ok id → Looked a later id) past (provision a outcome external completedAt) := by
  refine .refuse (fun allowed => .ask trivial fun answer => .check (fun generated _ => ?_) fun e _ => nofun) nofun
  have lifecycle : a.lifecycleRepository = true := by
    simp only [Bool.or_eq_false_iff,Bool.not_eq_false'] at allowed
    exact allowed.1.2
  refine .check (fun canonical created => .ask lifecycle fun added => .check (fun done known => ?_) fun e _ => nofun)
    fun e _ => nofun
  cases known
  have named := (create_id created).1
  have added : Since past ((past ++ [⟨.randomToken 24,answer⟩]) ++ [⟨.add a.organization canonical,.ok ()⟩]) :=
    (Since.same.step (show Searchless (.randomToken 24) from trivial)).step trivial
  have recorded : OnRecord a ((past ++ [⟨.randomToken 24,answer⟩]) ++ [⟨.add a.organization canonical,.ok ()⟩])
      ⟨Text.of "opi_" ++ generated⟩ :=
    fun _ => .inl ⟨canonical,named,mem_append_right _ mem_cons_self⟩
  have attaches : ∀ middle,Since past middle → Follows (remembering (Asks a)) (fun later r => ∀ id,r = .ok id →
      Looked a later id) middle ((undoing a ⟨Text.of "opi_" ++ generated⟩ (attachVerified ⟨Text.of "opi_" ++ generated⟩
        external completedAt)).bind fun _ => .ret ⟨Text.of "opi_" ++ generated⟩) := by
    intro middle since
    refine .bind (undoing_follows (quiet_since attachVerified_quiet)) (fun later done further => ?_) fun later e _ => nofun
    intro id _
    exact (looked id).since (since.trans further)
  split
  · refine .bind (undoing_follows (newProfile_follows ((looked _).since added) recorded)) (fun later done further => ?_)
      fun later e _ => nofun
    exact attaches later (added.trans further)
  · exact attaches _ added

theorem resolveIdentity_follows (searchless : ∀ exchange ∈ past,Searchless exchange.1) :
    Follows (remembering (Asks a)) (fun later r => ∀ id,r = .ok id → Looked a later id) past
      (resolveIdentity a outcome external completedAt) := by
  refine .ask trivial fun answer => ?_
  have further : ∀ exchange ∈ past ++ [⟨.ownerOf external,answer⟩],Searchless exchange.1 := by
    intro exchange inside
    rcases mem_append.mp inside with old | new
    · exact searchless exchange old
    · cases mem_singleton.mp new
      trivial
  cases answer with
  | error e => exact nofun
  | ok owner =>
    cases owner with
    | some owner => exact fun id _ => looked_searchless further id
    | none =>
      refine .bind (converge_follows further) (fun later found looked => ?_) fun later e _ => nofun
      cases found with
      | some identity =>
        intro id same
        cases same
        exact looked _ rfl identity fun other same => (Option.some.inj same).symm
      | none => exact provision_follows fun id => looked _ rfl id nofun

theorem refreshProfile_follows (looked : Looked a past identity) (recorded : OnRecord a past identity) :
    Follows (remembering (Asks a)) (fun _ _ => True) past
      (refreshProfile a identity claims completedAt IdentityProfile.applyVerifiedClaims) := by
  unfold refreshProfile
  split
  · trivial
  · refine .ask trivial fun answer => .check (fun stored known => ?_) fun _ _ => trivial
    cases known
    have since : Since past (past ++ [⟨.findProfile identity,.ok stored⟩]) := Since.same.step trivial
    cases stored with
    | none =>
      refine .check (fun profile created => .check (fun applied done => ?_) fun _ _ => trivial) fun _ _ => trivial
      have mine : applied.identity = identity := (applied_identity done).trans (create_identity created)
      exact .ask ⟨identity,looked.since since,recorded.since since,.inl mine⟩ fun answer => .checked trivial
    | some profile =>
      refine .check (fun refreshed done => ?_) fun _ _ => trivial
      exact .ask ⟨identity,looked.since since,recorded.since since,.inr ⟨profile,mem_append_right _ mem_cons_self,
        refreshed_identity done⟩⟩ fun answer => .checked trivial

theorem requireActive_follows : Follows (remembering (Asks a)) (fun later r => Since past later ∧
    (r = .ok () → OnRecord a later identity)) past (requireActiveIdentity a identity) := by
  refine (quiet_follows requireActiveIdentity_quiet).mono ?_
  rintro later r ⟨more,rfl,path,without⟩
  refine ⟨⟨more,rfl,without⟩,?_⟩
  rintro rfl lifecycle
  cases requireActiveIdentity_yields more () path with
  | ungated absent => exact absurd lifecycle (Bool.eq_false_iff.mp absent)
  | @active record active => exact .inr ⟨record,mem_append_right _ mem_cons_self⟩

theorem completeExchange_follows : Follows (remembering (Asks a)) (fun later _ => Since [] later) []
    (completeExchange a transactionId continuationToken binding response false) := by
  refine .ask trivial fun now => .ask trivial fun answer => ?_
  have before : Since [] (([] ++ [⟨.now,now⟩]) ++ [⟨.consume transactionId continuationToken binding now,answer⟩]) :=
    (Since.same.step (show Searchless .now from trivial)).step trivial
  refine .check (fun transaction _ => ?_) fun e _ => before
  exact (quiet_since completeConsumed_quiet).mono fun later r since => before.trans since

theorem complete_follows : Follows (remembering (Asks a)) (fun _ _ => True) []
    (complete a transactionId continuationToken binding response) := by
  refine .bind completeExchange_follows (fun later exchange since => ?_) fun _ _ _ => trivial
  have searchless : ∀ exchange ∈ later,Searchless exchange.1 := by
    obtain ⟨more,rfl,without⟩ := since
    exact without
  refine .bind (resolveIdentity_follows searchless) (fun later identity looked => ?_) fun _ _ _ => trivial
  refine .bind requireActive_follows (fun last done active => ?_) fun _ _ _ => trivial
  obtain ⟨since,recorded⟩ := active
  refine .ask trivial fun updated => .check (fun _ _ => ?_) fun _ _ => trivial
  have shown : Since last (last ++ [⟨.updatePresentation (externalFromOutcome exchange.outcome),updated⟩]) :=
    Since.same.step trivial
  refine .bind (refreshProfile_follows ((looked identity rfl).since (since.trans shown)) ((recorded rfl).since shown))
    (fun _ _ _ => trivial) fun _ _ _ => trivial

theorem completing_follows : Follows (remembering (Asks a)) (fun _ _ => True) []
    (completing a transactionId continuationToken binding response) :=
  .bind complete_follows (fun _ _ _ => trivial) fun _ _ _ => trivial

end

end OpenProof.EmailTraces
