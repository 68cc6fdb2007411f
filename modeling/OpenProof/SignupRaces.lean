import OpenProof.AbandonedSignups
import OpenProof.SuspendedIdentities
import OpenProof.ForeignChallenges

namespace OpenProof.SignupRaces
open AtomicPrograms CallTraces CallLogs CallHistories Foundation ExternalIdentities IdentityProfiles List
open Accounts AccountWorld AccountService SignupFailures AccountTraces AbandonedSignups SuspendedIdentities ForeignChallenges
open CallProtocols AtomicPrograms.Prog Identities

structure Redeemable (s : Service) (challenge : VerificationChallenge) (w : AccountState) : Prop where
  stored : w.repository.challenges[challenge.id]? = some ⟨challenge,0⟩
  signup : challenge.purpose = .signupEmail
  alive : w.clock 0 < challenge.expiresAt
  reserved : ∃ held,w.repository.reservations[(localRef s challenge.destination).key]? = some held ∧
    held.identity = challenge.identity ∧ w.clock 1 < held.expiresAt
  profile : ∃ profile,w.profiles[challenge.identity]? = some profile ∧ profile.updatedAt ≤ w.clock 2
  lettered : validText (some challenge.destination) 320 = true
  provided : s.localProvider.empty = false
  unowned : w.directory.owners[(localRef s challenge.destination).key]? = none
  signs : ∃ canonical,w.identities.findById s.organization challenge.identity = some canonical ∧
    canonical.canAuthenticate = true
  prompt : ∀ n,n ≤ 3 → w.clock (n+3) < w.clock 3 + 300000

section
variable {s : Service} {challenge : VerificationChallenge} {w : AccountState} {secret : Text}

theorem signs_changed {id : IdentityId} {identities : Identities.IdentityStore}
    (found : identities.findById organization id = some canonical) (signs : canonical.canAuthenticate = true)
    (status : Identities.IdentityStatus) : (identities.changeStatus organization id status).1 = .ok () := by
  unfold Identities.IdentityStore.findById at found
  unfold Identities.IdentityStore.changeStatus
  cases stored : identities[id]? with
  | none => simp [stored] at found
  | some owned =>
    rw [stored] at found
    dsimp only at found ⊢
    split at found
    · cases found
    · rename_i mine
      cases found
      rw [if_neg mine]
      cases standing : owned.identity.status with
      | active => simp [Identity.changeStatus,standing]
      | _ => simp [Identity.canAuthenticate,standing,Identities.permitsAuthentication] at signs

theorem activate_done {held : Reservation}
    (done : linked challenge.identity (localRef s challenge.destination) w.clock = .ok link)
    (attached : (w.directory.attach link).1 = .ok ())
    (found : w.identities.findById s.organization challenge.identity = some canonical)
    (signs : canonical.canAuthenticate = true)
    (reserved : w.repository.reservations[(localRef s challenge.destination).key]? = some held)
    (mine : held.identity = challenge.identity) :
    (((activate s challenge profile).bind fun _ => (.ret () : AccountCall Unit)).run exec w).1 = .ok () := by
  have changed := signs_changed found signs .active
  have released : (w.repository.releaseSubject (localRef s challenge.destination) challenge.identity).1 = .ok () := by
    simp [AccountRepository.releaseSubject,reserved,mine]
  have tried : ((attachVerified challenge.identity (localRef s challenge.destination)).attempt :
      AccountCall (Except Error Unit)).run exec w = _ := Prog.run_attempt
  rw [attachVerified_run done attached] at tried
  unfold activate
  simp only [Prog.bind_eq,Prog.run_bind,tried,orUndo,ask,Prog.perform,Prog.run,exec,changed,released,check,
    Prog.pure_eq]

theorem redeemable_verifies (redeemable : Redeemable s challenge w)
    (hashed : digest s challenge.id secret = .ok challenge.digest) :
    ((verifyEmail s challenge.id secret).run exec w).1 = .ok () := by
  obtain ⟨stored,signup,alive,⟨held,reserved,mine,lasting⟩,⟨profile,known,forward⟩,lettered,provided,unowned,
    ⟨canonical,found,signs⟩,prompt⟩ := redeemable
  have some_ : s.policy.maximumAttempts ≠ 0 := Nat.ne_of_gt s.policy.allowing.1
  have redeemed : w.repository.consume challenge.id challenge.digest (w.clock 0) s.policy.maximumAttempts none =
      (.ok challenge,{ w.repository with challenges := w.repository.challenges.erase challenge.id }) := by
    simp [AccountRepository.consume,stored,some_,VerificationChallenge.expiredAt,Int.not_le.mpr alive]
  have begins : (consume s challenge.id secret .signupEmail none).run exec w = (.ok challenge,{ w with
      clock := tail w.clock
      repository := { w.repository with challenges := w.repository.challenges.erase challenge.id } }) := by
    rw [consume_run hashed,redeemed]
    simp [Except.bind,signup]
  have seen : AccountRepository.reservedOwner (localRef s challenge.destination) (w.clock 1)
      { w.repository with challenges := w.repository.challenges.erase challenge.id } = some challenge.identity := by
    simp [AccountRepository.reservedOwner,reserved,Int.not_le.mpr lasting,mine]
  have given : (localRef s challenge.destination).subject.empty = false := by
    simp [localRef,StrongId.empty,challenge.addressed.1]
  obtain ⟨link,done⟩ : ∃ link,linked challenge.identity (localRef s challenge.destination) (fun n => w.clock (n+3)) =
    .ok link := linked_prompt challenge.named.2 ⟨provided,given⟩ prompt
  obtain ⟨-,external,complete⟩ := linked_spec done
  have attached : (w.directory.attach link).1 = .ok () := by
    unfold Directory.attach
    rw [if_neg (not_not.mpr complete),external,unowned]
  rcases profile.setEmail_cases challenge.destination true (w.clock 2) with ⟨-,set⟩ | ⟨unable,-⟩
  · unfold verifyEmail verifyEmailAndGetExternal
    simp only [Prog.bind_eq,Prog.bind_assoc]
    rw [Prog.run_bind_ok (congrArg Prod.fst begins),begins]
    simp only [ask,Prog.run_perform_bind,exec,tail_get,seen,Except.toOption,Option.any_some,decide_true,Bool.not_true,
      Prog.refuseIf_false,Prog.ret_bind,requireProfile,check,Prog.bind_eq,known,set,Prog.pure_eq,
      Prog.bind_assoc]
    exact activate_done done attached found signs reserved mine
  · exact absurd ⟨forward,lettered⟩ unable

end

def Signs (subject : ExternalSubject) (past : AccountTrace) : AccountOp → Prop
  | .attach _ | .detach .. | .consume .. => False
  | .saveProfile _ | .changeStatus .. => ∃ organization record answer,⟨.add organization record,answer⟩ ∈ past
  | .replace challenge => Pending challenge.identity subject past
  | _ => True

section
variable {s : Service} {past later : AccountTrace} {identity : IdentityId} {normalized password destination : Text}

theorem looks_follows {p : AccountCall α} (looks : p.Only Looks) : Follows (remembering (Signs subject))
    (fun later _ => Since past later) past p := by
  refine (follows_trace looks ?_).mono ?_
  · intro past op looks
    cases op <;> first | exact looks.elim | trivial
  · rintro later r ⟨more,rfl,path⟩
    refine ⟨more,rfl,?_⟩
    intro exchange inside
    obtain ⟨op,answer⟩ := exchange
    have looks : Looks op := path.only looks _ inside
    cases op <;> first | exact looks.elim | rfl

theorem issue_signs (pending : Pending identity subject past) :
    Follows (remembering (Signs subject)) (fun later _ => Since past later) past
      (issue s identity purpose destination lifetime) := by
  refine .ask trivial fun drawn => .check (fun idRaw _ => .ask trivial fun drawn' => ?_) fun _ _ => Since.same.step rfl
  have since : ∀ answer : Result Text,∀ answer' : Result Text,Since past (past ++ [⟨.randomToken 24,answer⟩] ++
      [⟨.randomToken 24,answer'⟩]) := fun _ _ => (Since.same.step rfl).step rfl
  refine .check (fun secret _ => .check (fun fingerprint _ => .ask trivial fun now => ?_) fun _ _ => since _ _)
    fun _ _ => since _ _
  refine .check (fun challenge created => .ask ?_ fun stored => .check (fun _ _ => ?_) fun _ _ => ?_) fun _ _ => ?_
  · have mine : challenge.identity = identity := by
      unfold VerificationChallenge.create at created
      split at created <;> cases created
      rfl
    change Pending challenge.identity subject _
    rw [mine]
    exact pending.since ((since _ _).step rfl)
  · exact ((since _ _).step rfl).step rfl
  · exact ((since _ _).step rfl).step rfl
  · exact (since _ _).step rfl

theorem release_signs : Follows (remembering (Signs subject)) (fun later _ => past.Sublist later) past
    (release (localRef s normalized) identity) := ⟨trivial,fun _ => sublist_append_left _ _⟩

theorem withdraw_signs : Follows (remembering (Signs subject)) (fun later _ => past.Sublist later) past
    (withdraw (localRef s normalized) identity) := by
  refine .ask trivial fun removed => release_signs.mono fun later _ grown => ?_
  exact (sublist_append_left past _).trans grown

theorem hold_signs (kept : ∀ exchange ∈ past,removes exchange.1 = false)
    (undoes : ∀ later : AccountTrace,past.Sublist later → Follows (remembering (Signs ⟨normalized⟩)) (fun _ _ => True) later undo) :
    Follows (remembering (Signs ⟨normalized⟩))
      (fun later r => r = .ok () → Since past later ∧ Pending identity ⟨normalized⟩ later) past
        (hold s identity normalized password undo) := by
  refine .ask trivial fun now => .ask trivial fun base => .ask trivial fun reserved => ?_
  have since : Since past (past ++ [⟨.now,now⟩] ++ [⟨.now,base⟩] ++ [⟨.reserveSubject (localRef s normalized) identity now
      (base + s.policy.emailVerificationLifetime),reserved⟩]) := ((Since.same.step rfl).step rfl).step rfl
  refine orUndo_follows (fun _ _ => .ask trivial fun enrolled => ?_) (fun _ _ => undoes _ since.sublist) nofun
  refine orUndo_ends (fun done same _ => ?_) (fun e _ => ?_) nofun
  · cases same
    exact ⟨since.step rfl,⟨password,by simp [remembering,localRef]⟩,(since.step rfl).kept kept⟩
  · refine release_signs.bind (fun later _ grown => undoes later ?_) fun _ _ _ => trivial
    exact (since.sublist.trans (sublist_append_left _ _)).trans grown

theorem joinExisting_signs (kept : ∀ exchange ∈ past,removes exchange.1 = false) :
    Follows (remembering (Signs ⟨normalized⟩)) (fun _ _ => True) past (joinExisting s identity normalized password) := by
  have nothing : ∀ before : AccountTrace,∀ later : AccountTrace,before.Sublist later → Follows
      (remembering (Signs ⟨normalized⟩)) (fun _ _ => True) later (.ret () : AccountCall Unit) := fun _ _ _ => trivial
  refine .ask trivial fun listed => .check (fun connections _ => .refuse (fun _ => ?_) trivial) fun _ _ => trivial
  refine (hold_signs ?_ (nothing _)).bind (fun held _ done => ?_) fun _ _ _ => trivial
  · simpa [remembering,removes,or_imp,forall_and] using kept
  · refine (issue_signs (done rfl).2).attempt.bind (fun later _ _ => ?_) fun _ _ _ => trivial
    refine orUndo_follows (fun dispatch _ => .ask trivial fun sent => ?_) (fun _ _ => withdraw_signs.mono fun _ _ _ => trivial)
      fun _ _ => trivial
    exact orUndo_follows (fun _ _ => trivial) (fun _ _ => withdraw_signs.mono fun _ _ _ => trivial) fun _ _ => trivial

theorem discardIdentity_signs (added : ∃ organization record answer,⟨.add organization record,answer⟩ ∈ past) :
    Follows (remembering (Signs subject)) (fun _ _ => True) past (discardIdentity s identity) := ⟨added,fun _ => trivial⟩

theorem enrolNew_signs (kept : ∀ exchange ∈ past,removes exchange.1 = false) :
    Follows (remembering (Signs ⟨normalized⟩)) (fun later r => ∀ enrolled,r = .ok enrolled →
      Pending enrolled ⟨normalized⟩ later ∧ ∃ organization record answer,⟨.add organization record,answer⟩ ∈ later) past
        (enrolNew s normalized password) := by
  refine .ask trivial fun drawn => .check (fun idRaw _ => .ask trivial fun now => ?_) nofun
  refine .check (fun canonical _ => .check (fun deactivated _ => .ask trivial fun added => ?_) nofun) nofun
  have entered : ∃ organization record answer,⟨.add organization record,answer⟩ ∈
      past ++ [⟨.randomToken 24,drawn⟩] ++ [⟨.now,now⟩] ++ [⟨.add s.organization deactivated,added⟩] :=
    ⟨s.organization,deactivated,added,by simp⟩
  refine .check (fun _ _ => (hold_signs ?_ fun later grown => ?_).bind (fun later _ done => ?_) fun _ _ _ => nofun) nofun
  · simpa [remembering,removes,or_imp,forall_and] using kept
  · obtain ⟨organization,record,answer,inside⟩ := entered
    exact discardIdentity_signs ⟨organization,record,answer,grown.subset inside⟩
  · intro enrolled same
    cases same
    obtain ⟨since,pending⟩ := done rfl
    obtain ⟨organization,record,answer,inside⟩ := entered
    exact ⟨pending,organization,record,answer,since.sublist.subset inside⟩

theorem introduce_signs (pending : Pending identity ⟨normalized⟩ past)
    (added : ∃ organization record answer,⟨.add organization record,answer⟩ ∈ past) :
    Follows (remembering (Signs ⟨normalized⟩)) (fun _ _ => True) past (introduce s identity normalized displayName) := by
  obtain ⟨organization,record,answer,inside⟩ := added
  refine (looks_follows pendingProfile_looks).bind (fun held profile since => ?_) fun _ _ _ => trivial
  refine .ask ⟨organization,record,answer,since.sublist.subset inside⟩ fun saved => ?_
  refine orUndo_follows (fun _ _ => ?_) (fun _ _ => ?_) fun _ _ => trivial
  · refine (issue_signs (pending.since (since.step rfl))).bind (fun _ _ _ => ?_) fun _ _ _ => trivial
    exact .ask trivial fun sent => .check (fun _ _ => trivial) fun _ _ => trivial
  · refine withdraw_signs.bind (fun later _ grown => discardIdentity_signs ?_) fun _ _ _ => trivial
    exact ⟨organization,record,answer,(since.sublist.trans ((sublist_append_left _ _).trans grown)).subset inside⟩

theorem signup_signs (normal : normalizeEmail email = .ok normalized) :
    Follows (remembering (Signs ⟨normalized⟩)) (fun _ _ => True) [] (signup s email password displayName) := by
  unfold signup
  rw [normal]
  refine (looks_follows screen_looks).bind (fun later joins since => ?_) fun _ _ _ => trivial
  have kept := since.kept (forall_mem_nil _)
  cases joins with
  | none =>
    exact (enrolNew_signs kept).bind (fun held identity done => introduce_signs (done identity rfl).1 (done identity rfl).2)
      fun _ _ _ => trivial
  | some existing => exact joinExisting_signs kept

theorem calling_signs (normal : normalizeEmail email = .ok normalized) :
    Follows (remembering (Signs ⟨normalized⟩)) (fun _ _ => True) [] (calling s (.signup email password displayName)) :=
  (signup_signs normal).bind (fun _ _ _ => trivial) fun _ _ _ => trivial

end

structure Screened (s : Service) (existing : IdentityId) (normalized : Text) (looked : AccountTrace) : Prop where
  looks : ∀ exchange ∈ looked,Looks exchange.1
  unowned : ⟨.ownerOf (localRef s normalized),.ok none⟩ ∈ looked
  verified : ∃ verified,⟨.findVerifiedByEmail normalized,.ok verified⟩ ∈ looked ∧ existing ∈ verified
  signs : ∃ canonical : Identity,canonical.canAuthenticate = true ∧
    ⟨.findById s.organization existing,.ok (some canonical)⟩ ∈ looked

structure Sent (s : Service) (existing : IdentityId) (normalized : Text) (issued : Instant)
    (challenge : VerificationChallenge) (dispatch : VerificationDispatch) : Prop where
  mine : challenge.identity = existing
  signup : challenge.purpose = .signupEmail
  addressed : challenge.destination = normalized
  lasts : challenge.expiresAt = issued + s.policy.emailVerificationLifetime
  named : dispatch.id = challenge.id
  hashed : digest s challenge.id dispatch.secret = .ok challenge.digest

def won (s : Service) (existing : IdentityId) (normalized password : Text) (looked : AccountTrace)
    (connections : List ExternalIdentityRef) (now base issued : Instant) (idRaw secret : Text)
    (challenge : VerificationChallenge) (dispatch : VerificationDispatch) : AccountTrace :=
  looked ++ [⟨.externalIdentitiesOf existing,.ok connections⟩,⟨.now,now⟩,⟨.now,base⟩,
    ⟨.reserveSubject (localRef s normalized) existing now (base + s.policy.emailVerificationLifetime),.ok ()⟩,
    ⟨.enrollPending existing ⟨normalized⟩ password,.ok ()⟩,⟨.randomToken 24,.ok idRaw⟩,⟨.randomToken 24,.ok secret⟩,
    ⟨.now,issued⟩,⟨.replace challenge,.ok ()⟩,⟨.deliver dispatch,.ok ()⟩]

def Joined (s : Service) (normalized password : Text) (existing : IdentityId) (trace : AccountTrace) : Prop :=
  ∃ looked connections now base issued idRaw secret challenge dispatch,Screened s existing normalized looked ∧
    trace = won s existing normalized password looked connections now base issued idRaw secret challenge dispatch ∧
      Sent s existing normalized issued challenge dispatch

section
variable {s : Service} {identity : IdentityId} {normalized password : Text}

theorem orUndo_gives {after : AccountTrace → α → Prop} (given : ∀ a,result = .ok a → after [] a) : Yields (orUndo result undo) after := by
  cases result with
  | ok a => exact .ret (given a rfl)
  | error e => exact Yields.any.bind fun _ _ _ => .fail

theorem orUndo_yields {f : α → AccountCall β} {after : AccountTrace → β → Prop}
    (rest : ∀ a,result = .ok a → Yields (f a) after) : Yields ((orUndo result undo).bind f) after := by
  have given : Yields (orUndo result undo) fun trace a => trace = [] ∧ result = .ok a := orUndo_gives fun a same => ⟨rfl,same⟩
  refine given.bind ?_
  rintro done a ⟨rfl,same⟩
  exact rest a same

theorem hold_yields {undo : AccountCall Unit} : Yields (hold s identity normalized password undo) fun trace _ =>
    ∃ now base,trace = [⟨.now,now⟩,⟨.now,base⟩,⟨.reserveSubject (localRef s normalized) identity now
      (base + s.policy.emailVerificationLifetime),.ok ()⟩,⟨.enrollPending identity ⟨normalized⟩ password,.ok ()⟩] := by
  refine .ask fun now => .ask fun base => .ask fun reserved => orUndo_yields fun _ done => .ask fun enrolled => ?_
  refine orUndo_gives fun _ same => ⟨now,base,?_⟩
  rw [done,same]
  rfl

theorem issue_yields : Yields (issue s identity .signupEmail normalized s.policy.emailVerificationLifetime)
    fun trace dispatch => ∃ idRaw secret issued challenge,trace = [⟨.randomToken 24,.ok idRaw⟩,⟨.randomToken 24,.ok secret⟩,
      ⟨.now,issued⟩,⟨.replace challenge,.ok ()⟩] ∧ Sent s identity normalized issued challenge dispatch := by
  refine .ask fun drawn => .check fun idRaw first => .ask fun drawn' => .check fun secret second => ?_
  refine .check fun fingerprint hashed => .ask fun issued => .check fun challenge created => .ask fun stored => ?_
  refine .check fun _ done => .ret ⟨idRaw,secret,issued,challenge,?_,?_⟩
  · rw [first,second,done]
  · unfold VerificationChallenge.create at created
    split at created <;> cases created
    exact ⟨rfl,rfl,rfl,rfl,rfl,hashed⟩

theorem joinExisting_yields {existing : IdentityId} : Yields (joinExisting s existing normalized password)
    fun trace joined => joined = existing ∧ ∃ connections now base issued idRaw secret challenge dispatch,
      trace = won s existing normalized password [] connections now base issued idRaw secret challenge dispatch ∧
        Sent s existing normalized issued challenge dispatch := by
  refine .ask fun listed => .check fun connections known => .refuseIf fun _ => ?_
  refine hold_yields.bind ?_
  rintro _ _ ⟨now,base,rfl⟩
  refine issue_yields.attempt.bind fun issuing outcome given => ?_
  refine orUndo_yields fun dispatch issued => .ask fun sent => orUndo_yields fun _ delivered => .ret ⟨rfl,?_⟩
  obtain ⟨idRaw,secret,issued,challenge,rfl,sealed⟩ := given dispatch issued
  refine ⟨connections,now,base,issued,idRaw,secret,challenge,dispatch,?_,sealed⟩
  rw [known,delivered]
  rfl

theorem tally_from (candidates active : List IdentityId) (blocked : Nat) :
    Yields (tally s candidates active blocked) fun _ counted => ∀ candidate ∈ counted.1,candidate ∈ active ∨
      candidate ∈ candidates := by
  induction candidates generalizing active blocked with
  | nil => exact .ret fun candidate inside => .inl inside
  | cons candidate rest ih =>
    have onward : ∀ active' blocked',(∀ c ∈ active',c ∈ active ∨ c = candidate) →
        Yields (tally s rest active' blocked') fun _ counted => ∀ c ∈ counted.1,c ∈ active ∨ c ∈ candidate :: rest := by
      intro active' blocked' known
      refine (ih active' blocked').mono fun _ counted others c inside => ?_
      rcases others c inside with earlier | later
      · rcases known c earlier with old | same
        · exact .inl old
        · exact .inr (by simp [same])
      · exact .inr (mem_cons_of_mem _ later)
    have same : ∀ c ∈ active,c ∈ active ∨ c = candidate := fun _ inside => .inl inside
    refine .ask fun answer => .check fun canonical _ => ?_
    cases canonical with
    | none => exact onward active blocked same
    | some canonical =>
      dsimp only
      split
      · apply onward (active ++ [candidate]) blocked
        simp
      · split
        · exact onward active (blocked+1) same
        · exact onward active blocked same

theorem screen_sees : Yields (screen s normalized) fun trace joins => ∀ existing,joins = some existing →
    ⟨.ownerOf (localRef s normalized),.ok none⟩ ∈ trace ∧
      ∃ verified,⟨.findVerifiedByEmail normalized,.ok verified⟩ ∈ trace ∧ existing ∈ verified := by
  refine .ask fun answer => .check fun owner known => .refuseIf fun free => .ask fun now => .ask fun _ => .check fun _ _ =>
    .refuseIf fun _ => .ask fun listed => .check fun candidates found => .bind (tally_from candidates [] 0) ?_
  rintro trace ⟨active,blocked⟩ from_
  refine .checked fun joins done existing same => ?_
  subst same
  have vacant : owner = none := by simpa using free
  rcases from_ existing (joined_member done) with none | inside
  · cases none
  · rw [known,found,vacant]
    exact ⟨by simp,candidates,by simp,inside⟩

theorem screen_screened : Yields (screen s normalized) fun trace joins => ∀ existing,joins = some existing →
    Screened s existing normalized trace := by
  intro trace joins path existing same
  have looks := path.only screen_looks
  obtain ⟨unowned,verified⟩ := screen_sees trace joins path existing same
  rcases screen_yields trace joins path existing same with ⟨canonical,signs,seen⟩ | ⟨record,-,added⟩
  · exact ⟨looks,unowned,verified,canonical,signs,seen⟩
  · exact (looks _ added).elim

theorem enrolNew_yields : Yields (enrolNew s normalized password) fun trace _ =>
    ∃ organization record answer,⟨.add organization record,answer⟩ ∈ trace := by
  refine .ask fun _ => .check fun idRaw _ => .ask fun now => .check fun canonical _ => .check fun deactivated _ =>
    .ask fun answer => .check fun _ _ => Yields.any.bind fun done _ _ => .ret ?_
  exact ⟨s.organization,deactivated,answer,by simp⟩

theorem signup_yields (normal : normalizeEmail email = .ok normalized) :
    Yields (signup s email password displayName) fun trace existing =>
      (∃ organization record answer,⟨.add organization record,answer⟩ ∈ trace) ∨
        Joined s normalized password existing trace := by
  refine .check fun address same => ?_
  cases normal.symm.trans same
  refine screen_screened.bind fun looked joins screened => ?_
  cases joins with
  | none =>
    refine enrolNew_yields.bind fun done identity added => Yields.any.mono fun more _ _ => .inl ?_
    obtain ⟨organization,record,answer,inside⟩ := added
    exact ⟨organization,record,answer,by simp [inside]⟩
  | some existing =>
    refine joinExisting_yields.mono ?_
    rintro trace _ ⟨rfl,connections,now,base,issued,idRaw,secret,challenge,dispatch,rfl,sent⟩
    exact .inr ⟨looked,connections,now,base,issued,idRaw,secret,challenge,dispatch,screened _ rfl,rfl,sent⟩

theorem calling_yields (normal : normalizeEmail email = .ok normalized) :
    Yields (calling s (.signup email password displayName)) fun trace reply => ∀ existing,reply = .signedUp existing →
      (∃ organization record answer,⟨.add organization record,answer⟩ ∈ trace) ∨
        Joined s normalized password existing trace := by
  refine (signup_yields normal).bind fun trace identity done => .ret fun existing same => ?_
  cases same
  rwa [append_nil]

end

def Applicants (s : Service) (normalized : Text) (floor : AccountFloor) : Prop :=
  ∀ m ∈ floor.members,∃ email password displayName,m.begun = calling s (.signup email password displayName) ∧
    normalizeEmail email = .ok normalized

def Converge (existing : IdentityId) (log : List AccountEntry) : Prop :=
  ∀ entry ∈ log,(∀ organization record,entry.exchange.1 ≠ .add organization record) ∧
    ∀ external identity now expiresAt,entry.exchange.1 = .reserveSubject external identity now expiresAt →
      identity = existing

def Unsettles (key : ExternalKey) (expiresAt : Instant) : AccountOp → Prop
  | .releaseSubject external _ => external.key = key
  | .reserveSubject external _ _ sooner => external.key = key ∧ sooner < expiresAt
  | _ => False

def Apart (key : ExternalKey) (i : Nat) (log : List AccountEntry) : Prop :=
  ∀ before (entry : AccountEntry) after,log = before ++ entry :: after → entry.caller = i → ∀ (external : ExternalIdentityRef) identity now expiresAt,
    external.key = key → entry.exchange = ⟨.reserveSubject external identity now expiresAt,.ok ()⟩ →
      ∀ later ∈ after,later.caller ≠ i → ¬Unsettles key expiresAt later.exchange.1

def Fresh (log : List AccountEntry) : Prop :=
  ∀ entry ∈ log,∀ challenge,entry.exchange.1 = .replace challenge →
    entry.found.repository.challenges[challenge.id]? = none

structure Dated (w : AccountState) : Prop where
  steady : Steady w.clock
  past : ∀ (id : IdentityId) (profile : IdentityProfile),w.profiles[id]? = some profile → profile.updatedAt ≤ w.clock 0

def Holding (key : ExternalKey) (identity : IdentityId) (expiresAt : Instant) (w : AccountState) : Prop :=
  ∃ held,w.repository.reservations[key]? = some held ∧ held.identity = identity ∧ expiresAt ≤ held.expiresAt

def touches : AccountOp → Bool
  | .reserveSubject .. | .releaseSubject .. => true
  | _ => false

def replaces : AccountOp → Bool
  | .replace _ => true
  | _ => false

section
variable {s : Service} {initial : AccountState} {floor : AccountFloor} {normalized : Text} {existing : IdentityId}
  {before after first rest : List AccountEntry} {entry : AccountEntry} {i : Nat}

theorem Applicants.serves (applicants : Applicants s normalized floor) : Serves s floor := by
  intro m inside
  obtain ⟨email,password,displayName,begun,-⟩ := applicants m inside
  exact ⟨.signup email password displayName,begun⟩

theorem entry_signs (played : Plays accountStage initial floor) (applicants : Applicants s normalized floor)
    (split : floor.log = before ++ entry :: after) : Signs ⟨normalized⟩ (own entry.caller before) entry.exchange.1 := by
  have entered := played.accounted.entered entry (by simp [split])
  obtain ⟨email,password,displayName,begun,normal⟩ := applicants _ (getElem_mem entered)
  have follows : Follows (remembering (Signs ⟨normalized⟩)) (fun _ _ => True) [] floor.members[entry.caller].begun := by
    rw [begun]
    exact calling_signs normal
  exact asked_then played split (getElem?_eq_getElem entered) follows

structure Untouched (initial w : AccountState) : Prop where
  directory : w.directory = initial.directory
  identities : w.identities = initial.identities
  profiles : w.profiles = initial.profiles

theorem untouched (played : Plays accountStage initial floor) (applicants : Applicants s normalized floor)
    (converge : Converge existing floor.log) :
    Untouched initial floor.world ∧ ∀ entry ∈ floor.log,Untouched initial entry.found := by
  refine played.always (φ:=Untouched initial) ?_ ⟨rfl,rfl,rfl⟩ ?_
  · intro w w' passes kept
    exact ⟨passes.directory.trans kept.directory,passes.identities.trans kept.identities,
      passes.profiles.trans kept.profiles⟩
  · intro entry inside kept
    obtain ⟨before,after,split⟩ := append_of_mem inside
    have signs := entry_signs played applicants split
    have adds : ¬∃ organization record answer,⟨.add organization record,answer⟩ ∈ own entry.caller before := by
      rintro ⟨organization,record,answer,added⟩
      obtain ⟨earlier,there,-,same⟩ := mem_own.mp added
      exact (converge earlier (by simp [split,there])).1 organization record (congrArg Sigma.fst same)
    obtain ⟨caller,found,op,answer⟩ := entry
    cases op with
    | attach | detach => exact signs.elim
    | saveProfile | changeStatus => exact absurd signs adds
    | add organization record => exact absurd rfl ((converge _ inside).1 organization record)
    | _ => exact ⟨kept.directory,kept.identities,kept.profiles⟩

def Onward (since : Instant) (w : AccountState) : Prop := since ≤ w.clock 0 ∧ Steady w.clock

theorem Onward.step {w : AccountState} (onward : Onward since w) (op : AccountOp) : Onward since (exec op w).2 := by
  obtain ⟨forward,steady⟩ := clock_kept op onward.2
  exact ⟨Int.le_trans onward.1 forward,steady⟩

theorem Onward.drift {w w' : AccountState} (passes : Passes w w') (onward : Onward since w) :
    Onward since w' := ⟨Int.le_trans onward.1 passes.forward,passes.steady⟩

theorem clock_onward (played : Plays accountStage initial floor) (steady : Steady initial.clock) :
    Onward (initial.clock 0) floor.world ∧ ∀ entry ∈ floor.log,Onward (initial.clock 0) entry.found :=
  played.always (fun _ _ => Onward.drift) ⟨Int.le_refl _,steady⟩ fun entry _ onward => onward.step entry.exchange.1

theorem readings_ordered {one : AccountEntry} (played : Plays accountStage initial floor) (steady : Steady initial.clock)
    {earlier later : Instant} (split : floor.log = first ++ one :: (between ++ two :: after))
    (looks : one.exchange = ⟨.now,earlier⟩) (again : two.exchange = ⟨.now,later⟩) : earlier ≤ later := by
  have ticking := (clock_onward played steady).2 one (by simp [split])
  have answered := played.answered
  simp only [split,mem_append,mem_cons] at answered
  have seen := answered one (.inr (.inl rfl))
  have seen' := answered two (.inr (.inr (.inr (.inl rfl))))
  obtain ⟨_,found,_⟩ := one
  obtain ⟨_,found',_⟩ := two
  cases looks
  cases again
  have seen : earlier = found.clock 0 := seen
  have seen' : later = found'.clock 0 := seen'
  have begun : Onward earlier (exec .now found).2 := ⟨seen ▸ ticking.2 0,fun n => ticking.2 (n+1)⟩
  have reached : Onward earlier found' := kept_until played (fun _ _ => Onward.drift) split begun
    fun entry _ onward => onward.step entry.exchange.1
  exact seen' ▸ reached.1

theorem own_once {does : AccountOp → Bool} (once : (own i floor.log).countP (fun exchange => does exchange.1) = 1)
    (split : floor.log = first ++ entry :: rest) (mine : entry.caller = i) (done : does entry.exchange.1 = true) :
    ∀ later ∈ rest,later.caller = i → does later.exchange.1 = false := by
  intro later inside same
  have counted := once
  rw [split,own_append,countP_append] at counted
  have head : own i (entry :: rest) = entry.exchange :: own i rest := by simp [own,mine]
  simp only [head,countP_cons,done,if_true] at counted
  have none : (own i rest).countP (fun exchange => does exchange.1) = 0 := by omega
  have idle := countP_eq_zero.mp none later.exchange (mem_own.mpr ⟨later,inside,same,rfl⟩)
  simpa using idle

theorem holding_kept {w : AccountState} (holding : Holding key existing expiresAt w)
    (settled : ¬Unsettles key expiresAt op)
    (joins : ∀ external identity now until_,op = .reserveSubject external identity now until_ → identity = existing) :
    Holding key existing expiresAt (exec op w).2 := by
  obtain ⟨held,there,mine,lasting⟩ := holding
  cases op with
  | consume id presented now maximumAttempts expected =>
    exact ⟨held,(congrArg (·[key]?) (AccountRepository.consume_reservations ..)).trans there,mine,lasting⟩
  | reserveSubject external identity now until_ =>
    cases joins external identity now until_ rfl
    rcases AccountRepository.reserveSubject_cases external existing now until_ w.repository with ⟨e,same⟩ | same
    · exact ⟨held,by simp [exec,same,there],mine,lasting⟩
    · by_cases here : external.key = key
      · refine ⟨⟨existing,until_⟩,by simp [exec,same,here],rfl,?_⟩
        exact Int.not_lt.mp fun sooner => settled ⟨here,sooner⟩
      · exact ⟨held,by simp [exec,same,here,there],mine,lasting⟩
  | releaseSubject external owner =>
    have other : external.key ≠ key := settled
    rcases AccountRepository.releaseSubject_cases external owner w.repository with same | same
    · exact ⟨held,by simp [exec,same,there],mine,lasting⟩
    · exact ⟨held,by simp [exec,same,other,there],mine,lasting⟩
  | _ => exact ⟨held,there,mine,lasting⟩

theorem signup_won {joined : IdentityId} (played : Plays accountStage initial floor)
    (applicants : Applicants s normalized floor) (converge : Converge existing floor.log)
    (signed : floor.members[i]? = some ⟨p,.ret (.signedUp joined)⟩) :
    ∃ password,Joined s normalized password existing (own i floor.log) := by
  obtain ⟨email,password,displayName,begun,normal⟩ := applicants _ (mem_of_getElem? signed)
  have path := played.returned signed
  have begun : p = calling s (.signup email password displayName) := begun
  rw [begun] at path
  rcases calling_yields normal _ _ path joined rfl with ⟨organization,record,answer,added⟩ | done
  · obtain ⟨entry,inside,-,same⟩ := mem_own.mp added
    exact absurd (congrArg Sigma.fst same) ((converge entry inside).1 organization record)
  · obtain ⟨looked,connections,now,base,issued,idRaw,secret,challenge,dispatch,screened,same,sent⟩ := done
    have reserved : ⟨.reserveSubject (localRef s normalized) joined now (base + s.policy.emailVerificationLifetime),.ok ()⟩ ∈
        own i floor.log := by simp [same,won]
    obtain ⟨entry,inside,-,reserves⟩ := mem_own.mp reserved
    cases (converge entry inside).2 _ _ _ _ (congrArg Sigma.fst reserves)
    exact ⟨password,looked,connections,now,base,issued,idRaw,secret,challenge,dispatch,screened,same,sent⟩

end

section
variable {s : Service} {initial : AccountState} {floor : AccountFloor} {normalized password : Text}
  {existing : IdentityId} {i : Nat} {looked : AccountTrace} {connections : List ExternalIdentityRef}
  {now base issued : Instant} {idRaw secret : Text} {challenge : VerificationChallenge} {dispatch : VerificationDispatch}

theorem looked_idle {does : AccountOp → Bool} (screened : Screened s existing normalized looked)
    (idle : ∀ op,Looks op → does op = false) : looked.countP (fun exchange => does exchange.1) = 0 := by
  apply countP_eq_zero.mpr
  intro exchange inside
  simp [idle exchange.1 (screened.looks exchange inside)]

theorem untouched_settled (idle : touches op = false) : ¬Unsettles key expiresAt op := by
  cases op with
  | releaseSubject | reserveSubject => cases idle
  | _ => exact id

theorem looks_idle (looks : Looks op) : touches op = false ∧ replaces op = false ∧ removes op = false := by
  cases op <;> first | exact looks.elim | exact ⟨rfl,rfl,rfl⟩

theorem reserved_holding {w : AccountState}
    (done : (w.repository.reserveSubject external existing now until_).1 = .ok ()) :
    Holding external.key existing until_ (exec (.reserveSubject external existing now until_) w).2 := by
  rcases AccountRepository.reserveSubject_cases external existing now until_ w.repository with ⟨e,same⟩ | same
  · rw [same] at done
    cases done
  · exact ⟨⟨existing,until_⟩,by simp [exec,same],rfl,Int.le_refl _⟩

theorem won_holding (played : Plays accountStage initial floor) (converge : Converge existing floor.log)
    (apart : Apart (localRef s normalized).key i floor.log) (screened : Screened s existing normalized looked)
    (path : own i floor.log =
      won s existing normalized password looked connections now base issued idRaw secret challenge dispatch) :
    Holding (localRef s normalized).key existing (base + s.policy.emailVerificationLifetime) floor.world := by
  have reserved : ⟨.reserveSubject (localRef s normalized) existing now (base + s.policy.emailVerificationLifetime),.ok ()⟩ ∈
      own i floor.log := by simp [path,won]
  obtain ⟨entry,inside,mine,reserves⟩ := mem_own.mp reserved
  obtain ⟨first,rest,split⟩ := append_of_mem inside
  have once : (own i floor.log).countP (fun exchange => touches exchange.1) = 1 := by
    rw [path,won,countP_append,looked_idle screened fun op looks => (looks_idle looks).1]
    rfl
  have idle := own_once once split mine (by rw [reserves]; rfl)
  refine played.since (φ:=Holding (localRef s normalized).key existing (base + s.policy.emailVerificationLifetime)) ?_ first
    entry rest split ?_ ?_
  · rintro w w' passes ⟨held,there,same⟩
    exact ⟨held,by rw [passes.repository]; exact there,same⟩
  · have answered := played.answered entry inside
    obtain ⟨caller,found,exchange⟩ := entry
    cases reserves
    exact reserved_holding answered.symm
  · intro later after holding
    have joins := (converge later (by simp [split,after])).2
    refine holding_kept holding ?_ joins
    by_cases own_ : later.caller = i
    · have quiet : touches later.exchange.1 = false := by simpa using idle later after own_
      exact untouched_settled quiet
    · exact apart first entry rest split mine _ _ _ _ rfl reserves later after own_

theorem stored_kept {id : VerificationId} {w : AccountState} (stored : w.repository.challenges[id]? = some state)
    (spared : replaces op = false)
    (unspent : ∀ id presented now maximumAttempts expected,op ≠ .consume id presented now maximumAttempts expected) :
    (exec op w).2.repository.challenges[id]? = some state := by
  cases op with
  | replace challenge => cases spared
  | consume id presented now maximumAttempts expected => exact absurd rfl (unspent id presented now maximumAttempts expected)
  | reserveSubject external identity now until_ =>
    rcases AccountRepository.reserveSubject_cases external identity now until_ w.repository with ⟨e,same⟩ | same <;>
      simp [exec,same,stored]
  | releaseSubject external owner =>
    rcases AccountRepository.releaseSubject_cases external owner w.repository with same | same <;>
      simp [exec,same,stored]
  | _ => exact stored

theorem replaced_stored {w : AccountState} (free : w.repository.challenges[challenge.id]? = none) :
    (exec (.replace challenge) w).2.repository.challenges[challenge.id]? = some ⟨challenge,0⟩ := by
  have absent : challenge.id ∉ w.repository.challenges := by
    rwa [Std.ExtTreeMap.mem_iff_isSome_getElem?,Bool.not_eq_true,Option.isSome_eq_false_iff,Option.isNone_iff_eq_none]
  simp only [exec,AccountRepository.replace]
  rw [Std.ExtTreeMap.getElem?_insertIfNew,if_pos]
  exact ⟨Std.ReflCmp.compare_self,fun inside => absent (Std.ExtTreeMap.mem_of_mem_filter inside)⟩

theorem others_spare (played : Plays accountStage initial floor) (applicants : Applicants s normalized floor)
    {before after : List AccountEntry} {entry : AccountEntry} (split : floor.log = before ++ entry :: after)
    (pending : Pending existing ⟨normalized⟩ (own i before)) (other : entry.caller ≠ i) :
    replaces entry.exchange.1 = false := by
  have signs := entry_signs played applicants split
  obtain ⟨earlier,reached,rfl,-,-,begun⟩ := Plays.before played before entry after split
  have serves : Serves s earlier := by
    intro m inside
    obtain ⟨later,there,same⟩ := begun m inside
    obtain ⟨request,known⟩ := applicants.serves later there
    exact ⟨request,same ▸ known⟩
  obtain ⟨caller,found,op,answer⟩ := entry
  cases op with
  | replace challenge => exact absurd ((guarded reached serves).sole _ _ ⟨normalized⟩ ⟨_,signs⟩ ⟨_,pending⟩) other
  | _ => rfl

theorem won_stored (played : Plays accountStage initial floor) (applicants : Applicants s normalized floor)
    (fresh : Fresh floor.log) (screened : Screened s existing normalized looked)
    (sent : Sent s existing normalized issued challenge dispatch) (path : own i floor.log =
      won s existing normalized password looked connections now base issued idRaw secret challenge dispatch) :
    floor.world.repository.challenges[challenge.id]? = some ⟨challenge,0⟩ := by
  have replaced : ⟨.replace challenge,.ok ()⟩ ∈ own i floor.log := by simp [path,won]
  obtain ⟨entry,inside,mine,stores⟩ := mem_own.mp replaced
  obtain ⟨first,rest,split⟩ := append_of_mem inside
  have once : (own i floor.log).countP (fun exchange => replaces exchange.1) = 1 := by
    rw [path,won,countP_append,looked_idle screened fun op looks => (looks_idle looks).2.1]
    rfl
  have idle := own_once once split mine (by rw [stores]; rfl)
  have kept : ∀ exchange ∈ own i floor.log,removes exchange.1 = false := by
    rw [path,won]
    intro exchange inside
    rcases mem_append.mp inside with early | late
    · exact (looks_idle (screened.looks exchange early)).2.2
    · simp only [mem_cons,not_mem_nil,or_false] at late
      rcases late with rfl | rfl | rfl | rfl | rfl | rfl | rfl | rfl | rfl | rfl <;> rfl
  have pending : Pending existing ⟨normalized⟩ (own i first) := by
    have signs := entry_signs played applicants split
    rw [stores,mine] at signs
    have waiting : Pending challenge.identity ⟨normalized⟩ (own i first) := signs
    rwa [sent.mine] at waiting
  refine played.since (φ:=fun w => w.repository.challenges[challenge.id]? = some ⟨challenge,0⟩) ?_ first entry rest split
    ?_ ?_
  · intro w w' passes there
    rwa [passes.repository]
  · have free := fresh entry inside challenge (congrArg Sigma.fst stores)
    have same : entry.exchange.1 = .replace challenge := congrArg Sigma.fst stores
    rw [same]
    exact replaced_stored free
  · intro later after there
    obtain ⟨between,more,rfl⟩ := append_of_mem after
    have shape : floor.log = (first ++ entry :: between) ++ later :: more := by simp [split]
    refine stored_kept there ?_ ?_
    · by_cases own_ : later.caller = i
      · exact idle later after own_
      · have waiting : Pending existing ⟨normalized⟩ (own i (first ++ entry :: between)) := by
          obtain ⟨password,enrolled⟩ := pending.enrolled
          constructor
          · rw [own_append]
            exact ⟨password,mem_append_left _ enrolled⟩
          · intro exchange within
            apply kept exchange
            rw [shape,own_append]
            exact mem_append_left _ within
        exact others_spare played applicants shape waiting own_
    · intro id presented at_ maximumAttempts expected same
      have signs := entry_signs played applicants shape
      rw [same] at signs
      exact signs

theorem won_touches (screened : Screened s existing normalized looked) (inside : exchange ∈
      won s existing normalized password looked connections now base issued idRaw secret challenge dispatch) :
    (∀ external identity at_ until_,exchange.1 = .reserveSubject external identity at_ until_ →
      until_ = base + s.policy.emailVerificationLifetime) ∧ ∀ sent,exchange.1 = .deliver sent → sent = dispatch := by
  rcases mem_append.mp inside with early | late
  · have looks := screened.looks exchange early
    constructor
    · intro external identity at_ until_ same
      rw [same] at looks
      exact looks.elim
    · intro sent same
      rw [same] at looks
      exact looks.elim
  · simp only [mem_cons,not_mem_nil,or_false] at late
    rcases late with rfl | rfl | rfl | rfl | rfl | rfl | rfl | rfl | rfl | rfl <;> constructor <;> intros <;> simp_all

theorem verified_profile {profiles : ProfileStore} (inside : existing ∈ profiles.findVerifiedByEmail normalized) :
    ∃ profile,profiles[existing]? = some profile := by
  obtain ⟨⟨id,profile⟩,listed,rfl⟩ := mem_map.mp inside
  exact ⟨profile,Std.ExtTreeMap.mem_toList_iff_getElem?_eq_some.mp (mem_filter.mp listed).1⟩

section
variable (played : Plays accountStage initial floor)
include played

theorem screened_initial (applicants : Applicants s normalized floor) (converge : Converge existing floor.log)
    (screened : Screened s existing normalized looked) (inside : ∀ exchange ∈ looked,exchange ∈ own i floor.log) :
    initial.directory.owners[(localRef s normalized).key]? = none ∧ (∃ profile,initial.profiles[existing]? = some profile) ∧
      ∃ canonical,initial.identities.findById s.organization existing = some canonical ∧
        canonical.canAuthenticate = true := by
  obtain ⟨-,still⟩ := untouched played applicants converge
  have told : ∀ exchange ∈ looked,∃ w,Untouched initial w ∧ exchange.2 = (exec exchange.1 w).1 := by
    intro exchange early
    obtain ⟨entry,there,-,rfl⟩ := mem_own.mp (inside exchange early)
    exact ⟨entry.found,still entry there,played.answered entry there⟩
  refine ⟨?_,?_,?_⟩
  · obtain ⟨w,kept,answer⟩ := told _ screened.unowned
    rw [← kept.directory]
    exact (Except.ok.inj answer).symm
  · obtain ⟨verified,listed,member⟩ := screened.verified
    obtain ⟨w,kept,answer⟩ := told _ listed
    rw [← kept.profiles]
    cases Except.ok.inj answer
    exact verified_profile member
  · obtain ⟨canonical,signs,found⟩ := screened.signs
    obtain ⟨w,kept,answer⟩ := told _ found
    rw [← kept.identities]
    exact ⟨canonical,(Except.ok.inj answer).symm,signs⟩

theorem won_outlasts (steady : Steady initial.clock)
    (path : own i floor.log = won s existing normalized password looked connections now base issued idRaw secret challenge dispatch) :
    base ≤ issued := by
  have order : [(⟨.now,base⟩ : Exchange AccountOp AccountOp.Ret),⟨.now,issued⟩].Sublist (own i floor.log) := by
    rw [path]
    refine .trans ?_ (sublist_append_right looked _)
    exact .cons _ (.cons _ (.cons_cons _ (.cons _ (.cons _ (.cons _ (.cons _ (.cons_cons _ (nil_sublist _))))))))
  obtain ⟨entries,chosen,-,told⟩ := sublist_own order
  obtain ⟨one,rest,rfl,reads,more⟩ := map_eq_cons_iff.mp told
  obtain ⟨two,tail_,rfl,again,none⟩ := map_eq_cons_iff.mp more
  cases map_eq_nil_iff.mp none
  obtain ⟨first,between,after,split⟩ := pair_split chosen
  exact readings_ordered played steady split reads again

theorem won_formed
    (path : own i floor.log = won s existing normalized password looked connections now base issued idRaw secret challenge dispatch) :
    validText (some normalized) 320 = true ∧ s.localProvider.empty = false := by
  have answered : ∀ exchange ∈ own i floor.log,∃ w,exchange.2 = (exec exchange.1 w).1 := by
    intro exchange inside
    obtain ⟨entry,there,-,rfl⟩ := mem_own.mp inside
    exact ⟨entry.found,played.answered entry there⟩
  rw [path] at answered
  constructor
  · obtain ⟨w,enrolled⟩ := answered ⟨.enrollPending existing ⟨normalized⟩ password,.ok ()⟩ (by simp [won])
    have enrolled : (w.accounts.enrollPending existing ⟨normalized⟩ (w.hasher password)).1 = .ok () := enrolled.symm
    rcases LocalAccounts.enrollPending_cases existing ⟨normalized⟩ (w.hasher password) w.accounts with
      ⟨e,failed⟩ | ⟨-,valid,-⟩
    · rw [failed] at enrolled
      cases enrolled
    · simpa [LocalAccounts.isValidSubject,validText,StrongId.empty] using valid
  · obtain ⟨w,reserved⟩ := answered ⟨.reserveSubject (localRef s normalized) existing now
      (base + s.policy.emailVerificationLifetime),.ok ()⟩ (by simp [won])
    exact (AccountRepository.reserveSubject_named reserved.symm).1

end

end

structure Made (s : Service) (normalized : Text) (i : Nat) (log : List AccountEntry) (expiresAt : Instant)
    (dispatch : VerificationDispatch) : Prop where
  reserved : ∃ identity now,⟨.reserveSubject (localRef s normalized) identity now expiresAt,.ok ()⟩ ∈ own i log
  delivered : ⟨.deliver dispatch,.ok ()⟩ ∈ own i log

-- The reservation is there, and until it expires the secret completes a verification.
structure Kept (s : Service) (normalized : Text) (existing : IdentityId) (expiresAt : Instant)
    (dispatch : VerificationDispatch) (w : AccountState) : Prop where
  holding : Holding (localRef s normalized).key existing expiresAt w
  completes : ∀ w',Passes w w' → (∀ n,n ≤ 3 → w'.clock (n+3) < w'.clock 3 + 300000) → w'.clock 1 < expiresAt →
    ((verifyEmail s dispatch.id dispatch.secret).run exec w').1 = .ok ()

theorem signup_made {s : Service} {initial : AccountState} {floor : AccountFloor} {normalized : Text}
    {existing joined : IdentityId} {i : Nat} (played : Plays accountStage initial floor)
    (applicants : Applicants s normalized floor) (converge : Converge existing floor.log)
    (signed : floor.members[i]? = some ⟨p,.ret (.signedUp joined)⟩) :
    ∃ expiresAt dispatch,Made s normalized i floor.log expiresAt dispatch := by
  obtain ⟨password,looked,connections,now,base,issued,idRaw,secret,challenge,dispatch,-,path,-⟩ :=
    signup_won played applicants converge signed
  refine ⟨base + s.policy.emailVerificationLifetime,dispatch,⟨existing,now,?_⟩,?_⟩ <;> simp [path,won]

-- No other signup undoes one that has succeeded, unless it gives the shared reservation back.
theorem signup_kept {s : Service} {initial : AccountState} {floor : AccountFloor} {normalized : Text}
    {existing joined : IdentityId} {i : Nat} {p : AccountCall Reply} (played : Plays accountStage initial floor)
    (applicants : Applicants s normalized floor) (converge : Converge existing floor.log) (fresh : Fresh floor.log)
    (dated : Dated initial) (apart : Apart (localRef s normalized).key i floor.log)
    (signed : floor.members[i]? = some ⟨p,.ret (.signedUp joined)⟩) :
    (∃ expiresAt dispatch,Made s normalized i floor.log expiresAt dispatch) ∧ ∀ expiresAt dispatch,
      Made s normalized i floor.log expiresAt dispatch → Kept s normalized existing expiresAt dispatch floor.world := by
  obtain ⟨password,looked,connections,now,base,issued,idRaw,secret,challenge,sent_,screened,path,sent⟩ :=
    signup_won played applicants converge signed
  constructor
  · exact signup_made played applicants converge signed
  · rintro expiresAt dispatch ⟨⟨identity,at_,reserved⟩,delivered⟩
    rw [path] at reserved delivered
    cases (won_touches screened reserved).1 _ _ _ _ rfl
    cases (won_touches screened delivered).2 _ rfl
    have holding := won_holding played converge apart screened path
    refine ⟨holding,?_⟩
    intro w passes prompt lasting
    have early : ∀ exchange ∈ looked,exchange ∈ own i floor.log := by
      intro exchange inside
      rw [path]
      exact List.mem_append_left _ inside
    obtain ⟨unowned,⟨profile,known⟩,signs⟩ := screened_initial played applicants converge screened early
    obtain ⟨lettered,provided⟩ := won_formed played path
    have outlasts := won_outlasts played dated.steady path
    have stored := won_stored played applicants fresh screened sent path
    obtain ⟨held,there,mine,atLeast⟩ := holding
    have now_kept : Untouched initial w := by
      have kept := (untouched played applicants converge).1
      exact ⟨passes.directory.trans kept.directory,passes.identities.trans kept.identities,
        passes.profiles.trans kept.profiles⟩
    have onward := (clock_onward played dated.steady).1
    have dueAt : base + s.policy.emailVerificationLifetime ≤ challenge.expiresAt := by
      rw [sent.lasts]
      exact Int.add_le_add_right outlasts _
    rw [sent.named]
    refine redeemable_verifies ⟨?_,sent.signup,?_,?_,?_,?_,provided,?_,?_,prompt⟩ sent.hashed
    · rw [passes.repository]
      exact stored
    · exact Int.lt_of_le_of_lt (passes.steady 0) (Int.lt_of_lt_of_le lasting dueAt)
    · rw [passes.repository,sent.addressed,sent.mine]
      exact ⟨held,there,mine,Int.lt_of_lt_of_le lasting atLeast⟩
    · rw [now_kept.profiles,sent.mine]
      have begun := dated.past existing profile known
      have ticks : w.clock 0 ≤ w.clock 2 := Int.le_trans (passes.steady 0) (passes.steady 1)
      exact ⟨profile,known,Int.le_trans begun (Int.le_trans onward.1 (Int.le_trans passes.forward ticks))⟩
    · rw [sent.addressed]
      exact lettered
    · rw [now_kept.directory,sent.addressed]
      exact unowned
    · rw [now_kept.identities,sent.mine]
      exact signs

section

def demoJoins : AccountOp → Bool
  | .add .. => false
  | .reserveSubject _ identity _ _ => identity == ⟨"opi_E"⟩
  | _ => true

def demoFresh (entry : AccountEntry) : Bool :=
  match entry.exchange.1 with
  | .replace challenge => entry.found.repository.challenges[challenge.id]?.isNone
  | _ => true

theorem demo_converge (joins : log.all (fun entry => demoJoins entry.exchange.1) = true) :
    Converge ⟨"opi_E"⟩ log := by
  intro entry inside
  have joined := all_eq_true.mp joins entry inside
  constructor
  · intro organization record same
    rw [same] at joined
    cases joined
  · intro external identity now expiresAt same
    rw [same] at joined
    simpa [demoJoins] using joined

theorem demo_fresh (free : log.all demoFresh = true) : Fresh log := by
  intro entry inside challenge same
  have none := all_eq_true.mp free entry inside
  simpa [demoFresh,same] using none

theorem demo_dated : Dated demoHolder := by
  constructor
  · exact fun _ => Int.le_refl _
  · intro id profile found
    have found : (Std.ExtTreeMap.insert ∅ ⟨"opi_E"⟩ _ : ProfileStore)[id]? = some profile := found
    rw [Std.ExtTreeMap.getElem?_insert] at found
    split at found
    · cases found
      exact Int.le_refl _
    · simp at found

theorem demo_race {floor : AccountFloor}
    (entered : turns.filterMap Turn.entered = [demoSignup,demoSignup].map (calling demoService))
    (still : ∀ turn ∈ turns,turn.Allowed accountStage) (taken : takeTurns exec turns ⟨demoHolder,[],[]⟩ = some floor)
    (joins : floor.log.all (fun entry => demoJoins entry.exchange.1) = true) (free : floor.log.all demoFresh = true) :
    Plays accountStage demoHolder floor ∧ Applicants demoService demoAddress floor ∧ Converge ⟨"opi_E"⟩ floor.log ∧
      Fresh floor.log := by
  obtain ⟨played,-,-⟩ := demo_played entered still taken
  refine ⟨played,?_,demo_converge joins,demo_fresh free⟩
  intro m inside
  have begun : m.begun ∈ [demoSignup,demoSignup].map (calling demoService) := by
    rw [← entered,← nil_append (turns.filterMap Turn.entered)]
    exact (takeTurns_begun taken) ▸ mem_map_of_mem inside
  have same : m.begun = calling demoService demoSignup := by simpa using begun
  exact ⟨demoEmail,demoPassword,none,same,by decide⟩

theorem signup_kept_second : ∃ floor : AccountFloor,Plays accountStage demoHolder floor ∧
    floor.members[0]? = some ⟨calling demoService demoSignup,.ret (.signedUp ⟨"opi_E"⟩)⟩ ∧
      (∃ e,floor.members[1]? = some ⟨calling demoService demoSignup,.fail e⟩) ∧
        ∃ expiresAt dispatch,Made demoService demoAddress 0 floor.log expiresAt dispatch ∧
          Kept demoService demoAddress ⟨"opi_E"⟩ expiresAt dispatch floor.world := by
  let turns : List (Turn AccountOp AccountOp.Ret Error Reply AccountState) :=
    .enter (calling demoService demoSignup) :: steps 0 15 ++ .enter (calling demoService demoSignup) :: steps 1 3
  have done : (takeTurns exec turns (⟨demoHolder,[],[]⟩ : AccountFloor)).any (fun floor =>
      floor.log.all (fun entry => demoJoins entry.exchange.1) && floor.log.all demoFresh &&
        floor.log.all (fun entry => entry.caller == 0 || !touches entry.exchange.1) &&
          ((floor.members[0]?.bind fun m => ended m.rest).any (signedAs ⟨"opi_E"⟩)) &&
            ((floor.members[1]?.bind fun m => ended m.rest).any fun r => !r.isOk)) = true := by
    decide
  obtain ⟨floor,taken,holds⟩ := (Option.any_eq_true _ _).mp done
  simp only [Bool.and_eq_true] at holds
  obtain ⟨⟨⟨⟨joins,free⟩,idle⟩,signed⟩,refused⟩ := holds
  have entered : turns.filterMap Turn.entered = [demoSignup,demoSignup].map (calling demoService) := rfl
  obtain ⟨played,applicants,converge,fresh⟩ := demo_race entered (by simp [turns,steps,Turn.Allowed]) taken joins free
  obtain ⟨r,member,same⟩ := takeTurns_ended taken rfl signed
  rw [signedAs_eq same] at member
  obtain ⟨r',other,failed⟩ := takeTurns_ended taken rfl refused
  have apart : Apart (localRef demoService demoAddress).key 0 floor.log := by
    intro before entry after split mine external identity now expiresAt keyed reserves later inside others unsettles
    have spared := List.all_eq_true.mp idle later (by simp [split,inside])
    have quiet : touches later.exchange.1 = false := by simpa [others] using spared
    exact untouched_settled quiet unsettles
  obtain ⟨⟨expiresAt,dispatch,made⟩,kept⟩ := signup_kept played applicants converge fresh demo_dated apart member
  refine ⟨floor,played,member,?_,expiresAt,dispatch,made,kept expiresAt dispatch made⟩
  cases r' with
  | ok reply => cases failed
  | error e => exact ⟨e,other⟩

def demoCancelled (w : AccountState) (entry : AccountEntry) : Bool :=
  match entry.exchange.1 with
  | .reserveSubject _ _ _ expiresAt => w.clock 1 < expiresAt
  | .deliver dispatch => !((verifyEmail demoService dispatch.id dispatch.secret).run exec w).1.isOk
  | _ => true

-- The second signup has looked before the first one reserves; it finds the account enrolled, and in giving up its own
-- reservation gives up the first one's.
theorem signup_cancelled : ∃ floor : AccountFloor,Plays accountStage demoHolder floor ∧
    Applicants demoService demoAddress floor ∧ Converge ⟨"opi_E"⟩ floor.log ∧ Fresh floor.log ∧ Dated demoHolder ∧
      floor.members[0]? = some ⟨calling demoService demoSignup,.ret (.signedUp ⟨"opi_E"⟩)⟩ ∧
        (∃ e,floor.members[1]? = some ⟨calling demoService demoSignup,.fail e⟩) ∧
          ∃ expiresAt dispatch,Made demoService demoAddress 0 floor.log expiresAt dispatch ∧
            floor.world.clock 1 < expiresAt ∧
              floor.world.repository.reservations[(localRef demoService demoAddress).key]? = none ∧
                ((verifyEmail demoService dispatch.id dispatch.secret).run exec floor.world).1 ≠ .ok () := by
  let turns : List (Turn AccountOp AccountOp.Ret Error Reply AccountState) :=
    .enter (calling demoService demoSignup) :: .enter (calling demoService demoSignup) :: steps 1 5 ++ steps 0 15 ++ steps 1 6
  have done : (takeTurns exec turns (⟨demoHolder,[],[]⟩ : AccountFloor)).any (fun floor =>
      floor.log.all (fun entry => demoJoins entry.exchange.1) && floor.log.all demoFresh &&
        floor.log.all (demoCancelled floor.world) &&
          floor.world.repository.reservations[(localRef demoService demoAddress).key]?.isNone &&
            ((floor.members[0]?.bind fun m => ended m.rest).any (signedAs ⟨"opi_E"⟩)) &&
              ((floor.members[1]?.bind fun m => ended m.rest).any fun r => !r.isOk)) = true := by
    decide
  obtain ⟨floor,taken,holds⟩ := (Option.any_eq_true _ _).mp done
  simp only [Bool.and_eq_true,Option.isNone_iff_eq_none] at holds
  obtain ⟨⟨⟨⟨⟨joins,free⟩,cancelled⟩,released⟩,signed⟩,refused⟩ := holds
  have entered : turns.filterMap Turn.entered = [demoSignup,demoSignup].map (calling demoService) := rfl
  obtain ⟨played,applicants,converge,fresh⟩ := demo_race entered (by simp [turns,steps,Turn.Allowed]) taken joins free
  obtain ⟨r,member,same⟩ := takeTurns_ended taken rfl signed
  rw [signedAs_eq same] at member
  obtain ⟨r',other,failed⟩ := takeTurns_ended taken rfl refused
  obtain ⟨expiresAt,dispatch,made⟩ := signup_made played applicants converge member
  obtain ⟨⟨identity,at_,reserved⟩,delivered⟩ := made
  refine ⟨floor,played,applicants,converge,fresh,demo_dated,member,?_,expiresAt,dispatch,⟨⟨identity,at_,reserved⟩,delivered⟩,
    ?_,released,?_⟩
  · cases r' with
    | ok reply => cases failed
    | error e => exact ⟨e,other⟩
  · obtain ⟨entry,inside,-,told⟩ := mem_own.mp reserved
    have lasting := List.all_eq_true.mp cancelled entry inside
    simpa [demoCancelled,told] using lasting
  · obtain ⟨entry,inside,-,told⟩ := mem_own.mp delivered
    have fails := List.all_eq_true.mp cancelled entry inside
    intro completed
    simp [demoCancelled,told,completed,Except.isOk,Except.toBool] at fails

end

end OpenProof.SignupRaces
