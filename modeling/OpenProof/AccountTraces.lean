import OpenProof.AccountService
import OpenProof.CallHistories

namespace OpenProof.AccountTraces
open AtomicPrograms CallTraces CallLogs CallHistories Foundation ExternalIdentities
open Accounts AccountWorld AccountService CallProtocols Identities

-- What is asked of the service, and the status changes of its administrators beside it.
inductive Request where
  | signup (email password : Text) (displayName : Option Text)
  | resend (email : Text)
  | verify (id : VerificationId) (secret : Text)
  | changeStatus (organization : OrganizationId) (id : IdentityId) (status : IdentityStatus)

inductive Reply where
  | signedUp (identity : IdentityId)
  | done

def calling (s : Service) : Request → AccountCall Reply
  | .signup email password displayName =>
    (AccountService.signup s email password displayName).bind fun identity => .ret (.signedUp identity)
  | .resend email => (resendSignupVerification s email).bind fun _ => .ret .done
  | .verify id secret => (verifyEmail s id secret).bind fun _ => .ret .done
  | .changeStatus organization id status => (ask (.changeStatus organization id status)).bind fun answer =>
    (Prog.check answer).bind fun _ => .ret .done

def Request.administers : Request → Bool
  | .changeStatus .. => true
  | _ => false

abbrev AccountTrace := List (Exchange AccountOp AccountOp.Ret)

def removes : AccountOp → Bool
  | .removePending .. => true
  | _ => false

def Chosen (s : Service) (identity : IdentityId) (past : AccountTrace) : Prop :=
  (∃ canonical : Identity,canonical.canAuthenticate = true ∧
      ⟨.findById s.organization identity,.ok (some canonical)⟩ ∈ past) ∨
    ∃ record : Identity,record.id = identity ∧ ⟨.add s.organization record,.ok ()⟩ ∈ past

structure Pending (identity : IdentityId) (subject : ExternalSubject) (past : AccountTrace) : Prop where
  enrolled : ∃ password,⟨.enrollPending identity subject password,.ok ()⟩ ∈ past
  kept : ∀ exchange ∈ past,removes exchange.1 = false

-- A call has redeemed a challenge of the identity, looked at the clock, and then seen a
-- reservation of the identity alive.
def Confirmed (identity : IdentityId) (past : AccountTrace) : Prop :=
  ∃ id presented at_ maximumAttempts expected challenge now external,challenge.identity = identity ∧
    [⟨.consume id presented at_ maximumAttempts expected,.ok challenge⟩,⟨.now,now⟩,
      ⟨.reservedOwner external now,.ok (some identity)⟩].Sublist past

def Asks (s : Service) (past : AccountTrace) : AccountOp → Prop
  | .add _ record => record.status = .deactivated
  | .reserveSubject _ identity _ _ => Chosen s identity past
  | .removePending identity subject => Pending identity subject past
  | .changeStatus _ identity status => status = .deleted ∨ status = .active ∧ Confirmed identity past
  | _ => True

def Plain : AccountOp → Prop
  | .add .. | .reserveSubject .. | .removePending .. | .changeStatus .. => False
  | _ => True

def Looks : AccountOp → Prop
  | .now | .ownerOf _ | .reservedOwner .. | .findVerifiedByEmail _ | .findById .. => True
  | _ => False

def Since (past later : AccountTrace) : Prop :=
  ∃ more,later = past ++ more ∧ ∀ exchange ∈ more,removes exchange.1 = false

section

theorem Since.same : Since past past := GoesOn.same

theorem Since.step {op : AccountOp} {answer : op.Ret} (since : Since past later) (keeps : removes op = false) :
    Since past (later ++ [⟨op,answer⟩]) := GoesOn.step since keeps

theorem Since.sublist (since : Since past later) : past.Sublist later := GoesOn.sublist since

theorem Since.kept (since : Since past later) (kept : ∀ exchange ∈ past,removes exchange.1 = false) :
    ∀ exchange ∈ later,removes exchange.1 = false := by
  obtain ⟨more,rfl,further⟩ := since
  intro exchange inside
  rcases List.mem_append.mp inside with old | new
  · exact kept exchange old
  · exact further exchange new

theorem Chosen.grows (chosen : Chosen s identity past) (grown : past.Sublist later) : Chosen s identity later := by
  rcases chosen with ⟨canonical,signs,seen⟩ | ⟨record,same,added⟩
  · exact .inl ⟨canonical,signs,grown.subset seen⟩
  · exact .inr ⟨record,same,grown.subset added⟩

theorem Pending.since (pending : Pending identity subject past) (since : Since past later) :
    Pending identity subject later := by
  obtain ⟨password,enrolled⟩ := pending.enrolled
  exact ⟨⟨password,since.sublist.subset enrolled⟩,since.kept pending.kept⟩

theorem Pending.step {op : AccountOp} (pending : Pending identity subject past) (answer : op.Ret)
    (keeps : removes op = false) : Pending identity subject (past ++ [⟨op,answer⟩]) :=
  pending.since (Since.same.step keeps)

theorem Confirmed.grows (confirmed : Confirmed identity past) (grown : past.Sublist later) : Confirmed identity later := by
  obtain ⟨id,presented,at_,maximumAttempts,expected,challenge,now,external,same,inside⟩ := confirmed
  exact ⟨id,presented,at_,maximumAttempts,expected,challenge,now,external,same,inside.trans grown⟩

theorem plain_follows {p : AccountCall α} (plain : p.Only Plain) : Follows (remembering (Asks s))
    (fun later r => Since past later ∧ ∃ more,later = past ++ more ∧ Trace p more r) past p := by
  refine (follows_trace plain ?_).mono ?_
  · intro past op plain
    cases op <;> first | exact plain.elim | trivial
  · rintro later r ⟨more,rfl,path⟩
    refine ⟨⟨more,rfl,?_⟩,more,rfl,path⟩
    intro exchange inside
    obtain ⟨op,answer⟩ := exchange
    have plain : Plain op := path.only plain _ inside
    cases op <;> first | exact plain.elim | rfl

end

section

theorem issue_plain : (issue s identity purpose destination lifetime).Only Plain :=
  .bind (.perform trivial) fun _ => .bind (.check _ _) fun _ => .bind (.perform trivial) fun _ => .bind (.check _ _) fun _ =>
    .bind (.check _ _) fun _ => .bind (.perform trivial) fun _ => .bind (.check _ _) fun _ => .bind (.perform trivial)
      fun _ => .bind (.check _ _) fun _ => trivial

theorem tally_looks (candidates active : List IdentityId) (blocked : Nat) :
    (tally s candidates active blocked).Only Looks := by
  induction candidates generalizing active blocked with
  | nil => trivial
  | cons candidate rest ih =>
    refine .bind (.perform trivial) fun answer => .bind (.check _ _) fun canonical => ?_
    cases canonical with
    | none => exact ih active blocked
    | some canonical =>
      dsimp only
      split
      · exact ih _ blocked
      · split
        · exact ih active _
        · exact ih active blocked

theorem screen_looks : (screen s normalized).Only Looks :=
  .bind (.perform trivial) fun _ => .bind (.check _ _) fun _ => .bind (.refuseIf _ _ _) fun _ => .bind (.perform trivial)
    fun _ => .bind (.perform trivial) fun _ => .bind (.check _ _) fun _ => .bind (.refuseIf _ _ _) fun _ =>
      .bind (.perform trivial) fun _ => .bind (.check _ _) fun _ => .bind (tally_looks _ _ _) fun _ => .check _ _

theorem pendingProfile_looks : (pendingProfile identity normalized displayName).Only Looks := by
  refine .bind (.perform trivial) fun _ => .bind (.check _ _) fun _ => .bind (.perform trivial) fun _ =>
    .bind (.check _ _) fun _ => ?_
  cases displayName with
  | none => trivial
  | some name => exact .bind (.perform trivial) fun _ => .check _ _

theorem looks_plain {p : AccountCall α} (looks : p.Only Looks) : p.Only Plain := by
  refine looks.weaken fun op looks => ?_
  cases op <;> first | exact looks.elim | trivial

theorem tally_yields (candidates active : List IdentityId) (blocked : Nat) :
    Yields (tally s candidates active blocked) fun trace counted => ∀ candidate ∈ counted.1,candidate ∈ active ∨
      ∃ canonical : Identity,canonical.canAuthenticate = true ∧
        ⟨.findById s.organization candidate,.ok (some canonical)⟩ ∈ trace := by
  induction candidates generalizing active blocked with
  | nil => exact .ret fun candidate inside => .inl inside
  | cons candidate rest ih =>
    refine .ask fun answer => .check fun canonical known => ?_
    cases known
    have passes : ∀ active' blocked',(∀ c ∈ active',c ∈ active ∨ c = candidate ∧ canonical.any Identity.canAuthenticate = true) →
        Yields (tally s rest active' blocked') fun trace counted => ∀ c ∈ counted.1,c ∈ active ∨
          ∃ record : Identity,record.canAuthenticate = true ∧ ⟨.findById s.organization c,.ok (some record)⟩ ∈
            (⟨.findById s.organization candidate,.ok canonical⟩ :: trace : AccountTrace) := by
      intro active' blocked' known
      refine (ih active' blocked').mono ?_
      intro trace counted others c inside
      rcases others c inside with earlier | ⟨record,signs,seen⟩
      · rcases known c earlier with old | ⟨rfl,signs⟩
        · exact .inl old
        · obtain ⟨record,rfl,signs⟩ := (Option.any_eq_true _ _).mp signs
          exact .inr ⟨record,signs,List.mem_cons_self⟩
      · exact .inr ⟨record,signs,List.mem_cons_of_mem _ seen⟩
    cases canonical with
    | none => exact passes active blocked fun c inside => .inl inside
    | some record =>
      dsimp only
      split
      · rename_i signs
        apply passes (active ++ [candidate]) blocked
        intro c inside
        rcases List.mem_append.mp inside with old | new
        · exact .inl old
        · exact .inr ⟨List.mem_singleton.mp new,signs⟩
      · split
        · exact passes active (blocked+1) fun c inside => .inl inside
        · exact passes active blocked fun c inside => .inl inside

theorem joined_member (done : joined active blocked = .ok (some existing)) : existing ∈ active := by
  unfold joined at done
  split at done
  · cases done
  · split at done
    · cases done
    · exact List.mem_of_head? (Except.ok.inj done)

theorem screen_yields : Yields (screen s normalized) fun trace joins => ∀ existing,joins = some existing →
    Chosen s existing trace := by
  refine .ask fun owner => .check fun existing _ => .refuseIf fun _ => .ask fun now => .ask fun answer => .check fun reserved _ =>
    .refuseIf fun _ => .ask fun listed => .check fun candidates _ => .bind (tally_yields candidates [] 0) ?_
  rintro trace ⟨active,blocked⟩ known
  refine .checked fun joins done existing same => ?_
  subst same
  rcases known existing (joined_member done) with none | ⟨canonical,signs,seen⟩
  · cases none
  · exact .inl ⟨canonical,signs,by simp [seen]⟩

theorem orUndo_ends {ends : AccountTrace → Except Error α → Prop} (rest : ∀ a,result = .ok a → ends past (.ok a))
    (undoes : ∀ e,result = .error e → Follows (remembering asks) (fun _ _ => True) past undo)
    (stops : ∀ later e,ends later (.error e)) : Follows (remembering asks) ends past (orUndo result undo) := by
  cases result with
  | ok a => exact rest a rfl
  | error e => exact (undoes e rfl).bind (fun later _ _ => stops later e) fun later e _ => stops later e

theorem orUndo_follows {f : α → AccountCall β}
    (rest : ∀ a,result = .ok a → Follows (remembering asks) ends past (f a))
    (undoes : ∀ e,result = .error e → Follows (remembering asks) (fun _ _ => True) past undo)
    (stops : ∀ later e,ends later (.error e)) : Follows (remembering asks) ends past ((orUndo result undo).bind f) := by
  cases result with
  | ok a => exact rest a rfl
  | error e =>
    have fails : Follows (remembering asks) (fun _ r => ∃ e,r = .error e) past
        (orUndo (.error e) undo : AccountCall α) := orUndo_ends nofun undoes fun _ e => ⟨e,rfl⟩
    refine fails.bind ?_ fun later e _ => stops later e
    rintro later a ⟨e,impossible⟩
    cases impossible

theorem release_follows : Follows (remembering (Asks s)) (fun _ _ => True) past
    (release (localRef s normalized) identity) := ⟨trivial,fun _ => trivial⟩

theorem discardIdentity_follows : Follows (remembering (Asks s)) (fun _ _ => True) past (discardIdentity s identity) :=
  ⟨.inl rfl,fun _ => trivial⟩

theorem withdraw_follows (pending : Pending identity ⟨normalized⟩ past) :
    Follows (remembering (Asks s)) (fun _ _ => True) past (withdraw (localRef s normalized) identity) :=
  ⟨pending,fun _ => ⟨trivial,fun _ => trivial⟩⟩

theorem hold_follows {undo : AccountCall Unit} (chosen : Chosen s identity past)
    (kept : ∀ exchange ∈ past,removes exchange.1 = false)
    (undoes : ∀ later,Follows (remembering (Asks s)) (fun _ _ => True) later undo) :
    Follows (remembering (Asks s)) (fun later r => r = .ok () → Pending identity ⟨normalized⟩ later) past
      (hold s identity normalized password undo) := by
  refine .ask trivial fun now => .ask trivial fun base => .ask ?_ fun answer => ?_
  · refine chosen.grows ?_
    simp [remembering]
  · refine orUndo_follows (fun _ reserved => .ask trivial fun enrolled => ?_) (fun e _ => undoes _) nofun
    refine orUndo_ends (fun done same _ => ⟨⟨password,?_⟩,?_⟩) (fun e _ => ?_) nofun
    · cases same
      simp [remembering,localRef]
    · simpa [remembering,removes,or_imp,forall_and] using kept
    · exact release_follows.bind (fun later _ _ => undoes later) fun _ _ _ => trivial

theorem joinExisting_follows (chosen : Chosen s identity past) (kept : ∀ exchange ∈ past,removes exchange.1 = false) :
    Follows (remembering (Asks s)) (fun later r => ∀ joined,r = .ok joined → Pending joined ⟨normalized⟩ later) past
      (joinExisting s identity normalized password) := by
  have nothing : ∀ later,Follows (remembering (Asks s)) (fun _ _ => True) later (.ret () : AccountCall Unit) :=
    fun _ => trivial
  refine .ask trivial fun listed => .check (fun connections _ => .refuse (fun _ => ?_) nofun) nofun
  refine (hold_follows (chosen.grows ?_) ?_ nothing).bind (fun held _ pending => ?_) fun _ _ _ => nofun
  · simp [remembering]
  · simpa [remembering,removes,or_imp,forall_and] using kept
  · refine (plain_follows issue_plain).attempt.bind ?_ fun _ _ _ => nofun
    rintro issued outcome ⟨result,same,since,-⟩
    cases same
    have owed := (pending rfl).since since
    refine orUndo_follows (fun dispatch _ => .ask trivial fun sent => ?_) (fun _ _ => withdraw_follows owed) fun _ _ => nofun
    have sending := Pending.step owed sent rfl
    refine orUndo_follows (fun _ _ => ?_) (fun _ _ => withdraw_follows sending) fun _ _ => nofun
    intro joined same
    cases same
    exact sending

theorem enrolNew_follows (kept : ∀ exchange ∈ past,removes exchange.1 = false) :
    Follows (remembering (Asks s)) (fun later r => ∀ identity,r = .ok identity → Pending identity ⟨normalized⟩ later) past
      (enrolNew s normalized password) := by
  refine .ask trivial fun answer => .check (fun generated drawn => .ask trivial fun now => ?_) nofun
  refine .check (fun canonical created => .check (fun deactivated changed => .ask ?_ fun added => ?_) nofun) nofun
  · cases created
    cases changed
    rfl
  · refine .check (fun _ stored => ?_) nofun
    cases created
    cases changed
    cases stored
    refine (hold_follows ?_ ?_ fun later => discardIdentity_follows).bind (fun held _ pending => ?_) fun _ _ _ => nofun
    · refine .inr ⟨⟨⟨Text.of "opi_" ++ generated⟩,.human,.deactivated,now⟩,rfl,?_⟩
      simp [remembering]
    · simpa [remembering,removes,or_imp,forall_and] using kept
    · intro identity same
      cases same
      exact pending rfl

theorem introduce_follows (pending : Pending identity ⟨normalized⟩ past) :
    Follows (remembering (Asks s)) (fun later r => ∀ introduced,r = .ok introduced → Pending introduced ⟨normalized⟩ later)
      past (introduce s identity normalized displayName) := by
  refine (plain_follows (looks_plain pendingProfile_looks)).bind (fun held profile known => ?_) fun _ _ _ => nofun
  refine .ask trivial fun saved => ?_
  have saving := Pending.step (pending.since known.1) saved rfl
  refine orUndo_follows (fun _ _ => ?_) (fun _ _ => ?_) fun _ _ => nofun
  · refine (plain_follows issue_plain).bind (fun later dispatch issued => .ask trivial fun sent => ?_) fun _ _ _ => nofun
    refine .check (fun _ _ => ?_) nofun
    intro introduced same
    cases same
    exact Pending.step (saving.since issued.1) sent rfl
  · exact (withdraw_follows saving).bind (fun later _ _ => discardIdentity_follows) fun _ _ _ => trivial

theorem signup_follows : Follows (remembering (Asks s)) (fun later r => ∀ identity,r = .ok identity →
      ∃ normalized,normalizeEmail email = .ok normalized ∧ Pending identity ⟨normalized⟩ later) []
        (signup s email password displayName) := by
  refine .check (fun normalized normal => ?_) nofun
  refine (plain_follows (looks_plain screen_looks)).bind ?_ fun _ _ _ => nofun
  rintro later joins ⟨since,more,rfl,path⟩
  have kept := since.kept (List.forall_mem_nil _)
  have signed : ∀ later (r : Except Error IdentityId),(∀ identity,r = .ok identity → Pending identity ⟨normalized⟩ later) →
      ∀ identity,r = .ok identity → ∃ normalized,normalizeEmail email = .ok normalized ∧
        Pending identity ⟨normalized⟩ later :=
    fun later r pending identity done => ⟨normalized,normal,pending identity done⟩
  cases joins with
  | none =>
    refine (enrolNew_follows kept).bind (fun held identity pending => ?_) fun _ _ _ => nofun
    exact (introduce_follows (pending identity rfl)).mono signed
  | some existing => exact (joinExisting_follows (screen_yields _ _ path existing rfl) kept).mono signed

theorem resend_plain : (resendSignupVerification s email).Only Plain := by
  refine .bind (.check _ _) fun normalized => .bind (.perform trivial) fun now => .bind (.perform trivial) fun answer =>
    .bind (.check _ _) fun reserved => ?_
  cases reserved with
  | none => trivial
  | some reserved => exact .bind issue_plain fun dispatch => .bind (.perform trivial) fun sent => .check _ _

theorem consume_plain {id : VerificationId} : (consume s id secret purpose expectedIdentity).Only Plain :=
  .bind (.check _ _) fun _ => .bind (.perform trivial) fun _ => .bind (.perform trivial) fun _ => .bind (.check _ _) fun _ =>
    .bind (.refuseIf _ _ _) fun _ => trivial

theorem consume_yields {id : VerificationId} : Yields (consume s id secret purpose expectedIdentity) fun trace challenge =>
      ∃ id presented at_ maximumAttempts expected,⟨.consume id presented at_ maximumAttempts expected,.ok challenge⟩ ∈ trace := by
  refine .check fun fingerprint _ => .ask fun now => .ask fun answer => .check fun challenge redeemed => .refuseIf fun _ =>
    .ret ?_
  cases redeemed
  exact ⟨id,fingerprint,now,s.policy.maximumAttempts,expectedIdentity,by simp⟩

theorem requireProfile_plain : (requireProfile identity).Only Plain := by
  refine .bind (.perform trivial) fun answer => .bind (.check _ _) fun found => ?_
  cases found <;> trivial

theorem attachVerified_plain : (attachVerified identity external).Only Plain :=
  .bind (.perform trivial) fun _ => .bind (.check _ _) fun _ => .bind (.perform trivial) fun _ => .bind (.check _ _) fun _ =>
    .bind (.perform trivial) fun _ => .bind (.check _ _) fun _ => .bind (.perform trivial) fun _ => .bind (.check _ _)
      fun _ => .bind (.perform trivial) fun _ => .check _ _

theorem unverify_follows : Follows (remembering (Asks s)) (fun _ _ => True) past (unverify profile destination) :=
  ⟨trivial,fun _ => ⟨trivial,fun _ => trivial⟩⟩

theorem activate_follows (confirmed : Confirmed challenge.identity past) :
    Follows (remembering (Asks s)) (fun _ _ => True) past (activate s challenge profile) := by
  refine (plain_follows attachVerified_plain).attempt.bind ?_ fun _ _ _ => trivial
  rintro later outcome ⟨result,same,since,-⟩
  cases same
  refine orUndo_follows (fun _ _ => ?_) (fun _ _ => unverify_follows) fun _ _ => trivial
  refine .ask (.inr ⟨rfl,confirmed.grows since.sublist⟩) fun answer => orUndo_follows (fun _ _ => ?_) (fun _ _ => ?_)
    fun _ _ => trivial
  · exact .ask trivial fun released => .check (fun _ _ => trivial) fun _ _ => trivial
  · exact ⟨trivial,fun _ => unverify_follows⟩

theorem verify_follows {id : VerificationId} :
    Follows (remembering (Asks s)) (fun _ _ => True) [] (verifyEmailAndGetExternal s id secret) := by
  refine (plain_follows consume_plain).bind ?_ fun _ _ _ => trivial
  rintro past challenge ⟨-,_,rfl,path⟩
  obtain ⟨id,presented,at_,maximumAttempts,expected,redeemed⟩ := consume_yields _ _ path
  refine .ask trivial fun now => .ask trivial fun reserved => .refuse (fun known => ?_) trivial
  have seen : reserved = .ok (some challenge.identity) := by
    cases reserved with
    | error e => simp [Except.toOption] at known
    | ok owner => simpa [Except.toOption] using known
  subst seen
  have confirmed : ([⟨.consume id presented at_ maximumAttempts expected,.ok challenge⟩,⟨.now,now⟩,
      ⟨.reservedOwner (localRef s challenge.destination) now,.ok (some challenge.identity)⟩] : AccountTrace).Sublist
        (past ++ [⟨.now,now⟩] ++ [⟨.reservedOwner (localRef s challenge.destination) now,.ok (some challenge.identity)⟩]) := by
    have first := List.singleton_sublist.mpr redeemed
    have both := (first.append (.refl [⟨.now,now⟩])).append
      (.refl [⟨.reservedOwner (localRef s challenge.destination) now,.ok (some challenge.identity)⟩])
    exact both
  refine (plain_follows requireProfile_plain).bind ?_ fun _ _ _ => trivial
  rintro held profile ⟨since,-⟩
  refine .ask trivial fun then_ => .check (fun verified _ => .ask trivial fun saved => .check (fun _ _ => ?_)
    fun _ _ => trivial) fun _ _ => trivial
  apply activate_follows
  refine ⟨id,presented,at_,maximumAttempts,expected,challenge,now,localRef s challenge.destination,rfl,?_⟩
  exact ((confirmed.trans since.sublist).trans (List.sublist_append_left _ _)).trans (List.sublist_append_left _ _)

theorem calling_follows (served : request.administers = false) :
    Follows (remembering (Asks s)) (fun _ _ => True) [] (calling s request) := by
  cases request with
  | signup email password displayName => exact signup_follows.bind (fun _ _ _ => trivial) fun _ _ _ => trivial
  | resend email => exact (plain_follows resend_plain).bind (fun _ _ _ => trivial) fun _ _ _ => trivial
  | verify id secret =>
    have verifies : Follows (remembering (Asks s)) (fun _ _ => True) [] (verifyEmail s id secret) :=
      verify_follows.bind (fun _ _ _ => trivial) fun _ _ _ => trivial
    exact verifies.bind (fun _ _ _ => trivial) fun _ _ _ => trivial
  | changeStatus organization id status => cases served

theorem calling_signed : Follows (remembering (Asks s)) (fun later r => ∀ identity,r = .ok (.signedUp identity) →
      ∃ normalized,normalizeEmail email = .ok normalized ∧ Pending identity ⟨normalized⟩ later) []
        (calling s (.signup email password displayName)) := by
  refine signup_follows.bind (fun later identity pending => ?_) fun _ _ _ => nofun
  intro signed same
  cases same
  exact pending identity rfl

end

def Steady (clock : Nat → Instant) : Prop := ∀ n,clock n ≤ clock (n+1)

structure Passes (before after : AccountState) : Prop where
  directory : after.directory = before.directory
  identities : after.identities = before.identities
  profiles : after.profiles = before.profiles
  repository : after.repository = before.repository
  accounts : after.accounts = before.accounts
  forward : before.clock 0 ≤ after.clock 0
  steady : Steady after.clock

def accountStage : Stage AccountOp AccountOp.Ret AccountState where
  exec := exec
  drift := Passes

abbrev AccountFloor := Floor AccountOp AccountOp.Ret Error Reply AccountState
abbrev AccountEntry := Entry AccountOp AccountOp.Ret AccountState

def Serves (s : Service) (floor : AccountFloor) : Prop := ∀ m ∈ floor.members,∃ request,m.begun = calling s request

section

theorem Serves.before (serves : Serves s next) (moved : Moves accountStage floor next) : Serves s floor := by
  cases moved with
  | enter q => exact fun m inside => serves m (List.mem_append_left _ inside)
  | drift moved => exact serves
  | @act i q op rest waiting =>
    intro m inside
    obtain ⟨j,bound,rfl⟩ := List.getElem_of_mem inside
    have begun := serves _ (List.getElem_mem (n:=j) (by rwa [List.length_set]))
    by_cases mine : i = j
    · subst mine
      obtain ⟨known,same⟩ := List.getElem?_eq_some_iff.mp waiting
      rw [List.getElem_set_self] at begun
      rw [same]
      exact begun
    · rw [List.getElem_set_ne mine] at begun
      exact begun

theorem waiting_asks (played : Plays accountStage initial floor) (serves : Serves s floor)
    (waiting : floor.members[i]? = some ⟨p,.call op rest⟩) :
    Asks s (own i floor.log) op ∨ ∃ organization id status,op = .changeStatus organization id status ∧
      p = calling s (.changeStatus organization id status) := by
  have went := played.accounted.went i _ waiting
  obtain ⟨request,rfl⟩ : ∃ request,p = calling s request := serves _ (List.mem_of_getElem? waiting)
  cases served : request.administers with
  | false => exact .inl (follows_went (calling_follows served) went).1
  | true =>
    cases request with
    | changeStatus organization id status =>
      have only : (calling s (.changeStatus organization id status)).Only
          (· = .changeStatus organization id status) := .bind (.perform rfl) fun _ => .bind (.check _ _) fun _ => trivial
      exact .inr ⟨organization,id,status,(went.only only).1.1,rfl⟩
    | _ => cases served

theorem entry_asks {entry : Entry _ _ _} (played : Plays accountStage initial floor) (serves : Serves s floor)
    (split : floor.log = before ++ entry :: after) :
    Asks s (own entry.caller before) entry.exchange.1 ∨ ∃ organization id status,
      entry.exchange.1 = .changeStatus organization id status ∧
        floor.members[entry.caller]?.map Member.begun = some (calling s (.changeStatus organization id status)) := by
  have entered := played.accounted.entered entry (by simp [split])
  have member := List.getElem?_eq_getElem entered
  obtain ⟨request,same⟩ := serves _ (List.getElem_mem entered)
  cases served : request.administers with
  | false =>
    have follows : Follows (remembering (Asks s)) (fun _ _ => True) [] floor.members[entry.caller].begun := by
      rw [same]
      exact calling_follows served
    exact .inl (asked_then played split member follows)
  | true =>
    cases request with
    | changeStatus organization id status =>
      have only : floor.members[entry.caller].begun.Only (· = .changeStatus organization id status) := by
        rw [same]
        exact .bind (.perform rfl) fun _ => .bind (.check _ _) fun _ => trivial
      refine .inr ⟨organization,id,status,played.only member only entry (by simp [split]) rfl,?_⟩
      rw [member,Option.map_some,same]
    | _ => cases served

theorem serves_turns {requests : List Request} (taken : takeTurns exec turns ⟨w,[],[]⟩ = some floor)
    (same : turns.filterMap Turn.entered = requests.map (calling s)) : Serves s floor := by
  intro m inside
  have begun : m.begun ∈ requests.map (calling s) := by
    have entered := takeTurns_begun taken
    rw [List.map_nil,List.nil_append,same] at entered
    rw [← entered]
    exact List.mem_map_of_mem inside
  obtain ⟨request,-,known⟩ := List.mem_map.mp begun
  exact ⟨request,known.symm⟩

end

end OpenProof.AccountTraces
