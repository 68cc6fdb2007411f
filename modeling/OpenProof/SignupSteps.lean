import OpenProof.AccountService
import OpenProof.CallTraces

namespace OpenProof.SignupSteps
open AtomicPrograms CallTraces Foundation ExternalIdentities IdentityProfiles Accounts AccountWorld AccountService
open Identities

abbrev AccountExchange := Exchange AccountOp AccountOp.Ret

def isReplace : AccountOp → Bool
  | .replace _ => true
  | _ => false

def stores (trace : List AccountExchange) : Bool := trace.any fun exchange => isReplace exchange.1

@[simp] theorem stores_nil : stores [] = false := rfl
@[simp] theorem stores_cons (exchange : AccountExchange) (trace : List AccountExchange) :
    stores (exchange :: trace) = (isReplace exchange.1 || stores trace) := rfl
@[simp] theorem stores_append (one two : List AccountExchange) : stores (one ++ two) = (stores one || stores two) :=
  List.any_append

-- Nothing is left that was not there: no reservation, no local account, no new
-- identity but a deleted one.
structure Undone (before after : AccountState) : Prop where
  reservations : ∀ (key : ExternalKey) (reservation : Reservation),
    after.repository.reservations[key]? = some reservation → before.repository.reservations[key]? = some reservation
  accounts : ∀ (subject : ExternalSubject) (account : LocalAccount),
    after.accounts[subject]? = some account → before.accounts[subject]? = some account
  identities : ∀ (id : IdentityId) (owned : Identities.Owned),after.identities[id]? = some owned →
    before.identities[id]? = none → owned.identity.status = .deleted

theorem Undone.same {before after : AccountState} (repository : after.repository = before.repository)
    (accounts : after.accounts = before.accounts) (identities : after.identities = before.identities) :
    Undone before after := by
  constructor
  · intro key reservation found
    rwa [← repository]
  · intro subject account found
    rwa [← accounts]
  · intro id owned found absent
    rw [identities,absent] at found
    cases found

structure Cleared (s : Service) (email : Text) (before after : AccountState) : Prop where
  reservation : ∀ normalized (reservation : Reservation),normalizeEmail email = .ok normalized →
    after.repository.reservations[(localRef s normalized).key]? = some reservation →
      before.repository.reservations[(localRef s normalized).key]? = some reservation
  account : ∀ normalized (account : LocalAccount),normalizeEmail email = .ok normalized →
    after.accounts[(⟨normalized⟩ : ExternalSubject)]? = some account →
      before.accounts[(⟨normalized⟩ : ExternalSubject)]? = some account
  identities : ∀ (id : IdentityId) (owned : Identities.Owned),after.identities[id]? = some owned →
    before.identities[id]? = none → owned.identity.status = .deleted

theorem Undone.cleared {s : Service} {email : Text} {before after : AccountState} (undone : Undone before after) :
    Cleared s email before after :=
  ⟨fun _ reservation _ => undone.reservations _ reservation,fun _ account _ => undone.accounts _ account,undone.identities⟩

def Enrolled (email : Text) (before after : AccountState) : Prop :=
  ∃ normalized account,normalizeEmail email = .ok normalized ∧ before.accounts[(⟨normalized⟩ : ExternalSubject)]? = none ∧
    after.accounts[(⟨normalized⟩ : ExternalSubject)]? = some account

structure Owes (s : Service) (normalized : Text) (identity : IdentityId) (reserved enrolled added : Prop)
    (before after : AccountState) : Prop where
  reservations : ∀ (key : ExternalKey) (reservation : Reservation),
    after.repository.reservations[key]? = some reservation → before.repository.reservations[key]? = some reservation ∨
      reserved ∧ key = (localRef s normalized).key ∧ reservation.identity = identity
  accounts : ∀ (subject : ExternalSubject) (account : LocalAccount),after.accounts[subject]? = some account →
    before.accounts[subject]? = some account ∨ enrolled ∧ subject = ⟨normalized⟩ ∧ account.identity = some identity
  identities : ∀ (id : IdentityId) (owned : Identities.Owned),after.identities[id]? = some owned →
    before.identities[id]? = none → owned.identity.status = .deleted ∨
      added ∧ id = identity ∧ owned.organization = s.organization ∧ owned.identity.status = .deactivated

namespace Owes
variable {reserved enrolled added : Prop}

theorem nothing (repository : after.repository = before.repository) (accounts : after.accounts = before.accounts)
    (identities : after.identities = before.identities) :
    Owes s normalized identity reserved enrolled added before after := by
  constructor
  · intro key reservation found
    exact .inl (repository ▸ found)
  · intro subject account found
    exact .inl (accounts ▸ found)
  · intro id owned found absent
    rw [identities,absent] at found
    cases found

theorem undone (owes : Owes s normalized identity False False False before after) : Undone before after := by
  constructor
  · intro key reservation found
    simpa using owes.reservations key reservation found
  · intro subject account found
    simpa using owes.accounts subject account found
  · intro id owned found absent
    simpa using owes.identities id owned found absent

section
variable (owes : Owes s normalized identity reserved enrolled added before after)
include owes

theorem still (repository : next.repository.reservations = after.repository.reservations)
    (accounts : next.accounts = after.accounts) (identities : next.identities = after.identities) :
    Owes s normalized identity reserved enrolled added before next := by
  constructor
  · rw [repository]
    exact owes.reservations
  · rw [accounts]
    exact owes.accounts
  · rw [identities]
    exact owes.identities

theorem add (mine : record.id = identity) (deactivated : record.status = .deactivated) :
    Owes s normalized identity reserved enrolled True before (exec (.add s.organization record) after).2 := by
  refine ⟨owes.reservations,owes.accounts,fun id owned found absent => ?_⟩
  have kept : after.identities[id]? = some owned → owned.identity.status = .deleted ∨
      True ∧ id = identity ∧ owned.organization = s.organization ∧ owned.identity.status = .deactivated := by
    intro old
    rcases owes.identities id owned old absent with gone | ⟨-,fresh⟩
    · exact .inl gone
    · exact .inr ⟨trivial,fresh⟩
  have found : (after.identities.add s.organization record).2[id]? = some owned := found
  unfold Identities.IdentityStore.add at found
  split at found
  · exact kept found
  · rcases Map.insert_cases found with ⟨rfl,rfl⟩ | old
    · exact .inr ⟨trivial,mine,rfl,deactivated⟩
    · exact kept old

theorem reserve (now expiresAt : Instant) : Owes s normalized identity True enrolled added before
      (exec (.reserveSubject (localRef s normalized) identity now expiresAt) after).2 := by
  refine ⟨fun key reservation found => ?_,owes.accounts,owes.identities⟩
  have kept : after.repository.reservations[key]? = some reservation →
      before.repository.reservations[key]? = some reservation ∨
        True ∧ key = (localRef s normalized).key ∧ reservation.identity = identity := by
    intro old
    rcases owes.reservations key reservation old with old | ⟨-,mine⟩
    · exact .inl old
    · exact .inr ⟨trivial,mine⟩
  dsimp only [exec] at found
  rcases AccountRepository.reserveSubject_cases (localRef s normalized) identity now expiresAt after.repository with
    ⟨e,same⟩ | same
  · rw [same] at found
    exact kept found
  · rw [same] at found
    rcases Map.insert_cases found with ⟨rfl,rfl⟩ | old
    · exact .inr ⟨trivial,rfl,rfl⟩
    · exact kept old

theorem enrol : Owes s normalized identity reserved True added before
      (exec (.enrollPending identity ⟨normalized⟩ password) after).2 := by
  refine ⟨owes.reservations,fun subject account found => ?_,owes.identities⟩
  have kept : after.accounts[subject]? = some account → before.accounts[subject]? = some account ∨
      True ∧ subject = ⟨normalized⟩ ∧ account.identity = some identity := by
    intro old
    rcases owes.accounts subject account old with old | ⟨-,mine⟩
    · exact .inl old
    · exact .inr ⟨trivial,mine⟩
  dsimp only [exec] at found
  rcases LocalAccounts.enrollPending_cases identity ⟨normalized⟩ (after.hasher password) after.accounts with
    ⟨e,same⟩ | ⟨hash,-,-,-,same⟩
  · rw [same] at found
    exact kept found
  · rw [same] at found
    rcases Map.insert_cases found with ⟨rfl,rfl⟩ | old
    · exact .inr ⟨trivial,rfl,rfl⟩
    · exact kept old

theorem release : Owes s normalized identity False enrolled added before
      (exec (.releaseSubject (localRef s normalized) identity) after).2 := by
  refine ⟨fun key reservation found => .inl ?_,owes.accounts,owes.identities⟩
  dsimp only [exec] at found
  unfold AccountRepository.releaseSubject at found
  split at found
  · rename_i absent
    rcases owes.reservations key reservation found with old | ⟨-,rfl,-⟩
    · exact old
    · exact nomatch absent.symm.trans found
  · rename_i held known
    split at found
    · rename_i other
      rcases owes.reservations key reservation found with old | ⟨-,rfl,mine⟩
      · exact old
      · cases known.symm.trans found
        exact absurd mine other
    · rw [Map.find_erase] at found
      split at found
      · cases found
      · rename_i apart
        rcases owes.reservations key reservation found with old | ⟨-,rfl,-⟩
        · exact old
        · exact absurd rfl apart

theorem remove :
    Owes s normalized identity reserved False added before (exec (.removePending identity ⟨normalized⟩) after).2 := by
  refine ⟨owes.reservations,fun subject account found => .inl ?_,owes.identities⟩
  dsimp only [exec] at found
  unfold LocalAccounts.removePending at found
  split at found
  · rename_i absent
    rcases owes.accounts subject account found with old | ⟨-,rfl,-⟩
    · exact old
    · exact nomatch absent.symm.trans found
  · rename_i held known
    split at found
    · rename_i other
      rcases owes.accounts subject account found with old | ⟨-,rfl,mine⟩
      · exact old
      · cases known.symm.trans found
        exact absurd mine other
    · rw [Map.find_erase] at found
      split at found
      · cases found
      · rename_i apart
        rcases owes.accounts subject account found with old | ⟨-,rfl,-⟩
        · exact old
        · exact absurd rfl apart

theorem discard : Owes s normalized identity reserved enrolled False before
      (exec (.changeStatus s.organization identity .deleted) after).2 := by
  refine ⟨owes.reservations,owes.accounts,fun id owned found absent => .inl ?_⟩
  dsimp only [exec] at found
  rcases Identities.IdentityStore.changeStatus_cases s.organization identity .deleted after.identities with
    ⟨e,same⟩ | ⟨known,stored,within,same⟩
  · rw [same] at found
    rcases owes.identities id owned found absent with gone | ⟨-,rfl,within,deactivated⟩
    · exact gone
    · simp [Identities.IdentityStore.changeStatus,Identity.changeStatus,found,within,deactivated] at same
  · rw [same] at found
    rcases Map.insert_cases found with ⟨rfl,rfl⟩ | old
    · rfl
    · rcases owes.identities id owned old absent with gone | ⟨-,rfl,-⟩
      · exact gone
      · simp only [Map.find_insert,if_true,Option.some.injEq] at found
        rw [← found]

end

end Owes

section
variable (s : Service) (normalized password : Text) (displayName : Option Text) (w : AccountState)

def mayJoin (candidate : IdentityId) : Bool :=
  (w.identities.findById s.organization candidate).any Identity.canAuthenticate

def blocks (candidate : IdentityId) : Bool :=
  (w.identities.findById s.organization candidate).any fun canonical =>
    !canonical.canAuthenticate && decide (canonical.status ≠ .deleted ∧ canonical.status ≠ .merged)

structure Screened (joins : Option IdentityId) : Prop where
  unowned : w.directory.ownerOf (localRef s normalized) = none
  unreserved : w.repository.reservedOwner (localRef s normalized) (w.clock 0) = none
  chosen : joined ((w.profiles.findVerifiedByEmail normalized).filter (mayJoin s w))
    ((w.profiles.findVerifiedByEmail normalized).countP (blocks s w)) = .ok joins

def screenedWorld : AccountState := { w with clock := tail w.clock }

def Seals (randomness : Nat → Nat → Result Text) : Prop :=
  ∃ idRaw secret fingerprint,randomness 0 24 = .ok idRaw ∧ randomness 1 24 = .ok secret ∧
    digest s ⟨Text.of "opv_" ++ idRaw⟩ secret = .ok fingerprint

structure Holds (identity : IdentityId) (now base : Instant) : Prop where
  reserves : (w.repository.reserveSubject (localRef s normalized) identity now
    (base + s.policy.emailVerificationLifetime)).1 = .ok ()
  enrols : (w.accounts.enrollPending identity ⟨normalized⟩ (w.hasher password)).1 = .ok ()

structure Joins (existingIdentity : IdentityId) : Prop extends
    Holds s normalized password w existingIdentity (w.clock 0) (w.clock 1) where
  unconnected : (w.directory.externalIdentitiesOf existingIdentity).any
    (fun connected => connected.providerId = s.localProvider) = false
  sealed : Seals s w.randomness

structure Enrols (identity : IdentityId) : Prop extends
    Holds s normalized password w identity (w.clock 1) (w.clock 2) where
  drawn : ∃ generated,w.randomness 0 24 = .ok generated ∧ identity = ⟨Text.of "opi_" ++ generated⟩
  fresh : w.identities[identity]? = none

structure Presents (clock : Nat → Instant) : Prop where
  forward : clock 0 ≤ clock 1
  named : ∀ name,displayName = some name → clock 1 ≤ clock 2 ∧ validText (some name) 256 = true

end

section

theorem tally_alone (candidates activeVerifiedMatches : List IdentityId) (blockedVerifiedMatches : Nat) :
    Alone exec (tally s candidates activeVerifiedMatches blockedVerifiedMatches) w fun trace r later =>
      stores trace = false ∧ later = w ∧ r = .ok (activeVerifiedMatches ++ candidates.filter (mayJoin s w),
        blockedVerifiedMatches + candidates.countP (blocks s w)) := by
  induction candidates generalizing activeVerifiedMatches blockedVerifiedMatches with
  | nil => exact .ret (by simp)
  | cons candidate rest ih =>
    refine .ask ?_
    cases found : w.identities.findById s.organization candidate with
    | none =>
      have looked : (exec (.findById s.organization candidate) w).1 = .ok none := congrArg Except.ok found
      rw [looked]
      refine (ih activeVerifiedMatches blockedVerifiedMatches).mono ?_
      rintro trace r later ⟨quiet,rfl,rfl⟩
      simp [quiet,isReplace,mayJoin,blocks,found]
    | some canonical =>
      have looked : (exec (.findById s.organization candidate) w).1 = .ok (some canonical) :=
        congrArg Except.ok found
      rw [looked]
      simp only [Prog.check,Prog.bind_eq,Prog.ret_bind]
      split
      · rename_i admitted
        refine (ih _ blockedVerifiedMatches).mono ?_
        rintro trace r later ⟨quiet,rfl,rfl⟩
        simp [quiet,isReplace,mayJoin,blocks,found,admitted]
      · rename_i refused
        split
        · rename_i alive
          refine (ih activeVerifiedMatches _).mono ?_
          rintro trace r later ⟨quiet,rfl,rfl⟩
          simp [quiet,isReplace,mayJoin,blocks,found,refused,alive]
          omega
        · rename_i gone
          refine (ih activeVerifiedMatches blockedVerifiedMatches).mono ?_
          rintro trace r later ⟨quiet,rfl,rfl⟩
          simp only [not_and_or,not_not] at gone
          rcases gone with gone | gone <;> simp [quiet,isReplace,mayJoin,blocks,found,refused,gone]

theorem screen_alone : Alone exec (screen s normalized) w fun trace r later => stores trace = false ∧
    ((∃ joins,Screened s normalized w joins ∧ r = .ok joins ∧ later = screenedWorld w) ∨
      (∀ joins,¬Screened s normalized w joins) ∧ (∃ e,r = .error e) ∧ Undone w later) := by
  refine .ask (.check (fun existing owner => .refuseIf (fun unowned => ?_) fun owned => ?_) nofun)
  · cases owner
    rw [Option.isSome_eq_false_iff,Option.isNone_iff_eq_none] at unowned
    refine .ask (.ask (.check (fun reserved answer => .refuseIf (fun unreserved => ?_) fun reserved => ?_) nofun))
    · cases answer
      rw [Option.isSome_eq_false_iff,Option.isNone_iff_eq_none] at unreserved
      refine .ask (.check (fun candidates listed => .bind (tally_alone candidates [] 0) ?_ ?_) nofun)
      · rintro done ⟨active,blocked⟩ middle ⟨quiet,rfl,same⟩
        cases same
        cases listed
        apply Alone.checked
        rw [List.nil_append,Nat.zero_add]
        refine ⟨by simp [quiet,isReplace],?_⟩
        cases chosen : joined _ _ with
        | ok joins => exact .inl ⟨joins,⟨unowned,unreserved,chosen⟩,rfl,rfl⟩
        | error e =>
          refine .inr ⟨fun joins screened => ?_,⟨e,rfl⟩,.same rfl rfl rfl⟩
          exact nomatch chosen.symm.trans screened.chosen
      · rintro done e middle ⟨-,-,impossible⟩
        cases impossible
    · cases answer
      refine ⟨rfl,.inr ⟨fun joins screened => ?_,⟨_,rfl⟩,.same rfl rfl rfl⟩⟩
      have free : (w.repository.reservedOwner (localRef s normalized) (w.clock 0)).isSome = false :=
        congrArg Option.isSome screened.unreserved
      exact absurd (free.symm.trans reserved) Bool.false_ne_true
  · cases owner
    refine ⟨rfl,.inr ⟨fun joins screened => ?_,⟨_,rfl⟩,.same rfl rfl rfl⟩⟩
    rw [screened.unowned] at owned
    cases owned

-- The stores a challenge is not kept in.
structure Beside (before after : AccountState) : Prop where
  reservations : after.repository.reservations = before.repository.reservations
  accounts : after.accounts = before.accounts
  identities : after.identities = before.identities
  delivery : after.delivery = before.delivery

theorem issue_alone (named : identity.empty = false) (valid : LocalAccounts.isValidSubject ⟨normalized⟩ = true) :
    Alone exec (issue s identity .signupEmail normalized s.policy.emailVerificationLifetime) w fun trace r later =>
      Beside w later ∧ (Seals s w.randomness ∧ stores trace = true ∧ (∃ dispatch,r = .ok dispatch) ∨
        ¬Seals s w.randomness ∧ stores trace = false ∧ ∃ e,r = .error e) := by
  have addressed : normalized ≠ [] ∧ normalized.length ≤ 512 := by
    simp only [LocalAccounts.isValidSubject,StrongId.empty,Bool.and_eq_true,decide_eq_true_eq,Bool.not_eq_true',
      List.isEmpty_eq_false_iff] at valid
    exact ⟨valid.1.1,by omega⟩
  refine .ask (.check (fun idRaw first => .ask (.check (fun secret second => .check (fun fingerprint sealed => ?_) ?_) ?_))
    ?_)
  · refine .ask (.check (fun challenge made => .ask (.check (fun _ stored => .ret ?_) nofun)) fun e failed => ?_)
    · exact ⟨⟨rfl,rfl,rfl,rfl⟩,.inl ⟨⟨idRaw,secret,fingerprint,first,second,sealed⟩,rfl,_,rfl⟩⟩
    · unfold VerificationChallenge.create at failed
      split at failed
      · cases failed
      · rename_i malformed
        exact absurd ⟨⟨rfl,named⟩,addressed,s.policy.positive.1⟩ malformed
  · intro e failed
    refine ⟨⟨rfl,rfl,rfl,rfl⟩,.inr ⟨?_,rfl,e,rfl⟩⟩
    rintro ⟨id,token,fingerprint,one,two,sealed⟩
    cases first.symm.trans one
    cases second.symm.trans two
    exact nomatch failed.symm.trans sealed
  · intro e failed
    refine ⟨⟨rfl,rfl,rfl,rfl⟩,.inr ⟨?_,rfl,e,rfl⟩⟩
    rintro ⟨id,token,fingerprint,one,two,sealed⟩
    exact nomatch failed.symm.trans two
  · intro e failed
    refine ⟨⟨rfl,rfl,rfl,rfl⟩,.inr ⟨?_,rfl,e,rfl⟩⟩
    rintro ⟨id,token,fingerprint,one,two,sealed⟩
    exact nomatch failed.symm.trans one

theorem past {op : AccountOp} {f : Unit → AccountCall α}
    {post : List AccountExchange → Except Error α → AccountState → Prop}
    (rest : Alone exec (f ()) (exec op w).2 fun trace => post (⟨op,(exec op w).1⟩ :: trace)) :
    Alone exec (((ask op).bind fun _ => .ret ()).bind f) w post := rest

theorem orUndo_ends {post : List AccountExchange → Except Error α → AccountState → Prop}
    (rest : ∀ a,result = .ok a → post [] (.ok a) w)
    (stops : ∀ e,result = .error e → Alone exec undo w fun trace r later => r = .ok () ∧ post trace (.error e) later) :
    Alone exec (orUndo result undo) w post := by
  cases result with
  | ok a => exact rest a rfl
  | error e =>
    refine .bind (stops e rfl) ?_ ?_
    · rintro done a middle ⟨-,holds⟩
      exact .fail ((List.append_nil done).symm ▸ holds)
    · rintro done e' middle ⟨impossible,-⟩
      cases impossible

theorem orUndo_alone {f : α → AccountCall β} (rest : ∀ a,result = .ok a → Alone exec (f a) w post)
    (stops : ∀ e,result = .error e → Alone exec undo w fun trace r later => r = .ok () ∧ post trace (.error e) later) :
    Alone exec ((orUndo result undo).bind f) w post := by
  cases result with
  | ok a => exact rest a rfl
  | error e =>
    have ends : Alone exec (orUndo (.error e) undo : AccountCall α) w fun trace r later =>
        r = .error e ∧ post trace (.error e) later :=
      orUndo_ends nofun fun e' same => (stops e rfl).mono fun trace r later ⟨done,holds⟩ =>
        ⟨done,same.symm,holds⟩
    refine .bind ends ?_ ?_
    · rintro done a middle ⟨impossible,-⟩
      cases impossible
    · rintro done e' middle ⟨same,holds⟩
      cases same
      exact holds

structure Held (s : Service) (normalized : Text) (identity : IdentityId) (added : Prop) (before w later : AccountState) :
    Prop where
  owes : Owes s normalized identity True True added before later
  clock : later.clock = fun n => w.clock (n+2)
  randomness : later.randomness = w.randomness
  delivery : later.delivery = w.delivery
  named : identity.empty = false
  valid : LocalAccounts.isValidSubject ⟨normalized⟩ = true
  free : w.accounts[(⟨normalized⟩ : ExternalSubject)]? = none
  there : ∃ account,later.accounts[(⟨normalized⟩ : ExternalSubject)]? = some account

theorem hold_alone {undo : AccountCall Unit} {added : Prop} {before : AccountState}
    (owes : Owes s normalized identity False False added before w)
    (undoes : ∀ middle,Owes s normalized identity False False added before middle →
      Alone exec undo middle fun trace r later => r = .ok () ∧ stores trace = false ∧ Undone before later) :
    Alone exec (hold s identity normalized password undo) w fun trace r later => stores trace = false ∧
      (Holds s normalized password w identity (w.clock 0) (w.clock 1) ∧ r = .ok () ∧
          Held s normalized identity added before w later ∨
        ¬Holds s normalized password w identity (w.clock 0) (w.clock 1) ∧ (∃ e,r = .error e) ∧ Undone before later) := by
  have started : Owes s normalized identity False False added before (exec .now (exec .now w).2).2 :=
    owes.still rfl rfl rfl
  refine .ask (.ask (.ask (orUndo_alone (fun _ reserves => .ask (orUndo_ends (fun _ enrols => ?_) fun e failed => ?_))
    fun e failed => ?_)))
  · rcases LocalAccounts.enrollPending_cases identity ⟨normalized⟩ (w.hasher password) w.accounts with
      ⟨e,same⟩ | ⟨hash,valid,-,free,same⟩
    · cases (congrArg Prod.fst same).symm.trans enrols
    · refine ⟨rfl,.inl ⟨⟨reserves,enrols⟩,rfl,(started.reserve _ _).enrol,rfl,rfl,rfl,?_,valid,free,
        ⟨some identity,hash⟩,?_⟩⟩
      · exact (AccountRepository.reserveSubject_named reserves).2
      · change (LocalAccounts.enrollPending identity ⟨normalized⟩ (w.hasher password) w.accounts).2[_]? = _
        simp [same]
  · refine past ((undoes _ ?_).mono ?_)
    · exact Owes.release ((started.reserve _ _).still rfl (LocalAccounts.enrollPending_fails failed) rfl)
    · rintro trace r later ⟨done,quiet,undone⟩
      exact ⟨done,quiet,.inr ⟨fun holds => (nomatch failed.symm.trans holds.enrols),⟨e,rfl⟩,undone⟩⟩
  · refine (undoes _ ?_).mono ?_
    · exact started.still (congrArg AccountRepository.reservations (AccountRepository.reserveSubject_fails failed)) rfl rfl
    · rintro trace r later ⟨done,quiet,undone⟩
      exact ⟨done,quiet,.inr ⟨fun holds => (nomatch failed.symm.trans holds.reserves),⟨e,rfl⟩,undone⟩⟩

theorem withdraw_alone {before : AccountState} (owes : Owes s normalized identity True True False before w) :
    Alone exec (withdraw (localRef s normalized) identity) w fun trace r later =>
      r = .ok () ∧ stores trace = false ∧ Undone before later :=
  ⟨rfl,rfl,owes.remove.release.undone⟩

theorem joinExisting_alone : Alone exec (joinExisting s identity normalized password) w fun trace r later =>
    Joins s normalized password w identity ∧ stores trace = true ∧
        (∃ dispatch,r = (w.delivery dispatch).map fun _ => identity) ∨
      ¬Joins s normalized password w identity ∧ stores trace = false ∧ (∃ e,r = .error e) ∧ Undone w later := by
  have clear : Owes s normalized identity False False False w (exec (.externalIdentitiesOf identity) w).2 :=
    .nothing rfl rfl rfl
  refine .ask (.check (fun connections listed => .refuseIf (fun unconnected => ?_) fun connected => ?_) nofun)
  · cases listed
    refine .bind (hold_alone clear fun middle owes => ⟨rfl,rfl,owes.undone⟩) ?_ ?_
    · rintro done a middle ⟨quiet,⟨holds,-,held⟩ | ⟨-,⟨e,impossible⟩,-⟩⟩
      · refine .bind (issue_alone held.named held.valid).attempt ?_ ?_
        · rintro issued outcome later ⟨result,same,beside,known⟩
          cases same
          rcases known with ⟨sealed,stored,dispatch,rfl⟩ | ⟨unsealed,silent,e,rfl⟩
          · rw [held.randomness] at sealed
            have joins : Joins s normalized password w identity := ⟨holds,unconnected,sealed⟩
            have sends : (exec (.deliver dispatch) later).1 = w.delivery dispatch := by
              change later.delivery dispatch = _
              rw [beside.delivery,held.delivery]
              rfl
            refine orUndo_alone (fun sent same => ?_) nofun
            cases same
            refine .ask (orUndo_alone (fun _ delivered => .ret ?_) fun e failed => ⟨rfl,?_⟩)
            · exact .inl ⟨joins,by simp [stored],dispatch,by rw [← sends,delivered]; rfl⟩
            · exact .inl ⟨joins,by simp [stored],dispatch,by rw [← sends,failed]; rfl⟩
          · refine orUndo_alone nofun fun e' same => ?_
            cases same
            refine (withdraw_alone (held.owes.still beside.reservations beside.accounts beside.identities)).mono ?_
            rintro trace r last ⟨done,still,undone⟩
            refine ⟨done,.inr ⟨fun joins => unsealed ?_,?_,⟨e,rfl⟩,undone⟩⟩
            · rw [held.randomness]
              exact joins.sealed
            · simp [quiet,silent,still,isReplace]
        · rintro issued e later ⟨result,impossible,-⟩
          cases impossible
      · cases impossible
    · rintro done e middle ⟨quiet,⟨-,impossible,-⟩ | ⟨fails,-,undone⟩⟩
      · cases impossible
      · exact .inr ⟨fun joins => fails joins.toHolds,by simp [quiet,isReplace],⟨e,rfl⟩,undone⟩
  · cases listed
    refine .inr ⟨fun joins => ?_,rfl,⟨_,rfl⟩,.same rfl rfl rfl⟩
    exact absurd (joins.unconnected.symm.trans connected) Bool.false_ne_true

theorem enrolNew_alone : Alone exec (enrolNew s normalized password) w fun trace r later => stores trace = false ∧
    ((∃ identity middle,Enrols s normalized password w identity ∧ r = .ok identity ∧
        Held s normalized identity True w middle later ∧ middle.clock = tail w.clock ∧
          middle.randomness = tail w.randomness ∧ middle.delivery = w.delivery ∧ middle.accounts = w.accounts) ∨
      (∀ identity,¬Enrols s normalized password w identity) ∧ (∃ e,r = .error e) ∧ Undone w later) := by
  refine .ask (.check (fun generated drawn => .ask (.check (fun canonical created => ?_) nofun)) fun e failed => ?_)
  · have made : Identity.create ⟨Text.of "opi_" ++ generated⟩ .human (w.clock 0) =
        .ok ⟨⟨Text.of "opi_" ++ generated⟩,.human,.active,w.clock 0⟩ := rfl
    obtain rfl := Except.ok.inj (made.symm.trans created)
    refine .check (fun deactivated changed => .ask (.check (fun _ added => ?_) fun e failed => ?_)) nofun
    · cases changed
      rcases Identities.IdentityStore.add_cases s.organization
        ⟨⟨Text.of "opi_" ++ generated⟩,.human,.deactivated,w.clock 0⟩ w.identities with ⟨e,same⟩ | ⟨fresh,-⟩
      · cases (congrArg Prod.fst same).symm.trans added
      · have owes : Owes s normalized ⟨Text.of "opi_" ++ generated⟩ False False False w
            (exec .now (exec (.randomToken 24) w).2).2 := .nothing rfl rfl rfl
        refine .bind (hold_alone (owes.add rfl rfl) fun middle owes => ⟨rfl,rfl,owes.discard.undone⟩) ?_ ?_
        · rintro done a middle ⟨quiet,⟨holds,-,held⟩ | ⟨-,⟨e,impossible⟩,-⟩⟩
          · refine .ret ⟨by simp [quiet,isReplace],.inl ⟨_,_,⟨⟨holds.reserves,holds.enrols⟩,⟨generated,drawn,rfl⟩,fresh⟩,rfl,held,?_⟩⟩
            exact ⟨rfl,rfl,rfl,rfl⟩
          · cases impossible
        · rintro done e middle ⟨quiet,⟨-,impossible,-⟩ | ⟨fails,-,undone⟩⟩
          · cases impossible
          · refine ⟨by simp [quiet,isReplace],.inr ⟨fun identity enrols => fails ?_,⟨e,rfl⟩,undone⟩⟩
            obtain ⟨generated',drawn',rfl⟩ := enrols.drawn
            cases drawn.symm.trans drawn'
            exact ⟨enrols.reserves,enrols.enrols⟩
    · cases changed
      rcases Identities.IdentityStore.add_cases s.organization
        ⟨⟨Text.of "opi_" ++ generated⟩,.human,.deactivated,w.clock 0⟩ w.identities with ⟨e',same⟩ | ⟨-,same⟩
      · refine ⟨rfl,.inr ⟨fun identity enrols => ?_,⟨e,rfl⟩,.same rfl rfl (congrArg Prod.snd same)⟩⟩
        obtain ⟨generated',drawn',rfl⟩ := enrols.drawn
        cases drawn.symm.trans drawn'
        have fresh := enrols.fresh
        simp [Identities.IdentityStore.add,Map.holds,fresh] at same
      · cases (congrArg Prod.fst same).symm.trans failed
  · refine ⟨rfl,.inr ⟨fun identity enrols => ?_,⟨e,rfl⟩,.same rfl rfl rfl⟩⟩
    obtain ⟨generated,drawn,-⟩ := enrols.drawn
    cases failed.symm.trans drawn

theorem pendingProfile_alone (named : identity.empty = false)
    (valid : LocalAccounts.isValidSubject ⟨normalized⟩ = true) :
    Alone exec (pendingProfile identity normalized displayName) w fun trace r later => stores trace = false ∧
      Beside w later ∧ later.randomness = w.randomness ∧
        (Presents displayName w.clock ∧ (∃ profile,r = .ok profile) ∨ ¬Presents displayName w.clock ∧ ∃ e,r = .error e) := by
  have lettered : validText (some normalized) 320 = true := by
    simpa [LocalAccounts.isValidSubject,StrongId.empty,validText] using valid
  have made : IdentityProfile.create identity (w.clock 0) =
      .ok ⟨identity,none,none,none,false,none,false,none,none,"auto",w.clock 0,w.clock 0⟩ := by
    simp [IdentityProfile.create,named]
  refine .ask (.check (fun profile created => ?_) fun e failed => ?_)
  · obtain rfl := Except.ok.inj (made.symm.trans created)
    rcases IdentityProfile.setEmail_cases
      ⟨identity,none,none,none,false,none,false,none,none,"auto",w.clock 0,w.clock 0⟩ normalized false (w.clock 1) with
      ⟨⟨forward,-⟩,set⟩ | ⟨back,e,refused⟩
    · refine .ask (.check (fun addressed done => ?_) fun e failed => ?_)
      · obtain rfl := Except.ok.inj (set.symm.trans done)
        cases displayName with
        | none => exact .ret ⟨rfl,⟨rfl,rfl,rfl,rfl⟩,rfl,.inl ⟨⟨forward,nofun⟩,_,rfl⟩⟩
        | some name =>
          refine .ask (Alone.checked ⟨rfl,⟨rfl,rfl,rfl,rfl⟩,rfl,?_⟩)
          rcases IdentityProfile.displayName_cases ⟨identity,none,none,some normalized,false,none,false,none,none,"auto",
            w.clock 0,w.clock 1⟩ name (w.clock 2) with ⟨taken,updated⟩ | ⟨refused,failed⟩
          · refine .inl ⟨⟨forward,fun other same => ?_⟩,updated⟩
            cases same
            exact taken
          · exact .inr ⟨fun presents => refused (presents.named name rfl),failed⟩
      · cases set.symm.trans failed
    · refine .ask (.check (fun addressed done => ?_) fun e failed => ?_)
      · cases refused.symm.trans done
      · exact ⟨rfl,⟨rfl,rfl,rfl,rfl⟩,rfl,.inr ⟨fun presents => back ⟨presents.forward,lettered⟩,e,rfl⟩⟩
  · cases made.symm.trans failed

theorem introduce_alone (named : identity.empty = false) (valid : LocalAccounts.isValidSubject ⟨normalized⟩ = true) :
    Alone exec (introduce s identity normalized displayName) w fun trace r later =>
      (Presents displayName w.clock ∧ Seals s w.randomness) ∧ stores trace = true ∧
          (∃ dispatch,r = (w.delivery dispatch).map fun _ => identity) ∨
        ¬(Presents displayName w.clock ∧ Seals s w.randomness) ∧ stores trace = false ∧ (∃ e,r = .error e) ∧
          later.accounts = w.accounts := by
  refine .bind (pendingProfile_alone named valid) ?_ ?_
  · rintro done profile middle ⟨quiet,beside,draws,⟨presents,-⟩ | ⟨-,e,impossible⟩⟩
    · refine .ask (orUndo_alone (fun _ saved => ?_) nofun)
      refine .bind (issue_alone named valid) ?_ ?_
      · rintro issued dispatch later ⟨further,⟨sealed,stored,-⟩ | ⟨-,-,e,impossible⟩⟩
        · have sends : (exec (.deliver dispatch) later).1 = w.delivery dispatch := by
            change later.delivery dispatch = _
            rw [further.delivery,← beside.delivery]
            rfl
          have sealed : Seals s w.randomness := draws ▸ sealed
          refine .ask (.check (fun _ delivered => .ret ?_) fun e failed => ?_)
          · exact .inl ⟨⟨presents,sealed⟩,by simp [stored],dispatch,by rw [← sends,delivered]; rfl⟩
          · exact .inl ⟨⟨presents,sealed⟩,by simp [stored],dispatch,by rw [← sends,failed]; rfl⟩
        · cases impossible
      · rintro issued e later ⟨further,⟨-,-,dispatch,impossible⟩ | ⟨unsealed,silent,-⟩⟩
        · cases impossible
        · refine .inr ⟨fun both => unsealed ?_,by simp [quiet,silent,isReplace],⟨e,rfl⟩,?_⟩
          · exact (congrArg (Seals s) draws).mpr both.2
          · exact further.accounts.trans beside.accounts
    · cases impossible
  · rintro done e middle ⟨quiet,beside,-,⟨-,profile,impossible⟩ | ⟨refused,-⟩⟩
    · cases impossible
    · exact .inr ⟨fun both => refused both.1,quiet,⟨e,rfl⟩,beside.accounts⟩

end

section
variable (s : Service) (email password : Text) (displayName : Option Text) (w : AccountState)

structure Enters (normalized : Text) (identity : IdentityId) : Prop where
  normal : normalizeEmail email = .ok normalized
  screened : Screened s normalized w none
  enrols : Enrols s normalized password (screenedWorld w) identity

def Finishes : Prop := Presents displayName (fun n => w.clock (n+4)) ∧ Seals s (tail w.randomness)

structure Attaches (normalized : Text) (existingIdentity : IdentityId) : Prop where
  normal : normalizeEmail email = .ok normalized
  screened : Screened s normalized w (some existingIdentity)
  joins : Joins s normalized password (screenedWorld w) existingIdentity

def Reaches : Prop :=
  (∃ normalized existingIdentity,Attaches s email password w normalized existingIdentity) ∨
    (∃ normalized identity,Enters s email password w normalized identity) ∧ Finishes s displayName w

def Strands : Prop :=
  (∃ normalized identity,Enters s email password w normalized identity) ∧ ¬Finishes s displayName w

end

section

theorem Screened.unique {normalized : Text} (first : Screened s normalized w one)
    (second : Screened s normalized w two) : one = two := by
  cases first.chosen.symm.trans second.chosen
  rfl

theorem screened_unattached {normalized : Text} (normal : normalizeEmail email = .ok normalized)
    (screened : Screened s normalized w none) (other : Text) (identity : IdentityId) :
    ¬Attaches s email password w other identity := by
  intro attached
  cases normal.symm.trans attached.normal
  cases screened.unique attached.screened

theorem unentered_ends {r : Except Error IdentityId}
    (enters : ∀ normalized identity,¬Enters s email password w normalized identity)
    (attaches : ∀ normalized identity,¬Attaches s email password w normalized identity)
    (quiet : stores trace = false) (failed : ∃ e,r = .error e) (undone : Undone w later) :
    ¬Reaches s email password displayName w ∧ stores trace = false ∧ (∃ e,r = .error e) ∧
      (Strands s email password displayName w ∧ Enrolled email w later ∨
        ¬Strands s email password displayName w ∧ Undone w later) := by
  refine ⟨?_,quiet,failed,.inr ⟨?_,undone⟩⟩
  · rintro (⟨normalized,identity,attached⟩ | ⟨⟨normalized,identity,entered⟩,-⟩)
    · exact attaches normalized identity attached
    · exact enters normalized identity entered
  · rintro ⟨⟨normalized,identity,entered⟩,-⟩
    exact enters normalized identity entered

theorem entered_alone {normalized : Text} {identity : IdentityId}
    (entered : Enters s email password w normalized identity)
    (held : Held s normalized identity True (screenedWorld w) middle world)
    (clock : middle.clock = tail (screenedWorld w).clock) (draws : middle.randomness = tail w.randomness)
    (sends : middle.delivery = w.delivery) (accounts : middle.accounts = w.accounts) :
    Alone exec (introduce s identity normalized displayName) world fun trace r later =>
      Reaches s email password displayName w ∧ stores trace = true ∧
          (∃ dispatch,r = (w.delivery dispatch).map fun _ => identity) ∨
        ¬Reaches s email password displayName w ∧ stores trace = false ∧ (∃ e,r = .error e) ∧
          Strands s email password displayName w ∧ Enrolled email w later := by
  have ticks : world.clock = fun n => w.clock (n+4) := by
    rw [held.clock,clock]
    rfl
  have tokens : world.randomness = tail w.randomness := held.randomness.trans draws
  have delivers : world.delivery = w.delivery := held.delivery.trans sends
  refine (introduce_alone held.named held.valid).mono ?_
  rw [ticks,tokens,delivers]
  rintro trace r later (⟨finishes,stored,sent⟩ | ⟨fails,still,failed,same⟩)
  · exact .inl ⟨.inr ⟨⟨normalized,identity,entered⟩,finishes⟩,stored,sent⟩
  · refine .inr ⟨?_,still,failed,⟨⟨normalized,identity,entered⟩,fails⟩,normalized,?_⟩
    · rintro (⟨other,existing,attached⟩ | ⟨-,finishes⟩)
      · exact screened_unattached entered.normal entered.screened other existing attached
      · exact fails finishes
    · obtain ⟨account,there⟩ := held.there
      exact ⟨account,entered.normal,(congrArg (·[_]?) accounts).symm.trans held.free,(congrArg (·[_]?) same).trans there⟩

theorem signup_alone : Alone exec (signup s email password displayName) w fun trace r later =>
    Reaches s email password displayName w ∧ stores trace = true ∧
        (∃ dispatch identity,r = (w.delivery dispatch).map fun _ => identity) ∨
      ¬Reaches s email password displayName w ∧ stores trace = false ∧ (∃ e,r = .error e) ∧
        (Strands s email password displayName w ∧ Enrolled email w later ∨
          ¬Strands s email password displayName w ∧ Undone w later) := by
  refine .check (fun normalized normal => ?_) fun e failed => ?_
  · refine .bind screen_alone ?_ ?_
    · rintro done joins middle ⟨quiet,⟨joins,screened,same,rfl⟩ | ⟨-,⟨e,impossible⟩,-⟩⟩
      · cases same
        cases joins with
        | some existing =>
          refine joinExisting_alone.mono ?_
          rintro trace r later (⟨joins,stored,dispatch,rfl⟩ | ⟨apart,silent,failed,undone⟩)
          · exact .inl ⟨.inl ⟨normalized,existing,normal,screened,joins⟩,by simp [stored],dispatch,existing,rfl⟩
          · refine .inr (unentered_ends ?_ ?_ (by simp [quiet,silent]) failed ⟨undone.1,undone.2,undone.3⟩)
            · intro other identity entered
              cases normal.symm.trans entered.normal
              cases screened.unique entered.screened
            · intro other identity attached
              cases normal.symm.trans attached.normal
              cases screened.unique attached.screened
              exact apart attached.joins
        | none =>
          refine .bind enrolNew_alone ?_ ?_
          · rintro enrolling identity world ⟨silent,⟨identity,middle,enrols,same,held,clock,draws,sends,accounts⟩ |
              ⟨-,⟨e,impossible⟩,-⟩⟩
            · cases same
              refine (entered_alone ⟨normal,screened,enrols⟩ held clock draws sends accounts).mono ?_
              rintro trace r later (⟨reaches,stored,dispatch,sent⟩ | ⟨fails,still,failed,strands⟩)
              · exact .inl ⟨reaches,by simp [stored],dispatch,identity,sent⟩
              · exact .inr ⟨fails,by simp [quiet,silent,still],failed,.inl strands⟩
            · cases impossible
          · rintro enrolling e world ⟨silent,⟨identity,middle,-,impossible,-⟩ | ⟨nobody,-,undone⟩⟩
            · cases impossible
            · refine .inr (unentered_ends ?_ (screened_unattached normal screened) (by simp [quiet,silent]) ⟨e,rfl⟩
                ⟨undone.1,undone.2,undone.3⟩)
              intro other identity entered
              cases normal.symm.trans entered.normal
              exact nobody identity entered.enrols
      · cases impossible
    · rintro done e middle ⟨quiet,⟨joins,-,impossible,-⟩ | ⟨nobody,-,undone⟩⟩
      · cases impossible
      · refine .inr (unentered_ends ?_ ?_ quiet ⟨e,rfl⟩ undone)
        · intro other identity entered
          cases normal.symm.trans entered.normal
          exact nobody none entered.screened
        · intro other identity attached
          cases normal.symm.trans attached.normal
          exact nobody (some identity) attached.screened
  · refine .inr (unentered_ends ?_ ?_ rfl ⟨e,rfl⟩ (.same rfl rfl rfl))
    · intro other identity entered
      exact nomatch failed.symm.trans entered.normal
    · intro other identity attached
      exact nomatch failed.symm.trans attached.normal

end

end OpenProof.SignupSteps
