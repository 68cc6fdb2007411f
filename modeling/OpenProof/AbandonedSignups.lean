import Mathlib.Data.List.Nodup
import OpenProof.SignupFailures
import OpenProof.AccountTraces

namespace OpenProof.AbandonedSignups
open CallTraces CallLogs CallHistories Foundation ExternalIdentities IdentityProfiles List
open Accounts AccountWorld AccountService SignupSteps SignupFailures AccountTraces Identities

def Open (log : List AccountEntry) (i : Nat) (subject : ExternalSubject) : Prop :=
  ∃ identity,Pending identity subject (own i log)

structure Guarded (floor : AccountFloor) : Prop where
  sole : ∀ i j subject,Open floor.log i subject → Open floor.log j subject → i = j
  there : ∀ i subject,Open floor.log i subject → ∃ account,floor.world.accounts[subject]? = some account

section
variable {s : Service} {initial w : AccountState} {floor : AccountFloor} {i k : Nat}

theorem open_cases (opened : Open (log ++ [⟨i,w,⟨op,answer⟩⟩]) k subject) :
    (Open log k subject ∧ (k = i → removes op = false)) ∨ k = i ∧ ∃ identity password,
      (⟨op,answer⟩ : Exchange AccountOp AccountOp.Ret) = ⟨.enrollPending identity subject password,.ok ()⟩ := by
  obtain ⟨identity,⟨password,enrolled⟩,kept⟩ := opened
  rw [own_append] at enrolled kept
  by_cases mine : i = k
  · subst mine
    rw [own_mine] at enrolled kept
    have keeps := kept _ (mem_append_right _ mem_cons_self)
    rcases mem_append.mp enrolled with old | new
    · exact .inl ⟨⟨identity,⟨password,old⟩,fun exchange inside => kept exchange (mem_append_left _ inside)⟩,
        fun _ => keeps⟩
    · exact .inr ⟨rfl,identity,password,(mem_singleton.mp new).symm⟩
  · rw [own_other mine,append_nil] at enrolled kept
    exact .inl ⟨⟨identity,⟨password,enrolled⟩,kept⟩,fun same => absurd same.symm mine⟩

theorem account_after (there : ∃ account,w.accounts[subject]? = some account)
    (keeps : ∀ identity,op ≠ .removePending identity subject) :
    ∃ account,(exec op w).2.accounts[subject]? = some account := by
  cases op with
  | enrollPending identity other password =>
    dsimp only [exec]
    rcases LocalAccounts.enrollPending_cases identity other (w.hasher password) w.accounts with
      ⟨e,same⟩ | ⟨hash,-,-,-,same⟩
    · rw [same]
      exact there
    · obtain ⟨account,found⟩ := there
      rw [same]
      by_cases here : other = subject
      · exact ⟨⟨some identity,hash⟩,by simp [here]⟩
      · exact ⟨account,by simp [here,found]⟩
  | removePending identity other =>
    dsimp only [exec]
    obtain ⟨account,found⟩ := there
    have apart : other ≠ subject := by
      rintro rfl
      exact keeps identity rfl
    rcases LocalAccounts.removePending_cases identity other w.accounts with same | same
    · exact ⟨account,by rw [same,found]⟩
    · exact ⟨account,by simp [same,apart,found]⟩
  | _ => exact there

theorem enrolled_fresh {identity : IdentityId} {password : Text}
    (done : (⟨op,(exec op w).1⟩ : Exchange AccountOp AccountOp.Ret) = ⟨.enrollPending identity subject password,.ok ()⟩) :
    w.accounts[subject]? = none ∧ ∃ account,(exec op w).2.accounts[subject]? = some account := by
  cases congrArg Sigma.fst done
  have enrolled : (w.accounts.enrollPending identity subject (w.hasher password)).1 = .ok () := eq_of_heq (Sigma.mk.inj done).2
  dsimp only [exec]
  rcases LocalAccounts.enrollPending_cases identity subject (w.hasher password) w.accounts with
    ⟨e,same⟩ | ⟨hash,-,-,free,same⟩
  · rw [same] at enrolled
    cases enrolled
  · exact ⟨free,⟨some identity,hash⟩,by simp [same]⟩

theorem guarded (played : Plays accountStage initial floor) (serves : Serves s floor) : Guarded floor := by
  induction played with
  | start =>
    constructor
    · rintro i j subject ⟨identity,⟨password,impossible⟩,-⟩
      cases impossible
    · rintro i subject ⟨identity,⟨password,impossible⟩,-⟩
      cases impossible
  | @move middle next played moved ih =>
    have guarded := ih (serves.before moved)
    have known := serves.before moved
    cases moved with
    | enter p => exact ⟨guarded.sole,guarded.there⟩
    | drift moved =>
      refine ⟨guarded.sole,fun i subject opened => ?_⟩
      rw [moved.accounts]
      exact guarded.there i subject opened
    | @act i p op rest waiting =>
      have asks := waiting_asks played known waiting
      have free : ∀ {j subject},Open middle.log j subject → middle.world.accounts[subject]? = none → False := by
        intro j subject opened absent
        obtain ⟨account,found⟩ := guarded.there j subject opened
        cases absent.symm.trans found
      constructor
      · intro j k subject one two
        rcases open_cases one with ⟨first,-⟩ | ⟨rfl,identity,password,done⟩
        · rcases open_cases two with ⟨second,-⟩ | ⟨rfl,identity,password,done⟩
          · exact guarded.sole j k subject first second
          · exact (free first (enrolled_fresh done).1).elim
        · rcases open_cases two with ⟨second,-⟩ | ⟨rfl,-⟩
          · exact (free second (enrolled_fresh done).1).elim
          · rfl
      · intro k subject opened
        rcases open_cases opened with ⟨earlier,keeps⟩ | ⟨rfl,identity,password,done⟩
        · refine account_after (guarded.there k subject earlier) ?_
          rintro identity rfl
          rcases asks with pending | ⟨organization,id,status,impossible,-⟩
          · exact nomatch keeps (guarded.sole k i subject earlier ⟨identity,pending⟩)
          · cases impossible
        · exact (enrolled_fresh done).2

theorem signed_there {email password normalized : Text} {displayName : Option Text} {identity : IdentityId}
    (played : Plays accountStage initial floor) (serves : Serves s floor)
    (signed : floor.members[i]? = some ⟨calling s (.signup email password displayName),.ret (.signedUp identity)⟩)
    (normal : normalizeEmail email = .ok normalized) :
    ∃ account,floor.world.accounts[(⟨normalized⟩ : ExternalSubject)]? = some account := by
  have went := played.accounted.went i _ signed
  obtain ⟨other,same,pending⟩ := follows_went calling_signed went identity rfl
  cases normal.symm.trans same
  exact (guarded played serves).there i ⟨normalized⟩ ⟨identity,pending⟩

end

section
variable (s : Service) (email password normalized : Text) (displayName : Option Text) (mine : IdentityId) (w : AccountState)

structure Working : Prop where
  forward : Steady w.clock
  draws : ∀ n,∃ token,w.randomness n 24 = .ok token ∧ token ≠ [] ∧ token.length ≤ 256
  fresh : ∀ token,w.randomness 0 24 = .ok token → w.identities[(⟨Text.of "opi_" ++ token⟩ : IdentityId)]? = none
  keyed : ∀ text,∃ fingerprint,s.hmacSha256 text = .ok fingerprint
  delivers : ∀ dispatch,w.delivery dispatch = .ok ()
  provided : s.localProvider.empty = false

-- A signup for an address that `mine` had signed up for and never verified.
structure Later : Prop extends Working s w where
  normal : normalizeEmail email = .ok normalized
  valid : LocalAccounts.isValidSubject ⟨normalized⟩ = true
  hashed : ∃ hash,w.hasher password = .ok hash
  named : mine.empty = false
  unowned : w.directory.ownerOf (localRef s normalized) = none
  expired : ∀ reservation : Reservation,w.repository.reservations[(localRef s normalized).key]? = some reservation →
    reservation.expiresAt ≤ w.clock 0
  unclaimed : ∀ candidate ∈ w.profiles.findVerifiedByEmail normalized,
    mayJoin s w candidate = true ∨ blocks s w candidate = true → candidate = mine

def Rejoins : Prop := mine ∈ w.profiles.findVerifiedByEmail normalized ∧ mayJoin s w mine = true

-- The address has no local account; and its signup is not refused for another reason.
structure Reusable : Prop where
  vacant : w.accounts[(⟨normalized⟩ : ExternalSubject)]? = none
  unblocked : mine ∈ w.profiles.findVerifiedByEmail normalized → blocks s w mine = false
  unconnected : Rejoins s normalized mine w → (w.directory.externalIdentitiesOf mine).any
    (fun connected => connected.providerId = s.localProvider) = false
  presented : ¬Rejoins s normalized mine w → ∀ name,displayName = some name → validText (some name) 256 = true

end

section
variable {s : Service} {email password normalized : Text} {displayName : Option Text} {mine identity : IdentityId}

theorem blocks_joins (joins : mayJoin s w candidate = true) : blocks s w candidate = false := by
  unfold blocks
  obtain ⟨canonical,found,signs⟩ := (Option.any_eq_true _ _).mp joins
  simp [found,signs]

theorem verified_nodup (normalized : Text) (profiles : ProfileStore) : (profiles.findVerifiedByEmail normalized).Nodup := by
  have keys : (profiles.toList.map Prod.fst).Nodup := by
    rw [Std.ExtTreeMap.map_fst_toList_eq_keys]
    exact Std.ExtTreeMap.nodup_keys
  exact keys.sublist (filter_sublist.map Prod.fst)

theorem filter_only {candidates : List IdentityId} (distinct : candidates.Nodup) (there : mine ∈ candidates)
    (holds : p mine = true) (only : ∀ candidate ∈ candidates,p candidate = true → candidate = mine) :
    candidates.filter p = [mine] := by
  have same : candidates.filter p = candidates.filter (· == mine) := by
    apply filter_congr
    intro candidate inside
    by_cases equal : candidate = mine
    · simp [equal,holds]
    · rw [beq_false_of_ne equal,Bool.eq_false_iff]
      exact fun admitted => equal (only candidate inside admitted)
  rw [same,filter_beq mine,count_eq_one_of_mem distinct there]
  rfl

theorem joined_mine (unclaimed : ∀ candidate ∈ w.profiles.findVerifiedByEmail normalized,
      mayJoin s w candidate = true ∨ blocks s w candidate = true → candidate = mine) :
    ∀ joins,joined ((w.profiles.findVerifiedByEmail normalized).filter (mayJoin s w))
        ((w.profiles.findVerifiedByEmail normalized).countP (blocks s w)) = .ok joins ↔
      (joins = some mine ∧ Rejoins s normalized mine w ∨ joins = none ∧ ¬Rejoins s normalized mine w) ∧
        (mine ∈ w.profiles.findVerifiedByEmail normalized → blocks s w mine = false) := by
  intro joins
  have distinct := verified_nodup normalized w.profiles
  unfold Rejoins
  generalize w.profiles.findVerifiedByEmail normalized = candidates at unclaimed distinct
  by_cases there : mine ∈ candidates
  · cases admitted : mayJoin s w mine with
    | true =>
      have alone := filter_only distinct there admitted fun c inside admits => unclaimed c inside (.inl admits)
      have unblocked : candidates.countP (blocks s w) = 0 := by
        apply countP_eq_zero.mpr
        intro c inside blocked
        rw [unclaimed c inside (.inr blocked),blocks_joins admitted] at blocked
        cases blocked
      cases joins <;> simp [joined,alone,unblocked,there,blocks_joins admitted,eq_comm]
    | false =>
      have nobody : candidates.filter (mayJoin s w) = [] := by
        apply filter_eq_nil_iff.mpr
        intro c inside admits
        rw [unclaimed c inside (.inl admits),admitted] at admits
        cases admits
      cases blocked : blocks s w mine with
      | true =>
        have some_ : 0 < candidates.countP (blocks s w) := countP_pos_iff.mpr ⟨mine,there,blocked⟩
        simp [joined,nobody,some_,there]
      | false =>
        have unblocked : candidates.countP (blocks s w) = 0 := by
          apply countP_eq_zero.mpr
          intro c inside stands
          rw [unclaimed c inside (.inr stands),blocked] at stands
          cases stands
        cases joins <;> simp [joined,nobody,unblocked,there]
  · have nobody : candidates.filter (mayJoin s w) = [] := by
      apply filter_eq_nil_iff.mpr
      intro c inside admits
      exact there (unclaimed c inside (.inl admits) ▸ inside)
    have unblocked : candidates.countP (blocks s w) = 0 := by
      apply countP_eq_zero.mpr
      intro c inside blocked
      exact there (unclaimed c inside (.inr blocked) ▸ inside)
    cases joins <;> simp [joined,nobody,unblocked,there]

theorem draws_seal (keyed : ∀ text,∃ fingerprint,s.hmacSha256 text = .ok fingerprint)
    (draws : ∀ n,∃ token,randomness n 24 = .ok token ∧ token ≠ [] ∧ token.length ≤ 256) : Seals s randomness := by
  obtain ⟨idRaw,first,-⟩ := draws 0
  obtain ⟨secret,second,given,short⟩ := draws 1
  obtain ⟨fingerprint,sealed⟩ := keyed ((Text.of "opv_" ++ idRaw) ++ ch ':' :: secret)
  refine ⟨idRaw,secret,fingerprint,first,second,?_⟩
  have named : (⟨Text.of "opv_" ++ idRaw⟩ : VerificationId).empty = false := rfl
  have formed : (secret.isEmpty || decide (secret.length > 256)) = false := by
    simp [given,short]
  rw [digest,named,Bool.false_or,formed]
  exact sealed

theorem holds_vacant (later : Later s email password normalized mine w) (named : identity.empty = false)
    (reached : w.clock 0 ≤ now) :
    Holds s normalized password w identity now base ↔ w.accounts[(⟨normalized⟩ : ExternalSubject)]? = none := by
  obtain ⟨hash,hashed⟩ := later.hashed
  constructor
  · intro holds
    have enrolled := holds.enrols
    rcases LocalAccounts.enrollPending_cases identity ⟨normalized⟩ (w.hasher password) w.accounts with
      ⟨e,same⟩ | ⟨-,-,-,free,-⟩
    · rw [same] at enrolled
      cases enrolled
    · exact free
  · intro vacant
    constructor
    · have subject : (⟨normalized⟩ : ExternalSubject).empty = false := by
        have valid := later.valid
        simp only [LocalAccounts.isValidSubject,Bool.and_eq_true,Bool.not_eq_true'] at valid
        exact valid.1.1
      unfold AccountRepository.reserveSubject
      simp only [localRef,later.provided,subject,named,Bool.or_false,Bool.false_eq_true,if_false]
      split
      · rfl
      · rename_i found known
        have over_ : found.expiresAt ≤ now := Int.le_trans (later.expired found known) reached
        simp [over_]
    · simp [LocalAccounts.enrollPending,named,later.valid,hashed,Map.holds,vacant]

theorem reaches_reusable (later : Later s email password normalized mine w) :
    Reaches s email password displayName w ↔ Reusable s normalized displayName mine w := by
  have choices := joined_mine later.unclaimed
  have unreserved : w.repository.reservedOwner (localRef s normalized) (w.clock 0) = none := by
    unfold AccountRepository.reservedOwner
    split
    · rfl
    · rename_i found known
      exact if_pos (later.expired found known)
  constructor
  · rintro (⟨other,existing,attached⟩ | ⟨⟨other,identity,entered⟩,finishes⟩)
    · cases later.normal.symm.trans attached.normal
      obtain ⟨⟨same,rejoins⟩ | ⟨none,-⟩,unblocked⟩ := (choices _).mp attached.screened.chosen
      · cases same
        have vacant := (holds_vacant later later.named (later.forward 0)).mp ⟨attached.joins.reserves,attached.joins.enrols⟩
        exact ⟨vacant,unblocked,fun _ => attached.joins.unconnected,fun apart => absurd rejoins apart⟩
      · cases none
    · cases later.normal.symm.trans entered.normal
      obtain ⟨⟨some_,-⟩ | ⟨-,apart⟩,unblocked⟩ := (choices _).mp entered.screened.chosen
      · cases some_
      · obtain ⟨generated,drawn,rfl⟩ := entered.enrols.drawn
        have vacant := (holds_vacant later rfl (Int.le_trans (later.forward 0) (later.forward 1))).mp
          ⟨entered.enrols.reserves,entered.enrols.enrols⟩
        exact ⟨vacant,unblocked,fun rejoins => absurd rejoins apart,fun _ name given => (finishes.1.named name given).2⟩
  · intro reusable
    by_cases rejoins : Rejoins s normalized mine w
    · refine .inl ⟨normalized,mine,later.normal,⟨later.unowned,unreserved,?_⟩,?_⟩
      · exact (choices _).mpr ⟨.inl ⟨rfl,rejoins⟩,reusable.unblocked⟩
      · have holds : Holds s normalized password w mine (w.clock 1) (w.clock 2) :=
          (holds_vacant later later.named (later.forward 0)).mpr reusable.vacant
        exact ⟨⟨holds.reserves,holds.enrols⟩,reusable.unconnected rejoins,draws_seal later.keyed later.draws⟩
    · obtain ⟨token,drawn,-⟩ := later.draws 0
      refine .inr ⟨⟨normalized,⟨Text.of "opi_" ++ token⟩,later.normal,⟨later.unowned,unreserved,?_⟩,?_⟩,?_,?_⟩
      · exact (choices _).mpr ⟨.inr ⟨rfl,rejoins⟩,reusable.unblocked⟩
      · have holds : Holds s normalized password w ⟨Text.of "opi_" ++ token⟩ (w.clock 2) (w.clock 3) :=
          (holds_vacant later rfl (Int.le_trans (later.forward 0) (later.forward 1))).mpr reusable.vacant
        exact ⟨⟨holds.reserves,holds.enrols⟩,⟨token,drawn,rfl⟩,later.fresh token drawn⟩
      · exact ⟨later.forward 4,fun name given => ⟨later.forward 5,reusable.presented rejoins name given⟩⟩
      · exact draws_seal later.keyed fun n => later.draws (n+1)

theorem succeeds_reaches (delivers : ∀ dispatch,w.delivery dispatch = .ok ()) :
    (∃ identity,((signup s email password displayName).run exec w).1 = .ok identity) ↔
      Reaches s email password displayName w := by
  have goes : Alone exec (signup s email password displayName) w _ := signup_alone
  rcases goes with ⟨reaches,-,dispatch,identity,done⟩ | ⟨apart,-,⟨e,failed⟩,-⟩
  · refine ⟨fun _ => reaches,fun _ => ⟨identity,?_⟩⟩
    rw [done,delivers]
    rfl
  · constructor
    · rintro ⟨identity,done⟩
      cases failed.symm.trans done
    · exact fun reaches => absurd reaches apart

end

-- After an abandoned signup a later one succeeds exactly when no local account is stored
-- for the address; and one that has succeeded has left its account there for good.
theorem abandoned_signup_reused {s : Service} {initial : AccountState} {floor : AccountFloor}
    {email password normalized : Text} {displayName : Option Text} {mine : IdentityId}
    (played : Plays accountStage initial floor) (serves : Serves s floor)
    (later : Later s email password normalized mine floor.world) :
    ((∃ identity,((signup s email password displayName).run exec floor.world).1 = .ok identity) ↔
      Reusable s normalized displayName mine floor.world) ∧
    ∀ (i : Nat) (address secret : Text) (name : Option Text) (identity : IdentityId),
      floor.members[i]? = some ⟨calling s (.signup address secret name),.ret (.signedUp identity)⟩ →
        normalizeEmail address = .ok normalized → ¬Reusable s normalized displayName mine floor.world := by
  refine ⟨(succeeds_reaches later.delivers).trans (reaches_reusable later),?_⟩
  intro i address secret name identity signed normal reusable
  obtain ⟨account,there⟩ := signed_there played serves signed normal
  cases reusable.vacant.symm.trans there

section

def demoNight (w : AccountState) : AccountState := { w with
  clock _ := 172800000
  randomness n _ := .ok [UInt8.ofNat (75+n)]
  hasher password := .ok ⟨password⟩
  delivery _ := .ok () }

def demoReady (mine : IdentityId) (w : AccountState) : Bool :=
  w.clock 0 ≤ 172800000 && (w.directory.ownerOf (localRef demoService demoAddress)).isNone &&
    (w.repository.reservations[(localRef demoService demoAddress).key]?.all fun reservation =>
      reservation.expiresAt ≤ 172800000) &&
    w.identities[(⟨"opi_K"⟩ : IdentityId)]?.isNone &&
    (w.profiles.findVerifiedByEmail demoAddress).all fun candidate => candidate == mine

theorem demo_later {w : AccountState} {mine : IdentityId} (named : mine.empty = false) (ready : demoReady mine w = true) :
    Passes w (demoNight w) ∧ Later demoService demoEmail demoPassword demoAddress mine (demoNight w) := by
  simp only [demoReady,Bool.and_eq_true,decide_eq_true_eq,Option.isNone_iff_eq_none,all_eq_true,beq_iff_eq] at ready
  obtain ⟨⟨⟨⟨early,unowned⟩,expired⟩,fresh⟩,unclaimed⟩ := ready
  refine ⟨⟨rfl,rfl,rfl,rfl,rfl,early,fun _ => Int.le_refl _⟩,?_⟩
  refine ⟨⟨fun _ => Int.le_refl _,fun n => ⟨[UInt8.ofNat (75+n)],rfl,by simp,by simp⟩,?_,fun text => ⟨_,rfl⟩,fun _ => rfl,
    by decide⟩,by decide,by decide,⟨_,rfl⟩,named,unowned,?_,fun candidate inside _ => unclaimed candidate inside⟩
  · intro token drawn
    cases drawn
    exact fresh
  · intro reservation found
    have found : w.repository.reservations[(localRef demoService demoAddress).key]? = some reservation := found
    rw [found] at expired
    have bound : reservation.expiresAt ≤ 172800000 := by simpa using expired
    exact bound

theorem demo_run {w : AccountState} {floor : AccountFloor} {mine : IdentityId} (named : mine.empty = false)
    (entered : turns.filterMap Turn.entered = [calling demoService request])
    (still : ∀ turn ∈ turns,turn.Allowed accountStage) (taken : takeTurns exec turns ⟨w,[],[]⟩ = some floor)
    (ready : demoReady mine floor.world = true) : Plays accountStage w { floor with world := demoNight floor.world } ∧
      Serves demoService { floor with world := demoNight floor.world } ∧
        Later demoService demoEmail demoPassword demoAddress mine (demoNight floor.world) := by
  obtain ⟨passes,later⟩ := demo_later named ready
  have served : Serves demoService floor :=
    serves_turns taken (show turns.filterMap Turn.entered = [request].map (calling demoService) from entered)
  exact ⟨(Plays.start.turns still taken).move (.drift passes),served,later⟩

def demoRequest : Request := .signup demoEmail demoPassword none

def signedAs (identity : IdentityId) : Except Error Reply → Bool
  | .ok (.signedUp other) => other == identity
  | _ => false

theorem signedAs_eq {identity : IdentityId} (signed : signedAs identity r = true) : r = .ok (.signedUp identity) := by
  unfold signedAs at signed
  split at signed
  · rw [beq_iff_eq.mp signed]
  · cases signed

-- The reservation has expired, the account has not.
theorem abandoned_signup_blocks : ∃ floor : AccountFloor,Plays accountStage demoState floor ∧ Serves demoService floor ∧
    floor.members[0]? = some ⟨calling demoService demoRequest,.ret (.signedUp ⟨"opi_A"⟩)⟩ ∧
      Later demoService demoEmail demoPassword demoAddress ⟨"opi_A"⟩ floor.world ∧
        ((signup demoService demoEmail demoPassword none).run exec floor.world).1 =
          .error (.because .alreadyExists "The local account already exists.") := by
  let turns : List (Turn AccountOp AccountOp.Ret Error Reply AccountState) :=
    .enter (calling demoService demoRequest) :: steps 0 19
  have done : (takeTurns exec turns (⟨demoState,[],[]⟩ : AccountFloor)).any (fun floor =>
      demoReady ⟨"opi_A"⟩ floor.world && ((floor.members[0]?.bind fun m => ended m.rest).any (signedAs ⟨"opi_A"⟩)) &&
        decide (((signup demoService demoEmail demoPassword none).run exec (demoNight floor.world)).1 =
          .error (.because .alreadyExists "The local account already exists."))) = true := by
    decide
  obtain ⟨floor,taken,holds⟩ := (Option.any_eq_true _ _).mp done
  simp only [Bool.and_eq_true,decide_eq_true_eq] at holds
  obtain ⟨⟨ready,signed⟩,refused⟩ := holds
  obtain ⟨r,member,same⟩ := takeTurns_ended taken rfl signed
  obtain ⟨played,serves,later⟩ := demo_run (by decide) rfl (by simp [turns,steps,Turn.Allowed]) taken ready
  rw [signedAs_eq same] at member
  exact ⟨_,played,serves,member,later,refused⟩

def demoMember : AccountState := { demoState with
  delivery _ := .error (.plain .unavailable)
  identities := Std.ExtTreeMap.insert ∅ ⟨"opi_E"⟩ ⟨⟨"org"⟩,⟨⟨"opi_E"⟩,.human,.active,0⟩⟩
  profiles := Std.ExtTreeMap.insert ∅ ⟨"opi_E"⟩
    ⟨⟨"opi_E"⟩,none,none,some demoAddress,true,none,false,none,none,"auto",0,0⟩ }

-- The first signup has undone all it did, and the later one succeeds.
theorem abandoned_signup_reused_undone : ∃ floor : AccountFloor,Plays accountStage demoMember floor ∧
    Serves demoService floor ∧ (∃ e,floor.members[0]? = some ⟨calling demoService demoRequest,.fail e⟩) ∧
      ∃ identity,((signup demoService demoEmail demoPassword none).run exec floor.world).1 = .ok identity := by
  let turns : List (Turn AccountOp AccountOp.Ret Error Reply AccountState) :=
    .enter (calling demoService demoRequest) :: steps 0 17
  have done : (takeTurns exec turns (⟨demoMember,[],[]⟩ : AccountFloor)).any (fun floor =>
      demoReady ⟨"opi_E"⟩ floor.world && ((floor.members[0]?.bind fun m => ended m.rest).any fun r => !r.isOk) &&
        floor.world.accounts[(⟨demoAddress⟩ : ExternalSubject)]?.isNone && !blocks demoService floor.world ⟨"opi_E"⟩ &&
          !(floor.world.directory.externalIdentitiesOf ⟨"opi_E"⟩).any fun connected =>
            decide (connected.providerId = demoService.localProvider)) = true := by
    decide
  obtain ⟨floor,taken,holds⟩ := (Option.any_eq_true _ _).mp done
  simp only [Bool.and_eq_true,Bool.not_eq_true',Option.isNone_iff_eq_none] at holds
  obtain ⟨⟨⟨⟨ready,failed⟩,vacant⟩,unblocked⟩,unconnected⟩ := holds
  obtain ⟨r,member,error⟩ := takeTurns_ended taken rfl failed
  obtain ⟨played,serves,later⟩ := demo_run (by decide) rfl (by simp [turns,steps,Turn.Allowed]) taken ready
  cases r with
  | ok reply => cases error
  | error e =>
    refine ⟨_,played,serves,⟨e,member⟩,(abandoned_signup_reused played serves later).1.mpr ?_⟩
    exact ⟨vacant,fun _ => unblocked,fun _ => unconnected,fun _ => nofun⟩

end

end OpenProof.AbandonedSignups
