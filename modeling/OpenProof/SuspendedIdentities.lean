import OpenProof.SignupFailures
import OpenProof.AccountTraces

namespace OpenProof.SuspendedIdentities
open CallTraces CallLogs CallHistories Foundation ExternalIdentities List
open Accounts AccountWorld AccountService SignupFailures AccountTraces CallProtocols Identities

def Stands (status : IdentityStatus) (id : IdentityId) (w : AccountState) : Prop :=
  ∃ owned,w.identities[id]? = some owned ∧ owned.identity.status = status

instance standsDecidable (status : IdentityStatus) (id : IdentityId) (w : AccountState) : Decidable (Stands status id w) :=
  decidable_of_iff (w.identities[id]?.map (fun owned => owned.identity.status) = some status) Option.map_eq_some_iff

def barring : IdentityStatus → Bool
  | .suspended | .locked => true
  | .active | .deactivated | .deleted | .merged => false

def Barred (id : IdentityId) (w : AccountState) : Prop := ∃ status,barring status = true ∧ Stands status id w

def Bars (id : IdentityId) : AccountOp → Prop
  | .changeStatus _ other status => other = id ∧ barring status = true
  | _ => False

inductive Takes (s : Service) (id : IdentityId) : Exchange AccountOp AccountOp.Ret → Prop where
  | seen (canonical : Identity) (signs : canonical.canAuthenticate = true) :
      Takes s id ⟨.findById s.organization id,.ok (some canonical)⟩
  | added (record : Identity) (same : record.id = id) : Takes s id ⟨.add s.organization record,.ok ()⟩
  | redeemed (key : VerificationId) (presented : VerificationDigest) (now : Instant) (maximumAttempts : Nat)
      (expected : Option IdentityId) (challenge : VerificationChallenge) (same : challenge.identity = id) :
      Takes s id ⟨.consume key presented now maximumAttempts expected,.ok challenge⟩

-- And this is what it takes it on for.
inductive Commits (id : IdentityId) : AccountOp → Prop where
  | reserves (external : ExternalIdentityRef) (now expiresAt : Instant) : Commits id (.reserveSubject external id now expiresAt)
  | activates (organization : OrganizationId) : Commits id (.changeStatus organization id .active)

def Lapsed (id : IdentityId) (then_ : Instant) (w : AccountState) : Prop :=
  ∀ (key : ExternalKey) (reservation : Reservation),w.repository.reservations[key]? = some reservation →
    reservation.identity = id → reservation.expiresAt ≤ then_

-- Nobody is suspended or locked while a signup for it is pending: while it holds a
-- reservation alive, or while a call is under way that has taken it on.
structure Undisturbed (s : Service) (log : List AccountEntry) : Prop where
  lapsed : ∀ entry ∈ log,∀ id,Bars id entry.exchange.1 → Lapsed id (entry.found.clock 0) entry.found
  apart : ∀ first (one : AccountEntry) between (two : AccountEntry) after,log = first ++ one :: (between ++ two :: after) → one.caller = two.caller →
    ∀ id,Takes s id one.exchange → Commits id two.exchange.1 → ∀ entry ∈ between,¬Bars id entry.exchange.1

def Unheld (w : AccountState) : Prop := ∀ id,Barred id w → Lapsed id (w.clock 0) w

section
variable {s : Service} {id other : IdentityId} {now later : Instant}

theorem standing_unbarred (there : w.identities[id]? = some owned) (spared : barring owned.identity.status = false) : ¬Barred id w := by
  rintro ⟨status,bars,found,known,same⟩
  cases there.symm.trans known
  rw [same,bars] at spared
  cases spared

theorem stands_written (written : w'.identities = w.identities.insert other owned) (stands : Stands status id w') :
    other = id ∧ owned.identity.status = status ∨ Stands status id w := by
  obtain ⟨found,known,same⟩ := stands
  rw [written] at known
  by_cases here : other = id
  · simp only [here,Std.ExtTreeMap.getElem?_insert_self,Option.some.injEq] at known
    exact .inl ⟨here,known ▸ same⟩
  · have kept : w.identities[id]? = some found := by simpa [here] using known
    exact .inr ⟨found,kept,same⟩

theorem unbarred_kept (unbarred : ¬Barred id w) (spares : ¬Bars id op)
    (adds : ∀ organization record,op = .add organization record → record.status = .deactivated) :
    ¬Barred id (exec op w).2 := by
  cases op with
  | add organization record =>
    rcases Identities.IdentityStore.add_cases organization record w.identities with ⟨e,same⟩ | ⟨-,same⟩
    · simpa only [exec,same] using unbarred
    · rintro ⟨status,bars,stands⟩
      rcases stands_written (congrArg Prod.snd same) stands with ⟨-,rfl⟩ | earlier
      · rw [adds organization record rfl] at bars
        cases bars
      · exact unbarred ⟨status,bars,earlier⟩
  | changeStatus organization other status =>
    rcases Identities.IdentityStore.changeStatus_cases organization other status w.identities with
      ⟨e,same⟩ | ⟨owned,-,-,same⟩
    · simpa only [exec,same] using unbarred
    · rintro ⟨status',bars,stands⟩
      rcases stands_written (congrArg Prod.snd same) stands with ⟨here,rfl⟩ | earlier
      · exact spares ⟨here,bars⟩
      · exact unbarred ⟨status',bars,earlier⟩
  | _ => exact unbarred

theorem seen_unbarred (signs : canonical.canAuthenticate = true)
    (seen : w.identities.findById organization id = some canonical) : ¬Barred id w := by
  unfold Identities.IdentityStore.findById at seen
  split at seen
  · cases seen
  · rename_i owned there
    split at seen
    · cases seen
    · cases seen
      apply standing_unbarred there
      cases status : owned.identity.status with
      | active => rfl
      | _ => simp [Identity.canAuthenticate,status,Identities.permitsAuthentication] at signs

theorem added_unbarred (deactivated : record.status = .deactivated)
    (added : (w.identities.add organization record).1 = .ok ()) : ¬Barred record.id (exec (.add organization record) w).2 := by
  rcases Identities.IdentityStore.add_cases organization record w.identities with ⟨e,same⟩ | ⟨-,same⟩
  · rw [same] at added
    cases added
  · have there : (exec (.add organization record) w).2.identities[record.id]? = some ⟨organization,record⟩ := by
      simp only [exec,same,Std.ExtTreeMap.getElem?_insert_self]
    apply standing_unbarred there
    rw [deactivated]
    rfl

theorem activated_by (barred : Barred id w) (active : Stands .active id (exec op w).2)
    (adds : ∀ organization record,op = .add organization record → record.status = .deactivated) :
    ∃ organization,op = .changeStatus organization id .active := by
  obtain ⟨status,bars,owned,there,same⟩ := barred
  have inactive : ¬Stands .active id w := by
    rintro ⟨found,known,active⟩
    cases there.symm.trans known
    rw [← same,active] at bars
    cases bars
  cases op with
  | add organization record =>
    rcases Identities.IdentityStore.add_cases organization record w.identities with ⟨e,refused⟩ | ⟨-,added⟩
    · exact absurd (by simpa only [exec,refused] using active) inactive
    · rcases stands_written (congrArg Prod.snd added) active with ⟨-,impossible⟩ | earlier
      · cases (adds organization record rfl).symm.trans impossible
      · exact absurd earlier inactive
  | changeStatus organization other status =>
    rcases Identities.IdentityStore.changeStatus_cases organization other status w.identities with
      ⟨e,refused⟩ | ⟨owned,-,-,changed⟩
    · exact absurd (by simpa only [exec,refused] using active) inactive
    · rcases stands_written (congrArg Prod.snd changed) active with ⟨rfl,rfl⟩ | earlier
      · exact ⟨organization,rfl⟩
      · exact absurd earlier inactive
  | _ => exact absurd active inactive

theorem clock_kept (op : AccountOp) (steady : Steady w.clock) : w.clock 0 ≤ (exec op w).2.clock 0 ∧ Steady (exec op w).2.clock := by
  cases op with
  | now => exact ⟨steady 0,fun n => steady (n+1)⟩
  | _ => exact ⟨Int.le_refl _,steady⟩

theorem Lapsed.mono (lapsed : Lapsed id now w) (forward : now ≤ later) : Lapsed id later w :=
  fun key reservation found same => Int.le_trans (lapsed key reservation found same) forward

theorem lapsed_kept (lapsed : Lapsed id now w)
    (unreserved : ∀ external at_ expiresAt,op ≠ .reserveSubject external id at_ expiresAt) : Lapsed id now (exec op w).2 := by
  cases op with
  | consume key presented at_ maximumAttempts expected =>
    intro held reservation found
    refine lapsed held reservation ?_
    rwa [← AccountRepository.consume_reservations key presented at_ maximumAttempts expected]
  | reserveSubject external owner at_ expiresAt =>
    rcases AccountRepository.reserveSubject_cases external owner at_ expiresAt w.repository with ⟨e,same⟩ | same
    · simpa only [exec,same] using lapsed
    · intro held reservation found mine
      simp only [exec,same] at found
      by_cases here : external.key = held
      · subst here
        simp at found
        subst found
        exact absurd (by rw [← mine]) (unreserved external at_ expiresAt)
      · simp [here] at found
        exact lapsed held reservation found mine
  | releaseSubject external owner =>
    rcases AccountRepository.releaseSubject_cases external owner w.repository with same | same
    · simpa only [exec,same] using lapsed
    · intro held reservation found mine
      simp only [exec,same] at found
      by_cases here : external.key = held
      · simp [here] at found
      · simp [here] at found
        exact lapsed held reservation found mine
  | _ => exact lapsed

end

section
variable {s : Service} {initial : AccountState} {floor : AccountFloor} {id : IdentityId}
  {first before between after : List AccountEntry} {entry one two : AccountEntry}

section
variable (played : Plays accountStage initial floor)
include played

theorem adds_deactivated (serves : Serves s floor) (inside : entry ∈ floor.log) :
    ∀ organization record,entry.exchange.1 = .add organization record → record.status = .deactivated := by
  intro organization record same
  obtain ⟨before,after,split⟩ := append_of_mem inside
  rcases entry_asks played serves split with asks | ⟨_,_,_,administers,-⟩
  · rw [same] at asks
    exact asks
  · cases same.symm.trans administers

theorem unbarred_until (serves : Serves s floor) (split : floor.log = first ++ one :: (between ++ two :: after))
    (unbarred : ¬Barred id (exec one.exchange.1 one.found).2) (spares : ∀ entry ∈ between,¬Bars id entry.exchange.1) :
    ¬Barred id two.found := by
  refine kept_until (φ:=fun w => ¬Barred id w) played ?_ split unbarred ?_
  · intro w w' passes kept
    simpa only [Barred,Stands,passes.identities] using kept
  · intro entry inside kept
    exact unbarred_kept kept (spares entry inside) (adds_deactivated played serves (by simp [split,inside]))

theorem barred_since (serves : Serves s floor) (split : floor.log = first ++ one :: (between ++ two :: after))
    (barred : Barred id two.found) (spares : ∀ entry ∈ between,¬Bars id entry.exchange.1) : ∀ entry ∈ between,Barred id entry.found := by
  intro entry inside
  by_contra unbarred
  have kept := unbarred_kept unbarred (spares entry inside) (adds_deactivated played serves (by simp [split,inside]))
  obtain ⟨middle,later,rfl⟩ := append_of_mem inside
  have shape : floor.log = (first ++ one :: middle) ++ entry :: (later ++ two :: after) := by simp [split]
  exact unbarred_until played serves shape kept (fun entry inside => spares entry (by simp [inside])) barred

theorem reserving_unbarred (serves : Serves s floor) (undisturbed : Undisturbed s floor.log)
    (split : floor.log = before ++ entry :: after) {now expiresAt : Instant}
    (reserves : entry.exchange.1 = .reserveSubject external id now expiresAt) : ¬Barred id entry.found := by
  have there : ∀ {one},one ∈ before → one ∈ floor.log := fun inside => split ▸ mem_append_left _ inside
  have onward : ∀ one ∈ before,one.caller = entry.caller → Takes s id one.exchange →
      ¬Barred id (exec one.exchange.1 one.found).2 → ¬Barred id entry.found := by
    intro one inside mine takes unbarred
    obtain ⟨first,between,rfl⟩ := append_of_mem inside
    have shape : floor.log = first ++ one :: (between ++ entry :: after) := by
      rw [split,append_assoc,cons_append]
    apply unbarred_until played serves shape unbarred
    apply undisturbed.apart first one between entry after shape mine id takes
    rw [reserves]
    exact .reserves external now expiresAt
  rcases entry_asks played serves split with asks | ⟨_,_,_,administers,-⟩
  · rw [reserves] at asks
    rcases asks with ⟨canonical,signs,seen⟩ | ⟨record,named,added⟩
    · obtain ⟨⟨_,found,_⟩,inside,mine,rfl⟩ := mem_own.mp seen
      apply onward _ inside mine (.seen canonical signs)
      have answered := played.answered _ (there inside)
      exact seen_unbarred signs (Except.ok.inj answered).symm
    · obtain ⟨⟨_,found,_⟩,inside,mine,rfl⟩ := mem_own.mp added
      apply onward _ inside mine (.added record named)
      have answered := played.answered _ (there inside)
      rw [← named]
      exact added_unbarred (adds_deactivated played serves (there inside) _ _ rfl) answered.symm
  · cases reserves.symm.trans administers

theorem unheld_always (serves : Serves s floor) (undisturbed : Undisturbed s floor.log)
    (steady : Steady initial.clock) (unheld : Unheld initial) : ∀ entry ∈ floor.log,Unheld entry.found := by
  have always := played.always (φ:=fun w => Steady w.clock ∧ Unheld w) ?_ ⟨steady,unheld⟩ ?_
  · exact fun entry inside => (always.2 entry inside).2
  · rintro w w' passes ⟨-,held⟩
    refine ⟨passes.steady,fun id barred => ?_⟩
    have earlier : Barred id w := by simpa only [Barred,Stands,passes.identities] using barred
    have lapsed := (held id earlier).mono passes.forward
    simpa only [Lapsed,passes.repository] using lapsed
  · rintro entry inside ⟨forward,held⟩
    obtain ⟨onward,still⟩ := clock_kept entry.exchange.1 forward
    refine ⟨still,fun id barred => ?_⟩
    have bounded : Lapsed id (entry.found.clock 0) entry.found ∧
        ∀ external now expiresAt,entry.exchange.1 ≠ .reserveSubject external id now expiresAt := by
      by_cases bars : Bars id entry.exchange.1
      · refine ⟨undisturbed.lapsed entry inside id bars,?_⟩
        intro external now expiresAt reserves
        rw [reserves] at bars
        exact bars
      · have earlier : Barred id entry.found := by
          by_contra unbarred
          exact unbarred_kept unbarred bars (adds_deactivated played serves inside) barred
        refine ⟨held id earlier,?_⟩
        intro external now expiresAt reserves
        obtain ⟨before,after,split⟩ := append_of_mem inside
        exact reserving_unbarred played serves undisturbed split reserves earlier
    exact (lapsed_kept bounded.1 bounded.2).mono onward

theorem barred_unseen (serves : Serves s floor) (undisturbed : Undisturbed s floor.log)
    (steady : Steady initial.clock) (unheld : Unheld initial)
    (split : floor.log = first ++ one :: (between ++ two :: after)) {now : Instant}
    (looks : one.exchange = ⟨.now,now⟩) (sees : two.exchange = ⟨.reservedOwner external now,.ok (some id)⟩)
    (barred : Barred id one.found) : ∃ entry ∈ between,¬Barred id entry.found := by
  by_contra still
  simp only [not_exists,not_and,not_not] at still
  have held := unheld_always played serves undisturbed steady unheld one (by simp [split]) id barred
  have unrenewed : ∀ entry ∈ between,Keeping accountStage (Lapsed id now) entry := by
    intro entry inside lapsed
    apply lapsed_kept lapsed
    intro external at_ expiresAt reserves
    obtain ⟨early,late,rfl⟩ := append_of_mem inside
    have shape : floor.log = (first ++ one :: early) ++ entry :: (late ++ two :: after) := by simp [split]
    exact reserving_unbarred played serves undisturbed shape reserves (still entry inside)
  obtain ⟨_,paused,_⟩ := one
  obtain ⟨_,viewed,_⟩ := two
  cases looks
  cases sees
  have all := played.answered
  simp only [split,mem_append,mem_cons] at all
  have clock : now = paused.clock 0 := all _ (.inr (.inl rfl))
  have answered : Except.ok (some id) = .ok (viewed.repository.reservedOwner external now) :=
    all _ (.inr (.inr (.inr (.inl rfl))))
  have looked : Lapsed id now viewed := by
    refine kept_until (φ:=Lapsed id now) played ?_ split (clock ▸ held) unrenewed
    intro w w' passes lapsed
    simpa only [Lapsed,passes.repository] using lapsed
  obtain ⟨found,known,same,alive⟩ := AccountRepository.reservedOwner_some (Except.ok.inj answered).symm
  exact absurd (looked _ found known same) (Int.not_le.mpr alive)

theorem confirmed_unbarred (serves : Serves s floor) (undisturbed : Undisturbed s floor.log)
    (steady : Steady initial.clock) (unheld : Unheld initial) (split : floor.log = before ++ entry :: after)
    (activates : entry.exchange.1 = .changeStatus organization id .active)
    (confirmed : Confirmed id (own entry.caller before)) : ¬Barred id entry.found := by
  intro barred
  obtain ⟨key,presented,at_,maximumAttempts,expected,challenge,now,external,named,done⟩ := confirmed
  obtain ⟨entries,chosen,mine,exchanges⟩ := sublist_own done
  obtain ⟨redeemed,one,two,rfl⟩ := length_eq_three.mp (by simpa using congrArg List.length exchanges)
  simp only [map_cons,map_nil,List.cons.injEq,and_true] at exchanges
  obtain ⟨redeems,looks,sees⟩ := exchanges
  obtain ⟨first,waiting,looking,rest,rfl⟩ := triple_split chosen
  have whole : floor.log = first ++ redeemed :: ((waiting ++ one :: (looking ++ two :: rest)) ++ entry :: after) := by
    simpa using split
  have since : ∀ held ∈ waiting ++ one :: (looking ++ two :: rest),Barred id held.found := by
    apply barred_since played serves whole barred
    apply undisturbed.apart first redeemed _ entry after whole (mine redeemed (by simp)) id
    · rw [redeems]
      exact .redeemed key presented at_ maximumAttempts expected challenge named
    · rw [activates]
      exact .activates organization
  have shape : floor.log = (first ++ redeemed :: waiting) ++ one :: (looking ++ two :: (rest ++ entry :: after)) := by
    simp [split]
  obtain ⟨held,inside,unbarred⟩ := barred_unseen played serves undisturbed steady unheld shape looks sees (since one (by simp))
  exact unbarred (since held (by simp [inside]))

end

end

-- A call of the service activates nobody who is suspended or locked, as long as nobody is
-- suspended or locked while a signup is pending.
theorem barred_not_activated {s : Service} {initial : AccountState} {floor : AccountFloor}
    (played : Plays accountStage initial floor) (serves : Serves s floor) (steady : Steady initial.clock)
    (unheld : Unheld initial) (undisturbed : Undisturbed s floor.log) :
    ∀ entry ∈ floor.log,∀ request,request.administers = false →
      floor.members[entry.caller]?.map Member.begun = some (calling s request) →
        ∀ id,Barred id entry.found → ¬Stands .active id (exec entry.exchange.1 entry.found).2 := by
  intro entry inside request served begun id barred active
  obtain ⟨organization,changes⟩ := activated_by barred active (adds_deactivated played serves inside)
  obtain ⟨m,member,same⟩ := Option.map_eq_some_iff.mp begun
  obtain ⟨before,after,split⟩ := List.append_of_mem inside
  have follows : Follows (remembering (Asks s)) (fun _ _ => True) [] m.begun := by
    rw [same]
    exact calling_follows served
  have asks := asked_then played split member follows
  rw [changes] at asks
  rcases asks with impossible | ⟨-,confirmed⟩
  · cases impossible
  · exact confirmed_unbarred played serves undisturbed steady unheld split changes confirmed barred

section

def demoHolder : AccountState := { demoState with
  identities := Std.ExtTreeMap.insert ∅ ⟨"opi_E"⟩ ⟨⟨"org"⟩,⟨⟨"opi_E"⟩,.human,.active,0⟩⟩
  profiles := Std.ExtTreeMap.insert ∅ ⟨"opi_E"⟩
    ⟨⟨"opi_E"⟩,none,none,some demoAddress,true,none,false,none,none,"auto",0,0⟩ }

def demoSignup : Request := .signup demoEmail demoPassword none
def demoSuspension : Request := .changeStatus ⟨"org"⟩ ⟨"opi_E"⟩ .suspended
def demoVerification : Request := .verify ⟨"opv_A"⟩ "B"

def demoActivates (entry : AccountEntry) : Bool :=
  decide (Stands .suspended ⟨"opi_E"⟩ entry.found) && decide (Stands .active ⟨"opi_E"⟩ (exec entry.exchange.1 entry.found).2)

theorem demo_played {requests : List Request} {floor : AccountFloor}
    (entered : turns.filterMap Turn.entered = requests.map (calling demoService))
    (still : ∀ turn ∈ turns,turn.Allowed accountStage)
    (taken : takeTurns exec turns ⟨demoHolder,[],[]⟩ = some floor) :
    Plays accountStage demoHolder floor ∧ Serves demoService floor ∧
      ∀ i : Nat,floor.members[i]?.map Member.begun = requests[i]?.map (calling demoService) := by
  refine ⟨Plays.start.turns still taken,serves_turns taken entered,fun i => ?_⟩
  rw [← getElem?_map,takeTurns_begun taken,entered,← getElem?_map]
  rfl

theorem suspended_activated : ∃ floor : AccountFloor,Plays accountStage demoHolder floor ∧ Serves demoService floor ∧
    ∃ entry ∈ floor.log,floor.members[entry.caller]?.map Member.begun = some (calling demoService demoVerification) ∧
      Barred ⟨"opi_E"⟩ entry.found ∧ Stands .active ⟨"opi_E"⟩ (exec entry.exchange.1 entry.found).2 := by
  let turns : List (Turn AccountOp AccountOp.Ret Error Reply AccountState) :=
    .enter (calling demoService demoSignup) :: steps 0 15 ++ .enter (calling demoService demoSuspension) :: steps 1 1 ++
      .enter (calling demoService demoVerification) :: steps 2 14
  have done : (takeTurns exec turns (⟨demoHolder,[],[]⟩ : AccountFloor)).any (fun floor =>
      floor.log.any fun entry => entry.caller == 2 && demoActivates entry) = true := by
    decide
  obtain ⟨floor,taken,holds⟩ := (Option.any_eq_true _ _).mp done
  obtain ⟨entry,inside,there⟩ := List.any_eq_true.mp holds
  simp only [demoActivates,Bool.and_eq_true,beq_iff_eq,decide_eq_true_eq] at there
  obtain ⟨mine,suspended,active⟩ := there
  have entered : turns.filterMap Turn.entered =
      [demoSignup,demoSuspension,demoVerification].map (calling demoService) := rfl
  obtain ⟨played,serves,begun⟩ := demo_played entered (by simp [turns,steps,Turn.Allowed]) taken
  refine ⟨floor,played,serves,entry,inside,?_,⟨.suspended,rfl,suspended⟩,active⟩
  rw [mine,begun 2]
  rfl

def demoBars : AccountOp → Bool
  | .changeStatus _ _ status => barring status
  | _ => false

def demoCommits : AccountOp → Bool
  | .reserveSubject .. => true
  | .changeStatus _ _ status => status == .active
  | _ => false

theorem calm_undisturbed {s : Service}
    (free : ∀ entry ∈ log,demoBars entry.exchange.1 = true → entry.found.repository.reservations.isEmpty = true)
    (calm : log.Pairwise fun entry later => demoBars entry.exchange.1 = true → demoCommits later.exchange.1 = false) :
    Undisturbed s log := by
  have bars : ∀ {id op},Bars id op → demoBars op = true := by
    intro id op barred
    cases op with
    | changeStatus organization other status => exact barred.2
    | _ => exact barred.elim
  have committing : ∀ {id op},Commits id op → demoCommits op = true := by
    intro id op commits
    cases commits <;> rfl
  constructor
  · intro entry inside id barred key reservation found
    rw [Std.ExtTreeMap.isEmpty_iff.mp (free entry inside (bars barred))] at found
    simp at found
  · rintro first one between two after rfl - id - commits entry inside barred
    have pair : [entry,two].Sublist (between ++ two :: after) :=
      (singleton_sublist.mpr inside).append (singleton_sublist.mpr mem_cons_self)
    have whole := (pair.trans (sublist_cons_self one _)).trans (sublist_append_right first _)
    have spared := pairwise_iff_forall_sublist.mp calm whole (bars barred)
    rw [committing commits] at spared
    cases spared

theorem barred_not_activated_suspended : ∃ floor : AccountFloor,Plays accountStage demoHolder floor ∧
    Serves demoService floor ∧ ∃ entry ∈ floor.log,
      floor.members[entry.caller]?.map Member.begun = some (calling demoService demoVerification) ∧
        Barred ⟨"opi_E"⟩ entry.found ∧ ¬Stands .active ⟨"opi_E"⟩ (exec entry.exchange.1 entry.found).2 := by
  let turns : List (Turn AccountOp AccountOp.Ret Error Reply AccountState) :=
    .enter (calling demoService demoSignup) :: steps 0 15 ++ .enter (calling demoService demoVerification) :: steps 1 14 ++
      .enter (calling demoService demoSuspension) :: steps 2 1 ++ .enter (calling demoService demoVerification) :: steps 3 2
  have done : (takeTurns exec turns (⟨demoHolder,[],[]⟩ : AccountFloor)).any (fun floor =>
      (floor.log.all fun entry => !demoBars entry.exchange.1 || entry.found.repository.reservations.isEmpty) &&
        decide (floor.log.Pairwise fun entry later =>
          demoBars entry.exchange.1 = true → demoCommits later.exchange.1 = false) &&
          floor.log.any fun entry => entry.caller == 3 && decide (Stands .suspended ⟨"opi_E"⟩ entry.found)) = true := by
    decide
  obtain ⟨floor,taken,holds⟩ := (Option.any_eq_true _ _).mp done
  simp only [Bool.and_eq_true,decide_eq_true_eq,List.all_eq_true] at holds
  obtain ⟨⟨free,calm⟩,later⟩ := holds
  obtain ⟨entry,inside,there⟩ := List.any_eq_true.mp later
  simp only [Bool.and_eq_true,beq_iff_eq,decide_eq_true_eq] at there
  have entered : turns.filterMap Turn.entered =
      [demoSignup,demoVerification,demoSuspension,demoVerification].map (calling demoService) := rfl
  obtain ⟨played,serves,begun⟩ := demo_played entered (by simp [turns,steps,Turn.Allowed]) taken
  have undisturbed : Undisturbed demoService floor.log := by
    apply calm_undisturbed _ calm
    intro entry inside bars
    simpa [bars] using free entry inside
  have mine : floor.members[entry.caller]?.map Member.begun = some (calling demoService demoVerification) := by
    rw [there.1,begun 3]
    rfl
  have barred : Barred ⟨"opi_E"⟩ entry.found := ⟨.suspended,rfl,there.2⟩
  refine ⟨floor,played,serves,entry,inside,mine,barred,?_⟩
  refine barred_not_activated played serves (fun _ => Int.le_refl _) ?_ undisturbed entry inside _ rfl mine _ barred
  intro id _ key reservation found
  simp [demoHolder,demoState] at found

end

end OpenProof.SuspendedIdentities
