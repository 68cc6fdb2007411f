import OpenProof.SignupFailures
import OpenProof.AccountTraces

namespace OpenProof.ChallengeLimits
open CallTraces CallLogs CallHistories Foundation Accounts AccountWorld AccountService SignupFailures
open AccountTraces Identities

def repositoryStage : Stage AccountOp AccountOp.Ret AccountState where
  exec := exec
  drift before after := after.repository = before.repository

def mistaken (challenge : VerificationChallenge) : AccountOp → Option Nat
  | .consume id presented _ maximumAttempts expectedIdentity =>
    if id = challenge.id ∧ presented ≠ challenge.digest ∧ maximumAttempts ≠ 0 ∧
        expectedIdentity.all fun expected => challenge.identity = expected then some maximumAttempts
    else none
  | _ => none

def mistakes (challenge : VerificationChallenge) (log : List AccountEntry) : List Nat :=
  log.filterMap fun entry => mistaken challenge entry.exchange.1

def Tolerated (counts : List Nat) : Prop := ∀ n maximumAttempts,counts[n]? = some maximumAttempts → n+1 < maximumAttempts

def Redeems (challenge : VerificationChallenge) (exchange : Exchange AccountOp AccountOp.Ret) : Prop :=
  ∃ id presented now maximumAttempts expected,
    exchange = ⟨.consume id presented now maximumAttempts expected,.ok challenge⟩

-- The challenge was stored, and since then neither stored again nor redeemed.
structure StoredBefore (challenge : VerificationChallenge) (log since : List AccountEntry) : Prop where
  stored : ∃ before put,log = before ++ put :: since ∧ put.exchange.1 = .replace challenge
  last : ∀ later ∈ since,later.exchange.1 ≠ .replace challenge ∧ ¬Redeems challenge later.exchange

structure Outstanding (log : List AccountEntry) (id : VerificationId) (state : ChallengeState) : Prop where
  keyed : state.challenge.id = id
  past : ∃ since,StoredBefore state.challenge log since ∧ Tolerated (mistakes state.challenge since) ∧
    state.attempts = (mistakes state.challenge since).length

def OnePerPurpose (repository : AccountRepository) : Prop :=
  ∀ (id id' : VerificationId) (state state' : ChallengeState),repository.challenges[id]? = some state →
    repository.challenges[id']? = some state' → state.challenge.identity = state'.challenge.identity →
      state.challenge.purpose = state'.challenge.purpose → id = id'

structure Kept (repository : AccountRepository) (log : List AccountEntry) : Prop where
  single : OnePerPurpose repository
  outstanding : ∀ (id : VerificationId) (state : ChallengeState),repository.challenges[id]? = some state →
    Outstanding log id state

def touches : AccountOp → Bool
  | .replace _ | .consume .. => true
  | _ => false

section
variable {w : AccountState} {log since : List AccountEntry} {entry : AccountEntry}
  {challenge : VerificationChallenge} {id : VerificationId} {repository : AccountRepository}

theorem challenges_kept (kept : touches op = false) :
    (exec op w).2.repository.challenges = w.repository.challenges := by
  cases op with
  | replace | consume => cases kept
  | reserveSubject external identity now expiresAt =>
    simp only [exec]
    rcases AccountRepository.reserveSubject_cases external identity now expiresAt w.repository with ⟨e,same⟩ | same <;>
      rw [same]
  | releaseSubject external expectedOwner =>
    simp only [exec]
    rcases AccountRepository.releaseSubject_cases external expectedOwner w.repository with same | same <;> rw [same]
  | _ => rfl

theorem tolerated_append {maximumAttempts : Nat} (tolerated : Tolerated counts)
    (one : counts.length+1 < maximumAttempts) : Tolerated (counts ++ [maximumAttempts]) := by
  intro n allowed found
  rcases Nat.lt_or_ge n counts.length with old | new
  · rw [List.getElem?_append_left old] at found
    exact tolerated n allowed found
  · rw [List.getElem?_append_right new] at found
    obtain ⟨inside,same⟩ := List.getElem?_eq_some_iff.mp found
    simp only [List.length_singleton] at inside
    have here : n = counts.length := by omega
    subst here
    simp at same
    omega

theorem StoredBefore.step (stored : StoredBefore challenge log since) (other : entry.exchange.1 ≠ .replace challenge)
    (unspent : ¬Redeems challenge entry.exchange) : StoredBefore challenge (log ++ [entry]) (since ++ [entry]) := by
  obtain ⟨⟨before,put,rfl,same⟩,last⟩ := stored
  refine ⟨⟨before,put,by simp,same⟩,?_⟩
  intro later inside
  rcases List.mem_append.mp inside with old | new
  · exact last later old
  · cases List.mem_singleton.mp new
    exact ⟨other,unspent⟩

theorem Outstanding.kept (outstanding : Outstanding log id state) (other : entry.exchange.1 ≠ .replace state.challenge)
    (unspent : ¬Redeems state.challenge entry.exchange) (right : mistaken state.challenge entry.exchange.1 = none) :
    Outstanding (log ++ [entry]) id state := by
  obtain ⟨keyed,since,stored,tolerated,count⟩ := outstanding
  have same : mistakes state.challenge (since ++ [entry]) = mistakes state.challenge since := by
    simp [mistakes,right]
  exact ⟨keyed,since ++ [entry],stored.step other unspent,by rwa [same],by rwa [same]⟩

theorem Outstanding.counted (outstanding : Outstanding log id state) {maximumAttempts : Nat}
    (other : entry.exchange.1 ≠ .replace state.challenge) (unspent : ¬Redeems state.challenge entry.exchange)
    (wrong : mistaken state.challenge entry.exchange.1 = some maximumAttempts) (left : state.attempts+1 < maximumAttempts) :
    Outstanding (log ++ [entry]) id { state with attempts := state.attempts+1 } := by
  obtain ⟨keyed,since,stored,tolerated,count⟩ := outstanding
  have more : mistakes state.challenge (since ++ [entry]) = mistakes state.challenge since ++ [maximumAttempts] := by
    simp [mistakes,wrong]
  rw [count] at left
  refine ⟨keyed,since ++ [entry],stored.step other unspent,?_,?_⟩
  · rw [more]
    exact tolerated_append tolerated left
  · simp [more,count]

theorem Outstanding.fresh (put : entry.exchange.1 = .replace challenge) :
    Outstanding (log ++ [entry]) challenge.id ⟨challenge,0⟩ :=
  ⟨rfl,[],⟨⟨log,entry,rfl,put⟩,List.forall_mem_nil _⟩,nofun,rfl⟩

theorem OnePerPurpose.fewer (single : OnePerPurpose repository)
    (fewer : ∀ (id : VerificationId) (state : ChallengeState),later.challenges[id]? = some state →
      ∃ before,repository.challenges[id]? = some before ∧ before.challenge = state.challenge) : OnePerPurpose later := by
  intro id id' state state' one two identity purpose
  obtain ⟨before,stored,same⟩ := fewer id state one
  obtain ⟨before',stored',same'⟩ := fewer id' state' two
  exact single id id' before before' stored stored' (by rw [same,same',identity]) (by rw [same,same',purpose])

theorem Kept.same (kept : Kept repository log) (same : later.challenges = repository.challenges)
    (untouched : touches entry.exchange.1 = false) : Kept later (log ++ [entry]) := by
  constructor
  · refine kept.single.fewer fun id state found => ⟨state,?_,rfl⟩
    rwa [same] at found
  · intro id state found
    rw [same] at found
    obtain ⟨caller,world,op,answer⟩ := entry
    apply (kept.outstanding id state found).kept
    · rintro stores
      rw [stores] at untouched
      cases untouched
    · rintro ⟨_,_,_,_,_,redeems⟩
      rw [redeems] at untouched
      cases untouched
    · cases op with
      | consume => cases untouched
      | _ => rfl

theorem Kept.replace (kept : Kept repository log) (put : entry.exchange.1 = .replace challenge) :
    Kept (repository.replace challenge) (log ++ [entry]) := by
  constructor
  · intro id id' state state' one two identity purpose
    rcases AccountRepository.replace_cases one with ⟨rfl,rfl⟩ | ⟨stored,apart⟩
    · rcases AccountRepository.replace_cases two with ⟨rfl,rfl⟩ | ⟨-,apart⟩
      · rfl
      · exact absurd ⟨identity.symm,purpose.symm⟩ apart
    · rcases AccountRepository.replace_cases two with ⟨rfl,rfl⟩ | ⟨stored',-⟩
      · exact absurd ⟨identity,purpose⟩ apart
      · exact kept.single id id' state state' stored stored' identity purpose
  · intro id state found
    rcases AccountRepository.replace_cases found with ⟨rfl,rfl⟩ | ⟨stored,apart⟩
    · exact .fresh put
    · apply (kept.outstanding id state stored).kept
      · intro same
        cases put.symm.trans same
        exact apart ⟨rfl,rfl⟩
      · rintro ⟨_,_,_,_,_,redeems⟩
        rw [redeems] at put
        cases put
      · rw [put]
        rfl

end

section
variable {log : List AccountEntry} {entry : AccountEntry} {repository : AccountRepository} {id : VerificationId}
  {presented : VerificationDigest} {now : Instant} {maximumAttempts : Nat} {expected : Option IdentityId}
  {challenge : VerificationChallenge}

theorem mistaken_counted (keyed : state.challenge.id = id)
    (seen : AccountRepository.Admits state maximumAttempts expected) (wrong : state.challenge.digest ≠ presented) :
    mistaken state.challenge (.consume id presented now maximumAttempts expected) = some maximumAttempts := by
  have named : (expected.all fun identity => state.challenge.identity = identity) = true := by
    cases expected with
    | none => rfl
    | some identity => simpa using seen.2 identity rfl
  exact if_pos ⟨keyed.symm,wrong.symm,seen.1,named⟩

theorem mistaken_unseen (unseen : state.challenge.id = id → ¬AccountRepository.Admits state maximumAttempts expected) :
    mistaken state.challenge (.consume id presented now maximumAttempts expected) = none := by
  apply if_neg
  rintro ⟨same,-,positive,named⟩
  refine unseen same.symm ⟨positive,?_⟩
  rintro identity rfl
  simpa using named

theorem redeemed_cases (done : (repository.consume id presented now maximumAttempts expected).1 = .ok challenge) :
    ∃ found,repository.challenges[id]? = some found ∧ found.challenge = challenge ∧
      AccountRepository.Admits found maximumAttempts expected ∧ challenge.digest = presented ∧
        now < challenge.expiresAt ∧ found.attempts < maximumAttempts := by
  have reached := AccountRepository.consume_cases id presented now maximumAttempts expected repository
  generalize repository.consume id presented now maximumAttempts expected = outcome at reached done
  cases reached with
  | redeemed found known seen right alive left =>
    cases done
    exact ⟨found,known,rfl,seen,right,alive,left⟩
  | _ => cases done

theorem redeems_answer (redeems : Redeems challenge ⟨.consume id presented now maximumAttempts expected,answer⟩) : answer = .ok challenge := by
  obtain ⟨_,_,_,_,_,same⟩ := redeems
  cases same
  rfl

theorem Kept.consume (kept : Kept repository log) {caller : Nat} {w : AccountState} :
    Kept (repository.consume id presented now maximumAttempts expected).2 (log ++
      [⟨caller,w,⟨.consume id presented now maximumAttempts expected,
        (repository.consume id presented now maximumAttempts expected).1⟩⟩]) := by
  have reached := AccountRepository.consume_cases id presented now maximumAttempts expected repository
  have answered : ∀ challenge,(repository.consume id presented now maximumAttempts expected).1 = .ok challenge →
      ∃ found,repository.challenges[id]? = some found ∧ found.challenge = challenge := by
    intro challenge done
    obtain ⟨found,known,same,-⟩ := redeemed_cases done
    exact ⟨found,known,same⟩
  generalize repository.consume id presented now maximumAttempts expected = outcome at reached answered ⊢
  -- What another challenge goes through is none of this presentation's doing.
  have apart : ∀ (other : VerificationId) (state : ChallengeState),repository.challenges[other]? = some state →
      id ≠ other → Outstanding (log ++ [⟨caller,w,⟨.consume id presented now maximumAttempts expected,outcome.1⟩⟩])
        other state := by
    intro other state found differs
    have outstanding := kept.outstanding other state found
    refine outstanding.kept nofun ?_ ?_
    · intro redeems
      obtain ⟨own,known,same⟩ := answered state.challenge (redeems_answer redeems)
      exact differs ((kept.outstanding id own known).keyed.symm.trans ((congrArg _ same).trans outstanding.keyed))
    · exact mistaken_unseen fun same => absurd (same.symm.trans outstanding.keyed) differs
  have removed : Kept { repository with challenges := repository.challenges.erase id }
      (log ++ [⟨caller,w,⟨.consume id presented now maximumAttempts expected,outcome.1⟩⟩]) := by
    constructor
    · exact kept.single.fewer fun other state found => ⟨state,Map.erase_cases found,rfl⟩
    · intro other state found
      rw [Map.find_erase] at found
      split_ifs at found with here
      exact apart other state found here
  cases reached with
  | unseen e unseen =>
    refine ⟨kept.single,fun other state found => ?_⟩
    by_cases here : id = other
    · subst here
      refine (kept.outstanding id state found).kept nofun nofun ?_
      exact mistaken_unseen fun _ => unseen state found
    · exact apart other state found here
  | lapsed | redeemed => exact removed
  | counted found known seen wrong left =>
    constructor
    · apply kept.single.fewer
      intro other state stored
      rcases Map.insert_cases stored with ⟨rfl,rfl⟩ | before
      · exact ⟨found,known,rfl⟩
      · exact ⟨state,before,rfl⟩
    · intro other state stored
      rw [Map.find_insert] at stored
      split_ifs at stored with here
      · subst here
        cases stored
        have outstanding := kept.outstanding id found known
        refine outstanding.counted nofun nofun ?_ left
        exact mistaken_counted outstanding.keyed seen wrong
      · exact apart other state stored here

theorem Kept.exec {w : AccountState} {op : AccountOp} (kept : Kept w.repository log) :
    Kept (exec op w).2.repository (log ++ [⟨i,w,⟨op,(exec op w).1⟩⟩]) := by
  cases touched : touches op with
  | false => exact kept.same (challenges_kept touched) touched
  | true =>
    cases op with
    | replace challenge => exact kept.replace rfl
    | consume id presented now maximumAttempts expected => exact kept.consume
    | _ => cases touched

end

-- A challenge is redeemed under its own digest, alive, by whom it names, once, and with an attempt left.
structure Rightful (before : List AccountEntry) (id : VerificationId) (presented : VerificationDigest) (now : Instant)
    (maximumAttempts : Nat) (expected : Option IdentityId) (challenge : VerificationChallenge) : Prop where
  named : challenge.id = id
  digest : challenge.digest = presented
  alive : now < challenge.expiresAt
  owned : ∀ identity,expected = some identity → challenge.identity = identity
  limited : ∃ since,StoredBefore challenge before since ∧ Tolerated (mistakes challenge since) ∧
    (mistakes challenge since).length < maximumAttempts

def Fresh (repository : AccountRepository) : Prop := ∀ id : VerificationId,repository.challenges[id]? = none

section
variable {Err α : Type} {initial : AccountState} {floor : Floor AccountOp AccountOp.Ret Err α AccountState}
  {before after : List AccountEntry} {caller : Nat} {w : AccountState} {id : VerificationId}
  {presented : VerificationDigest} {now : Instant} {maximumAttempts : Nat} {expected : Option IdentityId}
  {challenge : VerificationChallenge}

theorem kept_run (fresh : Fresh initial.repository) (played : Plays repositoryStage initial floor) :
    Kept floor.world.repository floor.log := by
  induction played with
  | start => exact ⟨fun id _ _ _ found => by simp [fresh id] at found,fun id _ found => by simp [fresh id] at found⟩
  | move played moved ih =>
    cases moved with
    | enter p => exact ih
    | act waiting => exact ih.exec
    | drift moved =>
      rw [show _ = _ from moved]
      exact ih

theorem redeemed_rightful (fresh : Fresh initial.repository) (played : Plays repositoryStage initial floor)
    (split : floor.log = before ++ ⟨caller,w,⟨.consume id presented now maximumAttempts expected,.ok challenge⟩⟩ :: after) :
    Rightful before id presented now maximumAttempts expected challenge := by
  obtain ⟨earlier,reached,rfl,found,-⟩ := Plays.before played _ _ _ split
  have kept := kept_run fresh reached
  rw [found] at kept
  have answered := played.answered _ (by rw [split]; exact List.mem_append_right _ List.mem_cons_self)
  obtain ⟨state,known,rfl,seen,digest,alive,left⟩ := redeemed_cases answered.symm
  obtain ⟨keyed,since,stored,tolerated,count⟩ := kept.outstanding id state known
  exact ⟨keyed,digest,alive,seen.2,since,stored,tolerated,count ▸ left⟩

theorem redeemed_once {between : List AccountEntry} {one : AccountEntry} (fresh : Fresh initial.repository) (played : Plays repositoryStage initial floor)
    (split : floor.log = first ++ one :: (between ++ two :: after)) (taken : Redeems challenge one.exchange)
    (again : Redeems challenge two.exchange) : ∃ put ∈ between,put.exchange.1 = .replace challenge := by
  obtain ⟨caller,w,exchange⟩ := two
  obtain ⟨id,presented,now,maximumAttempts,expected,rfl⟩ := again
  have shape : floor.log = (first ++ one :: between) ++ ⟨caller,w,
      ⟨.consume id presented now maximumAttempts expected,.ok challenge⟩⟩ :: after := by simp [split]
  obtain ⟨since,⟨⟨earlier,put,same,stores⟩,last⟩,-⟩ := (redeemed_rightful fresh played shape).limited
  rcases split_order same with between | rfl | later
  · exact ⟨put,between,stores⟩
  · obtain ⟨_,_,_,_,_,redeems⟩ := taken
    rw [redeems] at stores
    cases stores
  · exact absurd taken (last one later).2

theorem challenges_limited (fresh : Fresh initial.repository) (played : Plays repositoryStage initial floor) :
    OnePerPurpose floor.world.repository ∧
    (∀ challenge first (one : Entry _ _ _) (between : List (Entry _ _ _)) (two : Entry _ _ _) after,floor.log = first ++ one :: (between ++ two :: after) →
      Redeems challenge one.exchange → Redeems challenge two.exchange →
        ∃ put ∈ between,put.exchange.1 = .replace challenge) ∧
    (∀ before caller w id presented now maximumAttempts expected challenge after,
      floor.log = before ++ ⟨caller,w,⟨.consume id presented now maximumAttempts expected,.ok challenge⟩⟩ :: after →
        Rightful before id presented now maximumAttempts expected challenge) ∧
    (∀ (id : VerificationId) (presented : VerificationDigest) (now : Instant) (maximumAttempts : Nat)
      (found : ChallengeState) (other : IdentityId),floor.world.repository.challenges[id]? = some found →
        found.challenge.identity ≠ other → ∃ e,exec (.consume id presented now maximumAttempts (some other)) floor.world =
          (.error e,floor.world)) := by
  refine ⟨(kept_run fresh played).single,?_,?_,?_⟩
  · intro challenge first one between two after split
    exact redeemed_once fresh played split
  · intro before caller w id presented now maximumAttempts expected challenge after split
    exact redeemed_rightful fresh played split
  · intro id presented now maximumAttempts found other known foreign
    obtain ⟨e,same⟩ := AccountRepository.consume_foreign presented now maximumAttempts known foreign
    refine ⟨e,?_⟩
    simp only [exec]
    rw [same]

end

section

def demoRedeems : Exchange AccountOp AccountOp.Ret → Bool
  | ⟨.consume ..,.ok _⟩ => true
  | _ => false

theorem demo_redeems (redeems : demoRedeems exchange = true) : ∃ challenge,Redeems challenge exchange := by
  obtain ⟨op,answer⟩ := exchange
  cases op with
  | consume id presented now maximumAttempts expected =>
    cases answer with
    | ok challenge => exact ⟨challenge,id,presented,now,maximumAttempts,expected,rfl⟩
    | error e => cases redeems
  | _ => cases redeems

def silent (p : AccountCall α) : AccountCall Unit := p.bind fun _ => .ret ()

theorem challenges_limited_redeemed : ∃ floor : Floor AccountOp AccountOp.Ret Error Unit AccountState,
    Plays repositoryStage demoState floor ∧ OnePerPurpose floor.world.repository ∧
      ∃ before caller w id presented now maximumAttempts expected challenge after,
        floor.log = before ++ ⟨caller,w,⟨.consume id presented now maximumAttempts expected,.ok challenge⟩⟩ :: after ∧
          Rightful before id presented now maximumAttempts expected challenge := by
  let turns : List (Turn AccountOp AccountOp.Ret Error Unit AccountState) :=
    .enter (silent (issue demoService ⟨"opi_E"⟩ .signupEmail demoAddress 86400000)) :: steps 0 4 ++
      .enter (silent (consume demoService ⟨"opv_A"⟩ "BB" .signupEmail none)) :: steps 1 2 ++
        .enter (silent (consume demoService ⟨"opv_A"⟩ "B" .signupEmail none)) :: steps 2 2
  have done : (takeTurns exec turns (⟨demoState,[],[]⟩ : Floor AccountOp AccountOp.Ret Error Unit AccountState)).any
      (fun floor => floor.log.any fun entry => demoRedeems entry.exchange) = true := by
    decide
  obtain ⟨floor,taken,holds⟩ := (Option.any_eq_true _ _).mp done
  obtain ⟨⟨caller,w,exchange⟩,inside,redeems⟩ := List.any_eq_true.mp holds
  obtain ⟨challenge,id,presented,now,maximumAttempts,expected,rfl⟩ := demo_redeems redeems
  obtain ⟨before,after,split⟩ := List.append_of_mem inside
  have played : Plays repositoryStage demoState floor :=
    Plays.start.turns (by simp [turns,steps,Turn.Allowed]) taken
  have fresh : Fresh demoState.repository := fun id => by simp [demoState]
  obtain ⟨single,-,rightful,-⟩ := challenges_limited fresh played
  exact ⟨floor,played,single,before,caller,w,id,presented,now,maximumAttempts,expected,challenge,after,split,
    rightful before caller w id presented now maximumAttempts expected challenge after split⟩

end

end OpenProof.ChallengeLimits
