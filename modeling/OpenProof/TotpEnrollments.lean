import OpenProof.TotpService

namespace OpenProof.TotpEnrollments
open CallTraces CallLogs CallHistories Foundation ExternalIdentities TotpWorld TotpService
open CallProtocols Identities

abbrev TotpEntry := Entry TotpOp TotpOp.Ret TotpState
abbrev TotpFloor := Floor TotpOp TotpOp.Ret Error TotpReply TotpState

def totpOf (subject : ExternalSubject) (w : TotpState) : Option TotpSecret := w.accounts[subject]?.bind TotpAccount.totp

-- Between the steps of the calls: anything that leaves the second factors and the pending enrolments alone.
structure Beside (before after : TotpState) : Prop where
  pending : after.pendingTotp = before.pendingTotp
  factors : ∀ subject,totpOf subject after = totpOf subject before

def totpStage (s : TotpWorld.TotpService) : Stage TotpOp TotpOp.Ret TotpState where
  exec := exec s
  drift := Beside

def Calls (s : TotpWorld.TotpService) (floor : TotpFloor) (i : Nat) (request : TotpRequest) : Prop :=
  ∃ rest,floor.members[i]? = some ⟨calling s request,rest⟩

def Serves (s : TotpWorld.TotpService) (floor : TotpFloor) : Prop :=
  ∀ m ∈ floor.members,∃ request,m.begun = calling s request

def failsCode (s : TotpWorld.TotpService) (id : TotpEnrollmentId) (w : TotpState) : TotpOp → Bool
  | .complete identity enrollmentId verificationCode currentAssurance =>
    enrollmentId == id && w.pendingTotp[id]?.any fun found =>
      found.identity == identity && decide (w.clock 0 < found.expiresAt) &&
        (!found.replacementAuthorized || meetsAssurance currentAssurance .ial2) &&
        decide (w.accounts.hasTotp found.subject = .ok found.replacementAuthorized) &&
        match verifyTotp s.hotp found.secret s.totpPolicy verificationCode (w.clock 1) none with
        | .error e => decide (e.code = .authenticationFailed)
        | .ok _ => false
  | _ => false

def Installs (id : TotpEnrollmentId) (exchange : Exchange TotpOp TotpOp.Ret) : Prop :=
  ∃ identity verificationCode currentAssurance,
    exchange = ⟨.complete identity id verificationCode currentAssurance,.ok ()⟩

def Enrolls (id : TotpEnrollmentId) (pending : PendingTotpEnrollment) (exchange : Exchange TotpOp TotpOp.Ret) : Prop :=
  exchange = ⟨.enroll pending.identity pending.subject id pending.secret pending.expiresAt pending.replacementAuthorized,
    .ok ()⟩

section
variable {s : TotpWorld.TotpService} {w : TotpState} {identity : IdentityId} {subject : ExternalSubject}
  {enrollmentId id : TotpEnrollmentId} {verificationCode : Text} {currentAssurance : AssuranceLevel}
  {enabled : Bool} {pending found : PendingTotpEnrollment} {secret : TotpSecret} {expiresAt : Instant}

theorem hasTotp_of (known : w.accounts.hasTotp subject = .ok enabled) : (totpOf subject w).isSome = enabled := by
  unfold TotpAccounts.hasTotp at known
  unfold totpOf
  cases stored : w.accounts[subject]? with
  | none => simp [stored] at known
  | some account => simpa [stored] using known

theorem dropStale_kept (kept : (dropStale identity entries pendings clock).1[id]? = some pending) :
    pendings[id]? = some pending ∧ ((id,pending) ∈ entries → pending.identity ≠ identity) := by
  induction entries generalizing pendings clock with
  | nil => exact ⟨kept,nofun⟩
  | cons entry rest ih =>
    obtain ⟨other,held⟩ := entry
    have erased : ∀ clock',(dropStale identity rest (pendings.erase other) clock').1[id]? = some pending →
        pendings[id]? = some pending ∧ ((id,pending) ∈ (other,held) :: rest → pending.identity ≠ identity) := by
      intro clock' kept
      obtain ⟨stored,foreign⟩ := ih kept
      refine ⟨Map.erase_cases stored,?_⟩
      intro inside
      rcases List.mem_cons.mp inside with same | inside
      · cases same
        simp at stored
      · exact foreign inside
    unfold dropStale at kept
    split at kept
    · exact erased _ kept
    · rename_i other_
      split at kept
      · exact erased _ kept
      · obtain ⟨stored,foreign⟩ := ih kept
        refine ⟨stored,?_⟩
        intro inside
        rcases List.mem_cons.mp inside with same | inside
        · cases same
          exact other_
        · exact foreign inside

theorem dropStale_all (kept : (dropStale identity pendings.toList pendings clock).1[id]? = some pending) :
    pendings[id]? = some pending ∧ pending.identity ≠ identity := by
  obtain ⟨stored,foreign⟩ := dropStale_kept kept
  exact ⟨stored,foreign (Std.ExtTreeMap.mem_toList_iff_getElem?_eq_some.mpr stored)⟩

theorem dropOwn_kept (kept : (dropOwn identity pendings)[id]? = some pending) :
    pendings[id]? = some pending ∧ pending.identity ≠ identity := by
  unfold dropOwn at kept
  rw [Std.ExtTreeMap.getElem?_filter'] at kept
  obtain ⟨stored,foreign⟩ := Option.filter_eq_some_iff.mp kept
  exact ⟨stored,by simpa using foreign⟩

theorem replaceTotp_cases (hotp : Hotp) (policy : TotpPolicy) (secret : TotpSecret) (verificationCode : Text)
    (now : Instant) {accounts : TotpAccounts} (known : accounts.hasTotp subject = .ok enabled) :
    (∃ e,verifyTotp hotp secret policy verificationCode now none = .error e ∧
      accounts.replaceTotp hotp policy subject secret verificationCode now = (.error e,accounts)) ∨
    ∃ account,account.totp = some secret ∧
      accounts.replaceTotp hotp policy subject secret verificationCode now = (.ok (),accounts.insert subject account) := by
  unfold TotpAccounts.hasTotp at known
  unfold TotpAccounts.replaceTotp
  cases stored : accounts[subject]? with
  | none => simp [stored] at known
  | some account =>
    cases verified : verifyTotp hotp secret policy verificationCode now none with
    | error e => exact .inl ⟨e,rfl,rfl⟩
    | ok accepted => exact .inr ⟨{ account with totp := some secret,lastAcceptedTotpStep := some accepted },rfl,rfl⟩

theorem enroll_cases : (∃ e,enroll identity subject enrollmentId secret expiresAt enabled w = (.error e,w)) ∨
    ∃ clock,enroll identity subject enrollmentId secret expiresAt enabled w = (.ok (),{ w with
      clock := clock
      pendingTotp := (dropStale identity w.pendingTotp.toList w.pendingTotp w.clock).1.insertIfNew enrollmentId
        ⟨identity,subject,secret,expiresAt,enabled,0⟩ }) := by
  unfold enroll
  split
  · exact .inl ⟨_,rfl⟩
  · split
    · exact .inl ⟨_,rfl⟩
    · exact .inr ⟨_,rfl⟩

structure Ready (identity : IdentityId) (currentAssurance : AssuranceLevel) (w : TotpState)
    (found : PendingTotpEnrollment) : Prop where
  mine : found.identity = identity
  alive : w.clock 0 < found.expiresAt
  strong : found.replacementAuthorized = true → meetsAssurance currentAssurance .ial2 = true
  standing : w.accounts.hasTotp found.subject = .ok found.replacementAuthorized

inductive Completed (s : TotpWorld.TotpService) (identity : IdentityId) (enrollmentId : TotpEnrollmentId)
    (verificationCode : Text) (currentAssurance : AssuranceLevel) (w : TotpState) : Result Unit × TotpState → Prop where
  | refused (e : Error) (clock : Nat → Instant)
      (uncounted : failsCode s enrollmentId w (.complete identity enrollmentId verificationCode currentAssurance) = false) :
      Completed s identity enrollmentId verificationCode currentAssurance w (.error e,{ w with clock := clock })
  | dropped (e : Error) (clock : Nat → Instant) :
      Completed s identity enrollmentId verificationCode currentAssurance w
        (.error e,{ w with clock := clock,pendingTotp := w.pendingTotp.erase enrollmentId })
  | failed (e : Error) (clock : Nat → Instant) (found : PendingTotpEnrollment)
      (stored : w.pendingTotp[enrollmentId]? = some found) (left : found.attempts+1 < kTotpEnrollmentMaximumAttempts)
      (counted : failsCode s enrollmentId w (.complete identity enrollmentId verificationCode currentAssurance) = true) :
      Completed s identity enrollmentId verificationCode currentAssurance w (.error e,{ w with
        clock := clock
        pendingTotp := w.pendingTotp.insert enrollmentId { found with attempts := found.attempts+1 } })
  | installed (clock : Nat → Instant) (found : PendingTotpEnrollment) (account : TotpAccount)
      (stored : w.pendingTotp[enrollmentId]? = some found) (ready : Ready identity currentAssurance w found)
      (sealed : account.totp = some found.secret) :
      Completed s identity enrollmentId verificationCode currentAssurance w (.ok (),{ w with
        clock := clock
        pendingTotp := w.pendingTotp.erase enrollmentId
        accounts := w.accounts.insert found.subject account })

theorem complete_cases : Completed s identity enrollmentId verificationCode currentAssurance w
    (complete s identity enrollmentId verificationCode currentAssurance w) := by
  have uncounted : (∀ found,w.pendingTotp[enrollmentId]? = some found → ¬Ready identity currentAssurance w found) →
      failsCode s enrollmentId w (.complete identity enrollmentId verificationCode currentAssurance) = false := by
    intro unready
    apply Bool.eq_false_iff.mpr
    intro counted
    simp only [failsCode,beq_self_eq_true,Bool.true_and,Option.any_eq_true,Bool.and_eq_true,beq_iff_eq,decide_eq_true_eq,
      Bool.or_eq_true,Bool.not_eq_true'] at counted
    obtain ⟨found,stored,⟨⟨⟨mine,alive⟩,strong⟩,standing⟩,-⟩ := counted
    refine unready found stored ⟨mine,alive,?_,standing⟩
    intro authorized
    simpa [authorized] using strong
  unfold complete
  split
  · rename_i absent
    exact .refused _ w.clock (uncounted fun found stored => by cases absent.symm.trans stored)
  · rename_i found stored
    have only : ∀ other,w.pendingTotp[enrollmentId]? = some other → other = found := by
      intro other same
      exact Option.some.inj (same.symm.trans stored)
    split
    · rename_i foreign
      refine .refused _ w.clock (uncounted fun other same ready => foreign ?_)
      rw [← only other same]
      exact ready.mine
    · rename_i mine
      split
      · exact .dropped _ _
      · rename_i alive
        split
        · rename_i weak
          refine .refused _ _ (uncounted fun other same ready => ?_)
          cases only other same
          simp only [Bool.and_eq_true,Bool.not_eq_true'] at weak
          simp [ready.strong weak.1] at weak
        · rename_i strong
          split
          · rename_i e unknown
            refine .refused _ _ (uncounted fun other same ready => ?_)
            cases only other same
            cases unknown.symm.trans ready.standing
          · rename_i enabled known
            split
            · exact .dropped _ _
            · rename_i same
              simp only [ne_eq,not_not] at mine same
              subst same
              have ready : Ready identity currentAssurance w found := by
                refine ⟨mine,Int.not_le.mp alive,?_,known⟩
                intro authorized
                simpa [authorized] using strong
              have strong' : (!found.replacementAuthorized || meetsAssurance currentAssurance .ial2) = true := by
                cases authorized : found.replacementAuthorized with
                | false => rfl
                | true => exact ready.strong authorized
              rcases replaceTotp_cases s.hotp s.totpPolicy found.secret verificationCode (w.clock 1) known with
                ⟨e,wrong,same⟩ | ⟨account,sealed,same⟩
              · have counts : failsCode s enrollmentId w
                    (.complete identity enrollmentId verificationCode currentAssurance) =
                      decide (e.code = .authenticationFailed) := by
                  simp [failsCode,stored,mine,ready.alive,strong',known,wrong]
                rw [same]
                dsimp only
                split
                · rename_i denied
                  split
                  · exact .dropped _ _
                  · rename_i left
                    exact .failed _ _ found stored (Nat.not_le.mp left) (by simp [counts,denied])
                · rename_i other
                  exact .refused _ _ (by simp [counts,other])
              · rw [same]
                exact .installed _ found account stored ready sealed

theorem disable_cases : (∃ e,disable identity subject w = (.error e,w)) ∨
    ∃ r recoveryCodes accounts,disable identity subject w = (r,{ w with
      pendingTotp := dropOwn identity w.pendingTotp
      recoveryCodes := recoveryCodes
      accounts := accounts }) ∧ (accounts = w.accounts ∨
        ∃ account : TotpAccount,account.totp = none ∧ accounts = w.accounts.insert subject account) := by
  unfold disable
  split
  · exact .inl ⟨_,rfl⟩
  · split
    · exact .inl ⟨_,rfl⟩
    · right
      dsimp only
      split
      · exact ⟨_,w.recoveryCodes,w.accounts,rfl,.inl rfl⟩
      · refine ⟨_,_,_,rfl,?_⟩
        unfold TotpAccounts.removeTotp
        split
        · exact .inl rfl
        · split
          · exact .inl rfl
          · exact .inr ⟨_,rfl,rfl⟩

theorem factor_insert (subject other : ExternalSubject) (account : TotpAccount) (accounts : TotpAccounts) :
    (accounts.insert other account)[subject]?.bind TotpAccount.totp =
      if other = subject then account.totp else accounts[subject]?.bind TotpAccount.totp := by
  rw [Map.find_insert]
  split <;> rfl

theorem factor_changes {op : TotpOp} (known : totpOf subject w = some secret)
    (lost : totpOf subject (exec s op w).2 ≠ some secret) :
    (∃ identity enrollmentId verificationCode currentAssurance found,
      op = .complete identity enrollmentId verificationCode currentAssurance ∧ w.pendingTotp[enrollmentId]? = some found ∧
        Ready identity currentAssurance w found ∧ found.subject = subject ∧
          totpOf subject (exec s op w).2 = some found.secret) ∨
      ∃ identity,op = .disable identity subject ∧ totpOf subject (exec s op w).2 = none := by
  cases op with
  | enroll identity other enrollmentId replacement expiresAt enabled =>
    simp only [exec] at lost
    rcases @enroll_cases w identity other enrollmentId enabled replacement expiresAt with ⟨e,same⟩ | ⟨clock,same⟩ <;>
      exact absurd (by rw [same]; exact known) lost
  | complete identity enrollmentId verificationCode currentAssurance =>
    left
    refine ⟨identity,enrollmentId,verificationCode,currentAssurance,?_⟩
    have done : Completed s identity enrollmentId verificationCode currentAssurance w
      (exec s (.complete identity enrollmentId verificationCode currentAssurance) w) := complete_cases
    generalize exec s (.complete identity enrollmentId verificationCode currentAssurance) w = outcome at done lost ⊢
    cases done with
    | refused | dropped | failed => exact absurd known lost
    | installed clock found account stored ready sealed =>
      have now := factor_insert subject found.subject account w.accounts
      by_cases here : found.subject = subject
      · rw [if_pos here,sealed] at now
        exact ⟨found,rfl,stored,ready,here,now⟩
      · rw [if_neg here] at now
        exact absurd (now.trans known) lost
  | disable identity other =>
    right
    refine ⟨identity,?_⟩
    simp only [exec] at lost
    rcases @disable_cases w identity other with ⟨e,same⟩ | ⟨r,codes,accounts,same,unchanged | ⟨account,gone,removed⟩⟩
    · exact absurd (by rw [same]; exact known) lost
    · refine absurd ?_ lost
      rw [same]
      simpa [totpOf,unchanged] using known
    · have now : totpOf subject (disable identity other w).2 =
          if other = subject then account.totp else w.accounts[subject]?.bind TotpAccount.totp := by
        rw [same]
        dsimp only [totpOf]
        rw [removed,factor_insert]
      by_cases here : other = subject
      · subst here
        rw [if_pos rfl,gone] at now
        exact ⟨rfl,now⟩
      · rw [if_neg here] at now
        exact absurd (now.trans known) lost
  | _ => exact absurd known lost

end

def OnePerIdentity (pendings : Pendings) : Prop :=
  ∀ (id id' : TotpEnrollmentId) (pending pending' : PendingTotpEnrollment),pendings[id]? = some pending →
    pendings[id']? = some pending' → pending.identity = pending'.identity → id = id'

def failed (s : TotpWorld.TotpService) (id : TotpEnrollmentId) (entry : TotpEntry) : Bool :=
  failsCode s id entry.found entry.exchange.1

structure Origin (s : TotpWorld.TotpService) (id : TotpEnrollmentId) (pending : PendingTotpEnrollment)
    (log since : List TotpEntry) : Prop where
  begun : ∃ before put,log = before ++ put :: since ∧ Enrolls id pending put.exchange
  uninstalled : ∀ later ∈ since,¬Installs id later.exchange
  counted : pending.attempts = since.countP (failed s id)
  left : pending.attempts < kTotpEnrollmentMaximumAttempts

-- What holds of the pending enrolments after any run.
structure Kept (s : TotpWorld.TotpService) (pendings : Pendings) (log : List TotpEntry) : Prop where
  single : OnePerIdentity pendings
  origins : ∀ (id : TotpEnrollmentId) (pending : PendingTotpEnrollment),pendings[id]? = some pending →
    ∃ since,Origin s id pending log since

section
variable {s : TotpWorld.TotpService} {w : TotpState} {id enrollmentId : TotpEnrollmentId}
  {pending : PendingTotpEnrollment} {log since : List TotpEntry} {entry : TotpEntry} {op : TotpOp}

theorem Origin.step (origin : Origin s id pending log since) (uninstalled : ¬Installs id entry.exchange)
    (uncounted : failed s id entry = false) : Origin s id pending (log ++ [entry]) (since ++ [entry]) := by
  obtain ⟨⟨before,put,rfl,enrolls⟩,none,counted,left⟩ := origin
  refine ⟨⟨before,put,by simp,enrolls⟩,?_,?_,left⟩
  · intro later inside
    rcases List.mem_append.mp inside with old | new
    · exact none later old
    · cases List.mem_singleton.mp new
      exact uninstalled
  · simp [counted,uncounted]

theorem Origin.failed (origin : Origin s id pending log since) (uninstalled : ¬Installs id entry.exchange)
    (counted : failed s id entry = true) (more : pending.attempts+1 < kTotpEnrollmentMaximumAttempts) :
    Origin s id { pending with attempts := pending.attempts+1 } (log ++ [entry]) (since ++ [entry]) := by
  obtain ⟨⟨before,put,rfl,enrolls⟩,none,count,-⟩ := origin
  refine ⟨⟨before,put,by simp,enrolls⟩,?_,?_,more⟩
  · intro later inside
    rcases List.mem_append.mp inside with old | new
    · exact none later old
    · cases List.mem_singleton.mp new
      exact uninstalled
  · simp [count,counted]

theorem Origin.fresh (enrolls : Enrolls id pending entry.exchange) (new : pending.attempts = 0) :
    Origin s id pending (log ++ [entry]) [] :=
  ⟨⟨log,entry,rfl,enrolls⟩,nofun,new,by rw [new]; decide⟩

theorem Kept.fewer (kept : Kept s pendings log) (some_ : ∀ (id : TotpEnrollmentId) (pending : PendingTotpEnrollment),
      later[id]? = some pending → pendings[id]? = some pending)
    (spared : ∀ (id : TotpEnrollmentId) (pending : PendingTotpEnrollment),later[id]? = some pending →
      ¬Installs id entry.exchange ∧ failed s id entry = false) : Kept s later (log ++ [entry]) := by
  constructor
  · intro id id' pending pending' found found' same
    exact kept.single id id' pending pending' (some_ id pending found) (some_ id' pending' found') same
  · intro id pending found
    obtain ⟨since,origin⟩ := kept.origins id pending (some_ id pending found)
    obtain ⟨uninstalled,uncounted⟩ := spared id pending found
    exact ⟨since ++ [entry],origin.step uninstalled uncounted⟩

theorem quiet_spared (quiet : ∀ identity enrollmentId verificationCode currentAssurance,
      exchange.1 ≠ .complete identity enrollmentId verificationCode currentAssurance) :
    ¬Installs id exchange ∧ failed s id ⟨i,w,exchange⟩ = false := by
  constructor
  · rintro ⟨identity,verificationCode,currentAssurance,rfl⟩
    exact quiet _ _ _ _ rfl
  · obtain ⟨op,answer⟩ := exchange
    cases op with
    | complete identity enrollmentId verificationCode currentAssurance => exact absurd rfl (quiet _ _ _ _)
    | _ => rfl

theorem other_spared {identity : IdentityId} {verificationCode : Text} {currentAssurance : AssuranceLevel}
    (other : enrollmentId ≠ id) :
    ¬Installs id ⟨.complete identity enrollmentId verificationCode currentAssurance,answer⟩ ∧
      failed s id ⟨i,w,⟨.complete identity enrollmentId verificationCode currentAssurance,answer⟩⟩ = false := by
  constructor
  · rintro ⟨_,_,_,same⟩
    cases same
    exact other rfl
  · simp [failed,failsCode,other]

theorem enrolled_cases {identity : IdentityId}
    (found : ((dropStale identity w.pendingTotp.toList w.pendingTotp w.clock).1.insertIfNew enrollmentId new)[id]? =
      some pending) : (id = enrollmentId ∧ pending = new) ∨ (w.pendingTotp[id]? = some pending ∧ pending.identity ≠ identity) := by
  rw [Std.ExtTreeMap.getElem?_insertIfNew] at found
  split at found
  · rename_i here
    cases found
    exact .inl ⟨(Std.LawfulEqCmp.eq_of_compare here.1).symm,rfl⟩
  · exact .inr (dropStale_all found)

theorem Kept.enroll {identity : IdentityId} {subject : ExternalSubject} {secret : TotpSecret} {expiresAt : Instant}
    {enabled : Bool} (kept : Kept s w.pendingTotp log) :
    Kept s (enroll identity subject enrollmentId secret expiresAt enabled w).2.pendingTotp
      (log ++ [⟨i,w,⟨.enroll identity subject enrollmentId secret expiresAt enabled,
        (enroll identity subject enrollmentId secret expiresAt enabled w).1⟩⟩]) := by
  have quiet : ∀ answer : Result Unit,∀ id,¬Installs id ⟨.enroll identity subject enrollmentId secret expiresAt enabled,answer⟩ ∧
      failed s id ⟨i,w,⟨.enroll identity subject enrollmentId secret expiresAt enabled,answer⟩⟩ = false :=
    fun answer id => quiet_spared nofun
  rcases @enroll_cases w identity subject enrollmentId enabled secret expiresAt with ⟨e,same⟩ | ⟨clock,same⟩
  · rw [same]
    exact kept.fewer (fun _ _ found => found) fun id _ _ => quiet _ id
  · rw [same]
    constructor
    · intro id id' pending pending' found found' mine
      rcases enrolled_cases found with ⟨rfl,rfl⟩ | ⟨old,foreign⟩ <;>
        rcases enrolled_cases found' with ⟨rfl,rfl⟩ | ⟨old',foreign'⟩
      · rfl
      · exact absurd mine.symm foreign'
      · exact absurd mine foreign
      · exact kept.single id id' pending pending' old old' mine
    · intro id pending found
      rcases enrolled_cases found with ⟨rfl,rfl⟩ | ⟨old,-⟩
      · exact ⟨[],Origin.fresh rfl rfl⟩
      · obtain ⟨since,origin⟩ := kept.origins id pending old
        exact ⟨_,origin.step (quiet _ id).1 (quiet _ id).2⟩

theorem Kept.complete {identity : IdentityId} {verificationCode : Text} {currentAssurance : AssuranceLevel}
    (kept : Kept s w.pendingTotp log) :
    Kept s (complete s identity enrollmentId verificationCode currentAssurance w).2.pendingTotp
      (log ++ [⟨i,w,⟨.complete identity enrollmentId verificationCode currentAssurance,
        (complete s identity enrollmentId verificationCode currentAssurance w).1⟩⟩]) := by
  have unfinished : ∀ e : Error,¬Installs enrollmentId
      ⟨.complete identity enrollmentId verificationCode currentAssurance,(.error e : Result Unit)⟩ := by
    rintro e ⟨_,_,_,same⟩
    cases same
  have erased : ∀ answer : Result Unit,Kept s (w.pendingTotp.erase enrollmentId)
      (log ++ [⟨i,w,⟨.complete identity enrollmentId verificationCode currentAssurance,answer⟩⟩]) := by
    intro answer
    have others : ∀ (id : TotpEnrollmentId) (pending : PendingTotpEnrollment),
        (w.pendingTotp.erase enrollmentId)[id]? = some pending → enrollmentId ≠ id ∧ w.pendingTotp[id]? = some pending := by
      intro id pending found
      refine ⟨?_,Map.erase_cases found⟩
      rintro rfl
      simp at found
    exact kept.fewer (fun id pending found => (others id pending found).2) fun id pending found =>
      other_spared (others id pending found).1
  have done := @complete_cases s w identity enrollmentId verificationCode currentAssurance
  generalize TotpWorld.complete s identity enrollmentId verificationCode currentAssurance w = outcome at done ⊢
  cases done with
  | refused e clock uncounted =>
    refine kept.fewer (fun _ _ found => found) fun id _ _ => ?_
    by_cases here : enrollmentId = id
    · subst here
      exact ⟨unfinished e,uncounted⟩
    · exact other_spared here
  | dropped | installed => exact erased _
  | failed e clock found stored left counted =>
    have either : ∀ (id : TotpEnrollmentId) (pending : PendingTotpEnrollment),(w.pendingTotp.insert enrollmentId
        { found with attempts := found.attempts+1 })[id]? = some pending →
          (id = enrollmentId ∧ pending = { found with attempts := found.attempts+1 }) ∨
            (enrollmentId ≠ id ∧ w.pendingTotp[id]? = some pending) := by
      intro id pending known
      rw [Map.find_insert] at known
      split at known
      · rename_i here
        cases known
        exact .inl ⟨here.symm,rfl⟩
      · rename_i apart
        exact .inr ⟨apart,known⟩
    constructor
    · have before : ∀ (id : TotpEnrollmentId) (pending : PendingTotpEnrollment),(w.pendingTotp.insert enrollmentId
          { found with attempts := found.attempts+1 })[id]? = some pending →
            ∃ old : PendingTotpEnrollment,w.pendingTotp[id]? = some old ∧ old.identity = pending.identity := by
        intro id pending known
        rcases either id pending known with ⟨rfl,rfl⟩ | ⟨-,old⟩
        · exact ⟨found,stored,rfl⟩
        · exact ⟨pending,old,rfl⟩
      intro id id' pending pending' known known' mine
      obtain ⟨old,there,same⟩ := before id pending known
      obtain ⟨old',there',same'⟩ := before id' pending' known'
      exact kept.single id id' old old' there there' (same.trans (mine.trans same'.symm))
    · intro id pending known
      rcases either id pending known with ⟨rfl,rfl⟩ | ⟨apart,old⟩
      · obtain ⟨since,origin⟩ := kept.origins id found stored
        exact ⟨_,origin.failed (unfinished e) counted left⟩
      · obtain ⟨since,origin⟩ := kept.origins id pending old
        obtain ⟨uninstalled,uncounted⟩ := other_spared apart
        exact ⟨_,origin.step uninstalled uncounted⟩

theorem Kept.exec (kept : Kept s w.pendingTotp log) :
    Kept s (exec s op w).2.pendingTotp (log ++ [⟨i,w,⟨op,(exec s op w).1⟩⟩]) := by
  cases op with
  | enroll identity subject enrollmentId secret expiresAt enabled => exact kept.enroll
  | complete identity enrollmentId verificationCode currentAssurance => exact kept.complete
  | disable identity subject =>
    rcases @disable_cases w identity subject with ⟨e,same⟩ | ⟨r,codes,accounts,same,-⟩
    · refine kept.fewer (fun id pending found => ?_) fun _ _ _ => quiet_spared nofun
      simpa [TotpWorld.exec,same] using found
    · refine kept.fewer (fun id pending found => ?_) fun _ _ _ => quiet_spared nofun
      simp only [TotpWorld.exec,same] at found
      exact (dropOwn_kept found).1
  | _ => exact kept.fewer (fun _ _ found => found) fun _ _ _ => quiet_spared nofun

end

-- By whom a second factor that is there may be replaced or removed.
inductive Authorized (s : TotpWorld.TotpService) (floor : TotpFloor) (subject : ExternalSubject) (before : List TotpEntry)
    (entry : TotpEntry) : Prop where
  | replaced (identity : IdentityId) (enrollmentId : TotpEnrollmentId) (verificationCode password : Text)
      (currentAssurance began : AssuranceLevel) (pending : PendingTotpEnrollment) (earlier since : List TotpEntry)
      (put : TotpEntry) (calls : Calls s floor entry.caller (.completes identity enrollmentId verificationCode currentAssurance))
      (strong : meetsAssurance currentAssurance .ial2 = true)
      (installed : totpOf subject (exec s entry.exchange.1 entry.found).2 = some pending.secret)
      (split : before = earlier ++ put :: since) (enrolls : Enrolls enrollmentId pending put.exchange)
      (begins : Calls s floor put.caller (.begins identity password began))
      (verified : ⟨.verifyPassword subject password,.ok ()⟩ ∈ own put.caller earlier)
      (beganStrong : meetsAssurance began .ial2 = true) : Authorized s floor subject before entry
  | removed (identity : IdentityId) (password : Text) (currentAssurance : AssuranceLevel)
      (calls : Calls s floor entry.caller (.disables identity password currentAssurance))
      (strong : meetsAssurance currentAssurance .ial2 = true)
      (gone : totpOf subject (exec s entry.exchange.1 entry.found).2 = none) : Authorized s floor subject before entry

section
variable {s : TotpWorld.TotpService} {initial : TotpState} {floor : TotpFloor} {before after first between : List TotpEntry}
  {entry one two : TotpEntry} {id : TotpEnrollmentId} {subject : ExternalSubject} {secret : TotpSecret}

theorem kept_run (fresh : ∀ id : TotpEnrollmentId,initial.pendingTotp[id]? = none)
    (played : Plays (totpStage s) initial floor) : Kept s floor.world.pendingTotp floor.log := by
  induction played with
  | start => exact ⟨fun id _ _ _ found => by simp [fresh id] at found,fun id _ found => by simp [fresh id] at found⟩
  | move played moved ih =>
    cases moved with
    | enter p => exact ih
    | act waiting => exact ih.exec
    | drift moved =>
      have same : _ = _ := moved.pending
      rwa [same]

theorem kept_before (fresh : ∀ id : TotpEnrollmentId,initial.pendingTotp[id]? = none)
    (played : Plays (totpStage s) initial floor) (split : floor.log = before ++ entry :: after) :
    Kept s entry.found.pendingTotp before := by
  obtain ⟨earlier,reached,rfl,found,-⟩ := Plays.before played _ _ _ split
  rw [← found]
  exact kept_run fresh reached

theorem asked_of (played : Plays (totpStage s) initial floor) (serves : Serves s floor)
    (split : floor.log = before ++ entry :: after) :
    ∃ request,Calls s floor entry.caller request ∧ Asks request (own entry.caller before) entry.exchange.1 := by
  have entered := played.accounted.entered entry (by simp [split])
  have known := List.getElem?_eq_getElem entered
  obtain ⟨request,begun⟩ := serves _ (List.getElem_mem entered)
  have follows : Follows (remembering (Asks request)) (fun _ _ => True) [] floor.members[entry.caller].begun := by
    rw [begun]
    exact calling_asks
  refine ⟨request,⟨floor.members[entry.caller].rest,?_⟩,asked_then played split known follows⟩
  rw [known,← begun]

section
variable (fresh : ∀ id : TotpEnrollmentId,initial.pendingTotp[id]? = none)
include fresh

theorem installed_pending (played : Plays (totpStage s) initial floor)
    (split : floor.log = before ++ entry :: after) (installs : Installs id entry.exchange) : ∃ pending since,Origin s id pending before since ∧
      entry.found.clock 0 < pending.expiresAt ∧
        totpOf pending.subject (exec s entry.exchange.1 entry.found).2 = some pending.secret := by
  have kept := kept_before fresh played split
  have answered := played.answered entry (by simp [split])
  obtain ⟨caller,w,exchange⟩ := entry
  obtain ⟨identity,verificationCode,currentAssurance,rfl⟩ := installs
  have answered : .ok () = (complete s identity id verificationCode currentAssurance w).1 := answered
  have done := @complete_cases s w identity id verificationCode currentAssurance
  simp only [exec]
  generalize complete s identity id verificationCode currentAssurance w = outcome at done answered ⊢
  cases done with
  | refused | dropped | failed => cases answered
  | installed clock found account stored ready sealed =>
    obtain ⟨since,origin⟩ := kept.origins id found stored
    refine ⟨found,since,origin,ready.alive,?_⟩
    dsimp only [totpOf]
    rw [factor_insert,if_pos rfl,sealed]

theorem installed_once (played : Plays (totpStage s) initial floor)
    (split : floor.log = first ++ one :: (between ++ two :: after)) (installs : Installs id one.exchange)
    (again : Installs id two.exchange) : ∃ put ∈ between,∃ pending,Enrolls id pending put.exchange := by
  have shape : floor.log = (first ++ one :: between) ++ two :: after := by simp [split]
  obtain ⟨pending,since,⟨⟨earlier,put,same,enrolls⟩,uninstalled,-⟩,-⟩ := installed_pending fresh played shape again
  rcases split_order same with inside | rfl | later
  · exact ⟨put,inside,pending,enrolls⟩
  · obtain ⟨_,_,_,told⟩ := installs
    cases told.symm.trans enrolls
  · exact absurd installs (uninstalled one later)

theorem factor_authorized (played : Plays (totpStage s) initial floor) (serves : Serves s floor)
    (split : floor.log = before ++ entry :: after) (known : totpOf subject entry.found = some secret)
    (lost : totpOf subject (exec s entry.exchange.1 entry.found).2 ≠ some secret) :
    Authorized s floor subject before entry := by
  obtain ⟨request,calls,asks⟩ := asked_of played serves split
  rcases factor_changes known lost with
    ⟨identity,enrollmentId,verificationCode,currentAssurance,found,op,stored,ready,rfl,installed⟩ | ⟨identity,op,gone⟩
  · rw [op] at asks
    cases asks
    obtain ⟨since,⟨⟨earlier,put,same,enrolls⟩,-⟩⟩ := (kept_before fresh played split).origins enrollmentId found stored
    have shape : floor.log = earlier ++ put :: (since ++ entry :: after) := by simp [split,same]
    have authorized : found.replacementAuthorized = true := by
      have there := hasTotp_of ready.standing
      rw [known] at there
      exact there.symm
    obtain ⟨request,begins,asked⟩ := asked_of played serves shape
    rw [show put.exchange = _ from enrolls] at asked
    obtain ⟨password,began,rfl,verified,beganStrong⟩ := asked
    rw [ready.mine] at begins
    exact .replaced identity enrollmentId verificationCode password currentAssurance began found earlier since put calls
      (ready.strong authorized) installed same enrolls begins verified (beganStrong authorized)
  · rw [op] at asks
    obtain ⟨password,currentAssurance,rfl,-,strong⟩ := asks
    exact .removed identity password currentAssurance calls strong gone

end

-- The second factor over any run of the three calls.
theorem totp_guarded (fresh : ∀ id : TotpEnrollmentId,initial.pendingTotp[id]? = none)
    (played : Plays (totpStage s) initial floor) (serves : Serves s floor) : OnePerIdentity floor.world.pendingTotp ∧
    (∀ (before : List TotpEntry) (entry : TotpEntry) after subject secret,floor.log = before ++ entry :: after → totpOf subject entry.found = some secret →
      totpOf subject (exec s entry.exchange.1 entry.found).2 ≠ some secret → Authorized s floor subject before entry) ∧
    (∀ first (one : Entry _ _ _) (between : List (Entry _ _ _)) (two : Entry _ _ _) after id,floor.log = first ++ one :: (between ++ two :: after) → Installs id one.exchange →
      Installs id two.exchange → ∃ put ∈ between,∃ pending,Enrolls id pending put.exchange) ∧
    (∀ (before : List TotpEntry) (entry : TotpEntry) after id,floor.log = before ++ entry :: after → Installs id entry.exchange →
      ∃ pending since,Origin s id pending before since ∧ entry.found.clock 0 < pending.expiresAt ∧
        totpOf pending.subject (exec s entry.exchange.1 entry.found).2 = some pending.secret) := by
  refine ⟨(kept_run fresh played).single,?_,?_,?_⟩
  · intro before entry after subject secret split
    exact factor_authorized fresh played serves split
  · intro first one between two after id split
    exact installed_once fresh played split
  · intro before entry after id split
    exact installed_pending fresh played split

end

section

def demoTotp : TotpWorld.TotpService :=
  ⟨⟨"local"⟩,⟨30000,6,1,1⟩,fun _ _ _ => .ok "287082",fun password hash => .ok (password == hash.encoded),⟨"dummy"⟩⟩

def demoSubject : ExternalSubject := ⟨"ann@mail.org"⟩
def demoExternal : ExternalIdentityRef := ⟨⟨"local"⟩,demoSubject,none,none,none⟩
def demoSecret (n : Nat) : TotpSecret := ⟨List.replicate 20 (UInt8.ofNat (65+n))⟩

def demoAccounts : TotpState where
  clock _ := 0
  randomness n _ := .ok [UInt8.ofNat (65+n)]
  secrets n := .ok ⟨List.replicate 20 (UInt8.ofNat (65+n)),List.length_replicate⟩
  directory := ⟨Std.ExtTreeMap.insert ∅ demoExternal.key ⟨"opi_E"⟩,∅⟩
  accounts := Std.ExtTreeMap.insert ∅ demoSubject ⟨⟨"password"⟩,none,none⟩
  recoveryCodes := ∅
  pendingTotp := ∅

def demoBegins (currentAssurance : AssuranceLevel) : TotpRequest := .begins ⟨"opi_E"⟩ "password" currentAssurance
def demoCompletes (enrollmentId : Text) (code : Text) (currentAssurance : AssuranceLevel) : TotpRequest :=
  .completes ⟨"opi_E"⟩ ⟨enrollmentId⟩ code currentAssurance

def demoReplaces (entry : TotpEntry) : Bool :=
  decide (totpOf demoSubject entry.found = some (demoSecret 0)) &&
    decide (totpOf demoSubject (exec demoTotp entry.exchange.1 entry.found).2 = some (demoSecret 1))

theorem totp_guarded_replaced : ∃ floor : TotpFloor,Plays (totpStage demoTotp) demoAccounts floor ∧
    OnePerIdentity floor.world.pendingTotp ∧ ∃ before entry after,floor.log = before ++ entry :: after ∧
      totpOf demoSubject entry.found = some (demoSecret 0) ∧
        totpOf demoSubject (exec demoTotp entry.exchange.1 entry.found).2 = some (demoSecret 1) ∧
          Authorized demoTotp floor demoSubject before entry := by
  let turns : List (Turn TotpOp TotpOp.Ret Error TotpReply TotpState) :=
    .enter (calling demoTotp (demoBegins .ial1)) :: steps 0 7 ++
      .enter (calling demoTotp (demoCompletes "opt_A" "287082" .ial1)) :: steps 1 1 ++
        .enter (calling demoTotp (demoBegins .ial2)) :: steps 2 7 ++
          .enter (calling demoTotp (demoCompletes "opt_B" "000000" .ial2)) :: steps 3 1 ++
            .enter (calling demoTotp (demoCompletes "opt_B" "287082" .ial2)) :: steps 4 1
  have done : (takeTurns (exec demoTotp) turns (⟨demoAccounts,[],[]⟩ : TotpFloor)).any
      (fun floor => floor.log.any demoReplaces) = true := by
    decide
  obtain ⟨floor,taken,holds⟩ := (Option.any_eq_true _ _).mp done
  obtain ⟨entry,inside,replaces⟩ := List.any_eq_true.mp holds
  simp only [demoReplaces,Bool.and_eq_true,decide_eq_true_eq] at replaces
  obtain ⟨before,after,split⟩ := List.append_of_mem inside
  have played : Plays (totpStage demoTotp) demoAccounts floor :=
    Plays.start.turns (by simp [turns,steps,Turn.Allowed]) taken
  have serves : Serves demoTotp floor := by
    intro m inside
    have begun : m.begun ∈ turns.filterMap Turn.entered := by
      rw [← List.nil_append (turns.filterMap Turn.entered)]
      exact (takeTurns_begun taken) ▸ List.mem_map_of_mem inside
    have entered : turns.filterMap Turn.entered = [demoBegins .ial1,demoCompletes "opt_A" "287082" .ial1,demoBegins .ial2,
        demoCompletes "opt_B" "000000" .ial2,demoCompletes "opt_B" "287082" .ial2].map (calling demoTotp) := rfl
    rw [entered] at begun
    obtain ⟨request,-,same⟩ := List.mem_map.mp begun
    exact ⟨request,same.symm⟩
  obtain ⟨single,authorized,-⟩ := totp_guarded (s := demoTotp) (fun id => by simp [demoAccounts]) played serves
  have lost : totpOf demoSubject (exec demoTotp entry.exchange.1 entry.found).2 ≠ some (demoSecret 0) := by
    rw [replaces.2]
    decide
  exact ⟨floor,played,single,before,entry,after,split,replaces.1,replaces.2,
    authorized before entry after demoSubject (demoSecret 0) split replaces.1 lost⟩

end

end OpenProof.TotpEnrollments
