import Mathlib.Order.Bounds.Basic
import OpenProof.TotpWorld

namespace OpenProof.TotpReplays
open Foundation Accounts ExternalIdentities TotpWorld Accounts.LocalAccounts

inductive LocalVerification where
  | password
  | passwordAndTotp
  deriving DecidableEq

-- What `InMemoryLocalAccountDirectory` is built with.
structure AccountDirectory where
  hotp : Hotp
  totpPolicy : TotpPolicy
  verifies : Text → PasswordHash → Result Bool
  needsRehash : PasswordHash → Result Bool
  dummyHash : PasswordHash

structure Attempt where
  subject : ExternalSubject
  password : Text
  totp : Option Text
  now : Instant
  rehashed : Result PasswordHash

namespace AccountDirectory
variable (d : AccountDirectory)

def upgraded (rehashed : Result PasswordHash) (account : TotpAccount) : TotpAccount :=
  match d.needsRehash account.password with
  | .ok true =>
    match rehashed with
    | .ok password => { account with password := password }
    | .error _ => account
  | _ => account

def verify (attempt : Attempt) (accounts : TotpAccounts) : Result LocalVerification × TotpAccounts :=
  match accounts[attempt.subject]? with
  | none =>
    match d.verifies attempt.password d.dummyHash with
    | .error e => (.error e,accounts)
    | .ok _ => (.error (authenticationFailure "Local account is unknown."),accounts)
  | some account =>
    match d.verifies attempt.password account.password with
    | .error e => (.error e,accounts)
    | .ok passwordMatches =>
      if !passwordMatches then (.error (authenticationFailure "Local password did not verify."),accounts)
      else match account.totp with
        | none => (.ok .password,accounts.insert attempt.subject (d.upgraded attempt.rehashed account))
        | some secret =>
          match attempt.totp with
          | none => (.error (authenticationFailure "A second factor is required."),accounts)
          | some code =>
            match verifyTotp d.hotp secret d.totpPolicy code attempt.now account.lastAcceptedTotpStep with
            | .error e => (.error e,accounts)
            | .ok accepted =>
              (.ok .passwordAndTotp,accounts.insert attempt.subject
                (d.upgraded attempt.rehashed { account with lastAcceptedTotpStep := some accepted }))

end AccountDirectory

def InWindow (policy : TotpPolicy) (now : Instant) (step : Nat) : Prop :=
  (now / policy.step).toNat ≤ step + policy.pastWindow ∧ step ≤ (now / policy.step).toNat + policy.futureWindow

def Eligible (hotp : Hotp) (secret : TotpSecret) (policy : TotpPolicy) (presented : Text) (now : Instant)
    (lastAcceptedStep : Option Nat) : Set Nat :=
  { step | InWindow policy now step ∧ (∀ last ∈ lastAcceptedStep,last < step) ∧
    hotp secret step policy.digits = .ok presented }

section
variable {hotp : Hotp} {secret : TotpSecret} {presented : Text} {lastAcceptedStep : Option Nat}

theorem matchStep_least (upward : candidates.Pairwise (· < ·))
    (accepted : matchStep hotp secret digits presented lastAcceptedStep candidates = .ok step) :
    step ∈ candidates ∧ (∀ last ∈ lastAcceptedStep,last < step) ∧ hotp secret step digits = .ok presented ∧
      ∀ other ∈ candidates,hotp secret other digits = .ok presented → step ≤ other := by
  induction candidates with
  | nil => cases accepted
  | cons candidate later ih =>
    obtain ⟨least,onward⟩ := List.pairwise_cons.mp upward
    unfold matchStep at accepted
    split at accepted
    · cases accepted
    · rename_i expected computed
      split at accepted
      · rename_i same
        rw [same] at computed
        obtain ⟨fresh,done⟩ := passed accepted
        cases done
        refine ⟨by simp,by simpa [Option.any_eq_true] using fresh,computed,?_⟩
        intro other inside matching
        rcases List.mem_cons.mp inside with rfl | further
        · exact Nat.le_refl _
        · exact Nat.le_of_lt (least other further)
      · rename_i apart
        obtain ⟨inside,beyond,matching,first⟩ := ih onward accepted
        refine ⟨List.mem_cons_of_mem _ inside,beyond,matching,?_⟩
        intro other among alike
        rcases List.mem_cons.mp among with rfl | further
        · rw [computed] at alike
          exact absurd (Except.ok.inj alike) apart
        · exact first other further alike

theorem mem_window : (step ∈ List.range' (if policy.pastWindow ≤ (now / policy.step).toNat then
        (now / policy.step).toNat - policy.pastWindow else 0)
      ((now / policy.step).toNat + policy.futureWindow + 1 - (if policy.pastWindow ≤ (now / policy.step).toNat then
        (now / policy.step).toNat - policy.pastWindow else 0))) ↔ InWindow policy now step := by
  rw [List.mem_range'_1,InWindow]
  split <;> omega

theorem verifyTotp_least (accepted : verifyTotp hotp secret policy presented now lastAcceptedStep = .ok step) :
    IsLeast (Eligible hotp secret policy presented now lastAcceptedStep) step := by
  obtain ⟨-,accepted⟩ := passed accepted
  split at accepted
  · cases accepted
  · rename_i current timed
    obtain ⟨-,timed⟩ := passed timed
    cases timed
    obtain ⟨inside,beyond,matching,first⟩ := matchStep_least List.pairwise_lt_range' accepted
    refine ⟨⟨mem_window.mp inside,beyond,matching⟩,?_⟩
    intro other eligible
    exact first other (mem_window.mpr eligible.1) eligible.2.2

end

def lastAccepted (subject : ExternalSubject) (accounts : TotpAccounts) : Option Nat :=
  accounts[subject]?.bind TotpAccount.lastAcceptedTotpStep

-- An attempt that both factors passed, with the last accepted step before it and after it.
structure Acceptance where
  attempt : Attempt
  previous : Option Nat
  step : Option Nat

def acceptances (d : AccountDirectory) (subject : ExternalSubject) : TotpAccounts → List Attempt → List Acceptance
  | _,[] => []
  | accounts,attempt :: later =>
    let left := d.verify attempt accounts
    if attempt.subject = subject ∧ left.1 = .ok .passwordAndTotp then
      ⟨attempt,lastAccepted subject accounts,lastAccepted subject left.2⟩ :: acceptances d subject left.2 later
    else acceptances d subject left.2 later

def Enrolled (subject : ExternalSubject) (secret : TotpSecret) (last : Option Nat) (accounts : TotpAccounts) : Prop :=
  ∃ account,accounts[subject]? = some account ∧ account.totp = some secret ∧ account.lastAcceptedTotpStep = last

section
variable {d : AccountDirectory} {subject : ExternalSubject} {secret : TotpSecret} {accounts : TotpAccounts}

theorem Enrolled.lastAccepted (enrolled : Enrolled subject secret last accounts) :
    lastAccepted subject accounts = last := by
  obtain ⟨account,there,-,rfl⟩ := enrolled
  simp [TotpReplays.lastAccepted,there]

theorem upgraded_second (rehashed : Result PasswordHash) (account : TotpAccount) :
    (d.upgraded rehashed account).totp = account.totp ∧
      (d.upgraded rehashed account).lastAcceptedTotpStep = account.lastAcceptedTotpStep := by
  unfold AccountDirectory.upgraded
  split
  · split <;> exact ⟨rfl,rfl⟩
  · exact ⟨rfl,rfl⟩

theorem verify_elsewhere (other : attempt.subject ≠ subject) :
    (d.verify attempt accounts).2[subject]? = accounts[subject]? := by
  unfold AccountDirectory.verify
  repeat' split
  all_goals simp [other]

theorem verify_step (enrolled : Enrolled subject secret last accounts) (attempt : Attempt) :
    (¬(attempt.subject = subject ∧ (d.verify attempt accounts).1 = .ok .passwordAndTotp) ∧
      Enrolled subject secret last (d.verify attempt accounts).2) ∨
    (attempt.subject = subject ∧ (d.verify attempt accounts).1 = .ok .passwordAndTotp) ∧
      ∃ code step,attempt.totp = some code ∧
        IsLeast (Eligible d.hotp secret d.totpPolicy code attempt.now last) step ∧
        Enrolled subject secret (some step) (d.verify attempt accounts).2 := by
  by_cases mine : attempt.subject = subject
  · obtain ⟨account,there,factor,rfl⟩ := enrolled
    subst mine
    unfold AccountDirectory.verify
    simp only [there,factor]
    split
    · exact .inl ⟨by simp,account,there,factor,rfl⟩
    · split
      · exact .inl ⟨by simp,account,there,factor,rfl⟩
      · split
        · exact .inl ⟨by simp,account,there,factor,rfl⟩
        · rename_i code given
          split
          · exact .inl ⟨by simp,account,there,factor,rfl⟩
          · rename_i step accepted
            obtain ⟨kept,reached⟩ := upgraded_second (d:=d) attempt.rehashed ⟨account.password,some secret,some step⟩
            have there := Map.find_insert (m:=accounts) attempt.subject attempt.subject
              (d.upgraded attempt.rehashed ⟨account.password,some secret,some step⟩)
            rw [if_pos rfl] at there
            exact .inr ⟨⟨trivial,rfl⟩,code,step,given,verifyTotp_least accepted,_,there,kept,reached⟩
  · refine .inl ⟨fun accepts => mine accepts.1,?_⟩
    obtain ⟨account,there,factor,same⟩ := enrolled
    exact ⟨account,(verify_elsewhere mine).trans there,factor,same⟩

end

def Acceptance.Sound (d : AccountDirectory) (secret : TotpSecret) (acceptance : Acceptance) : Prop :=
  ∃ code step,acceptance.attempt.totp = some code ∧ acceptance.step = some step ∧
    IsLeast (Eligible d.hotp secret d.totpPolicy code acceptance.attempt.now acceptance.previous) step

def Acceptance.Beyond (last : Option Nat) (acceptance : Acceptance) : Prop :=
  ∀ one ∈ last,∀ step ∈ acceptance.step,one < step

theorem acceptances_climb {d : AccountDirectory} {subject : ExternalSubject} {secret : TotpSecret}
    (attempts : List Attempt) : ∀ {last : Option Nat} {accounts : TotpAccounts},Enrolled subject secret last accounts →
      (∀ acceptance ∈ acceptances d subject accounts attempts,acceptance.Sound d secret ∧ acceptance.Beyond last) ∧
      (acceptances d subject accounts attempts).Pairwise fun one two => two.Beyond one.step := by
  induction attempts with
  | nil => simp [acceptances]
  | cons attempt later ih =>
    intro last accounts enrolled
    rcases verify_step enrolled attempt with ⟨refused,kept⟩ | ⟨accepts,code,step,given,least,moved⟩
    · rw [acceptances,if_neg refused]
      exact ih kept
    · rw [acceptances,if_pos accepts,moved.lastAccepted,enrolled.lastAccepted]
      obtain ⟨sound,climbing⟩ := ih moved
      have rises : ∀ one ∈ last,one < step := least.1.2.1
      refine ⟨?_,List.pairwise_cons.mpr ⟨fun other inside => (sound other inside).2,climbing⟩⟩
      intro acceptance inside
      rcases List.mem_cons.mp inside with rfl | further
      · refine ⟨⟨code,step,given,rfl,least⟩,?_⟩
        intro one before other same
        cases same
        exact rises one before
      · obtain ⟨good,beyond⟩ := sound acceptance further
        refine ⟨good,?_⟩
        intro one before other same
        exact Nat.lt_trans (rises one before) (beyond step rfl other same)

theorem totp_accepted_once {d : AccountDirectory} {accounts : TotpAccounts} {subject : ExternalSubject}
    {account : TotpAccount} {secret : TotpSecret} (there : accounts[subject]? = some account)
    (enrolled : account.totp = some secret) (attempts : List Attempt) :
    (∀ (hotp : Hotp) (secret : TotpSecret) (policy : TotpPolicy) (presented : Text) (now : Instant)
      (lastAcceptedStep : Option Nat) (step : Nat),
      verifyTotp hotp secret policy presented now lastAcceptedStep = .ok step →
        IsLeast (Eligible hotp secret policy presented now lastAcceptedStep) step) ∧
    (∀ acceptance ∈ acceptances d subject accounts attempts,
      acceptance.Sound d secret ∧ acceptance.Beyond account.lastAcceptedTotpStep) ∧
    (acceptances d subject accounts attempts).Pairwise (fun one two => two.Beyond one.step) ∧
    ((acceptances d subject accounts attempts).map Acceptance.step).Nodup := by
  obtain ⟨sound,climbing⟩ := acceptances_climb attempts ⟨account,there,enrolled,rfl⟩
  refine ⟨fun _ _ _ _ _ _ _ accepted => verifyTotp_least accepted,sound,climbing,?_⟩
  rw [List.Nodup,List.pairwise_map]
  apply climbing.imp_of_mem
  intro one two inside inside' beyond same
  obtain ⟨⟨code,step,-,reached,-⟩,-⟩ := sound one inside
  exact Nat.lt_irrefl step (beyond step reached step (same ▸ reached))

section

def demoCodes : List Text :=
  ["755224","287082","359152","969429","338314","254676","287922","162583","399871","520489"]

def demoHotp : Hotp := fun _ step _ =>
  match demoCodes[step]? with
  | some code => .ok code
  | none => .error (.of .internal "TOTP generation failed." [])

def demoDirectory : AccountDirectory where
  hotp := demoHotp
  totpPolicy := ⟨30000,6,1,1⟩
  verifies password hash := .ok (password == hash.encoded)
  needsRehash _ := .ok false
  dummyHash := ⟨"dummy"⟩

def demoAccount : TotpAccount := ⟨⟨"pw"⟩,some ⟨"12345678901234567890"⟩,none⟩

def demoAccounts : TotpAccounts := (∅ : TotpAccounts).insert ⟨"ann"⟩ demoAccount

def demoAttempt (code : Text) (now : Instant) : Attempt := ⟨⟨"ann"⟩,"pw",some code,now,.error (.plain .unavailable)⟩

theorem totp_accepted_twice :
    (acceptances demoDirectory ⟨"ann"⟩ demoAccounts [demoAttempt "287082" 59000,demoAttempt "287082" 61000,
        demoAttempt "359152" 62000]).map Acceptance.step = [some 1,some 2] ∧
      ([some 1,some 2] : List (Option Nat)).Nodup := by
  have there : demoAccounts[(⟨"ann"⟩ : ExternalSubject)]? = some demoAccount := by simp [demoAccounts]
  have steps : (acceptances demoDirectory ⟨"ann"⟩ demoAccounts [demoAttempt "287082" 59000,demoAttempt "287082" 61000,
      demoAttempt "359152" 62000]).map Acceptance.step = [some 1,some 2] := by decide
  obtain ⟨-,-,-,distinct⟩ := totp_accepted_once (d:=demoDirectory) there rfl [demoAttempt "287082" 59000,
    demoAttempt "287082" 61000,demoAttempt "359152" 62000]
  rw [steps] at distinct
  exact ⟨steps,distinct⟩

end

end OpenProof.TotpReplays
