import OpenProof.Ceremonies
import OpenProof.SignupFailures

namespace OpenProof.ForeignChallenges
open AtomicPrograms CallEmbeddings Foundation Accounts AccountWorld AccountService
open CeremonyWorld Ceremonies SignupFailures AtomicPrograms.Prog Identities

inductive Ceremony where
  | verifyEmail
  | completeEmailChange (expectedIdentity : IdentityId) (newPassword : Option Text)
  | completePhoneVerification (expectedIdentity : IdentityId)
  | completePasswordReset (newPassword : Text)

namespace Ceremony

def purpose : Ceremony → VerificationPurpose
  | .verifyEmail => .signupEmail
  | .completeEmailChange .. => .changeEmail
  | .completePhoneVerification _ => .verifyPhone
  | .completePasswordReset _ => .passwordReset

def caller : Ceremony → Option IdentityId
  | .completeEmailChange expectedIdentity _ => some expectedIdentity
  | .completePhoneVerification expectedIdentity => some expectedIdentity
  | _ => none

def asked : Ceremony → Option IdentityId
  | .completeEmailChange expectedIdentity _ => some expectedIdentity
  | _ => none

def call (s : CeremonyService) (ceremony : Ceremony) (id : VerificationId) (secret : Text) : CeremonyCall Unit :=
  match ceremony with
  | .verifyEmail => onward (AccountService.verifyEmail s.toService id secret)
  | .completeEmailChange expectedIdentity newPassword =>
    Ceremonies.completeEmailChange s expectedIdentity id secret newPassword
  | .completePhoneVerification expectedIdentity =>
    Ceremonies.completePhoneVerification s expectedIdentity id secret
  | .completePasswordReset newPassword => Ceremonies.completePasswordReset s id secret newPassword

end Ceremony

def purposeRefusal : Error := genericVerificationFailure "Verification challenge purpose did not match the endpoint."
def identityRefusal : Error :=
  genericVerificationFailure "Verification challenge does not belong to the authenticated identity."

def Consumable (s : Service) (repository : AccountRepository) (challenge : VerificationChallenge) : Prop :=
  ∀ now expected,now < challenge.expiresAt → (∀ identity,expected = some identity → challenge.identity = identity) →
    (repository.consume challenge.id challenge.digest now s.policy.maximumAttempts expected).1 = .ok challenge

-- The call fails and says that the challenge belongs to another purpose or identity, and so it does.
structure FailsForeign (s : CeremonyService) (ceremony : Ceremony) (challenge : VerificationChallenge) (secret : Text)
    (w : CeremonyState) : Prop where
  hashed : ∃ fingerprint,digest s.toService challenge.id secret = .ok fingerprint
  foreign : challenge.purpose ≠ ceremony.purpose ∨ ∃ caller,ceremony.caller = some caller ∧ challenge.identity ≠ caller
  refused : ∃ e,((ceremony.call s challenge.id secret).run execCeremony w).1 = .error e ∧
    (e = purposeRefusal ∨ e = identityRefusal)

section
variable {s : Service} {repository : AccountRepository} {challenge : VerificationChallenge}

theorem consumable_iff : Consumable s repository challenge ↔ ∃ state,
    repository.challenges[challenge.id]? = some state ∧ state.challenge = challenge ∧
      state.attempts < s.policy.maximumAttempts := by
  constructor
  · intro consumable
    have early : challenge.expiresAt-1 < challenge.expiresAt := Int.sub_one_lt_of_le (Int.le_refl _)
    have done := consumable (challenge.expiresAt-1) none early nofun
    have reached := AccountRepository.consume_cases challenge.id challenge.digest (challenge.expiresAt-1)
      s.policy.maximumAttempts none repository
    generalize repository.consume challenge.id challenge.digest (challenge.expiresAt-1) s.policy.maximumAttempts none =
      outcome at reached done
    cases reached with
    | redeemed found known seen right alive left =>
      cases done
      exact ⟨found,known,rfl,left⟩
    | _ => cases done
  · rintro ⟨state,known,rfl,left⟩ now expected early named
    have seen : AccountRepository.Admits state s.policy.maximumAttempts expected :=
      ⟨Nat.ne_of_gt s.policy.allowing.1,named⟩
    have reached := AccountRepository.consume_cases state.challenge.id state.challenge.digest now s.policy.maximumAttempts
      expected repository
    generalize repository.consume state.challenge.id state.challenge.digest now s.policy.maximumAttempts expected =
      outcome at reached ⊢
    cases reached with
    | unseen e unseen => exact absurd seen (unseen state known)
    | lapsed e found stored admitted late =>
      cases known.symm.trans stored
      rcases late with ⟨-,expired | exhausted⟩ | ⟨-,wrong⟩
      · exact absurd early (Int.not_lt.mpr expired)
      · exact absurd left (Nat.not_lt.mpr exhausted)
      · exact absurd rfl wrong
    | counted found stored admitted wrong left =>
      cases known.symm.trans stored
      exact absurd rfl wrong
    | redeemed found stored admitted right alive left =>
      cases known.symm.trans stored
      rfl

theorem consume_run {id : VerificationId} {secret : Text} {w : AccountState}
    (hashed : digest s id secret = .ok fingerprint) : (consume s id secret purpose expected).run exec w =
      let redeemed := w.repository.consume id fingerprint (w.clock 0) s.policy.maximumAttempts expected
      (redeemed.1.bind fun challenge => if challenge.purpose ≠ purpose then .error purposeRefusal else .ok challenge,
        { w with clock := tail w.clock, repository := redeemed.2 }) := by
  unfold consume
  rw [hashed]
  simp only [Prog.bind_eq,Prog.pure_eq,ask,check,Prog.ret_bind,Prog.run_perform_bind,exec]
  generalize w.repository.consume id fingerprint (w.clock 0) s.policy.maximumAttempts expected = redeemed
  obtain ⟨answer,repository⟩ := redeemed
  cases answer with
  | error e => rfl
  | ok challenge =>
    by_cases other : challenge.purpose = purpose <;> simp [other,Prog.ret_bind,refuseIf,Except.bind,purposeRefusal]

end

section
variable {s : CeremonyService} {ceremony : Ceremony} {challenge : VerificationChallenge} {secret : Text}
  {w : CeremonyState}

theorem call_begins (s : CeremonyService) (ceremony : Ceremony) (secret : Text) (id : VerificationId) : ∃ refused e rest,
    ceremony.call s id secret = (refuseIf refused e).bind (fun _ =>
      (onward (consume s.toService id secret ceremony.purpose ceremony.asked)).bind rest) ∧
    (e ≠ purposeRefusal ∧ e ≠ identityRefusal) ∧
    ∀ challenge caller,ceremony.asked = none → ceremony.caller = some caller → challenge.identity ≠ caller →
      rest challenge = .fail identityRefusal := by
  cases ceremony with
  | verifyEmail =>
    have begins : ∃ rest : VerificationChallenge → CeremonyCall Unit,onward (verifyEmail s.toService id secret) =
        (onward (consume s.toService id secret .signupEmail none)).bind rest := by
      unfold verifyEmail verifyEmailAndGetExternal
      simp only [Prog.bind_eq]
      rw [Prog.bind_assoc]
      exact ⟨_,embed_bind⟩
    obtain ⟨rest,same⟩ := begins
    exact ⟨false,.plain .unknown,rest,same,by decide,nofun⟩
  | completeEmailChange expectedIdentity newPassword => exact ⟨_,_,_,rfl,by decide,nofun⟩
  | completePhoneVerification expectedIdentity =>
    refine ⟨false,.plain .unknown,_,rfl,by decide,?_⟩
    intro challenge caller _ same foreign
    cases same
    simp [refuseIf,foreign,identityRefusal]
  | completePasswordReset newPassword => exact ⟨_,_,_,rfl,by decide,nofun⟩

theorem asked_caller (ceremony : Ceremony) : ceremony.asked = none ∨ ∃ caller newPassword,
    ceremony = .completeEmailChange caller newPassword ∧ ceremony.asked = some caller := by
  cases ceremony with
  | completeEmailChange caller newPassword => exact .inr ⟨caller,newPassword,rfl,rfl⟩
  | _ => exact .inl rfl

theorem call_foreign (consumable : Consumable s.toService w.repository challenge)
    (fails : FailsForeign s ceremony challenge secret w) :
    (((ceremony.call s challenge.id secret).run execCeremony w).2.repository = w.repository ∧
      ∃ caller,ceremony.asked = some caller ∧ challenge.identity ≠ caller) ∨
    (((ceremony.call s challenge.id secret).run execCeremony w).2.repository.challenges =
        w.repository.challenges.erase challenge.id ∧ ∀ caller,ceremony.asked = some caller → challenge.identity = caller) := by
  obtain ⟨⟨fingerprint,hashed⟩,foreign,e,failed,named⟩ := fails
  obtain ⟨state,known,rfl,left⟩ := consumable_iff.mp consumable
  obtain ⟨refused,refusal,rest,same,apart,identified⟩ := call_begins s ceremony secret state.challenge.id
  rw [same] at failed ⊢
  cases refused with
  | true =>
    cases failed
    rcases named with purpose | identity
    · exact absurd purpose apart.1
    · exact absurd identity apart.2
  | false =>
    simp only [Prog.refuseIf_false,Prog.ret_bind,Prog.run_bind,onward_run,consume_run hashed] at failed ⊢
    by_cases told : ∃ caller,ceremony.asked = some caller ∧ state.challenge.identity ≠ caller
    · obtain ⟨caller,asked,other⟩ := told
      obtain ⟨e',kept⟩ := AccountRepository.consume_foreign fingerprint (w.clock 0) s.policy.maximumAttempts known other
      rw [asked,kept]
      exact .inl ⟨rfl,caller,rfl,other⟩
    · have named' : ∀ caller,ceremony.asked = some caller → state.challenge.identity = caller := by
        intro caller asked
        by_contra other
        exact told ⟨caller,asked,other⟩
      have seen : AccountRepository.Admits state s.policy.maximumAttempts ceremony.asked :=
        ⟨Nat.ne_of_gt s.policy.allowing.1,named'⟩
      refine .inr ⟨?_,named'⟩
      have reached := AccountRepository.consume_cases state.challenge.id fingerprint (w.clock 0)
        s.policy.maximumAttempts ceremony.asked w.repository
      generalize w.repository.consume state.challenge.id fingerprint (w.clock 0) s.policy.maximumAttempts
        ceremony.asked = outcome at reached failed ⊢
      cases reached with
      | unseen e' unseen => exact absurd seen (unseen state known)
      | lapsed e' found stored admitted late => rfl
      | counted found stored admitted wrong more =>
        cases failed
        rcases named with purpose | identity
        · exact absurd purpose (by decide)
        · exact absurd identity (by decide)
      | redeemed found stored admitted right alive more =>
        cases known.symm.trans stored
        by_cases fits : state.challenge.purpose = ceremony.purpose
        · rcases foreign with purpose | ⟨caller,mine,other⟩
          · exact absurd fits purpose
          · rcases asked_caller ceremony with silent | ⟨expected,newPassword,rfl,asked⟩
            · simp [Except.bind,fits,identified state.challenge caller silent mine other]
            · cases mine
              exact absurd (named' _ rfl) other
        · simp [Except.bind,fits]

-- A challenge survives a call it is foreign to just where the store is told who calls.
theorem foreign_survives (consumable : Consumable s.toService w.repository challenge)
    (fails : FailsForeign s ceremony challenge secret w) :
    Consumable s.toService ((ceremony.call s challenge.id secret).run execCeremony w).2.repository challenge ↔
      ∃ expectedIdentity newPassword,ceremony = .completeEmailChange expectedIdentity newPassword ∧
        challenge.identity ≠ expectedIdentity := by
  have asks : ∀ caller,ceremony.asked = some caller → ∃ newPassword,ceremony = .completeEmailChange caller newPassword := by
    intro caller asked
    rcases asked_caller ceremony with silent | ⟨caller',newPassword,rfl,-⟩
    · cases silent.symm.trans asked
    · cases asked
      exact ⟨newPassword,rfl⟩
  rcases call_foreign consumable fails with ⟨kept,caller,asked,other⟩ | ⟨erased,named⟩
  · obtain ⟨newPassword,rfl⟩ := asks caller asked
    rw [kept]
    exact iff_of_true consumable ⟨caller,newPassword,rfl,other⟩
  · refine iff_of_false ?_ ?_
    · intro still
      obtain ⟨state,known,-⟩ := consumable_iff.mp still
      rw [erased] at known
      simp at known
    · rintro ⟨caller,newPassword,rfl,other⟩
      exact other (named caller rfl)

end

section

def demoCeremonies : CeremonyService := ⟨demoService,⟨"phone"⟩⟩

theorem demo_named : (⟨"opv_A"⟩ : VerificationId).empty = false ∧ (⟨"opi_E"⟩ : IdentityId).empty = false := by decide
theorem demo_addressed : demoAddress ≠ [] ∧ demoAddress.length ≤ 512 := by decide
theorem demo_lasting : (0 : Instant) < 86400000 := by decide

def demoChallenge : VerificationChallenge :=
  ⟨⟨"opv_A"⟩,⟨"opi_E"⟩,.changeEmail,.email,demoAddress,BitVec.ofNat 256 7,0,86400000,demo_named,demo_addressed,
    demo_lasting⟩

def demoStored : CeremonyState := { demoState with
  repository := ⟨Std.ExtTreeMap.insert ∅ ⟨"opv_A"⟩ ⟨demoChallenge,0⟩,∅⟩
  sessions := ∅ }

theorem demo_consumable : Consumable demoCeremonies.toService demoStored.repository demoChallenge :=
  consumable_iff.mpr ⟨⟨demoChallenge,0⟩,by simp [demoStored,demoChallenge],rfl,by decide⟩

-- The link of an email change, opened where a signup is verified.
theorem foreign_spent : FailsForeign demoCeremonies .verifyEmail demoChallenge "B" demoStored ∧
    Consumable demoCeremonies.toService demoStored.repository demoChallenge ∧ ¬Consumable demoCeremonies.toService
        ((Ceremony.verifyEmail.call demoCeremonies demoChallenge.id "B").run execCeremony demoStored).2.repository
          demoChallenge := by
  refine ⟨⟨⟨BitVec.ofNat 256 7,by decide⟩,.inl (by decide),_,by decide,.inl rfl⟩,demo_consumable,?_⟩
  intro still
  obtain ⟨state,known,-⟩ := consumable_iff.mp still
  have gone : ((Ceremony.verifyEmail.call demoCeremonies demoChallenge.id "B").run execCeremony
      demoStored).2.repository.challenges[demoChallenge.id]?.isSome = false := by decide
  rw [known] at gone
  cases gone

theorem foreign_survives_told : Consumable demoCeremonies.toService
    (((Ceremony.completeEmailChange ⟨"opi_F"⟩ none).call demoCeremonies demoChallenge.id "B").run execCeremony
      demoStored).2.repository demoChallenge := by
  have fails : FailsForeign demoCeremonies (.completeEmailChange ⟨"opi_F"⟩ none) demoChallenge "B" demoStored :=
    ⟨⟨BitVec.ofNat 256 7,by decide⟩,.inr ⟨_,rfl,by decide⟩,_,by decide,.inr rfl⟩
  exact (foreign_survives demo_consumable fails).mpr ⟨_,_,rfl,by decide⟩

end

end OpenProof.ForeignChallenges
