import OpenProof.SignupSteps

namespace OpenProof.SignupFailures
open CallTraces Foundation ExternalIdentities AccountWorld AccountService
open SignupSteps Identities

-- A signup that fails before it has stored a challenge leaves nothing behind, unless a
-- new identity was enrolled and its profile or its challenge could not be made.
theorem failed_signup_undone (s : Service) (email password : Text) (displayName : Option Text) (w : AccountState) :
    (∀ e,((signup s email password displayName).run exec w).1 = .error e →
      stores (exchanges exec (signup s email password displayName) w) = false →
        Cleared s email w ((signup s email password displayName).run exec w).2) ↔
      ¬Strands s email password displayName w := by
  have goes : Alone exec (signup s email password displayName) w _ := signup_alone
  constructor
  · intro clears strands
    rcases goes with ⟨reaches,-⟩ | ⟨-,quiet,⟨e,failed⟩,⟨-,normalized,account,normal,free,left⟩ | ⟨apart,-⟩⟩
    · rcases reaches with ⟨normalized,existing,attached⟩ | ⟨-,finishes⟩
      · obtain ⟨⟨other,identity,entered⟩,-⟩ := strands
        cases attached.normal.symm.trans entered.normal
        cases attached.screened.unique entered.screened
      · exact strands.2 finishes
    · cases free.symm.trans ((clears e failed quiet).account normalized account normal left)
    · exact apart strands
  · intro apart e failed quiet
    rcases goes with ⟨-,stored,-⟩ | ⟨-,-,-,⟨strands,-⟩ | ⟨-,undone⟩⟩
    · cases quiet.symm.trans stored
    · exact absurd strands apart
    · exact undone.cleared

section

def demoPolicy : AccountPolicy :=
  ⟨86400000,600000,3600000,5,by decide,by decide,by decide⟩

def demoService : Service := ⟨⟨"org"⟩,⟨"local"⟩,fun text => .ok (BitVec.ofNat 256 text.length),demoPolicy⟩

def demoState : AccountState where
  clock _ := 0
  randomness n _ := .ok [UInt8.ofNat (65+n)]
  hasher password := .ok ⟨password⟩
  delivery _ := .ok ()
  directory := ⟨∅,∅⟩
  identities := ∅
  profiles := ∅
  repository := ⟨∅,∅⟩
  accounts := ∅

def demoEmail : Text := "Ann@mail.org"
def demoAddress : Text := "ann@mail.org"
def demoPassword : Text := "password"

def demoFailing : AccountCall IdentityId := signup demoService demoEmail demoPassword (some "Ann\n")

theorem signup_stranded : (∃ e,(demoFailing.run exec demoState).1 = .error e) ∧
    stores (exchanges exec demoFailing demoState) = false ∧
      demoState.repository.reservations[(localRef demoService demoAddress).key]? = none ∧
      (demoFailing.run exec demoState).2.repository.reservations[(localRef demoService demoAddress).key]? =
        some ⟨⟨"opi_A"⟩,86400000⟩ ∧ demoState.accounts[(⟨demoAddress⟩ : ExternalSubject)]? = none ∧
      (demoFailing.run exec demoState).2.accounts[(⟨demoAddress⟩ : ExternalSubject)]? =
        some ⟨some ⟨"opi_A"⟩,⟨demoPassword⟩⟩ ∧ demoState.identities[(⟨"opi_A"⟩ : IdentityId)]? = none ∧
      (demoFailing.run exec demoState).2.identities[(⟨"opi_A"⟩ : IdentityId)]? =
        some ⟨⟨"org"⟩,⟨⟨"opi_A"⟩,.human,.deactivated,0⟩⟩ := by
  refine ⟨⟨.because .invalidArgument "Profile fields are invalid.",?_⟩,?_⟩ <;> decide

end

end OpenProof.SignupFailures
