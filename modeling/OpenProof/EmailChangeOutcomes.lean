import OpenProof.EmailChanges
import OpenProof.ForeignChallenges

namespace OpenProof.EmailChangeOutcomes
open Option
open AtomicPrograms CallEmbeddings Foundation ExternalIdentities IdentityProfiles Accounts AccountWorld AccountService
open CeremonyWorld Ceremonies EmailChangeFaults EmailChanges DirectoryChanges SignupFailures ForeignChallenges
open AtomicPrograms.Prog (check refuseIf)
open Identities

-- A call opens with steps that only look things up: it is refused there, or goes on with what they find.
inductive Opens {α : Type} (answer : Option α) (readings : Nat) (w : Faulty) (rest : α → Faulty → Except Error Unit × Faulty) :
    Except Error Unit × Faulty → Prop where
  | refused {e : Error} {v : Faulty} (missing : answer = none) (books : v.books = w.books) :
      Opens answer readings w rest (.error e,v)
  | opened {a : α} {v : Faulty} (found : answer = some a) (later : Later readings w v) (books : v.books = w.books) :
      Opens answer readings w rest (rest a v)

def redeemed (s : CeremonyService) (expectedIdentity : IdentityId) (id : VerificationId) (secret : Text) (w : Faulty) :
    Option VerificationChallenge :=
  if w.spoils .consume then none
  else (digest s.toService id secret).toOption.bind fun fingerprint =>
    ((w.state.repository.consume id fingerprint (w.state.clock 0) s.policy.maximumAttempts
      (some expectedIdentity)).1.toOption).filter fun challenge => challenge.purpose = .changeEmail

def reserves (s : CeremonyService) (challenge : VerificationChallenge) (w : Faulty) (now : Instant) : Bool :=
  !w.spoils .reservedOwner && w.state.repository.reservedOwner (localRef s.toService challenge.destination) now =
    some challenge.identity

def profiled (identity : IdentityId) (w : Faulty) : Option IdentityProfile :=
  if w.spoils .findProfile || w.spoils .externalIdentitiesOf then none else w.state.profiles[identity]?

def granted (s : CeremonyService) (expectedIdentity : IdentityId) (id : VerificationId) (secret : Text)
    (newPassword : Option Text) (w : Faulty) : Option (VerificationChallenge × IdentityProfile) :=
  if newPassword.any fun password => !acceptedPassword password then none
  else (redeemed s expectedIdentity id secret w).bind fun challenge =>
    if reserves s challenge w (w.state.clock 1) then (profiled challenge.identity w).map fun profile => (challenge,profile)
    else none

def proceed (s : CeremonyService) (identity : IdentityId) (profile : IdentityProfile) (replacement : Text)
    (newPassword : Option Text) (connected : Option ExternalIdentityRef) : CeremonyCall Unit :=
  match connected with
  | none =>
    match newPassword with
    | some password => beginSignIn s identity profile replacement password
    | none => confirmEmail s identity profile replacement
  | some found =>
    if found.subject.value = replacement then confirmEmail s identity profile replacement
    else moveSignIn s identity profile found.subject replacement

def localAccount (s : CeremonyService) (identity : IdentityId) (directory : Directory) : Option ExternalIdentityRef :=
  (directory.externalIdentitiesOf identity).find? fun external => external.providerId = s.localProvider

-- An email change goes all or nothing.
structure AllOrNothing (s : CeremonyService) (expectedIdentity : IdentityId) (id : VerificationId) (w : Faulty)
    (outcome : Except Error Unit × Faulty) : Prop where
  all : outcome.1 = .ok () → ∃ state,w.state.repository.challenges[id]? = some state ∧
    Replaced s expectedIdentity state.challenge.destination w.books outcome.2.books
  nothing : ∀ e,outcome.1 = .error e → outcome.2.books = w.books

def ProceedHarm (s : CeremonyService) (identity : IdentityId) (profile : IdentityProfile) (replacement : Text)
    (newPassword : Option Text) (connected : Option ExternalIdentityRef) (g : Ground) : Prop :=
  match connected with
  | none =>
    match newPassword with
    | some password => BeginHarm s identity profile replacement password g
    | none => ConfirmHarm s identity profile replacement g
  | some found =>
    if found.subject.value = replacement then ConfirmHarm s identity profile replacement g
    else MoveHarm s identity profile found.subject replacement g

def Harm (s : CeremonyService) (expectedIdentity : IdentityId) (id : VerificationId) (secret : Text)
    (newPassword : Option Text) (w : Faulty) : Prop :=
  ∃ challenge profile,granted s expectedIdentity id secret newPassword w = some (challenge,profile) ∧
    ProceedHarm s challenge.identity profile challenge.destination newPassword
      (localAccount s challenge.identity w.state.directory) (ground w 2)

-- What the stores keep up in every state they reach.
structure Formed (w : CeremonyState) : Prop where
  presented : Presented w.directory
  keyed : ∀ (identity : IdentityId) (profile : IdentityProfile),w.profiles[identity]? = some profile →
    profile.identity = identity

section
variable {w v : Faulty} {outcome : Except Error Unit × Faulty}

theorem Opens.map {β : Type} {f : α → β} {rest : β → Faulty → Except Error Unit × Faulty}
    (opens : Opens answer n w (fun a v => rest (f a) v) outcome) : Opens (answer.map f) n w rest outcome := by
  cases opens with
  | refused missing books => exact .refused (by rw [missing,map_none]) books
  | opened found later books => exact .opened (by rw [found,map_some]) later books

theorem Opens.further {more : α → Option β} {later : β → Faulty → Except Error Unit × Faulty}
    (opens : Opens answer n w rest outcome)
    (onward : ∀ a v,answer = some a → Later n w v → v.books = w.books → Opens (more a) m v later (rest a v)) :
    Opens (answer.bind more) (m+n) w later outcome := by
  cases opens with
  | refused missing books => exact .refused (by rw [missing,bind_none]) books
  | @opened a v found since books =>
    have opens := onward a v found since books
    generalize rest a v = outcome at opens
    cases opens with
    | refused missing kept => exact .refused (by rw [found,bind_some,missing]) (kept.trans books)
    | opened found' since' kept => exact .opened (by rw [found,bind_some,found']) (since.trans since') (kept.trans books)

end

section
variable {s : CeremonyService} {w : Faulty} {expectedIdentity : IdentityId} {id : VerificationId} {secret : Text}

theorem consume_opens :
    Opens (redeemed s expectedIdentity id secret w) 1 w (fun challenge v => (f challenge).run falter v)
      (((onward (consume s.toService id secret .changeEmail (some expectedIdentity))).bind f).run falter w) := by
  have shape : onward (consume s.toService id secret .changeEmail (some expectedIdentity)) =
      (check (digest s.toService id secret)).bind fun fingerprint => (perform .now).bind fun now =>
        (perform (.consume id fingerprint now s.policy.maximumAttempts (some expectedIdentity))).bind fun answer =>
          (check answer).bind fun challenge => (refuseIf (challenge.purpose ≠ .changeEmail)
            (genericVerificationFailure "Verification challenge purpose did not match the endpoint.")).bind fun _ =>
              .ret challenge := by
    simp only [onward,consume,Prog.bind_eq,Prog.pure_eq,embed_bind,embed_check,embed_refuseIf,ask]
    rfl
  rw [shape]
  unfold redeemed
  cases digest s.toService id secret with
  | error e => exact .refused (by simp [Except.toOption]) rfl
  | ok fingerprint =>
    have goes : ∀ g : Result VerificationChallenge → CeremonyCall Unit,((perform (.consume id fingerprint (w.state.clock 0)
        s.policy.maximumAttempts (some expectedIdentity))).bind g).run falter (tick w) =
      if w.spoils .consume then (g (.error w.error)).run falter (tick w) else
        (g (w.state.repository.consume id fingerprint (w.state.clock 0) s.policy.maximumAttempts
          (some expectedIdentity)).1).run falter ⟨{ (tick w).state with
            repository := (w.state.repository.consume id fingerprint (w.state.clock 0) s.policy.maximumAttempts
              (some expectedIdentity)).2 },w.trouble⟩ := fun _ => asked_run rfl rfl
    have kept := AccountRepository.consume_reservations id fingerprint (w.state.clock 0) s.policy.maximumAttempts
      (some expectedIdentity) w.state.repository
    rw [check,Prog.ret_bind,Prog.bind_assoc,timed_run,Prog.bind_assoc,goes,Except.toOption,bind_some]
    generalize w.state.repository.consume id fingerprint (w.state.clock 0) s.policy.maximumAttempts
      (some expectedIdentity) = reply at kept ⊢
    obtain ⟨reply,repository⟩ := reply
    cases w.spoils .consume with
    | true => exact .refused rfl rfl
    | false =>
      cases reply with
      | error e => exact .refused rfl rfl
      | ok challenge =>
        have later : Later 1 w ⟨{ (tick w).state with repository := repository },w.trouble⟩ :=
          ⟨rfl,rfl,kept,fun _ => rfl⟩
        by_cases fits : challenge.purpose = .changeEmail
        · simp only [check,Except.toOption,fits,ne_eq,not_true_eq_false,decide_false,Prog.refuseIf_false,Prog.ret_bind,
            Bool.false_eq_true,if_false]
          exact .opened (by simp [fits]) later rfl
        · simp only [check,Except.toOption,fits,ne_eq,not_false_eq_true,decide_true,Prog.refuseIf_true,Prog.ret_bind,
            Bool.false_eq_true,if_false]
          exact .refused (by simp [fits]) rfl

theorem reserve_opens :
    Opens (if reserves s challenge w (w.state.clock 0) then some () else none) 1 w (fun _ v => f.run falter v)
      (((perform .now).bind fun now => (perform (.reservedOwner (localRef s.toService challenge.destination) now)).bind
        fun answer => (check answer).bind fun reservedOwner => (refuseIf (reservedOwner ≠ some challenge.identity)
          (genericVerificationFailure "Email subject reservation is absent or belongs to another identity.")).bind
            fun _ => f).run falter w) := by
  have goes : ∀ g : Result (Option IdentityId) → CeremonyCall Unit,((perform (.reservedOwner
      (localRef s.toService challenge.destination) (w.state.clock 0))).bind g).run falter (tick w) =
    if w.spoils .reservedOwner then (g (.error w.error)).run falter (tick w) else
      (g (.ok (w.state.repository.reservedOwner (localRef s.toService challenge.destination) (w.state.clock 0)))).run falter
        (tick w) := fun _ => asked_run rfl rfl
  rw [timed_run,goes]
  unfold reserves
  cases w.spoils .reservedOwner with
  | true => exact .refused rfl rfl
  | false =>
    by_cases mine : w.state.repository.reservedOwner (localRef s.toService challenge.destination) (w.state.clock 0) =
        some challenge.identity
    · simp only [mine,check,Prog.ret_bind,ne_eq,not_true_eq_false,decide_false,Prog.refuseIf_false,Bool.false_eq_true,
        if_false]
      exact .opened (a := ()) (by simp) tick_later rfl
    · simp only [mine,check,Prog.ret_bind,ne_eq,not_false_eq_true,decide_true,Prog.refuseIf_true,Bool.false_eq_true,
        if_false]
      exact .refused (by simp) rfl

theorem guarded_ok {step : CeremonyCall (Result α)} {undo : CeremonyCall Unit} {f : α → CeremonyCall Unit} {a : α}
    {v : Faulty} (answered : step.run falter w = (.ok (.ok a),v)) :
    ((guarded step undo).bind f).run falter w = (f a).run falter v := by
  have done : ((guarded step undo).run falter w) = (.ok a,v) := by
    unfold guarded
    rw [Prog.bind_eq,Prog.run_bind,answered]
    rfl
  rw [Prog.run_bind_ok (congrArg Prod.fst done),done]

theorem guarded_error {step : CeremonyCall (Result α)} {undo : CeremonyCall Unit} {f : α → CeremonyCall Unit} {e : Error}
    {v : Faulty} {change : (StoreCall → Bool) → Books → Books} (undoes : Undoes undo change)
    (answered : step.run falter w = (.ok (.error e),v)) :
    ((guarded step undo).bind f).run falter w = (.error e,(undo.run falter v).2) := by
  have failed : ((guarded step undo).run falter w) = (.error e,(undo.run falter v).2) := by
    unfold guarded
    rw [Prog.bind_eq,Prog.run_bind,answered]
    exact undo_run undoes
  rw [Prog.run_bind_error (congrArg Prod.fst failed),failed]

theorem profile_opens {f : IdentityProfile → List ExternalIdentityRef → CeremonyCall Unit} :
    Opens (profiled identity w) 0 w
      (fun profile v => (f profile (w.state.directory.externalIdentitiesOf identity)).run falter v)
      (((guarded (onward (requireProfile identity)).attempt (silently (.releaseSubject external identity))).bind fun profile =>
        (guarded (perform (.externalIdentitiesOf identity)) (silently (.releaseSubject external identity))).bind
          fun connections => f profile connections).run falter w) := by
  have found : (onward (requireProfile identity)).run falter w = if w.spoils .findProfile then (.error w.error,w)
      else (w.state.profiles[identity]?.elim (.error (.plain .notFound)) .ok,w) := by
    have shape : onward (requireProfile identity) = (perform (.findProfile identity)).bind fun answer =>
        (check answer).bind fun found => found.elim (.fail (.plain .notFound)) .ret := by
      simp only [onward,requireProfile,Prog.bind_eq,embed_bind,embed_check,ask]
      refine congrArg (Prog.bind _) (funext fun answer => congrArg (Prog.bind _) (funext fun found => ?_))
      cases found <;> rfl
    have goes : ∀ g : Result (Option IdentityProfile) → CeremonyCall IdentityProfile,
        ((perform (.findProfile identity)).bind g).run falter w = if w.spoils .findProfile then
          (g (.error w.error)).run falter w else (g (.ok w.state.profiles[identity]?)).run falter w :=
      fun _ => asked_run rfl rfl
    rw [shape,goes]
    cases w.state.profiles[identity]? <;> rfl
  have listed : (perform (.externalIdentitiesOf identity)).run falter w = if w.spoils .externalIdentitiesOf then
      (.ok (.error w.error),w) else (.ok (.ok (w.state.directory.externalIdentitiesOf identity)),w) := asked_goes rfl rfl
  unfold profiled
  cases unread : w.spoils .findProfile with
  | true =>
    rw [guarded_error release_undoes (by rw [Prog.run_attempt,found,unread]; rfl)]
    exact .refused rfl (release_undoes.books w)
  | false =>
    rw [unread,if_neg Bool.false_ne_true] at found
    cases known : w.state.profiles[identity]? with
    | none =>
      rw [guarded_error release_undoes (by rw [Prog.run_attempt,found,known]; rfl)]
      exact .refused (by simp) (release_undoes.books w)
    | some profile =>
      rw [guarded_ok (by rw [Prog.run_attempt,found,known]; rfl)]
      cases unlisted : w.spoils .externalIdentitiesOf with
      | true =>
        rw [guarded_error release_undoes (by rw [listed,unlisted]; rfl)]
        exact .refused (by simp) (release_undoes.books w)
      | false =>
        rw [guarded_ok (by rw [listed,unlisted]; rfl)]
        exact .opened (by simp) .refl rfl

theorem change_opens {newPassword : Option Text} :
    Opens (granted s expectedIdentity id secret newPassword w) 2 w (fun found v =>
      (proceed s found.1.identity found.2 found.1.destination newPassword
        (localAccount s found.1.identity w.state.directory)).run falter v)
      ((completeEmailChange s expectedIdentity id secret newPassword).run falter w) := by
  have shape : completeEmailChange s expectedIdentity id secret newPassword =
      (refuseIf (newPassword.any fun password => !acceptedPassword password)
        (.because .invalidArgument "The password length is outside the accepted range.")).bind fun _ =>
      (onward (consume s.toService id secret .changeEmail (some expectedIdentity))).bind fun challenge =>
      (perform .now).bind fun now => (perform (.reservedOwner (localRef s.toService challenge.destination) now)).bind
        fun answer => (check answer).bind fun reservedOwner => (refuseIf (reservedOwner ≠ some challenge.identity)
          (genericVerificationFailure "Email subject reservation is absent or belongs to another identity.")).bind fun _ =>
      (guarded (onward (requireProfile challenge.identity)).attempt (silently (.releaseSubject
        (localRef s.toService challenge.destination) challenge.identity))).bind fun profile =>
      (guarded (perform (.externalIdentitiesOf challenge.identity)) (silently (.releaseSubject
        (localRef s.toService challenge.destination) challenge.identity))).bind fun connections =>
      proceed s challenge.identity profile challenge.destination newPassword
        (connections.find? fun external => external.providerId = s.localProvider) := rfl
  rw [shape]
  unfold granted
  cases newPassword.any fun password => !acceptedPassword password with
  | true => exact .refused rfl rfl
  | false =>
    rw [Prog.refuseIf_false,Prog.ret_bind,if_neg Bool.false_ne_true]
    apply consume_opens.further
    intro challenge v _ later books
    have profiles : v.state.profiles = w.state.profiles := congrArg Books.profiles books
    have directory : v.state.directory = w.state.directory := congrArg Books.directory books
    have reserved : reserves s challenge w (w.state.clock 1) = reserves s challenge v (v.state.clock 0) := by
      have same : v.state.repository.reservedOwner (localRef s.toService challenge.destination) (v.state.clock 0) =
          w.state.repository.reservedOwner (localRef s.toService challenge.destination) (w.state.clock 1) := by
        unfold AccountRepository.reservedOwner
        rw [later.reservations,later.clock]
      unfold reserves
      rw [later.spoils,same]
    have known : profiled challenge.identity w = profiled challenge.identity v := by
      simp only [profiled,later.spoils,profiles]
    have further : ∀ found : Bool,(if found then (profiled challenge.identity w).map fun profile => (challenge,profile)
        else none) = (if found then some () else none).bind fun _ => (profiled challenge.identity v).map fun profile =>
          (challenge,profile) := by
      intro found
      rw [known]
      cases found <;> rfl
    rw [reserved,further]
    refine Opens.further (n := 1) (m := 0) reserve_opens ?_
    intro _ u _ later' books'
    have profiles' : u.state.profiles = v.state.profiles := congrArg Books.profiles books'
    have directory' : u.state.directory = v.state.directory := congrArg Books.directory books'
    have known' : profiled challenge.identity v = profiled challenge.identity u := by
      simp only [profiled,later'.spoils,profiles']
    rw [known',← directory,← directory']
    apply Opens.map
    exact profile_opens (f := fun profile connections => proceed s challenge.identity profile challenge.destination
      newPassword (connections.find? fun external => external.providerId = s.localProvider))

theorem redeemed_spec (found : redeemed s expectedIdentity id secret w = some challenge) :
    challenge.identity = expectedIdentity ∧ ∃ state,w.state.repository.challenges[id]? = some state ∧
      state.challenge = challenge := by
  unfold redeemed at found
  split at found
  · cases found
  · obtain ⟨fingerprint,-,filtered⟩ := bind_eq_some_iff.mp found
    have done := (filter_eq_some_iff.mp filtered).1
    have reached := AccountRepository.consume_cases id fingerprint (w.state.clock 0) s.policy.maximumAttempts
      (some expectedIdentity) w.state.repository
    generalize w.state.repository.consume id fingerprint (w.state.clock 0) s.policy.maximumAttempts
      (some expectedIdentity) = reply at reached done
    cases reached with
    | redeemed state known seen right alive left =>
      cases done
      exact ⟨seen.2 _ rfl,state,known,rfl⟩
    | _ => cases done

structure Granted (s : CeremonyService) (expectedIdentity : IdentityId) (id : VerificationId) (w : Faulty)
    (challenge : VerificationChallenge) (profile : IdentityProfile) : Prop where
  mine : challenge.identity = expectedIdentity
  stored : ∃ state,w.state.repository.challenges[id]? = some state ∧ state.challenge = challenge
  reserved : ∃ held,w.state.repository.reservations[(localRef s.toService challenge.destination).key]? = some held ∧
    held.identity = challenge.identity
  known : w.state.profiles[challenge.identity]? = some profile

theorem granted_spec (found : granted s expectedIdentity id secret newPassword w = some (challenge,profile)) :
    Granted s expectedIdentity id w challenge profile := by
  unfold granted at found
  split at found
  · cases found
  · obtain ⟨challenge',found,further⟩ := bind_eq_some_iff.mp found
    split at further
    · rename_i reserved
      obtain ⟨profile',known,same⟩ := map_eq_some_iff.mp further
      cases same
      obtain ⟨mine,stored⟩ := redeemed_spec found
      simp only [reserves,Bool.and_eq_true,decide_eq_true_eq] at reserved
      obtain ⟨held,there,own,-⟩ := AccountRepository.reservedOwner_some reserved.2
      unfold profiled at known
      split at known
      · cases known
      · exact ⟨mine,stored,⟨held,there,own⟩,known⟩
    · cases further

theorem Formed.localAccount_none (formed : Formed w.state)
    (missing : localAccount s identity w.state.directory = none) (key : ExternalKey)
    (here : key.provider = s.localProvider) : w.books.directory.owners[key]? ≠ some identity := by
  intro owned
  obtain ⟨external,listed,rfl⟩ := owned_listed formed.presented owned
  have other := List.find?_eq_none.mp missing external listed
  exact other (decide_eq_true here)

theorem Formed.localAccount_some (formed : Formed w.state)
    (found : localAccount s identity w.state.directory = some external) :
    w.books.directory.owners[(localRef s.toService external.subject.value).key]? = some identity := by
  have listed := listed_owned formed.presented (List.mem_of_find?_eq_some found)
  have here : external.providerId = s.localProvider := by simpa using List.find?_some found
  have same : external.key = (localRef s.toService external.subject.value).key := congrArg₂ ExternalKey.mk here rfl
  rwa [same] at listed

theorem proceed_sound (newPassword : Option Text) (formed : Formed w.state) (holds : Holds s identity replacement w)
    (known : w.books.profiles[identity]? = some profile) :
    Sound s identity replacement w.books ((proceed s identity profile replacement newPassword
      (localAccount s identity w.state.directory)).run falter w) ↔
      ¬ProceedHarm s identity profile replacement newPassword (localAccount s identity w.state.directory) (ground w 0) := by
  have keyed := formed.keyed identity profile known
  cases connected : localAccount s identity w.state.directory with
  | none =>
    have bare := formed.localAccount_none connected
    cases newPassword with
    | some password => exact begin_sound holds keyed bare
    | none => exact confirm_sound holds known keyed fun key here owned => absurd owned (bare key here)
  | some external =>
    have owned := formed.localAccount_some connected
    simp only [proceed,ProceedHarm]
    by_cases same : external.subject.value = replacement
    · rw [same] at owned
      simp only [if_pos same]
      exact confirm_sound holds known keyed fun _ _ _ => owned
    · simp only [if_neg same]
      exact move_sound holds keyed owned fun here => same (congrArg StrongId.value here)

theorem ground_later {v : Faulty} {n : Nat} (later : Later n w v) (books : v.books = w.books) :
    ground v 0 = ground w n := by
  unfold ground
  rw [books,later.spoiling,later.hasher]
  congr 1
  funext k
  exact later.clock k

-- An email change goes all or nothing unless one of its exits finds no way back.
theorem change_whole {newPassword : Option Text} (formed : Formed w.state) :
    AllOrNothing s expectedIdentity id w ((completeEmailChange s expectedIdentity id secret newPassword).run falter w) ↔
      ¬Harm s expectedIdentity id secret newPassword w := by
  have opens : Opens _ 2 w _ ((completeEmailChange s expectedIdentity id secret newPassword).run falter w) := change_opens
  generalize (completeEmailChange s expectedIdentity id secret newPassword).run falter w = outcome at opens
  cases opens with
  | refused missing books =>
    refine iff_of_true ⟨nofun,fun _ _ => books⟩ ?_
    rintro ⟨challenge,profile,found,-⟩
    cases missing.symm.trans found
  | @opened a v found later books =>
    obtain ⟨challenge,profile⟩ := a
    obtain ⟨mine,⟨state,stored,same⟩,reserved,known⟩ := granted_spec found
    have directory : v.state.directory = w.state.directory := congrArg Books.directory books
    have profiles : v.state.profiles = w.state.profiles := congrArg Books.profiles books
    have formed' : Formed v.state := ⟨by rw [directory]; exact formed.presented,by rw [profiles]; exact formed.keyed⟩
    have holds : Holds s challenge.identity challenge.destination v :=
      ⟨by rw [later.reservations]; exact reserved,formed'.presented,challenge.named.2⟩
    have sound := proceed_sound newPassword formed' holds (by rw [books]; exact known)
    rw [directory,books,ground_later later books] at sound
    have harm : Harm s expectedIdentity id secret newPassword w ↔ ProceedHarm s challenge.identity profile
        challenge.destination newPassword (localAccount s challenge.identity w.state.directory) (ground w 2) := by
      constructor
      · rintro ⟨challenge',profile',found',harm⟩
        cases found.symm.trans found'
        exact harm
      · intro harm
        exact ⟨challenge,profile,found,harm⟩
    rw [harm]
    refine Iff.trans ?_ sound
    generalize (proceed s challenge.identity profile challenge.destination newPassword
      (localAccount s challenge.identity w.state.directory)).run falter v = outcome
    constructor
    · rintro ⟨all,nothing⟩
      refine ⟨fun done => ?_,nothing⟩
      obtain ⟨state',stored',replaced⟩ := all done
      cases stored.symm.trans stored'
      rw [mine,← same]
      exact replaced
    · rintro ⟨all,nothing⟩
      refine ⟨fun done => ⟨state,stored,?_⟩,nothing⟩
      rw [same,← mine]
      exact all done

end

section
variable {w : CeremonyState}

end

section

def demoOld : ExternalIdentityRef := localRef demoService "old@mail.org"

def demoProfile : IdentityProfile :=
  ⟨⟨"opi_E"⟩,none,none,some "old@mail.org",true,none,false,none,none,"auto",0,0⟩

def demoMoving : CeremonyState := { demoStored with
  directory := ⟨Std.ExtTreeMap.insert ∅ demoOld.key ⟨"opi_E"⟩,Std.ExtTreeMap.insert ∅ demoOld.key demoOld⟩
  accounts := Std.ExtTreeMap.insert ∅ demoOld.subject ⟨some ⟨"opi_E"⟩,⟨demoPassword⟩⟩
  profiles := Std.ExtTreeMap.insert ∅ ⟨"opi_E"⟩ demoProfile
  repository := { demoStored.repository with
    reservations := Std.ExtTreeMap.insert ∅ (localRef demoService demoAddress).key ⟨⟨"opi_E"⟩,86400000⟩ } }

def demoFaulty (call : StoreCall) : Faulty := ⟨demoMoving,some (call,.plain .unknown)⟩

def demoChange (call : StoreCall) : Except Error Unit × Faulty :=
  (completeEmailChange demoCeremonies ⟨"opi_E"⟩ ⟨"opv_A"⟩ "B" none).run falter (demoFaulty call)

theorem demo_formed : Formed demoMoving := by
  constructor
  · apply empty_presented.insert (rfl : demoOld.key = demoOld.key)
    intro other
    rw [Map.find_insert]
    by_cases same : demoOld.key = other
    · simp [same]
    · simp [same,Ne.symm same,empty]
  · intro identity profile found
    rcases Map.insert_cases found with ⟨same,rfl⟩ | before
    · exact same
    · simp at before

-- The old account cannot be parted with: the call fails, and the sign-in has moved.
theorem change_torn : Formed demoMoving ∧ ¬AllOrNothing demoCeremonies ⟨"opi_E"⟩ ⟨"opv_A"⟩
    (demoFaulty (.detach demoOld.subject)) (demoChange (.detach demoOld.subject)) := by
  refine ⟨demo_formed,fun whole => ?_⟩
  have failed : (demoChange (.detach demoOld.subject)).1 = .error (.plain .unknown) := by decide
  have kept := congrArg (fun books : Books => books.accounts[demoOld.subject]?) (whole.nothing _ failed)
  have moved : (demoChange (.detach demoOld.subject)).2.books.accounts[demoOld.subject]? = none := by decide
  have there : (demoFaulty (.detach demoOld.subject)).books.accounts[demoOld.subject]?.isSome = true := by decide
  rw [← kept,moved] at there
  cases there

theorem demo_granted : granted demoCeremonies ⟨"opi_E"⟩ ⟨"opv_A"⟩ "B" none (demoFaulty .saveProfile) =
    some (demoChallenge,demoProfile) := by decide

theorem demo_connected : localAccount demoCeremonies ⟨"opi_E"⟩ demoMoving.directory = some demoOld := by decide

-- The profile cannot be saved: all that came before is undone.
theorem change_undone : AllOrNothing demoCeremonies ⟨"opi_E"⟩ ⟨"opv_A"⟩ (demoFaulty .saveProfile)
    (demoChange .saveProfile) := by
  refine (change_whole demo_formed).mpr ?_
  rintro ⟨challenge,profile,found,harm⟩
  cases demo_granted.symm.trans found
  have connected : localAccount demoCeremonies demoChallenge.identity (demoFaulty .saveProfile).state.directory =
      some demoOld := demo_connected
  have apart : demoOld.subject.value ≠ demoChallenge.destination := by decide
  simp only [ProceedHarm,connected,if_neg apart] at harm
  have further := harm.2
  rw [if_pos (by decide),if_neg (by decide)] at further
  rcases further with astray | spoilt | invalid | ⟨account,known,unbound⟩
  · exact absurd astray (by unfold Astray; decide)
  · exact absurd spoilt (by decide)
  · exact absurd invalid (by decide)
  · have bound : ((demoFaulty .saveProfile).books.accounts[demoOld.subject]?.any fun account =>
        account.identity.isSome) = true := by decide
    have known : (demoFaulty .saveProfile).books.accounts[demoOld.subject]? = some account := known
    rw [known] at bound
    simp [unbound] at bound

end

end OpenProof.EmailChangeOutcomes
