import OpenProof.Ceremonies
import OpenProof.DirectoryChanges

namespace OpenProof.EmailChangeFaults
open AtomicPrograms CallEmbeddings Foundation ExternalIdentities IdentityProfiles Accounts AccountWorld AccountService
open CeremonyWorld Ceremonies Identities
open AtomicPrograms.Prog (check)

-- The store calls of an email change; those it makes twice differ in their subject.
inductive StoreCall where
  | consume
  | reservedOwner
  | findProfile
  | externalIdentitiesOf
  | enrollPending
  | removePending
  | attach
  | detach (subject : ExternalSubject)
  | rebindSubject (previous : ExternalSubject)
  | saveProfile
  | releaseSubject
  deriving DecidableEq

def store : CeremonyOp → Option StoreCall
  | .account (.consume ..) => some .consume
  | .account (.reservedOwner ..) => some .reservedOwner
  | .account (.findProfile _) => some .findProfile
  | .account (.externalIdentitiesOf _) => some .externalIdentitiesOf
  | .account (.enrollPending ..) => some .enrollPending
  | .account (.removePending ..) => some .removePending
  | .account (.attach _) => some .attach
  | .account (.detach external _) => some (.detach external.subject)
  | .rebindSubject _ previous _ => some (.rebindSubject previous)
  | .account (.saveProfile _) => some .saveProfile
  | .account (.releaseSubject ..) => some .releaseSubject
  | _ => none

def refusal : (op : CeremonyOp) → Error → Option op.Ret
  | .account (.consume ..),e => some (.error e)
  | .account (.reservedOwner ..),e => some (.error e)
  | .account (.findProfile _),e => some (.error e)
  | .account (.externalIdentitiesOf _),e => some (.error e)
  | .account (.enrollPending ..),e => some (.error e)
  | .account (.removePending ..),e => some (.error e)
  | .account (.attach _),e => some (.error e)
  | .account (.detach ..),e => some (.error e)
  | .rebindSubject ..,e => some (.error e)
  | .account (.saveProfile _),e => some (.error e)
  | .account (.releaseSubject ..),e => some (.error e)
  | .account _,_ => none
  | .changePassword ..,_ => none
  | .revokeAll ..,_ => none

-- One store call, if any, is answered with an error and does nothing.
structure Faulty where
  state : CeremonyState
  trouble : Option (StoreCall × Error)

def Faulty.spoils (w : Faulty) (call : StoreCall) : Bool := w.trouble.any fun trouble => trouble.1 = call

def Faulty.error (w : Faulty) : Error := (w.trouble.map Prod.snd).getD (.plain .unknown)

def falter (op : CeremonyOp) (w : Faulty) : op.Ret × Faulty :=
  match w.trouble.bind fun trouble => if store op = some trouble.1 then refusal op trouble.2 else none with
  | some answer => (answer,w)
  | none => ((execCeremony op w.state).1,⟨(execCeremony op w.state).2,w.trouble⟩)

structure Books where
  directory : Directory
  accounts : LocalAccounts
  profiles : ProfileStore

def Faulty.books (w : Faulty) : Books := ⟨w.state.directory,w.state.accounts,w.state.profiles⟩

structure Later (readings : Nat) (w v : Faulty) : Prop where
  trouble : v.trouble = w.trouble
  hasher : v.state.hasher = w.state.hasher
  reservations : v.state.repository.reservations = w.state.repository.reservations
  clock : ∀ n,v.state.clock n = w.state.clock (n+readings)

section

theorem Later.refl : Later 0 w w := ⟨rfl,rfl,rfl,fun _ => rfl⟩

theorem Later.trans (one : Later n w v) (two : Later m v u) : Later (m+n) w u := by
  refine ⟨two.trouble.trans one.trouble,two.hasher.trans one.hasher,two.reservations.trans one.reservations,?_⟩
  intro k
  rw [two.clock,one.clock,Nat.add_assoc]

theorem Later.spoils (later : Later n w v) : v.spoils call = w.spoils call := by
  simp only [Faulty.spoils,later.trouble]

theorem Later.spoiling (later : Later n w v) : v.spoils = w.spoils := funext fun _ => later.spoils

theorem falter_spared (spared : ∀ call,store op = some call → w.spoils call = false) :
    falter op w = ((execCeremony op w.state).1,⟨(execCeremony op w.state).2,w.trouble⟩) := by
  have calm : (w.trouble.bind fun trouble => if store op = some trouble.1 then refusal op trouble.2 else none) = none := by
    apply Option.bind_eq_none_iff.mpr
    intro trouble same
    apply if_neg
    intro strikes
    have spoilt : w.spoils trouble.1 = true := by simp [Faulty.spoils,same]
    cases (spared _ strikes).symm.trans spoilt
  unfold falter
  rw [calm]

theorem falter_eq (named : store op = some call) (refuses : refusal op w.error = some answer) :
    falter op w = if w.spoils call then (answer,w)
      else ((execCeremony op w.state).1,⟨(execCeremony op w.state).2,w.trouble⟩) := by
  cases spoilt : w.spoils call with
  | true =>
    obtain ⟨trouble,same,strikes⟩ := (Option.any_eq_true _ _).mp spoilt
    have strikes : trouble.1 = call := by simpa using strikes
    have known : w.error = trouble.2 := by simp [Faulty.error,same]
    unfold falter
    rw [same,Option.bind_some,if_pos (by rw [named,strikes]),← known,refuses]
    rfl
  | false =>
    apply falter_spared
    intro other same
    cases named.symm.trans same
    exact spoilt

theorem falter_trouble : (falter op w).2.trouble = w.trouble := by
  unfold falter
  split <;> rfl

end

-- A way back, which nobody asks whether it went well: what it makes of the books.
structure Undoes (undo : CeremonyCall Unit) (change : (StoreCall → Bool) → Books → Books) : Prop where
  ends : ∀ w,(undo.run falter w).1 = .ok ()
  books : ∀ w,(undo.run falter w).2.books = change w.spoils w.books
  trouble : ∀ w,(undo.run falter w).2.trouble = w.trouble

def sparing (spoilt : Bool) (change : Books → Books) (books : Books) : Books := if spoilt then books else change books

def removing (identity : IdentityId) (subject : ExternalSubject) (spoils : StoreCall → Bool) : Books → Books :=
  sparing (spoils .removePending) fun books =>
    { books with accounts := (books.accounts.removePending identity subject).2 }

def detaching (external : ExternalIdentityRef) (identity : IdentityId) (spoils : StoreCall → Bool) : Books → Books :=
  sparing (spoils (.detach external.subject)) fun books =>
    { books with directory := (books.directory.detach external identity).2 }

def rebinding (identity : IdentityId) (source target : ExternalSubject) (spoils : StoreCall → Bool) : Books → Books :=
  sparing (spoils (.rebindSubject source)) fun books =>
    { books with accounts := (books.accounts.rebindSubject identity source target).2 }

section

theorem Undoes.bind (one : Undoes undo change) (two : Undoes further more) :
    Undoes (undo.bind fun _ => further) fun spoils books => more spoils (change spoils books) := by
  have onward : ∀ w,(undo.bind fun _ => further).run falter w = further.run falter (undo.run falter w).2 :=
    fun w => Prog.run_bind_ok (one.ends w)
  constructor
  · intro w
    rw [onward]
    exact two.ends _
  · intro w
    have spoils : (undo.run falter w).2.spoils = w.spoils := by
      funext call
      simp only [Faulty.spoils,one.trouble]
    rw [onward,two.books,one.books,spoils]
  · intro w
    rw [onward,two.trouble,one.trouble]

theorem falter_books {op : CeremonyOp} {call : StoreCall} {answer : op.Ret} (change : Books → Books)
    (named : store op = some call) (refuses : refusal op w.error = some answer)
    (does : (⟨(execCeremony op w.state).2,w.trouble⟩ : Faulty).books = change w.books) :
    (falter op w).2.books = sparing (w.spoils call) change w.books := by
  rw [falter_eq named refuses]
  cases w.spoils call with
  | true => rfl
  | false => exact does

theorem release_undoes : Undoes (silently (.releaseSubject external identity)) fun _ books => books where
  ends _ := rfl
  books w := by
    have same : (falter (.account (.releaseSubject external identity)) w).2.books =
        sparing (w.spoils .releaseSubject) id w.books := falter_books id rfl rfl rfl
    refine Eq.trans same ?_
    unfold sparing
    split <;> rfl
  trouble _ := falter_trouble

theorem remove_undoes : Undoes (silently (.removePending identity subject)) (removing identity subject) where
  ends _ := rfl
  books _ := falter_books _ rfl rfl rfl
  trouble _ := falter_trouble

theorem detach_undoes : Undoes (silently (.detach external identity)) (detaching external identity) where
  ends _ := rfl
  books _ := falter_books _ rfl rfl rfl
  trouble _ := falter_trouble

theorem rebind_undoes : Undoes (rebindBack identity source target) (rebinding identity source target) where
  ends _ := rfl
  books _ := falter_books _ rfl rfl rfl
  trouble _ := falter_trouble

end

def attachable (identity : IdentityId) (external : ExternalIdentityRef) (clock : Nat → Instant) (directory : Directory) :
    Bool :=
  (linked identity external clock).toOption.isSome && (directory.owners[external.key]?.all fun owner => owner = identity)

def connect (identity : IdentityId) (external : ExternalIdentityRef) (directory : Directory) : Directory :=
  if directory.owners[external.key]? = some identity then directory
  else ⟨directory.owners.insert external.key identity,directory.presentations.insert external.key external⟩

section

theorem attach_cases (directory : Directory) (complete : link.state = .linked) :
    (directory.owners[link.external.key]?.all fun owner => owner = link.owner) = true ∧
        directory.attach link = (.ok (),connect link.owner link.external directory) ∨
      (directory.owners[link.external.key]?.all fun owner => owner = link.owner) = false ∧
        ∃ e,directory.attach link = (.error e,directory) := by
  unfold Directory.attach connect
  rw [if_neg (not_not.mpr complete)]
  cases found : directory.owners[link.external.key]? with
  | none => exact .inl ⟨rfl,by simp⟩
  | some owner =>
    by_cases mine : owner = link.owner
    · exact .inl (by simp [mine])
    · exact .inr (by simp [mine])

end

def tick (w : Faulty) : Faulty := ⟨{ w.state with clock := tail w.state.clock },w.trouble⟩

structure AttachGoes (identity : IdentityId) (external : ExternalIdentityRef) (w : Faulty)
    (outcome : Except Error Unit × Faulty) : Prop where
  done : attachable identity external w.state.clock w.state.directory = true → w.spoils .attach = false →
    outcome.1 = .ok () ∧ Later 4 w outcome.2 ∧
      outcome.2.books = { w.books with directory := connect identity external w.state.directory }
  refused : ¬(attachable identity external w.state.clock w.state.directory = true ∧ w.spoils .attach = false) →
    (∃ e,outcome.1 = .error e) ∧ outcome.2.books = w.books ∧ outcome.2.trouble = w.trouble

section

theorem falter_now : falter (.account .now) w = (w.state.clock 0,tick w) := falter_spared nofun

theorem timed_run {f : Instant → CeremonyCall α} :
    ((perform .now).bind f).run falter w = (f (w.state.clock 0)).run falter (tick w) := by
  rw [perform,Prog.run_perform_bind,falter_now]

theorem asked_run {op : CeremonyOp} {call : StoreCall} {answer : op.Ret} {f : op.Ret → CeremonyCall α}
    (named : store op = some call) (refuses : refusal op w.error = some answer) :
    ((Prog.perform op).bind f).run falter w = if w.spoils call then (f answer).run falter w
      else (f (execCeremony op w.state).1).run falter ⟨(execCeremony op w.state).2,w.trouble⟩ := by
  rw [Prog.run_perform_bind,falter_eq named refuses]
  split <;> rfl

theorem tick_later : Later 1 w (tick w) := ⟨rfl,rfl,rfl,fun _ => rfl⟩

theorem timed_cases {step : Instant → Result α} {φ : Except Error β × Faulty → Prop}
    (stops : ∀ e,step (w.state.clock 0) = .error e → φ (.error e,tick w))
    (goes : ∀ a,step (w.state.clock 0) = .ok a → φ ((f a).run falter (tick w))) :
    φ (((perform .now).bind fun now => (check (step now)).bind f).run falter w) := by
  rw [timed_run]
  cases taken : step (w.state.clock 0) with
  | ok a => exact goes a taken
  | error e => exact stops e taken

theorem AttachGoes.unlinked (failed : linked identity external w.state.clock = .error e) (books : v.books = w.books)
    (trouble : v.trouble = w.trouble) : AttachGoes identity external w (.error e,v) := by
  refine ⟨fun able => ?_,fun _ => ⟨⟨e,rfl⟩,books,trouble⟩⟩
  simp [attachable,failed,Except.toOption] at able

theorem AttachGoes.linked (done : linked identity external w.state.clock = .ok link) (later : Later 4 w v)
    (books : v.books = w.books) : AttachGoes identity external w (falter (.account (.attach link)) v) := by
  obtain ⟨rfl,rfl,complete⟩ := linked_spec done
  have same : v.state.directory = w.state.directory := congrArg Books.directory books
  have able : attachable link.owner link.external w.state.clock w.state.directory =
      (w.state.directory.owners[link.external.key]?.all fun owner => owner = link.owner) := by
    simp [attachable,done,Except.toOption]
  have goes : falter (.account (.attach link)) v = if v.spoils .attach then (.error v.error,v) else
      ((v.state.directory.attach link).1,⟨{ v.state with directory := (v.state.directory.attach link).2 },v.trouble⟩) :=
    falter_eq rfl rfl
  rw [goes,later.spoils,same]
  cases spoilt : w.spoils .attach with
  | true => exact ⟨fun _ calm => absurd (spoilt.symm.trans calm) Bool.noConfusion,fun _ => ⟨⟨_,rfl⟩,books,later.trouble⟩⟩
  | false =>
    rw [if_neg Bool.false_ne_true]
    rcases attach_cases w.state.directory complete with ⟨free,goes⟩ | ⟨taken,e,goes⟩
    · rw [goes]
      refine ⟨fun _ _ => ⟨rfl,⟨later.trouble,later.hasher,later.reservations,later.clock⟩,?_⟩,fun unable => ?_⟩
      · exact congrArg (fun books : Books => { books with directory := connect link.owner link.external w.state.directory })
          books
      · exact absurd ⟨able.trans free,spoilt⟩ unable
    · rw [goes]
      refine ⟨fun yes _ => ?_,fun _ => ⟨⟨e,rfl⟩,?_,later.trouble⟩⟩
      · cases (able.trans taken).symm.trans yes
      · rw [← same]
        exact books

theorem attach_goes : AttachGoes identity external w ((onward (attachVerified identity external)).run falter w) := by
  have shape : onward (attachVerified identity external) = (perform .now).bind fun now =>
      (check (IdentityLink.request identity external now 300000)).bind fun link =>
        (perform .now).bind fun now => (check (link.requireVerification now)).bind fun link =>
          (perform .now).bind fun now => (check (link.markVerified now)).bind fun link =>
            (perform .now).bind fun now => (check (link.complete now)).bind fun link =>
              (perform (.attach link)).bind fun done => check done := by
    simp only [onward,attachVerified,Prog.bind_eq,embed_bind,embed_check,ask]
    rfl
  rw [shape]
  -- At each reading the link goes on or is refused; a refused one leaves the books as they are.
  refine timed_cases (fun e (failed : _ = _) => ?_) fun link requested => ?_
  · exact .unlinked (by simp [AccountService.linked,failed,bind,Except.bind]) rfl rfl
  · refine timed_cases (fun e failed => ?_) fun link' required => ?_
    · have failed : link.requireVerification (w.state.clock 1) = .error e := failed
      exact .unlinked (by simp [AccountService.linked,requested,failed,bind,Except.bind]) rfl rfl
    · have required : link.requireVerification (w.state.clock 1) = .ok link' := required
      refine timed_cases (fun e failed => ?_) fun link'' verified => ?_
      · have failed : link'.markVerified (w.state.clock 2) = .error e := failed
        exact .unlinked (by simp [AccountService.linked,requested,required,failed,bind,Except.bind]) rfl rfl
      · have verified : link'.markVerified (w.state.clock 2) = .ok link'' := verified
        refine timed_cases (fun e failed => ?_) fun whole completed => ?_
        · have failed : link''.complete (w.state.clock 3) = .error e := failed
          exact .unlinked (by simp [AccountService.linked,requested,required,verified,failed,bind,Except.bind]) rfl rfl
        · have completed : link''.complete (w.state.clock 3) = .ok whole := completed
          have linked : AccountService.linked identity external w.state.clock = .ok whole := by
            simp [AccountService.linked,requested,required,verified,completed,bind,Except.bind]
          have goes := AttachGoes.linked (v:=tick (tick (tick (tick w)))) linked
            (((tick_later.trans tick_later).trans tick_later).trans tick_later) rfl
          rw [perform,Prog.run_perform_bind,Prog.run_check]
          exact goes

end

-- A step of the change: what it comes to when it can be taken, and when it cannot.
structure Goes (able : Prop) (readings : Nat) (effect : Books → Books) (change : (StoreCall → Bool) → Books → Books)
    (w : Faulty) (outcome : Except Error Unit × Faulty) : Prop where
  done : able → outcome.1 = .ok () ∧ Later readings w outcome.2 ∧ outcome.2.books = effect w.books
  refused : ¬able → (∃ e,outcome.1 = .error e) ∧ outcome.2.books = change w.spoils w.books

def settles (profile : IdentityProfile) (replacement : Text) (now : Instant) : Bool :=
  profile.updatedAt ≤ now && validText (some replacement) 320

def confirmed (profile : IdentityProfile) (replacement : Text) (now : Instant) : IdentityProfile :=
  { profile with email := some replacement, emailVerified := true, updatedAt := now }

section
variable {able : Prop}

theorem undo_run (undoes : Undoes undo change) :
    (undo.bind fun _ => (.fail e : CeremonyCall α)).run falter w = (.error e,(undo.run falter w).2) :=
  Prog.run_bind_ok (undoes.ends w)

theorem guarded_goes (undoes : Undoes undo change) (answered : (step.run falter w).1 = .ok answer)
    (done : able → answer = .ok () ∧ Later n w (step.run falter w).2 ∧ (step.run falter w).2.books = effect w.books)
    (refused : ¬able → (∃ e,answer = .error e) ∧ (step.run falter w).2.books = w.books ∧
      (step.run falter w).2.trouble = w.trouble) :
    Goes able n effect change w ((guarded step undo).run falter w) := by
  have goes : (guarded step undo).run falter w = (orElse answer undo).run falter (step.run falter w).2 :=
    Prog.run_bind_ok answered
  rw [goes]
  constructor
  · intro yes
    obtain ⟨rfl,later,books⟩ := done yes
    exact ⟨rfl,later,books⟩
  · intro no
    obtain ⟨⟨e,rfl⟩,books,trouble⟩ := refused no
    have spoils : (step.run falter w).2.spoils = w.spoils := by
      funext call
      simp only [Faulty.spoils,trouble]
    rw [orElse,undo_run undoes]
    exact ⟨⟨e,rfl⟩,by rw [undoes.books,books,spoils]⟩

theorem asked_goes {op : CeremonyOp} {call : StoreCall} {answer : op.Ret} (named : store op = some call)
    (refuses : refusal op w.error = some answer) : (Prog.perform op : CeremonyCall op.Ret).run falter w =
      if w.spoils call then (.ok answer,w)
      else (.ok (execCeremony op w.state).1,⟨(execCeremony op w.state).2,w.trouble⟩) := by
  rw [Prog.perform,Prog.run,Prog.run,falter_eq named refuses]
  split <;> rfl

theorem store_goes {call : StoreCall}
    (undoes : Undoes undo change) (goes : step.run falter w = if w.spoils call then (.ok (.error w.error),w)
      else (.ok answer,⟨state,w.trouble⟩)) (later : Later 0 w ⟨state,w.trouble⟩)
    (takes : able → answer = .ok () ∧ (⟨state,w.trouble⟩ : Faulty).books = effect w.books)
    (refuses : ¬able → (∃ e,answer = .error e) ∧ (⟨state,w.trouble⟩ : Faulty).books = w.books) :
    Goes (able ∧ w.spoils call = false) 0 effect change w ((guarded step undo).run falter w) := by
  cases spoilt : w.spoils call with
  | true =>
    rw [spoilt,if_pos rfl] at goes
    apply guarded_goes undoes (congrArg Prod.fst goes)
    · exact fun both => Bool.noConfusion both.2
    · intro _
      rw [goes]
      exact ⟨⟨_,rfl⟩,rfl,rfl⟩
  | false =>
    rw [spoilt,if_neg Bool.false_ne_true] at goes
    apply guarded_goes undoes (congrArg Prod.fst goes)
    · rintro ⟨yes,-⟩
      rw [goes]
      exact ⟨(takes yes).1,later,(takes yes).2⟩
    · intro no
      rw [goes]
      obtain ⟨failed,books⟩ := refuses fun yes => no ⟨yes,rfl⟩
      exact ⟨failed,books,rfl⟩

theorem attach_guarded (undoes : Undoes undo change) :
    Goes (attachable identity external w.state.clock w.state.directory = true ∧ w.spoils .attach = false) 4
      (fun books => { books with directory := connect identity external books.directory }) change w
        ((guarded (onward (attachVerified identity external)).attempt undo).run falter w) := by
  have goes : AttachGoes identity external w ((onward (attachVerified identity external)).run falter w) := attach_goes
  apply guarded_goes undoes (congrArg Prod.fst Prog.run_attempt)
  · intro able
    rw [Prog.run_attempt]
    exact goes.done able.1 able.2
  · intro unable
    rw [Prog.run_attempt]
    exact goes.refused unable

theorem settle_goes (undoes : Undoes undo change) :
    Goes (settles profile replacement (w.state.clock 0) = true ∧ w.spoils .saveProfile = false) 1
      (fun books => { books with profiles := books.profiles.save (confirmed profile replacement (w.state.clock 0)) }) change
        w ((settle profile replacement undo).run falter w) := by
  have ticked : (tick w).spoils = w.spoils := rfl
  have begins : (settle profile replacement undo).run falter w =
      ((orElse (profile.setEmail replacement true (w.state.clock 0)) undo).bind fun verified =>
        guarded (perform (.saveProfile verified)) undo).run falter (tick w) := by
    unfold settle
    simp only [Prog.bind_eq]
    rw [timed_run]
  rw [begins]
  rcases profile.setEmail_cases replacement true (w.state.clock 0) with ⟨⟨forward,lettered⟩,set⟩ | ⟨unable,e,set⟩
  · have able : settles profile replacement (w.state.clock 0) = true := by simp [settles,forward,lettered]
    have goes : (perform (.saveProfile (confirmed profile replacement (w.state.clock 0)))).run falter (tick w) =
        if (tick w).spoils .saveProfile then (.ok (.error (tick w).error),tick w)
        else (.ok (.ok ()),⟨{ (tick w).state with
          profiles := w.books.profiles.save (confirmed profile replacement (w.state.clock 0)) },w.trouble⟩) :=
      asked_goes rfl rfl
    have saved : Goes (True ∧ w.spoils .saveProfile = false) 0
        (fun books => { books with profiles := books.profiles.save (confirmed profile replacement (w.state.clock 0)) }) change
          (tick w) ((guarded (perform (.saveProfile (confirmed profile replacement (w.state.clock 0)))) undo).run falter
            (tick w)) :=
      store_goes undoes goes ⟨rfl,rfl,rfl,fun _ => rfl⟩ (fun _ => ⟨rfl,rfl⟩) fun no => absurd trivial no
    rw [set]
    constructor
    · rintro ⟨-,calm⟩
      obtain ⟨done,later,books⟩ := saved.done ⟨trivial,calm⟩
      exact ⟨done,tick_later.trans later,books⟩
    · intro unable
      exact saved.refused fun calm => unable ⟨able,calm.2⟩
  · have unable : ¬(settles profile replacement (w.state.clock 0) = true ∧ w.spoils .saveProfile = false) := by
      rintro ⟨able,-⟩
      exact unable (by simpa [settles] using able)
    have turned : ((orElse (.error e) undo).bind fun verified =>
        guarded (perform (.saveProfile verified)) undo).run falter (tick w) = (.error e,(undo.run falter (tick w)).2) := by
      rw [orElse,Prog.bind_assoc]
      exact undo_run undoes
    rw [set,turned]
    exact ⟨fun able => absurd able unable,fun _ => ⟨⟨e,rfl⟩,undoes.books (tick w)⟩⟩

theorem release_goes (reserved : ∃ held,w.state.repository.reservations[external.key]? = some held ∧
    held.identity = identity) :
    (((perform (.releaseSubject external identity)).bind fun released => check released).run falter w).2.books = w.books ∧
      if w.spoils .releaseSubject then ∃ e,
        (((perform (.releaseSubject external identity)).bind fun released => check released).run falter w).1 = .error e
      else (((perform (.releaseSubject external identity)).bind fun released => check released).run falter w).1 = .ok () := by
  obtain ⟨held,reserved,own⟩ := reserved
  have goes : falter (.account (.releaseSubject external identity)) w = if w.spoils .releaseSubject then (.error w.error,w)
      else ((w.state.repository.releaseSubject external identity).1,⟨{ w.state with
        repository := (w.state.repository.releaseSubject external identity).2 },w.trouble⟩) := falter_eq rfl rfl
  have mine : (w.state.repository.releaseSubject external identity).1 = .ok () := by
    unfold AccountRepository.releaseSubject
    rw [reserved]
    simp [own]
  rw [perform,Prog.run_perform_bind,Prog.run_check,goes]
  cases w.spoils .releaseSubject with
  | true => exact ⟨rfl,_,rfl⟩
  | false => exact ⟨rfl,mine⟩

end

end OpenProof.EmailChangeFaults
