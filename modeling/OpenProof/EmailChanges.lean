import OpenProof.EmailChangeFaults

namespace OpenProof.EmailChanges
open AtomicPrograms Foundation ExternalIdentities IdentityProfiles Accounts AccountService
open CeremonyWorld Ceremonies EmailChangeFaults DirectoryChanges Identities
open AtomicPrograms.Prog (check)

section
variable {accounts : LocalAccounts} {account : LocalAccount} {directory : Directory} {identity : IdentityId}
  {subject old new : ExternalSubject} {external : ExternalIdentityRef} {hash : PasswordHash}

theorem enrolled_removed (free : accounts[subject]? = none) :
    (LocalAccounts.removePending identity subject (accounts.insert subject ⟨some identity,hash⟩)).2 = accounts := by
  unfold LocalAccounts.removePending
  simp only [Map.find_insert,if_true,ne_eq,not_true_eq_false,if_false]
  apply Std.ExtTreeMap.ext_getElem?
  intro other
  by_cases here : subject = other
  · subst here
    simp [free]
  · simp [here]

theorem enrolled_changes (free : accounts[subject]? = none) : accounts.insert subject account ≠ accounts := by
  intro same
  have found := congrArg (fun stored : LocalAccounts => stored[subject]?) same
  simp [free] at found

theorem connect_owned (owned : directory.owners[external.key]? = some identity) :
    connect identity external directory = directory := if_pos owned

theorem connect_free (free : directory.owners[external.key]? = none) : connect identity external directory =
    ⟨directory.owners.insert external.key identity,directory.presentations.insert external.key external⟩ := by
  simp [connect,free]

theorem connect_changes (free : directory.owners[external.key]? = none) :
    connect identity external directory ≠ directory := by
  intro same
  have found := congrArg (fun stored : Directory => stored.owners[external.key]?) same
  rw [connect_free free] at found
  simp [free] at found

theorem detach_changes (owned : directory.owners[external.key]? = some identity) :
    (directory.detach external identity).2 ≠ directory := by
  intro same
  have found := congrArg (fun stored : Directory => stored.owners[external.key]?) same
  unfold Directory.detach at found
  rw [owned] at found
  simp at found

theorem connect_detached (presented : Presented directory) (free : directory.owners[external.key]? = none) :
    ((connect identity external directory).detach external identity).2 = directory := by
  have unshown : directory.presentations[external.key]? = none := by
    rw [← Option.not_isSome_iff_eq_none,presented.shown external.key,free]
    exact Bool.false_ne_true
  obtain ⟨owners,presentations⟩ := directory
  rw [connect_free free]
  unfold Directory.detach
  simp only [Map.find_insert,if_true,ne_eq,not_true_eq_false,if_false]
  congr 1 <;>
  · apply Std.ExtTreeMap.ext_getElem?
    intro other
    by_cases here : external.key = other
    · subst here
      simp_all
    · simp [here]

theorem connect_owners (key : ExternalKey) (able : (directory.owners[external.key]?.all fun owner => owner = identity) = true) :
    (connect identity external directory).owners[key]? =
      if external.key = key then some identity else directory.owners[key]? := by
  cases owned : directory.owners[external.key]? with
  | none => rw [connect_free owned,Map.find_insert]
  | some owner =>
    have mine : owner = identity := by simpa [owned] using able
    subst mine
    rw [connect_owned owned]
    split
    · rename_i here
      rw [← here,owned]
    · rfl

theorem detach_owners (key : ExternalKey) (owned : directory.owners[external.key]? = some identity) :
    (directory.detach external identity).2.owners[key]? = if external.key = key then none else directory.owners[key]? := by
  simp [Directory.detach,owned,Map.find_erase]

theorem removed_books (free : books.accounts[subject]? = none) :
    removing identity subject spoils { books with accounts := books.accounts.insert subject ⟨some identity,hash⟩ } = books ↔
      ¬spoils .removePending = true := by
  unfold removing sparing
  cases spoils .removePending with
  | true =>
    rw [if_pos rfl]
    refine iff_of_false (fun same => ?_) (fun spared => spared rfl)
    exact enrolled_changes free (congrArg Books.accounts same)
  | false =>
    rw [if_neg Bool.false_ne_true]
    refine iff_of_true ?_ Bool.false_ne_true
    simp only [enrolled_removed free]

theorem withdrawn_books (free : books.accounts[external.subject]? = none) (presented : Presented books.directory)
    (vacant : books.directory.owners[external.key]? = none) :
    removing identity external.subject spoils (detaching external identity spoils ⟨connect identity external books.directory,
      books.accounts.insert external.subject ⟨some identity,hash⟩,books.profiles⟩) = books ↔
      ¬(spoils (.detach external.subject) = true ∨ spoils .removePending = true) := by
  unfold detaching sparing
  cases spoils (.detach external.subject) with
  | true =>
    rw [if_pos rfl]
    refine iff_of_false (fun same => ?_) (fun spared => spared (.inl rfl))
    have kept := congrArg Books.directory same
    unfold removing sparing at kept
    exact connect_changes vacant (by split at kept <;> exact kept)
  | false =>
    have removed : removing identity external.subject spoils { books with
        accounts := books.accounts.insert external.subject ⟨some identity,hash⟩ } = books ↔ _ := removed_books free
    rw [if_neg Bool.false_ne_true]
    simp only [connect_detached presented vacant,removed,Bool.false_eq_true,false_or]

def rebinds (identity : IdentityId) (old new : ExternalSubject) (accounts : LocalAccounts) : Bool :=
  !old.empty && LocalAccounts.isValidSubject new && accounts[new]?.isNone &&
    (accounts[old]?.any fun account => account.identity.all fun owner => owner = identity)

def rebound (identity : IdentityId) (old new : ExternalSubject) (account : LocalAccount) (accounts : LocalAccounts) :
    LocalAccounts := (accounts.erase old).insert new { account with identity := some identity }

theorem rebound_here :
    (rebound identity old new account accounts)[new]? = some { account with identity := some identity } := by
  simp [rebound]

theorem rebound_gone (apart : old ≠ new) : (rebound identity old new account accounts)[old]? = none := by
  simp [rebound,Ne.symm apart]

theorem rebind_cases (old new : ExternalSubject) (accounts : LocalAccounts) (named : identity.empty = false) :
    (rebinds identity old new accounts = true ∧ ∃ account,accounts[old]? = some account ∧ accounts[new]? = none ∧
        LocalAccounts.isValidSubject new = true ∧ (∀ owner,account.identity = some owner → owner = identity) ∧
          LocalAccounts.rebindSubject identity old new accounts = (.ok (),rebound identity old new account accounts)) ∨
      rebinds identity old new accounts = false ∧ ∃ e,
        LocalAccounts.rebindSubject identity old new accounts = (.error e,accounts) := by
  unfold LocalAccounts.rebindSubject rebinds
  rw [named]
  cases old.empty with
  | true => exact .inr ⟨rfl,_,rfl⟩
  | false =>
    cases valid : LocalAccounts.isValidSubject new with
    | false => exact .inr ⟨rfl,_,rfl⟩
    | true =>
      cases taken : accounts[new]? with
      | some other => exact .inr (by simp [Map.holds,taken])
      | none =>
        cases known : accounts[old]? with
        | none => exact .inr (by simp [Map.holds,taken])
        | some account =>
          cases own : account.identity with
          | none => exact .inl (by simp [Map.holds,taken,own,rebound])
          | some owner =>
            by_cases mine : owner = identity
            · exact .inl (by simp [Map.holds,taken,own,mine,rebound])
            · exact .inr (by simp [Map.holds,taken,own,mine])

theorem rebound_back (apart : old ≠ new) (named : identity.empty = false)
    (free : accounts[new]? = none) (valid : LocalAccounts.isValidSubject new = true)
    (before : LocalAccounts.isValidSubject old = true) :
    (LocalAccounts.rebindSubject identity new old (rebound identity old new account accounts)).2 =
      accounts.insert old { account with identity := some identity } := by
  have lettered : new.empty = false := by
    simp only [LocalAccounts.isValidSubject,Bool.and_eq_true,Bool.not_eq_true'] at valid
    exact valid.1.1
  unfold LocalAccounts.rebindSubject
  rw [named,lettered,before]
  simp only [Map.holds,rebound_gone apart,rebound_here,Bool.or_self,Bool.not_true,Bool.false_eq_true,if_false,Option.isSome_none,
    Option.any_some,ne_eq,not_true_eq_false,decide_false]
  apply Std.ExtTreeMap.ext_getElem?
  intro other
  by_cases here : old = other
  · subst here
    simp
  · by_cases there : new = other
    · subst there
      simp [here,free]
    · simp [rebound,here,there]

theorem rebound_changes (free : accounts[new]? = none) : rebound identity old new account accounts ≠ accounts := by
  intro same
  have found := congrArg (fun stored : LocalAccounts => stored[new]?) same
  simp [rebound,free] at found

theorem adopted_changes (known : accounts[old]? = some account) :
    accounts.insert old { account with identity := some identity } = accounts ↔ account.identity = some identity := by
  constructor
  · intro same
    have found := congrArg (fun stored : LocalAccounts => stored[old]?) same
    simp only [Map.find_insert,if_true,known,Option.some.injEq] at found
    rw [← found]
  · intro own
    apply Std.ExtTreeMap.ext_getElem?
    intro other
    by_cases here : old = other
    · subst here
      simp [known,← own]
    · simp [here]

theorem rebind_invalid (invalid : LocalAccounts.isValidSubject new = false) :
    (LocalAccounts.rebindSubject identity old new accounts).2 = accounts := by
  unfold LocalAccounts.rebindSubject
  rw [if_pos (by simp [invalid])]

theorem parted_directory (presented : Presented directory)
    (able : (directory.owners[external.key]?.all fun owner => owner = identity) = true) :
    (if spoilt then connect identity external directory
      else ((connect identity external directory).detach external identity).2) = directory ↔
      ¬(directory.owners[external.key]? = some identity ↔ spoilt = false) := by
  cases owned : directory.owners[external.key]? with
  | none =>
    cases spoilt with
    | true => simpa using connect_changes owned
    | false => simpa using connect_detached presented owned
  | some owner =>
    have mine : owner = identity := by simpa [owned] using able
    subst mine
    rw [connect_owned owned]
    cases spoilt with
    | true => simp
    | false => simpa using detach_changes owned

theorem detached_books (presented : Presented books.directory)
    (able : (books.directory.owners[external.key]?.all fun owner => owner = identity) = true) :
    detaching external identity spoils { books with directory := connect identity external books.directory } = books ↔
      ¬(books.directory.owners[external.key]? = some identity ↔ spoils (.detach external.subject) = false) := by
  have whole : detaching external identity spoils { books with directory := connect identity external books.directory } =
      { books with directory := if spoils (.detach external.subject) then connect identity external books.directory
        else ((connect identity external books.directory).detach external identity).2 } := by
    unfold detaching sparing
    split <;> rfl
  rw [whole,← parted_directory presented able]
  constructor
  · intro same
    exact congrArg Books.directory same
  · intro same
    rw [same]

theorem returned_accounts (apart : old ≠ new) (named : identity.empty = false)
    (known : accounts[old]? = some account) (free : accounts[new]? = none)
    (valid : LocalAccounts.isValidSubject new = true)
    (own : ∀ owner,account.identity = some owner → owner = identity) :
    (if spoilt then rebound identity old new account accounts
      else (LocalAccounts.rebindSubject identity new old (rebound identity old new account accounts)).2) = accounts ↔
      ¬(spoilt = true ∨ LocalAccounts.isValidSubject old = false ∨ account.identity = none) := by
  cases spoilt with
  | true => simpa using rebound_changes free
  | false =>
    cases before : LocalAccounts.isValidSubject old with
    | false => simpa [rebind_invalid before] using rebound_changes free
    | true =>
      have adopted : accounts.insert old { account with identity := some identity } = accounts ↔ _ :=
        adopted_changes known
      rw [if_neg Bool.false_ne_true,rebound_back apart named free valid before,adopted]
      cases held : account.identity with
      | none => simp
      | some owner => simp [own owner held]

theorem returned_books (presented : Presented books.directory)
    (able : (books.directory.owners[external.key]?.all fun owner => owner = identity) = true)
    (apart : old ≠ external.subject) (named : identity.empty = false) (known : books.accounts[old]? = some account)
    (free : books.accounts[external.subject]? = none) (valid : LocalAccounts.isValidSubject external.subject = true)
    (own : ∀ owner,account.identity = some owner → owner = identity) :
    detaching external identity spoils (rebinding identity external.subject old spoils
      ⟨connect identity external books.directory,rebound identity old external.subject account books.accounts,
        books.profiles⟩) = books ↔
      ¬((books.directory.owners[external.key]? = some identity ↔ spoils (.detach external.subject) = false) ∨
        spoils (.rebindSubject external.subject) = true ∨ LocalAccounts.isValidSubject old = false ∨
          account.identity = none) := by
  have whole : detaching external identity spoils (rebinding identity external.subject old spoils
      ⟨connect identity external books.directory,rebound identity old external.subject account books.accounts,
        books.profiles⟩) =
      ⟨if spoils (.detach external.subject) then connect identity external books.directory
        else ((connect identity external books.directory).detach external identity).2,
       if spoils (.rebindSubject external.subject) then rebound identity old external.subject account books.accounts
        else (LocalAccounts.rebindSubject identity external.subject old
          (rebound identity old external.subject account books.accounts)).2,books.profiles⟩ := by
    unfold detaching rebinding sparing
    split <;> split <;> rfl
  rw [whole,not_or,← parted_directory presented able,← returned_accounts apart named known free valid own]
  constructor
  · intro same
    exact ⟨congrArg Books.directory same,congrArg Books.accounts same⟩
  · rintro ⟨directory,accounts⟩
    rw [directory,accounts]

end

-- What a completed change leaves: the verified address in the profile, and it alone to sign in with.
structure Replaced (s : CeremonyService) (identity : IdentityId) (replacement : Text) (before after : Books) : Prop where
  email : ∃ profile,after.profiles[identity]? = some profile ∧ profile.email = some replacement ∧
    profile.emailVerified = true
  alone : ∀ key : ExternalKey,key.provider = s.localProvider → before.directory.owners[key]? = some identity →
    ∀ other : ExternalKey,other.provider = s.localProvider →
      (after.directory.owners[other]? = some identity ↔ other = (localRef s.toService replacement).key)
  account : ∀ (key : ExternalKey) (account : LocalAccount),key.provider = s.localProvider →
    before.directory.owners[key]? = some identity → before.accounts[key.subject]? = some account →
      (∃ moved,after.accounts[(localRef s.toService replacement).subject]? = some moved ∧
        moved.password = account.password) ∧
      (key.subject ≠ (localRef s.toService replacement).subject → after.accounts[key.subject]? = none)

def Sound (s : CeremonyService) (identity : IdentityId) (replacement : Text) (before : Books)
    (outcome : Except Error Unit × Faulty) : Prop :=
  (outcome.1 = .ok () → Replaced s identity replacement before outcome.2.books) ∧
    ∀ e,outcome.1 = .error e → outcome.2.books = before

structure Ground where
  books : Books
  spoils : StoreCall → Bool
  clock : Nat → Instant
  hasher : Text → Result PasswordHash

def ground (w : Faulty) (readings : Nat) : Ground :=
  ⟨w.books,w.spoils,fun n => w.state.clock (n+readings),w.state.hasher⟩

def ConfirmHarm (s : CeremonyService) (identity : IdentityId) (profile : IdentityProfile) (replacement : Text)
    (g : Ground) : Prop :=
  settles profile replacement (g.clock 0) = true ∧ g.spoils .saveProfile = false ∧
    if g.spoils .releaseSubject then confirmed profile replacement (g.clock 0) ≠ profile
    else ∃ key : ExternalKey,key.provider = s.localProvider ∧ g.books.directory.owners[key]? = some identity ∧
      key ≠ (localRef s.toService replacement).key

def enrols (subject : ExternalSubject) (password : Text) (g : Ground) : Bool :=
  LocalAccounts.isValidSubject subject && (g.hasher password).toOption.isSome && g.books.accounts[subject]?.isNone

def BeginHarm (s : CeremonyService) (identity : IdentityId) (profile : IdentityProfile) (replacement password : Text)
    (g : Ground) : Prop :=
  let external := localRef s.toService replacement
  (enrols external.subject password g = true ∧ g.spoils .enrollPending = false) ∧
    if attachable identity external g.clock g.books.directory = true ∧ g.spoils .attach = false then
      if settles profile replacement (g.clock 4) = true ∧ g.spoils .saveProfile = false then
        g.spoils .releaseSubject = true
      else g.spoils (.detach external.subject) = true ∨ g.spoils .removePending = true
    else g.spoils .removePending = true

def Astray (identity : IdentityId) (external : ExternalIdentityRef) (g : Ground) : Prop :=
  g.books.directory.owners[external.key]? = some identity ↔ g.spoils (.detach external.subject) = false

def MoveHarm (s : CeremonyService) (identity : IdentityId) (profile : IdentityProfile) (previous : ExternalSubject)
    (replacement : Text) (g : Ground) : Prop :=
  let external := localRef s.toService replacement
  (attachable identity external g.clock g.books.directory = true ∧ g.spoils .attach = false) ∧
    if rebinds identity previous external.subject g.books.accounts = true ∧
        g.spoils (.rebindSubject previous) = false then
      if settles profile replacement (g.clock 4) = true ∧ g.spoils .saveProfile = false then
        g.spoils (.detach previous) = true ∨ g.spoils .releaseSubject = true ∨ ∃ key : ExternalKey,
          key.provider = s.localProvider ∧ g.books.directory.owners[key]? = some identity ∧
            key.subject ≠ previous ∧ key.subject ≠ external.subject
      else Astray identity external g ∨ g.spoils (.rebindSubject external.subject) = true ∨
        LocalAccounts.isValidSubject previous = false ∨
        ∃ account,g.books.accounts[previous]? = some account ∧ account.identity = none
    else Astray identity external g

section
variable {s : CeremonyService} {identity : IdentityId} {profile : IdentityProfile} {replacement : Text}
  {w v : Faulty} {held : Reservation}

structure Holds (s : CeremonyService) (identity : IdentityId) (replacement : Text) (w : Faulty) : Prop where
  reserved : ∃ held,w.state.repository.reservations[(localRef s.toService replacement).key]? = some held ∧
    held.identity = identity
  presented : Presented w.books.directory
  named : identity.empty = false

theorem Holds.later (holds : Holds s identity replacement w) (later : Later n w v) :
    ∃ held,v.state.repository.reservations[(localRef s.toService replacement).key]? = some held ∧
      held.identity = identity := by
  rw [later.reservations]
  exact holds.reserved

theorem saved_email (profile : IdentityProfile) (replacement : Text) (now : Instant) (profiles : ProfileStore)
    (keyed : profile.identity = identity) :
    ∃ found,(ProfileStore.save (confirmed profile replacement now) profiles)[identity]? = some found ∧
      found.email = some replacement ∧ found.emailVerified = true :=
  ⟨confirmed profile replacement now,by simp [ProfileStore.save,confirmed,keyed],rfl,rfl⟩

theorem saved_same (known : profiles[identity]? = some profile) (keyed : profile.identity = identity) :
    ProfileStore.save (confirmed profile replacement now) profiles = profiles ↔ confirmed profile replacement now = profile := by
  have own : (confirmed profile replacement now).identity = identity := keyed
  unfold ProfileStore.save
  rw [own]
  constructor
  · intro same
    have found := congrArg (fun stored : ProfileStore => stored[identity]?) same
    simpa [known] using found
  · intro same
    apply Std.ExtTreeMap.ext_getElem?
    intro other
    by_cases here : identity = other
    · subst here
      simp [known,same]
    · simp [here]

structure FinishGoes (profile : IdentityProfile) (replacement : Text) (change : (StoreCall → Bool) → Books → Books)
    (w : Faulty) (outcome : Except Error Unit × Faulty) : Prop where
  done : settles profile replacement (w.state.clock 0) = true ∧ w.spoils .saveProfile = false →
    outcome.2.books = { w.books with
      profiles := w.books.profiles.save (confirmed profile replacement (w.state.clock 0)) } ∧
    if w.spoils .releaseSubject then ∃ e,outcome.1 = .error e else outcome.1 = .ok ()
  refused : ¬(settles profile replacement (w.state.clock 0) = true ∧ w.spoils .saveProfile = false) →
    (∃ e,outcome.1 = .error e) ∧ outcome.2.books = change w.spoils w.books

theorem finish_goes (undoes : Undoes undo change)
    (reserved : ∃ held,w.state.repository.reservations[(localRef s.toService replacement).key]? = some held ∧
      held.identity = identity) :
    FinishGoes profile replacement change w (((settle profile replacement undo).bind fun _ =>
      (perform (.releaseSubject (localRef s.toService replacement) identity)).bind fun released =>
        check released).run falter w) := by
  have settled : Goes _ 1 _ change w ((settle profile replacement undo).run falter w) := settle_goes undoes
  constructor
  · intro able
    obtain ⟨done,later,books⟩ := settled.done able
    rw [← later.reservations] at reserved
    obtain ⟨kept,ends⟩ := release_goes reserved
    rw [Prog.run_bind_ok done]
    rw [later.spoils] at ends
    exact ⟨kept.trans books,ends⟩
  · intro unable
    obtain ⟨⟨e,failed⟩,books⟩ := settled.refused unable
    rw [Prog.run_bind_error failed]
    exact ⟨⟨e,rfl⟩,books⟩

theorem sound_error (failed : ∃ e,outcome.1 = .error e) :
    Sound s identity replacement before outcome ↔ outcome.2.books = before := by
  obtain ⟨e,failed⟩ := failed
  constructor
  · intro sound
    exact sound.2 e failed
  · intro same
    refine ⟨fun done => ?_,fun _ _ => same⟩
    cases failed.symm.trans done

theorem sound_ok (done : outcome.1 = .ok ()) :
    Sound s identity replacement before outcome ↔ Replaced s identity replacement before outcome.2.books := by
  constructor
  · intro sound
    exact sound.1 done
  · intro replaced
    refine ⟨fun _ => replaced,fun e failed => ?_⟩
    cases done.symm.trans failed

theorem confirm_sound (holds : Holds s identity replacement w) (known : w.books.profiles[identity]? = some profile)
    (keyed : profile.identity = identity)
    (mine : ∀ key : ExternalKey,key.provider = s.localProvider → w.books.directory.owners[key]? = some identity →
      w.books.directory.owners[(localRef s.toService replacement).key]? = some identity) :
    Sound s identity replacement w.books ((confirmEmail s identity profile replacement).run falter w) ↔
      ¬ConfirmHarm s identity profile replacement (ground w 0) := by
  have goes : FinishGoes profile replacement (fun _ books => books) w
    ((confirmEmail s identity profile replacement).run falter w) := finish_goes release_undoes holds.reserved
  generalize (confirmEmail s identity profile replacement).run falter w = outcome at goes ⊢
  by_cases able : settles profile replacement (w.state.clock 0) = true ∧ w.spoils .saveProfile = false
  · obtain ⟨kept,ends⟩ := goes.done able
    cases spoilt : w.spoils .releaseSubject with
    | true =>
      have sound : Sound s identity replacement w.books outcome ↔ confirmed profile replacement (w.state.clock 0) = profile := by
        rw [sound_error (by rwa [spoilt] at ends),← saved_same known keyed,kept]
        constructor
        · intro same
          exact congrArg Books.profiles same
        · intro same
          exact congrArg (fun stored : ProfileStore => { w.books with profiles := stored }) same
      rw [sound]
      simp [ConfirmHarm,ground,able.1,able.2,spoilt]
    | false =>
      have sound : Sound s identity replacement w.books outcome ↔ ∀ key : ExternalKey,key.provider = s.localProvider →
          w.books.directory.owners[key]? = some identity → key = (localRef s.toService replacement).key := by
        rw [sound_ok (by rwa [spoilt] at ends),kept]
        constructor
        · intro replaced key here owned
          exact (replaced.alone key here owned key here).mp owned
        · intro sole
          refine ⟨saved_email profile replacement _ _ keyed,?_,?_⟩
          · intro key here owned other there
            refine ⟨sole other there,?_⟩
            rintro rfl
            exact mine key here owned
          · intro key account here owned found
            cases sole key here owned
            exact ⟨⟨account,found,rfl⟩,fun other => absurd rfl other⟩
      rw [sound]
      simp [ConfirmHarm,ground,able.1,able.2,spoilt]
  · obtain ⟨failed,books⟩ := goes.refused able
    refine iff_of_true ((sound_error failed).mpr books) ?_
    rintro ⟨yes,calm,-⟩
    exact able ⟨yes,calm⟩

theorem enrols_cases (w : Faulty) (subject : ExternalSubject) (password : Text) (named : identity.empty = false) :
    (enrols subject password (ground w 0) = true ∧ ∃ hash,w.books.accounts[subject]? = none ∧
        w.state.accounts.enrollPending identity subject (w.state.hasher password) =
          (.ok (),w.state.accounts.insert subject ⟨some identity,hash⟩)) ∨
      enrols subject password (ground w 0) = false ∧ ∃ e,
        w.state.accounts.enrollPending identity subject (w.state.hasher password) = (.error e,w.state.accounts) := by
  have free : w.books.accounts[subject]? = w.state.accounts[subject]? := rfl
  unfold LocalAccounts.enrollPending enrols
  rw [named]
  simp only [ground,free]
  cases LocalAccounts.isValidSubject subject with
  | false => exact .inr ⟨rfl,_,rfl⟩
  | true =>
    cases w.state.hasher password with
    | error e => exact .inr ⟨rfl,_,rfl⟩
    | ok hash =>
      cases taken : w.state.accounts[subject]? with
      | some account => exact .inr ⟨rfl,_,by simp [Map.holds,taken]; rfl⟩
      | none => exact .inl ⟨rfl,hash,rfl,by simp [Map.holds,taken]⟩

theorem enrol_goes {subject : ExternalSubject} (undoes : Undoes undo change) (named : identity.empty = false) :
    Goes (enrols subject password (ground w 0) = true ∧ w.spoils .enrollPending = false) 0 (fun books => { books with
      accounts := (books.accounts.enrollPending identity subject (w.state.hasher password)).2 }) change w
        ((guarded (perform (.enrollPending identity subject password)) undo).run falter w) := by
  have goes : (perform (.enrollPending identity subject password)).run falter w = if w.spoils .enrollPending then
      (.ok (.error w.error),w) else (.ok (w.state.accounts.enrollPending identity subject (w.state.hasher password)).1,
        ⟨{ w.state with
          accounts := (w.state.accounts.enrollPending identity subject (w.state.hasher password)).2 },w.trouble⟩) :=
    asked_goes rfl rfl
  apply store_goes undoes goes ⟨rfl,rfl,rfl,fun _ => rfl⟩
  · intro able
    rcases enrols_cases w subject password named with ⟨-,hash,-,same⟩ | ⟨unable,-⟩
    · exact ⟨congrArg Prod.fst same,rfl⟩
    · cases able.symm.trans unable
  · intro unable
    rcases enrols_cases w subject password named with ⟨able,-⟩ | ⟨-,e,same⟩
    · exact absurd able unable
    · rw [same]
      exact ⟨⟨e,rfl⟩,rfl⟩

theorem begun_sound {hash : PasswordHash} (holds : Holds s identity replacement w)
    (keyed : profile.identity = identity)
    (bare : ∀ key : ExternalKey,key.provider = s.localProvider → w.books.directory.owners[key]? ≠ some identity)
    (free : w.books.accounts[(localRef s.toService replacement).subject]? = none) (later : Later 0 w v)
    (books : v.books = { w.books with
      accounts := w.books.accounts.insert (localRef s.toService replacement).subject ⟨some identity,hash⟩ }) :
    let external := localRef s.toService replacement
    let remove := (silently (.removePending identity external.subject)).bind fun _ =>
      silently (.releaseSubject external identity)
    Sound s identity replacement w.books (((guarded (onward (attachVerified identity external)).attempt remove).bind fun _ =>
      (settle profile replacement ((silently (.detach external identity)).bind fun _ => remove)).bind fun _ =>
        (perform (.releaseSubject external identity)).bind fun released => check released).run falter v) ↔
      ¬if attachable identity external w.state.clock w.books.directory = true ∧ w.spoils .attach = false then
        if settles profile replacement (w.state.clock 4) = true ∧ w.spoils .saveProfile = false then
          w.spoils .releaseSubject = true
        else w.spoils (.detach external.subject) = true ∨ w.spoils .removePending = true
      else w.spoils .removePending = true := by
  intro external remove
  have removes : Undoes remove _ := remove_undoes.bind release_undoes
  have attached : Goes _ 4 _ _ v ((guarded (onward (attachVerified identity external)).attempt remove).run falter v) :=
    attach_guarded removes
  have directory : v.state.directory = w.books.directory := congrArg Books.directory books
  have clock : v.state.clock = w.state.clock := funext later.clock
  have vacant : attachable identity external w.state.clock w.books.directory = true →
      w.books.directory.owners[external.key]? = none := by
    intro able
    cases owned : w.books.directory.owners[external.key]? with
    | none => rfl
    | some owner =>
      simp only [attachable,owned,Option.all_some,Bool.and_eq_true,decide_eq_true_eq] at able
      exact absurd (owned.trans (congrArg some able.2)) (bare external.key rfl)
  rw [directory,clock,later.spoils] at attached
  by_cases able : attachable identity external w.state.clock w.books.directory = true ∧ w.spoils .attach = false
  · obtain ⟨done,onward,kept⟩ := attached.done able
    rw [Prog.run_bind_ok done,if_pos able]
    generalize ((guarded (OpenProof.CeremonyWorld.onward (attachVerified identity external)).attempt remove).run falter v).2 =
      u at onward kept ⊢
    have since : Later 4 w u := later.trans onward
    have withdraws : Undoes ((silently (.detach external identity)).bind fun _ => remove) _ := detach_undoes.bind removes
    have finished : FinishGoes profile replacement _ u (((settle profile replacement
        ((silently (.detach external identity)).bind fun _ => remove)).bind fun _ =>
          (perform (.releaseSubject external identity)).bind fun released => check released).run falter u) :=
      finish_goes withdraws (holds.later since)
    generalize ((settle profile replacement
        ((silently (.detach external identity)).bind fun _ => remove)).bind fun _ =>
          (perform (.releaseSubject external identity)).bind fun released => check released).run falter u = outcome
      at finished ⊢
    obtain ⟨finished,unfinished⟩ := finished
    rw [since.clock,since.spoiling] at finished unfinished
    by_cases settled : settles profile replacement (w.state.clock 4) = true ∧ w.spoils .saveProfile = false
    · obtain ⟨ended,ends⟩ := finished settled
      rw [if_pos settled]
      cases spoilt : w.spoils .releaseSubject with
      | true =>
        rw [spoilt,if_pos rfl] at ends
        rw [sound_error ends,ended,kept,books]
        refine iff_of_false (fun same => ?_) (fun spared => spared rfl)
        exact enrolled_changes free (congrArg Books.accounts same)
      | false =>
        rw [spoilt,if_neg Bool.false_ne_true] at ends
        rw [sound_ok ends,ended]
        refine iff_of_true ⟨saved_email profile replacement _ _ keyed,?_,?_⟩ Bool.false_ne_true
        · intro key here owned
          exact absurd owned (bare key here)
        · intro key account here owned
          exact absurd owned (bare key here)
    · obtain ⟨failed,ended⟩ := unfinished settled
      rw [if_neg settled,sound_error failed,ended,kept,books]
      exact withdrawn_books free holds.presented (vacant able.1)
  · obtain ⟨⟨e,failed⟩,kept⟩ := attached.refused able
    rw [Prog.run_bind_error failed,if_neg able,sound_error ⟨e,rfl⟩,kept,books,later.spoiling]
    exact removed_books free

theorem begin_sound (holds : Holds s identity replacement w) (keyed : profile.identity = identity)
    (bare : ∀ key : ExternalKey,key.provider = s.localProvider → w.books.directory.owners[key]? ≠ some identity) :
    Sound s identity replacement w.books ((beginSignIn s identity profile replacement password).run falter w) ↔
      ¬BeginHarm s identity profile replacement password (ground w 0) := by
  have enrolled : Goes _ 0 _ (fun _ books => books) w ((guarded (perform (.enrollPending identity
    (localRef s.toService replacement).subject password)) (silently (.releaseSubject (localRef s.toService replacement)
      identity))).run falter w) := enrol_goes release_undoes holds.named
  unfold beginSignIn BeginHarm
  simp only [Prog.bind_eq]
  by_cases able : enrols (localRef s.toService replacement).subject password (ground w 0) = true ∧
      w.spoils .enrollPending = false
  · obtain ⟨done,later,books⟩ := enrolled.done able
    rcases enrols_cases w (localRef s.toService replacement).subject password holds.named with ⟨-,hash,free,same⟩ | ⟨no,-⟩
    · rw [Prog.run_bind_ok done]
      have same : w.books.accounts.enrollPending identity (localRef s.toService replacement).subject
          (w.state.hasher password) = _ := same
      rw [same] at books
      refine (begun_sound holds keyed bare free later books).trans (not_congr ?_)
      exact ⟨fun harm => ⟨able,harm⟩,fun harm => harm.2⟩
    · cases able.1.symm.trans no
  · obtain ⟨⟨e,failed⟩,books⟩ := enrolled.refused able
    rw [Prog.run_bind_error failed,sound_error ⟨e,rfl⟩]
    exact iff_of_true books fun harm => able harm.1

theorem rebind_goes {previous subject : ExternalSubject} (undoes : Undoes undo change)
    (named : identity.empty = false) :
    Goes (rebinds identity previous subject w.books.accounts = true ∧ w.spoils (.rebindSubject previous) = false) 0
      (fun books => { books with accounts := (books.accounts.rebindSubject identity previous subject).2 }) change w
        ((guarded (Prog.perform (CeremonyOp.rebindSubject identity previous subject)) undo).run falter w) := by
  have goes : (Prog.perform (CeremonyOp.rebindSubject identity previous subject)).run falter w =
      if w.spoils (.rebindSubject previous) then (.ok (.error w.error),w)
      else (.ok (w.state.accounts.rebindSubject identity previous subject).1,⟨{ w.state with
        accounts := (w.state.accounts.rebindSubject identity previous subject).2 },w.trouble⟩) := asked_goes rfl rfl
  apply store_goes undoes goes ⟨rfl,rfl,rfl,fun _ => rfl⟩
  · intro able
    rcases rebind_cases previous subject w.books.accounts named with ⟨-,account,-,-,-,-,same⟩ | ⟨unable,-⟩
    · exact ⟨congrArg Prod.fst same,rfl⟩
    · cases able.symm.trans unable
  · intro unable
    rcases rebind_cases previous subject w.books.accounts named with ⟨able,-⟩ | ⟨-,e,same⟩
    · exact absurd able unable
    · have same : w.state.accounts.rebindSubject identity previous subject = _ := same
      rw [same]
      exact ⟨⟨e,rfl⟩,rfl⟩

theorem unlink_goes {external : ExternalIdentityRef} (undoes : Undoes undo change)
    (owned : w.books.directory.owners[external.key]? = some identity) :
    Goes (True ∧ w.spoils (.detach external.subject) = false) 0
      (fun books => { books with directory := (books.directory.detach external identity).2 }) change w
        ((guarded (perform (.detach external identity)) undo).run falter w) := by
  have goes : (perform (.detach external identity)).run falter w =
      if w.spoils (.detach external.subject) then (.ok (.error w.error),w)
      else (.ok (w.state.directory.detach external identity).1,⟨{ w.state with
        directory := (w.state.directory.detach external identity).2 },w.trouble⟩) := asked_goes rfl rfl
  have done : (w.state.directory.detach external identity).1 = .ok () := by
    have owned : w.state.directory.owners[external.key]? = some identity := owned
    simp [Directory.detach,owned]
  exact store_goes undoes goes ⟨rfl,rfl,rfl,fun _ => rfl⟩ (fun _ => ⟨done,rfl⟩) fun no => absurd trivial no

theorem replaced_parted {account : LocalAccount} (keyed : profile.identity = identity)
    (owned : before.directory.owners[(localRef s.toService previous.value).key]? = some identity)
    (apart : (localRef s.toService replacement).key ≠ (localRef s.toService previous.value).key)
    (able : (before.directory.owners[(localRef s.toService replacement).key]?.all fun owner => owner = identity) = true)
    (known : before.accounts[previous]? = some account)
    (free : before.accounts[(localRef s.toService replacement).subject]? = none) :
    Replaced s identity replacement before
      ⟨((connect identity (localRef s.toService replacement) before.directory).detach
          (localRef s.toService previous.value) identity).2,
        rebound identity previous (localRef s.toService replacement).subject account before.accounts,
        before.profiles.save (confirmed profile replacement now)⟩ ↔
      ¬∃ key : ExternalKey,key.provider = s.localProvider ∧ before.directory.owners[key]? = some identity ∧
        key.subject ≠ previous ∧ key.subject ≠ (localRef s.toService replacement).subject := by
  have mine : (connect identity (localRef s.toService replacement) before.directory).owners[
      (localRef s.toService previous.value).key]? = some identity := by
    rw [connect_owners _ able,if_neg apart,owned]
  have owners : ∀ key : ExternalKey,((connect identity (localRef s.toService replacement) before.directory).detach
      (localRef s.toService previous.value) identity).2.owners[key]? =
        if (localRef s.toService previous.value).key = key then none
        else if (localRef s.toService replacement).key = key then some identity else before.directory.owners[key]? := by
    intro key
    rw [detach_owners key mine,connect_owners key able]
  constructor
  · rintro replaced ⟨key,here,third,one,two⟩
    have kept := (replaced.alone _ rfl owned key here).mp
    rw [owners key,if_neg,if_neg,third] at kept
    · exact two (congrArg ExternalKey.subject (kept rfl))
    · exact fun same => two (congrArg ExternalKey.subject same).symm
    · exact fun same => one (congrArg ExternalKey.subject same).symm
  · intro sole
    have either : ∀ key : ExternalKey,key.provider = s.localProvider → before.directory.owners[key]? = some identity →
        key = (localRef s.toService previous.value).key ∨ key = (localRef s.toService replacement).key := by
      intro key here owned
      by_contra neither
      rw [not_or] at neither
      refine sole ⟨key,here,owned,fun same => neither.1 ?_,fun same => neither.2 ?_⟩
      · cases key
        exact congrArg₂ ExternalKey.mk here same
      · cases key
        exact congrArg₂ ExternalKey.mk here same
    refine ⟨saved_email profile replacement _ _ keyed,?_,?_⟩
    · intro _ _ _ other there
      rw [owners other]
      by_cases old : (localRef s.toService previous.value).key = other
      · rw [if_pos old]
        refine iff_of_false nofun fun same => apart (same.symm.trans old.symm)
      · rw [if_neg old]
        by_cases new : (localRef s.toService replacement).key = other
        · rw [if_pos new]
          exact iff_of_true rfl new.symm
        · rw [if_neg new]
          refine iff_of_false (fun owned => ?_) (Ne.symm new)
          rcases either other there owned with same | same
          · exact old same.symm
          · exact new same.symm
    · intro key found here owned stored
      rcases either key here owned with rfl | rfl
      · cases known.symm.trans stored
        exact ⟨⟨_,rebound_here,rfl⟩,rebound_gone⟩
      · cases free.symm.trans stored

section
variable (holds : Holds s identity replacement w)
include holds

theorem parted_sound {account : LocalAccount} (keyed : profile.identity = identity)
    (owned : w.books.directory.owners[(localRef s.toService previous.value).key]? = some identity)
    (apart : previous ≠ (localRef s.toService replacement).subject)
    (able : (w.books.directory.owners[(localRef s.toService replacement).key]?.all fun owner => owner = identity) = true)
    (known : w.books.accounts[previous]? = some account)
    (free : w.books.accounts[(localRef s.toService replacement).subject]? = none) (later : Later n w v)
    (books : v.books = ⟨connect identity (localRef s.toService replacement) w.books.directory, rebound identity previous (localRef s.toService replacement).subject account w.books.accounts, w.books.profiles.save (confirmed profile replacement now)⟩) :
    Sound s identity replacement w.books (((guarded (perform (.detach (localRef s.toService previous.value) identity))
      (silently (.releaseSubject (localRef s.toService replacement) identity))).bind fun _ =>
        (perform (.releaseSubject (localRef s.toService replacement) identity)).bind fun released =>
          check released).run falter v) ↔
      ¬(w.spoils (.detach previous) = true ∨ w.spoils .releaseSubject = true ∨ ∃ key : ExternalKey,
        key.provider = s.localProvider ∧ w.books.directory.owners[key]? = some identity ∧
          key.subject ≠ previous ∧ key.subject ≠ (localRef s.toService replacement).subject) := by
  have other : (localRef s.toService replacement).key ≠ (localRef s.toService previous.value).key := by
    intro same
    exact apart (congrArg ExternalKey.subject same).symm
  have mine : v.books.directory.owners[(localRef s.toService previous.value).key]? = some identity := by
    rw [books,connect_owners _ able,if_neg other]
    exact owned
  have moved : v.books ≠ w.books := by
    intro same
    rw [books] at same
    exact rebound_changes free (congrArg Books.accounts same)
  have unlinked : Goes _ 0 _ (fun _ books => books) v ((guarded (perform (.detach (localRef s.toService previous.value)
    identity)) (silently (.releaseSubject (localRef s.toService replacement) identity))).run falter v) :=
      unlink_goes release_undoes mine
  have called : v.spoils (.detach (localRef s.toService previous.value).subject) = w.spoils (.detach previous) :=
    later.spoils
  rw [called] at unlinked
  cases spoilt : w.spoils (.detach previous) with
  | true =>
    obtain ⟨⟨e,failed⟩,kept⟩ := unlinked.refused (by simp [spoilt])
    rw [Prog.run_bind_error failed,sound_error ⟨e,rfl⟩,kept]
    exact iff_of_false moved fun spared => spared (.inl rfl)
  | false =>
    obtain ⟨done,onward,kept⟩ := unlinked.done ⟨trivial,spoilt⟩
    obtain ⟨same,ends⟩ := release_goes (holds.later (later.trans onward))
    rw [Prog.run_bind_ok done]
    generalize ((perform (.releaseSubject (localRef s.toService replacement) identity)).bind fun released =>
      check released).run falter _ = outcome at same ends ⊢
    rw [(later.trans onward).spoils] at ends
    rw [kept,books] at same
    cases spoilt' : w.spoils .releaseSubject with
    | true =>
      rw [spoilt',if_pos rfl] at ends
      rw [sound_error ends,same]
      refine iff_of_false (fun same => ?_) fun spared => spared (.inr (.inl rfl))
      exact rebound_changes free (congrArg Books.accounts same)
    | false =>
      rw [spoilt',if_neg Bool.false_ne_true] at ends
      rw [sound_ok ends,same,replaced_parted keyed owned other able known free]
      simp

theorem moved_sound (keyed : profile.identity = identity)
    (owned : w.books.directory.owners[(localRef s.toService previous.value).key]? = some identity)
    (apart : previous ≠ (localRef s.toService replacement).subject)
    (able : (w.books.directory.owners[(localRef s.toService replacement).key]?.all fun owner => owner = identity) = true)
    (later : Later 4 w v)
    (books : v.books = { w.books with directory := connect identity (localRef s.toService replacement) w.books.directory }) :
    let external := localRef s.toService replacement
    let release := silently (.releaseSubject external identity)
    let detach := (silently (.detach external identity)).bind fun _ => release
    Sound s identity replacement w.books
      (((guarded (Prog.perform (CeremonyOp.rebindSubject identity previous external.subject)) detach).bind fun _ =>
        (settle profile replacement ((rebindBack identity external.subject previous).bind fun _ => detach)).bind fun _ =>
          (guarded (perform (.detach (localRef s.toService previous.value) identity)) release).bind fun _ =>
            (perform (.releaseSubject external identity)).bind fun released => check released).run falter v) ↔
      ¬if rebinds identity previous external.subject w.books.accounts = true ∧
          w.spoils (.rebindSubject previous) = false then
        if settles profile replacement (w.state.clock 4) = true ∧ w.spoils .saveProfile = false then
          w.spoils (.detach previous) = true ∨ w.spoils .releaseSubject = true ∨ ∃ key : ExternalKey,
            key.provider = s.localProvider ∧ w.books.directory.owners[key]? = some identity ∧
              key.subject ≠ previous ∧ key.subject ≠ external.subject
        else Astray identity external (ground w 0) ∨ w.spoils (.rebindSubject external.subject) = true ∨
          LocalAccounts.isValidSubject previous = false ∨
          ∃ account,w.books.accounts[previous]? = some account ∧ account.identity = none
      else Astray identity external (ground w 0) := by
  intro external release detach
  have detaches : Undoes detach _ := detach_undoes.bind release_undoes
  have bound : Goes _ 0 _ (detaching external identity) v ((guarded (Prog.perform (CeremonyOp.rebindSubject identity previous
    external.subject)) detach).run falter v) := rebind_goes detaches holds.named
  have accounts : v.books.accounts = w.books.accounts := by rw [books]
  rw [accounts,later.spoils] at bound
  by_cases moves : rebinds identity previous external.subject w.books.accounts = true ∧
      w.spoils (.rebindSubject previous) = false
  · obtain ⟨done,onward,kept⟩ := bound.done moves
    rcases rebind_cases previous external.subject w.books.accounts holds.named with ⟨-,account,known,free,valid,own,same⟩ | ⟨no,-⟩
    · rw [Prog.run_bind_ok done,if_pos moves]
      generalize ((guarded (Prog.perform (CeremonyOp.rebindSubject identity previous external.subject)) detach).run
        falter v).2 = u at onward kept ⊢
      simp only [books,same] at kept
      have since : Later 4 w u := later.trans onward
      have returns : Undoes ((rebindBack identity external.subject previous).bind fun _ => detach) _ :=
        rebind_undoes.bind detaches
      have settled : Goes _ 1 _ _ u ((settle profile replacement
        ((rebindBack identity external.subject previous).bind fun _ => detach)).run falter u) := settle_goes returns
      rw [since.clock,since.spoils] at settled
      by_cases saves : settles profile replacement (w.state.clock 4) = true ∧ w.spoils .saveProfile = false
      · obtain ⟨ended,further,saved⟩ := settled.done saves
        rw [Prog.run_bind_ok ended,if_pos saves]
        exact parted_sound holds keyed owned apart able known free (since.trans further) (by rw [saved,kept])
      · obtain ⟨⟨e,failed⟩,ended⟩ := settled.refused saves
        rw [Prog.run_bind_error failed,if_neg saves,sound_error ⟨e,rfl⟩,ended,kept,since.spoiling]
        have unbound : (∃ held,w.books.accounts[previous]? = some held ∧ held.identity = none) ↔ account.identity = none := by
          simp [known]
        rw [unbound]
        exact returned_books holds.presented able apart holds.named known free valid own
    · cases moves.1.symm.trans no
  · obtain ⟨⟨e,failed⟩,kept⟩ := bound.refused moves
    rw [Prog.run_bind_error failed,if_neg moves,sound_error ⟨e,rfl⟩,kept,books,later.spoiling]
    exact detached_books holds.presented able

theorem move_sound (keyed : profile.identity = identity)
    (owned : w.books.directory.owners[(localRef s.toService previous.value).key]? = some identity)
    (apart : previous ≠ (localRef s.toService replacement).subject) :
    Sound s identity replacement w.books ((moveSignIn s identity profile previous replacement).run falter w) ↔
      ¬MoveHarm s identity profile previous replacement (ground w 0) := by
  have attached : Goes _ 4 _ (fun _ books => books) w ((guarded (onward (attachVerified identity
    (localRef s.toService replacement))).attempt (silently (.releaseSubject (localRef s.toService replacement)
      identity))).run falter w) := attach_guarded release_undoes
  unfold moveSignIn MoveHarm
  simp only [Prog.bind_eq]
  by_cases able : attachable identity (localRef s.toService replacement) w.state.clock w.state.directory = true ∧
      w.spoils .attach = false
  · obtain ⟨done,later,books⟩ := attached.done able
    have free := able.1
    simp only [attachable,Bool.and_eq_true] at free
    rw [Prog.run_bind_ok done]
    refine (moved_sound holds keyed owned apart free.2 later books).trans (not_congr ?_)
    exact ⟨fun harm => ⟨able,harm⟩,fun harm => harm.2⟩
  · obtain ⟨⟨e,failed⟩,books⟩ := attached.refused able
    rw [Prog.run_bind_error failed,sound_error ⟨e,rfl⟩]
    exact iff_of_true books fun harm => able harm.1

end

end

end OpenProof.EmailChanges
