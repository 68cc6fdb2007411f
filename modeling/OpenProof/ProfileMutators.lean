import OpenProof.IdentityProfiles
import OpenProof.SavedStates

namespace OpenProof.ProfileMutators
open Foundation IdentityProfiles SavedStates ExternalIdentities Identities

def restore (identity : IdentityId) (displayName preferredUsername email : Option Text) (emailVerified : Bool)
    (phoneNumber : Option Text) (phoneNumberVerified : Bool) (locale pictureUrl : Option Text)
    (createdAt updatedAt : Instant) (avatarSource : Text) : Result IdentityProfile :=
  if !validText displayName 256 || !validText preferredUsername 128 || !validText email 320 || !validText phoneNumber 32
      || !validText locale 64 || !validText pictureUrl 2048 || avatarSource.isEmpty || avatarSource.length > 128
      || avatarSource.any isControl || updatedAt < createdAt || (emailVerified && !email.isSome)
      || (phoneNumberVerified && !phoneNumber.isSome) then
    fail .internal "Stored identity profile data is invalid."
  else
    match IdentityProfile.create identity createdAt with
    | .error e => .error e
    | .ok profile => .ok { profile with
        displayName := displayName, preferredUsername := preferredUsername, email := email
        emailVerified := emailVerified, phoneNumber := phoneNumber, phoneNumberVerified := phoneNumberVerified
        locale := locale, pictureUrl := pictureUrl, avatarSource := avatarSource, updatedAt := updatedAt }

def restored (p : IdentityProfile) : Result IdentityProfile :=
  restore p.identity p.displayName p.preferredUsername p.email p.emailVerified p.phoneNumber p.phoneNumberVerified
    p.locale p.pictureUrl p.createdAt p.updatedAt p.avatarSource

inductive Mutation where
  | applyVerifiedClaims (claims : VerifiedClaims) (now : Instant)
  | refreshPresentationClaims (claims : VerifiedClaims) (now : Instant)
  | updateSelfService (displayName preferredUsername locale pictureUrl : Option Text) (now : Instant)
  | setEmail (email : Text) (verified : Bool) (now : Instant)
  | setPhoneNumber (phoneNumber : Text) (verified : Bool) (now : Instant)
  | setAvatarSource (avatarSource : Text) (now : Instant)

namespace Mutation

def result (p : IdentityProfile) : Mutation → Result IdentityProfile
  | .applyVerifiedClaims claims now => p.applyVerifiedClaims claims now
  | .refreshPresentationClaims claims now => p.refreshPresentationClaims claims now
  | .updateSelfService displayName preferredUsername locale pictureUrl now =>
    p.updateSelfService displayName preferredUsername locale pictureUrl now
  | .setEmail email verified now => p.setEmail email verified now
  | .setPhoneNumber phoneNumber verified now => p.setPhoneNumber phoneNumber verified now
  | .setAvatarSource avatarSource now => p.setAvatarSource avatarSource now

-- What the object holds when the call has returned. The two claim mutators assign the members
-- first and check them afterwards; the other four assign nothing that they have not checked.
def after (call : Mutation) (p : IdentityProfile) : IdentityProfile :=
  match call.result p with
  | .ok changed => changed
  | .error _ =>
    match call with
    | .applyVerifiedClaims claims now => if now < p.updatedAt then p else p.withVerifiedClaims claims
    | .refreshPresentationClaims claims now => if now < p.updatedAt then p else p.withPresentationClaims claims
    | _ => p

def Behaves (call : Mutation) (p : IdentityProfile) : Prop :=
  (∀ e,call.result p = .error e → call.after p = p) ∧
    ∀ changed,call.result p = .ok changed → restored changed = .ok changed

end Mutation

structure Fits (claims : VerifiedClaims) (takes : Option Text → Prop) (p : IdentityProfile) : Prop where
  displayName : takes p.displayName → validText (claims.get .displayName) 256 = true
  preferredUsername : takes p.preferredUsername → validText (claims.get .preferredUsername) 128 = true
  locale : takes p.locale → validText (claims.get .locale) 64 = true
  pictureUrl : takes p.pictureUrl → validText (claims.get .pictureUrl) 2048 = true

def Mutation.Meets (call : Mutation) (p : IdentityProfile) : Prop :=
  match call with
  | .applyVerifiedClaims claims now => p.updatedAt ≤ now → Fits claims (fun _ => True) p ∧
      validText (claims.get .email) 320 = true ∧ validText (claims.get .phoneNumber) 32 = true
  | .refreshPresentationClaims claims now => p.updatedAt ≤ now → Fits claims (· = none) p
  | _ => True

-- The checks of `restore` as facts of one profile.
structure Storable (p : IdentityProfile) : Prop where
  named : p.identity.empty = false
  shown : p.validPresentation = true
  email : validText p.email 320 = true
  phoneNumber : validText p.phoneNumber 32 = true
  avatarSource : validText (some p.avatarSource) 128 = true
  forward : p.createdAt ≤ p.updatedAt
  emailClaimed : p.emailVerified = true → p.email.isSome = true
  phoneNumberClaimed : p.phoneNumberVerified = true → p.phoneNumber.isSome = true

theorem restored_iff : restored p = .ok q ↔ q = p ∧ Storable p := by
  unfold restored restore
  constructor
  · intro made
    split at made
    · cases made
    rename_i checked
    simp only [Bool.or_eq_true,Bool.not_eq_true',Bool.and_eq_true,decide_eq_true_eq,not_or,not_and,Bool.not_eq_false,
      Bool.not_eq_true,Int.not_lt,Nat.not_lt] at checked
    obtain ⟨⟨⟨⟨⟨⟨⟨⟨⟨⟨⟨displayName,preferredUsername⟩,email⟩,phoneNumber⟩,locale⟩,pictureUrl⟩,filled⟩,short⟩,printable⟩,
      forward⟩,emailClaimed⟩,phoneNumberClaimed⟩ := checked
    unfold IdentityProfile.create at made
    cases named : p.identity.empty with
    | true =>
      rw [if_pos named] at made
      cases made
    | false =>
      rw [if_neg (by rw [named]; exact Bool.false_ne_true)] at made
      cases made
      refine ⟨rfl,named,?_,email,phoneNumber,?_,forward,emailClaimed,phoneNumberClaimed⟩
      · simp [IdentityProfile.validPresentation,displayName,preferredUsername,locale,pictureUrl]
      · simp [validText,filled,short,printable]
  · rintro ⟨rfl,stored⟩
    have shown := stored.shown
    have avatarSource := stored.avatarSource
    simp only [IdentityProfile.validPresentation,Bool.and_eq_true] at shown
    simp only [validText,Option.all_some,Bool.and_eq_true,Bool.not_eq_true',decide_eq_true_eq] at avatarSource
    rw [if_neg]
    · simp [IdentityProfile.create,stored.named]
    · simpa [shown,avatarSource,stored.email,stored.phoneNumber,stored.forward,Option.isSome_iff_ne_none] using
        And.intro stored.emailClaimed stored.phoneNumberClaimed

theorem created_storable (made : IdentityProfile.create identity createdAt = .ok p) : Storable p := by
  unfold IdentityProfile.create at made
  split at made
  · cases made
  rename_i named
  cases made
  exact ⟨Bool.eq_false_iff.mpr named,rfl,rfl,rfl,rfl,Int.le_refl createdAt,by simp,by simp⟩

theorem validText_or (valid : validText fallback maximum = true) :
    validText (claim.or fallback) maximum = validText claim maximum := by
  cases claim with
  | none => exact valid
  | some text => rfl

theorem validText_mono {text : Option Text} (valid : validText text 128 = true) : validText text 256 = true := by
  cases text with
  | none => rfl
  | some text =>
    simp only [validText,Option.all_some,Bool.and_eq_true,decide_eq_true_eq] at valid ⊢
    exact ⟨⟨valid.1.1,by omega⟩,valid.2⟩

theorem validText_kept {kept : Option Text} (valid : validText kept maximum = true) :
    validText (kept.or claim) maximum = true ↔ (kept = none → validText claim maximum = true) := by
  cases kept with
  | none => simp
  | some text => simpa using valid

theorem named_after {own name : Option Text} (short : validText name 128 = true) :
    validText (own.or name) 256 = validText own 256 := validText_or (validText_mono short)

theorem withVerifiedClaims_shown (claims : VerifiedClaims) (stored : Storable p) :
    (p.withVerifiedClaims claims).validPresentation = true ↔ Fits claims (fun _ => True) p := by
  have shown := stored.shown
  simp only [IdentityProfile.validPresentation,Bool.and_eq_true] at shown
  obtain ⟨⟨⟨displayName,preferredUsername⟩,locale⟩,pictureUrl⟩ := shown
  simp only [IdentityProfile.withVerifiedClaims,IdentityProfile.validPresentation,Bool.and_eq_true,validText_or preferredUsername,
    validText_or locale,validText_or pictureUrl]
  constructor
  · rintro ⟨⟨⟨display,preferred⟩,loc⟩,picture⟩
    rw [named_after (by rw [validText_or preferredUsername]; exact preferred),validText_or displayName] at display
    exact ⟨fun _ => display,fun _ => preferred,fun _ => loc,fun _ => picture⟩
  · rintro ⟨display,preferred,loc,picture⟩
    rw [named_after (by rw [validText_or preferredUsername]; exact preferred trivial),validText_or displayName]
    exact ⟨⟨⟨display trivial,preferred trivial⟩,loc trivial⟩,picture trivial⟩

theorem withPresentationClaims_shown (claims : VerifiedClaims) (stored : Storable p) :
    (p.withPresentationClaims claims).validPresentation = true ↔ Fits claims (· = none) p := by
  have shown := stored.shown
  simp only [IdentityProfile.validPresentation,Bool.and_eq_true] at shown
  obtain ⟨⟨⟨displayName,preferredUsername⟩,locale⟩,pictureUrl⟩ := shown
  simp only [IdentityProfile.withPresentationClaims,IdentityProfile.validPresentation,Bool.and_eq_true]
  constructor
  · rintro ⟨⟨⟨display,preferred⟩,loc⟩,picture⟩
    rw [named_after preferred] at display
    exact ⟨(validText_kept displayName).mp display,(validText_kept preferredUsername).mp preferred,
      (validText_kept locale).mp loc,(validText_kept pictureUrl).mp picture⟩
  · rintro ⟨display,preferred,loc,picture⟩
    have preferred := (validText_kept preferredUsername).mpr preferred
    rw [named_after preferred]
    exact ⟨⟨⟨(validText_kept displayName).mpr display,preferred⟩,(validText_kept locale).mpr loc⟩,
      (validText_kept pictureUrl).mpr picture⟩

namespace Mutation

theorem behaves_refused {call : Mutation} (refused : call.result p = .error e) : call.Behaves p ↔ call.after p = p := by
  constructor
  · exact fun behaved => behaved.1 e refused
  · intro same
    refine ⟨fun _ _ => same,fun changed done => ?_⟩
    rw [refused] at done
    cases done

theorem behaves_done {call : Mutation} (done : call.result p = .ok changed) (stored : Storable changed) : call.Behaves p := by
  constructor
  · intro e refused
    rw [done] at refused
    cases refused
  · intro other also
    rw [done] at also
    cases also
    exact restored_iff.mpr ⟨rfl,stored⟩

-- The object is as the call has left it; only an in-time refusal can leave it short of the checks.
theorem after_stored {call : Mutation} (stored : Storable p) (behaved : call.Behaves p) : Storable (call.after p) := by
  cases outcome : call.result p with
  | error e =>
    rw [behaved.1 e outcome]
    exact stored
  | ok changed =>
    have held : call.after p = changed := by
      unfold after
      rw [outcome]
    rw [held]
    exact (restored_iff.mp (behaved.2 changed outcome)).2

theorem behaves_assigned {call : Mutation} {fits : Prop} (q : IdentityProfile) (differs : q = p → fits)
    (refused : ¬fits → ∃ e,call.result p = .error e ∧ call.after p = q)
    (done : fits → ∃ changed,call.result p = .ok changed ∧ Storable changed) : call.Behaves p ↔ fits := by
  by_cases valid : fits
  · obtain ⟨changed,outcome,stored⟩ := done valid
    exact iff_of_true (behaves_done outcome stored) valid
  · obtain ⟨e,outcome,held⟩ := refused valid
    rw [behaves_refused outcome,held]
    exact iff_of_false (fun same => valid (differs same)) valid

theorem behaves_late {call : Mutation} (refused : call.result p = .error e) (held : call.after p = p) : call.Behaves p :=
  (behaves_refused refused).mpr held

theorem applyVerifiedClaims_behaves (claims : VerifiedClaims) (now : Instant) (stored : Storable p) :
    Behaves (.applyVerifiedClaims claims now) p ↔ Meets (.applyVerifiedClaims claims now) p := by
  have shown := withVerifiedClaims_shown claims stored
  have email : validText (p.withVerifiedClaims claims).email 320 = validText (claims.get .email) 320 := validText_or stored.email
  have phone : validText (p.withVerifiedClaims claims).phoneNumber 32 = validText (claims.get .phoneNumber) 32 :=
    validText_or stored.phoneNumber
  by_cases late : now < p.updatedAt
  · have refused : result p (.applyVerifiedClaims claims now) =
        fail .failedPrecondition "Profile claims cannot move time backwards." := if_pos late
    have held : after (.applyVerifiedClaims claims now) p = p := by
      unfold after
      rw [refused]
      exact if_pos late
    exact iff_of_true (behaves_late refused held) fun forward => absurd late (Int.not_lt.mpr forward)
  have forward : p.updatedAt ≤ now := Int.not_lt.mp late
  have met : Meets (.applyVerifiedClaims claims now) p ↔ (p.withVerifiedClaims claims).validPresentation = true ∧
      validText (p.withVerifiedClaims claims).email 320 = true ∧ validText (p.withVerifiedClaims claims).phoneNumber 32 = true := by
    rw [shown,email,phone]
    exact ⟨fun met => met forward,fun valid _ => valid⟩
  rw [met]
  refine behaves_assigned (p.withVerifiedClaims claims) (fun same => by rw [same]; exact ⟨stored.shown,stored.email,stored.phoneNumber⟩) ?_ ?_
  · intro invalid
    have refused : result p (.applyVerifiedClaims claims now) =
        fail .invalidArgument "Verified profile claims exceeded platform limits." := by
      simp only [result,IdentityProfile.applyVerifiedClaims,if_neg late]
      rw [not_and_or,not_and_or] at invalid
      rw [if_pos (by simpa [or_assoc] using invalid)]
    refine ⟨_,refused,?_⟩
    unfold after
    rw [refused]
    exact if_neg late
  · rintro ⟨presented,mailed,phoned⟩
    refine ⟨{ p.withVerifiedClaims claims with updatedAt := now },?_,⟨stored.named,presented,mailed,phoned,stored.avatarSource,
      Int.le_trans stored.forward forward,?_,?_⟩⟩
    · simp [result,IdentityProfile.applyVerifiedClaims,if_neg late,presented,mailed,phoned]
    · intro claimed
      cases given : claims.get .email with
      | some text => simp [IdentityProfile.withVerifiedClaims,given]
      | none => simpa [IdentityProfile.withVerifiedClaims,given] using stored.emailClaimed (by
          simpa [IdentityProfile.withVerifiedClaims,given] using claimed)
    · intro claimed
      cases given : claims.get .phoneNumber with
      | some text => simp [IdentityProfile.withVerifiedClaims,given]
      | none => simpa [IdentityProfile.withVerifiedClaims,given] using stored.phoneNumberClaimed (by
          simpa [IdentityProfile.withVerifiedClaims,given] using claimed)

theorem refreshPresentationClaims_behaves (claims : VerifiedClaims) (now : Instant) (stored : Storable p) :
    Behaves (.refreshPresentationClaims claims now) p ↔ Meets (.refreshPresentationClaims claims now) p := by
  by_cases late : now < p.updatedAt
  · have refused : result p (.refreshPresentationClaims claims now) =
        fail .failedPrecondition "Profile claims cannot move time backwards." := if_pos late
    have held : after (.refreshPresentationClaims claims now) p = p := by
      unfold after
      rw [refused]
      exact if_pos late
    exact iff_of_true (behaves_late refused held) fun forward => absurd late (Int.not_lt.mpr forward)
  have forward : p.updatedAt ≤ now := Int.not_lt.mp late
  have met : Meets (.refreshPresentationClaims claims now) p ↔ (p.withPresentationClaims claims).validPresentation = true := by
    rw [withPresentationClaims_shown claims stored]
    exact ⟨fun met => met forward,fun valid _ => valid⟩
  rw [met]
  refine behaves_assigned (p.withPresentationClaims claims) (fun same => by rw [same]; exact stored.shown) ?_ ?_
  · intro invalid
    have refused : result p (.refreshPresentationClaims claims now) =
        fail .invalidArgument "Provider presentation claims exceeded platform limits." := by
      simp only [result,IdentityProfile.refreshPresentationClaims,if_neg late]
      rw [if_pos (by simpa using invalid)]
    refine ⟨_,refused,?_⟩
    unfold after
    rw [refused]
    exact if_neg late
  · intro presented
    refine ⟨if p.withPresentationClaims claims = p then p else { p.withPresentationClaims claims with updatedAt := now },?_,?_⟩
    · simp only [result,IdentityProfile.refreshPresentationClaims,if_neg late]
      rw [if_neg (by simpa using presented)]
    · split
      · exact stored
      · exact ⟨stored.named,presented,stored.email,stored.phoneNumber,stored.avatarSource,
          Int.le_trans stored.forward forward,stored.emailClaimed,stored.phoneNumberClaimed⟩

theorem checked_first {call : Mutation} (checked : ∀ e,call.result p = .error e → call.after p = p)
    (done : ∀ changed,call.result p = .ok changed → Storable changed) : call.Behaves p :=
  ⟨checked,fun changed outcome => restored_iff.mpr ⟨rfl,done changed outcome⟩⟩

theorem behaves_iff (call : Mutation) (p : IdentityProfile) (stored : Storable p) : call.Behaves p ↔ call.Meets p := by
  cases call with
  | applyVerifiedClaims claims now => exact applyVerifiedClaims_behaves claims now stored
  | refreshPresentationClaims claims now => exact refreshPresentationClaims_behaves claims now stored
  | updateSelfService displayName preferredUsername locale pictureUrl now =>
    refine iff_of_true (checked_first (fun e refused => by unfold after; rw [refused]) fun changed outcome => ?_) trivial
    have forward : ¬now < p.updatedAt := by
      intro late
      have refused : result p (.updateSelfService displayName preferredUsername locale pictureUrl now) =
          fail .failedPrecondition "Profile updates cannot move time backwards." := if_pos late
      rw [refused] at outcome
      cases outcome
    obtain ⟨shown,rfl⟩ := IdentityProfile.updateSelfService_spec outcome
    exact ⟨stored.named,shown,stored.email,stored.phoneNumber,stored.avatarSource,
      Int.le_trans stored.forward (Int.not_lt.mp forward),stored.emailClaimed,stored.phoneNumberClaimed⟩
  | setEmail email verified now =>
    refine iff_of_true (checked_first (fun e refused => by unfold after; rw [refused]) fun changed outcome => ?_) trivial
    rcases IdentityProfile.setEmail_cases p email verified now with ⟨⟨forward,valid⟩,done⟩ | ⟨_,e,refused⟩
    · cases done.symm.trans outcome
      exact ⟨stored.named,stored.shown,valid,stored.phoneNumber,stored.avatarSource,Int.le_trans stored.forward forward,
        fun _ => rfl,stored.phoneNumberClaimed⟩
    · cases refused.symm.trans outcome
  | setPhoneNumber phoneNumber verified now =>
    refine iff_of_true (checked_first (fun e refused => by unfold after; rw [refused]) fun changed outcome => ?_) trivial
    simp only [result,IdentityProfile.setPhoneNumber] at outcome
    split at outcome
    · cases outcome
    rename_i taken
    simp only [Bool.or_eq_true,decide_eq_true_eq,Bool.not_eq_true',not_or,Int.not_lt,Bool.not_eq_false] at taken
    cases outcome
    exact ⟨stored.named,stored.shown,stored.email,taken.2,stored.avatarSource,Int.le_trans stored.forward taken.1,
      stored.emailClaimed,fun _ => rfl⟩
  | setAvatarSource avatarSource now =>
    refine iff_of_true (checked_first (fun e refused => by unfold after; rw [refused]) fun changed outcome => ?_) trivial
    simp only [result,IdentityProfile.setAvatarSource] at outcome
    split at outcome
    · cases outcome
    rename_i taken
    simp only [Bool.or_eq_true,decide_eq_true_eq,not_or,Int.not_lt,Nat.not_lt,Bool.not_eq_true] at taken
    obtain ⟨⟨⟨forward,filled⟩,short⟩,printable⟩ := taken
    cases outcome
    exact ⟨stored.named,stored.shown,stored.email,stored.phoneNumber,by simp [validText,filled,short,printable],
      Int.le_trans stored.forward forward,stored.emailClaimed,stored.phoneNumberClaimed⟩

end Mutation

-- A profile as the class hands it out: a new one, or one loaded from its twelve stored members.
def Built (p : IdentityProfile) : Prop :=
  (∃ identity createdAt,IdentityProfile.create identity createdAt = .ok p) ∨ ∃ saved,restored saved = .ok p

theorem Built.storable (built : Built p) : Storable p := by
  rcases built with ⟨identity,createdAt,made⟩ | ⟨saved,loaded⟩
  · exact created_storable made
  · obtain ⟨rfl,stored⟩ := restored_iff.mp loaded
    exact stored

-- The claims that an in-time call takes over must be within the limits; nothing else can go wrong.
theorem mutators_behave (built : Built p) (calls : List Mutation) :
    Throughout Mutation.after Mutation.Behaves calls p ↔ Throughout Mutation.after Mutation.Meets calls p :=
  throughout_iff Mutation.behaves_iff (fun _ _ => Mutation.after_stored) built.storable

def ada : IdentityProfile := ⟨⟨"id-1"⟩,none,none,none,false,none,false,none,none,"auto",100,100⟩

theorem ada_built : Built ada := .inl ⟨⟨"id-1"⟩,100,rfl⟩

theorem mutators_behave_renamed :
    Throughout Mutation.after Mutation.Behaves [.setEmail "ada@example.org" true 120,.updateSelfService "Ada" none none none 110] ada :=
  (mutators_behave ada_built _).mpr ⟨trivial,trivial,trivial⟩

-- The display name stays assigned when the locale that came with it is refused.
theorem refused_claims_assigned : ¬∀ (p : IdentityProfile) (call : Mutation),Built p → call.Behaves p := by
  intro claimed
  let claims : VerifiedClaims := ⟨Std.ExtTreeMap.ofList [(Text.of "display_name",Text.of "Ada"),(Text.of "locale",Text.of "")]⟩
  have met := (Mutation.behaves_iff (.applyVerifiedClaims claims 120) ada ada_built.storable).mp (claimed _ _ ada_built)
  have fits := (met (by decide)).1.locale trivial
  exact absurd fits (by decide)

end OpenProof.ProfileMutators
