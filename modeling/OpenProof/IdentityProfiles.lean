import OpenProof.ExternalIdentities

namespace OpenProof.IdentityProfiles
open Foundation Identities ExternalIdentities

structure IdentityProfile where
  identity : IdentityId
  displayName : Option Text
  preferredUsername : Option Text
  email : Option Text
  emailVerified : Bool
  phoneNumber : Option Text
  phoneNumberVerified : Bool
  locale : Option Text
  pictureUrl : Option Text
  avatarSource : Text
  createdAt : Instant
  updatedAt : Instant
  deriving DecidableEq

def validText (value : Option Text) (maximum : Nat) : Bool :=
  value.all fun value => !value.isEmpty && value.length ≤ maximum && !value.any isControl

namespace IdentityProfile

def create (identity : IdentityId) (createdAt : Instant) : Result IdentityProfile :=
  if identity.empty then fail .invalidArgument "An identity profile requires an identity."
  else .ok ⟨identity,none,none,none,false,none,false,none,none,"auto",createdAt,createdAt⟩

variable (profile : IdentityProfile) (claims : VerifiedClaims)

def validPresentation : Bool :=
  validText profile.displayName 256 && validText profile.preferredUsername 128
    && validText profile.locale 64 && validText profile.pictureUrl 2048

def withVerifiedClaims : IdentityProfile :=
  let preferredUsername := (claims.get .preferredUsername).or profile.preferredUsername
  { profile with
    displayName := ((claims.get .displayName).or profile.displayName).or preferredUsername
    preferredUsername := preferredUsername
    email := (claims.get .email).or profile.email
    emailVerified := if (claims.get .email).isSome then claims.isTrue .emailVerified else profile.emailVerified
    phoneNumber := (claims.get .phoneNumber).or profile.phoneNumber
    phoneNumberVerified :=
      if (claims.get .phoneNumber).isSome then claims.isTrue .phoneNumberVerified else profile.phoneNumberVerified
    locale := (claims.get .locale).or profile.locale
    pictureUrl := (claims.get .pictureUrl).or profile.pictureUrl }

def applyVerifiedClaims (now : Instant) : Result IdentityProfile :=
  let applied := profile.withVerifiedClaims claims
  if now < profile.updatedAt then fail .failedPrecondition "Profile claims cannot move time backwards."
  else if !applied.validPresentation || !validText applied.email 320 || !validText applied.phoneNumber 32 then
    fail .invalidArgument "Verified profile claims exceeded platform limits."
  else .ok { applied with updatedAt := now }

def withPresentationClaims : IdentityProfile :=
  let preferredUsername := profile.preferredUsername.or (claims.get .preferredUsername)
  { profile with
    displayName := (profile.displayName.or (claims.get .displayName)).or preferredUsername
    preferredUsername := preferredUsername
    locale := profile.locale.or (claims.get .locale)
    pictureUrl := profile.pictureUrl.or (claims.get .pictureUrl) }

def refreshPresentationClaims (now : Instant) : Result IdentityProfile :=
  let refreshed := profile.withPresentationClaims claims
  if now < profile.updatedAt then fail .failedPrecondition "Profile claims cannot move time backwards."
  else if !refreshed.validPresentation then
    fail .invalidArgument "Provider presentation claims exceeded platform limits."
  else .ok (if refreshed = profile then profile else { refreshed with updatedAt := now })

def setEmail (email : Text) (verified : Bool) (now : Instant) : Result IdentityProfile :=
  if now < profile.updatedAt || !validText (some email) 320 then
    fail .invalidArgument "The email claim is invalid."
  else .ok { profile with email := some email, emailVerified := verified, updatedAt := now }

def setPhoneNumber (phoneNumber : Text) (verified : Bool) (now : Instant) : Result IdentityProfile :=
  if now < profile.updatedAt || !validText (some phoneNumber) 32 then
    fail .invalidArgument "The phone-number claim is invalid."
  else .ok { profile with phoneNumber := some phoneNumber, phoneNumberVerified := verified, updatedAt := now }

def setAvatarSource (avatarSource : Text) (now : Instant) : Result IdentityProfile :=
  if now < profile.updatedAt || avatarSource.isEmpty || avatarSource.length > 128 || avatarSource.any isControl then
    fail .invalidArgument "Avatar source is invalid."
  else .ok { profile with avatarSource := avatarSource, updatedAt := now }

def updateSelfService (displayName preferredUsername locale pictureUrl : Option Text) (now : Instant) :
    Result IdentityProfile :=
  let updated := { profile with
    displayName := displayName, preferredUsername := preferredUsername, locale := locale, pictureUrl := pictureUrl }
  if now < profile.updatedAt then fail .failedPrecondition "Profile updates cannot move time backwards."
  else if !updated.validPresentation then fail .invalidArgument "Profile fields are invalid."
  else .ok { updated with updatedAt := now }

theorem setEmail_cases (email : Text) (verified : Bool) (now : Instant) :
    (profile.updatedAt ≤ now ∧ validText (some email) 320 = true) ∧ profile.setEmail email verified now =
        .ok { profile with email := some email, emailVerified := verified, updatedAt := now } ∨
      ¬(profile.updatedAt ≤ now ∧ validText (some email) 320 = true) ∧
        ∃ e,profile.setEmail email verified now = .error e := by
  unfold setEmail
  split
  · rename_i refused
    refine .inr ⟨?_,_,rfl⟩
    rintro ⟨forward,lettered⟩
    simp [Int.not_lt.mpr forward,lettered] at refused
  · rename_i taken
    simp only [Bool.or_eq_true,decide_eq_true_eq,Bool.not_eq_true',not_or,Int.not_lt,Bool.not_eq_false] at taken
    exact .inl ⟨taken,rfl⟩

theorem updateSelfService_spec {profile updated : IdentityProfile}
    {displayName preferredUsername locale pictureUrl : Option Text}
    (done : profile.updateSelfService displayName preferredUsername locale pictureUrl now = .ok updated) :
    updated.validPresentation = true ∧ updated = { profile with
      displayName := displayName
      preferredUsername := preferredUsername
      locale := locale
      pictureUrl := pictureUrl
      updatedAt := now } := by
  unfold updateSelfService at done
  dsimp only at done
  split at done
  · cases done
  · split at done
    · cases done
    · rename_i shown
      cases done
      simp only [Bool.not_eq_true',Bool.not_eq_false] at shown
      exact ⟨shown,rfl⟩

theorem displayName_cases (name : Text) (now : Instant) :
    (profile.updatedAt ≤ now ∧ validText (some name) 256 = true) ∧
        (∃ updated,profile.updateSelfService (some name) none none none now = .ok updated) ∨
      ¬(profile.updatedAt ≤ now ∧ validText (some name) 256 = true) ∧
        ∃ e,profile.updateSelfService (some name) none none none now = .error e := by
  have only : ∀ maximum,validText none maximum = true := fun _ => rfl
  unfold updateSelfService
  simp only [validPresentation,only,Bool.and_true]
  split
  · rename_i back
    exact .inr ⟨fun both => absurd back (Int.not_lt.mpr both.1),_,rfl⟩
  · rename_i forward
    split
    · rename_i refused
      refine .inr ⟨?_,_,rfl⟩
      rintro ⟨-,lettered⟩
      simp [lettered] at refused
    · rename_i taken
      simp only [Bool.not_eq_true',Bool.not_eq_false] at taken
      exact .inl ⟨⟨Int.not_lt.mp forward,taken⟩,_,rfl⟩

end IdentityProfile

-- `std::tolower` in the C locale.
def toLower (text : Text) : Text := text.map fun symbol => if isUpper symbol then symbol+32 else symbol

abbrev ProfileStore := Map IdentityId IdentityProfile

namespace ProfileStore

def save (profile : IdentityProfile) (profiles : ProfileStore) : ProfileStore := profiles.insert profile.identity profile

def findVerifiedByEmail (email : Text) (profiles : ProfileStore) : List IdentityId :=
  (profiles.toList.filter fun entry =>
    entry.2.emailVerified && entry.2.email.any fun candidate => toLower candidate == toLower email).map Prod.fst

end ProfileStore

end OpenProof.IdentityProfiles
