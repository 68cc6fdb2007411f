import OpenProof.Identities

namespace OpenProof.ExternalIdentities
open Foundation Identities
open Std

structure ExternalSubjectTag
abbrev ExternalSubject := StrongId ExternalSubjectTag

inductive ClaimName where
  | email
  | emailVerified
  | phoneNumber
  | phoneNumberVerified
  | displayName
  | preferredUsername
  | locale
  | pictureUrl
  deriving DecidableEq

def claimNameKey : ClaimName → Text
  | .email => "email"
  | .emailVerified => "email_verified"
  | .phoneNumber => "phone_number"
  | .phoneNumberVerified => "phone_number_verified"
  | .displayName => "display_name"
  | .preferredUsername => "preferred_username"
  | .locale => "locale"
  | .pictureUrl => "picture_url"

structure VerifiedClaims where
  claims : Map Text Text

namespace VerifiedClaims

def get (claims : VerifiedClaims) (name : ClaimName) : Option Text := claims.claims[claimNameKey name]?

def isTrue (claims : VerifiedClaims) (name : ClaimName) : Bool :=
  (claims.get name).any fun value => value == Text.of "true" || value == Text.of "1"

end VerifiedClaims

structure AuthenticationOutcome where
  provider : ProviderId
  subject : ExternalSubject
  claims : VerifiedClaims
  claimedAssurance : AssuranceLevel
  strength : AuthenticationStrength
  evidence : Map Text Text
  verifiedAt : Instant
  named : provider.empty = false ∧ subject.empty = false

def AuthenticationOutcome.create (provider : ProviderId) (subject : ExternalSubject) (claims : VerifiedClaims)
    (claimedAssurance : AssuranceLevel) (strength : AuthenticationStrength) (evidence : Map Text Text)
    (verifiedAt : Instant) : Result AuthenticationOutcome :=
  if unnamed : provider.empty = true then
    fail .invalidArgument "An authentication outcome must name its provider."
  else if nobody : subject.empty = true then
    .error (.of .invalidArgument "An authentication outcome must carry a subject identifier."
      "A provider returned an outcome with an empty external subject; accepting it would bind a session to no identity.")
  else .ok ⟨provider,subject,claims,claimedAssurance,strength,evidence,verifiedAt,
    Bool.eq_false_iff.mpr unnamed,Bool.eq_false_iff.mpr nobody⟩

-- A subject is known by its provider only; the pair is the key of every directory.
structure ExternalKey where
  provider : ProviderId
  subject : ExternalSubject
  deriving DecidableEq

instance externalKeyOrd : Ord ExternalKey :=
  ⟨compareLex (compareOn ExternalKey.provider) (compareOn ExternalKey.subject)⟩
instance externalKeyTransOrd : TransOrd ExternalKey :=
  inferInstanceAs (TransCmp (compareLex (compareOn ExternalKey.provider) (compareOn ExternalKey.subject)))
instance externalKeyLawfulEqOrd : LawfulEqOrd ExternalKey where
  compare_self {a} := (ReflCmp.compare_self :
    compareLex (compareOn ExternalKey.provider) (compareOn ExternalKey.subject) a a = .eq)
  eq_of_compare {a b} equal := by
    obtain ⟨first,second⟩ := Ordering.then_eq_eq.mp equal
    cases a
    cases b
    exact congrArg₂ ExternalKey.mk (LawfulEqOrd.eq_of_compare first) (LawfulEqOrd.eq_of_compare second)

structure ExternalIdentityRef where
  providerId : ProviderId
  subject : ExternalSubject
  displayName : Option Text
  preferredUsername : Option Text
  pictureUrl : Option Text
  deriving DecidableEq

def ExternalIdentityRef.key (external : ExternalIdentityRef) : ExternalKey := ⟨external.providerId,external.subject⟩

inductive LinkState where
  | linkRequested
  | verificationRequired
  | verified
  | linked
  | rejected
  | expired
  | revoked
  deriving DecidableEq

def linkStateName : LinkState → Text
  | .linkRequested => "link_requested"
  | .verificationRequired => "verification_required"
  | .verified => "verified"
  | .linked => "linked"
  | .rejected => "rejected"
  | .expired => "expired"
  | .revoked => "revoked"

def isPermittedTransition (source target : LinkState) : Bool :=
  match source with
  | .linkRequested => target = .verificationRequired || target = .rejected || target = .expired
  | .verificationRequired => target = .verified || target = .rejected || target = .expired
  | .verified => target = .linked || target = .rejected || target = .expired
  | .linked => target = .revoked
  | .rejected | .expired | .revoked => false

structure IdentityLink where
  owner : IdentityId
  external : ExternalIdentityRef
  requestedAt : Instant
  expiresAt : Instant
  state : LinkState
  deriving DecidableEq

namespace IdentityLink

def request (owner : IdentityId) (external : ExternalIdentityRef) (requestedAt : Instant) (lifetime : Duration) :
    Result IdentityLink :=
  if owner.empty then fail .invalidArgument "A link request must name the identity it would attach to."
  else if external.providerId.empty || external.subject.empty then
    .error (.of .invalidArgument "A link request must name a provider and an external subject."
      "An external identity is only meaningful as a (provider, subject) pair; a subject without its issuer would match unrelated subjects elsewhere.")
  else if lifetime ≤ 0 then fail .invalidArgument "A link request must have a positive lifetime."
  else .ok ⟨owner,external,requestedAt,requestedAt+lifetime,.linkRequested⟩

def isExpiredAt (link : IdentityLink) (now : Instant) : Bool := link.expiresAt ≤ now

def transitionTo (link : IdentityLink) (target : LinkState) (now : Instant) : Result IdentityLink :=
  if !isPermittedTransition link.state target then
    .error (.of .failedPrecondition "This account link cannot be advanced."
      (Text.of "Refused link transition " ++ linkStateName link.state ++ Text.of " -> " ++ linkStateName target
        ++ Text.of "."))
  else if link.isExpiredAt now then
    .error (.of .failedPrecondition "This account link request has expired."
      "Link transition refused: request deadline passed.")
  else .ok { link with state := target }

def requireVerification (link : IdentityLink) (now : Instant) : Result IdentityLink :=
  link.transitionTo .verificationRequired now
def markVerified (link : IdentityLink) (now : Instant) : Result IdentityLink := link.transitionTo .verified now
def complete (link : IdentityLink) (now : Instant) : Result IdentityLink := link.transitionTo .linked now

theorem transitionTo_spec {link after : IdentityLink} (moved : link.transitionTo target now = .ok after) : after = { link with state := target } := by
  obtain ⟨_,further⟩ := passed moved
  obtain ⟨_,advanced⟩ := passed further
  cases advanced
  rfl

end IdentityLink

-- `InMemoryExternalIdentityDirectory`; each method holds the mutex for its whole body.
structure Directory where
  owners : Map ExternalKey IdentityId
  presentations : Map ExternalKey ExternalIdentityRef

namespace Directory

def attach (link : IdentityLink) (directory : Directory) : Result Unit × Directory :=
  if link.state ≠ .linked then
    (.error (.of .failedPrecondition "This account link is not complete."
      (Text.of "Refused to attach an external identity from a link in state " ++ linkStateName link.state
        ++ Text.of "; only a Linked request may create an association.")),directory)
  else match directory.owners[link.external.key]? with
    | some existing =>
      if existing = link.owner then (.ok (),directory)
      else (.error (.of .conflict "That account is already connected to a different OpenProof identity."
        "Refused to transfer an external identity between canonical identities. Reassignment requires an explicit, separately authorised merge or recovery operation."),
        directory)
    | none => (.ok (),⟨directory.owners.insert link.external.key link.owner,
        directory.presentations.insert link.external.key link.external⟩)

def ownerOf (external : ExternalIdentityRef) (directory : Directory) : Option IdentityId :=
  directory.owners[external.key]?

def updatePresentation (external : ExternalIdentityRef) (directory : Directory) : Result Unit × Directory :=
  if !directory.owners.holds external.key then
    (fail .notFound "That connected account was not found.",directory)
  else match directory.presentations[external.key]? with
    | none => (.ok (),{ directory with presentations := directory.presentations.insert external.key external })
    | some previous => (.ok (),{ directory with
        presentations := directory.presentations.insert external.key ⟨external.providerId,external.subject,
          external.displayName.or previous.displayName,external.preferredUsername.or previous.preferredUsername,
          if external.providerId.value == Text.of "telegram" then external.pictureUrl
          else external.pictureUrl.or previous.pictureUrl⟩ })

def detach (external : ExternalIdentityRef) (expectedOwner : IdentityId) (directory : Directory) :
    Result Unit × Directory :=
  match directory.owners[external.key]? with
  | none => (fail .notFound "That connected account was not found.",directory)
  | some owner =>
    if owner ≠ expectedOwner then
      (.error (.of .permissionDenied "The request was denied."
        "Refused to detach an external identity owned by a different canonical identity."),directory)
    else (.ok (),⟨directory.owners.erase external.key,directory.presentations.erase external.key⟩)

def methods (owner : IdentityId) (authenticationProviders : List ProviderId) (directory : Directory) : Nat :=
  (directory.owners.toList.filter fun entry => entry.2 == owner && authenticationProviders.contains entry.1.provider).length

def detachIfAnotherAuthenticationMethod (external : ExternalIdentityRef) (expectedOwner : IdentityId)
    (authenticationProviders : List ProviderId) (directory : Directory) : Result Unit × Directory :=
  match directory.owners[external.key]? with
  | none => (fail .notFound "That connected account was not found.",directory)
  | some owner =>
    if owner ≠ expectedOwner then (fail .permissionDenied "The request was denied.",directory)
    else if directory.methods expectedOwner authenticationProviders ≤ 1 then
      (fail .failedPrecondition "The last available sign-in method cannot be disconnected.",directory)
    else (.ok (),⟨directory.owners.erase external.key,directory.presentations.erase external.key⟩)

def reassign (external : ExternalIdentityRef) (expectedCurrentOwner newOwner : IdentityId) (directory : Directory) :
    Result Unit × Directory :=
  match directory.owners[external.key]? with
  | none => (fail .notFound "That connected account was not found.",directory)
  | some owner =>
    if owner ≠ expectedCurrentOwner then
      (.error (.of .permissionDenied "The request was denied."
        "Refused to reassign an external identity owned by a different canonical identity. Naming an association is not evidence of controlling it."),
        directory)
    else (.ok (),{ directory with owners := directory.owners.insert external.key newOwner })

def externalIdentitiesOf (owner : IdentityId) (directory : Directory) : List ExternalIdentityRef :=
  (directory.owners.toList.filter fun entry => entry.2 == owner).map fun entry =>
    directory.presentations[entry.1]?.getD ⟨entry.1.provider,entry.1.subject,none,none,none⟩

theorem attach_owner {directory : Directory} (done : (directory.attach link).1 = .ok ()) :
    (directory.attach link).2.owners[link.external.key]? = some link.owner := by
  unfold attach at done ⊢
  split at done
  · cases done
  · rename_i complete
    rw [if_neg complete]
    split at done
    · rename_i existing found
      split at done
      · rename_i same
        rw [if_pos same,found,same]
      · cases done
    · simp

theorem reassign_cases (external : ExternalIdentityRef) (source target : IdentityId) (directory : Directory) :
    (∃ e,directory.reassign external source target = (.error e,directory)) ∨
      directory.owners[external.key]? = some source ∧ directory.reassign external source target =
        (.ok (),{ directory with owners := directory.owners.insert external.key target }) := by
  unfold Directory.reassign
  split
  · exact .inl ⟨_,rfl⟩
  · rename_i held found
    split
    · exact .inl ⟨_,rfl⟩
    · rename_i expected
      exact .inr ⟨by rw [found,not_not.mp expected],rfl⟩

end Directory

end OpenProof.ExternalIdentities
