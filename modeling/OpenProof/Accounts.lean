import OpenProof.IdentityProfiles

namespace OpenProof.Accounts
open Foundation ExternalIdentities Identities

structure VerificationIdTag
abbrev VerificationId := StrongId VerificationIdTag

inductive VerificationPurpose where
  | signupEmail
  | changeEmail
  | verifyPhone
  | passwordReset
  deriving DecidableEq

inductive VerificationChannel where
  | email
  | sms
  deriving DecidableEq

abbrev VerificationDigest := Sha256Digest

structure VerificationChallenge where
  id : VerificationId
  identity : IdentityId
  purpose : VerificationPurpose
  channel : VerificationChannel
  destination : Text
  digest : VerificationDigest
  createdAt : Instant
  expiresAt : Instant
  named : id.empty = false ∧ identity.empty = false
  addressed : destination ≠ [] ∧ destination.length ≤ 512
  lasting : createdAt < expiresAt
  deriving DecidableEq

namespace VerificationChallenge

def create (id : VerificationId) (identity : IdentityId) (purpose : VerificationPurpose)
    (channel : VerificationChannel) (destination : Text) (digest : VerificationDigest) (createdAt : Instant)
    (lifetime : Duration) : Result VerificationChallenge :=
  if formed : (id.empty = false ∧ identity.empty = false) ∧ (destination ≠ [] ∧ destination.length ≤ 512) ∧
      0 < lifetime then
    .ok ⟨id,identity,purpose,channel,destination,digest,createdAt,createdAt+lifetime,formed.1,formed.2.1,
      Int.lt_add_of_pos_right createdAt formed.2.2⟩
  else fail .invalidArgument "The verification challenge is invalid."

def expiredAt (challenge : VerificationChallenge) (now : Instant) : Bool := challenge.expiresAt ≤ now

end VerificationChallenge

structure VerificationDispatch where
  id : VerificationId
  identity : IdentityId
  purpose : VerificationPurpose
  channel : VerificationChannel
  destination : Text
  secret : Text
  expiresAt : Instant

def invalidVerification (detail : Text) : Error :=
  .of .authenticationFailed (defaultErrorMessage .authenticationFailed) detail

structure ChallengeState where
  challenge : VerificationChallenge
  attempts : Nat

structure Reservation where
  identity : IdentityId
  expiresAt : Instant
  deriving DecidableEq

-- `InMemoryAccountRepository`; each method holds the mutex for its whole body.
structure AccountRepository where
  challenges : Map VerificationId ChallengeState
  reservations : Map ExternalKey Reservation

namespace AccountRepository

-- An `emplace` after the erasure: a challenge of another identity under the same id stays.
def replace (challenge : VerificationChallenge) (repository : AccountRepository) : AccountRepository :=
  { repository with
    challenges := (repository.challenges.filter fun _ state =>
      !(state.challenge.identity = challenge.identity ∧ state.challenge.purpose = challenge.purpose)).insertIfNew
        challenge.id ⟨challenge,0⟩ }

def consume (id : VerificationId) (presented : VerificationDigest) (now : Instant) (maximumAttempts : Nat)
    (expectedIdentity : Option IdentityId) (repository : AccountRepository) :
    Result VerificationChallenge × AccountRepository :=
  let without := { repository with challenges := repository.challenges.erase id }
  if maximumAttempts = 0 then (fail .invalidArgument "Verification attempt policy is invalid.",repository)
  else match repository.challenges[id]? with
    | none => (.error (invalidVerification "Verification challenge is unknown or consumed."),repository)
    | some found =>
      if expectedIdentity.any fun expected => found.challenge.identity ≠ expected then
        (.error (invalidVerification "Verification challenge does not belong to the authenticated identity."),
          repository)
      else if found.challenge.expiredAt now || maximumAttempts ≤ found.attempts then
        (.error (invalidVerification "Verification challenge expired or exhausted."),without)
      else if found.challenge.digest ≠ presented then
        (.error (invalidVerification "Verification secret did not match."),
          if maximumAttempts ≤ found.attempts+1 then without
          else { repository with
            challenges := repository.challenges.insert id { found with attempts := found.attempts+1 } })
      else (.ok found.challenge,without)

def reserveSubject (external : ExternalIdentityRef) (identity : IdentityId) (now expiresAt : Instant)
    (repository : AccountRepository) : Result Unit × AccountRepository :=
  let reserved := { repository with
    reservations := repository.reservations.insert external.key ⟨identity,expiresAt⟩ }
  if external.providerId.empty || external.subject.empty || identity.empty then
    (fail .invalidArgument "An account subject reservation is invalid.",repository)
  else match repository.reservations[external.key]? with
    | none => (.ok (),reserved)
    | some found =>
      if found.expiresAt ≤ now || found.identity = identity then (.ok (),reserved)
      else (fail .alreadyExists "That account identifier is already reserved.",repository)

def reservedOwner (external : ExternalIdentityRef) (now : Instant) (repository : AccountRepository) :
    Option IdentityId :=
  match repository.reservations[external.key]? with
  | none => none
  | some found => if found.expiresAt ≤ now then none else some found.identity

def releaseSubject (external : ExternalIdentityRef) (expectedOwner : IdentityId) (repository : AccountRepository) :
    Result Unit × AccountRepository :=
  match repository.reservations[external.key]? with
  | none => (.ok (),repository)
  | some found =>
    if found.identity ≠ expectedOwner then
      (fail .permissionDenied "That account reservation belongs to another identity.",repository)
    else (.ok (),{ repository with reservations := repository.reservations.erase external.key })

theorem reserveSubject_cases (external : ExternalIdentityRef) (identity : IdentityId) (now expiresAt : Instant)
    (repository : AccountRepository) :
    (∃ e,repository.reserveSubject external identity now expiresAt = (.error e,repository)) ∨
      repository.reserveSubject external identity now expiresAt = (.ok (),{ repository with
        reservations := repository.reservations.insert external.key ⟨identity,expiresAt⟩ }) := by
  unfold reserveSubject
  split
  · exact .inl ⟨_,rfl⟩
  · split
    · exact .inr rfl
    · split
      · exact .inr rfl
      · exact .inl ⟨_,rfl⟩

theorem reserveSubject_fails {repository : AccountRepository}
    (failed : (repository.reserveSubject external identity now expiresAt).1 = .error e) :
    (repository.reserveSubject external identity now expiresAt).2 = repository := by
  rcases reserveSubject_cases external identity now expiresAt repository with ⟨e',same⟩ | same
  · rw [same]
  · rw [same] at failed
    cases failed

theorem reserveSubject_named {repository : AccountRepository}
    (done : (repository.reserveSubject external identity now expiresAt).1 = .ok ()) :
    external.providerId.empty = false ∧ identity.empty = false := by
  unfold reserveSubject at done
  split at done
  · cases done
  · rename_i named
    simp only [Bool.or_eq_true,not_or,Bool.not_eq_true] at named
    exact ⟨named.1.1,named.2⟩

theorem releaseSubject_cases (external : ExternalIdentityRef) (expectedOwner : IdentityId)
    (repository : AccountRepository) : (repository.releaseSubject external expectedOwner).2 = repository ∨
      (repository.releaseSubject external expectedOwner).2 =
        { repository with reservations := repository.reservations.erase external.key } := by
  unfold releaseSubject
  split
  · exact .inl rfl
  · split
    · exact .inl rfl
    · exact .inr rfl

theorem reservedOwner_some {repository : AccountRepository}
    (reserved : repository.reservedOwner external now = some identity) :
    ∃ found,repository.reservations[external.key]? = some found ∧ found.identity = identity ∧ now < found.expiresAt := by
  unfold reservedOwner at reserved
  split at reserved
  · cases reserved
  · rename_i found known
    split at reserved
    · cases reserved
    · rename_i alive
      exact ⟨found,known,Option.some.inj reserved,Int.not_le.mp alive⟩

theorem consume_reservations (id : VerificationId) (presented : VerificationDigest) (now : Instant) (maximumAttempts : Nat)
    (expectedIdentity : Option IdentityId) (repository : AccountRepository) :
    (repository.consume id presented now maximumAttempts expectedIdentity).2.reservations = repository.reservations := by
  unfold consume
  split
  · rfl
  · split
    · rfl
    · split
      · rfl
      · split
        · rfl
        · split
          · split <;> rfl
          · rfl

def Admits (found : ChallengeState) (maximumAttempts : Nat) (expectedIdentity : Option IdentityId) : Prop :=
  maximumAttempts ≠ 0 ∧ ∀ expected,expectedIdentity = some expected → found.challenge.identity = expected

inductive Redeeming (id : VerificationId) (presented : VerificationDigest) (now : Instant) (maximumAttempts : Nat)
    (expectedIdentity : Option IdentityId) (repository : AccountRepository) :
    Result VerificationChallenge × AccountRepository → Prop where
  | unseen (e : Error)
      (kept : ∀ found,repository.challenges[id]? = some found → ¬Admits found maximumAttempts expectedIdentity) :
      Redeeming id presented now maximumAttempts expectedIdentity repository (.error e,repository)
  | lapsed (e : Error) (found : ChallengeState) (known : repository.challenges[id]? = some found)
      (seen : Admits found maximumAttempts expectedIdentity)
      (late : e = invalidVerification "Verification challenge expired or exhausted." ∧
          (found.challenge.expiresAt ≤ now ∨ maximumAttempts ≤ found.attempts) ∨
        e = invalidVerification "Verification secret did not match." ∧ found.challenge.digest ≠ presented) :
      Redeeming id presented now maximumAttempts expectedIdentity repository
        (.error e,{ repository with challenges := repository.challenges.erase id })
  | counted (found : ChallengeState) (known : repository.challenges[id]? = some found)
      (seen : Admits found maximumAttempts expectedIdentity) (wrong : found.challenge.digest ≠ presented)
      (left : found.attempts+1 < maximumAttempts) :
      Redeeming id presented now maximumAttempts expectedIdentity repository
        (.error (invalidVerification "Verification secret did not match."),{ repository with
          challenges := repository.challenges.insert id { found with attempts := found.attempts+1 } })
  | redeemed (found : ChallengeState) (known : repository.challenges[id]? = some found)
      (seen : Admits found maximumAttempts expectedIdentity) (right : found.challenge.digest = presented)
      (alive : now < found.challenge.expiresAt) (left : found.attempts < maximumAttempts) :
      Redeeming id presented now maximumAttempts expectedIdentity repository
        (.ok found.challenge,{ repository with challenges := repository.challenges.erase id })

theorem consume_cases (id : VerificationId) (presented : VerificationDigest) (now : Instant) (maximumAttempts : Nat)
    (expectedIdentity : Option IdentityId) (repository : AccountRepository) :
    Redeeming id presented now maximumAttempts expectedIdentity repository
      (repository.consume id presented now maximumAttempts expectedIdentity) := by
  unfold consume
  dsimp only
  split
  · rename_i none
    exact .unseen _ fun found _ seen => seen.1 none
  · rename_i positive
    split
    · rename_i unknown
      apply Redeeming.unseen
      intro found known
      rw [unknown] at known
      cases known
    · rename_i found known
      split
      · rename_i foreign
        apply Redeeming.unseen
        intro same stored seen
        rw [known] at stored
        cases stored
        obtain ⟨expected,named,other⟩ := (Option.any_eq_true _ _).mp foreign
        simp [seen.2 expected named] at other
      · rename_i named
        have seen : Admits found maximumAttempts expectedIdentity := by
          refine ⟨positive,?_⟩
          rintro expected rfl
          simpa using named
        split
        · rename_i late
          exact .lapsed _ found known seen (.inl ⟨rfl,by simpa [VerificationChallenge.expiredAt] using late⟩)
        · rename_i lasting
          simp only [VerificationChallenge.expiredAt,Bool.or_eq_true,decide_eq_true_eq,not_or,Int.not_le,Nat.not_le]
            at lasting
          split
          · rename_i wrong
            split
            · exact .lapsed _ found known seen (.inr ⟨rfl,wrong⟩)
            · rename_i left
              exact .counted found known seen wrong (Nat.not_le.mp left)
          · rename_i right
            exact .redeemed found known seen (not_not.mp right) lasting.1 lasting.2

theorem consume_foreign {id : VerificationId} {repository : AccountRepository} (presented : VerificationDigest)
    (now : Instant) (maximumAttempts : Nat) (known : repository.challenges[id]? = some found)
    (foreign : found.challenge.identity ≠ other) :
    ∃ e,repository.consume id presented now maximumAttempts (some other) = (.error e,repository) := by
  have reached := consume_cases id presented now maximumAttempts (some other) repository
  generalize repository.consume id presented now maximumAttempts (some other) = outcome at reached ⊢
  have refused : ∀ state,repository.challenges[id]? = some state → ¬Admits state maximumAttempts (some other) := by
    rintro state stored ⟨-,named⟩
    cases known.symm.trans stored
    exact foreign (named other rfl)
  cases reached with
  | unseen e unseen => exact ⟨e,rfl⟩
  | lapsed e state stored seen late => exact absurd seen (refused state stored)
  | counted state stored seen wrong left => exact absurd seen (refused state stored)
  | redeemed state stored seen right alive left => exact absurd seen (refused state stored)

theorem replace_cases {repository : AccountRepository} {id : VerificationId}
    (known : (repository.replace challenge).challenges[id]? = some found) :
    (id = challenge.id ∧ found = ⟨challenge,0⟩) ∨ repository.challenges[id]? = some found ∧
      ¬(found.challenge.identity = challenge.identity ∧ found.challenge.purpose = challenge.purpose) := by
  simp only [replace,Std.ExtTreeMap.getElem?_insertIfNew] at known
  split at known
  · rename_i fresh
    exact .inl ⟨(Std.LawfulEqOrd.eq_of_compare fresh.1).symm,(Option.some.inj known).symm⟩
  · rw [Std.ExtTreeMap.getElem?_filter'] at known
    obtain ⟨stored,keeps⟩ := Option.filter_eq_some_iff.mp known
    exact .inr ⟨stored,by simpa [imp_iff_not_or] using keeps⟩

end AccountRepository

structure PasswordHash where
  encoded : Text
  deriving DecidableEq

structure LocalAccount where
  identity : Option IdentityId
  password : PasswordHash
  deriving DecidableEq

-- `InMemoryLocalAccountDirectory`; the second factor has no part in a signup.
abbrev LocalAccounts := Map ExternalSubject LocalAccount

namespace LocalAccounts

def isValidSubject (subject : ExternalSubject) : Bool :=
  !subject.empty && subject.value.length ≤ 320 && !subject.value.any isControl

def enrollPending (canonicalIdentity : IdentityId) (subject : ExternalSubject)
    (passwordHash : Result PasswordHash) (accounts : LocalAccounts) : Result Unit × LocalAccounts :=
  if canonicalIdentity.empty || !isValidSubject subject then
    (fail .invalidArgument "A pending local account requires valid identity and subject values.",accounts)
  else match passwordHash with
    | .error e => (.error e,accounts)
    | .ok hash =>
      if accounts.holds subject then (fail .alreadyExists "The local account already exists.",accounts)
      else (.ok (),accounts.insert subject ⟨some canonicalIdentity,hash⟩)

def removePending (identity : IdentityId) (subject : ExternalSubject) (accounts : LocalAccounts) :
    Result Unit × LocalAccounts :=
  match accounts[subject]? with
  | none => (.ok (),accounts)
  | some found =>
    if found.identity ≠ some identity then
      (fail .permissionDenied "The pending local account is owned by another identity.",accounts)
    else (.ok (),accounts.erase subject)

def authenticationFailure (detail : Text) : Error :=
  .of .authenticationFailed (defaultErrorMessage .authenticationFailed) detail

def rebindSubject (identity : IdentityId) (previous replacement : ExternalSubject) (accounts : LocalAccounts) :
    Result Unit × LocalAccounts :=
  if identity.empty || previous.empty || !isValidSubject replacement then
    (fail .invalidArgument "A local account rebind requires valid identifiers.",accounts)
  else if accounts.holds replacement then
    (fail .alreadyExists "The replacement local account subject already exists.",accounts)
  else match accounts[previous]? with
    | none => (.error (authenticationFailure "Local account is unknown."),accounts)
    | some found =>
      if found.identity.any fun owner => owner ≠ identity then
        (fail .permissionDenied "The local account is owned by another identity.",accounts)
      else (.ok (),(accounts.erase previous).insert replacement { found with identity := some identity })

def changePassword (subject : ExternalSubject) (passwordHash : Result PasswordHash) (accounts : LocalAccounts) :
    Result Unit × LocalAccounts :=
  match passwordHash with
  | .error e => (.error e,accounts)
  | .ok hash =>
    match accounts[subject]? with
    | none => (.error (authenticationFailure "Local account is unknown."),accounts)
    | some found => (.ok (),accounts.insert subject { found with password := hash })

theorem enrollPending_cases (canonicalIdentity : IdentityId) (subject : ExternalSubject)
    (passwordHash : Result PasswordHash) (accounts : LocalAccounts) :
    (∃ e,accounts.enrollPending canonicalIdentity subject passwordHash = (.error e,accounts)) ∨
      ∃ hash,isValidSubject subject = true ∧ passwordHash = .ok hash ∧ accounts[subject]? = none ∧
        accounts.enrollPending canonicalIdentity subject passwordHash =
          (.ok (),accounts.insert subject ⟨some canonicalIdentity,hash⟩) := by
  unfold enrollPending
  split
  · exact .inl ⟨_,rfl⟩
  · rename_i formed
    cases passwordHash with
    | error e => exact .inl ⟨e,rfl⟩
    | ok hash =>
      dsimp only
      split
      · exact .inl ⟨_,rfl⟩
      · rename_i free
        simp only [Bool.or_eq_true,Bool.not_eq_true',not_or,Bool.not_eq_false] at formed
        simp only [Map.holds,Bool.not_eq_true,Option.isSome_eq_false_iff,Option.isNone_iff_eq_none] at free
        exact .inr ⟨hash,formed.2,rfl,free,rfl⟩

theorem enrollPending_fails {accounts : LocalAccounts}
    (failed : (accounts.enrollPending canonicalIdentity subject passwordHash).1 = .error e) :
    (accounts.enrollPending canonicalIdentity subject passwordHash).2 = accounts := by
  rcases enrollPending_cases canonicalIdentity subject passwordHash accounts with ⟨e',same⟩ | ⟨hash,-,-,-,same⟩
  · rw [same]
  · rw [same] at failed
    cases failed

theorem removePending_cases (identity : IdentityId) (subject : ExternalSubject) (accounts : LocalAccounts) :
    (accounts.removePending identity subject).2 = accounts ∨
      (accounts.removePending identity subject).2 = accounts.erase subject := by
  unfold removePending
  split
  · exact .inl rfl
  · split
    · exact .inl rfl
    · exact .inr rfl

end LocalAccounts

end OpenProof.Accounts
