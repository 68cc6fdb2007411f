import OpenProof.Identities

namespace OpenProof.Sessions
open Foundation Identities

structure SessionIdTag
abbrev SessionId := StrongId SessionIdTag

abbrev TokenDigest := Sha256Digest

inductive SessionState where
  | active
  | revoked
  | expired
  deriving DecidableEq

def sessionStateName : SessionState → Text
  | .active => "active"
  | .revoked => "revoked"
  | .expired => "expired"

def invalidSession (detail : Text) : Error :=
  .of .authenticationFailed (defaultErrorMessage .authenticationFailed) detail

structure Session where
  id : SessionId
  identity : IdentityId
  provider : ProviderId
  assurance : AssuranceLevel
  strength : AuthenticationStrength
  state : SessionState
  authenticatedAt : Instant
  tokenDigest : TokenDigest
  issuedAt : Instant
  lastSeenAt : Instant
  absoluteExpiresAt : Instant
  idleTimeout : Duration
  revokedAt : Option Instant
  userAgent : Option Text
  remoteAddress : Option Text
  named : id.empty = false ∧ identity.empty = false ∧ provider.empty = false
  lasting : issuedAt < absoluteExpiresAt ∧ 0 < idleTimeout
  grown : authenticatedAt ≤ issuedAt
  deriving DecidableEq

namespace Session

theorem all_named {id : SessionId} {identity : IdentityId} {provider : ProviderId}
    (named : ¬(id.empty = true ∨ identity.empty = true ∨ provider.empty = true)) :
    id.empty = false ∧ identity.empty = false ∧ provider.empty = false := by
  simpa only [not_or,Bool.not_eq_true] using named

theorem all_lasting {issuedAt : Instant} {absoluteLifetime idleTimeout : Duration}
    (lasting : ¬(absoluteLifetime ≤ 0 ∨ idleTimeout ≤ 0)) : issuedAt < issuedAt+absoluteLifetime ∧ 0 < idleTimeout := by
  obtain ⟨absolute,idle⟩ := not_or.mp lasting
  exact ⟨Int.lt_add_of_pos_right issuedAt (Int.not_le.mp absolute),Int.not_le.mp idle⟩

theorem all_grown {authenticatedAt issuedAt : Instant} (grown : ¬authenticatedAt > issuedAt) : authenticatedAt ≤ issuedAt :=
  Int.not_lt.mp grown

def create (id : SessionId) (identity : IdentityId) (provider : ProviderId) (assurance : AssuranceLevel)
    (strength : AuthenticationStrength) (authenticatedAt : Instant) (tokenDigest : TokenDigest) (issuedAt : Instant)
    (absoluteLifetime idleTimeout : Duration) (userAgent remoteAddress : Option Text) : Result Session :=
  if unnamed : id.empty = true ∨ identity.empty = true ∨ provider.empty = true then
    fail .invalidArgument "A session must name its id, identity and provider."
  else if fleeting : absoluteLifetime ≤ 0 ∨ idleTimeout ≤ 0 then
    fail .invalidArgument "Session lifetimes must be positive."
  else if early : authenticatedAt > issuedAt then
    fail .invalidArgument "A session cannot predate its authentication."
  else if userAgent.any (fun text => text.length > 1024) || remoteAddress.any fun text => text.length > 128 then
    fail .invalidArgument "Session client metadata is too large."
  else
    .ok {
      id, identity, provider, assurance, strength, authenticatedAt, tokenDigest, issuedAt, idleTimeout
      userAgent, remoteAddress
      state := .active
      lastSeenAt := issuedAt
      absoluteExpiresAt := issuedAt+absoluteLifetime
      revokedAt := none
      named := all_named unnamed
      lasting := all_lasting fleeting
      grown := all_grown early }

theorem all_seen {issuedAt lastSeenAt absoluteExpiresAt : Instant} {idleTimeout : Duration}
    (seen : ¬(lastSeenAt < issuedAt ∨ lastSeenAt ≥ absoluteExpiresAt ∨ idleTimeout ≤ 0)) :
    issuedAt < absoluteExpiresAt ∧ 0 < idleTimeout := by
  obtain ⟨issued,absolute,idle⟩ := not_or.mp seen |>.imp_right not_or.mp
  exact ⟨Int.lt_of_le_of_lt (Int.not_lt.mp issued) (Int.not_le.mp absolute),Int.not_le.mp idle⟩

def persistedInvalid : Error := .because .invalidArgument "The persisted session is invalid."

def restore (id : SessionId) (identity : IdentityId) (provider : ProviderId) (assurance : AssuranceLevel)
    (strength : AuthenticationStrength) (state : SessionState) (authenticatedAt : Instant) (tokenDigest : TokenDigest)
    (issuedAt lastSeenAt absoluteExpiresAt : Instant) (idleTimeout : Duration) (revokedAt : Option Instant)
    (userAgent remoteAddress : Option Text) : Result Session :=
  if unnamed : id.empty = true ∨ identity.empty = true ∨ provider.empty = true then .error persistedInvalid
  else if early : authenticatedAt > issuedAt then .error persistedInvalid
  else if unseen : lastSeenAt < issuedAt ∨ lastSeenAt ≥ absoluteExpiresAt ∨ idleTimeout ≤ 0 then .error persistedInvalid
  else if decide (state = .revoked) ≠ revokedAt.isSome ∨ userAgent.any (fun text => text.length > 1024) = true ∨
      remoteAddress.any (fun text => text.length > 128) = true then .error persistedInvalid
  else
    .ok {
      id, identity, provider, assurance, strength, state, authenticatedAt, tokenDigest, issuedAt, lastSeenAt
      absoluteExpiresAt, idleTimeout, revokedAt, userAgent, remoteAddress
      named := all_named unnamed
      lasting := all_seen unseen
      grown := all_grown early }

def idleExpiresAt (session : Session) : Instant := session.lastSeenAt+session.idleTimeout

def isExpiredAt (now : Instant) (session : Session) : Bool :=
  now ≥ session.absoluteExpiresAt || now ≥ session.idleExpiresAt

def refusedIn (state : SessionState) : Error :=
  invalidSession (Text.of "Session use refused; state is " ++ sessionStateName state ++ Text.of ".")

def deadlinePassed : Error := invalidSession "Session use refused: deadline passed."

def digestMismatch : Error := invalidSession "Session use refused: token digest mismatch."

def use (presented : TokenDigest) (now : Instant) (session : Session) : Result Unit × Session :=
  if session.state ≠ .active then (.error (refusedIn session.state),session)
  else if session.isExpiredAt now then (.error deadlinePassed,{ session with state := .expired })
  else if session.tokenDigest ≠ presented then (.error digestMismatch,session)
  else (.ok (),{ session with lastSeenAt := now })

def rotateToken (expected replacement : TokenDigest) (now : Instant) (session : Session) : Result Unit × Session :=
  match session.use expected now with
  | (.error e,used) => (.error e,used)
  | (.ok (),used) => (.ok (),{ used with tokenDigest := replacement })

def revoke (now : Instant) (session : Session) : Result Unit × Session :=
  match session.state with
  | .revoked => (.ok (),session)
  | .expired => (fail .failedPrecondition "An expired session cannot be revoked.",session)
  | .active => (.ok (),{ session with state := .revoked, revokedAt := some now })

def markExpired (session : Session) : Session :=
  if session.state = .active then { session with state := .expired } else session

-- What the repository lets become of a session: one that has ended stays as it is.
structure Evolves (session later : Session) : Prop where
  id : later.id = session.id
  identity : later.identity = session.identity
  absoluteExpiresAt : later.absoluteExpiresAt = session.absoluteExpiresAt
  idleTimeout : later.idleTimeout = session.idleTimeout
  ended : session.state ≠ .active → later = session

section
variable {presented expected replacement : TokenDigest} {now : Instant} {session : Session}

theorem restore_same (session : Session) (seen : session.issuedAt ≤ session.lastSeenAt)
    (lasts : session.lastSeenAt < session.absoluteExpiresAt)
    (revoked : decide (session.state = .revoked) = session.revokedAt.isSome)
    (userAgent : session.userAgent.any (fun text => text.length > 1024) = false)
    (remoteAddress : session.remoteAddress.any (fun text => text.length > 128) = false) :
    restore session.id session.identity session.provider session.assurance session.strength session.state
      session.authenticatedAt session.tokenDigest session.issuedAt session.lastSeenAt session.absoluteExpiresAt
      session.idleTimeout session.revokedAt session.userAgent session.remoteAddress = .ok session := by
  unfold restore
  rw [dif_neg (by simp [session.named]),dif_neg (Int.not_lt.mpr session.grown),dif_neg,if_neg]
  · simp [revoked,userAgent,remoteAddress]
  · rw [not_or,not_or]
    exact ⟨Int.not_lt.mpr seen,Int.not_le.mpr lasts,Int.not_le.mpr session.lasting.2⟩

theorem Evolves.refl (session : Session) : Evolves session session := ⟨rfl,rfl,rfl,rfl,fun _ => rfl⟩

theorem Evolves.ongoing (active : session.state = .active) (id : later.id = session.id)
    (identity : later.identity = session.identity) (absolute : later.absoluteExpiresAt = session.absoluteExpiresAt)
    (idle : later.idleTimeout = session.idleTimeout) : Evolves session later :=
  ⟨id,identity,absolute,idle,fun ended => absurd active ended⟩

theorem use_cases (presented : TokenDigest) (now : Instant) (session : Session) :
    (session.state ≠ .active ∧ session.use presented now = (.error (refusedIn session.state),session)) ∨
    (session.state = .active ∧ session.isExpiredAt now = true ∧
      session.use presented now = (.error deadlinePassed,{ session with state := .expired })) ∨
    (session.state = .active ∧ session.tokenDigest ≠ presented ∧
      session.use presented now = (.error digestMismatch,session)) ∨
    (session.state = .active ∧ session.isExpiredAt now = false ∧ session.tokenDigest = presented ∧
      session.use presented now = (.ok (),{ session with lastSeenAt := now })) := by
  unfold Session.use
  split
  · rename_i ended
    exact .inl ⟨ended,rfl⟩
  · rename_i active
    rw [not_not] at active
    split
    · rename_i late
      exact .inr (.inl ⟨active,late,rfl⟩)
    · rename_i timely
      split
      · rename_i other
        exact .inr (.inr (.inl ⟨active,other,rfl⟩))
      · rename_i mine
        exact .inr (.inr (.inr ⟨active,Bool.eq_false_iff.mpr timely,not_not.mp mine,rfl⟩))

theorem rotate_cases (expected replacement : TokenDigest) (now : Instant) (session : Session) :
    (∃ e,(session.use expected now).1 = .error e ∧
      session.rotateToken expected replacement now = (.error e,(session.use expected now).2)) ∨
    (session.state = .active ∧ session.isExpiredAt now = false ∧ session.tokenDigest = expected ∧
      session.rotateToken expected replacement now =
        (.ok (),{ session with lastSeenAt := now, tokenDigest := replacement })) := by
  unfold rotateToken
  rcases use_cases expected now session with ⟨-,same⟩ | ⟨-,-,same⟩ | ⟨-,-,same⟩ | ⟨active,timely,mine,same⟩
  · exact .inl ⟨_,by rw [same],by rw [same]⟩
  · exact .inl ⟨_,by rw [same],by rw [same]⟩
  · exact .inl ⟨_,by rw [same],by rw [same]⟩
  · exact .inr ⟨active,timely,mine,by rw [same]⟩

theorem use_evolves (presented : TokenDigest) (now : Instant) (session : Session) :
    Evolves session (session.use presented now).2 := by
  rcases use_cases presented now session with ⟨-,same⟩ | ⟨active,-,same⟩ | ⟨-,-,same⟩ | ⟨active,-,-,same⟩
  · rw [same]
    exact .refl _
  · rw [same]
    exact .ongoing active rfl rfl rfl rfl
  · rw [same]
    exact .refl _
  · rw [same]
    exact .ongoing active rfl rfl rfl rfl

@[simp] theorem use_digest (presented : TokenDigest) (now : Instant) (session : Session) :
    (session.use presented now).2.tokenDigest = session.tokenDigest := by
  rcases use_cases presented now session with ⟨-,same⟩ | ⟨-,-,same⟩ | ⟨-,-,same⟩ | ⟨-,-,-,same⟩ <;> rw [same]

theorem use_unseen (refused : (session.use presented now).1 = .error e) :
    (session.use presented now).2.lastSeenAt = session.lastSeenAt := by
  rcases use_cases presented now session with ⟨-,same⟩ | ⟨-,-,same⟩ | ⟨-,-,same⟩ | ⟨-,-,-,same⟩
  · rw [same]
  · rw [same]
  · rw [same]
  · rw [same] at refused
    cases refused

theorem revoke_evolves (now : Instant) (session : Session) : Evolves session (session.revoke now).2 := by
  unfold revoke
  cases active : session.state with
  | active => exact .ongoing active rfl rfl rfl rfl
  | revoked | expired => exact .refl _

@[simp] theorem revoke_digest (now : Instant) (session : Session) :
    (session.revoke now).2.tokenDigest = session.tokenDigest := by
  unfold revoke
  cases session.state <;> rfl

@[simp] theorem revoke_seen (now : Instant) (session : Session) :
    (session.revoke now).2.lastSeenAt = session.lastSeenAt := by
  unfold revoke
  cases session.state <;> rfl

theorem revoke_ends (now : Instant) (session : Session) : (session.revoke now).2.state ≠ .active := by
  unfold revoke
  cases ended : session.state with
  | active => nofun
  | revoked | expired => simp [ended]

theorem revoke_active (now : Instant) (active : session.state = .active) :
    session.revoke now = (.ok (),{ session with state := .revoked, revokedAt := some now }) := by
  simp [revoke,active]

end

end Session

def unknownSession (detail : Text) : Error :=
  .of .authenticationFailed (defaultErrorMessage .authenticationFailed) detail

structure InMemorySessionRepository where
  sessions : Map SessionId Session
  tokens : Map TokenDigest SessionId

namespace InMemorySessionRepository

def empty : InMemorySessionRepository := ⟨∅,∅⟩

def add (session : Session) (repository : InMemorySessionRepository) : Result Unit × InMemorySessionRepository :=
  if repository.sessions.holds session.id || repository.tokens.holds session.tokenDigest then
    (fail .alreadyExists "The session could not be created.",repository)
  else (.ok (),⟨repository.sessions.insert session.id session,repository.tokens.insert session.tokenDigest session.id⟩)

def inconsistent : Error := .because .internal "The session store is inconsistent."

def use (token : TokenDigest) (now : Instant) (repository : InMemorySessionRepository) :
    Result Session × InMemorySessionRepository :=
  match repository.tokens[token]? with
  | none => (.error (unknownSession "Session token is unknown."),repository)
  | some id =>
    match repository.sessions[id]? with
    | none => (.error inconsistent,repository)
    | some session =>
      match session.use token now with
      | (.error e,used) => (.error e,{ repository with sessions := repository.sessions.insert id used })
      | (.ok (),used) => (.ok used,{ repository with sessions := repository.sessions.insert id used })

def rotate (id : SessionId) (expected replacement : TokenDigest) (now : Instant) (repository : InMemorySessionRepository) :
    Result Unit × InMemorySessionRepository :=
  match repository.sessions[id]? with
  | none => (.error (unknownSession "Session rotation refused: unknown id."),repository)
  | some session =>
    if repository.tokens.holds replacement then
      (fail .alreadyExists "The session token could not be rotated.",repository)
    else match session.rotateToken expected replacement now with
      | (.error e,rotated) => (.error e,{ repository with sessions := repository.sessions.insert id rotated })
      | (.ok (),rotated) =>
        (.ok (),⟨repository.sessions.insert id rotated,(repository.tokens.erase session.tokenDigest).insert replacement id⟩)

def revoke (id : SessionId) (now : Instant) (repository : InMemorySessionRepository) :
    Result Unit × InMemorySessionRepository :=
  match repository.sessions[id]? with
  | none => (fail .notFound "That session was not found.",repository)
  | some session =>
    ((session.revoke now).1,{ repository with sessions := repository.sessions.insert id (session.revoke now).2 })

-- The loop of `revokeAll`, over the entries it has still to visit.
def revokeEach (identity : IdentityId) (now : Instant) :
    List (SessionId × Session) → Nat → InMemorySessionRepository → Result Nat × InMemorySessionRepository
  | [],revoked,repository => (.ok revoked,repository)
  | (id,session) :: rest,revoked,repository =>
    if session.identity = identity ∧ session.state = .active then
      match session.revoke now with
      | (.error e,changed) => (.error e,{ repository with sessions := repository.sessions.insert id changed })
      | (.ok (),changed) =>
        revokeEach identity now rest (revoked+1) { repository with sessions := repository.sessions.insert id changed }
    else revokeEach identity now rest revoked repository

def revokeAll (identity : IdentityId) (now : Instant) (repository : InMemorySessionRepository) :
    Result Nat × InMemorySessionRepository := revokeEach identity now repository.sessions.toList 0 repository

def find (id : SessionId) (repository : InMemorySessionRepository) : Option Session := repository.sessions[id]?

def list (identity : IdentityId) (repository : InMemorySessionRepository) : List Session :=
  repository.sessions.elements.filter fun session => session.identity = identity

-- The loop of `purgeExpired`.
def purgeEach (now : Instant) :
    List (SessionId × Session) → Nat → InMemorySessionRepository → Nat × InMemorySessionRepository
  | [],removed,repository => (removed,repository)
  | (id,session) :: rest,removed,repository =>
    if session.isExpiredAt now then
      purgeEach now rest (removed+1) ⟨repository.sessions.erase id,repository.tokens.erase session.tokenDigest⟩
    else purgeEach now rest removed repository

def purgeExpired (now : Instant) (repository : InMemorySessionRepository) : Nat × InMemorySessionRepository :=
  purgeEach now repository.sessions.toList 0 repository

end InMemorySessionRepository

-- One method of the repository is one step: it holds the mutex for its whole body.
inductive SessionOp where
  | add (session : Session)
  | use (token : TokenDigest) (now : Instant)
  | rotate (id : SessionId) (expected replacement : TokenDigest) (now : Instant)
  | revoke (id : SessionId) (now : Instant)
  | revokeAll (identity : IdentityId) (now : Instant)
  | find (id : SessionId)
  | list (identity : IdentityId)
  | purgeExpired (now : Instant)

abbrev SessionOp.Ret : SessionOp → Type
  | .add _ => Result Unit
  | .use .. => Result Session
  | .rotate .. => Result Unit
  | .revoke .. => Result Unit
  | .revokeAll .. => Result Nat
  | .find _ => Option Session
  | .list _ => List Session
  | .purgeExpired _ => Nat

def SessionOp.exec : (op : SessionOp) → InMemorySessionRepository → op.Ret × InMemorySessionRepository
  | .add session,r => r.add session
  | .use token now,r => r.use token now
  | .rotate id expected replacement now,r => r.rotate id expected replacement now
  | .revoke id now,r => r.revoke id now
  | .revokeAll identity now,r => r.revokeAll identity now
  | .find id,r => (r.find id,r)
  | .list identity,r => (r.list identity,r)
  | .purgeExpired now,r => r.purgeExpired now

end OpenProof.Sessions
