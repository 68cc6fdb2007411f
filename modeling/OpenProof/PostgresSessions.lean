import OpenProof.Postgres
import OpenProof.PostgresCodes
import OpenProof.SessionIndex

namespace OpenProof.PostgresSessions
open Foundation KeyedTables Sessions SessionIndex InMemorySessionRepository Identities Postgres PostgresCodes Option

-- `openproof.sessions`, its key apart.
structure SessionRow where
  identityId : Text
  provider : Text
  assurance : Nat
  factors : Nat
  phishingResistant : Bool
  state : Nat
  tokenDigest : TokenDigest
  authenticatedAt : Instant
  issuedAt : Instant
  lastSeenAt : Instant
  absoluteExpiresAt : Instant
  idleTimeout : Duration
  revokedAt : Option Instant
  userAgent : Option Text
  remoteAddress : Option Text

abbrev SessionTable := Map SessionId SessionRow

def stateCode : SessionState → Nat
  | .active => 0
  | .revoked => 1
  | .expired => 2

def stateOf : Nat → SessionState
  | 0 => .active
  | 1 => .revoked
  | _ => .expired

-- `length(text)` counts the characters of UTF-8.
def characters (text : Text) : Nat := text.countP fun byte => byte &&& 0xC0 != 0x80

def nameFits (text : Text) : Bool := 1 ≤ characters text && characters text ≤ 200

def checks (id : SessionId) (row : SessionRow) : Bool :=
  nameFits id.value && nameFits row.provider && row.assurance ≤ 4 && row.factors ≤ 7 && row.state ≤ 2
    && 0 < row.idleTimeout && row.authenticatedAt ≤ row.issuedAt && row.issuedAt ≤ row.lastSeenAt
    && row.lastSeenAt < row.absoluteExpiresAt && (row.state == 1) == row.revokedAt.isSome
    && row.userAgent.all (fun text => characters text ≤ 1024)
    && row.remoteAddress.all fun text => characters text ≤ 128

def digestsApart (table : SessionTable) : Bool := (table.elements.map SessionRow.tokenDigest).Nodup

def sessionFromRow (id : SessionId) (row : SessionRow) : Result Session :=
  if row.assurance > 4 || row.factors > 7 || row.state > 2 then
    fail .internal "PostgreSQL returned invalid session data."
  else
    Session.restore id ⟨row.identityId⟩ ⟨row.provider⟩ (assuranceLevel row.assurance)
      ⟨UInt8.ofNat row.factors,row.phishingResistant⟩ (stateOf row.state) row.authenticatedAt row.tokenDigest
      row.issuedAt row.lastSeenAt row.absoluteExpiresAt row.idleTimeout row.revokedAt row.userAgent row.remoteAddress

def insertedRow (value : Session) : SessionRow where
  identityId := value.identity.value
  provider := value.provider.value
  assurance := value.assurance.rank
  factors := value.strength.factors.toNat
  phishingResistant := value.strength.phishingResistant
  state := stateCode value.state
  tokenDigest := value.tokenDigest
  authenticatedAt := value.authenticatedAt
  issuedAt := value.issuedAt
  lastSeenAt := value.lastSeenAt
  absoluteExpiresAt := value.absoluteExpiresAt
  idleTimeout := value.idleTimeout
  revokedAt := none
  userAgent := nullIfEmpty value.userAgent
  remoteAddress := nullIfEmpty value.remoteAddress

def SessionRow.ended (now : Instant) (row : SessionRow) : Bool :=
  now ≥ row.absoluteExpiresAt || now ≥ row.lastSeenAt+row.idleTimeout

-- `UPDATE openproof.sessions SET change WHERE chosen`, with the rows as it leaves them.
def update (chosen : SessionId → SessionRow → Bool) (change : SessionRow → SessionRow) (table : SessionTable) :
    Except Text (List (SessionId × SessionRow) × SessionTable) :=
  let touched := (rowsWhere chosen table).map fun entry => (entry.1,change entry.2)
  if !touched.all fun entry => checks entry.1 entry.2 then .error checkViolation
  else if !digestsApart (updated chosen change table) then .error uniqueViolation
  else .ok (touched,updated chosen change table)

-- Every method with a connection that turns nothing down. `identities` is what the foreign key may name.
namespace PostgresSessionRepository

def add (identities : List Text) (value : Session) (table : SessionTable) : Result Unit × SessionTable :=
  if !checks value.id (insertedRow value) then (.error (databaseError (some checkViolation) "insert session"),table)
  else if table.holds value.id || table.elements.any fun row => row.tokenDigest = value.tokenDigest then
    (.error (databaseError (some uniqueViolation) "insert session"),table)
  else if !identities.contains value.identity.value then
    (.error (databaseError (some foreignKeyViolation) "insert session"),table)
  else (.ok (),table.insert value.id (insertedRow value))

def activeWith (token : TokenDigest) (_ : SessionId) (row : SessionRow) : Bool := row.tokenDigest = token && row.state = 0

def usedRow (now : Instant) (row : SessionRow) : SessionRow := { row with
  state := if row.ended now then 2 else row.state
  lastSeenAt := if row.ended now then row.lastSeenAt else now }

def use (token : TokenDigest) (now : Instant) (table : SessionTable) : Result Session × SessionTable :=
  match update (activeWith token) (usedRow now) table with
  | .error state => (.error (databaseError (some state) "use session"),table)
  | .ok ([(id,row)],left) =>
    match sessionFromRow id row with
    | .error e => (.error e,left)
    | .ok restored =>
      if restored.state ≠ .active then (.error (authenticationFailure "Session deadline passed."),left)
      else (.ok restored,left)
  | .ok (_,left) => (.error (authenticationFailure "Session is unknown or inactive."),left)

def rotatable (id : SessionId) (expected : TokenDigest) (now : Instant) (key : SessionId) (row : SessionRow) : Bool :=
  key = id && row.tokenDigest = expected && row.state = 0 && now < row.absoluteExpiresAt
    && now < row.lastSeenAt+row.idleTimeout

def rotatedRow (replacement : TokenDigest) (now : Instant) (row : SessionRow) : SessionRow :=
  { row with tokenDigest := replacement, lastSeenAt := now }

def rotate (id : SessionId) (expected replacement : TokenDigest) (now : Instant) (table : SessionTable) :
    Result Unit × SessionTable :=
  match update (rotatable id expected now) (rotatedRow replacement now) table with
  | .error state => (.error (databaseError (some state) "rotate session"),table)
  | .ok ([_],left) => (.ok (),left)
  | .ok (_,left) => (.error (authenticationFailure "Session rotation was refused."),left)

def activeAt (id : SessionId) (key : SessionId) (row : SessionRow) : Bool := key = id && row.state = 0

def activeOf (identity : IdentityId) (_ : SessionId) (row : SessionRow) : Bool :=
  row.identityId = identity.value && row.state = 0

def revokedRow (now : Instant) (row : SessionRow) : SessionRow := { row with state := 1, revokedAt := some now }

def revoke (id : SessionId) (now : Instant) (table : SessionTable) : Result Unit × SessionTable :=
  match update (activeAt id) (revokedRow now) table with
  | .error state => (.error (databaseError (some state) "revoke session"),table)
  | .ok ([_],left) => (.ok (),left)
  | .ok (_,left) =>
    match left[id]? with
    | none => (fail .notFound "That session was not found.",left)
    | some row =>
      if row.state = 1 then (.ok (),left)
      else (fail .failedPrecondition "An expired session cannot be revoked.",left)

def revokeAll (identity : IdentityId) (now : Instant) (table : SessionTable) : Result Nat × SessionTable :=
  match update (activeOf identity) (revokedRow now) table with
  | .error state => (.error (databaseError (some state) "revoke identity sessions"),table)
  | .ok (touched,left) => (.ok touched.length,left)

def find (id : SessionId) (table : SessionTable) : Result (Option Session) :=
  match table[id]? with
  | none => .ok none
  | some row => (sessionFromRow id row).map some

-- `ORDER BY last_seen_at_ms DESC`; rows of one time come in any order, here in that of their keys.
def list (identity : IdentityId) (table : SessionTable) : Result (List Session) :=
  ((rowsWhere (fun _ row => row.identityId = identity.value) table).mergeSort
    fun one two => two.2.lastSeenAt ≤ one.2.lastSeenAt).mapM fun entry => sessionFromRow entry.1 entry.2

def purgeExpired (now : Instant) (table : SessionTable) : Nat × SessionTable :=
  ((rowsWhere (fun _ row => row.ended now) table).length,table.filter fun _ row => !row.ended now)

end PostgresSessionRepository

abbrev Answer : SessionOp → Type
  | .add _ => Result Unit
  | .use .. => Result Session
  | .rotate .. => Result Unit
  | .revoke .. => Result Unit
  | .revokeAll .. => Result Nat
  | .find _ => Result (Option Session)
  | .list _ => Result (List Session)
  | .purgeExpired _ => Nat

open PostgresSessionRepository in
def serve (identities : List Text) : (op : SessionOp) → SessionTable → Answer op × SessionTable
  | .add session,table => add identities session table
  | .use token now,table => use token now table
  | .rotate id expected replacement now,table => rotate id expected replacement now table
  | .revoke id now,table => revoke id now table
  | .revokeAll identity now,table => revokeAll identity now table
  | .find id,table => (find id table,table)
  | .list identity,table => (list identity table,table)
  | .purgeExpired now,table => purgeExpired now table

def Alike : (op : SessionOp) → Answer op → op.Ret → Prop
  | .add _,postgres,memory => postgres.toOption = memory.toOption
  | .use ..,postgres,memory => postgres.toOption = memory.toOption
  | .rotate ..,postgres,memory => postgres.toOption = memory.toOption
  | .revoke ..,postgres,memory => postgres.toOption = memory.toOption
  | .revokeAll ..,postgres,memory => postgres.toOption = memory.toOption
  | .find _,postgres,memory => postgres = .ok memory
  | .list _,postgres,memory => ∃ sessions,postgres = .ok sessions ∧ sessions.Perm memory
  | .purgeExpired _,postgres,memory => postgres = memory

def rowOf (session : Session) : SessionRow where
  identityId := session.identity.value
  provider := session.provider.value
  assurance := session.assurance.rank
  factors := session.strength.factors.toNat
  phishingResistant := session.strength.phishingResistant
  state := stateCode session.state
  tokenDigest := session.tokenDigest
  authenticatedAt := session.authenticatedAt
  issuedAt := session.issuedAt
  lastSeenAt := session.lastSeenAt
  absoluteExpiresAt := session.absoluteExpiresAt
  idleTimeout := session.idleTimeout
  revokedAt := session.revokedAt
  userAgent := session.userAgent
  remoteAddress := session.remoteAddress

-- The sessions that the table can hold.
structure Sound (session : Session) : Prop where
  id : nameFits session.id.value = true
  provider : nameFits session.provider.value = true
  factors : session.strength.factors.toNat ≤ 7
  seen : session.issuedAt ≤ session.lastSeenAt ∧ session.lastSeenAt < session.absoluteExpiresAt
  revoked : decide (session.state = .revoked) = session.revokedAt.isSome
  userAgent : ∀ text,session.userAgent = some text → text ≠ [] ∧ text.length ≤ 1024
  remoteAddress : ∀ text,session.remoteAddress = some text → text ≠ [] ∧ text.length ≤ 128

section
variable {session : Session}

theorem characters_le (text : Text) : characters text ≤ text.length := List.countP_le_length

theorem stateOf_code : stateOf (stateCode state) = state := by
  cases state <;> rfl

theorem stateCode_le (state : SessionState) : stateCode state ≤ 2 := by
  cases state <;> decide

theorem stateCode_active : stateCode state = 0 ↔ state = .active := by
  cases state <;> simp [stateCode]

theorem stateCode_revoked : stateCode state = 1 ↔ state = .revoked := by
  cases state <;> simp [stateCode]

theorem rank_le (level : AssuranceLevel) : level.rank ≤ 4 := by
  cases level <;> decide

theorem within_bytes (fits : ∀ text,value = some text → text ≠ [] ∧ text.length ≤ bound) :
    value.any (fun text => text.length > bound) = false ∧ value.all (fun text => characters text ≤ bound) = true ∧
      nullIfEmpty value = value := by
  cases value with
  | none => exact ⟨rfl,rfl,rfl⟩
  | some text =>
    obtain ⟨there,short⟩ := fits text rfl
    have fewer := characters_le text
    refine ⟨by simpa using short,?_,?_⟩
    · simp only [all_some,decide_eq_true_eq]
      omega
    · simp [nullIfEmpty,there]

theorem Sound.reads (sound : Sound session) : sessionFromRow session.id (rowOf session) = .ok session := by
  have known : ((rowOf session).assurance > 4 || (rowOf session).factors > 7 || (rowOf session).state > 2) = false := by
    have assurance := rank_le session.assurance
    have factors := sound.factors
    have state := stateCode_le session.state
    simp [rowOf]
    omega
  unfold sessionFromRow
  rw [known]
  simp only [rowOf,Bool.false_eq_true,if_false,assuranceLevel_rank,stateOf_code,UInt8.ofNat_toNat]
  exact session.restore_same sound.seen.1 sound.seen.2 sound.revoked (within_bytes sound.userAgent).1
    (within_bytes sound.remoteAddress).1

theorem Sound.checks (sound : Sound session) : PostgresSessions.checks session.id (rowOf session) = true := by
  have assurance := rank_le session.assurance
  have state := stateCode_le session.state
  have revoked : (stateCode session.state == 1) = session.revokedAt.isSome := by
    rw [← sound.revoked]
    cases session.state <;> rfl
  simp [PostgresSessions.checks,rowOf,sound.id,sound.provider,assurance,sound.factors,state,session.lasting.2,
    session.grown,sound.seen.1,sound.seen.2,revoked,(within_bytes sound.userAgent).2.1,
    (within_bytes sound.remoteAddress).2.1]

end

open PostgresSessionRepository (activeWith usedRow rotatable rotatedRow activeAt activeOf revokedRow)

-- Both stores keep the same sessions, all of them issued by now.
structure Mirrors (clock : Instant) (table : SessionTable) (memory : InMemorySessionRepository) : Prop where
  rows : table = memory.sessions.map fun _ => rowOf
  paired : Paired memory
  sound : ∀ (id : SessionId) (session : Session),memory.sessions[id]? = some session →
    Sound session ∧ session.issuedAt ≤ clock

section
variable {memory after : InMemorySessionRepository} {id : SessionId} {session : Session}
  {change : SessionRow → SessionRow}

theorem Mirrors.later (mirrors : Mirrors clock table memory) (passes : clock ≤ now) : Mirrors now table memory := by
  refine ⟨mirrors.rows,mirrors.paired,?_⟩
  intro id session stored
  obtain ⟨sound,issued⟩ := mirrors.sound id session stored
  exact ⟨sound,Int.le_trans issued passes⟩

theorem Mirrors.find (mirrors : Mirrors clock table memory) (id : SessionId) :
    table[id]? = memory.sessions[id]?.map rowOf := by
  rw [mirrors.rows,Std.ExtTreeMap.getElem?_map]

theorem paired_apart (paired : Paired memory) : digestsApart (memory.sessions.map fun _ => rowOf) = true := by
  unfold digestsApart Map.elements
  rw [decide_eq_true_eq,Std.ExtTreeMap.toList_map,List.map_map,List.map_map]
  apply List.pairwise_map.mpr
  apply Std.ExtTreeMap.distinct_keys_toList.imp_of_mem
  rintro ⟨id,session⟩ ⟨other,found⟩ stored there apart
  rw [Std.ExtTreeMap.mem_toList_iff_getElem?_eq_some] at stored there
  intro same
  apply paired.apart stored there _ same.symm
  rintro rfl
  exact apart (by simp)

theorem update_turns (chosen : SessionId → SessionRow → Bool) (change : SessionRow → SessionRow) (turn : Session → Session) (mirrors : Mirrors clock table memory)
    (turns : ∀ (id : SessionId) (session : Session),memory.sessions[id]? = some session → chosen id (rowOf session) = true →
      change (rowOf session) = rowOf (turn session) ∧ Sound (turn session) ∧ (turn session).id = session.id ∧
        (turn session).issuedAt = session.issuedAt)
    (same : after.sessions = updated (fun id session => chosen id (rowOf session)) turn memory.sessions)
    (paired : Paired after) : ∃ left,update chosen change table =
      .ok ((rowsWhere (fun id session => chosen id (rowOf session)) memory.sessions).map fun entry =>
        (entry.1,rowOf (turn entry.2)),left) ∧ Mirrors clock left after := by
  have rewritten : updated chosen change table = after.sessions.map fun _ => rowOf := by
    rw [mirrors.rows,same]
    exact updated_map fun id session stored picked => (turns id session stored picked).1
  have touched : (rowsWhere chosen table).map (fun entry => (entry.1,change entry.2)) =
      (rowsWhere (fun id session => chosen id (rowOf session)) memory.sessions).map fun entry =>
        (entry.1,rowOf (turn entry.2)) := by
    rw [mirrors.rows,rowsWhere_map,List.map_map]
    apply List.map_congr_left
    rintro ⟨id,session⟩ inside
    obtain ⟨stored,picked⟩ := mem_rowsWhere.mp inside
    simp [(turns id session stored picked).1]
  have lawful : ((rowsWhere (fun id session => chosen id (rowOf session)) memory.sessions).map fun entry =>
      (entry.1,rowOf (turn entry.2))).all (fun entry => checks entry.1 entry.2) = true := by
    rw [List.all_map,List.all_eq_true]
    rintro ⟨id,session⟩ inside
    obtain ⟨stored,picked⟩ := mem_rowsWhere.mp inside
    obtain ⟨-,sound,own,-⟩ := turns id session stored picked
    have keyed := mirrors.paired.keyed id session stored
    have lawful := sound.checks
    rw [own,keyed] at lawful
    exact lawful
  refine ⟨after.sessions.map fun _ => rowOf,?_,rfl,paired,?_⟩
  · unfold update
    simp only [touched,lawful,rewritten,paired_apart paired,Bool.not_true,Bool.false_eq_true,if_false]
  · intro id session there
    rw [same] at there
    unfold updated at there
    rw [Std.ExtTreeMap.getElem?_map] at there
    obtain ⟨before,stored,turned⟩ := map_eq_some_iff.mp there
    obtain ⟨sound,issued⟩ := mirrors.sound id before stored
    split at turned
    · rename_i picked
      obtain ⟨-,sound',-,when_⟩ := turns id before stored picked
      subst turned
      exact ⟨sound',by rw [when_]; exact issued⟩
    · subst turned
      exact ⟨sound,issued⟩

theorem update_one (chosen : SessionId → SessionRow → Bool) (change : SessionRow → SessionRow) (turn : Session → Session) (mirrors : Mirrors clock table memory)
    (stored : memory.sessions[id]? = some session) (picked : chosen id (rowOf session) = true)
    (only : ∀ (other : SessionId) (found : Session),memory.sessions[other]? = some found →
      chosen other (rowOf found) = true → other = id)
    (turned : change (rowOf session) = rowOf (turn session)) (sound : Sound (turn session))
    (own : (turn session).id = session.id) (issued : (turn session).issuedAt = session.issuedAt)
    (same : after.sessions = memory.sessions.insert id (turn session)) (paired : Paired after) :
    ∃ left,update chosen change table = .ok ([(id,rowOf (turn session))],left) ∧ Mirrors clock left after := by
  have one : rowsWhere (fun id session => chosen id (rowOf session)) memory.sessions = [(id,session)] :=
    rowsWhere_one stored picked only
  have replaced : updated (fun id session => chosen id (rowOf session)) turn memory.sessions =
      memory.sessions.insert id (turn session) := updated_one stored picked only
  have turns : ∀ (other : SessionId) (found : Session),memory.sessions[other]? = some found →
      chosen other (rowOf found) = true → change (rowOf found) = rowOf (turn found) ∧ Sound (turn found) ∧
        (turn found).id = found.id ∧ (turn found).issuedAt = found.issuedAt := by
    intro other found there also
    obtain rfl := only other found there also
    rw [stored] at there
    cases there
    exact ⟨turned,sound,own,issued⟩
  obtain ⟨left,went,mirrors'⟩ := update_turns chosen change turn mirrors turns (same.trans replaced.symm) paired
  rw [one] at went
  exact ⟨left,went,mirrors'⟩

theorem update_none (mirrors : Mirrors clock table memory) (spared : ∀ (id : SessionId) (session : Session),
    memory.sessions[id]? = some session → chosen id (rowOf session) = false) : update chosen change table = .ok ([],table) := by
  have spared' : ∀ (id : SessionId) (row : SessionRow),table[id]? = some row → chosen id row = false := by
    intro id row there
    rw [mirrors.find] at there
    obtain ⟨session,stored,rfl⟩ := map_eq_some_iff.mp there
    exact spared id session stored
  have apart : digestsApart table = true := by
    rw [mirrors.rows]
    exact paired_apart mirrors.paired
  unfold update
  simp [rowsWhere_none spared',updated_none spared',apart]

theorem update_unfit (mirrors : Mirrors clock table memory) {fits : Session → Prop}
    (only : ∀ (other : SessionId) (found : Session),chosen other (rowOf found) = true → other = id ∧ fits found)
    (unfit : ∀ session,memory.sessions[id]? = some session → ¬fits session) : update chosen change table = .ok ([],table) := by
  apply update_none mirrors
  intro other found there
  apply Bool.eq_false_iff.mpr
  intro picked
  obtain ⟨rfl,meets⟩ := only other found picked
  exact unfit found there meets

theorem insert_same (stored : memory.sessions[id]? = some session) :
    { memory with sessions := memory.sessions.insert id session } = memory := by
  obtain ⟨sessions,tokens⟩ := memory
  have same : sessions.insert id session = sessions := by
    apply Std.ExtTreeMap.ext_getElem?
    intro other
    rw [Map.find_insert]
    split
    · rename_i here
      subst here
      exact stored.symm
    · rfl
  simp [same]

theorem row_ended : (rowOf session).ended now = session.isExpiredAt now := rfl

structure Agrees (op : SessionOp) (clock : Instant) (postgres : Answer op × SessionTable)
    (memory : op.Ret × InMemorySessionRepository) : Prop where
  answer : Alike op postgres.1 memory.1
  mirrors : Mirrors clock postgres.2 memory.2

theorem digest_only (paired : Paired memory) (stored : memory.sessions[id]? = some session)
    (there : memory.sessions[other]? = some found) (same : found.tokenDigest = session.tokenDigest) : other = id := by
  by_contra apart
  exact paired.apart stored there (fun same => apart same.symm) same

theorem Sound.expired (sound : Sound session) (active : session.state = .active) :
    Sound { session with state := .expired } := by
  obtain ⟨id,provider,factors,seen,revoked,userAgent,remoteAddress⟩ := sound
  rw [active] at revoked
  exact ⟨id,provider,factors,seen,revoked,userAgent,remoteAddress⟩

theorem Sound.seenAt (sound : Sound session) (issued : session.issuedAt ≤ now) (timely : session.isExpiredAt now = false) :
    Sound { session with lastSeenAt := now } := by
  obtain ⟨id,provider,factors,-,revoked,userAgent,remoteAddress⟩ := sound
  simp only [Session.isExpiredAt,Bool.or_eq_false_iff,decide_eq_false_iff_not] at timely
  exact ⟨id,provider,factors,⟨issued,Int.not_le.mp timely.1⟩,revoked,userAgent,remoteAddress⟩

theorem Sound.withDigest (sound : Sound session) (digest : TokenDigest) : Sound { session with tokenDigest := digest } := by
  obtain ⟨id,provider,factors,seen,revoked,userAgent,remoteAddress⟩ := sound
  exact ⟨id,provider,factors,seen,revoked,userAgent,remoteAddress⟩

theorem Sound.ended (sound : Sound session) (now : Instant) :
    Sound { session with state := .revoked,revokedAt := some now } := by
  obtain ⟨id,provider,factors,seen,-,userAgent,remoteAddress⟩ := sound
  exact ⟨id,provider,factors,seen,rfl,userAgent,remoteAddress⟩

theorem use_turns (token : TokenDigest) (mine : session.tokenDigest = token) (active : session.state = .active)
    (sound : Sound session) (issued : session.issuedAt ≤ now) :
    Sound (session.use token now).2 ∧ (session.use token now).2.id = session.id ∧
      (session.use token now).2.issuedAt = session.issuedAt ∧ rowOf (session.use token now).2 = { rowOf session with
        state := if session.isExpiredAt now then 2 else (rowOf session).state
        lastSeenAt := if session.isExpiredAt now then session.lastSeenAt else now } ∧
      ((session.isExpiredAt now = true ∧ (∃ e,(session.use token now).1 = .error e) ∧
          (session.use token now).2.state = .expired) ∨
        (session.isExpiredAt now = false ∧ (session.use token now).1 = .ok () ∧
          (session.use token now).2.state = .active)) := by
  unfold Session.use
  rw [if_neg (not_not.mpr active)]
  cases late : session.isExpiredAt now with
  | true =>
    rw [if_pos rfl]
    exact ⟨sound.expired active,rfl,rfl,rfl,.inl ⟨rfl,⟨_,rfl⟩,rfl⟩⟩
  | false =>
    rw [if_neg Bool.false_ne_true,if_neg (not_not.mpr mine)]
    exact ⟨sound.seenAt issued late,rfl,rfl,rfl,.inr ⟨rfl,rfl,active⟩⟩

theorem use_agrees (mirrors : Mirrors clock table memory) (passes : clock ≤ now) :
    Agrees (.use token now) now (serve identities (.use token now) table) (SessionOp.exec (.use token now) memory) := by
  simp only [serve,SessionOp.exec]
  unfold PostgresSessionRepository.use
  rcases SessionIndex.use_cases mirrors.paired token now with ⟨unknown,same⟩ | ⟨id,session,-,stored,mine,same⟩
  · rw [same]
    rw [update_none mirrors]
    · exact ⟨rfl,mirrors.later passes⟩
    · intro id session stored
      have other := mirrors.paired.unowned unknown stored
      simp [activeWith,rowOf,other]
  · rw [same]
    obtain ⟨sound,issued⟩ := mirrors.sound id session stored
    by_cases active : session.state = .active
    · obtain ⟨sound',own,when_,turned,ends⟩ := use_turns token mine active sound (Int.le_trans issued passes)
      have keyed := mirrors.paired.keyed id session stored
      have reads : sessionFromRow id (rowOf (session.use token now).2) = .ok (session.use token now).2 := by
        rw [← keyed,← own]
        exact sound'.reads
      have only : ∀ (other : SessionId) (found : Session),memory.sessions[other]? = some found →
          activeWith token other (rowOf found) = true → other = id := by
        intro other found there picked
        have owns : found.tokenDigest = token := by
          simp only [activeWith,Bool.and_eq_true,decide_eq_true_eq] at picked
          exact picked.1
        exact digest_only mirrors.paired stored there (owns.trans mine.symm)
      have picked : activeWith token id (rowOf session) = true := by simp [activeWith,rowOf,mine,stateCode_active,active]
      have paired := mirrors.paired.rewritten stored own (session.use_digest token now)
      obtain ⟨left,went,mirrors'⟩ := update_one (activeWith token) (usedRow now) (fun session => (session.use token now).2)
        (mirrors.later passes) stored picked only turned.symm sound' own when_ rfl paired
      rw [went]
      dsimp only
      rw [reads]
      dsimp only
      rcases ends with ⟨-,⟨e,failed⟩,ended⟩ | ⟨-,done,going⟩
      · rw [ended,failed]
        exact ⟨rfl,mirrors'⟩
      · rw [going,done]
        exact ⟨rfl,mirrors'⟩
    · have unused : session.use token now = (.error (Session.refusedIn session.state),session) := by
        simp [Session.use,active]
      rw [unused]
      rw [update_none mirrors]
      · rw [insert_same stored]
        exact ⟨rfl,mirrors.later passes⟩
      · intro other found there
        by_cases owns : found.tokenDigest = token
        · obtain rfl := digest_only mirrors.paired stored there (owns.trans mine.symm)
          rw [stored] at there
          cases there
          simp [activeWith,rowOf,stateCode_active,active]
        · simp [activeWith,rowOf,owns]

theorem digest_clash (apart : id ≠ other) (stored : table[id]? = some row) (there : table[other]? = some found)
    (same : row.tokenDigest = found.tokenDigest) : digestsApart table = false := by
  apply Bool.eq_false_iff.mpr
  intro distinct
  unfold digestsApart Map.elements at distinct
  rw [decide_eq_true_eq,List.map_map] at distinct
  have inside := Std.ExtTreeMap.mem_toList_iff_getElem?_eq_some.mpr stored
  have among := Std.ExtTreeMap.mem_toList_iff_getElem?_eq_some.mpr there
  exact apart (congrArg Prod.fst (List.inj_on_of_nodup_map distinct inside among same))

theorem update_clash (chosen : SessionId → SessionRow → Bool) (change : SessionRow → SessionRow)
    (mirrors : Mirrors clock table memory) (stored : memory.sessions[id]? = some session)
    (there : memory.sessions[other]? = some found) (apart : id ≠ other) (picked : chosen id (rowOf session) = true)
    (spared : chosen other (rowOf found) = false) (same : (change (rowOf session)).tokenDigest = found.tokenDigest) :
    ∃ state,update chosen change table = .error state := by
  have row : table[id]? = some (rowOf session) := by
    rw [mirrors.find,stored]
    rfl
  have also : table[other]? = some (rowOf found) := by
    rw [mirrors.find,there]
    rfl
  have turned : (updated chosen change table)[id]? = some (change (rowOf session)) := by
    unfold updated
    rw [Std.ExtTreeMap.getElem?_map,row]
    simp [picked]
  have kept : (updated chosen change table)[other]? = some (rowOf found) := by
    unfold updated
    rw [Std.ExtTreeMap.getElem?_map,also]
    simp [spared]
  have clash := digest_clash apart turned kept same
  unfold update
  dsimp only
  split
  · exact ⟨_,rfl⟩
  · rw [clash]
    exact ⟨_,rfl⟩

theorem rotatable_iff : rotatable id expected now key (rowOf session) = true ↔
    key = id ∧ session.tokenDigest = expected ∧ session.state = .active ∧ session.isExpiredAt now = false := by
  have columns : rotatable id expected now key (rowOf session) = true ↔ key = id ∧ session.tokenDigest = expected ∧
      stateCode session.state = 0 ∧ now < session.absoluteExpiresAt ∧ now < session.idleExpiresAt := by
    simp only [rotatable,Bool.and_eq_true,decide_eq_true_eq,and_assoc]
    rfl
  rw [columns,stateCode_active]
  simp only [Session.isExpiredAt,Bool.or_eq_false_iff,decide_eq_false_iff_not,ge_iff_le,Int.not_le]

theorem rotate_usable (mirrors : Mirrors clock table memory) (passes : clock ≤ now)
    (stored : memory.sessions[id]? = some session) (mine : session.tokenDigest = expected) (active : session.state = .active)
    (timely : session.isExpiredAt now = false) (fresh : replacement ≠ expected) :
    Agrees (.rotate id expected replacement now) now (serve identities (.rotate id expected replacement now) table)
      (SessionOp.exec (.rotate id expected replacement now) memory) := by
  simp only [serve,SessionOp.exec]
  unfold PostgresSessionRepository.rotate rotate
  rw [stored]
  dsimp only
  have picked : rotatable id expected now id (rowOf session) = true := rotatable_iff.mpr ⟨rfl,mine,active,timely⟩
  cases held : memory.tokens[replacement]? with
  | some other =>
    obtain ⟨found,there,theirs⟩ := mirrors.paired.stored held
    have apart : id ≠ other := by
      rintro rfl
      rw [stored] at there
      cases there
      exact fresh (theirs.symm.trans mine)
    have spared : rotatable id expected now other (rowOf found) = false :=
      Bool.eq_false_iff.mpr fun picked => apart (rotatable_iff.mp picked).1.symm
    obtain ⟨state,refused⟩ := update_clash (rotatable id expected now) (rotatedRow replacement now) mirrors stored
      there apart picked spared theirs.symm
    rw [refused,if_pos (by simp [Map.holds,held])]
    exact ⟨rfl,mirrors.later passes⟩
  | none =>
    have rotated : session.rotateToken expected replacement now =
        (.ok (),{ session with lastSeenAt := now, tokenDigest := replacement }) := by
      simp [Session.rotateToken,Session.use,active,timely,mine]
    have keyed : ∀ other found,memory.sessions[other]? = some found → rotatable id expected now other (rowOf found) = true →
        other = id := fun other found there picked => (rotatable_iff.mp picked).1
    obtain ⟨sound,issued⟩ := mirrors.sound id session stored
    have sound' := sound.seenAt (Int.le_trans issued passes) timely
    have paired := mirrors.paired.rotated { session with lastSeenAt := now, tokenDigest := replacement } stored held rfl
    obtain ⟨left,went,mirrors'⟩ := update_one (rotatable id expected now) (rotatedRow replacement now)
      (fun session => { session with lastSeenAt := now, tokenDigest := replacement }) (mirrors.later passes) stored
      picked keyed rfl (sound'.withDigest replacement) rfl rfl rfl paired
    rw [went,if_neg (by simp [Map.holds,held]),rotated]
    exact ⟨rfl,mirrors'⟩

theorem rotate_unusable (mirrors : Mirrors clock table memory) (passes : clock ≤ now)
    (stored : memory.sessions[id]? = some session)
    (unusable : ¬(session.tokenDigest = expected ∧ session.state = .active ∧ session.isExpiredAt now = false))
    (taken : session.state = .active → session.isExpiredAt now = true → memory.tokens.holds replacement = true) :
    Agrees (.rotate id expected replacement now) now (serve identities (.rotate id expected replacement now) table)
      (SessionOp.exec (.rotate id expected replacement now) memory) := by
  simp only [serve,SessionOp.exec]
  unfold PostgresSessionRepository.rotate rotate
  rw [update_unfit mirrors (fun _ _ => rotatable_iff.mp),stored]
  · dsimp only
    by_cases held : memory.tokens.holds replacement = true
    · rw [if_pos held]
      exact ⟨rfl,mirrors.later passes⟩
    · have refused : ∃ e,session.rotateToken expected replacement now = (.error e,session) := by
        unfold Session.rotateToken
        rcases Session.use_cases expected now session with ⟨-,same⟩ | ⟨active,late,-⟩ | ⟨-,-,same⟩ |
          ⟨active,timely,mine,-⟩
        · exact ⟨_,by rw [same]⟩
        · exact absurd (taken active late) held
        · exact ⟨_,by rw [same]⟩
        · exact absurd ⟨mine,active,timely⟩ unusable
      obtain ⟨e,same⟩ := refused
      rw [if_neg held,same]
      dsimp only
      rw [insert_same stored]
      exact ⟨rfl,mirrors.later passes⟩
  · intro found there
    rw [stored] at there
    cases there
    exact unusable

theorem rotate_agrees (mirrors : Mirrors clock table memory) (passes : clock ≤ now)
    (suits : ∀ session,memory.sessions[id]? = some session → session.state = .active →
      (session.isExpiredAt now = true → memory.tokens.holds replacement = true) ∧
        (session.isExpiredAt now = false → session.tokenDigest = expected → replacement ≠ expected)) :
    Agrees (.rotate id expected replacement now) now (serve identities (.rotate id expected replacement now) table)
      (SessionOp.exec (.rotate id expected replacement now) memory) := by
  cases stored : memory.sessions[id]? with
  | none =>
    simp only [serve,SessionOp.exec]
    unfold PostgresSessionRepository.rotate rotate
    rw [update_unfit mirrors (fun _ _ => rotatable_iff.mp),stored]
    · exact ⟨rfl,mirrors.later passes⟩
    · simp [stored]
  | some session =>
    by_cases usable : session.tokenDigest = expected ∧ session.state = .active ∧ session.isExpiredAt now = false
    · obtain ⟨mine,active,timely⟩ := usable
      exact rotate_usable mirrors passes stored mine active timely ((suits session stored active).2 timely mine)
    · exact rotate_unusable mirrors passes stored usable fun active => (suits session stored active).1

structure Storable (identities : List Text) (session : Session) : Prop where
  sound : Sound session
  unrevoked : session.state ≠ .revoked
  known : session.identity.value ∈ identities

theorem Storable.row (storable : Storable identities session) : insertedRow session = rowOf session := by
  have never : session.revokedAt = none := by
    have revoked := storable.sound.revoked
    rw [decide_eq_false storable.unrevoked] at revoked
    exact isSome_eq_false_iff.mp revoked.symm |> isNone_iff_eq_none.mp
  simp [insertedRow,rowOf,never,(within_bytes storable.sound.userAgent).2.2,(within_bytes storable.sound.remoteAddress).2.2]

theorem insert_rows (id : SessionId) (session : Session) : (memory.sessions.map fun _ => rowOf).insert id (rowOf session) =
    (memory.sessions.insert id session).map fun _ => rowOf := by
  apply Std.ExtTreeMap.ext_getElem?
  intro other
  rw [Std.ExtTreeMap.getElem?_map,Map.find_insert,Map.find_insert,Std.ExtTreeMap.getElem?_map]
  split <;> rfl

section
variable (mirrors : Mirrors clock table memory)
include mirrors

theorem digest_taken (digest : TokenDigest) :
    (table.elements.any fun row => row.tokenDigest = digest) = memory.tokens.holds digest := by
  rw [Bool.eq_iff_iff,List.any_eq_true]
  constructor
  · rintro ⟨row,inside,same⟩
    obtain ⟨id,there⟩ := Map.mem_elements.mp inside
    rw [mirrors.find] at there
    obtain ⟨session,stored,rfl⟩ := map_eq_some_iff.mp there
    have indexed := mirrors.paired.indexed stored
    rw [decide_eq_true_eq] at same
    have mine : session.tokenDigest = digest := same
    rw [mine] at indexed
    simp [Map.holds,indexed]
  · intro held
    obtain ⟨id,indexed⟩ := isSome_iff_exists.mp held
    obtain ⟨session,stored,mine⟩ := mirrors.paired.stored indexed
    refine ⟨rowOf session,Map.mem_elements.mpr ⟨id,?_⟩,decide_eq_true mine⟩
    rw [mirrors.find,stored]
    rfl

theorem id_taken (id : SessionId) : table.holds id = memory.sessions.holds id := by
  rw [mirrors.rows]
  simp [Map.holds]

theorem add_agrees
    (suits : memory.sessions[session.id]? = none → memory.tokens[session.tokenDigest]? = none → Storable identities session) :
    Agrees (.add session) (max clock session.issuedAt) (serve identities (.add session) table)
      (SessionOp.exec (.add session) memory) := by
  have onward := mirrors.later (Int.le_max_left clock session.issuedAt)
  simp only [serve,SessionOp.exec]
  unfold PostgresSessionRepository.add add
  rw [id_taken mirrors,digest_taken mirrors]
  cases taken : memory.sessions.holds session.id || memory.tokens.holds session.tokenDigest with
  | true =>
    rw [if_pos rfl,if_pos rfl]
    split
    · exact ⟨rfl,onward⟩
    · exact ⟨rfl,onward⟩
  | false =>
    simp only [Map.holds,Bool.or_eq_false_iff,isSome_eq_false_iff,isNone_iff_eq_none] at taken
    have storable := suits taken.1 taken.2
    have lawful := storable.sound.checks
    rw [storable.row]
    simp only [lawful,Bool.not_true,Bool.false_eq_true,if_false]
    have known : identities.contains session.identity.value = true := by simpa using storable.known
    rw [known]
    refine ⟨rfl,?_,mirrors.paired.added session taken.1 taken.2,?_⟩
    · change table.insert session.id (rowOf session) = _
      rw [mirrors.rows]
      exact insert_rows session.id session
    · intro id found there
      rcases Map.insert_cases there with ⟨-,rfl⟩ | before
      · exact ⟨storable.sound,Int.le_max_right _ _⟩
      · exact onward.sound id found before

theorem find_agrees :
    Agrees (.find id) clock (serve identities (.find id) table) (SessionOp.exec (.find id) memory) := by
  refine ⟨?_,mirrors⟩
  change PostgresSessionRepository.find id table = .ok (memory.find id)
  unfold PostgresSessionRepository.find find
  rw [mirrors.find]
  cases stored : memory.sessions[id]? with
  | none => rfl
  | some session =>
    have reads := (mirrors.sound id session stored).1.reads
    rw [mirrors.paired.keyed id session stored] at reads
    dsimp only [map_some]
    rw [reads]
    rfl

end

def revoking (now : Instant) (session : Session) : Session := { session with state := .revoked,revokedAt := some now }

theorem activeAt_iff : activeAt id key (rowOf session) = true ↔ key = id ∧ session.state = .active := by
  simp only [activeAt,Bool.and_eq_true,decide_eq_true_eq]
  exact and_congr Iff.rfl stateCode_active

theorem revoke_spent (mirrors : Mirrors clock table memory) (passes : clock ≤ now)
    (stored : memory.sessions[id]? = some session) (spent : session.state ≠ .active) :
    Agrees (.revoke id now) now (serve identities (.revoke id now) table) (SessionOp.exec (.revoke id now) memory) := by
  simp only [serve,SessionOp.exec]
  unfold PostgresSessionRepository.revoke revoke
  have there : table[id]? = some (rowOf session) := by
    rw [mirrors.find,stored]
    rfl
  rw [update_unfit mirrors (fun _ _ => activeAt_iff.mp),stored]
  · dsimp only
    rw [there]
    dsimp only
    unfold Session.revoke
    cases state : session.state with
    | active => exact absurd state spent
    | revoked =>
      have revoked : (rowOf session).state = 1 := stateCode_revoked.mpr state
      rw [if_pos revoked]
      rw [insert_same stored]
      exact ⟨rfl,mirrors.later passes⟩
    | expired =>
      have unrevoked : ¬(rowOf session).state = 1 := by
        intro revoked
        cases state.symm.trans (stateCode_revoked.mp revoked)
      rw [if_neg unrevoked]
      rw [insert_same stored]
      exact ⟨rfl,mirrors.later passes⟩
  · intro found there'
    rw [stored] at there'
    cases there'
    exact spent

theorem revoke_agrees (mirrors : Mirrors clock table memory) (passes : clock ≤ now) :
    Agrees (.revoke id now) now (serve identities (.revoke id now) table) (SessionOp.exec (.revoke id now) memory) := by
  cases stored : memory.sessions[id]? with
  | none =>
    simp only [serve,SessionOp.exec]
    unfold PostgresSessionRepository.revoke revoke
    rw [update_unfit mirrors (fun _ _ => activeAt_iff.mp),stored]
    · dsimp only
      rw [mirrors.find,stored]
      exact ⟨rfl,mirrors.later passes⟩
    · simp [stored]
  | some session =>
    by_cases active : session.state = .active
    · simp only [serve,SessionOp.exec]
      unfold PostgresSessionRepository.revoke revoke
      rw [stored]
      obtain ⟨sound,issued⟩ := mirrors.sound id session stored
      have paired : Paired { memory with sessions := memory.sessions.insert id (revoking now session) } :=
        mirrors.paired.rewritten stored rfl rfl
      obtain ⟨left,went,mirrors'⟩ := update_one (activeAt id) (revokedRow now) (revoking now) (mirrors.later passes) stored
        (activeAt_iff.mpr ⟨rfl,active⟩) (fun _ _ _ picked => (activeAt_iff.mp picked).1) rfl (sound.ended now) rfl rfl rfl
        paired
      rw [went]
      dsimp only
      rw [session.revoke_active now active]
      exact ⟨rfl,mirrors'⟩
    · exact revoke_spent mirrors passes stored active

theorem activeOf_iff : activeOf identity id (rowOf session) = true ↔ session.identity = identity ∧ session.state = .active := by
  simp only [activeOf,Bool.and_eq_true,decide_eq_true_eq]
  exact and_congr ⟨CodeRedemptions.id_eq,congrArg StrongId.value⟩ stateCode_active

theorem revokeEach_count : (revokeEach identity now rest revoked memory).1 =
      .ok (revoked + rest.countP fun entry => activeOf identity entry.1 (rowOf entry.2)) := by
  induction rest generalizing revoked memory with
  | nil => rfl
  | cons entry rest ih =>
    obtain ⟨id,session⟩ := entry
    have picked : activeOf identity id (rowOf session) = true ↔ session.identity = identity ∧ session.state = .active :=
      activeOf_iff
    unfold revokeEach
    rw [List.countP_cons]
    split
    · rename_i mine
      rw [session.revoke_active now mine.2]
      rw [ih,if_pos (picked.mpr mine)]
      congr 1
      omega
    · rename_i spared
      rw [ih,if_neg fun chosen => spared (picked.mp chosen)]
      rfl

theorem revokeAll_agrees (mirrors : Mirrors clock table memory) (passes : clock ≤ now) :
    Agrees (.revokeAll identity now) now (serve identities (.revokeAll identity now) table)
      (SessionOp.exec (.revokeAll identity now) memory) := by
  obtain ⟨-,-,sessions⟩ := revokeAll_spec identity now memory
  have same : (memory.revokeAll identity now).2.sessions =
      updated (fun id session => activeOf identity id (rowOf session)) (revoking now) memory.sessions := by
    apply Std.ExtTreeMap.ext_getElem?
    intro id
    unfold updated
    rw [sessions id,Std.ExtTreeMap.getElem?_map]
    congr 1
    funext session
    unfold ending
    by_cases mine : session.identity = identity ∧ session.state = .active
    · rw [if_pos mine,if_pos (activeOf_iff.mpr mine),session.revoke_active now mine.2]
      rfl
    · rw [if_neg mine,if_neg fun picked => mine (activeOf_iff.mp picked)]
  obtain ⟨left,went,mirrors'⟩ := update_turns (activeOf identity) (revokedRow now) (revoking now) (mirrors.later passes)
    (fun id session stored _ => ⟨rfl,(mirrors.sound id session stored).1.ended now,rfl,rfl⟩) same
    (exec_paired (.revokeAll identity now) mirrors.paired)
  simp only [serve,SessionOp.exec]
  unfold PostgresSessionRepository.revokeAll
  rw [went]
  refine ⟨?_,mirrors'⟩
  change some _ = (memory.revokeAll identity now).1.toOption
  unfold revokeAll
  rw [revokeEach_count,List.length_map,Nat.zero_add,List.countP_eq_length_filter]
  rfl

theorem mapM_reads {α β : Type} {read : α → Result β} {view : α → β} {items : List α}
    (reads : ∀ item ∈ items,read item = .ok (view item)) : items.mapM read = .ok (items.map view) := by
  induction items with
  | nil => rfl
  | cons item rest ih =>
    rw [List.mapM_cons,reads item List.mem_cons_self,ih fun later inside => reads later (List.mem_cons_of_mem item inside)]
    rfl

theorem list_agrees (mirrors : Mirrors clock table memory) :
    Agrees (.list identity) clock (serve identities (.list identity) table) (SessionOp.exec (.list identity) memory) := by
  refine ⟨?_,mirrors⟩
  change ∃ sessions,PostgresSessionRepository.list identity table = .ok sessions ∧ sessions.Perm (memory.list identity)
  let mine := rowsWhere (fun _ session => decide (session.identity = identity)) memory.sessions
  let recent := mine.mergeSort fun one two => two.2.lastSeenAt ≤ one.2.lastSeenAt
  refine ⟨recent.map Prod.snd,?_,?_⟩
  · have rows : rowsWhere (fun _ row => decide (row.identityId = identity.value)) table =
        mine.map fun entry => (entry.1,rowOf entry.2) := by
      rw [mirrors.rows,rowsWhere_map]
      congr 2
      funext id session
      rw [decide_eq_decide]
      exact ⟨CodeRedemptions.id_eq,congrArg StrongId.value⟩
    have sorted : (mine.map fun entry => (entry.1,rowOf entry.2)).mergeSort
        (fun one two => two.2.lastSeenAt ≤ one.2.lastSeenAt) = recent.map fun entry => (entry.1,rowOf entry.2) :=
      (List.map_mergeSort (f:=fun entry : SessionId × Session => (entry.1,rowOf entry.2)) fun _ _ _ _ => rfl).symm
    unfold PostgresSessionRepository.list
    rw [rows,sorted,List.mapM_map]
    apply mapM_reads
    rintro ⟨id,session⟩ inside
    obtain ⟨stored,-⟩ := mem_rowsWhere.mp (List.mem_mergeSort.mp inside)
    have reads := (mirrors.sound id session stored).1.reads
    rw [mirrors.paired.keyed id session stored] at reads
    exact reads
  · have listed : memory.list identity = mine.map Prod.snd := by
      unfold list Map.elements
      rw [List.filter_map]
      rfl
    rw [listed]
    exact (List.mergeSort_perm _ _).map Prod.snd

theorem purgeEach_count : (purgeEach now rest removed memory).1 =
      removed + rest.countP fun entry => entry.2.isExpiredAt now := by
  induction rest generalizing removed memory with
  | nil => rfl
  | cons entry rest ih =>
    obtain ⟨id,session⟩ := entry
    unfold purgeEach
    rw [List.countP_cons]
    split
    · rw [ih]
      omega
    · rw [ih]
      rfl

theorem purgeEach_sessions (id : SessionId) : (purgeEach now rest removed memory).2.sessions[id]? =
      if rest.any (fun entry => entry.1 = id && entry.2.isExpiredAt now) then none else memory.sessions[id]? := by
  induction rest generalizing removed memory with
  | nil => rfl
  | cons entry rest ih =>
    obtain ⟨here,session⟩ := entry
    unfold purgeEach
    rw [List.any_cons]
    split
    · rename_i late
      rw [ih,Map.find_erase]
      by_cases mine : here = id
      · rw [decide_eq_true mine,late,if_pos mine]
        simp
      · rw [decide_eq_false mine,if_neg mine,Bool.false_and,Bool.false_or]
    · rename_i timely
      rw [ih,Bool.eq_false_iff.mpr timely,Bool.and_false,Bool.false_or]

theorem purged_iff : (memory.sessions.toList.any fun entry => entry.1 = id && entry.2.isExpiredAt now) =
    memory.sessions[id]?.any fun session => session.isExpiredAt now := by
  rw [Bool.eq_iff_iff,List.any_eq_true]
  constructor
  · rintro ⟨⟨here,session⟩,inside,late⟩
    rw [Bool.and_eq_true,decide_eq_true_eq] at late
    obtain ⟨rfl,late⟩ := late
    rw [Std.ExtTreeMap.mem_toList_iff_getElem?_eq_some.mp inside]
    exact late
  · intro late
    cases stored : memory.sessions[id]? with
    | none =>
      rw [stored] at late
      cases late
    | some session =>
      rw [stored] at late
      have ended : session.isExpiredAt now = true := late
      exact ⟨(id,session),Std.ExtTreeMap.mem_toList_iff_getElem?_eq_some.mpr stored,by simpa using ended⟩

theorem purge_agrees (mirrors : Mirrors clock table memory) (passes : clock ≤ now) :
    Agrees (.purgeExpired now) now (serve identities (.purgeExpired now) table)
      (SessionOp.exec (.purgeExpired now) memory) := by
  have left : table.filter (fun _ row => !row.ended now) = (memory.purgeExpired now).2.sessions.map fun _ => rowOf := by
    apply Std.ExtTreeMap.ext_getElem?
    intro id
    rw [mirrors.rows,Std.ExtTreeMap.getElem?_filter',Std.ExtTreeMap.getElem?_map,Std.ExtTreeMap.getElem?_map]
    unfold purgeExpired
    rw [purgeEach_sessions,purged_iff]
    cases stored : memory.sessions[id]? with
    | none => rfl
    | some session =>
      cases late : session.isExpiredAt now with
      | true | false => simp [row_ended,late]
  refine ⟨?_,left,exec_paired (.purgeExpired now) mirrors.paired,?_⟩
  · change (PostgresSessionRepository.purgeExpired now table).1 = (memory.purgeExpired now).1
    unfold PostgresSessionRepository.purgeExpired purgeExpired
    rw [purgeEach_count,mirrors.rows,rowsWhere_map,List.length_map,Nat.zero_add,List.countP_eq_length_filter]
    rfl
  · intro id session there
    exact (mirrors.later passes).sound id session (purge_sessions there)

end

def OnTime (clock : Instant) : SessionOp → Prop
  | .add _ => True
  | .use _ now => clock ≤ now
  | .rotate _ _ _ now => clock ≤ now
  | .revoke _ now => clock ≤ now
  | .revokeAll _ now => clock ≤ now
  | .find _ => True
  | .list _ => True
  | .purgeExpired now => clock ≤ now

def tick (clock : Instant) : SessionOp → Instant
  | .add session => max clock session.issuedAt
  | .use _ now => now
  | .rotate _ _ _ now => now
  | .revoke _ now => now
  | .revokeAll _ now => now
  | .find _ => clock
  | .list _ => clock
  | .purgeExpired now => now

-- A session that is taken up is one that both can keep. A rotation of an active session neither comes
-- after its end, where its replacement is free, nor replaces its token by itself.
def Suits (identities : List Text) (memory : InMemorySessionRepository) : SessionOp → Prop
  | .add session => memory.sessions[session.id]? = none → memory.tokens[session.tokenDigest]? = none →
      Storable identities session
  | .rotate id expected replacement now => ∀ session,memory.sessions[id]? = some session → session.state = .active →
      (session.isExpiredAt now = true → memory.tokens.holds replacement = true) ∧
        (session.isExpiredAt now = false → session.tokenDigest = expected → replacement ≠ expected)
  | _ => True

structure Turn where
  identities : List Text
  op : SessionOp

def afterPostgres (turns : List Turn) : SessionTable :=
  turns.foldl (fun table turn => (serve turn.identities turn.op table).2) ∅

def afterMemory (turns : List Turn) : InMemorySessionRepository :=
  turns.foldl (fun memory turn => (turn.op.exec memory).2) .empty

def clockAfter (start : Instant) (turns : List Turn) : Instant := turns.foldl (fun clock turn => tick clock turn.op) start

def Clocked (start : Instant) (turns : List Turn) : Prop :=
  ∀ before (turn : Turn) rest,turns = before ++ turn :: rest → OnTime (clockAfter start before) turn.op

def Suited (turns : List Turn) : Prop :=
  ∀ before (turn : Turn) rest,turns = before ++ turn :: rest → Suits turn.identities (afterMemory before) turn.op

def Refines (turns : List Turn) : Prop :=
  ∀ before (turn : Turn) rest,turns = before ++ turn :: rest →
    Alike turn.op (serve turn.identities turn.op (afterPostgres before)).1 (turn.op.exec (afterMemory before)).1 ∧
      afterPostgres (before ++ [turn]) = (afterMemory (before ++ [turn])).sessions.map fun _ => rowOf

section
variable {clock start : Instant} {memory : InMemorySessionRepository} {turns : List Turn} {turn : Turn}

theorem serve_agrees (mirrors : Mirrors clock table memory) (timely : OnTime clock turn.op)
    (suits : Suits turn.identities memory turn.op) :
    Agrees turn.op (tick clock turn.op) (serve turn.identities turn.op table) (turn.op.exec memory) := by
  obtain ⟨identities,op⟩ := turn
  cases op with
  | add session => exact add_agrees mirrors suits
  | use token now => exact use_agrees mirrors timely
  | rotate id expected replacement now => exact rotate_agrees mirrors timely suits
  | revoke id now => exact revoke_agrees mirrors timely
  | revokeAll identity now => exact revokeAll_agrees mirrors timely
  | find id => exact find_agrees mirrors
  | list identity => exact list_agrees mirrors
  | purgeExpired now => exact purge_agrees mirrors timely

theorem run_mirrors (clocked : Clocked start turns) (suited : Suited turns) :
    Mirrors (clockAfter start turns) (afterPostgres turns) (afterMemory turns) := by
  induction turns using List.reverseRecOn with
  | nil =>
    refine ⟨?_,empty_paired,?_⟩
    · apply Std.ExtTreeMap.ext_getElem?
      intro id
      simp [afterPostgres,afterMemory,empty]
    · intro id session stored
      simp [afterMemory,empty] at stored
  | append_singleton turns turn ih =>
    have clocked' : Clocked start turns := fun before turn' rest split =>
      clocked before turn' (rest ++ [turn]) (by simp [split])
    have suited' : Suited turns := fun before turn' rest split => suited before turn' (rest ++ [turn]) (by simp [split])
    have step := serve_agrees (ih clocked' suited') (clocked turns turn [] rfl) (suited turns turn [] rfl)
    have mirrors := step.mirrors
    simpa [clockAfter,afterPostgres,afterMemory] using mirrors

theorem sessions_refined (clocked : Clocked start turns) (suited : Suited turns) : Refines turns := by
  intro before turn rest split
  have earlier : Clocked start before := fun before' turn' rest' split' =>
    clocked before' turn' (rest' ++ turn :: rest) (by simp [split,split'])
  have earlier' : Suited before := fun before' turn' rest' split' =>
    suited before' turn' (rest' ++ turn :: rest) (by simp [split,split'])
  have step := serve_agrees (run_mirrors earlier earlier') (clocked before turn rest split) (suited before turn rest split)
  refine ⟨step.answer,?_⟩
  have rows := step.mirrors.rows
  simpa [afterPostgres,afterMemory] using rows

end

theorem each_nil {P : List Turn → Turn → Prop} : ∀ before turn rest,[] = before ++ turn :: rest → P before turn := by
  intro before turn rest split
  have longer := congrArg List.length split
  simp at longer

theorem each_cons {P : List Turn → Turn → Prop} {turns : List Turn} (here : P [] first)
    (onward : ∀ before turn rest,turns = before ++ turn :: rest → P (first :: before) turn) :
    ∀ before turn rest,first :: turns = before ++ turn :: rest → P before turn := by
  intro before turn rest split
  cases before with
  | nil =>
    cases split
    exact here
  | cons one before =>
    obtain ⟨rfl,shape⟩ := List.cons.inj split
    exact onward before turn rest shape

theorem demo_named : (⟨[1]⟩ : SessionId).empty = false ∧ (⟨[2]⟩ : IdentityId).empty = false ∧
    (⟨[3]⟩ : Identities.ProviderId).empty = false := by decide

theorem demo_lasting : (0 : Instant) < 100 ∧ (0 : Duration) < 10 := by decide

theorem demo_grown : (0 : Instant) ≤ 0 := by decide

def demoSession : Session where
  id := ⟨[1]⟩
  identity := ⟨[2]⟩
  provider := ⟨[3]⟩
  assurance := .ial1
  strength := ⟨1,false⟩
  state := .active
  authenticatedAt := 0
  tokenDigest := 5
  issuedAt := 0
  lastSeenAt := 0
  absoluteExpiresAt := 100
  idleTimeout := 10
  revokedAt := none
  userAgent := none
  remoteAddress := none
  named := demo_named
  lasting := demo_lasting
  grown := demo_grown

def demoAdd : Turn := ⟨[[2]],.add demoSession⟩
def demoRotate (now : Instant) : Turn := ⟨[[2]],.rotate ⟨[1]⟩ 5 6 now⟩
def demoRevoke : Turn := ⟨[[2]],.revoke ⟨[1]⟩ 21⟩

theorem demo_storable : Storable [[2]] demoSession := by
  refine ⟨⟨by decide,by decide,by decide,by decide,rfl,?_,?_⟩,by decide,by decide⟩
  · intro text given
    cases given
  · intro text given
    cases given

-- A rotation that comes too late ends the session in memory; in PostgreSQL it stays active.
theorem late_rotation_drifts : Clocked 0 [demoAdd,demoRotate 20,demoRevoke] ∧ Storable [[2]] demoSession ∧
    ¬Refines [demoAdd,demoRotate 20,demoRevoke] := by
  refine ⟨?_,demo_storable,?_⟩
  · exact each_cons trivial (each_cons (by decide : (0 : Instant) ≤ 20) (each_cons (by decide : (20 : Instant) ≤ 21) each_nil))
  · intro refines
    have answer := (refines [demoAdd,demoRotate 20] demoRevoke [] rfl).1
    revert answer
    change ¬(_ : Option Unit) = _
    decide

theorem sessions_refined_twice : Refines [demoAdd,demoRotate 5] := by
  have clocked : Clocked 0 [demoAdd,demoRotate 5] :=
    each_cons trivial (each_cons (by decide : (0 : Instant) ≤ 5) each_nil)
  have suited : Suited [demoAdd,demoRotate 5] := by
    apply each_cons
    · intro _ _
      exact demo_storable
    · apply each_cons
      · intro session stored _
        have held : (afterMemory [demoAdd]).sessions[(⟨[1]⟩ : SessionId)]? = some demoSession := by decide
        obtain rfl := Option.some.inj (held.symm.trans stored)
        exact ⟨fun late => absurd late (by decide),fun _ _ => by decide⟩
      · exact each_nil
  exact sessions_refined clocked suited

end OpenProof.PostgresSessions
