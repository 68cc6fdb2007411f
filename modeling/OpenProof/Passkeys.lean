import OpenProof.AuthenticationWorld
import OpenProof.Postgres

namespace OpenProof.Passkeys
open Foundation Postgres Identities AuthenticationWorld

structure PasskeyCredential where
  credentialId : Text
  identity : IdentityId
  publicKeyX : Text
  publicKeyY : Text
  signCount : UInt32
  createdAt : Instant
  lastUsedAt : Instant

structure RegistrationCeremony where
  id : ChallengeId
  identity : IdentityId
  expiresAt : Instant

inductive PasskeyOp where
  | addCeremony (ceremony : RegistrationCeremony)
  | consumeCeremony (id : ChallengeId) (identity : IdentityId) (now : Instant)
  | addCredential (credential : PasskeyCredential)
  | findCredential (credentialId : Text)
  | listCredentials (identity : IdentityId)
  | advanceCounter (credentialId : Text) (expected replacement : UInt32) (usedAt : Instant)
  | removeCredentialIfAnotherExists (identity : IdentityId) (credentialId : Text)
  | removeCredential (identity : IdentityId) (credentialId : Text)

abbrev PasskeyOp.Ret : PasskeyOp → Type
  | .addCeremony _ => Result Unit
  | .consumeCeremony .. => Result Unit
  | .addCredential _ => Result Unit
  | .findCredential _ => Result (Option PasskeyCredential)
  | .listCredentials _ => Result (List PasskeyCredential)
  | .advanceCounter .. => Result Unit
  | .removeCredentialIfAnotherExists .. => Result Unit
  | .removeCredential .. => Result Unit

def Advances (expected replacement : UInt32) : Prop := expected = 0 ∧ replacement = 0 ∨ expected < replacement

instance advancesDecidable (expected replacement : UInt32) : Decidable (Advances expected replacement) :=
  inferInstanceAs (Decidable (_ ∨ _))

def finalCredential : Error :=
  .because .failedPrecondition "The final passkey credential cannot be removed while passkey sign-in is connected."

structure InMemoryPasskeyRepository where
  ceremonies : Map ChallengeId RegistrationCeremony
  credentials : Map Text PasskeyCredential

namespace InMemoryPasskeyRepository
variable (r : InMemoryPasskeyRepository)

def addCeremony (ceremony : RegistrationCeremony) : Result Unit × InMemoryPasskeyRepository :=
  if r.ceremonies.holds ceremony.id then (.error (.plain .alreadyExists),r)
  else (.ok (),{ r with ceremonies := r.ceremonies.insert ceremony.id ceremony })

def consumeCeremony (id : ChallengeId) (identity : IdentityId) (now : Instant) :
    Result Unit × InMemoryPasskeyRepository :=
  match r.ceremonies[id]? with
  | none => (.error (.plain .authenticationFailed),r)
  | some found =>
    if found.identity ≠ identity ∨ found.expiresAt ≤ now then (.error (.plain .authenticationFailed),r)
    else (.ok (),{ r with ceremonies := r.ceremonies.erase id })

def addCredential (credential : PasskeyCredential) : Result Unit × InMemoryPasskeyRepository :=
  if r.credentials.holds credential.credentialId then (.error (.plain .alreadyExists),r)
  else (.ok (),{ r with credentials := r.credentials.insert credential.credentialId credential })

def advanceCounter (credentialId : Text) (expected replacement : UInt32) (usedAt : Instant) :
    Result Unit × InMemoryPasskeyRepository :=
  match r.credentials[credentialId]? with
  | none => (.error (.plain .notFound),r)
  | some found =>
    let counterUnsupported := expected = 0 ∧ replacement = 0
    if found.signCount ≠ expected ∨ (¬counterUnsupported ∧ replacement ≤ expected) then (.error (.plain .conflict),r)
    else
      let lastUsedAt := if usedAt > found.lastUsedAt then usedAt else found.lastUsedAt
      let used := { found with signCount := replacement,lastUsedAt := lastUsedAt }
      (.ok (),{ r with credentials := r.credentials.insert credentialId used })

def listCredentials (identity : IdentityId) : List PasskeyCredential :=
  r.credentials.elements.filter fun credential => credential.identity = identity

def removeCredentialIfAnotherExists (identity : IdentityId) (credentialId : Text) :
    Result Unit × InMemoryPasskeyRepository :=
  match r.credentials[credentialId]? with
  | none => (.error (.plain .notFound),r)
  | some found =>
    if found.identity ≠ identity then (.error (.plain .notFound),r)
    else if (r.listCredentials identity).length ≤ 1 then (.error finalCredential,r)
    else (.ok (),{ r with credentials := r.credentials.erase credentialId })

def removeCredential (identity : IdentityId) (credentialId : Text) : Result Unit × InMemoryPasskeyRepository :=
  match r.credentials[credentialId]? with
  | none => (.error (.plain .notFound),r)
  | some found =>
    if found.identity ≠ identity then (.error (.plain .notFound),r)
    else (.ok (),{ r with credentials := r.credentials.erase credentialId })

def exec : (op : PasskeyOp) → op.Ret × InMemoryPasskeyRepository
  | .addCeremony ceremony => r.addCeremony ceremony
  | .consumeCeremony id identity now => r.consumeCeremony id identity now
  | .addCredential credential => r.addCredential credential
  | .findCredential credentialId => (.ok r.credentials[credentialId]?,r)
  | .listCredentials identity => (.ok (r.listCredentials identity),r)
  | .advanceCounter credentialId expected replacement usedAt => r.advanceCounter credentialId expected replacement usedAt
  | .removeCredentialIfAnotherExists identity credentialId => r.removeCredentialIfAnotherExists identity credentialId
  | .removeCredential identity credentialId => r.removeCredential identity credentialId

end InMemoryPasskeyRepository

-- `std::from_chars` for `std::uint32_t`, on what a bigint column reads as.
def parseCount (value : Int) : Option UInt32 :=
  if 0 ≤ value ∧ value ≤ 4294967295 then some (UInt32.ofNat value.toNat) else none

-- `openproof.passkey_credentials`, its key apart; `counted` is its CHECK.
structure CredentialRow where
  identityId : Text
  publicKeyX : Text
  publicKeyY : Text
  signCount : Int
  createdAt : Instant
  lastUsedAt : Instant
  counted : 0 ≤ signCount ∧ signCount ≤ 4294967295

structure CeremonyRow where
  identityId : Text
  expiresAt : Instant
  consumedAt : Option Instant

-- `identities` are the keys that the foreign keys ask for.
structure PasskeyTables where
  identities : List Text
  ceremonies : Map Text CeremonyRow
  credentials : Map Text CredentialRow

theorem counted_of (count : UInt32) : 0 ≤ (count.toNat : Int) ∧ (count.toNat : Int) ≤ 4294967295 := by
  have bound := count.toNat_lt
  omega

theorem parseCount_toNat (count : UInt32) : parseCount count.toNat = some count := by
  rw [parseCount,if_pos (counted_of count),Int.toNat_natCast,UInt32.ofNat_toNat]

def CredentialRow.credential (credentialId : Text) (row : CredentialRow) : Result PasskeyCredential :=
  match parseCount row.signCount with
  | none => .error (.plain .internal)
  | some count => .ok ⟨credentialId,⟨row.identityId⟩,row.publicKeyX,row.publicKeyY,count,row.createdAt,row.lastUsedAt⟩

def rowOf (credential : PasskeyCredential) : CredentialRow where
  identityId := credential.identity.value
  publicKeyX := credential.publicKeyX
  publicKeyY := credential.publicKeyY
  signCount := credential.signCount.toNat
  createdAt := credential.createdAt
  lastUsedAt := credential.lastUsedAt
  counted := counted_of credential.signCount

def CredentialRow.used (row : CredentialRow) (replacement : UInt32) (usedAt : Instant) : CredentialRow :=
  { row with signCount := replacement.toNat,lastUsedAt := max row.lastUsedAt usedAt,counted := counted_of replacement }

namespace PasskeyTables

def addCeremony (ceremony : RegistrationCeremony) (tables : PasskeyTables) : Result Unit × PasskeyTables :=
  let refused state : Result Unit × PasskeyTables :=
    (.error (databaseError (some state) "insert passkey registration ceremony"),tables)
  if tables.ceremonies.holds ceremony.id.value then refused uniqueViolation
  else if !tables.identities.contains ceremony.identity.value then refused foreignKeyViolation
  else (.ok (),{ tables with
    ceremonies := tables.ceremonies.insert ceremony.id.value ⟨ceremony.identity.value,ceremony.expiresAt,none⟩ })

def consumeCeremony (id : ChallengeId) (identity : IdentityId) (now : Instant) (tables : PasskeyTables) :
    Result Unit × PasskeyTables :=
  match tables.ceremonies[id.value]? with
  | none => (.error (.plain .authenticationFailed),tables)
  | some row =>
    if row.identityId = identity.value ∧ row.consumedAt = none ∧ row.expiresAt > now then
      (.ok (),{ tables with ceremonies := tables.ceremonies.insert id.value { row with consumedAt := some now } })
    else (.error (.plain .authenticationFailed),tables)

def addCredential (credential : PasskeyCredential) (tables : PasskeyTables) : Result Unit × PasskeyTables :=
  let refused state : Result Unit × PasskeyTables :=
    (.error (databaseError (some state) "insert passkey credential"),tables)
  if tables.credentials.holds credential.credentialId then refused uniqueViolation
  else if !tables.identities.contains credential.identity.value then refused foreignKeyViolation
  else (.ok (),{ tables with
    credentials := tables.credentials.insert credential.credentialId (rowOf credential) })

def findCredential (credentialId : Text) (tables : PasskeyTables) : Result (Option PasskeyCredential) × PasskeyTables :=
  match tables.credentials[credentialId]? with
  | none => (.ok none,tables)
  | some row => ((row.credential credentialId).map some,tables)

-- `collates` is the order of the text columns.
def listCredentials (collates : Text → Text → Bool) (identity : IdentityId) (tables : PasskeyTables) :
    Result (List PasskeyCredential) × PasskeyTables :=
  let rows := tables.credentials.toList.filter fun entry => entry.2.identityId = identity.value
  let ordered := rows.mergeSort fun left right => left.2.createdAt < right.2.createdAt
    || (left.2.createdAt = right.2.createdAt && collates left.1 right.1)
  (ordered.mapM fun entry => entry.2.credential entry.1,tables)

def updateCounter (credentialId : Text) (expected replacement : UInt32) (usedAt : Instant) (tables : PasskeyTables) :
    Result Unit × PasskeyTables :=
  match tables.credentials[credentialId]? with
  | none => (.error (.plain .conflict),tables)
  | some row =>
    if row.signCount = expected.toNat then
      (.ok (),{ tables with credentials := tables.credentials.insert credentialId (row.used replacement usedAt) })
    else (.error (.plain .conflict),tables)

def removeCredentialIfAnotherExists (identity : IdentityId) (credentialId : Text) (tables : PasskeyTables) :
    Result Unit × PasskeyTables :=
  let rows := tables.credentials.toList.filter fun entry => entry.2.identityId = identity.value
  if (rows.filter fun entry => entry.1 = credentialId).length ≠ 1 then (.error (.plain .notFound),tables)
  else if rows.length ≤ 1 then (.error finalCredential,tables)
  else (.ok (),{ tables with credentials := tables.credentials.erase credentialId })

def removeCredential (identity : IdentityId) (credentialId : Text) (tables : PasskeyTables) :
    Result Unit × PasskeyTables :=
  match tables.credentials[credentialId]? with
  | none => (.error (.plain .notFound),tables)
  | some row =>
    if row.identityId ≠ identity.value then (.error (.plain .notFound),tables)
    else (.ok (),{ tables with credentials := tables.credentials.erase credentialId })

end PasskeyTables

-- What the pool and the schema add to the tables.
structure PostgresPasskeyRepository where
  tables : PasskeyTables
  collates : Text → Text → Bool
  connections : List Connection

namespace PostgresPasskeyRepository
variable (r : PostgresPasskeyRepository)

def query {α : Type} (statement : PasskeyTables → Result α × PasskeyTables) : Result α × PostgresPasskeyRepository :=
  let ran := (r.connections.headD .served).run statement r.tables
  (ran.1,{ r with tables := ran.2,connections := r.connections.tail })

def advanceCounter (credentialId : Text) (expected replacement : UInt32) (usedAt : Instant) :
    Result Unit × PostgresPasskeyRepository :=
  let counterUnsupported := expected = 0 ∧ replacement = 0
  if ¬counterUnsupported ∧ replacement ≤ expected then (.error (.plain .conflict),r)
  else r.query (PasskeyTables.updateCounter credentialId expected replacement usedAt)

def exec : (op : PasskeyOp) → op.Ret × PostgresPasskeyRepository
  | .addCeremony ceremony => r.query (PasskeyTables.addCeremony ceremony)
  | .consumeCeremony id identity now => r.query (PasskeyTables.consumeCeremony id identity now)
  | .addCredential credential => r.query (PasskeyTables.addCredential credential)
  | .findCredential credentialId => r.query (PasskeyTables.findCredential credentialId)
  | .listCredentials identity => r.query (PasskeyTables.listCredentials r.collates identity)
  | .advanceCounter credentialId expected replacement usedAt => r.advanceCounter credentialId expected replacement usedAt
  | .removeCredentialIfAnotherExists identity credentialId =>
    r.query (PasskeyTables.removeCredentialIfAnotherExists identity credentialId)
  | .removeCredential identity credentialId => r.query (PasskeyTables.removeCredential identity credentialId)

end PostgresPasskeyRepository

inductive PasskeyRepository where
  | inMemory (maps : InMemoryPasskeyRepository)
  | postgres (rows : PostgresPasskeyRepository)

namespace PasskeyRepository

def exec (op : PasskeyOp) : PasskeyRepository → op.Ret × PasskeyRepository
  | .inMemory maps => ((maps.exec op).1,.inMemory (maps.exec op).2)
  | .postgres rows => ((rows.exec op).1,.postgres (rows.exec op).2)

def counter (credentialId : Text) : PasskeyRepository → Option UInt32
  | .inMemory maps => maps.credentials[credentialId]?.bind fun credential => some credential.signCount
  | .postgres rows => rows.tables.credentials[credentialId]?.bind fun row => parseCount row.signCount

end PasskeyRepository

inductive Counted (op : PasskeyOp) (credentialId : Text) (before after : Option UInt32) : Prop where
  | kept (same : after = before)
  | advanced (expected replacement : UInt32) (usedAt : Instant)
      (asked : op = .advanceCounter credentialId expected replacement usedAt) (found : before = some expected)
      (left : after = some replacement) (step : Advances expected replacement)
  | added (absent : before = none)
  | removed (identity : IdentityId) (asked : op = .removeCredentialIfAnotherExists identity credentialId ∨
      op = .removeCredential identity credentialId) (gone : after = none)

section
variable {V : Type} {count : V → Option UInt32} {m : Map Text V} {op : PasskeyOp} {credentialId key : Text} {v : V}

theorem added_counted (absent : m.holds key = false) :
    Counted op credentialId (m[credentialId]?.bind count) ((m.insert key v)[credentialId]?.bind count) := by
  rw [Map.find_insert]
  split
  · rename_i same
    subst same
    have missing : m[key]? = none := Option.isNone_iff_eq_none.mp (Option.isSome_eq_false_iff.mp absent)
    exact .added (by simp [missing])
  · exact .kept rfl

theorem erased_counted (identity : IdentityId)
    (asked : op = .removeCredentialIfAnotherExists identity key ∨ op = .removeCredential identity key) :
    Counted op credentialId (m[credentialId]?.bind count) ((m.erase key)[credentialId]?.bind count) := by
  rw [Map.find_erase]
  split
  · rename_i same
    subst same
    exact .removed identity asked rfl
  · exact .kept rfl

theorem used_counted {expected replacement : UInt32} {usedAt : Instant}
    (asked : op = .advanceCounter key expected replacement usedAt) (stored : m[key]? = some old)
    (found : count old = some expected) (left : count v = some replacement) (step : Advances expected replacement) :
    Counted op credentialId (m[credentialId]?.bind count) ((m.insert key v)[credentialId]?.bind count) := by
  rw [Map.find_insert]
  split
  · rename_i same
    subst same
    refine .advanced expected replacement usedAt asked ?_ left step
    rw [stored]
    exact found
  · exact .kept rfl

end

theorem advances_of {expected replacement : UInt32}
    (accepted : ¬(¬(expected = 0 ∧ replacement = 0) ∧ replacement ≤ expected)) : Advances expected replacement := by
  by_cases unsupported : expected = 0 ∧ replacement = 0
  · exact .inl unsupported
  · exact .inr (UInt32.not_le.mp fun stale => accepted ⟨unsupported,stale⟩)

namespace InMemoryPasskeyRepository
variable {r : InMemoryPasskeyRepository} {credentialId : Text} {expected replacement : UInt32} {usedAt : Instant}

abbrev counter (credentialId : Text) (r : InMemoryPasskeyRepository) : Option UInt32 :=
  r.credentials[credentialId]?.bind fun credential => some credential.signCount

theorem advance_cases (r : InMemoryPasskeyRepository) (credentialId : Text) (expected replacement : UInt32)
    (usedAt : Instant) : (∃ e,r.advanceCounter credentialId expected replacement usedAt = (.error e,r)) ∨
      ∃ found used : PasskeyCredential,r.credentials[credentialId]? = some found ∧ found.signCount = expected ∧
        used.signCount = replacement ∧ Advances expected replacement ∧
        r.advanceCounter credentialId expected replacement usedAt =
          (.ok (),{ r with credentials := r.credentials.insert credentialId used }) := by
  unfold advanceCounter
  split
  · exact .inl ⟨_,rfl⟩
  · rename_i found stored
    dsimp only
    split
    · exact .inl ⟨_,rfl⟩
    · rename_i accepted
      obtain ⟨same,step⟩ := not_or.mp accepted
      exact .inr ⟨found,_,stored,not_not.mp same,rfl,advances_of step,rfl⟩

theorem exec_counted (r : InMemoryPasskeyRepository) (op : PasskeyOp) (credentialId : Text) :
    Counted op credentialId (r.counter credentialId) ((r.exec op).2.counter credentialId) := by
  cases op with
  | findCredential | listCredentials => exact .kept rfl
  | addCeremony ceremony =>
    dsimp only [exec,addCeremony]
    split <;> exact .kept rfl
  | consumeCeremony id identity now =>
    dsimp only [exec,consumeCeremony]
    split
    · exact .kept rfl
    · split <;> exact .kept rfl
  | addCredential credential =>
    dsimp only [exec,addCredential]
    split
    · exact .kept rfl
    · rename_i absent
      exact added_counted (Bool.eq_false_iff.mpr absent)
  | advanceCounter key expected replacement usedAt =>
    rcases r.advance_cases key expected replacement usedAt with ⟨e,same⟩ | ⟨found,used,stored,counts,sets,step,same⟩
    · rw [show r.exec (.advanceCounter key expected replacement usedAt) = _ from same]
      exact .kept rfl
    · rw [show r.exec (.advanceCounter key expected replacement usedAt) = _ from same]
      exact used_counted rfl stored (congrArg some counts) (congrArg some sets) step
  | removeCredentialIfAnotherExists identity key =>
    dsimp only [exec,removeCredentialIfAnotherExists]
    split
    · exact .kept rfl
    · split
      · exact .kept rfl
      · split
        · exact .kept rfl
        · exact erased_counted identity (.inl rfl)
  | removeCredential identity key =>
    dsimp only [exec,removeCredential]
    split
    · exact .kept rfl
    · split
      · exact .kept rfl
      · exact erased_counted identity (.inr rfl)

theorem advance_done (done : (r.advanceCounter credentialId expected replacement usedAt).1 = .ok ()) :
    r.counter credentialId = some expected ∧
      (r.advanceCounter credentialId expected replacement usedAt).2.counter credentialId = some replacement ∧
      Advances expected replacement := by
  rcases r.advance_cases credentialId expected replacement usedAt with
    ⟨e,same⟩ | ⟨found,used,stored,counts,sets,step,same⟩
  · rw [same] at done
    cases done
  · rw [same]
    refine ⟨?_,?_,step⟩
    · simp [counter,stored,counts]
    · simp [counter,sets]

end InMemoryPasskeyRepository

namespace PasskeyTables
variable {credentialId : Text} {expected replacement : UInt32} {usedAt : Instant}

abbrev counter (credentialId : Text) (tables : PasskeyTables) : Option UInt32 :=
  tables.credentials[credentialId]?.bind fun row => parseCount row.signCount

theorem update_cases (credentialId : Text) (expected replacement : UInt32) (usedAt : Instant) (tables : PasskeyTables) :
    (∃ e,updateCounter credentialId expected replacement usedAt tables = (.error e,tables)) ∨
      ∃ row,tables.credentials[credentialId]? = some row ∧ row.signCount = expected.toNat ∧
        updateCounter credentialId expected replacement usedAt tables =
          (.ok (),{ tables with credentials := tables.credentials.insert credentialId (row.used replacement usedAt) }) := by
  unfold updateCounter
  split
  · exact .inl ⟨_,rfl⟩
  · rename_i row stored
    split
    · rename_i same
      exact .inr ⟨row,stored,same,rfl⟩
    · exact .inl ⟨_,rfl⟩

theorem update_counted (step : Advances expected replacement) (key : Text) :
    Counted (.advanceCounter credentialId expected replacement usedAt) key (tables.counter key)
      ((updateCounter credentialId expected replacement usedAt tables).2.counter key) := by
  rcases update_cases credentialId expected replacement usedAt tables with ⟨e,same⟩ | ⟨row,stored,found,same⟩
  · rw [same]
    exact .kept rfl
  · rw [same]
    exact used_counted rfl stored (by rw [found,parseCount_toNat]) (parseCount_toNat replacement) step

theorem addCeremony_counter (ceremony : RegistrationCeremony) (tables : PasskeyTables) (key : Text) :
    (addCeremony ceremony tables).2.counter key = tables.counter key := by
  unfold addCeremony
  dsimp only
  split
  · rfl
  · split <;> rfl

theorem consumeCeremony_counter (id : ChallengeId) (identity : IdentityId) (now : Instant) (tables : PasskeyTables)
    (key : Text) : (consumeCeremony id identity now tables).2.counter key = tables.counter key := by
  unfold consumeCeremony
  split
  · rfl
  · split <;> rfl

theorem find_counter (credentialId : Text) (tables : PasskeyTables) (key : Text) :
    (findCredential credentialId tables).2.counter key = tables.counter key := by
  unfold findCredential
  split <;> rfl

theorem add_counted (credential : PasskeyCredential) (tables : PasskeyTables) (key : Text) :
    Counted (.addCredential credential) key (tables.counter key) ((addCredential credential tables).2.counter key) := by
  unfold addCredential
  dsimp only
  split
  · exact .kept rfl
  · rename_i absent
    split
    · exact .kept rfl
    · exact added_counted (Bool.eq_false_iff.mpr absent)

theorem removeIfAnother_counted (identity : IdentityId) (credentialId : Text) (tables : PasskeyTables) (key : Text) :
    Counted (.removeCredentialIfAnotherExists identity credentialId) key (tables.counter key)
      ((removeCredentialIfAnotherExists identity credentialId tables).2.counter key) := by
  unfold removeCredentialIfAnotherExists
  dsimp only
  split
  · exact .kept rfl
  · split
    · exact .kept rfl
    · exact erased_counted identity (.inl rfl)

theorem remove_counted (identity : IdentityId) (credentialId : Text) (tables : PasskeyTables) (key : Text) :
    Counted (.removeCredential identity credentialId) key (tables.counter key)
      ((removeCredential identity credentialId tables).2.counter key) := by
  unfold removeCredential
  split
  · exact .kept rfl
  · split
    · exact .kept rfl
    · exact erased_counted identity (.inr rfl)

end PasskeyTables

namespace PostgresPasskeyRepository
variable {r : PostgresPasskeyRepository} {op : PasskeyOp} {credentialId key : Text} {expected replacement : UInt32}
  {usedAt : Instant}

abbrev counter (credentialId : Text) (r : PostgresPasskeyRepository) : Option UInt32 := r.tables.counter credentialId

theorem query_counted {α : Type} {statement : PasskeyTables → Result α × PasskeyTables}
    (counted : Counted op key (r.counter key) ((statement r.tables).2.counter key)) :
    Counted op key (r.counter key) ((r.query statement).2.counter key) := by
  change Counted op key (r.counter key) (((r.connections.headD .served).run statement r.tables).2.counter key)
  rcases (r.connections.headD .served).run_cases statement r.tables with same | ⟨e,same | same⟩
  · rwa [same]
  · rw [same]
    exact .kept rfl
  · rwa [same]

theorem query_ok {α : Type} {statement : PasskeyTables → Result α × PasskeyTables} {a : α}
    (done : (r.query statement).1 = .ok a) :
    (statement r.tables).1 = .ok a ∧ (r.query statement).2.tables = (statement r.tables).2 := by
  have served := Connection.run_ok (show ((r.connections.headD .served).run statement r.tables).1 = .ok a from done)
  refine ⟨?_,congrArg Prod.snd served⟩
  rw [← served]
  exact done

theorem exec_counted (r : PostgresPasskeyRepository) (op : PasskeyOp) (credentialId : Text) :
    Counted op credentialId (r.counter credentialId) ((r.exec op).2.counter credentialId) := by
  cases op with
  | addCeremony ceremony => exact query_counted (.kept (PasskeyTables.addCeremony_counter ..))
  | consumeCeremony id identity now => exact query_counted (.kept (PasskeyTables.consumeCeremony_counter ..))
  | addCredential credential => exact query_counted (PasskeyTables.add_counted ..)
  | findCredential key => exact query_counted (.kept (PasskeyTables.find_counter ..))
  | listCredentials identity => exact query_counted (.kept rfl)
  | advanceCounter key expected replacement usedAt =>
    dsimp only [exec,advanceCounter]
    split
    · exact .kept rfl
    · rename_i accepted
      exact query_counted (PasskeyTables.update_counted (advances_of accepted) credentialId)
  | removeCredentialIfAnotherExists identity key => exact query_counted (PasskeyTables.removeIfAnother_counted ..)
  | removeCredential identity key => exact query_counted (PasskeyTables.remove_counted ..)

theorem advance_done (done : (r.advanceCounter credentialId expected replacement usedAt).1 = .ok ()) :
    r.counter credentialId = some expected ∧
      (r.advanceCounter credentialId expected replacement usedAt).2.counter credentialId = some replacement ∧
      Advances expected replacement := by
  unfold advanceCounter at done ⊢
  dsimp only at done ⊢
  split at done
  · cases done
  · rename_i accepted
    rw [if_neg accepted]
    obtain ⟨updated,left⟩ := query_ok done
    dsimp only [counter]
    rw [left]
    rcases PasskeyTables.update_cases credentialId expected replacement usedAt r.tables with
      ⟨e,same⟩ | ⟨row,stored,found,same⟩
    · rw [same] at updated
      cases updated
    · rw [same]
      refine ⟨?_,?_,advances_of accepted⟩
      · simp [PasskeyTables.counter,stored,found,parseCount_toNat]
      · simp [PasskeyTables.counter,CredentialRow.used,parseCount_toNat]

end PostgresPasskeyRepository

namespace PasskeyRepository
variable {r : PasskeyRepository} {credentialId : Text} {expected replacement : UInt32} {usedAt : Instant}

theorem exec_counted (r : PasskeyRepository) (op : PasskeyOp) (credentialId : Text) :
    Counted op credentialId (r.counter credentialId) ((r.exec op).2.counter credentialId) := by
  cases r with
  | inMemory maps => exact maps.exec_counted op credentialId
  | postgres rows => exact rows.exec_counted op credentialId

theorem advance_done (done : (r.exec (.advanceCounter credentialId expected replacement usedAt)).1 = .ok ()) :
    r.counter credentialId = some expected ∧
      (r.exec (.advanceCounter credentialId expected replacement usedAt)).2.counter credentialId = some replacement ∧
      Advances expected replacement := by
  cases r with
  | inMemory maps => exact maps.advance_done done
  | postgres rows => exact rows.advance_done done

end PasskeyRepository

end OpenProof.Passkeys
