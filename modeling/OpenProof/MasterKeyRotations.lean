import OpenProof.Postgres
import OpenProof.SqlTransactions

namespace OpenProof.MasterKeyRotations
open AtomicPrograms Foundation SqlTransactions Postgres Prog

-- The tables whose rows are derived from the master key.
inductive DerivedTable where
  | authenticationTransactions
  | sessions
  | accountChallenges
  | passkeyRegistrations
  | authorizationCodes
  | tokenFamilies
  | deviceAuthorizations
  | pushedRequests
  deriving DecidableEq

-- How many rows each of them had.
abbrev Counts := List (DerivedTable × Nat)

structure RotationRow where
  sequence : Nat
  fromVersion : Nat
  toVersion : Nat
  fromFingerprint : Sha256Digest
  toFingerprint : Sha256Digest
  counts : Counts
  rotatedAt : Instant
  deriving DecidableEq

structure Tables (Row : Type) where
  derived : DerivedTable → List Row
  journal : List RotationRow

variable {Row : Type}

-- `ORDER BY sequence DESC LIMIT 1`.
def journalHead (journal : List RotationRow) : Option RotationRow :=
  journal.foldl (fun best row => if best.all fun best => best.sequence < row.sequence then some row else best) none

structure MasterKeyRotationReport where
  counts : Counts
  dryRun : Bool
  deriving DecidableEq

structure Chosen where
  skipped : Nat
  now : Instant
  deriving Inhabited

inductive Statement where
  | setSerializable
  | lockRotation
  | lockDerived
  | countVersion (toVersion : Nat)
  | journalHead
  | delete (table : DerivedTable)
  | insertRotation (fromVersion toVersion : Nat) (fromFingerprint toFingerprint : Sha256Digest) (counts : Counts)

abbrev Statement.Ret : Statement → Type
  | .setSerializable => Unit
  | .lockRotation => Unit
  | .lockDerived => Unit
  | .countVersion _ => Nat
  | .journalHead => Option (Nat × Sha256Digest)
  | .delete _ => Nat
  | .insertRotation .. => Unit

def nextSequence (journal : List RotationRow) (skipped : Nat) : Nat :=
  (journal.map RotationRow.sequence).foldl max 0 + 1 + skipped

def insertRotation (fromVersion toVersion : Nat) (fromFingerprint toFingerprint : Sha256Digest) (counts : Counts)
    (chosen : Chosen) (t : Tables Row) : Except (Option Text) (Unit × Tables Row) :=
  if fromVersion = 0 ∨ toVersion ≤ fromVersion ∨ fromFingerprint = toFingerprint then .error (some checkViolation)
  else if t.journal.any fun row => row.toVersion = toVersion then .error (some uniqueViolation)
  else .ok ((),{ t with
    journal := t.journal ++ [⟨nextSequence t.journal chosen.skipped,fromVersion,toVersion,fromFingerprint,toFingerprint,
      counts,chosen.now⟩] })

def meaning : (asked : Statement) → Chosen → Tables Row → Except (Option Text) (asked.Ret × Tables Row)
  | .setSerializable,_,t => .ok ((),t)
  | .lockRotation,_,t => .ok ((),t)
  | .lockDerived,_,t => .ok ((),t)
  | .countVersion toVersion,_,t => .ok (t.journal.countP (fun row => row.toVersion = toVersion),t)
  | .journalHead,_,t => .ok ((MasterKeyRotations.journalHead t.journal).map fun row => (row.toVersion,row.toFingerprint),t)
  | .delete table,_,t => .ok ((t.derived table).length,{ t with derived := Function.update t.derived table [] })
  | .insertRotation fromVersion toVersion fromFingerprint toFingerprint counts,chosen,t =>
    insertRotation fromVersion toVersion fromFingerprint toFingerprint counts chosen t

abbrev Call (α : Type) := Sql Statement.Ret (Option Text) Error α

def sql (asked : Statement) (operation : Text) : Call asked.Ret := statement asked fun state => databaseError state operation

-- `PostgresMasterKeyRotator`; `lease` is what asking the pool for a connection gives.
namespace PostgresMasterKeyRotator

def activeVersion (version : Nat) (fingerprint : Sha256Digest) : Option (Nat × Sha256Digest) → Result Unit
  | none =>
    if version = 1 then .ok ()
    else fail .failedPrecondition "The configured master key version has no committed rotation journal."
  | some (journalVersion,journalFingerprint) =>
    if journalVersion ≠ version ∨ journalFingerprint ≠ fingerprint then
      fail .failedPrecondition "The configured master key does not match the committed rotation journal."
    else .ok ()

def verifyActive (lease : Result Unit) (version : Nat) (fingerprint : Sha256Digest) : Call Unit := do
  refuseIf (version = 0) (.because .invalidArgument "The active master key version is invalid.")
  check lease
  let head ← sql .journalHead "verify active master-key journal"
  check (activeVersion version fingerprint head)

def removals : List (DerivedTable × Text) :=
  [(.authenticationTransactions,"invalidate authentication transactions"),
    (.sessions,"invalidate sessions"),
    (.accountChallenges,"invalidate account verification challenges"),
    (.passkeyRegistrations,"invalidate passkey registration ceremonies"),
    (.authorizationCodes,"invalidate authorization codes"),
    (.tokenFamilies,"invalidate OAuth token families"),
    (.deviceAuthorizations,"invalidate device authorizations"),
    (.pushedRequests,"invalidate pushed authorization requests")]

def removeAll : List (DerivedTable × Text) → Call (List (DerivedTable × Result Nat))
  | [] => .ret []
  | (table,operation) :: later => do
    let removed ← (sql (.delete table) operation).attempt
    let rest ← removeAll later
    .ret ((table,removed) :: rest)

def countAll : List (DerivedTable × Result Nat) → Result Counts
  | [] => .ok []
  | (table,removed) :: later => do
    let count ← removed
    let rest ← countAll later
    .ok ((table,count) :: rest)

def headMismatch (currentVersion : Nat) (currentFingerprint : Sha256Digest) (head : Option (Nat × Sha256Digest)) : Bool :=
  head.any fun prior => prior.1 ≠ currentVersion || prior.2 ≠ currentFingerprint

def invalidate (currentVersion : Nat) (currentFingerprint : Sha256Digest) (replacementVersion : Nat)
    (dryRun : Bool) : Call MasterKeyRotationReport := do
  sql .setSerializable "set master-key rotation isolation"
  sql .lockRotation "lock master-key rotation"
  sql .lockDerived "lock master-derived state"
  let duplicates ← sql (.countVersion replacementVersion) "read master-key rotation journal"
  refuseIf (duplicates ≠ 0) (.because .alreadyExists "That master key version was already committed.")
  let previous ← sql .journalHead "read previous master-key rotation"
  refuseIf (headMismatch currentVersion currentFingerprint previous)
    (.because .failedPrecondition "The configured master key does not match the rotation journal head.")
  let removed ← removeAll removals
  let counts ← check (countAll removed)
  .ret ⟨counts,dryRun⟩

def replace (currentVersion : Nat) (currentFingerprint : Sha256Digest) (replacementVersion : Nat)
    (replacementFingerprint : Sha256Digest) : Call MasterKeyRotationReport := do
  let report ← invalidate currentVersion currentFingerprint replacementVersion false
  sql (.insertRotation currentVersion replacementVersion currentFingerprint replacementFingerprint report.counts)
    "record master-key rotation"
  .ret report

def inTransaction (currentVersion : Nat) (currentFingerprint : Sha256Digest) (replacementVersion : Nat)
    (replacementFingerprint : Sha256Digest) (dryRun : Bool) : Call MasterKeyRotationReport :=
  if dryRun then
    rehearse (fun state => databaseError state "BEGIN")
      (invalidate currentVersion currentFingerprint replacementVersion true)
  else
    transact (fun state => databaseError state "BEGIN") (fun state => databaseError state "COMMIT")
      (replace currentVersion currentFingerprint replacementVersion replacementFingerprint)

def rotate (lease : Result Unit) (currentVersion : Nat) (currentFingerprint : Sha256Digest) (replacementVersion : Nat)
    (replacementFingerprint : Sha256Digest) (dryRun : Bool) : Call MasterKeyRotationReport := do
  refuseIf (currentVersion = 0 || replacementVersion ≤ currentVersion || replacementVersion > 2147483647)
    (.because .invalidArgument "Master key versions must increase monotonically.")
  refuseIf (currentFingerprint = replacementFingerprint)
    (.because .invalidArgument "The replacement master key must use different key material.")
  check lease
  inTransaction currentVersion currentFingerprint replacementVersion replacementFingerprint dryRun

end PostgresMasterKeyRotator

end OpenProof.MasterKeyRotations
