import Mathlib.Data.List.Forall2
import OpenProof.Identities
import OpenProof.Postgres
import OpenProof.SqlTransactions

namespace OpenProof.CredentialRekeys
open AtomicPrograms Foundation SqlTransactions Identities Postgres Prog List

structure TotpCredential where
  identityId : IdentityId
  encryptedSeed : Text
  keyVersion : Nat
  lastAcceptedStep : Option Nat
  enrolledAt : Instant
  deriving DecidableEq

-- The one purpose there is, `totp`, is left out.
structure RekeyRow where
  fromVersion : Nat
  toVersion : Nat
  rekeyedRows : Nat
  unchangedRows : Nat
  rotatedAt : Instant
  deriving DecidableEq

-- The credentials stand in the order of `identity_id`, which is their key.
structure Tables where
  credentials : List TotpCredential
  journal : List RekeyRow
  unique : (credentials.map TotpCredential.identityId).Nodup

inductive Statement where
  | setSerializable
  | lockRekey
  | lockTotp
  | countVersion (toVersion : Nat)
  | inventory
  | updateSeed (id : IdentityId) (replacement : Text) (replacementVersion currentVersion : Nat) (old : Text)
  | insertRotation (fromVersion toVersion rekeyedRows unchangedRows : Nat)

abbrev Statement.Ret : Statement → Type
  | .setSerializable => Unit
  | .lockRekey => Unit
  | .lockTotp => Unit
  | .countVersion _ => Nat
  | .inventory => List TotpCredential
  | .updateSeed .. => Nat
  | .insertRotation .. => Unit

-- The row that an update names, as its `WHERE` does.
def named_ (id : IdentityId) (currentVersion : Nat) (old : Text) (row : TotpCredential) : Bool :=
  row.identityId = id && row.keyVersion = currentVersion && row.encryptedSeed = old

def reseal (id : IdentityId) (replacement : Text) (replacementVersion currentVersion : Nat) (old : Text)
    (row : TotpCredential) : TotpCredential :=
  if named_ id currentVersion old row then
    { row with encryptedSeed := replacement,keyVersion := replacementVersion }
  else row

theorem reseal_identity (id : IdentityId) (replacement : Text) (replacementVersion currentVersion : Nat) (old : Text)
    (row : TotpCredential) :
    (reseal id replacement replacementVersion currentVersion old row).identityId = row.identityId := by
  unfold reseal
  split <;> rfl

theorem reseal_unique {t : Tables} {id : IdentityId} : ((t.credentials.map (reseal id replacement replacementVersion currentVersion old)).map
      TotpCredential.identityId).Nodup := by
  have same : TotpCredential.identityId ∘ reseal id replacement replacementVersion currentVersion old
      = TotpCredential.identityId := funext fun row => reseal_identity ..
  rw [map_map,same]
  exact t.unique

def meaning : (asked : Statement) → Instant → Tables → Except (Option Text) (asked.Ret × Tables)
  | .setSerializable,_,t => .ok ((),t)
  | .lockRekey,_,t => .ok ((),t)
  | .lockTotp,_,t => .ok ((),t)
  | .countVersion toVersion,_,t => .ok (t.journal.countP (fun row => row.toVersion = toVersion),t)
  | .inventory,_,t => .ok (t.credentials,t)
  | .updateSeed id replacement replacementVersion currentVersion old,_,t =>
    let count := t.credentials.countP (named_ id currentVersion old)
    if count ≠ 0 ∧ replacementVersion = 0 then .error (some checkViolation)
    else .ok (count,⟨t.credentials.map (reseal id replacement replacementVersion currentVersion old),t.journal,
      reseal_unique⟩)
  | .insertRotation fromVersion toVersion rekeyedRows unchangedRows,now,t =>
    if fromVersion = 0 ∨ toVersion ≤ fromVersion then .error (some checkViolation)
    else if t.journal.any fun row => row.toVersion = toVersion then .error (some uniqueViolation)
    else .ok ((),{ t with journal := t.journal ++ [⟨fromVersion,toVersion,rekeyedRows,unchangedRows,now⟩] })

abbrev Call (α : Type) := Sql Statement.Ret (Option Text) Error α

def sql (asked : Statement) (operation : Text) : Call asked.Ret := statement asked fun state => databaseError state operation

structure AeadKey where
  bytes : Text
  deriving DecidableEq

-- Authenticated encryption; what is sealed depends on the nonce drawn for it.
structure Aead where
  openAes256Gcm : AeadKey → (envelope associated : Text) → Result Text
  sealAes256Gcm : (nonce : Result Text) → AeadKey → (plaintext associated : Text) → Result Text

def Aead.Undoes (aead : Aead) : Prop :=
  ∀ nonce key plaintext associated envelope,aead.sealAes256Gcm nonce key plaintext associated = .ok envelope →
    aead.openAes256Gcm key envelope associated = .ok plaintext

structure RekeyCounts where
  rekeyed : Nat
  alreadyCurrent : Nat
  deriving DecidableEq

structure CredentialRekeyReport where
  rekeyed : Nat
  alreadyCurrent : Nat
  dryRun : Bool
  deriving DecidableEq

-- What a call is given, the connection that the pool gives it, and the nonces it draws.
structure Rekey where
  currentKey : AeadKey
  currentVersion : Nat
  replacementKey : AeadKey
  replacementVersion : Nat
  lease : Result Unit
  nonce : IdentityId → Result Text

def associatedData (id : IdentityId) : Text := Text.of "openproof/totp/v1:" ++ id.value

-- `PostgresCredentialRekeyer::rotateTotp`.
namespace Rekey
variable (aead : Aead) (r : Rekey)

def rekeyRow (row : TotpCredential) (counts : RekeyCounts) : Call RekeyCounts :=
  if row.keyVersion = r.replacementVersion then do
    let _ ← check (aead.openAes256Gcm r.replacementKey row.encryptedSeed (associatedData row.identityId))
    .ret { counts with alreadyCurrent := counts.alreadyCurrent + 1 }
  else if row.keyVersion ≠ r.currentVersion then
    .fail (.because .failedPrecondition "A TOTP credential uses an unavailable key version.")
  else do
    let plaintext ← check (aead.openAes256Gcm r.currentKey row.encryptedSeed (associatedData row.identityId))
    let replacement ← check (aead.sealAes256Gcm (r.nonce row.identityId) r.replacementKey plaintext
      (associatedData row.identityId))
    let updated ← sql (.updateSeed row.identityId replacement r.replacementVersion r.currentVersion row.encryptedSeed)
      "replace TOTP credential envelope"
    refuseIf (updated ≠ 1)
      (.because .conflict "A TOTP credential changed during the offline rekey operation.")
    .ret { counts with rekeyed := counts.rekeyed + 1 }

def rekeyRows : List TotpCredential → RekeyCounts → Call RekeyCounts
  | [],counts => .ret counts
  | row :: later,counts => (r.rekeyRow aead row counts).bind (rekeyRows later)

def rekeyAll : Call RekeyCounts := do
  sql .setSerializable "set credential rekey isolation"
  sql .lockRekey "lock credential rekey"
  sql .lockTotp "lock TOTP credentials"
  let duplicates ← sql (.countVersion r.replacementVersion) "read credential rekey journal"
  refuseIf (duplicates ≠ 0) (.because .alreadyExists "That credential key version was already committed.")
  let rows ← sql .inventory "inventory TOTP credentials"
  r.rekeyRows aead rows ⟨0,0⟩

def rekeyAndRecord : Call RekeyCounts := do
  let counts ← r.rekeyAll aead
  sql (.insertRotation r.currentVersion r.replacementVersion counts.rekeyed counts.alreadyCurrent)
    "record credential rekey"
  .ret counts

def inTransaction (dryRun : Bool) : Call RekeyCounts :=
  if dryRun then rehearse (fun state => databaseError state "BEGIN") (r.rekeyAll aead)
  else transact (fun state => databaseError state "BEGIN") (fun state => databaseError state "COMMIT")
    (r.rekeyAndRecord aead)

def rotateTotp (dryRun : Bool) : Call CredentialRekeyReport := do
  refuseIf (r.currentVersion = 0 || r.replacementVersion ≤ r.currentVersion || r.replacementVersion > 2147483647)
    (.because .invalidArgument "Credential key versions must increase monotonically.")
  refuseIf (r.currentKey = r.replacementKey)
    (.because .invalidArgument "The replacement credential key must use different key material.")
  check r.lease
  let counts ← r.inTransaction aead dryRun
  .ret ⟨counts.rekeyed,counts.alreadyCurrent,dryRun⟩

end Rekey

section
variable {aead : Aead} {r : Rekey} {t : Tables}

def Opens (aead : Aead) (r : Rekey) (row : TotpCredential) (plaintext : Text) : Prop :=
  row.keyVersion = r.replacementVersion ∧
      aead.openAes256Gcm r.replacementKey row.encryptedSeed (associatedData row.identityId) = .ok plaintext ∨
    row.keyVersion = r.currentVersion ∧
      aead.openAes256Gcm r.currentKey row.encryptedSeed (associatedData row.identityId) = .ok plaintext

structure Rekeyed (aead : Aead) (r : Rekey) (before after : TotpCredential) : Prop where
  identity : after.identityId = before.identityId
  step : after.lastAcceptedStep = before.lastAcceptedStep
  enrolled : after.enrolledAt = before.enrolledAt
  version : after.keyVersion = r.replacementVersion
  plaintext : ∃ plaintext,Opens aead r before plaintext ∧
    aead.openAes256Gcm r.replacementKey after.encryptedSeed (associatedData after.identityId) = .ok plaintext

structure Counted (r : Rekey) (rows : List TotpCredential) (counts : RekeyCounts) : Prop where
  rekeyed : counts.rekeyed = rows.countP fun row => row.keyVersion = r.currentVersion
  alreadyCurrent : counts.alreadyCurrent = rows.countP fun row => row.keyVersion = r.replacementVersion
  all : counts.rekeyed + counts.alreadyCurrent = rows.length

theorem update_one {row : TotpCredential} (replacement : Text) (replacementVersion : Nat)
    (stands : t.credentials = converted ++ row :: rest) (current : row.keyVersion = currentVersion) :
    t.credentials.countP (named_ row.identityId currentVersion row.encryptedSeed) = 1 ∧
      t.credentials.map (reseal row.identityId replacement replacementVersion currentVersion row.encryptedSeed) =
        converted ++ { row with encryptedSeed := replacement,keyVersion := replacementVersion } :: rest := by
  have unique := t.unique
  rw [stands,map_append,map_cons,nodup_append,nodup_cons] at unique
  obtain ⟨-,⟨after,-⟩,before⟩ := unique
  have elsewhere : ∀ other : TotpCredential,other ∈ converted ∨ other ∈ rest →
      named_ row.identityId currentVersion row.encryptedSeed other = false := by
    intro other among
    have apart : other.identityId ≠ row.identityId := by
      rcases among with early | late
      · exact before _ (mem_map_of_mem early) _ (by simp)
      · intro same
        rw [← same] at after
        exact after (mem_map_of_mem late)
    simp [named_,apart]
  have here : named_ row.identityId currentVersion row.encryptedSeed row = true := by simp [named_,current]
  have still : ∀ rows : List TotpCredential,(∀ other ∈ rows,other ∈ converted ∨ other ∈ rest) →
      rows.countP (named_ row.identityId currentVersion row.encryptedSeed) = 0 ∧
        rows.map (reseal row.identityId replacement replacementVersion currentVersion row.encryptedSeed) = rows := by
    intro rows among
    constructor
    · rw [countP_eq_zero]
      intro other inside
      simp [elsewhere other (among other inside)]
    · apply (map_congr_left _).trans (map_id rows)
      intro other inside
      simp [reseal,elsewhere other (among other inside)]
  obtain ⟨noneBefore,sameBefore⟩ := still converted fun _ => .inl
  obtain ⟨noneAfter,sameAfter⟩ := still rest fun _ => .inr
  rw [stands]
  constructor
  · rw [countP_append,countP_cons_of_pos here,noneBefore,noneAfter]
  · rw [map_append,map_cons,sameBefore,sameAfter]
    simp [reseal,here]

theorem Counted.current {row : TotpCredential} (counted : Counted r done counts) (apart : r.currentVersion ≠ r.replacementVersion)
    (version : row.keyVersion = r.replacementVersion) :
    Counted r (done ++ [row]) { counts with alreadyCurrent := counts.alreadyCurrent + 1 } := by
  have other : row.keyVersion ≠ r.currentVersion := fun same => apart (same.symm.trans version)
  constructor
  · simp [counted.rekeyed,other]
  · simp [counted.alreadyCurrent,version]
  · simp [← counted.all,Nat.add_assoc]

theorem Counted.converted {row : TotpCredential} (counted : Counted r done counts) (version : row.keyVersion = r.currentVersion)
    (old : row.keyVersion ≠ r.replacementVersion) :
    Counted r (done ++ [row]) { counts with rekeyed := counts.rekeyed + 1 } := by
  constructor
  · simp [counted.rekeyed,version]
  · simp [counted.alreadyCurrent,old]
  · simp [← counted.all,Nat.add_right_comm]

theorem rekeyRow_within (undoes : aead.Undoes) (apart : r.currentVersion ≠ r.replacementVersion)
    (stands : t.credentials = converted ++ row :: rest) (counted : Counted r done counts) :
    Within meaning (r.rekeyRow aead row counts) t fun counts' left => left.journal = t.journal ∧
      Counted r (done ++ [row]) counts' ∧ ∃ row',left.credentials = converted ++ row' :: rest ∧ Rekeyed aead r row row' := by
  unfold Rekey.rekeyRow
  split
  · rename_i version
    apply Within.check
    intro plaintext opened
    apply Within.ret
    exact ⟨rfl,counted.current apart version,row,stands,rfl,rfl,rfl,version,plaintext,.inl ⟨version,opened⟩,opened⟩
  · rename_i old
    split
    · exact .fail
    · rename_i known
      have version : row.keyVersion = r.currentVersion := not_not.mp known
      apply Within.check
      intro plaintext opened
      apply Within.check
      intro replacement sealed
      have written : Within meaning (sql (.updateSeed row.identityId replacement r.replacementVersion r.currentVersion
          row.encryptedSeed) "replace TOTP credential envelope") t fun _ left => left.journal = t.journal ∧
          left.credentials = converted ++ { row with encryptedSeed := replacement,keyVersion := r.replacementVersion } ::
            rest := by
        apply Within.statement
        intro chosen updated left went
        obtain ⟨-,replaced⟩ := update_one replacement r.replacementVersion stands version
        unfold meaning at went
        dsimp only at went
        split at went
        · cases went
        · cases went
          exact ⟨rfl,replaced⟩
      apply written.bind
      rintro updated left ⟨same,replaced⟩
      apply Within.refuseIf
      intro once
      apply Within.ret
      exact ⟨same,counted.converted version old,_,replaced,rfl,rfl,rfl,rfl,plaintext,.inr ⟨version,opened⟩,
        undoes _ _ _ _ _ sealed⟩

structure Through (aead : Aead) (r : Rekey) (rows : List TotpCredential) (journal : List RekeyRow) (counts : RekeyCounts)
    (left : Tables) : Prop where
  journal : left.journal = journal
  counted : Counted r rows counts
  rekeyed : List.Forall₂ (Rekeyed aead r) rows left.credentials

theorem rekeyRows_within (undoes : aead.Undoes) (apart : r.currentVersion ≠ r.replacementVersion)
    (stands : t.credentials = converted ++ rest) (rekeyed : List.Forall₂ (Rekeyed aead r) done converted)
    (counted : Counted r done counts) :
    Within meaning (r.rekeyRows aead rest counts) t (Through aead r (done ++ rest) t.journal) := by
  induction rest generalizing t done converted counts with
  | nil =>
    rw [append_nil] at stands ⊢
    exact .ret ⟨rfl,counted,stands ▸ rekeyed⟩
  | cons row rest ih =>
    apply Within.bind (rekeyRow_within undoes apart stands counted)
    rintro counts' left ⟨same,further,row',replaced,turned⟩
    have stands' : left.credentials = (converted ++ [row']) ++ rest := by simpa using replaced
    have onward := ih stands' (rel_append rekeyed (.cons turned .nil)) further
    rw [append_assoc,same] at onward
    exact onward

theorem rekeyAll_within (undoes : aead.Undoes) (apart : r.currentVersion ≠ r.replacementVersion) :
    Within meaning (r.rekeyAll aead) t fun counts left => (∀ row ∈ t.journal,row.toVersion ≠ r.replacementVersion) ∧
      Through aead r t.credentials t.journal counts left := by
  apply Within.bind (.reads fun _ => rfl)
  rintro _ left ⟨-,rfl⟩
  apply Within.bind (.reads fun _ => rfl)
  rintro _ left ⟨-,rfl⟩
  apply Within.bind (.reads fun _ => rfl)
  rintro _ left ⟨-,rfl⟩
  apply Within.bind (.reads fun _ => rfl)
  rintro duplicates left ⟨rfl,rfl⟩
  apply Within.refuseIf
  intro fresh
  apply Within.bind (.reads fun _ => rfl)
  rintro rows left ⟨rfl,rfl⟩
  apply (rekeyRows_within undoes apart rfl .nil ⟨rfl,rfl,rfl⟩).mono
  intro counts later through
  refine ⟨?_,through⟩
  intro row inside same
  simp only [ne_eq,decide_not,Bool.not_eq_false',decide_eq_true_eq,countP_eq_zero] at fresh
  exact fresh row inside same

structure Complete (aead : Aead) (r : Rekey) (before after : Tables) (report : CredentialRekeyReport) : Prop where
  real : report.dryRun = false
  rekeyed : List.Forall₂ (Rekeyed aead r) before.credentials after.credentials
  counted : Counted r before.credentials ⟨report.rekeyed,report.alreadyCurrent⟩
  recorded : ∃ row : RekeyRow,after.journal = before.journal ++ [row] ∧
    (row.fromVersion = r.currentVersion ∧ row.toVersion = r.replacementVersion) ∧
    row.rekeyedRows = report.rekeyed ∧ row.unchangedRows = report.alreadyCurrent

theorem rekeyAndRecord_within (undoes : aead.Undoes) (apart : r.currentVersion ≠ r.replacementVersion) :
    Within meaning (r.rekeyAndRecord aead) t fun counts left =>
      Complete aead r t left ⟨counts.rekeyed,counts.alreadyCurrent,false⟩ := by
  apply Within.bind (rekeyAll_within undoes apart)
  rintro counts left ⟨-,through⟩
  have inserted : Within meaning (sql (.insertRotation r.currentVersion r.replacementVersion counts.rekeyed
      counts.alreadyCurrent) "record credential rekey") left fun _ later =>
      Complete aead r t later ⟨counts.rekeyed,counts.alreadyCurrent,false⟩ := by
    apply Within.statement
    intro chosen answer later went
    unfold meaning at went
    dsimp only at went
    split_ifs at went
    cases went
    exact ⟨rfl,through.rekeyed,through.counted,_,congrArg (· ++ [_]) through.journal,⟨rfl,rfl⟩,rfl,rfl⟩
  exact inserted.bind fun _ _ complete => .ret complete

structure Admitted (r : Rekey) : Prop where
  rising : 0 < r.currentVersion ∧ r.currentVersion < r.replacementVersion
  bounded : r.replacementVersion ≤ 2147483647
  apart : r.currentKey ≠ r.replacementKey
  leased : r.lease = .ok ()

theorem Admitted.versions (admitted : Admitted r) : r.currentVersion ≠ r.replacementVersion :=
  Nat.ne_of_lt admitted.rising.2

theorem rotateTotp_run (aead : Aead) (r : Rekey) :
    (¬Admitted r ∧ ∃ e,∀ dryRun server,(r.rotateTotp aead dryRun).run (Server.exec meaning) server = (.error e,server)) ∨
      Admitted r ∧ ∀ dryRun server,(r.rotateTotp aead dryRun).run (Server.exec meaning) server =
        (((r.inTransaction aead dryRun).run (Server.exec meaning) server).1.map fun counts =>
          ⟨counts.rekeyed,counts.alreadyCurrent,dryRun⟩,((r.inTransaction aead dryRun).run (Server.exec meaning) server).2) := by
  unfold Rekey.rotateTotp Prog.refuseIf
  split
  · rename_i falling
    refine .inl ⟨?_,_,fun _ _ => rfl⟩
    intro admitted
    simp only [Bool.or_eq_true,decide_eq_true_eq] at falling
    have rising := admitted.rising
    have bounded := admitted.bounded
    omega
  · rename_i rising
    split
    · rename_i same
      exact .inl ⟨fun admitted => admitted.apart (by simpa using same),_,fun _ _ => rfl⟩
    · rename_i apart
      cases leased : r.lease with
      | error e =>
        refine .inl ⟨?_,e,fun _ _ => rfl⟩
        intro admitted
        cases leased.symm.trans admitted.leased
      | ok _ =>
        simp only [Bool.or_eq_true,decide_eq_true_eq,not_or] at rising
        refine .inr ⟨⟨by omega,by omega,by simpa using apart,leased⟩,?_⟩
        intro dryRun server
        change ((r.inTransaction aead dryRun).bind _).run _ _ = _
        rw [Prog.run_bind]
        generalize (r.inTransaction aead dryRun).run (Server.exec meaning) server = ran
        obtain ⟨answer,left⟩ := ran
        cases answer <;> rfl

variable {verdicts : List (Verdict (Option Text) Instant)}

theorem rotate_outcome (undoes : aead.Undoes) (r : Rekey) (t : Tables)
    (verdicts : List (Verdict (Option Text) Instant)) (dryRun : Bool) :
    let ran := (r.rotateTotp aead dryRun).run (Server.exec meaning) ⟨t,none,verdicts⟩
    (dryRun = true ∨ ∃ e,ran.1 = .error e) ∧ ran.2.tables = t ∨
      dryRun = false ∧ ∃ report,ran.1 = .ok report ∧ Complete aead r t ran.2.tables report := by
  intro ran
  rcases rotateTotp_run aead r with ⟨-,e,refused⟩ | ⟨admitted,runs⟩
  · have same := refused dryRun ⟨t,none,verdicts⟩
    exact .inl ⟨.inr ⟨e,congrArg Prod.fst same⟩,congrArg (·.2.tables) same⟩
  · have same : ran = _ := runs dryRun ⟨t,none,verdicts⟩
    rw [same]
    cases dryRun with
    | true =>
      have kept : ((r.inTransaction aead true).run (Server.exec meaning) ⟨t,none,verdicts⟩).2.tables = t :=
        (rehearse_settled rfl (rekeyAll_within undoes admitted.versions)).2.1
      exact .inl ⟨.inl rfl,kept⟩
    | false =>
      have settled : Settled t (fun counts left => Complete aead r t left ⟨counts.rekeyed,counts.alreadyCurrent,false⟩)
          ((r.inTransaction aead false).run (Server.exec meaning) ⟨t,none,verdicts⟩) :=
        transact_settled rfl (rekeyAndRecord_within undoes admitted.versions)
      obtain ⟨-,⟨e,failed,kept⟩ | ⟨counts,done,complete⟩⟩ := settled
      · exact .inl ⟨.inr ⟨e,by rw [failed]; rfl⟩,kept⟩
      · exact .inr ⟨rfl,_,by rw [done]; rfl,complete⟩

structure PassesLoop (aead : Aead) (r : Rekey) (t : Tables) (verdicts : List (Verdict (Option Text) Instant))
    (counts : RekeyCounts) : Prop where
  admitted : Admitted r
  begun : (Server.verdict ⟨t,none,verdicts⟩).refusal = none
  passed : ((r.rekeyAll aead).run (Server.exec meaning) (Server.opened ⟨t,none,verdicts⟩)).1 = .ok counts

theorem begin_refused (refused : (Server.verdict (⟨t,none,verdicts⟩ : Server Tables _ _)).refusal = some e)
    (dryRun : Bool) : ((r.inTransaction aead dryRun).run (Server.exec meaning) ⟨t,none,verdicts⟩).1 =
      .error (databaseError e "BEGIN") := by
  cases dryRun with
  | true =>
    change ((rehearse _ _).run _ _).1 = _
    rw [rehearse_refused meaning refused]
  | false =>
    change ((transact _ _ _).run _ _).1 = _
    rw [transact_refused meaning refused]

theorem rehearsal_run (begun : (Server.verdict (⟨t,none,verdicts⟩ : Server Tables _ _)).refusal = none) :
    ((r.inTransaction aead true).run (Server.exec meaning) ⟨t,none,verdicts⟩).1 =
      ((r.rekeyAll aead).run (Server.exec meaning) (Server.opened ⟨t,none,verdicts⟩)).1 := by
  change ((rehearse _ _).run _ _).1 = _
  rw [rehearse_run meaning begun]

theorem loop_failed (begun : (Server.verdict (⟨t,none,verdicts⟩ : Server Tables _ _)).refusal = none)
    (failed : ((r.rekeyAll aead).run (Server.exec meaning) (Server.opened ⟨t,none,verdicts⟩)).1 = .error e) :
    ((r.inTransaction aead false).run (Server.exec meaning) ⟨t,none,verdicts⟩).1 = .error e := by
  change ((transact _ _ _).run _ _).1 = _
  rw [transact_run meaning begun]
  have stopped : (r.rekeyAndRecord aead).run (Server.exec meaning) (Server.opened ⟨t,none,verdicts⟩) = (.error e,_) :=
    Prog.run_bind_error failed
  rw [stopped]
  rfl

theorem loop_passed (undoes : aead.Undoes) (passes : PassesLoop aead r t verdicts counts)
    (willing : ∀ verdict ∈ verdicts,verdict.refusal = none) :
    ((r.inTransaction aead false).run (Server.exec meaning) ⟨t,none,verdicts⟩).1 = .ok counts := by
  change ((transact _ _ _).run _ _).1 = _
  rw [transact_run meaning passes.begun]
  have opened : Willing (Server.opened (⟨t,none,verdicts⟩ : Server Tables (Option Text) Instant)) :=
    fun verdict inside => willing verdict (mem_of_mem_tail inside)
  obtain ⟨-,left,there,holds⟩ := rekeyAll_within undoes passes.admitted.versions
    (Server.opened (⟨t,none,verdicts⟩ : Server Tables (Option Text) Instant)) rfl
  obtain ⟨fresh,through⟩ := holds counts passes.passed
  have onward : Willing ((r.rekeyAll aead).run (Server.exec meaning) (Server.opened ⟨t,none,verdicts⟩)).2 := opened.run
  have recorded : ∀ chosen,meaning (.insertRotation r.currentVersion r.replacementVersion counts.rekeyed
      counts.alreadyCurrent) chosen left = .ok ((),{ left with journal := left.journal ++
        [⟨r.currentVersion,r.replacementVersion,counts.rekeyed,counts.alreadyCurrent,chosen⟩] }) := by
    intro chosen
    have rising : ¬(r.currentVersion = 0 ∨ r.replacementVersion ≤ r.currentVersion) := by
      have := passes.admitted.rising
      omega
    have unused : (left.journal.any fun row => row.toVersion = r.replacementVersion) = false := by
      simpa [through.journal] using fresh
    simp [meaning,rising,unused]
  have inserted : ((sql (.insertRotation r.currentVersion r.replacementVersion counts.rekeyed counts.alreadyCurrent)
      "record credential rekey").run (Server.exec meaning)
        ((r.rekeyAll aead).run (Server.exec meaning) (Server.opened ⟨t,none,verdicts⟩)).2).1 = .ok () :=
    congrArg Prod.fst (onward.statement there (recorded _))
  have last : ((r.rekeyAndRecord aead).run (Server.exec meaning) (Server.opened ⟨t,none,verdicts⟩)).1 = .ok counts := by
    unfold Rekey.rekeyAndRecord
    rw [Prog.bind_eq,Prog.run_bind_ok passes.passed,Prog.bind_eq,Prog.run_bind_ok inserted]
    rfl
  have still : Willing ((r.rekeyAndRecord aead).run (Server.exec meaning) (Server.opened ⟨t,none,verdicts⟩)).2 := opened.run
  rw [last]
  exact still.conclude

theorem rehearsed_iff : ((r.rotateTotp aead true).run (Server.exec meaning) ⟨t,none,verdicts⟩).1 = .ok report ↔
      report.dryRun = true ∧ PassesLoop aead r t verdicts ⟨report.rekeyed,report.alreadyCurrent⟩ := by
  rcases rotateTotp_run aead r with ⟨turnedDown,e,refused⟩ | ⟨admitted,runs⟩
  · rw [refused]
    constructor
    · intro impossible
      cases impossible
    · rintro ⟨-,passes⟩
      exact absurd passes.admitted turnedDown
  · rw [runs]
    cases begun : (Server.verdict (⟨t,none,verdicts⟩ : Server Tables (Option Text) Instant)).refusal with
    | some e =>
      rw [begin_refused begun]
      constructor
      · intro impossible
        cases impossible
      · rintro ⟨-,passes⟩
        cases begun.symm.trans passes.begun
    | none =>
      rw [rehearsal_run begun]
      constructor
      · intro done
        cases passed : ((r.rekeyAll aead).run (Server.exec meaning) (Server.opened ⟨t,none,verdicts⟩)).1 with
        | error e =>
          rw [passed] at done
          cases done
        | ok counts =>
          rw [passed] at done
          cases done
          exact ⟨rfl,admitted,begun,passed⟩
      · rintro ⟨dry,passes⟩
        rw [passes.passed]
        obtain ⟨rekeyed,alreadyCurrent,dryRun⟩ := report
        cases dry
        rfl

theorem rehearsed_fails
    (failed : ((r.rotateTotp aead true).run (Server.exec meaning) ⟨t,none,verdicts⟩).1 = .error e) :
    ((r.rotateTotp aead false).run (Server.exec meaning) ⟨t,none,verdicts⟩).1 = .error e := by
  rcases rotateTotp_run aead r with ⟨-,other,refused⟩ | ⟨admitted,runs⟩
  · rw [refused] at failed ⊢
    exact failed
  · rw [runs] at failed ⊢
    cases begun : (Server.verdict (⟨t,none,verdicts⟩ : Server Tables (Option Text) Instant)).refusal with
    | some state =>
      dsimp only at failed ⊢
      rw [begin_refused begun] at failed ⊢
      exact failed
    | none =>
      dsimp only at failed ⊢
      rw [rehearsal_run begun] at failed
      cases passed : ((r.rekeyAll aead).run (Server.exec meaning) (Server.opened ⟨t,none,verdicts⟩)).1 with
      | error other =>
        rw [passed] at failed
        rw [loop_failed begun passed]
        exact failed
      | ok counts =>
        rw [passed] at failed
        cases failed

theorem committed_passes (begun : (Server.verdict (⟨t,none,verdicts⟩ : Server Tables _ _)).refusal = none)
    (done : ((r.inTransaction aead false).run (Server.exec meaning) ⟨t,none,verdicts⟩).1 = .ok counts) :
    ((r.rekeyAll aead).run (Server.exec meaning) (Server.opened ⟨t,none,verdicts⟩)).1 = .ok counts := by
  change ((transact _ _ _).run _ _).1 = _ at done
  rw [transact_run meaning begun] at done
  have recorded : ((r.rekeyAndRecord aead).run (Server.exec meaning) (Server.opened ⟨t,none,verdicts⟩)).1 = .ok counts :=
    conclude_ok meaning done
  unfold Rekey.rekeyAndRecord at recorded
  cases passed : ((r.rekeyAll aead).run (Server.exec meaning) (Server.opened ⟨t,none,verdicts⟩)).1 with
  | error e =>
    rw [Prog.bind_eq,Prog.run_bind_error passed] at recorded
    cases recorded
  | ok found =>
    rw [Prog.bind_eq,Prog.run_bind_ok passed,Prog.bind_eq,Prog.run_bind] at recorded
    split at recorded
    · cases recorded
      rfl
    · cases recorded

theorem real_passes (done : ((r.rotateTotp aead false).run (Server.exec meaning) ⟨t,none,verdicts⟩).1 = .ok report) :
    PassesLoop aead r t verdicts ⟨report.rekeyed,report.alreadyCurrent⟩ := by
  rcases rotateTotp_run aead r with ⟨-,e,refused⟩ | ⟨admitted,runs⟩
  · rw [refused] at done
    cases done
  · rw [runs] at done
    cases begun : (Server.verdict (⟨t,none,verdicts⟩ : Server Tables (Option Text) Instant)).refusal with
    | some state =>
      rw [begin_refused begun] at done
      cases done
    | none =>
      cases committed : ((r.inTransaction aead false).run (Server.exec meaning) ⟨t,none,verdicts⟩).1 with
      | error e =>
        rw [committed] at done
        cases done
      | ok counts =>
        rw [committed] at done
        cases done
        exact ⟨admitted,begun,committed_passes begun committed⟩

theorem passes_real (undoes : aead.Undoes) (passes : PassesLoop aead r t verdicts counts)
    (willing : ∀ verdict ∈ verdicts,verdict.refusal = none) :
    ((r.rotateTotp aead false).run (Server.exec meaning) ⟨t,none,verdicts⟩).1 =
      .ok ⟨counts.rekeyed,counts.alreadyCurrent,false⟩ := by
  rcases rotateTotp_run aead r with ⟨turnedDown,-⟩ | ⟨-,runs⟩
  · exact absurd passes.admitted turnedDown
  · rw [runs]
    rw [loop_passed undoes passes willing]
    rfl

theorem rotateTotp_complete (undoes : aead.Undoes) (r : Rekey) (t : Tables)
    (verdicts : List (Verdict (Option Text) Instant)) :
    let real := (r.rotateTotp aead false).run (Server.exec meaning) ⟨t,none,verdicts⟩
    let dry := (r.rotateTotp aead true).run (Server.exec meaning) ⟨t,none,verdicts⟩
    (∀ report,real.1 = .ok report → Complete aead r t real.2.tables report) ∧
      (∀ e,real.1 = .error e → real.2.tables = t) ∧ dry.2.tables = t ∧
      (∀ report,dry.1 = .ok report ↔
        report.dryRun = true ∧ PassesLoop aead r t verdicts ⟨report.rekeyed,report.alreadyCurrent⟩) ∧
      (∀ e,dry.1 = .error e → real.1 = .error e) ∧
      (∀ report,real.1 = .ok report → dry.1 = .ok { report with dryRun := true }) ∧
      ((∀ verdict ∈ verdicts,verdict.refusal = none) → ∀ report,dry.1 = .ok report →
        real.1 = .ok { report with dryRun := false }) := by
  intro real dry
  have ends := rotate_outcome undoes r t verdicts false
  have rehearsed := rotate_outcome undoes r t verdicts true
  refine ⟨?_,?_,?_,fun report => rehearsed_iff,fun e => rehearsed_fails,?_,?_⟩
  · intro report done
    rcases ends with ⟨impossible | ⟨e,failed⟩,-⟩ | ⟨-,other,same,complete⟩
    · cases impossible
    · cases failed.symm.trans done
    · cases same.symm.trans done
      exact complete
  · intro e failed
    rcases ends with ⟨-,kept⟩ | ⟨-,other,done,-⟩
    · exact kept
    · cases failed.symm.trans done
  · rcases rehearsed with ⟨-,kept⟩ | ⟨impossible,-⟩
    · exact kept
    · cases impossible
  · intro report done
    have passes := real_passes done
    exact rehearsed_iff.mpr ⟨rfl,passes⟩
  · intro willing report done
    exact passes_real undoes (rehearsed_iff.mp done).2 willing

end

def demoAead : Aead where
  openAes256Gcm key envelope associated :=
    if (key.bytes ++ associated).isPrefixOf envelope then .ok (envelope.drop (key.bytes ++ associated).length)
    else .error (.because .authenticationFailed "Encrypted credential authentication failed.")
  sealAes256Gcm nonce key plaintext associated := nonce.map fun _ => key.bytes ++ associated ++ plaintext

theorem demoAead_undoes : demoAead.Undoes := by
  intro nonce key plaintext associated envelope sealed
  cases nonce with
  | error e => cases sealed
  | ok drawn =>
    cases sealed
    simp [demoAead]

def demoRekey : Rekey := ⟨⟨[1]⟩,1,⟨[2]⟩,2,.ok (),fun _ => .ok []⟩

def demoRow (key : Text) (id : IdentityId) (keyVersion : Nat) (plaintext : Text) : TotpCredential :=
  ⟨id,key ++ associatedData id ++ plaintext,keyVersion,none,0⟩

def demoRows : List TotpCredential := [demoRow [1] ⟨[7]⟩ 1 [70],demoRow [2] ⟨[8]⟩ 2 [80]]

theorem demoRows_unique : (demoRows.map TotpCredential.identityId).Nodup := by decide

def demoTables : Tables := ⟨demoRows,[],demoRows_unique⟩

theorem rotateTotp_complete_pair :
    ((demoRekey.rotateTotp demoAead false).run (Server.exec meaning) ⟨demoTables,none,[]⟩).1 = .ok ⟨1,1,false⟩ ∧
      Complete demoAead demoRekey demoTables
        ((demoRekey.rotateTotp demoAead false).run (Server.exec meaning) ⟨demoTables,none,[]⟩).2.tables ⟨1,1,false⟩ := by
  have done : ((demoRekey.rotateTotp demoAead false).run (Server.exec meaning) ⟨demoTables,none,[]⟩).1 =
      .ok ⟨1,1,false⟩ := by decide
  exact ⟨done,(rotateTotp_complete demoAead_undoes demoRekey demoTables []).1 _ done⟩

end OpenProof.CredentialRekeys
