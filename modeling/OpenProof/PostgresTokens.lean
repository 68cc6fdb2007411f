import OpenProof.Tokens

namespace OpenProof.PostgresTokens
open Foundation
open Tokens

-- The token tables. Scopes and audiences of a family live in tables of their own and
-- never change, so they are part of the family row here.
structure FamilyRow where
  context : TokenContext
  revokedAt : Option Instant
  deriving DecidableEq

structure AccessRow where
  family : TokenFamilyId
  state : AccessTokenState
  issuedAt : Instant
  expiresAt : Instant
  revokedAt : Option Instant
  deriving DecidableEq

structure RefreshRow where
  family : TokenFamilyId
  sequence : Nat
  state : RefreshTokenState
  issuedAt : Instant
  expiresAt : Instant
  changedAt : Option Instant
  deriving DecidableEq

structure Tables where
  families : Map TokenFamilyId FamilyRow
  access : Map TokenDigest AccessRow
  refresh : Map TokenDigest RefreshRow

namespace Tables

def empty : Tables := ⟨∅,∅,∅⟩

def onto (writes base : Tables) : Tables :=
  ⟨base.families ∪ writes.families,base.access ∪ writes.access,base.refresh ∪ writes.refresh⟩

theorem onto_access (writes base : Tables) (key : TokenDigest) :
    (writes.onto base).access[key]? = writes.access[key]?.or base.access[key]? :=
  Std.ExtTreeMap.getElem?_union

theorem onto_refresh (writes base : Tables) (key : TokenDigest) :
    (writes.onto base).refresh[key]? = writes.refresh[key]?.or base.refresh[key]? :=
  Std.ExtTreeMap.getElem?_union

end Tables

inductive RowKey where
  | family (id : TokenFamilyId)
  | access (digest : TokenDigest)
  | refresh (digest : TokenDigest)
  deriving DecidableEq

-- The statement a transaction executes next, with the variables the code holds then.
-- An UPDATE over a set of rows is a scan, which fixes the candidates, and then one
-- locked and re-checked write per candidate.
inductive Phase where
  | lockPresented (presented : TokenDigest) (now : Instant) (access : AccessTokenRecord)
      (refresh : RefreshTokenRecord)
  | consume (presented : TokenDigest) (now : Instant) (family : TokenFamilyId) (access : AccessTokenRecord)
      (refresh : RefreshTokenRecord)
  | insertAccess (presented : TokenDigest) (family : TokenFamilyId) (access : AccessTokenRecord)
      (refresh : RefreshTokenRecord)
  | insertRefresh (presented : TokenDigest) (family : TokenFamilyId) (refresh : RefreshTokenRecord)
  | commitRotation (presented : TokenDigest) (family : TokenFamilyId)
  | lockAccess (digest : TokenDigest) (now : Instant)
  | revokeAccess (digest : TokenDigest) (now : Instant)
  | lockRefresh (digest : TokenDigest) (now : Instant)
  | markFamily (family : TokenFamilyId) (now : Instant)
  | scanAccess (family : TokenFamilyId) (now : Instant)
  | updateAccess (family : TokenFamilyId) (now : Instant) (candidates : List TokenDigest)
  | scanRefresh (family : TokenFamilyId) (now : Instant)
  | updateRefresh (family : TokenFamilyId) (now : Instant) (candidates : List TokenDigest)
  | commitRevocation (family : TokenFamilyId)
  | commit
  deriving DecidableEq

namespace Phase

def rotateRefresh (presented : TokenDigest) (now : Instant) (access : AccessTokenRecord)
    (refresh : RefreshTokenRecord) : Phase := .lockPresented presented now access refresh
def revokeFamily (family : TokenFamilyId) (now : Instant) : Phase := .markFamily family now
def revokeToken (digest : TokenDigest) (now : Instant) : Phase := .lockAccess digest now

def rotating : Phase → Option (TokenDigest × TokenFamilyId)
  | .consume presented _ family _ _ => some (presented,family)
  | .insertAccess presented family _ _ => some (presented,family)
  | .insertRefresh presented family _ => some (presented,family)
  | .commitRotation presented family => some (presented,family)
  | _ => none

def sweeping : Phase → Option TokenFamilyId
  | .updateAccess family _ _ => some family
  | .scanRefresh family _ => some family
  | .updateRefresh family _ _ => some family
  | .commitRevocation family => some family
  | _ => none

end Phase

structure Session where
  phase : Phase
  locks : List RowKey
  writes : Tables

namespace Session

def start (phase : Phase) : Session := ⟨phase,[],.empty⟩

def goto (session : Session) (phase : Phase) : Session := { session with phase := phase }

def lock (session : Session) (key : RowKey) (phase : Phase) : Session :=
  ⟨phase,key :: session.locks,session.writes⟩

def putFamily (session : Session) (id : TokenFamilyId) (row : FamilyRow) (phase : Phase) : Session :=
  ⟨phase,.family id :: session.locks,
    ⟨session.writes.families.insert id row,session.writes.access,session.writes.refresh⟩⟩

def putAccess (session : Session) (digest : TokenDigest) (row : AccessRow) (phase : Phase) : Session :=
  ⟨phase,.access digest :: session.locks,
    ⟨session.writes.families,session.writes.access.insert digest row,session.writes.refresh⟩⟩

def putRefresh (session : Session) (digest : TokenDigest) (row : RefreshRow) (phase : Phase) : Session :=
  ⟨phase,.refresh digest :: session.locks,
    ⟨session.writes.families,session.writes.access,session.writes.refresh.insert digest row⟩⟩

end Session

structure Db where
  committed : Tables
  sessions : Map Nat Session

inductive Outcome where
  | proceed (session : Session)
  | commit
  | rollback

namespace Db

def free (db : Db) (self : Nat) (key : RowKey) : Bool :=
  db.sessions.toList.all fun entry => entry.1 == self || !entry.2.locks.contains key

-- `WHERE family_id=$1 AND state=0` and `WHERE family_id=$1 AND state<>2`.
def accessCandidates (tables : Tables) (family : TokenFamilyId) : List TokenDigest :=
  (tables.access.toList.filter fun entry => entry.2.family = family ∧ entry.2.state = .active).map Prod.fst

def refreshCandidates (tables : Tables) (family : TokenFamilyId) : List TokenDigest :=
  (tables.refresh.toList.filter fun entry => entry.2.family = family ∧ entry.2.state ≠ .revoked).map Prod.fst

-- One statement, or one row of an UPDATE; `none` when it has to wait. `choice` is the
-- candidate the executor visits next.
def advance (db : Db) (self : Nat) (session : Session) (choice : TokenDigest) : Option Outcome :=
  let visible := session.writes.onto db.committed
  match session.phase with
  | .lockPresented presented now access refresh =>
    match visible.refresh[presented]? with
    | none => some .rollback
    | some found =>
      if !db.free self (.refresh presented) then none
      else if found.state ≠ .active ∨ found.expiresAt ≤ now then
        some (.proceed (session.lock (.refresh presented) (.markFamily found.family now)))
      else if access.family ≠ found.family ∨ refresh.family ≠ found.family
          ∨ refresh.sequence ≠ found.sequence+1 then some .rollback
      else some (.proceed (session.lock (.refresh presented)
        (.consume presented now found.family access refresh)))
  | .consume presented now family access refresh =>
    if !db.free self (.refresh presented) then none
    else match visible.refresh[presented]? with
      | none => some (.proceed (session.goto (.insertAccess presented family access refresh)))
      | some row =>
        if row.state = .active then
          some (.proceed (session.putRefresh presented { row with state := .used, changedAt := some now }
            (.insertAccess presented family access refresh)))
        else some (.proceed (session.goto (.insertAccess presented family access refresh)))
  | .insertAccess presented family access refresh =>
    if !db.free self (.access access.digest) then none
    else if (visible.access[access.digest]?).isSome then some .rollback
    else some (.proceed (session.putAccess access.digest
      ⟨family,.active,access.issuedAt,access.expiresAt,none⟩ (.insertRefresh presented family refresh)))
  | .insertRefresh presented family refresh =>
    if !db.free self (.refresh refresh.digest) then none
    else if (visible.refresh[refresh.digest]?).isSome then some .rollback
    else some (.proceed (session.putRefresh refresh.digest
      ⟨family,refresh.sequence,.active,refresh.issuedAt,refresh.expiresAt,none⟩
      (.commitRotation presented family)))
  | .lockAccess digest now =>
    match visible.access[digest]? with
    | none => some (.proceed (session.goto (.lockRefresh digest now)))
    | some _ =>
      if !db.free self (.access digest) then none
      else some (.proceed (session.lock (.access digest) (.revokeAccess digest now)))
  | .revokeAccess digest now =>
    if !db.free self (.access digest) then none
    else match visible.access[digest]? with
      | none => some (.proceed (session.goto .commit))
      | some row => some (.proceed (session.putAccess digest
          { row with state := .revoked, revokedAt := row.revokedAt.or (some now) } .commit))
  | .lockRefresh digest now =>
    match visible.refresh[digest]? with
    | none => some (.proceed (session.goto .commit))
    | some row =>
      if !db.free self (.refresh digest) then none
      else some (.proceed (session.lock (.refresh digest) (.markFamily row.family now)))
  | .markFamily family now =>
    match visible.families[family]? with
    | none => some (.proceed (session.goto (.scanAccess family now)))
    | some row =>
      if !db.free self (.family family) then none
      else some (.proceed (session.putFamily family
        { row with revokedAt := row.revokedAt.or (some now) } (.scanAccess family now)))
  | .scanAccess family now =>
    some (.proceed (session.goto (.updateAccess family now (accessCandidates visible family))))
  | .updateAccess family now candidates =>
    if candidates = [] then some (.proceed (session.goto (.scanRefresh family now)))
    else if choice ∉ candidates ∨ !db.free self (.access choice) then none
    else match visible.access[choice]? with
      | none => some (.proceed (session.goto (.updateAccess family now (candidates.erase choice))))
      | some row =>
        if row.family = family ∧ row.state = .active then
          some (.proceed (session.putAccess choice
            { row with state := .revoked, revokedAt := row.revokedAt.or (some now) }
            (.updateAccess family now (candidates.erase choice))))
        else some (.proceed (session.goto (.updateAccess family now (candidates.erase choice))))
  | .scanRefresh family now =>
    some (.proceed (session.goto (.updateRefresh family now (refreshCandidates visible family))))
  | .updateRefresh family now candidates =>
    if candidates = [] then some (.proceed (session.goto (.commitRevocation family)))
    else if choice ∉ candidates ∨ !db.free self (.refresh choice) then none
    else match visible.refresh[choice]? with
      | none => some (.proceed (session.goto (.updateRefresh family now (candidates.erase choice))))
      | some row =>
        if row.family = family ∧ row.state ≠ .revoked then
          some (.proceed (session.putRefresh choice
            { row with state := .revoked, changedAt := row.changedAt.or (some now) }
            (.updateRefresh family now (candidates.erase choice))))
        else some (.proceed (session.goto (.updateRefresh family now (candidates.erase choice))))
  | .commitRotation _ _ => some .commit
  | .commitRevocation _ => some .commit
  | .commit => some .commit

def resume (db : Db) (self : Nat) (session : Session) : Outcome → Db
  | .proceed next => { db with sessions := db.sessions.insert self next }
  | .commit => ⟨session.writes.onto db.committed,db.sessions.erase self⟩
  | .rollback => { db with sessions := db.sessions.erase self }

-- `findAccess` and `findRefresh` read the token row and the context of its family;
-- `revoked_at_ms` of the family row is not among the columns they look at.
def findAccess (db : Db) (digest : TokenDigest) : Result AccessTokenRecord :=
  match db.committed.access[digest]? with
  | none => .error (invalidCredential "Unknown access token.")
  | some row =>
    match db.committed.families[row.family]? with
    | none => .error (invalidCredential "OAuth token family is unavailable.")
    | some family => .ok ⟨digest,row.family,family.context,row.issuedAt,row.expiresAt,row.state,row.revokedAt⟩

def findRefresh (db : Db) (digest : TokenDigest) : Result RefreshTokenRecord :=
  match db.committed.refresh[digest]? with
  | none => .error (invalidCredential "Unknown refresh token.")
  | some row =>
    match db.committed.families[row.family]? with
    | none => .error (invalidCredential "OAuth token family is unavailable.")
    | some family => .ok ⟨digest,row.family,row.sequence,family.context,row.issuedAt,row.expiresAt,row.state,
        row.changedAt⟩

def start (tables : Tables) : Db := ⟨tables,∅⟩

end Db

inductive Entry : Phase → Prop where
  | rotateRefresh (presented : TokenDigest) (now : Instant) (access : AccessTokenRecord)
      (refresh : RefreshTokenRecord) : Entry (.rotateRefresh presented now access refresh)
  | revokeFamily (family : TokenFamilyId) (now : Instant) : Entry (.revokeFamily family now)
  | revokeToken (digest : TokenDigest) (now : Instant) : Entry (.revokeToken digest now)

-- One move of the system: a transaction begins, executes a statement, or is rolled
-- back by an error. A commit is labelled with the phase it was made in.
inductive Step (db : Db) : Option Phase → Db → Prop where
  | begin (id : Nat) (phase : Phase) (entry : Entry phase) (unused : db.sessions[id]? = none) :
      Step db none { db with sessions := db.sessions.insert id (.start phase) }
  | statement (id : Nat) (session next : Session) (choice : TokenDigest)
      (running : db.sessions[id]? = some session)
      (advanced : db.advance id session choice = some (.proceed next)) :
      Step db none (db.resume id session (.proceed next))
  | commit (id : Nat) (session : Session) (choice : TokenDigest) (running : db.sessions[id]? = some session)
      (advanced : db.advance id session choice = some .commit) :
      Step db (some session.phase) (db.resume id session .commit)
  | abort (id : Nat) : Step db none { db with sessions := db.sessions.erase id }

-- `guard` may restrict which commits a run makes.
inductive Runs (guard : Db → Phase → Prop) (origin : Db) : Db → Prop where
  | nil : Runs guard origin origin
  | step (prior : Runs guard origin db) (moved : Step db label next)
      (allowed : ∀ phase,label = some phase → guard db phase) : Runs guard origin next

def Unrestricted (_ : Db) (_ : Phase) : Prop := True

-- No rotation commits while a revocation of its family is between the snapshot of its
-- access-token UPDATE and its own end.
def Orderly (db : Db) (phase : Phase) : Prop :=
  ∀ presented family,phase = .commitRotation presented family →
    ∀ (id : Nat) (session : Session),db.sessions[id]? = some session →
      session.phase.sweeping ≠ some family

variable {db next : Db} {committed : Tables} {session other : Session} {family : TokenFamilyId}

theorem Db.free_eq_true (open_ : db.free self key = true) {id : Nat} (running : db.sessions[id]? = some other)
    (apart : id ≠ self) : key ∉ other.locks := by
  simp only [Db.free,List.all_eq_true,Bool.or_eq_true,beq_iff_eq,Bool.not_eq_true'] at open_
  rcases open_ (id,other) (Std.ExtTreeMap.mem_toList_iff_getElem?_eq_some.mpr running) with same | free
  · exact absurd same apart
  · simpa using free

def SweptAccess (committed writes : Tables) (family : TokenFamilyId) (candidates : List TokenDigest) : Prop :=
  ∀ (key : TokenDigest) (row : AccessRow),committed.access[key]? = some row → row.family = family →
    row.state = .active → key ∈ candidates ∨
      ∃ written,writes.access[key]? = some written ∧ written.state = .revoked

def SweptRefresh (committed writes : Tables) (family : TokenFamilyId) (candidates : List TokenDigest) : Prop :=
  ∀ (key : TokenDigest) (row : RefreshRow),committed.refresh[key]? = some row → row.family = family →
    row.state ≠ .revoked → key ∈ candidates ∨
      ∃ written,writes.refresh[key]? = some written ∧ written.state = .revoked

def Swept (committed writes : Tables) : Phase → Prop
  | .updateAccess family _ candidates => SweptAccess committed writes family candidates
  | .scanRefresh family _ => SweptAccess committed writes family []
  | .updateRefresh family _ candidates =>
    SweptAccess committed writes family [] ∧ SweptRefresh committed writes family candidates
  | .commitRevocation family =>
    SweptAccess committed writes family [] ∧ SweptRefresh committed writes family []
  | _ => True

def Rotates (session : Session) (family : TokenFamilyId) : Prop :=
  ∃ presented,session.phase.rotating = some (presented,family)

def Carries (before after : Phase) : Prop :=
  ∀ family,(∃ presented,before.rotating = some (presented,family)) →
    ∃ presented,after.rotating = some (presented,family)

def Holds (committed : Tables) (locks : List RowKey) (phase : Phase) : Prop :=
  ∀ presented family,phase.rotating = some (presented,family) → .refresh presented ∈ locks ∧
    ∃ row,committed.refresh[presented]? = some row ∧ row.family = family ∧ row.state = .active

-- What holds of an open transaction at every moment: written rows are locked; they revoke
-- a committed row or belong to a rotation; a rotation holds a committed active token of
-- its family; and a revocation has overlooked nothing that is committed.
structure Lawful (committed : Tables) (session : Session) : Prop where
  access : ∀ (key : TokenDigest) (row : AccessRow),session.writes.access[key]? = some row →
    .access key ∈ session.locks ∧
      ((∃ base,committed.access[key]? = some base ∧ base.family = row.family ∧ row.state = .revoked) ∨
        committed.access[key]? = none ∧ Rotates session row.family)
  refresh : ∀ (key : TokenDigest) (row : RefreshRow),session.writes.refresh[key]? = some row →
    .refresh key ∈ session.locks ∧
      ((∃ base,committed.refresh[key]? = some base ∧ base.family = row.family ∧
          (row.state = .revoked ∨ base.state ≠ .revoked ∧ Rotates session row.family)) ∨
        committed.refresh[key]? = none ∧ Rotates session row.family)
  holds : Holds committed session.locks session.phase
  swept : Swept committed session.writes session.phase

theorem lawful_start (phase : Phase) (entry : Entry phase) : Lawful committed (.start phase) := by
  refine ⟨?_,?_,?_,?_⟩
  · intro key row written
    simp [Session.start,Tables.empty] at written
  · intro key row written
    simp [Session.start,Tables.empty] at written
  · intro presented family rotating
    cases entry <;> cases rotating
  · cases entry <;> trivial

theorem not_rotates (quiet : session.phase.rotating = none) : ¬Rotates session family := by
  rintro ⟨presented,rotating⟩
  rw [quiet] at rotating
  cases rotating

theorem seen_access {writes : Tables} {key : TokenDigest} (seen : (writes.onto committed).access[key]? = some row) :
    writes.access[key]? = some row ∨ writes.access[key]? = none ∧ committed.access[key]? = some row := by
  rw [Tables.onto_access] at seen
  exact Option.or_eq_some_iff.mp seen

theorem seen_refresh {writes : Tables} {key : TokenDigest} (seen : (writes.onto committed).refresh[key]? = some row) :
    writes.refresh[key]? = some row ∨ writes.refresh[key]? = none ∧ committed.refresh[key]? = some row := by
  rw [Tables.onto_refresh] at seen
  exact Option.or_eq_some_iff.mp seen

theorem Lawful.base_access (lawful : Lawful committed session) (quiet : session.phase.rotating = none)
    {key : TokenDigest} (seen : (session.writes.onto committed).access[key]? = some row) :
    ∃ base,committed.access[key]? = some base ∧ base.family = row.family := by
  rcases seen_access seen with mine | ⟨-,old⟩
  · rcases (lawful.access key row mine).2 with ⟨base,stored,same,-⟩ | ⟨-,rotates⟩
    · exact ⟨base,stored,same⟩
    · exact absurd rotates (not_rotates quiet)
  · exact ⟨row,old,rfl⟩

theorem Lawful.base_refresh (lawful : Lawful committed session) (quiet : session.phase.rotating = none)
    {key : TokenDigest} (seen : (session.writes.onto committed).refresh[key]? = some row) :
    ∃ base,committed.refresh[key]? = some base ∧ base.family = row.family := by
  rcases seen_refresh seen with mine | ⟨-,old⟩
  · rcases (lawful.refresh key row mine).2 with ⟨base,stored,same,-⟩ | ⟨-,rotates⟩
    · exact ⟨base,stored,same⟩
    · exact absurd rotates (not_rotates quiet)
  · exact ⟨row,old,rfl⟩

theorem carries_of_quiet (quiet : before.rotating = none) : Carries before after := by
  rintro family ⟨presented,rotating⟩
  rw [quiet] at rotating
  cases rotating

theorem holds_of_quiet (quiet : phase.rotating = none) : Holds committed locks phase := by
  intro presented family rotating
  rw [quiet] at rotating
  cases rotating

def AccessDue (committed : Tables) (phase : Phase) (key : TokenDigest) (row : AccessRow) : Prop :=
  (∃ base,committed.access[key]? = some base ∧ base.family = row.family ∧ row.state = .revoked) ∨
    committed.access[key]? = none ∧ ∃ presented,phase.rotating = some (presented,row.family)

def RefreshDue (committed : Tables) (phase : Phase) (key : TokenDigest) (row : RefreshRow) : Prop :=
  (∃ base,committed.refresh[key]? = some base ∧ base.family = row.family ∧
      (row.state = .revoked ∨ base.state ≠ .revoked ∧ ∃ presented,phase.rotating = some (presented,row.family))) ∨
    committed.refresh[key]? = none ∧ ∃ presented,phase.rotating = some (presented,row.family)

section
variable (lawful : Lawful committed session)
include lawful

theorem Lawful.access_carried (carries : Carries session.phase phase)
    (written : session.writes.access[key]? = some row) : AccessDue committed phase key row := by
  rcases (lawful.access key row written).2 with revoked | ⟨new,rotates⟩
  · exact .inl revoked
  · exact .inr ⟨new,carries _ rotates⟩

theorem Lawful.refresh_carried (carries : Carries session.phase phase)
    (written : session.writes.refresh[key]? = some row) : RefreshDue committed phase key row := by
  rcases (lawful.refresh key row written).2 with ⟨base,stored,same,revoked | ⟨alive,rotates⟩⟩ | ⟨new,rotates⟩
  · exact .inl ⟨base,stored,same,.inl revoked⟩
  · exact .inl ⟨base,stored,same,.inr ⟨alive,carries _ rotates⟩⟩
  · exact .inr ⟨new,carries _ rotates⟩

theorem Lawful.move (access : after.writes.access = session.writes.access)
    (refresh : after.writes.refresh = session.writes.refresh) (locks : ∀ key ∈ session.locks,key ∈ after.locks)
    (carries : Carries session.phase after.phase) (holds : Holds committed after.locks after.phase)
    (swept : Swept committed after.writes after.phase) : Lawful committed after where
  access key row written := by
    rw [access] at written
    exact ⟨locks _ (lawful.access key row written).1,lawful.access_carried carries written⟩
  refresh key row written := by
    rw [refresh] at written
    exact ⟨locks _ (lawful.refresh key row written).1,lawful.refresh_carried carries written⟩
  holds := holds
  swept := swept

theorem Lawful.putAccess (carries : Carries session.phase phase) (due : AccessDue committed phase key row)
    (holds : Holds committed (.access key :: session.locks) phase)
    (swept : Swept committed (session.putAccess key row phase).writes phase) :
    Lawful committed (session.putAccess key row phase) where
  access at_ found written := by
    rcases Map.insert_cases written with ⟨rfl,rfl⟩ | old
    · exact ⟨List.mem_cons_self,due⟩
    · exact ⟨List.mem_cons_of_mem _ (lawful.access at_ found old).1,lawful.access_carried carries old⟩
  refresh at_ found written :=
    ⟨List.mem_cons_of_mem _ (lawful.refresh at_ found written).1,lawful.refresh_carried carries written⟩
  holds := holds
  swept := swept

theorem Lawful.putRefresh (carries : Carries session.phase phase) (due : RefreshDue committed phase key row)
    (holds : Holds committed (.refresh key :: session.locks) phase)
    (swept : Swept committed (session.putRefresh key row phase).writes phase) :
    Lawful committed (session.putRefresh key row phase) where
  access at_ found written :=
    ⟨List.mem_cons_of_mem _ (lawful.access at_ found written).1,lawful.access_carried carries written⟩
  refresh at_ found written := by
    rcases Map.insert_cases written with ⟨rfl,rfl⟩ | old
    · exact ⟨List.mem_cons_self,due⟩
    · exact ⟨List.mem_cons_of_mem _ (lawful.refresh at_ found old).1,lawful.refresh_carried carries old⟩
  holds := holds
  swept := swept

theorem Lawful.written_access (quiet : session.phase.rotating = none) (key : TokenDigest) (row : AccessRow)
    (written : session.writes.access[key]? = some row) : row.state = .revoked := by
  rcases (lawful.access key row written).2 with ⟨_,_,_,revoked⟩ | ⟨-,rotates⟩
  · exact revoked
  · exact absurd rotates (not_rotates quiet)

theorem Lawful.written_refresh (quiet : session.phase.rotating = none) (key : TokenDigest) (row : RefreshRow)
    (written : session.writes.refresh[key]? = some row) : row.state = .revoked := by
  rcases (lawful.refresh key row written).2 with ⟨_,_,_,revoked | ⟨-,rotates⟩⟩ | ⟨-,rotates⟩
  · exact revoked
  · exact absurd rotates (not_rotates quiet)
  · exact absurd rotates (not_rotates quiet)

end

section
variable {β : Type} {committed writes : Map TokenDigest β} {member live dead : β → Prop} {choice : TokenDigest}

def Visiting (committed writes : Map TokenDigest β) (member live dead : β → Prop) (candidates : List TokenDigest) : Prop :=
  ∀ (key : TokenDigest) (row : β),committed[key]? = some row → member row → live row → key ∈ candidates ∨
    ∃ written,writes[key]? = some written ∧ dead written

theorem Visiting.scan (revoked : ∀ (key : TokenDigest) row,writes[key]? = some row → dead row)
    (listed : ∀ (key : TokenDigest) row,writes[key]?.or committed[key]? = some row → member row → live row → key ∈ candidates) :
    Visiting committed writes member live dead candidates := by
  intro key row stored mine alive
  cases written : writes[key]? with
  | some new => exact .inr ⟨new,rfl,revoked key new written⟩
  | none => exact .inl (listed key row (by rw [written]; exact stored) mine alive)

theorem Visiting.put (swept : Visiting committed writes member live dead candidates) (revoked : dead row) :
    Visiting committed (writes.insert choice row) member live dead (candidates.erase choice) := by
  intro key found stored mine alive
  by_cases here : choice = key
  · exact .inr ⟨row,by simp only [Map.find_insert,here,if_true],revoked⟩
  · rcases swept key found stored mine alive with waiting | ⟨written,there,gone⟩
    · exact .inl ((List.mem_erase_of_ne (Ne.symm here)).mpr waiting)
    · exact .inr ⟨written,by simp only [Map.find_insert,here,if_false,there],gone⟩

theorem Visiting.skip (swept : Visiting committed writes member live dead candidates)
    (revoked : ∀ (key : TokenDigest) row,writes[key]? = some row → dead row)
    (unmatched : ∀ row,writes[choice]?.or committed[choice]? = some row → ¬(member row ∧ live row)) :
    Visiting committed writes member live dead (candidates.erase choice) := by
  intro key found stored mine alive
  by_cases here : choice = key
  · subst here
    cases written : writes[choice]? with
    | some new => exact .inr ⟨new,rfl,revoked choice new written⟩
    | none => exact absurd ⟨mine,alive⟩ (unmatched found (by rw [written]; exact stored))
  · exact (swept key found stored mine alive).imp_left (List.mem_erase_of_ne (Ne.symm here)).mpr

end

section
variable (lawful : Lawful committed session)
include lawful

theorem scanned_access (quiet : session.phase.rotating = none) (family : TokenFamilyId) :
    SweptAccess committed session.writes family (Db.accessCandidates (session.writes.onto committed) family) := by
  refine Visiting.scan (lawful.written_access quiet) fun key row seen member active => ?_
  simp only [Db.accessCandidates,List.mem_map,List.mem_filter,decide_eq_true_eq]
  exact ⟨(key,row),⟨by simpa [Tables.onto_access] using seen,member,active⟩,rfl⟩

theorem scanned_refresh (quiet : session.phase.rotating = none) (family : TokenFamilyId) :
    SweptRefresh committed session.writes family (Db.refreshCandidates (session.writes.onto committed) family) := by
  refine Visiting.scan (lawful.written_refresh quiet) fun key row seen member alive => ?_
  simp only [Db.refreshCandidates,List.mem_map,List.mem_filter,decide_eq_true_eq]
  exact ⟨(key,row),⟨by simpa [Tables.onto_refresh] using seen,member,alive⟩,rfl⟩

theorem Lawful.goto (quiet : session.phase.rotating = none) (after : phase.rotating = none)
    (swept : Swept committed session.writes phase) : Lawful committed (session.goto phase) :=
  lawful.move rfl rfl (fun _ => id) (carries_of_quiet quiet) (holds_of_quiet after) swept

theorem Lawful.lock (quiet : session.phase.rotating = none) (holds : Holds committed (key :: session.locks) phase)
    (swept : Swept committed session.writes phase) : Lawful committed (session.lock key phase) :=
  lawful.move rfl rfl (fun _ => List.mem_cons_of_mem _) (carries_of_quiet quiet) holds swept

theorem Lawful.visible_refresh (quiet : session.phase.rotating = none) {key : TokenDigest}
    (seen : (session.writes.onto committed).refresh[key]? = some row) (alive : row.state ≠ .revoked) : committed.refresh[key]? = some row := by
  rcases seen_refresh seen with mine | ⟨-,old⟩
  · exact absurd (lawful.written_refresh quiet key row mine) alive
  · exact old

theorem Lawful.same_family {key : TokenDigest} (seen : (session.writes.onto committed).refresh[key]? = some row)
    (stored : committed.refresh[key]? = some base) : base.family = row.family := by
  rcases seen_refresh seen with mine | ⟨-,old⟩
  · rcases (lawful.refresh key row mine).2 with ⟨found,there,same,-⟩ | ⟨absent,-⟩
    · cases stored.symm.trans there
      exact same
    · cases stored.symm.trans absent
  · cases stored.symm.trans old
    rfl

end

theorem onto_access_none {writes : Tables} {key : TokenDigest}
    (absent : ¬ ((writes.onto committed).access[key]?).isSome = true) : committed.access[key]? = none := by
  rw [Tables.onto_access] at absent
  cases stored : committed.access[key]? with
  | none => rfl
  | some row => simp [stored] at absent

theorem onto_refresh_none {writes : Tables} {key : TokenDigest}
    (absent : ¬ ((writes.onto committed).refresh[key]?).isSome = true) : committed.refresh[key]? = none := by
  rw [Tables.onto_refresh] at absent
  cases stored : committed.refresh[key]? with
  | none => rfl
  | some row => simp [stored] at absent

theorem advance_lawful {choice : TokenDigest} {after : Session} (lawful : Lawful db.committed session)
    (advanced : db.advance self session choice = some (.proceed after)) : Lawful db.committed after := by
  obtain ⟨phase,locks,writes⟩ := session
  cases phase with
  | lockPresented presented now access refresh =>
    simp only [Db.advance] at advanced
    split at advanced
    · cases advanced
    · rename_i found seen
      split_ifs at advanced with waits stale mismatch <;> cases advanced
      · exact lawful.lock rfl (holds_of_quiet rfl) trivial
      · refine lawful.lock rfl ?_ trivial
        rintro _ _ ⟨⟩
        simp only [not_or,not_not] at stale
        have stored := lawful.visible_refresh rfl seen (by simp [stale.1])
        exact ⟨List.mem_cons_self,found,stored,rfl,stale.1⟩
  | consume presented now family access refresh =>
    obtain ⟨locked,base,stored,member,active⟩ := lawful.holds presented family rfl
    simp only [Db.advance] at advanced
    split_ifs at advanced with waits
    split at advanced
    · cases advanced
      exact lawful.move rfl rfl (fun _ => id) (fun _ => id) lawful.holds trivial
    · rename_i row seen
      split_ifs at advanced with matches_ <;> cases advanced
      · have same := lawful.same_family seen stored
        refine lawful.putRefresh (fun _ => id) (.inl ⟨base,stored,same,.inr ⟨by simp [active],presented,?_⟩⟩)
          ?_ trivial
        · exact congrArg some (congrArg _ (member.symm.trans same))
        · rintro _ _ ⟨⟩
          exact ⟨List.mem_cons_self,base,stored,member,active⟩
      · exact lawful.move rfl rfl (fun _ => id) (fun _ => id) lawful.holds trivial
  | insertAccess presented family access refresh =>
    simp only [Db.advance] at advanced
    split_ifs at advanced with waits taken <;> cases advanced
    refine lawful.putAccess (fun _ => id) (.inr ⟨onto_access_none taken,presented,?_⟩) ?_ trivial
    · rfl
    intro one two rotating
    obtain ⟨locked,held⟩ := lawful.holds one two rotating
    exact ⟨List.mem_cons_of_mem _ locked,held⟩
  | insertRefresh presented family refresh =>
    simp only [Db.advance] at advanced
    split_ifs at advanced with waits taken <;> cases advanced
    refine lawful.putRefresh (fun _ => id) (.inr ⟨onto_refresh_none taken,presented,?_⟩) ?_ trivial
    · rfl
    intro one two rotating
    obtain ⟨locked,held⟩ := lawful.holds one two rotating
    exact ⟨List.mem_cons_of_mem _ locked,held⟩
  | lockAccess digest now =>
    simp only [Db.advance] at advanced
    split at advanced
    · cases advanced
      exact lawful.goto rfl rfl trivial
    · split_ifs at advanced with waits
      cases advanced
      exact lawful.lock rfl (holds_of_quiet rfl) trivial
  | revokeAccess digest now =>
    simp only [Db.advance] at advanced
    split_ifs at advanced with waits
    split at advanced
    · cases advanced
      exact lawful.goto rfl rfl trivial
    · rename_i row seen
      cases advanced
      obtain ⟨base,stored,same⟩ := lawful.base_access rfl seen
      exact lawful.putAccess (carries_of_quiet rfl) (.inl ⟨base,stored,same,rfl⟩) (holds_of_quiet rfl) trivial
  | lockRefresh digest now =>
    simp only [Db.advance] at advanced
    split at advanced
    · cases advanced
      exact lawful.goto rfl rfl trivial
    · split_ifs at advanced with waits
      cases advanced
      exact lawful.lock rfl (holds_of_quiet rfl) trivial
  | markFamily family now =>
    simp only [Db.advance] at advanced
    split at advanced
    · cases advanced
      exact lawful.goto rfl rfl trivial
    · split_ifs at advanced with waits
      cases advanced
      exact lawful.move rfl rfl (fun _ => List.mem_cons_of_mem _) (carries_of_quiet rfl) (holds_of_quiet rfl)
        trivial
  | scanAccess family now =>
    simp only [Db.advance] at advanced
    cases advanced
    exact lawful.goto rfl rfl (scanned_access lawful rfl family)
  | updateAccess family now candidates =>
    have swept : SweptAccess db.committed writes family candidates := lawful.swept
    simp only [Db.advance] at advanced
    split_ifs at advanced with finished waits
    · cases advanced
      exact lawful.goto rfl rfl (finished ▸ swept)
    · split at advanced
      · rename_i unseen
        cases advanced
        refine lawful.goto rfl rfl (Visiting.skip swept (lawful.written_access rfl) ?_)
        intro row seen
        cases unseen.symm.trans ((Tables.onto_access ..).trans seen)
      · rename_i row seen
        split_ifs at advanced with matches_ <;> cases advanced
        · obtain ⟨base,stored,same⟩ := lawful.base_access rfl seen
          exact lawful.putAccess (carries_of_quiet rfl) (.inl ⟨base,stored,same,rfl⟩) (holds_of_quiet rfl)
            (Visiting.put swept rfl)
        · refine lawful.goto rfl rfl (Visiting.skip swept (lawful.written_access rfl) ?_)
          intro other there
          cases seen.symm.trans ((Tables.onto_access ..).trans there)
          exact matches_
  | scanRefresh family now =>
    simp only [Db.advance] at advanced
    cases advanced
    exact lawful.goto rfl rfl ⟨lawful.swept,scanned_refresh lawful rfl family⟩
  | updateRefresh family now candidates =>
    obtain ⟨done,swept⟩ : SweptAccess db.committed writes family [] ∧
      SweptRefresh db.committed writes family candidates := lawful.swept
    simp only [Db.advance] at advanced
    split_ifs at advanced with finished waits
    · cases advanced
      exact lawful.goto rfl rfl ⟨done,finished ▸ swept⟩
    · split at advanced
      · rename_i unseen
        cases advanced
        refine lawful.goto rfl rfl ⟨done,Visiting.skip swept (lawful.written_refresh rfl) ?_⟩
        intro row seen
        cases unseen.symm.trans ((Tables.onto_refresh ..).trans seen)
      · rename_i row seen
        split_ifs at advanced with matches_ <;> cases advanced
        · obtain ⟨base,stored,same⟩ := lawful.base_refresh rfl seen
          exact lawful.putRefresh (carries_of_quiet rfl) (.inl ⟨base,stored,same,.inl rfl⟩)
            (holds_of_quiet rfl) ⟨done,Visiting.put swept rfl⟩
        · refine lawful.goto rfl rfl ⟨done,Visiting.skip swept (lawful.written_refresh rfl) ?_⟩
          intro other there
          cases seen.symm.trans ((Tables.onto_refresh ..).trans there)
          exact matches_
  | commitRotation | commitRevocation | commit => cases advanced

theorem advance_locks {choice : TokenDigest} (advanced : db.advance self session choice = some (.proceed after))
    (held : key ∈ after.locks) : key ∈ session.locks ∨ db.free self key = true := by
  have taken : ∀ {new : RowKey},¬ (!db.free self new) = true → key ∈ new :: session.locks →
      key ∈ session.locks ∨ db.free self key = true := by
    intro new open_ member
    rcases List.mem_cons.mp member with rfl | old
    · exact .inr (by simpa using open_)
    · exact .inl old
  unfold Db.advance at advanced
  dsimp only at advanced
  split at advanced
  all_goals
    repeat' split at advanced
    all_goals first
      | cases advanced; done
      | cases advanced; exact .inl held
      | cases advanced; exact taken (by assumption) held
      | cases advanced; exact taken (fun waits => by simp_all) held

structure Invariant (db : Db) : Prop where
  lawful : ∀ (id : Nat) (session : Session),db.sessions[id]? = some session → Lawful db.committed session
  exclusive : ∀ (one two : Nat) (a b : Session) (key : RowKey),one ≠ two → db.sessions[one]? = some a →
    db.sessions[two]? = some b → key ∈ a.locks → key ∉ b.locks

theorem invariant_start (tables : Tables) : Invariant (.start tables) := by
  constructor
  · intro id session running
    simp [Db.start] at running
  · intro one two a b key _ running
    simp [Db.start] at running

theorem Invariant.insert (valid : Invariant db) {id : Nat} (lawful : Lawful db.committed session)
    (free : ∀ key ∈ session.locks,∀ (at_ : Nat) (other : Session),db.sessions[at_]? = some other → at_ ≠ id →
      key ∉ other.locks) : Invariant { db with sessions := db.sessions.insert id session } := by
  have found : ∀ (at_ : Nat) (other : Session),(db.sessions.insert id session)[at_]? = some other →
      at_ = id ∧ other = session ∨ at_ ≠ id ∧ db.sessions[at_]? = some other := by
    intro at_ other running
    by_cases here : id = at_
    · simp only [Map.find_insert,here,if_true,Option.some.injEq] at running
      exact .inl ⟨here.symm,running.symm⟩
    · simp only [Map.find_insert,here,if_false] at running
      exact .inr ⟨Ne.symm here,running⟩
  constructor
  · intro at_ other running
    rcases found at_ other running with ⟨-,rfl⟩ | ⟨-,old⟩
    · exact lawful
    · exact valid.lawful at_ other old
  · intro one two a b key apart runningA runningB held
    rcases found one a runningA with ⟨rfl,rfl⟩ | ⟨otherA,oldA⟩ <;>
      rcases found two b runningB with ⟨rfl,rfl⟩ | ⟨otherB,oldB⟩
    · exact absurd rfl apart
    · exact free key held two b oldB otherB
    · exact fun member => free key member one a oldA otherA held
    · exact valid.exclusive one two a b key apart oldA oldB held

theorem Invariant.erase (valid : Invariant db) (id : Nat) :
    Invariant { db with sessions := db.sessions.erase id } := by
  have found : ∀ (at_ : Nat) (other : Session),(db.sessions.erase id)[at_]? = some other →
      db.sessions[at_]? = some other := by
    intro at_ other running
    by_cases here : id = at_
    · simp only [Map.find_erase,here,if_true] at running
      cases running
    · simpa only [Map.find_erase,here,if_false] using running
  exact ⟨fun at_ other running => valid.lawful at_ other (found at_ other running),
    fun one two a b key apart runningA runningB =>
      valid.exclusive one two a b key apart (found one a runningA) (found two b runningB)⟩

theorem Lawful.survives (mine : Lawful committed session) (theirs : Lawful committed other)
    (apart : ∀ key ∈ session.locks,key ∉ other.locks)
    (orderly : ∀ family,Rotates session family → other.phase.sweeping ≠ some family) :
    Lawful (session.writes.onto committed) other := by
  have unwrittenAccess : ∀ (key : TokenDigest),.access key ∈ other.locks →
      (session.writes.onto committed).access[key]? = committed.access[key]? := by
    intro key locked
    rw [Tables.onto_access]
    cases written : session.writes.access[key]? with
    | none => rfl
    | some row => exact absurd locked (apart _ (mine.access key row written).1)
  have unwrittenRefresh : ∀ (key : TokenDigest),.refresh key ∈ other.locks →
      (session.writes.onto committed).refresh[key]? = committed.refresh[key]? := by
    intro key locked
    rw [Tables.onto_refresh]
    cases written : session.writes.refresh[key]? with
    | none => rfl
    | some row => exact absurd locked (apart _ (mine.refresh key row written).1)
  have sweptAccess : ∀ family candidates,other.phase.sweeping = some family →
      SweptAccess committed other.writes family candidates →
        SweptAccess (session.writes.onto committed) other.writes family candidates := by
    intro family candidates sweeping swept key row stored member active
    rcases seen_access stored with written | ⟨-,old⟩
    · rcases (mine.access key row written).2 with ⟨_,_,_,revoked⟩ | ⟨-,rotates⟩
      · rw [revoked] at active
        cases active
      · exact absurd sweeping (orderly family (member ▸ rotates))
    · exact swept key row old member active
  have sweptRefresh : ∀ family candidates,other.phase.sweeping = some family →
      SweptRefresh committed other.writes family candidates →
        SweptRefresh (session.writes.onto committed) other.writes family candidates := by
    intro family candidates sweeping swept key row stored member alive
    rcases seen_refresh stored with written | ⟨-,old⟩
    · rcases (mine.refresh key row written).2 with ⟨_,_,_,revoked | ⟨-,rotates⟩⟩ | ⟨-,rotates⟩
      · exact absurd revoked alive
      · exact absurd sweeping (orderly family (member ▸ rotates))
      · exact absurd sweeping (orderly family (member ▸ rotates))
    · exact swept key row old member alive
  refine ⟨?_,?_,?_,?_⟩
  · intro key row written
    obtain ⟨locked,why⟩ := theirs.access key row written
    rw [unwrittenAccess key locked]
    exact ⟨locked,why⟩
  · intro key row written
    obtain ⟨locked,why⟩ := theirs.refresh key row written
    rw [unwrittenRefresh key locked]
    exact ⟨locked,why⟩
  · intro presented family rotating
    obtain ⟨locked,row,stored,facts⟩ := theirs.holds presented family rotating
    exact ⟨locked,row,(unwrittenRefresh presented locked).trans stored,facts⟩
  · have before := theirs.swept
    generalize doing : other.phase = phase at before sweptAccess sweptRefresh ⊢
    cases phase with
    | updateAccess family now candidates => exact sweptAccess family candidates rfl before
    | scanRefresh family now => exact sweptAccess family [] rfl before
    | updateRefresh family now candidates =>
      exact ⟨sweptAccess family [] rfl before.1,sweptRefresh family candidates rfl before.2⟩
    | commitRevocation family =>
      exact ⟨sweptAccess family [] rfl before.1,sweptRefresh family [] rfl before.2⟩
    | lockPresented | consume | insertAccess | insertRefresh | commitRotation | lockAccess | revokeAccess
    | lockRefresh | markFamily | scanAccess | commit => trivial

theorem advance_commit {choice : TokenDigest} (advanced : db.advance self session choice = some .commit) :
    (∃ presented family,session.phase = .commitRotation presented family) ∨ session.phase.rotating = none := by
  obtain ⟨phase,locks,writes⟩ := session
  cases phase with
  | commitRotation presented family => exact .inl ⟨presented,family,rfl⟩
  | consume | insertAccess | insertRefresh =>
    simp only [Db.advance] at advanced
    repeat' split at advanced
    all_goals cases advanced
  | lockPresented | lockAccess | revokeAccess | lockRefresh | markFamily | scanAccess | updateAccess
  | scanRefresh | updateRefresh | commitRevocation | commit => exact .inr rfl

theorem Invariant.step (valid : Invariant db) (moved : Step db label next)
    (orderly : ∀ phase,label = some phase → Orderly db phase) : Invariant next := by
  cases moved with
  | begin id phase entry unused =>
    refine valid.insert (lawful_start phase entry) ?_
    intro key held
    cases held
  | statement id session after choice running advanced =>
    refine valid.insert (advance_lawful (valid.lawful id session running) advanced) ?_
    intro key held at_ other present apart
    rcases advance_locks advanced held with old | free
    · exact valid.exclusive id at_ session other key apart.symm running present old
    · exact Db.free_eq_true free present apart
  | commit id session choice running advanced =>
    have rest := valid.erase id
    refine ⟨?_,rest.exclusive⟩
    intro at_ other present
    have lawful := rest.lawful at_ other present
    have apart : at_ ≠ id := by
      rintro rfl
      simp [Db.resume] at present
    have before : db.sessions[at_]? = some other := by
      simpa only [Db.resume,Map.find_erase,apart.symm,if_false] using present
    refine (valid.lawful id session running).survives lawful
      (fun key held => valid.exclusive id at_ session other key apart.symm running before held) ?_
    rintro family ⟨presented,rotating⟩ sweeping
    rcases advance_commit advanced with ⟨held,named,phase⟩ | quiet
    · rw [phase] at rotating
      cases rotating
      exact orderly _ rfl presented family phase at_ other before sweeping
    · rw [quiet] at rotating
      cases rotating
  | abort id => exact valid.erase id

theorem Invariant.runs (valid : Invariant db) (path : Runs Orderly db next) : Invariant next := by
  induction path with
  | nil => exact valid
  | step _ moved allowed ih => exact ih.step moved allowed

structure Dead (tables : Tables) (family : TokenFamilyId) : Prop where
  access : ∀ (key : TokenDigest) (row : AccessRow),tables.access[key]? = some row → row.family = family →
    row.state = .revoked
  refresh : ∀ (key : TokenDigest) (row : RefreshRow),tables.refresh[key]? = some row → row.family = family →
    row.state = .revoked

theorem Dead.not_rotates (dead : Dead committed family) (lawful : Lawful committed session) :
    ¬ Rotates session family := by
  rintro ⟨presented,rotating⟩
  obtain ⟨-,row,stored,member,active⟩ := lawful.holds presented family rotating
  rw [dead.refresh presented row stored member] at active
  cases active

theorem Dead.onto (dead : Dead committed family) (lawful : Lawful committed session) :
    Dead (session.writes.onto committed) family where
  access key row stored member := by
    rcases seen_access stored with written | ⟨-,old⟩
    · rcases (lawful.access key row written).2 with ⟨_,_,_,revoked⟩ | ⟨-,rotates⟩
      · exact revoked
      · exact absurd (member ▸ rotates) (dead.not_rotates lawful)
    · exact dead.access key row old member
  refresh key row stored member := by
    rcases seen_refresh stored with written | ⟨-,old⟩
    · rcases (lawful.refresh key row written).2 with ⟨_,_,_,revoked | ⟨-,rotates⟩⟩ | ⟨-,rotates⟩
      · exact revoked
      · exact absurd (member ▸ rotates) (dead.not_rotates lawful)
      · exact absurd (member ▸ rotates) (dead.not_rotates lawful)
    · exact dead.refresh key row old member

theorem Dead.step (dead : Dead db.committed family) (valid : Invariant db) (moved : Step db label next) :
    Dead next.committed family := by
  cases moved with
  | begin | statement => exact dead
  | commit id session choice running advanced => exact dead.onto (valid.lawful id session running)
  | abort => exact dead

theorem dead_of_revocation (lawful : Lawful committed session)
    (phase : session.phase = .commitRevocation family) : Dead (session.writes.onto committed) family := by
  have quiet : session.phase.rotating = none := by rw [phase]; rfl
  obtain ⟨access,refresh⟩ : SweptAccess committed session.writes family [] ∧
      SweptRefresh committed session.writes family [] := by
    have swept := lawful.swept
    rw [phase] at swept
    exact swept
  constructor
  · intro key row stored member
    rcases seen_access stored with written | ⟨unwritten,kept⟩
    · exact lawful.written_access quiet key row written
    · cases state : row.state with
      | revoked => rfl
      | active =>
        rcases access key row kept member state with waiting | ⟨mine,there,-⟩
        · cases waiting
        · cases unwritten.symm.trans there
  · intro key row stored member
    rcases seen_refresh stored with written | ⟨unwritten,kept⟩
    · exact lawful.written_refresh quiet key row written
    · by_contra alive
      rcases refresh key row kept member alive with waiting | ⟨mine,there,-⟩
      · cases waiting
      · cases unwritten.symm.trans there

theorem Dead.runs (dead : Dead db.committed family) (valid : Invariant db) (path : Runs Orderly db next) :
    Dead next.committed family := by
  induction path with
  | nil => exact dead
  | step prior moved _ ih => exact ih.step (valid.runs prior) moved

theorem findAccess_row (found : db.findAccess digest = .ok record) :
    ∃ row,db.committed.access[digest]? = some row ∧ row.family = record.family ∧ row.state = record.state := by
  unfold Db.findAccess at found
  split at found
  · cases found
  · rename_i row stored
    split at found
    · cases found
    · cases found
      exact ⟨row,stored,rfl,rfl⟩

theorem findRefresh_row (found : db.findRefresh digest = .ok record) :
    ∃ row,db.committed.refresh[digest]? = some row ∧ row.family = record.family ∧ row.state = record.state := by
  unfold Db.findRefresh at found
  split at found
  · cases found
  · rename_i row stored
    split at found
    · cases found
    · cases found
      exact ⟨row,stored,rfl,rfl⟩

theorem revocation_final_when_orderly {tables : Tables} {later : Db} (path : Runs Orderly (.start tables) db)
    (revoked : Step db (some (.commitRevocation family)) next) (more : Runs Orderly next later) :
    (∀ digest record,later.findAccess digest = .ok record → record.family = family →
      ∀ at_,record.usableAt at_ = false) ∧
    (∀ digest record,later.findRefresh digest = .ok record → record.family = family →
      ∀ at_,record.usableAt at_ = false) ∧
    ∀ presented final,¬ Step later (some (.commitRotation presented family)) final := by
  have valid := (invariant_start tables).runs path
  have validNext : Invariant next := valid.step revoked (by
    rintro phase ⟨⟩ presented named equal
    cases equal)
  have dead : Dead next.committed family := by
    generalize named : (some (Phase.commitRevocation family)) = label at revoked
    cases revoked with
    | commit id session choice running advanced =>
      exact dead_of_revocation (valid.lawful id session running) (Option.some.inj named).symm
    | begin | statement | abort => cases named
  have last := dead.runs validNext more
  refine ⟨?_,?_,?_⟩
  · intro digest record found member
    obtain ⟨row,stored,same,state⟩ := findAccess_row found
    exact AccessTokenRecord.not_usableAt_of_revoked
      (state ▸ last.access digest row stored (same.trans member))
  · intro digest record found member
    obtain ⟨row,stored,same,state⟩ := findRefresh_row found
    exact RefreshTokenRecord.not_usableAt_of_revoked
      (state ▸ last.refresh digest row stored (same.trans member))
  · intro presented final rotated
    have validLater := validNext.runs more
    generalize named : (some (Phase.commitRotation presented family)) = label at rotated
    cases rotated with
    | commit id session choice running advanced =>
      have rotates : Rotates session family := ⟨presented,by rw [← Option.some.inj named]; rfl⟩
      exact last.not_rotates (validLater.lawful id session running) rotates
    | begin | statement | abort => cases named

-- Schedules that can be executed: a transaction begins, or executes its next statement.
inductive Move where
  | begin (id : Nat) (phase : Phase) (entry : Entry phase)
  | run (id : Nat) (choice : TokenDigest)

def Db.committing (db : Db) (id : Nat) : Option (Phase × Db) :=
  match db.sessions[id]? with
  | none => none
  | some session =>
    match db.advance id session 0 with
    | some .commit => some (session.phase,db.resume id session .commit)
    | _ => none

def Move.apply (permits : Db → Phase → Bool) (db : Db) : Move → Option Db
  | .begin id phase _ =>
    if db.sessions[id]?.isNone then some { db with sessions := db.sessions.insert id (.start phase) } else none
  | .run id choice =>
    match db.sessions[id]? with
    | none => none
    | some session =>
      match db.advance id session choice with
      | some (.proceed next) => some (db.resume id session (.proceed next))
      | some .commit => if permits db session.phase then some (db.resume id session .commit) else none
      | _ => none

def Db.play (permits : Db → Phase → Bool) (moves : List Move) (db : Db) : Option Db :=
  moves.foldlM (fun db move => move.apply permits db) db

theorem Runs.trans {guard : Db → Phase → Prop} (one : Runs guard a b) (two : Runs guard b c) : Runs guard a c := by
  induction two with
  | nil => exact one
  | step _ moved allowed ih => exact .step ih moved allowed

theorem play_runs {guard : Db → Phase → Prop} (correct : ∀ db phase,permits db phase = true → guard db phase)
    (played : db.play permits moves = some next) : Runs guard db next := by
  induction moves generalizing db with
  | nil =>
    cases played
    exact .nil
  | cons move rest ih =>
    simp only [Db.play,List.foldlM_cons,Option.bind_eq_bind,Option.bind_eq_some_iff] at played
    obtain ⟨middle,first,further⟩ := played
    refine Runs.trans ?_ (ih further)
    cases move with
    | begin id phase entry =>
      simp only [Move.apply] at first
      split_ifs at first with unused
      cases first
      exact .step .nil (.begin id phase entry (by simpa using unused)) (by simp)
    | run id choice =>
      simp only [Move.apply] at first
      split at first
      · cases first
      · rename_i session running
        split at first
        · rename_i after advanced
          cases first
          exact .step .nil (.statement id session after choice running advanced) (by simp)
        · rename_i advanced
          split_ifs at first with permitted
          cases first
          refine .step .nil (.commit id session choice running advanced) ?_
          rintro phase ⟨⟩
          exact correct db _ permitted
        · cases first

theorem committing_step {id : Nat} (done : db.committing id = some (phase,next)) : Step db (some phase) next := by
  unfold Db.committing at done
  split at done
  · cases done
  · rename_i session running
    split at done
    · rename_i advanced
      cases done
      exact .commit id session 0 running advanced
    · cases done

def demoContext : TokenContext where
  client := ⟨"web"⟩
  identity := ⟨"ann"⟩
  provider := ⟨"passkey"⟩
  assurance := .ial2
  strength := ⟨1,false⟩
  scopes := .ofList ["read"]
  authenticatedAt := 0
  audiences := .ofList ["https://api.example"]
  senderConstraint := none

def demoTables : Tables where
  families := (∅ : Map TokenFamilyId FamilyRow).insert ⟨"f"⟩ ⟨demoContext,none⟩
  access := (∅ : Map TokenDigest AccessRow).insert 21 ⟨⟨"f"⟩,.active,0,100,none⟩
  refresh := ((∅ : Map TokenDigest RefreshRow).insert 10 ⟨⟨"f"⟩,0,.used,0,1000,some 0⟩).insert 11
    ⟨⟨"f"⟩,1,.active,0,1000,none⟩

def demoRotation (presented : TokenDigest) (now : Instant) (sequence : Nat) (access refresh : TokenDigest) :
    Phase :=
  .rotateRefresh presented now (.fresh access ⟨"f"⟩ demoContext now (now+100))
    (.fresh refresh ⟨"f"⟩ sequence demoContext now 1000)

def demoBegin (id : Nat) (presented : TokenDigest) (now : Instant) (sequence : Nat)
    (access refresh : TokenDigest) : Move :=
  .begin id (demoRotation presented now sequence access refresh) (.rotateRefresh ..)

def orderlyNow (db : Db) : Phase → Bool
  | .commitRotation _ family => db.sessions.toList.all fun entry => entry.2.phase.sweeping != some family
  | _ => true

theorem orderly_of_now (db : Db) (phase : Phase) (permitted : orderlyNow db phase = true) : Orderly db phase := by
  rintro presented family rfl id session running
  simp only [orderlyNow,List.all_eq_true,bne_iff_ne] at permitted
  exact permitted (id,session) (Std.ExtTreeMap.mem_toList_iff_getElem?_eq_some.mpr running)

theorem revocation_final_when_orderly_sequential : ∃ before after : Db,Runs Orderly (.start demoTables) before ∧
      Step before (some (.commitRevocation ⟨"f"⟩)) after ∧ (after.findAccess 22).toOption.isSome = true ∧
      ∀ digest record,after.findAccess digest = .ok record → record.family = ⟨"f"⟩ →
        ∀ at_,record.usableAt at_ = false := by
  have played : (Db.play orderlyNow
      ([demoBegin 1 11 5 2 22 12,.run 1 0,.run 1 0,.run 1 0,.run 1 0,.run 1 0,
        demoBegin 2 10 5 1 32 33,.run 2 0,.run 2 0,.run 2 0,.run 2 21,.run 2 22,.run 2 0,.run 2 0,.run 2 10,
        .run 2 11,.run 2 12,.run 2 0]) (.start demoTables)).any (fun before =>
      (before.committing 2).any fun (revoked,after) =>
        decide (revoked = .commitRevocation ⟨"f"⟩) && (after.findAccess 22).toOption.isSome) = true := by
    decide
  obtain ⟨before,reached,played⟩ := (Option.any_eq_true ..).mp played
  obtain ⟨⟨revoked,after⟩,committed,checked⟩ := (Option.any_eq_true ..).mp played
  simp only [Bool.and_eq_true,decide_eq_true_eq] at checked
  obtain ⟨rfl,present⟩ := checked
  have path := play_runs orderly_of_now reached
  have moved := committing_step committed
  exact ⟨before,after,path,moved,present,(revocation_final_when_orderly path moved .nil).1⟩

-- A rotation of 11 has inserted its pair but not committed when the replay of 10 scans the
-- tables; it commits while the replay waits for row 11. Neither new row was a candidate, so
-- the pair survives the committed revocation, and the new refresh token can be rotated.
theorem revocation_misses_rotation : ∃ before after last final : Db,Runs Unrestricted (.start demoTables) before ∧
      Step before (some (.commitRevocation ⟨"f"⟩)) after ∧ (∀ id : Nat,after.sessions[id]? = none) ∧
      (∃ record,after.findAccess 22 = .ok record ∧ record.family = ⟨"f"⟩ ∧ record.usableAt 6 = true) ∧
      (∃ record,after.findRefresh 12 = .ok record ∧ record.family = ⟨"f"⟩ ∧ record.usableAt 6 = true) ∧
      Runs Unrestricted after last ∧ Step last (some (.commitRotation 12 ⟨"f"⟩)) final := by
  have played : (Db.play (fun _ _ => true)
      ([demoBegin 1 11 5 2 22 12,.run 1 0,.run 1 0,.run 1 0,.run 1 0,
        demoBegin 2 10 5 1 32 33,.run 2 0,.run 2 0,.run 2 0,.run 2 21,.run 2 0,.run 2 0,.run 2 10,
        .run 1 0,.run 2 11,.run 2 0]) (.start demoTables)).any (fun before =>
      (before.committing 2).any fun (revoked,after) =>
        (after.play (fun _ _ => true) [demoBegin 3 12 6 3 23 13,.run 3 0,.run 3 0,.run 3 0,.run 3 0]).any
          fun last => (last.committing 3).any fun (rotated,_) =>
            decide (revoked = .commitRevocation ⟨"f"⟩) && after.sessions.isEmpty &&
            ((after.findAccess 22).toOption.any fun record =>
              decide (record.family = ⟨"f"⟩) && record.usableAt 6) &&
            ((after.findRefresh 12).toOption.any fun record =>
              decide (record.family = ⟨"f"⟩) && record.usableAt 6) &&
            decide (rotated = .commitRotation 12 ⟨"f"⟩)) = true := by
    decide
  obtain ⟨before,reached,played⟩ := (Option.any_eq_true ..).mp played
  obtain ⟨⟨revoked,after⟩,committed,played⟩ := (Option.any_eq_true ..).mp played
  obtain ⟨last,further,played⟩ := (Option.any_eq_true ..).mp played
  obtain ⟨⟨rotated,final⟩,ended,checked⟩ := (Option.any_eq_true ..).mp played
  simp only [Bool.and_eq_true,decide_eq_true_eq] at checked
  obtain ⟨⟨⟨⟨rfl,empty⟩,access⟩,refresh⟩,rfl⟩ := checked
  obtain ⟨oldAccess,foundAccess,factsAccess⟩ := (Option.any_eq_true ..).mp access
  obtain ⟨oldRefresh,foundRefresh,factsRefresh⟩ := (Option.any_eq_true ..).mp refresh
  simp only [Bool.and_eq_true,decide_eq_true_eq] at factsAccess factsRefresh
  refine ⟨before,after,last,final,play_runs (fun _ _ _ => trivial) reached,committing_step committed,?_,
    ⟨oldAccess,?_,factsAccess⟩,⟨oldRefresh,?_,factsRefresh⟩,play_runs (fun _ _ _ => trivial) further,
    committing_step ended⟩
  · intro id
    have none_ : after.sessions = ∅ := Std.ExtTreeMap.isEmpty_iff.mp empty
    simp [none_]
  · cases found : after.findAccess 22 with
    | ok record =>
      rw [found] at foundAccess
      exact congrArg _ (Option.some.inj foundAccess)
    | error e =>
      rw [found] at foundAccess
      cases foundAccess
  · cases found : after.findRefresh 12 with
    | ok record =>
      rw [found] at foundRefresh
      exact congrArg _ (Option.some.inj foundRefresh)
    | error e =>
      rw [found] at foundRefresh
      cases foundRefresh

end OpenProof.PostgresTokens
