import Mathlib.Data.List.Sort
import OpenProof.Identities

namespace OpenProof.ScimDirectory
open Foundation Std Identities

structure GroupIdTag
abbrev GroupId := StrongId GroupIdTag

def validText (value : Text) (maximum : Nat) : Bool := !value.isEmpty && value.length ≤ maximum && !value.any isControl

def validOptional (value : Option Text) (maximum : Nat) : Bool := value.all fun value => validText value maximum

-- The columns that users and groups have alike: whose row it is, what it is called, and when.
structure Row (K : Type) where
  id : K
  organization : OrganizationId
  name : Text
  externalId : Option Text
  createdAt : Instant
  updatedAt : Instant
  deriving DecidableEq

abbrev UserRecord := Row IdentityId
abbrev GroupRecord := Row GroupId

abbrev Row.userName (record : UserRecord) : Text := record.name
abbrev Row.displayName (record : GroupRecord) : Text := record.name

def UserRecord.create (identity : IdentityId) (organization : OrganizationId) (userName : Text)
    (externalId : Option Text) (createdAt updatedAt : Instant) : Result UserRecord :=
  if identity.empty || organization.empty || !validText userName 320 || !validOptional externalId 1024
      || updatedAt < createdAt then
    fail .invalidArgument "The SCIM user metadata is invalid."
  else .ok ⟨identity,organization,userName,externalId,createdAt,updatedAt⟩

def GroupRecord.create (id : GroupId) (organization : OrganizationId) (displayName : Text)
    (externalId : Option Text) (createdAt updatedAt : Instant) : Result GroupRecord :=
  if id.empty || organization.empty || !validText displayName 512 || !validOptional externalId 1024
      || updatedAt < createdAt then
    fail .invalidArgument "The SCIM group metadata is invalid."
  else .ok ⟨id,organization,displayName,externalId,createdAt,updatedAt⟩

section
variable {K : Type}

def Row.rename (maximum : Nat) (record : Row K) (name : Text) (externalId : Option Text) (now : Instant) :
    Result (Row K) :=
  if !validText name maximum || !validOptional externalId 1024 || now < record.createdAt then
    .error (.plain .invalidArgument)
  else .ok { record with name := name,externalId := externalId,updatedAt := now }

theorem Row.rename_spec {record renamed : Row K} {name : Text} {externalId : Option Text}
    (done : record.rename maximum name externalId now = .ok renamed) :
    renamed = { record with name := name,externalId := externalId,updatedAt := now } := by
  unfold Row.rename at done
  split at done
  · cases done
  · cases done
    rfl

end

def UserRecord.rename (record : UserRecord) (userName : Text) (externalId : Option Text) (now : Instant) :
    Result UserRecord := Row.rename 320 record userName externalId now

def GroupRecord.rename (record : GroupRecord) (displayName : Text) (externalId : Option Text) (now : Instant) :
    Result GroupRecord := Row.rename 512 record displayName externalId now

-- `databaseError`: what the server refuses.
def uniqueViolation (operation : Text) : Error :=
  .of .alreadyExists (defaultErrorMessage .alreadyExists) (operation ++ " failed (SQLSTATE 23505).")

def foreignKeyViolation (operation : Text) : Error :=
  .of .failedPrecondition (defaultErrorMessage .failedPrecondition) (operation ++ " failed (SQLSTATE 23503).")

def nullIfEmpty (value : Option Text) : Option Text := value.filter fun text => !text.isEmpty

-- A table with a primary key, whose rows bear different names within an organization.
structure Table (K : Type) [Ord K] [TransOrd K] where
  rows : Map K (Row K)
  keyed : ∀ (id : K) (row : Row K),rows[id]? = some row → row.id = id
  unique : ∀ (id id' : K) (row row' : Row K),rows[id]? = some row → rows[id']? = some row' →
    row.organization = row'.organization → row.name = row'.name → id = id'

namespace Table
variable {K : Type} [Ord K] [TransOrd K] [LawfulEqOrd K] [DecidableEq K]

def clashes (row : Row K) (table : Table K) : Bool :=
  table.rows.toList.any fun entry =>
    entry.1 != row.id && entry.2.organization == row.organization && entry.2.name == row.name

theorem clashes_false {table : Table K} (free : table.clashes row = false) {id : K}
    (stored : table.rows[id]? = some other) (here : other.organization = row.organization)
    (same : other.name = row.name) : id = row.id := by
  have none := List.any_eq_false.mp free (id,other) (ExtTreeMap.mem_toList_iff_getElem?_eq_some.mpr stored)
  simpa [here,same] using none

theorem put_keyed {table : Table K} :
    ∀ (id : K) (stored : Row K),(table.rows.insert row.id row)[id]? = some stored → stored.id = id :=
  Map.insert_keyed table.keyed row

theorem put_unique {table : Table K} (free : table.clashes row = false) :
    ∀ (id id' : K) (stored stored' : Row K),(table.rows.insert row.id row)[id]? = some stored →
      (table.rows.insert row.id row)[id']? = some stored' → stored.organization = stored'.organization →
        stored.name = stored'.name → id = id' := by
  intro id id' stored stored' found found' within same
  rcases Map.insert_cases found with ⟨here,rfl⟩ | old
  · rcases Map.insert_cases found' with ⟨here',-⟩ | old'
    · exact here.symm.trans here'
    · exact here.symm.trans (clashes_false free old' within.symm same.symm).symm
  · rcases Map.insert_cases found' with ⟨here',rfl⟩ | old'
    · exact (clashes_false free old within same).trans here'
    · exact table.unique id id' stored stored' old old' within same

theorem erase_keyed {table : Table K} :
    ∀ (id : K) (stored : Row K),(table.rows.erase gone)[id]? = some stored → stored.id = id :=
  fun id stored found => table.keyed id stored (Map.erase_cases found)

theorem erase_unique {table : Table K} :
    ∀ (id id' : K) (row row' : Row K),(table.rows.erase gone)[id]? = some row → (table.rows.erase gone)[id']? = some row' →
      row.organization = row'.organization → row.name = row'.name → id = id' :=
  fun id id' row row' found found' =>
    table.unique id id' row row' (Map.erase_cases found) (Map.erase_cases found')

theorem empty_keyed : ∀ (id : K) (row : Row K),(∅ : Map K (Row K))[id]? = some row → row.id = id := by
  intro id row found
  simp at found

theorem empty_unique : ∀ (id id' : K) (row row' : Row K),(∅ : Map K (Row K))[id]? = some row →
    (∅ : Map K (Row K))[id']? = some row' → row.organization = row'.organization → row.name = row'.name → id = id' := by
  intro id id' row row' found
  simp at found

def empty : Table K := ⟨∅,empty_keyed,empty_unique⟩

def put (row : Row K) (table : Table K) (free : table.clashes row = false) : Table K :=
  ⟨table.rows.insert row.id row,put_keyed,put_unique free⟩

def drop (gone : K) (table : Table K) : Table K := ⟨table.rows.erase gone,erase_keyed,erase_unique⟩

-- `SELECT … WHERE organization_id=$1 AND id=$2`
def find (organization : OrganizationId) (id : K) (table : Table K) : Option (Row K) :=
  table.rows[id]?.filter fun row => row.organization == organization

-- `SELECT … WHERE organization_id=$1 AND name=$2`
def findByName (organization : OrganizationId) (name : Text) (table : Table K) : Option (Row K) :=
  table.rows.elements.find? fun row => row.organization == organization && row.name == name

-- `INSERT INTO …`
def add (operation : Text) (record : Row K) (table : Table K) : Result Unit × Table K :=
  let row := { record with externalId := nullIfEmpty record.externalId }
  if table.rows.holds row.id then (.error (uniqueViolation operation),table)
  else if free : table.clashes row = false then (.ok (),table.put row free)
  else (.error (uniqueViolation operation),table)

-- `UPDATE … SET name=$3,external_id=NULLIF($4,''),updated_at_ms=$5 WHERE organization_id=$1 AND id=$2`
def save (operation : Text) (record : Row K) (table : Table K) : Result Unit × Table K :=
  match table.find record.organization record.id with
  | none => (.error (.plain .notFound),table)
  | some stored =>
    let row := { stored with
      name := record.name
      externalId := nullIfEmpty record.externalId
      updatedAt := record.updatedAt }
    if free : table.clashes row = false then (.ok (),table.put row free)
    else (.error (uniqueViolation operation),table)

-- `DELETE … WHERE organization_id=$1 AND id=$2`
def remove (organization : OrganizationId) (id : K) (table : Table K) : Result Unit × Table K :=
  match table.find organization id with
  | none => (.error (.plain .notFound),table)
  | some _ => (.ok (),table.drop id)

theorem find_some {id : K} {table : Table K} (found : table.find organization id = some row) :
    table.rows[id]? = some row ∧ row.organization = organization ∧ row.id = id := by
  obtain ⟨stored,within⟩ := Option.filter_eq_some_iff.mp found
  exact ⟨stored,by simpa using within,table.keyed id row stored⟩

@[simp] theorem find_put (organization : OrganizationId) (id : K) (row : Row K) (table : Table K)
    (free : table.clashes row = false) : (table.put row free).find organization id =
      if row.id = id then (if row.organization = organization then some row else none) else table.find organization id := by
  unfold find put
  rw [Map.find_insert]
  split
  · by_cases here : row.organization = organization <;> simp [here]
  · rfl

theorem findByName_find {id : K} {table : Table K} (found : table.find organization id = some row) : table.findByName organization row.name = some row := by
  obtain ⟨stored,within,-⟩ := find_some found
  unfold findByName
  cases named : table.rows.elements.find? fun other => other.organization == organization && other.name == row.name with
  | none =>
    have apart := List.find?_eq_none.mp named row (Map.mem_elements.mpr ⟨id,stored⟩)
    simp [within] at apart
  | some other =>
    have alike := List.find?_some named
    simp only [Bool.and_eq_true,beq_iff_eq] at alike
    obtain ⟨key,there⟩ := Map.mem_elements.mp (List.mem_of_find?_eq_some named)
    obtain rfl := table.unique key id other row there stored (alike.1.trans within.symm) alike.2
    exact there.symm.trans stored

theorem clashes_own {id : K} {table : Table K} (found : table.find organization id = some row)
    (key : renamed.id = id) (within : renamed.organization = organization) (same : renamed.name = row.name) : table.clashes renamed = false := by
  obtain ⟨stored,belongs,-⟩ := find_some found
  apply List.any_eq_false.mpr
  rintro ⟨other,there⟩ inside
  have listed := ExtTreeMap.mem_toList_iff_getElem?_eq_some.mp inside
  simp only [Bool.and_eq_true,bne_iff_ne,beq_iff_eq,not_and,and_imp,key,within,same]
  intro apart here called
  exact apart (table.unique other id there row listed stored (here.trans belongs.symm) called)

theorem save_cases (operation : Text) (record : Row K) (table : Table K) :
    (∃ e,table.save operation record = (.error e,table)) ∨ ∃ stored free,
      table.find record.organization record.id = some stored ∧ table.save operation record = (.ok (),table.put
        { stored with
          name := record.name
          externalId := nullIfEmpty record.externalId
          updatedAt := record.updatedAt } free) := by
  unfold save
  cases found : table.find record.organization record.id with
  | none => exact .inl ⟨_,rfl⟩
  | some stored =>
    dsimp only
    split
    · rename_i free
      exact .inr ⟨stored,free,rfl,rfl⟩
    · exact .inl ⟨_,rfl⟩

end Table

end OpenProof.ScimDirectory
