import OpenProof.AuthenticationTransactions

namespace OpenProof.EvidenceRecords
open AuthenticationTransactions List
open Foundation Identities KeyedTables

structure EvidenceIdTag
abbrev EvidenceId := StrongId EvidenceIdTag

inductive EvidenceStatus where
  | verified
  | revoked
  deriving DecidableEq

def validText (value : Text) (maximum : Nat) : Bool :=
  !value.isEmpty && value.length ≤ maximum && !value.any isControl

def validEvidence (id : EvidenceId) (identity : IdentityId) (provider : ProviderId) (kind claim value : Text)
    (confidence : Nat) (verifiedAt : Instant) (expiresAt : Option Instant) : Bool :=
  !id.empty && !identity.empty && !provider.empty && validText kind 128 && validText claim 128
    && validText value 4096 && confidence ≤ 100 && expiresAt.all fun expiry => verifiedAt < expiry

-- Only `restore` makes one, so every record in the program has passed its check.
structure Evidence where
  id : EvidenceId
  identity : IdentityId
  provider : ProviderId
  kind : Text
  claim : Text
  value : Text
  confidence : Nat
  status : EvidenceStatus
  verifiedAt : Instant
  expiresAt : Option Instant
  valid : validEvidence id identity provider kind claim value confidence verifiedAt expiresAt = true
  deriving DecidableEq

namespace Evidence

def restore (id : EvidenceId) (identity : IdentityId) (provider : ProviderId) (kind claim value : Text)
    (confidence : Nat) (status : EvidenceStatus) (verifiedAt : Instant) (expiresAt : Option Instant) : Result Evidence :=
  if valid : validEvidence id identity provider kind claim value confidence verifiedAt expiresAt = true then
    .ok ⟨id,identity,provider,kind,claim,value,confidence,status,verifiedAt,expiresAt,valid⟩
  else fail .invalidArgument "The verified evidence is invalid."

def create (id : EvidenceId) (identity : IdentityId) (provider : ProviderId) (kind claim value : Text)
    (confidence : Nat) (verifiedAt : Instant) (expiresAt : Option Instant) : Result Evidence :=
  restore id identity provider kind claim value confidence .verified verifiedAt expiresAt

def activeAt (evidence : Evidence) (now : Instant) : Bool :=
  evidence.status = .verified && evidence.expiresAt.all fun expiry => now < expiry

def revoke (evidence : Evidence) : Evidence := { evidence with status := .revoked }

theorem confidence_le (evidence : Evidence) : evidence.confidence ≤ 100 := by
  have valid := evidence.valid
  simp only [validEvidence,Bool.and_eq_true,decide_eq_true_eq] at valid
  exact valid.1.2

end Evidence

-- `InMemoryEvidenceRepository`; each method holds the mutex for its whole body.
structure EvidenceRepository where
  evidence : Map EvidenceId Evidence
  keyed : ∀ (key : EvidenceId) (row : Evidence),evidence[key]? = some row → row.id = key

namespace EvidenceRepository

def empty : EvidenceRepository := ⟨∅,fun key row found => by simp at found⟩

theorem emplace_keyed (store : EvidenceRepository) (item : Evidence) : ∀ (key : EvidenceId) (row : Evidence),
    (store.evidence.insert item.id item)[key]? = some row → row.id = key := Map.insert_keyed store.keyed item

-- `emplace` leaves a key alone that is taken.
def emplace (store : EvidenceRepository) (item : Evidence) : EvidenceRepository :=
  if store.evidence.holds item.id then store
  else ⟨store.evidence.insert item.id item,emplace_keyed store item⟩

def addBatch (store : EvidenceRepository) (items : List Evidence) : Result Unit × EvidenceRepository :=
  if items.any fun item => store.evidence.holds item.id then (fail .alreadyExists "The evidence already exists.",store)
  else (.ok (),items.foldl emplace store)

def revoke (store : EvidenceRepository) (id : EvidenceId) : Result Unit × EvidenceRepository :=
  match found : store.evidence[id]? with
  | none => (.error (.plain .notFound),store)
  | some item => (.ok (),⟨store.evidence.insert id item.revoke,by
      intro key row stored
      rcases Map.insert_cases stored with ⟨rfl,rfl⟩ | before
      · exact store.keyed id item found
      · exact store.keyed key row before⟩)

def find (store : EvidenceRepository) (id : EvidenceId) : Option Evidence := store.evidence[id]?

def forIdentity (store : EvidenceRepository) (identity : IdentityId) : Result (List Evidence) :=
  .ok (store.evidence.elements.filter fun item => item.identity = identity)

def records (store : EvidenceRepository) : List Evidence := store.evidence.elements

theorem ids_nodup (store : EvidenceRepository) : (store.records.map Evidence.id).Nodup := by
  unfold records Map.elements
  rw [map_map]
  have apart := Std.ExtTreeMap.nodup_keys (t:=store.evidence)
  rw [← Std.ExtTreeMap.map_fst_toList_eq_keys] at apart
  have same : store.evidence.toList.map (Evidence.id ∘ Prod.snd) = store.evidence.toList.map Prod.fst := by
    apply map_congr_left
    rintro ⟨key,row⟩ listed
    exact store.keyed key row (Std.ExtTreeMap.mem_toList_iff_getElem?_eq_some.mp listed)
  rwa [same]

-- A batch as `emplace` takes it: of several items with one id the first.
def firsts : List Evidence → List Evidence
  | [] => []
  | item :: rest => item :: (firsts rest).filter fun later => later.id ≠ item.id

theorem firsts_sublist : (firsts items).Sublist items := by
  induction items with
  | nil => exact .slnil
  | cons item rest ih => exact .cons_cons item (filter_sublist.trans ih)

theorem firsts_nodup (distinct : (items.map Evidence.id).Nodup) : firsts items = items := by
  induction items with
  | nil => rfl
  | cons item rest ih =>
    rw [map_cons,nodup_cons] at distinct
    rw [firsts,ih distinct.2]
    congr 1
    rw [filter_eq_self]
    intro later inside
    simp only [ne_eq,decide_not,Bool.not_eq_true',decide_eq_false_iff_not]
    exact fun same => distinct.1 (same ▸ mem_map_of_mem inside)

theorem emplace_records {store : EvidenceRepository} :
    (store.emplace item).records.Perm (if store.evidence.holds item.id then store.records else item :: store.records) := by
  unfold emplace
  split
  · rfl
  · rename_i free
    simp only [Map.holds,Bool.not_eq_true,Option.isSome_eq_false_iff,Option.isNone_iff_eq_none] at free
    exact (toList_insert_free free).map Prod.snd

theorem emplace_holds {store : EvidenceRepository} {id : EvidenceId} :
    (store.emplace item).evidence.holds id = (store.evidence.holds id || item.id = id) := by
  unfold emplace
  split
  · rename_i taken
    by_cases same : item.id = id
    · rw [← same,taken]
      rfl
    · simp [same]
  · simp only [Map.holds,Map.find_insert]
    by_cases same : item.id = id <;> simp [same]

theorem emplaced_records {items : List Evidence} : (items.foldl emplace store).records.Perm
      (store.records ++ (firsts items).filter fun item => !store.evidence.holds item.id) := by
  induction items generalizing store with
  | nil => simp [firsts]
  | cons item rest ih =>
    rw [foldl_cons,firsts,filter_cons,filter_filter]
    refine ih.trans ?_
    have later : (firsts rest).filter (fun later => !(store.emplace item).evidence.holds later.id) =
        (firsts rest).filter fun later => !store.evidence.holds later.id && decide (later.id ≠ item.id) := by
      apply filter_congr
      intro later _
      rw [emplace_holds,Bool.not_or]
      simp [eq_comm]
    rw [later]
    refine (emplace_records.append_right _).trans ?_
    cases taken : store.evidence.holds item.id with
    | true => exact .refl _
    | false => exact perm_middle.symm

theorem addBatch_records {items : List Evidence} {store later : EvidenceRepository}
    (done : store.addBatch items = (.ok (),later)) : later.records.Perm (store.records ++ firsts items) := by
  unfold addBatch at done
  split at done
  · cases done
  · rename_i fresh
    cases done
    refine emplaced_records.trans ?_
    rw [filter_eq_self.mpr]
    intro item inside
    rw [Bool.not_eq_true,any_eq_false] at fresh
    simpa using fresh item (firsts_sublist.subset inside)

inductive RepositoryCall where
  | addBatch (items : List Evidence)
  | revoke (id : EvidenceId)

def step (store : EvidenceRepository) : RepositoryCall → EvidenceRepository
  | .addBatch items => (store.addBatch items).2
  | .revoke id => (store.revoke id).2

def run (calls : List RepositoryCall) : EvidenceRepository := calls.foldl step empty

end EvidenceRepository

-- A verifier's answer to one request; where it keeps state, every call may see another one.
abbrev EvidenceVerifier := IdentityId → AttributeMap → AttributeMap → Instant → Result (List Evidence)

def verify (verifiers : Map ProviderId EvidenceVerifier) (now : Instant) (identity : IdentityId) (provider : ProviderId)
    (publicInputs secretInputs : AttributeMap) (store : EvidenceRepository) : Result (List Evidence) × EvidenceRepository :=
  if identity.empty || provider.empty then (.error (.plain .invalidArgument),store)
  else match verifiers[provider]? with
    | none => (fail .notFound "The evidence verifier is unavailable.",store)
    | some verifier => match verifier identity publicInputs secretInputs now with
      | .error e => (.error e,store)
      | .ok verified =>
        if verified.isEmpty then (fail .failedPrecondition "The verifier produced no evidence.",store)
        else if verified.any fun item => item.identity ≠ identity || item.provider ≠ provider then
          (fail .permissionDenied "The verifier returned evidence outside its authority.",store)
        else match store.addBatch verified with
          | (.error e,store) => (.error e,store)
          | (.ok (),store) => (.ok verified,store)

theorem verify_stores
    (done : verify verifiers now identity provider publicInputs secretInputs store = (.ok proof,later)) :
    identity.empty = false ∧ (∀ item ∈ proof,item.identity = identity ∧ item.provider = provider) ∧
      store.addBatch proof = (.ok (),later) := by
  unfold verify at done
  split at done
  · cases done
  rename_i named
  split at done
  · cases done
  split at done
  · cases done
  split at done
  · cases done
  split at done
  · cases done
  rename_i entitled
  split at done
  · cases done
  · rename_i stored
    cases done
    refine ⟨by simpa using (Bool.or_eq_false_iff.mp (Bool.not_eq_true _ ▸ named)).1,?_,stored⟩
    intro item inside
    simp only [any_eq_true,not_exists,not_and,Bool.or_eq_true,decide_eq_true_eq,not_or,ne_eq,not_not] at entitled
    exact entitled item inside

end OpenProof.EvidenceRecords
