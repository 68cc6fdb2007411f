import OpenProof.Audit
import OpenProof.HandoffTexts
import OpenProof.HashChains
import OpenProof.Netstrings

namespace OpenProof.AuditChains
open Foundation Audit HashChains GatewayWorld HandoffTexts
open InMemoryAuditRepository (verifyFrom)
open Netstrings (Counts parts)

def counted (length : Nat) : Text := decimal length

theorem counted_digits : counted length = digits length := decimal_nat length

theorem counted_counts : Counts counted (ch ':') where
  injective m n same := by
    rw [counted_digits,counted_digits] at same
    exact digits_injective same
  unmarked n inside := by
    rw [counted_digits] at inside
    have digit := List.all_eq_true.mp (digits_read n).2.1 _ inside
    exact absurd digit (by decide)

theorem part_counted : part value = Netstrings.part counted (ch ':') value := by
  simp [part,Netstrings.part,counted]

def recordParts (event : AuditEvent) (sequence : Nat) (previous : Option Sha256Digest) : List Text :=
  [decimal sequence,event.id,decimal event.occurredAt,event.correlation,event.organization.elim [] StrongId.value,
    event.identity.elim [] StrongId.value,event.category,event.action,event.outcome,
    previous.elim [] fun digest => toHex (digestBytes digest)] ++
  event.fields.toList.flatMap fun field => [field.1,field.2]

theorem canonical_parts (sequence : Nat) (previous : Option Sha256Digest) :
    canonical event sequence previous = parts counted (ch ':') (recordParts event sequence previous) := by
  have fields : ∀ fields : List (Text × Text),fields.flatMap (fun field => part field.1 ++ part field.2) =
      parts counted (ch ':') (fields.flatMap fun field => [field.1,field.2]) := by
    intro fields
    induction fields with
    | nil => rfl
    | cons field rest ih =>
      rw [List.flatMap_cons,List.flatMap_cons,ih]
      simp [parts,part_counted]
  unfold canonical recordParts
  rw [fields]
  simp [parts,part_counted,List.append_assoc]

-- Events that are told apart by nothing but an absent organization or identity and an empty one.
structure Alike (one two : AuditEvent) : Prop where
  id : one.id = two.id
  occurredAt : one.occurredAt = two.occurredAt
  correlation : one.correlation = two.correlation
  organization : one.organization.elim [] StrongId.value = two.organization.elim [] StrongId.value
  identity : one.identity.elim [] StrongId.value = two.identity.elim [] StrongId.value
  category : one.category = two.category
  action : one.action = two.action
  outcome : one.outcome = two.outcome
  fields : one.fields = two.fields

theorem hash_written {one two : Option Sha256Digest} (same : (one.elim [] fun digest => toHex (digestBytes digest)) =
    two.elim [] fun digest => toHex (digestBytes digest)) : one = two := by
  have written : ∀ digest : Sha256Digest,toHex (digestBytes digest) ≠ [] := by
    intro digest impossible
    have length := HandoffTexts.toHex_length (digestBytes digest)
    rw [impossible,digestBytes,List.length_map,List.length_range] at length
    cases length
  cases one with
  | none =>
    cases two with
    | none => rfl
    | some digest => exact absurd same.symm (written digest)
  | some digest =>
    cases two with
    | none => exact absurd same (written digest)
    | some other =>
      have read := congrArg AuthenticationHandoffs.parseHex same
      simp only [Option.elim_some,parseHex_toHex,Option.some.injEq] at read
      rw [← digestOf_digestBytes digest,read,digestOf_digestBytes]

theorem pairs_injective {one two : List (Text × Text)}
    (same : (one.flatMap fun field => [field.1,field.2]) = two.flatMap fun field => [field.1,field.2]) : one = two := by
  induction one generalizing two with
  | nil =>
    cases two with
    | nil => rfl
    | cons field rest => cases same
  | cons field rest ih =>
    cases two with
    | nil => cases same
    | cons field' rest' =>
      simp only [List.flatMap_cons,List.cons_append,List.nil_append,List.cons.injEq] at same
      obtain ⟨name,value,onward⟩ := same
      rw [ih onward,Prod.ext name value]

theorem canonical_alike {before before' : Option Sha256Digest} :
    canonical one m before = canonical two n before' ↔ m = n ∧ before = before' ∧ Alike one two := by
  constructor
  · intro same
    rw [canonical_parts,canonical_parts] at same
    have listed := Netstrings.parts_injective counted_counts same
    obtain ⟨fixed,pairs⟩ := List.append_inj listed rfl
    simp only [List.cons.injEq,and_true] at fixed
    obtain ⟨number,id,at_,correlation,organization,identity,category,action,outcome,hash⟩ := fixed
    refine ⟨Int.ofNat.inj (HandoffTexts.decimal_injective number),hash_written hash,id,
      HandoffTexts.decimal_injective at_,correlation,organization,identity,category,action,outcome,?_⟩
    exact Std.ExtTreeMap.toList_inj.mp (pairs_injective pairs)
  · rintro ⟨rfl,rfl,alike⟩
    unfold canonical
    rw [alike.id,alike.occurredAt,alike.correlation,alike.organization,alike.identity,alike.category,alike.action,
      alike.outcome,alike.fields]

section
variable {hmacSha256 : (key message : Text) → Result Sha256Digest} {key : Text}

def chain : Linkage AuditRecord Sha256Digest := ⟨AuditRecord.previousHash,AuditRecord.hash⟩

def encoded (record : AuditRecord) : Text := canonical record.event record.sequence record.previousHash

def Hashed (hmacSha256 : (key message : Text) → Result Sha256Digest) (key : Text) (record : AuditRecord) : Prop :=
  hmacSha256 key (encoded record) = .ok record.hash

theorem verifyFrom_chained :
    verifyFrom hmacSha256 key previous records = .ok () ↔ chain.Chained (Hashed hmacSha256 key) previous records := by
  induction records generalizing previous with
  | nil => simp [verifyFrom,Linkage.Chained]
  | cons record rest ih =>
    unfold verifyFrom Linkage.Chained
    by_cases named : record.previousHash = previous
    · have same : computeAuditRecordHash hmacSha256 record.event record.sequence previous key =
          hmacSha256 key (encoded record) := by rw [computeAuditRecordHash,encoded,named]
      rw [if_neg (not_not.mpr named),same,← ih]
      unfold Hashed
      cases hashed : hmacSha256 key (encoded record) with
      | error e => simp
      | ok expected =>
        by_cases matches_ : expected = record.hash
        · simp [matches_,named,chain]
        · simp [matches_,InMemoryAuditRepository.broken]
    · rw [if_pos named]
      simp [named,InMemoryAuditRepository.broken,chain]

theorem verify_chained {r : InMemoryAuditRepository} :
    r.verify hmacSha256 key = .ok () ↔ chain.Chained (Hashed hmacSha256 key) none r.records := verifyFrom_chained

-- What a repository holds that has only been appended to.
structure Intact (hmacSha256 : (key message : Text) → Result Sha256Digest) (key : Text) (r : InMemoryAuditRepository) :
    Prop where
  chained : chain.Chained (Hashed hmacSha256 key) none r.records
  numbered : r.records.map AuditRecord.sequence = List.range' 1 r.records.length

theorem append_intact (intact : Intact hmacSha256 key r) (event : AuditEvent) :
    Intact hmacSha256 key (r.append hmacSha256 key event).2 := by
  unfold InMemoryAuditRepository.append
  split
  · exact intact
  · dsimp only
    split
    · exact intact
    · rename_i hash hashed
      refine ⟨Linkage.chained_concat.mpr ⟨intact.chained,rfl,hashed⟩,?_⟩
      simp only [List.map_append,intact.numbered,List.map_cons,List.map_nil,List.length_append,List.length_singleton]
      rw [List.range'_concat,Nat.one_mul,Nat.add_comm 1]

def appendAll (hmacSha256 : (key message : Text) → Result Sha256Digest) (key : Text) (events : List AuditEvent) :
    InMemoryAuditRepository := events.foldl (fun r event => (r.append hmacSha256 key event).2) ⟨[]⟩

theorem appendAll_concat : appendAll hmacSha256 key (front ++ [event]) =
    ((appendAll hmacSha256 key front).append hmacSha256 key event).2 := List.foldl_append

theorem appendAll_intact (events : List AuditEvent) : Intact hmacSha256 key (appendAll hmacSha256 key events) := by
  induction events using List.reverseRecOn with
  | nil => exact ⟨trivial,rfl⟩
  | append_singleton front event ih =>
    rw [appendAll_concat]
    exact append_intact ih event

theorem append_new (total : ∀ message,∃ digest,hmacSha256 key message = .ok digest) {r : InMemoryAuditRepository}
    (new : ∀ record ∈ r.records,record.event.id ≠ event.id) :
    (r.append hmacSha256 key event).2.records.map AuditRecord.event = r.records.map AuditRecord.event ++ [event] := by
  have absent : ¬(r.records.any fun existing => existing.event.id = event.id) = true := by simpa using new
  unfold InMemoryAuditRepository.append
  rw [if_neg absent]
  dsimp only
  obtain ⟨digest,hashed⟩ := total (canonical event (r.records.length+1) (r.records.getLast?.map AuditRecord.hash))
  rw [computeAuditRecordHash,hashed]
  simp

theorem appendAll_events (total : ∀ message,∃ digest,hmacSha256 key message = .ok digest) {events : List AuditEvent}
    (distinct : (events.map AuditEvent.id).Nodup) :
    (appendAll hmacSha256 key events).records.map AuditRecord.event = events := by
  induction events using List.reverseRecOn with
  | nil => rfl
  | append_singleton front event ih =>
    rw [List.map_append,List.nodup_append] at distinct
    obtain ⟨earlier,-,apart⟩ := distinct
    have kept := ih earlier
    rw [appendAll_concat,append_new total,kept]
    intro record inside
    have among : record.event ∈ front := kept ▸ List.mem_map_of_mem inside
    exact apart _ (List.mem_map_of_mem among) _ List.mem_cons_self

structure SameRecord (one two : AuditRecord) : Prop where
  sequence : one.sequence = two.sequence
  event : Alike one.event two.event
  previousHash : one.previousHash = two.previousHash
  hash : one.hash = two.hash

def Apart (hmacSha256 : (key message : Text) → Result Sha256Digest) (key : Text) (one two : List AuditRecord) : Prop :=
  ∀ r ∈ one,∀ s ∈ two,hmacSha256 key (encoded r) = hmacSha256 key (encoded s) → encoded r = encoded s

theorem histories_alike {one two : InMemoryAuditRepository} (apart : Apart hmacSha256 key one.records two.records)
    (intact : one.verify hmacSha256 key = .ok ()) (intact' : two.verify hmacSha256 key = .ok ())
    (same : one.records.getLast?.map AuditRecord.hash = two.records.getLast?.map AuditRecord.hash) :
    List.Forall₂ SameRecord one.records two.records := by
  apply Linkage.like_histories (verify_chained.mp intact) (verify_chained.mp intact') _ _ same
  · exact fun r s like => like.previousHash
  · intro r inside s inside' hashed hashed' equal
    have both : hmacSha256 key (encoded r) = hmacSha256 key (encoded s) := by
      rw [hashed,hashed']
      exact congrArg Except.ok equal
    obtain ⟨sequence,previous,alike⟩ := canonical_alike.mp (apart r inside s inside' both)
    exact ⟨sequence,alike,previous,equal⟩

theorem audit_evident (hmacSha256 : (key message : Text) → Result Sha256Digest) (key : Text) :
    (∀ events,(appendAll hmacSha256 key events).verify hmacSha256 key = .ok () ∧
      (appendAll hmacSha256 key events).records.map AuditRecord.sequence =
        List.range' 1 (appendAll hmacSha256 key events).records.length ∧
      ((∀ message,∃ digest,hmacSha256 key message = .ok digest) → (events.map AuditEvent.id).Nodup →
        (appendAll hmacSha256 key events).records.map AuditRecord.event = events)) ∧
    (∀ (event other : AuditEvent) sequence number previous before,
      canonical event sequence previous = canonical other number before ↔
        sequence = number ∧ previous = before ∧ Alike event other) ∧
    ∀ one two : InMemoryAuditRepository,Apart hmacSha256 key one.records two.records →
      one.verify hmacSha256 key = .ok () → two.verify hmacSha256 key = .ok () →
        one.records.getLast?.map AuditRecord.hash = two.records.getLast?.map AuditRecord.hash →
          List.Forall₂ SameRecord one.records two.records := by
  refine ⟨?_,fun event other sequence number previous before => canonical_alike,?_⟩
  · intro events
    have intact : Intact hmacSha256 key (appendAll hmacSha256 key events) := appendAll_intact events
    exact ⟨verify_chained.mpr intact.chained,intact.numbered,fun total distinct => appendAll_events total distinct⟩
  · intro one two apart intact intact' same
    exact histories_alike apart intact intact' same

end

def demoHash (_key message : Text) : Result Sha256Digest :=
  .ok (BitVec.ofNat 256 (message.foldl (fun sum byte => 31*sum+byte.toNat) 0))

def demoEvent (id : Text) (organization : Option Identities.OrganizationId) : AuditEvent :=
  ⟨id,5,"c",organization,none,"session","sign-in","success",(∅ : AuditFields).insert "ip" "::1"⟩

def demoEvents (organization : Option Identities.OrganizationId) : List AuditEvent :=
  [demoEvent "one" organization,demoEvent "one" none,demoEvent "two" none]

-- Two that have the same last hash: an absent organization against an empty one, and one event turned down.
theorem audit_evident_pair : (appendAll demoHash "k" (demoEvents none)).records.length = 2 ∧
    List.Forall₂ SameRecord (appendAll demoHash "k" (demoEvents none)).records
      (appendAll demoHash "k" (demoEvents (some ⟨[]⟩))).records := by
  refine ⟨by decide,?_⟩
  obtain ⟨intact,-,histories⟩ := audit_evident demoHash "k"
  apply histories _ _ _ (intact _).1 (intact _).1
  · decide +kernel
  · unfold Apart
    decide +kernel

end OpenProof.AuditChains
