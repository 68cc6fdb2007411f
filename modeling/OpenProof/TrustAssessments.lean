import Mathlib.Order.Bounds.Basic
import OpenProof.Trust

namespace OpenProof.TrustAssessments
open EvidenceRecords EvidenceRecords.EvidenceRepository List
open Foundation Identities
open Trust WeightedMeans

section
variable (store : EvidenceRepository) (policy : TrustPolicy) (now : Instant) (identity : IdentityId)

def weighed : List Evidence :=
  store.records.filter fun record => record.identity = identity ∧ record.status = .verified ∧
    (∀ expiry ∈ record.expiresAt,now < expiry) ∧ policy.weight record.kind ≠ 0

def listed : List Evidence := store.records.filter fun record => record.identity = identity

theorem weighed_counted : weighed store policy now identity = counted policy now (listed store identity) := by
  unfold weighed counted listed
  rw [filter_filter]
  apply filter_congr
  intro record _
  cases expiry : record.expiresAt <;>
    simp [Evidence.activeAt,expiry,Bool.and_comm,Bool.and_left_comm,Bool.and_assoc]

theorem listed_ids : ((listed store identity).map Evidence.id).Nodup :=
  store.ids_nodup.sublist (filter_sublist.map Evidence.id)

end

section
variable {policy : TrustPolicy} {now : Instant} {identity : IdentityId} {records : List Evidence} {risks : List RiskSignal}

theorem texts_nodup (distinct : (records.map Evidence.id).Nodup) : (records.map fun record => record.id.value).Nodup := by
  have apart : ((records.map Evidence.id).map fun id => id.value).Nodup := by
    apply distinct.map
    rintro ⟨one⟩ ⟨two⟩ same
    exact congrArg StrongId.mk same
  rwa [map_map] at apart

theorem assessRecords_ok (named : identity.empty = false) (few : records.length < 281474976710656)
    (distinct : (records.map Evidence.id).Nodup) (texts : ∀ record ∈ records,validEvidenceId record.id.value = true) :
    assessRecords policy now identity records risks =
      .ok ⟨identity,trustMean policy (counted policy now records) - greatestSeverity risks,greatestSeverity risks,
        confidenceMean (counted policy now records),
        ((counted policy now records).map fun record => record.id.value).insertionSort (· ≤ ·),risks⟩ := by
  have chosen : (counted policy now records).Sublist records := filter_sublist
  rw [assessRecords_create few]
  apply TrustAssessment.create_ok named
  · exact (Nat.sub_le _ _).trans (trustMean_le policy _)
  · exact greatestSeverity_le
  · exact confidenceMean_le _
  · intro text inside
    obtain ⟨record,member,rfl⟩ := mem_map.mp inside
    exact texts record (chosen.subset member)
  · exact texts_nodup (distinct.sublist (chosen.map Evidence.id))

theorem assessRecords_perm (same : others.Perm records) (named : identity.empty = false)
    (few : records.length < 281474976710656) (distinct : (records.map Evidence.id).Nodup)
    (texts : ∀ record ∈ records,validEvidenceId record.id.value = true) :
    assessRecords policy now identity others risks = assessRecords policy now identity records risks := by
  have chosen : (counted policy now others).Perm (counted policy now records) := same.filter _
  have ids : ((counted policy now others).map fun record => record.id.value).insertionSort (· ≤ ·) =
      ((counted policy now records).map fun record => record.id.value).insertionSort (· ≤ ·) :=
    (perm_insertionSort _ _).trans ((chosen.map _).trans (perm_insertionSort _ _).symm) |>.eq_of_pairwise'
      (pairwise_insertionSort _ _) (pairwise_insertionSort _ _)
  rw [assessRecords_ok named few distinct texts,
    assessRecords_ok named (same.length_eq ▸ few) ((same.map Evidence.id).nodup_iff.mpr distinct) fun record inside =>
      texts record (same.subset inside),ids]
  simp only [trustMean,confidenceMean,weightedConfidence,totalWeight,confidenceTotal,total_perm chosen,chosen.length_eq]

theorem greatestSeverity_cons : greatestSeverity (risk :: risks) = max risk.severity (greatestSeverity risks) := by
  have onward : ∀ one two,risks.foldl (fun riskScore risk => max riskScore risk.severity) (max one two) =
      max one (risks.foldl (fun riskScore risk => max riskScore risk.severity) two) := by
    induction risks with
    | nil => exact fun one two => rfl
    | cons next rest ih =>
      intro one two
      rw [foldl_cons,foldl_cons,Nat.max_assoc,ih]
  unfold greatestSeverity
  rw [foldl_cons,Nat.max_comm,onward]

theorem greatestSeverity_perm (same : others.Perm risks) : greatestSeverity others = greatestSeverity risks := by
  induction same with
  | nil => rfl
  | cons risk _ ih => rw [greatestSeverity_cons,greatestSeverity_cons,ih]
  | swap one two rest => simp only [greatestSeverity_cons,Nat.max_left_comm]
  | trans _ _ left right => exact left.trans right

theorem greatestSeverity_greatest : IsGreatest {n | n = 0 ∨ ∃ risk ∈ risks,risk.severity = n} (greatestSeverity risks) := by
  induction risks with
  | nil =>
    constructor
    · exact .inl rfl
    · rintro n (rfl | ⟨risk,inside,-⟩)
      · exact Nat.le_refl 0
      · cases inside
  | cons risk rest ih =>
    obtain ⟨reached,bound⟩ := ih
    rw [greatestSeverity_cons]
    constructor
    · rcases Nat.le_total risk.severity (greatestSeverity rest) with low | high
      · rw [Nat.max_eq_right low]
        exact reached.imp_right fun ⟨other,inside,same⟩ => ⟨other,mem_cons_of_mem _ inside,same⟩
      · rw [Nat.max_eq_left high]
        exact .inr ⟨risk,mem_cons_self,rfl⟩
    · rintro n (rfl | ⟨other,inside,rfl⟩)
      · exact Nat.zero_le _
      · rcases mem_cons.mp inside with rfl | later
        · exact Nat.le_max_left _ _
        · exact (bound (.inr ⟨other,later,rfl⟩)).trans (Nat.le_max_right _ _)

end

-- The outcome is the formula whatever order records and risks come in, except that the assessment
-- lists the risks as they were given.
theorem trust_assessed (calls : List RepositoryCall) (policy : TrustPolicy) (now : Instant) (identity : IdentityId)
    (risks : List RiskSignal) (named : identity.empty = false)
    (texts : ∀ record ∈ (run calls).records,validEvidenceId record.id.value = true)
    (few : (run calls).records.length < 281474976710656) :
    ∃ value,assess (run calls) policy now identity risks = .ok value ∧
      (value.trustScore = mean (weightedConfidence policy (weighed (run calls) policy now identity))
          (totalWeight policy (weighed (run calls) policy now identity)) - value.riskScore ∧
        IsGreatest {n | n = 0 ∨ ∃ risk ∈ risks,risk.severity = n} value.riskScore ∧
        value.confidence = mean (confidenceTotal (weighed (run calls) policy now identity))
          (weighed (run calls) policy now identity).length) ∧
      (value.trustScore ≤ 100 ∧ value.riskScore ≤ 100 ∧ value.confidence ≤ 100) ∧
      (weightedConfidence policy (weighed (run calls) policy now identity) < 18446744073709551616 ∧
        totalWeight policy (weighed (run calls) policy now identity) < 18446744073709551616 ∧
        confidenceTotal (weighed (run calls) policy now identity) < 18446744073709551616) ∧
      (∀ others,others.Perm ((run calls).records.filter fun record => record.identity = identity) →
        assessRecords policy now identity others risks = .ok value) ∧
      (∀ others,others.Perm risks → assess (run calls) policy now identity others = .ok { value with risks := others }) ∧
      ∀ signal longer,longer.Perm (signal :: risks) →
        ∃ worse,assess (run calls) policy now identity longer = .ok worse ∧ worse.trustScore ≤ value.trustScore := by
  generalize run calls = store at texts few ⊢
  have part : (listed store identity).Sublist store.records := List.filter_sublist
  have fewer : (listed store identity).length < 281474976710656 := part.length_le.trans_lt few
  have valid : ∀ record ∈ listed store identity,validEvidenceId record.id.value = true := fun record inside =>
    texts record (part.subset inside)
  have whole : ∀ given,assess store policy now identity given = assessRecords policy now identity (listed store identity) given := by
    intro given
    simp only [assess,named,EvidenceRepository.forIdentity,listed,EvidenceRepository.records,Bool.false_eq_true,if_false]
  have outcome : ∀ given,assess store policy now identity given = .ok _ := fun given =>
    (whole given).trans (assessRecords_ok named fewer (listed_ids store identity) valid)
  have evidence : (weighed store policy now identity).length < 281474976710656 := by
    rw [weighed_counted]
    exact (List.length_filter_le _ _).trans_lt fewer
  refine ⟨_,outcome risks,⟨?_,greatestSeverity_greatest,?_⟩,⟨?_,greatestSeverity_le,?_⟩,sums_fit policy evidence,?_,?_,?_⟩
  · rw [weighed_counted]
    rfl
  · rw [weighed_counted]
    rfl
  · exact (Nat.sub_le _ _).trans (trustMean_le policy _)
  · exact confidenceMean_le _
  · intro others same
    exact (assessRecords_perm same named fewer (listed_ids store identity) valid).trans ((whole risks).symm.trans (outcome risks))
  · intro others same
    rw [outcome,greatestSeverity_perm same]
  · intro signal longer same
    refine ⟨_,outcome longer,?_⟩
    rw [greatestSeverity_perm same,greatestSeverity_cons]
    exact Nat.sub_le_sub_left (Nat.le_max_right _ _) _

def ann : IdentityId := ⟨"ann"⟩

def passport : Evidence := ⟨⟨"e1"⟩,ann,⟨"registry"⟩,"document","passport","valid",90,.verified,10,some 500,by decide⟩
def address : Evidence := ⟨⟨"e2"⟩,ann,⟨"registry"⟩,"utility","address","valid",60,.verified,10,none,by decide⟩

def device : RiskSignal := ⟨"device",20,"A new device.",by decide⟩
def travel : RiskSignal := ⟨"travel",35,"An unlikely journey.",by decide⟩

def weights : TrustPolicy := ((TrustPolicy.empty.setWeight "document" 50).2.setWeight "utility" 25).2

theorem trust_assessed_two_records :
    ∃ value,assess (run [.addBatch [passport,address],.revoke ⟨"e2"⟩]) weights 20 ann [device] = .ok value ∧
      value.trustScore = mean (weightedConfidence weights (weighed (run [.addBatch [passport,address],.revoke ⟨"e2"⟩]) weights 20 ann))
        (totalWeight weights (weighed (run [.addBatch [passport,address],.revoke ⟨"e2"⟩]) weights 20 ann)) - value.riskScore := by
  obtain ⟨value,done,scores,-⟩ := trust_assessed [.addBatch [passport,address],.revoke ⟨"e2"⟩] weights 20 ann [device] (by decide)
    (by decide) (by decide)
  exact ⟨value,done,scores.1⟩

-- The assessment shows in which order the risks came.
theorem risks_listed_in_order : [device,travel].Perm [travel,device] ∧
    assess (run []) weights 20 ann [device,travel] ≠ assess (run []) weights 20 ann [travel,device] := by
  constructor
  · exact .swap travel device []
  · decide

end OpenProof.TrustAssessments
