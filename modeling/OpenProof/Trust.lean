import OpenProof.EvidenceRecords
import OpenProof.SortedList
import OpenProof.WeightedMeans

namespace OpenProof.Trust
open EvidenceRecords
open Foundation Identities WeightedMeans

def validEvidenceKind (value : Text) : Bool := !value.isEmpty && value.length ≤ 128 && !value.any isControl

def hasControlCharacter (value : Text) : Bool := value.any isControl

def validEvidenceId (value : Text) : Bool := !value.isEmpty && value.length ≤ 256 && !hasControlCharacter value

structure TrustPolicy where
  weights : Map Text Nat
  bounded : ∀ (kind : Text) (weight : Nat),weights[kind]? = some weight → weight ≤ 100

namespace TrustPolicy

def empty : TrustPolicy := ⟨∅,fun kind weight found => by simp at found⟩

def setWeight (policy : TrustPolicy) (kind : Text) (weight : Nat) : Result Unit × TrustPolicy :=
  if refused : validEvidenceKind kind = false ∨ 100 < weight then (fail .invalidArgument "The trust weight is invalid.",policy)
  else (.ok (),⟨policy.weights.insert kind weight,by
    intro other found stored
    rcases Map.insert_cases stored with ⟨-,rfl⟩ | before
    · exact Nat.not_lt.mp fun high => refused (.inr high)
    · exact policy.bounded other found before⟩)

def weight (policy : TrustPolicy) (kind : Text) : Nat := policy.weights[kind]?.getD 0

theorem weight_le (policy : TrustPolicy) (kind : Text) : policy.weight kind ≤ 100 := by
  unfold weight
  cases stored : policy.weights[kind]? with
  | none => exact Nat.zero_le 100
  | some found => exact policy.bounded kind found stored

end TrustPolicy

def validSignal (kind : Text) (severity : Nat) (reason : Text) : Bool :=
  !(kind.isEmpty || kind.length > 128 || hasControlCharacter kind || severity > 100 || reason.isEmpty
    || reason.length > 1024 || hasControlCharacter reason)

structure RiskSignal where
  kind : Text
  severity : Nat
  reason : Text
  valid : validSignal kind severity reason = true
  deriving DecidableEq

namespace RiskSignal

def create (kind : Text) (severity : Nat) (reason : Text) : Result RiskSignal :=
  if valid : validSignal kind severity reason = true then .ok ⟨kind,severity,reason,valid⟩
  else fail .invalidArgument "The risk signal is invalid."

theorem severity_le (signal : RiskSignal) : signal.severity ≤ 100 := by
  have valid := signal.valid
  simp only [validSignal,Bool.not_eq_true',Bool.or_eq_false_iff,decide_eq_false_iff_not] at valid
  exact Nat.not_lt.mp valid.1.1.1.2

end RiskSignal

structure TrustAssessment where
  identity : IdentityId
  trustScore : Nat
  riskScore : Nat
  confidence : Nat
  evidenceIds : List Text
  risks : List RiskSignal
  deriving DecidableEq

def TrustAssessment.create (identity : IdentityId) (trustScore riskScore confidence : Nat) (evidenceIds : List Text)
    (risks : List RiskSignal) : Result TrustAssessment :=
  if identity.empty || trustScore > 100 || riskScore > 100 || confidence > 100 || !evidenceIds.all validEvidenceId then
    fail .invalidArgument "The trust assessment is invalid."
  else
    let sorted := evidenceIds.insertionSort (· ≤ ·)
    if adjacentEqual sorted then fail .conflict "The trust assessment contains duplicate evidence."
    else .ok ⟨identity,trustScore,riskScore,confidence,sorted,risks⟩

theorem TrustAssessment.create_ok {identity : IdentityId} {trustScore riskScore confidence : Nat} {evidenceIds : List Text}
    {risks : List RiskSignal} (named : identity.empty = false) (trust : trustScore ≤ 100) (risk : riskScore ≤ 100)
    (sure : confidence ≤ 100) (texts : ∀ id ∈ evidenceIds,validEvidenceId id = true) (distinct : evidenceIds.Nodup) :
    create identity trustScore riskScore confidence evidenceIds risks =
      .ok ⟨identity,trustScore,riskScore,confidence,evidenceIds.insertionSort (· ≤ ·),risks⟩ := by
  have apart : adjacentEqual (evidenceIds.insertionSort (· ≤ ·)) = false :=
    (adjacentEqual_sorted (List.pairwise_insertionSort _ _)).mpr ((List.perm_insertionSort _ _).nodup_iff.mpr distinct)
  have valid : evidenceIds.all validEvidenceId = true := List.all_eq_true.mpr texts
  simp [create,named,valid,apart,Nat.not_lt.mpr trust,Nat.not_lt.mpr risk,Nat.not_lt.mpr sure]

theorem TrustAssessment.create_scores {identity : IdentityId} {trustScore riskScore confidence : Nat}
    {evidenceIds : List Text} {risks : List RiskSignal}
    (made : create identity trustScore riskScore confidence evidenceIds risks = .ok value) :
    value.trustScore = trustScore ∧ value.confidence = confidence := by
  obtain ⟨-,made⟩ := passed made
  obtain ⟨-,made⟩ := passed made
  cases made
  exact ⟨rfl,rfl⟩

-- `std::uint64_t` and the cast to `unsigned int`.
def word (n : Nat) : Nat := n % 18446744073709551616
def narrow (n : Nat) : Nat := n % 4294967296

structure Tally where
  weightedConfidence : Nat
  totalWeight : Nat
  confidenceTotal : Nat
  evidenceCount : Nat
  evidenceIds : List Text

def Tally.count (policy : TrustPolicy) (now : Instant) (tally : Tally) (record : Evidence) : Tally :=
  if !record.activeAt now then tally
  else
    let evidenceWeight := policy.weight record.kind
    if evidenceWeight = 0 then tally
    else ⟨word (tally.weightedConfidence + word (evidenceWeight * record.confidence)),word (tally.totalWeight + evidenceWeight),
      word (tally.confidenceTotal + record.confidence),word (tally.evidenceCount + 1),tally.evidenceIds ++ [record.id.value]⟩

def greatestSeverity (risks : List RiskSignal) : Nat := risks.foldl (fun riskScore risk => max riskScore risk.severity) 0

-- `assess` from the records on, in whatever order the repository lists them.
def assessRecords (policy : TrustPolicy) (now : Instant) (identity : IdentityId) (records : List Evidence)
    (risks : List RiskSignal) : Result TrustAssessment :=
  let tally := records.foldl (Tally.count policy now) ⟨0,0,0,0,[]⟩
  let trustScore := if tally.totalWeight = 0 then 0 else narrow (tally.weightedConfidence / tally.totalWeight)
  let confidence := if tally.evidenceCount = 0 then 0 else narrow (tally.confidenceTotal / tally.evidenceCount)
  let riskScore := greatestSeverity risks
  TrustAssessment.create identity (if trustScore > riskScore then trustScore - riskScore else 0) riskScore confidence
    tally.evidenceIds risks

def assess (store : EvidenceRepository) (policy : TrustPolicy) (now : Instant) (identity : IdentityId)
    (risks : List RiskSignal) : Result TrustAssessment :=
  if identity.empty then .error (.plain .invalidArgument)
  else match store.forIdentity identity with
    | .error e => .error e
    | .ok records => assessRecords policy now identity records risks

def counted (policy : TrustPolicy) (now : Instant) (records : List Evidence) : List Evidence :=
  records.filter fun record => record.activeAt now && policy.weight record.kind ≠ 0

def weightedConfidence (policy : TrustPolicy) (records : List Evidence) : Nat :=
  total (fun record => policy.weight record.kind * record.confidence) records
def totalWeight (policy : TrustPolicy) (records : List Evidence) : Nat :=
  total (fun record => policy.weight record.kind) records
def confidenceTotal (records : List Evidence) : Nat := total Evidence.confidence records

section
variable {policy : TrustPolicy} {now : Instant} {identity : IdentityId} {records : List Evidence} {risks : List RiskSignal}

variable (policy records) in
theorem weightedConfidence_le : weightedConfidence policy records ≤ 100 * totalWeight policy records :=
  total_le fun record _ => by
    rw [Nat.mul_comm]
    exact Nat.mul_le_mul_right _ record.confidence_le

variable (policy records) in
theorem totalWeight_le : totalWeight policy records ≤ 100 * records.length :=
  total_le_length fun record _ => policy.weight_le record.kind

variable (records) in
theorem confidenceTotal_le : confidenceTotal records ≤ 100 * records.length :=
  total_le_length fun record _ => record.confidence_le

variable (policy) in
theorem sums_fit (few : records.length < 281474976710656) :
    weightedConfidence policy records < 18446744073709551616 ∧ totalWeight policy records < 18446744073709551616 ∧
      confidenceTotal records < 18446744073709551616 := by
  have first := weightedConfidence_le policy records
  have second := totalWeight_le policy records
  have third := confidenceTotal_le records
  omega

theorem word_small (small : n < 18446744073709551616) : word n = n := Nat.mod_eq_of_lt small

theorem word_add : word (word a + b) = word (a + b) := Nat.mod_add_mod _ _ _

theorem add_word : word (a + word b) = word (a + b) := Nat.add_mod_mod _ _ _

variable (policy now records) in
theorem tallied (a b c d : Nat) (ids : List Text) :
    records.foldl (Tally.count policy now) ⟨word a,word b,word c,word d,ids⟩ =
      ⟨word (a + weightedConfidence policy (counted policy now records)),word (b + totalWeight policy (counted policy now records)),
        word (c + confidenceTotal (counted policy now records)),word (d + (counted policy now records).length),
        ids ++ (counted policy now records).map fun record => record.id.value⟩ := by
  induction records generalizing a b c d ids with
  | nil => simp [counted,weightedConfidence,totalWeight,confidenceTotal]
  | cons record rest ih =>
    rw [List.foldl_cons,counted,List.filter_cons]
    by_cases weighed : record.activeAt now = true ∧ policy.weight record.kind ≠ 0
    · have one : Tally.count policy now ⟨word a,word b,word c,word d,ids⟩ record =
          ⟨word (a + policy.weight record.kind * record.confidence),word (b + policy.weight record.kind),
            word (c + record.confidence),word (d + 1),ids ++ [record.id.value]⟩ := by
        simp [Tally.count,weighed.1,weighed.2,word_add,add_word]
      rw [one,ih]
      simp [weighed.1,weighed.2,weightedConfidence,totalWeight,confidenceTotal,counted,Nat.add_assoc,Nat.add_comm 1]
    · have one : Tally.count policy now ⟨word a,word b,word c,word d,ids⟩ record = ⟨word a,word b,word c,word d,ids⟩ := by
        unfold Tally.count
        by_cases active : record.activeAt now = true
        · simp [active,not_not.mp fun heavy => weighed ⟨active,heavy⟩]
        · simp [active]
      rw [one,ih]
      have passed : (record.activeAt now && decide (policy.weight record.kind ≠ 0)) = false := by
        simpa using fun active => not_not.mp fun heavy => weighed ⟨active,heavy⟩
      rw [passed]
      rfl

theorem greatestSeverity_le : greatestSeverity risks ≤ 100 := by
  have onward : ∀ start ≤ 100,risks.foldl (fun riskScore risk => max riskScore risk.severity) start ≤ 100 := by
    induction risks with
    | nil => exact fun start low => low
    | cons risk rest ih => exact fun start low => ih _ (Nat.max_le.mpr ⟨low,risk.severity_le⟩)
  exact onward 0 (Nat.zero_le 100)

def trustMean (policy : TrustPolicy) (records : List Evidence) : Nat :=
  mean (weightedConfidence policy records) (totalWeight policy records)
def confidenceMean (records : List Evidence) : Nat := mean (confidenceTotal records) records.length

variable (policy records) in
theorem trustMean_le : trustMean policy records ≤ 100 := mean_le (weightedConfidence_le policy records)

variable (records) in
theorem confidenceMean_le : confidenceMean records ≤ 100 := mean_le (confidenceTotal_le records)

theorem narrow_div (low : mean sum weight ≤ 100) :
    (if weight = 0 then 0 else narrow (sum / weight)) = mean sum weight := by
  unfold mean at low ⊢
  split
  · rfl
  · rename_i some
    rw [if_neg some] at low
    exact Nat.mod_eq_of_lt (by omega)

theorem assessRecords_create (few : records.length < 281474976710656) :
    assessRecords policy now identity records risks =
      TrustAssessment.create identity (trustMean policy (counted policy now records) - greatestSeverity risks)
        (greatestSeverity risks) (confidenceMean (counted policy now records))
        ((counted policy now records).map fun record => record.id.value) risks := by
  have fewer : (counted policy now records).length < 281474976710656 := (List.length_filter_le _ records).trans_lt few
  obtain ⟨first,second,third⟩ := sums_fit policy fewer
  have start := tallied policy now records 0 0 0 0 []
  simp only [show word 0 = 0 from rfl,Nat.zero_add,List.nil_append,word_small first,word_small second,word_small third,
    word_small (show (counted policy now records).length < 18446744073709551616 by omega)] at start
  unfold assessRecords
  rw [start]
  simp only [narrow_div (trustMean_le policy (counted policy now records)),narrow_div (confidenceMean_le (counted policy now records))]
  congr 1
  split
  · rfl
  · rename_i low
    exact (Nat.sub_eq_zero_of_le (Nat.not_lt.mp low)).symm

end

end OpenProof.Trust
