import OpenProof.TrustAssessments

namespace OpenProof.RepeatedProofs
open AuthenticationTransactions EvidenceRecords EvidenceRecords.EvidenceRepository List
open Foundation Identities
open Trust TrustAssessments WeightedMeans

-- The same statement about the same identity by the same provider, under another id and at another time.
structure Repeats (first copy : Evidence) : Prop where
  identity : copy.identity = first.identity
  provider : copy.provider = first.provider
  kind : copy.kind = first.kind
  claim : copy.claim = first.claim
  value : copy.value = first.value
  confidence : copy.confidence = first.confidence

-- Batches stored one after another, each accepted.
inductive Stores : EvidenceRepository → List (List Evidence) → EvidenceRepository → Prop where
  | none {store : EvidenceRepository} : Stores store [] store
  | batch {store middle later : EvidenceRepository} {copy : List Evidence} {copies : List (List Evidence)}
      (done : store.addBatch copy = (.ok (),middle)) (rest : Stores middle copies later) : Stores store (copy :: copies) later

theorem Stores.records {store later : EvidenceRepository} {copies : List (List Evidence)} (stored : Stores store copies later) :
    later.records.Perm (store.records ++ copies.flatMap firsts) := by
  induction stored with
  | none => simp
  | batch done rest ih =>
    rw [flatMap_cons,← append_assoc]
    exact ih.trans ((addBatch_records done).append_right _)

section
variable {policy : TrustPolicy} {now : Instant} {identity : IdentityId} {one two : List Evidence}

variable (policy one two) in
theorem sums_append : weightedConfidence policy (one ++ two) = weightedConfidence policy one + weightedConfidence policy two ∧
    totalWeight policy (one ++ two) = totalWeight policy one + totalWeight policy two ∧
    confidenceTotal (one ++ two) = confidenceTotal one + confidenceTotal two := ⟨total_append,total_append,total_append⟩

variable (policy) in
theorem sums_perm (same : one.Perm two) : weightedConfidence policy one = weightedConfidence policy two ∧
    totalWeight policy one = totalWeight policy two ∧ confidenceTotal one = confidenceTotal two ∧ one.length = two.length :=
  ⟨total_perm same,total_perm same,total_perm same,same.length_eq⟩

variable (policy) in
theorem sums_repeated (alike : List.Forall₂ Repeats one two) (active : ∀ item ∈ one,item.activeAt now = true)
    (also : ∀ item ∈ two,item.activeAt now = true) :
    weightedConfidence policy (counted policy now two) = weightedConfidence policy (counted policy now one) ∧
      totalWeight policy (counted policy now two) = totalWeight policy (counted policy now one) ∧
      confidenceTotal (counted policy now two) = confidenceTotal (counted policy now one) ∧
      (counted policy now two).length = (counted policy now one).length := by
  induction alike with
  | nil => exact ⟨rfl,rfl,rfl,rfl⟩
  | @cons first copy firsts copies same _ ih =>
    obtain ⟨wc,tw,ct,n⟩ := ih (fun item inside => active item (List.mem_cons_of_mem _ inside)) fun item inside =>
      also item (List.mem_cons_of_mem _ inside)
    have here := active first List.mem_cons_self
    have there := also copy List.mem_cons_self
    simp only [weightedConfidence,totalWeight,confidenceTotal,counted] at wc tw ct n ⊢
    rw [List.filter_cons,List.filter_cons,here,there,same.kind]
    by_cases heavy : policy.weight first.kind = 0
    · simp only [heavy,ne_eq,not_true_eq_false,decide_false,Bool.and_false,Bool.false_eq_true,if_false]
      exact ⟨wc,tw,ct,n⟩
    · simp only [heavy,ne_eq,not_false_eq_true,decide_true,Bool.and_self,if_true,total_cons,same.kind,same.confidence,
        List.length_cons,wc,tw,ct,n]
      exact ⟨trivial,trivial,trivial,trivial⟩

variable (policy now one two) in
theorem counted_append : counted policy now (one ++ two) = counted policy now one ++ counted policy now two := List.filter_append ..

theorem sums_copies {proof : List Evidence} {copies : List (List Evidence)} (active : ∀ item ∈ proof,item.activeAt now = true)
    (alike : ∀ copy ∈ copies,List.Forall₂ Repeats proof copy)
    (whole : ∀ copy ∈ copies,(copy.map Evidence.id).Nodup ∧ ∀ item ∈ copy,item.activeAt now = true) :
    weightedConfidence policy (counted policy now (copies.flatMap firsts)) =
        copies.length * weightedConfidence policy (counted policy now proof) ∧
      totalWeight policy (counted policy now (copies.flatMap firsts)) = copies.length * totalWeight policy (counted policy now proof) ∧
      confidenceTotal (counted policy now (copies.flatMap firsts)) = copies.length * confidenceTotal (counted policy now proof) ∧
      (counted policy now (copies.flatMap firsts)).length = copies.length * (counted policy now proof).length := by
  induction copies with
  | nil => simp [counted,weightedConfidence,totalWeight,confidenceTotal]
  | cons copy rest ih =>
    obtain ⟨distinct,also⟩ := whole copy mem_cons_self
    obtain ⟨wc,tw,ct,n⟩ := sums_repeated policy (alike copy mem_cons_self) active also
    obtain ⟨wcs,tws,cts,ns⟩ := ih (fun later inside => alike later (mem_cons_of_mem _ inside)) fun later inside =>
      whole later (mem_cons_of_mem _ inside)
    obtain ⟨wca,twa,cta⟩ := sums_append policy (counted policy now copy) (counted policy now (rest.flatMap firsts))
    rw [flatMap_cons,firsts_nodup distinct,counted_append policy now,wca,twa,cta,length_append,wc,tw,ct,n,wcs,tws,cts,ns,
      length_cons]
    simp only [Nat.succ_mul,Nat.add_comm,true_and]

end

structure Reweighed (policy : TrustPolicy) (risks : List RiskSignal) (old new : List Evidence)
    (first second : TrustAssessment) : Prop where
  before : first.trustScore = trustMean policy old - greatestSeverity risks ∧ first.confidence = confidenceMean old
  after : second.trustScore = mean (weightedConfidence policy old + weightedConfidence policy new)
      (totalWeight policy old + totalWeight policy new) - greatestSeverity risks ∧
    second.confidence = mean (confidenceTotal old + confidenceTotal new) (old.length + new.length)
  least : min (trustMean policy old) (trustMean policy new) - greatestSeverity risks ≤ second.trustScore ∧
    min (confidenceMean old) (confidenceMean new) ≤ second.confidence
  most : second.trustScore ≤ max (trustMean policy old) (trustMean policy new) - greatestSeverity risks ∧
    second.confidence ≤ max (confidenceMean old) (confidenceMean new)
  unmoved : new = [] → second.trustScore = first.trustScore ∧ second.confidence = first.confidence

def TrustSteady (policy : TrustPolicy) (old part : List Evidence) : Prop :=
  trustMean policy old * totalWeight policy part ≤ weightedConfidence policy part ∧
    weightedConfidence policy part ≤ (trustMean policy old + 1) * totalWeight policy part
def ConfidenceSteady (old part : List Evidence) : Prop :=
  confidenceMean old * part.length ≤ confidenceTotal part ∧ confidenceTotal part ≤ (confidenceMean old + 1) * part.length

section
variable {policy : TrustPolicy} {now : Instant} {identity : IdentityId} {risks : List RiskSignal} {store later : EvidenceRepository}
variable {first second : TrustAssessment} {before proof : List Evidence} {copies : List (List Evidence)}

theorem assessed_means (few : store.records.length < 281474976710656) (assessed : assess store policy now identity risks = .ok first) :
    first.trustScore = trustMean policy (weighed store policy now identity) - greatestSeverity risks ∧
      first.confidence = confidenceMean (weighed store policy now identity) := by
  have fewer : (listed store identity).length < 281474976710656 := (length_filter_le _ _).trans_lt few
  obtain ⟨-,assessed⟩ := passed assessed
  have made : assessRecords policy now identity (listed store identity) risks = .ok first := assessed
  rw [assessRecords_create fewer] at made
  rw [weighed_counted]
  exact TrustAssessment.create_scores made

variable (policy now) in
theorem weighed_after (stored : Stores store copies later) (own : ∀ copy ∈ copies,∀ item ∈ copy,item.identity = identity) :
    (weighed later policy now identity).Perm (weighed store policy now identity ++ counted policy now (copies.flatMap firsts)) := by
  have mine : (copies.flatMap firsts).filter (fun record => decide (record.identity = identity)) = copies.flatMap firsts := by
    rw [List.filter_eq_self]
    intro item inside
    obtain ⟨copy,member,within⟩ := List.mem_flatMap.mp inside
    exact decide_eq_true (own copy member item (firsts_sublist.subset within))
  have together : (listed later identity).Perm (listed store identity ++ copies.flatMap firsts) := by
    have parts := stored.records.filter fun record => decide (record.identity = identity)
    rwa [List.filter_append,mine] at parts
  rw [weighed_counted,weighed_counted,← counted_append]
  exact together.filter _

theorem reweighed (stored : Stores store copies later) (own : ∀ copy ∈ copies,∀ item ∈ copy,item.identity = identity)
    (few : later.records.length < 281474976710656) (assessed : assess store policy now identity risks = .ok first)
    (reassessed : assess later policy now identity risks = .ok second) :
    Reweighed policy risks (weighed store policy now identity) (counted policy now (copies.flatMap firsts)) first second := by
  have fewer : store.records.length < 281474976710656 := by
    rw [stored.records.length_eq,length_append] at few
    omega
  obtain ⟨trust,sure⟩ := assessed_means fewer assessed
  obtain ⟨trusted,surer⟩ := assessed_means few reassessed
  obtain ⟨wc,tw,ct,n⟩ := sums_perm policy (weighed_after policy now stored own)
  generalize weighed store policy now identity = old at *
  generalize counted policy now (copies.flatMap firsts) = new at *
  obtain ⟨wca,twa,cta⟩ := sums_append policy old new
  unfold trustMean at trusted
  unfold confidenceMean at surer
  rw [wc,tw,wca,twa] at trusted
  rw [ct,n,cta,length_append] at surer
  have none : ∀ part,totalWeight policy part = 0 → weightedConfidence policy part = 0 := by
    intro part empty
    have bound := weightedConfidence_le policy part
    omega
  have also : ∀ part : List Evidence,part.length = 0 → confidenceTotal part = 0 := by
    intro part empty
    have bound := confidenceTotal_le part
    omega
  refine ⟨⟨trust,sure⟩,⟨trusted,surer⟩,⟨?_,?_⟩,⟨?_,?_⟩,?_⟩
  · rw [trusted]
    exact Nat.sub_le_sub_right min_le_mean _
  · rw [surer]
    exact min_le_mean
  · rw [trusted]
    exact Nat.sub_le_sub_right (mean_le_max (none old) (none new)) _
  · rw [surer]
    exact mean_le_max (also old) (also new)
  · rintro rfl
    exact ⟨trusted.trans trust.symm,surer.trans sure.symm⟩

theorem repeated_mem {one two : List Evidence} (alike : List.Forall₂ Repeats one two) (inside : item ∈ two) :
    ∃ original ∈ one,Repeats original item := by
  induction alike with
  | nil => cases inside
  | cons same _ ih =>
    rcases mem_cons.mp inside with rfl | later
    · exact ⟨_,mem_cons_self,same⟩
    · obtain ⟨original,member,also⟩ := ih later
      exact ⟨original,mem_cons_of_mem _ member,also⟩

theorem stored_part (stored : store.records.Perm (before ++ firsts proof)) (distinct : (proof.map Evidence.id).Nodup)
    (own : ∀ item ∈ proof,item.identity = identity) (bare : weighed store policy now identity = []) : counted policy now proof = [] := by
  rw [firsts_nodup distinct] at stored
  rw [eq_nil_iff_forall_not_mem]
  intro item inside
  rw [weighed_counted] at bare
  have heavy := mem_filter.mp inside
  have held : item ∈ counted policy now (listed store identity) :=
    mem_filter.mpr ⟨mem_filter.mpr ⟨stored.mem_iff.mpr (mem_append_right before heavy.1),
      decide_eq_true (own item heavy.1)⟩,heavy.2⟩
  rw [bare] at held
  cases held

theorem trust_steady_iff (weighty : ∀ record ∈ old,policy.weight record.kind ≠ 0) (none : old = [] → part = []) :
    (∀ count,mean (weightedConfidence policy old + count * weightedConfidence policy part)
      (totalWeight policy old + count * totalWeight policy part) = trustMean policy old) ↔ TrustSteady policy old part := by
  cases old with
  | nil => simp [none rfl,TrustSteady,trustMean,weightedConfidence,totalWeight]
  | cons record rest =>
    have some : 0 < totalWeight policy (record :: rest) :=
      Nat.add_pos_left (Nat.pos_of_ne_zero (weighty record mem_cons_self)) _
    exact mean_steady_iff some

theorem confidence_steady_iff (none : old = [] → part = []) :
    (∀ count,mean (confidenceTotal old + count * confidenceTotal part) (old.length + count * part.length) = confidenceMean old) ↔
      ConfidenceSteady old part := by
  cases old with
  | nil => simp [none rfl,ConfidenceSteady,confidenceMean,confidenceTotal]
  | cons record rest => exact mean_steady_iff (Nat.succ_pos _)

end

-- Every copy counts again: the means move towards the copies', and stay only where those agree.
theorem repeats_reweigh {verifiers : Map ProviderId EvidenceVerifier} {clock now : Instant} {identity : IdentityId}
    {provider : ProviderId} {publicInputs secretInputs : AttributeMap} {before store later : EvidenceRepository}
    {policy : TrustPolicy} {risks : List RiskSignal} {proof : List Evidence} {copies : List (List Evidence)}
    {first second : TrustAssessment}
    (proved : verify verifiers clock identity provider publicInputs secretInputs before = (.ok proof,store))
    (again : Stores store copies later) (alike : ∀ copy ∈ copies,List.Forall₂ Repeats proof copy)
    (active : ∀ item ∈ proof,item.activeAt now = true) (few : later.records.length < 281474976710656)
    (assessed : assess store policy now identity risks = .ok first)
    (reassessed : assess later policy now identity risks = .ok second) :
    Reweighed policy risks (weighed store policy now identity) (counted policy now (copies.flatMap firsts)) first second ∧
      ((∀ copy ∈ copies,(copy.map Evidence.id).Nodup ∧ ∀ item ∈ copy,item.activeAt now = true) →
        second.trustScore = mean (weightedConfidence policy (weighed store policy now identity) +
              copies.length * weightedConfidence policy (counted policy now proof))
            (totalWeight policy (weighed store policy now identity) + copies.length * totalWeight policy (counted policy now proof)) -
          greatestSeverity risks ∧ second.confidence = mean (confidenceTotal (weighed store policy now identity) +
              copies.length * confidenceTotal (counted policy now proof))
            ((weighed store policy now identity).length + copies.length * (counted policy now proof).length)) ∧
      ((proof.map Evidence.id).Nodup → ((∀ count,mean (weightedConfidence policy (weighed store policy now identity) +
              count * weightedConfidence policy (counted policy now proof))
            (totalWeight policy (weighed store policy now identity) + count * totalWeight policy (counted policy now proof)) =
          trustMean policy (weighed store policy now identity)) ↔
          TrustSteady policy (weighed store policy now identity) (counted policy now proof)) ∧
        ((∀ count,mean (confidenceTotal (weighed store policy now identity) + count * confidenceTotal (counted policy now proof))
            ((weighed store policy now identity).length + count * (counted policy now proof).length) =
          confidenceMean (weighed store policy now identity)) ↔
          ConfidenceSteady (weighed store policy now identity) (counted policy now proof))) := by
  obtain ⟨-,entitled,accepted⟩ := verify_stores proved
  have own : ∀ copy ∈ copies,∀ item ∈ copy,item.identity = identity := by
    intro copy member item inside
    obtain ⟨original,inside',same⟩ := repeated_mem (alike copy member) inside
    exact same.identity.trans (entitled original inside').1
  have law := reweighed again own few assessed reassessed
  refine ⟨law,?_,?_⟩
  · intro whole
    obtain ⟨wc,tw,ct,n⟩ := sums_copies active alike whole
    obtain ⟨trust,sure⟩ := law.after
    rw [wc,tw] at trust
    rw [ct,n] at sure
    exact ⟨trust,sure⟩
  · intro distinct
    have none : weighed store policy now identity = [] → counted policy now proof = [] :=
      stored_part (addBatch_records accepted) distinct fun item inside => (entitled item inside).1
    refine ⟨trust_steady_iff ?_ none,confidence_steady_iff none⟩
    intro record inside
    exact (of_decide_eq_true (List.mem_filter.mp inside).2).2.2.2

def ann : IdentityId := ⟨"ann"⟩

def doubt : Evidence := ⟨⟨"e0"⟩,ann,⟨"desk"⟩,"document","passport","unclear",0,.verified,10,none,by decide⟩
def certificate : Evidence := ⟨⟨"e1"⟩,ann,⟨"x509"⟩,"x509.chain","subject","urn:openproof:identity:ann",100,.verified,10,some 900,by decide⟩
def renewed : Evidence := { certificate with id := ⟨"e2"⟩, verifiedAt := 30, valid := by decide }

def weights : TrustPolicy := ((TrustPolicy.empty.setWeight "document" 100).2.setWeight "x509.chain" 100).2

def verifiers : Map ProviderId EvidenceVerifier := (∅ : Map ProviderId EvidenceVerifier).insert ⟨"x509"⟩ fun _ _ _ _ => .ok [certificate]

def certified : EvidenceRepository := (verify verifiers 10 ann ⟨"x509"⟩ ∅ ∅ (run [.addBatch [doubt]])).2
def recertified : EvidenceRepository := (certified.addBatch [renewed]).2

theorem repeats_reweigh_certificate : Reweighed weights [] (weighed certified weights 40 ann)
    (counted weights 40 ([[renewed]].flatMap firsts)) ⟨ann,50,0,50,["e0","e1"],[]⟩ ⟨ann,66,0,66,["e0","e1","e2"],[]⟩ := by
  have proved : verify verifiers 10 ann ⟨"x509"⟩ ∅ ∅ (run [.addBatch [doubt]]) = (.ok [certificate],certified) :=
    Prod.ext (by decide) rfl
  have again : certified.addBatch [renewed] = (.ok (),recertified) := Prod.ext (by decide) rfl
  have alike : ∀ copy ∈ [[renewed]],List.Forall₂ Repeats [certificate] copy := by
    intro copy inside
    obtain rfl := List.mem_singleton.mp inside
    exact .cons ⟨rfl,rfl,rfl,rfl,rfl,rfl⟩ .nil
  exact (repeats_reweigh proved (.batch again .none) alike (by decide) (by decide) (by decide) (by decide)).1

-- One certificate and one doubtful document: 50. The same certificate proved once more: 66.
theorem repetition_pays : (verify verifiers 10 ann ⟨"x509"⟩ ∅ ∅ (run [.addBatch [doubt]])).1 = .ok [certificate] ∧
    Repeats certificate renewed ∧ (certified.addBatch [renewed]).1 = .ok () ∧ certificate.activeAt 40 = true ∧
    (assess certified weights 40 ann []).toOption.map (fun value => (value.trustScore,value.confidence)) = some (50,50) ∧
    (assess recertified weights 40 ann []).toOption.map (fun value => (value.trustScore,value.confidence)) = some (66,66) := by
  refine ⟨?_,⟨rfl,rfl,rfl,rfl,rfl,rfl⟩,?_,rfl,?_,?_⟩
  all_goals decide

end OpenProof.RepeatedProofs
