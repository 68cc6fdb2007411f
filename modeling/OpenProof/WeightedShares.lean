import Mathlib.Data.Nat.Periodic
import OpenProof.GatewayHandler

namespace OpenProof.WeightedShares
open Foundation Http GatewayWorld GatewayHandler

section
variable (p : Nat → Prop) [DecidablePred p]

theorem window_count (periodic : Function.Periodic p period) :
    (List.range' start period).countP p = Nat.count p period := by
  have counted := Nat.filter_multiset_Ico_card_eq_of_periodic start period p periodic
  have window : Multiset.Ico start (start + period) = ↑(List.range' start period) := by
    change (↑(List.range' start (start + period - start)) : Multiset Nat) = _
    rw [Nat.add_sub_cancel_left]
  rw [← counted,← Multiset.countP_eq_card_filter,window,Multiset.coe_countP]

end

section
variable {endpoints rest : List Endpoint} {endpoint e : Endpoint}

theorem pick_count (endpoints : List Endpoint) (e : Endpoint) (cursor : Nat) :
    Nat.count (fun k => pick (cursor + k) cursor endpoints = some e) (totalWeight endpoints) = endpoints.count e*e.weight := by
  induction endpoints generalizing cursor with
  | nil => simp [totalWeight]
  | cons first rest ih =>
    have own : Nat.count (fun k => pick (cursor + k) cursor (first :: rest) = some e) first.weight =
        if first = e then first.weight else 0 := by
      split_ifs with same
      · refine Nat.count_of_forall fun k below => ?_
        rw [pick,if_pos (by omega),same]
      · refine Nat.count_of_forall_not fun k below => ?_
        rw [pick,if_pos (by omega)]
        exact fun taken => same (Option.some.inj taken)
    have others : (fun k => pick (cursor + (first.weight + k)) cursor (first :: rest) = some e) =
        fun k => pick (cursor + first.weight + k) (cursor + first.weight) rest = some e := by
      funext k
      rw [pick,if_neg (by omega),Nat.add_assoc]
    rw [totalWeight,Nat.count_add,own]
    simp only [others,ih (cursor + first.weight)]
    rw [List.count_cons,Nat.add_mul]
    by_cases same : first = e
    · simp [same,Nat.add_comm]
    · simp [same]

theorem candidates_all (endpoints : List Endpoint) : candidates endpoints [] = endpoints := by
  simp [candidates]

theorem totalWeight_zero : totalWeight endpoints = 0 ↔ endpoints = [] := by
  cases endpoints with
  | nil => simp [totalWeight]
  | cons first rest =>
    have weighted := first.weighted
    simp only [totalWeight,reduceCtorEq,iff_false]
    omega

end

-- What happens at a gateway: a choice of an endpoint, or anything else.
inductive Act where
  | choose (service : ServiceId) (endpoints : List Endpoint) (excluded : List EndpointId)
  | other (op : GatewayOp)

def chosen (breaker : CircuitBreaker) (service : ServiceId) (endpoints : List Endpoint) (excluded : List EndpointId)
    (w : GatewayState) : Except HttpResponse (Result Endpoint) × GatewayState :=
  (choose service endpoints excluded : Handler (Result Endpoint)).run (exec breaker) w

def answers (breaker : CircuitBreaker) (service : ServiceId) :
    List Act → GatewayState → List (Except HttpResponse (Result Endpoint))
  | [],_ => []
  | .choose asked endpoints excluded :: rest,w =>
    let r := chosen breaker asked endpoints excluded w
    if asked = service then r.1 :: answers breaker service rest r.2 else answers breaker service rest r.2
  | .other op :: rest,w => answers breaker service rest (exec breaker op w).2

def returned : Except HttpResponse (Result Endpoint) → Option Endpoint
  | .ok (.ok endpoint) => some endpoint
  | _ => none

def Keeps (service : ServiceId) (endpoints : List Endpoint) : Act → Prop
  | .choose asked offered excluded => asked = service → offered = endpoints ∧ excluded = []
  | .other op => op ≠ .nextSequence service

def sequenceOf (w : GatewayState) (service : ServiceId) : UInt64 := w.sequences[service]?.getD 0

section
variable {breaker : CircuitBreaker} {service asked : ServiceId} {endpoints : List Endpoint}
  {excluded : List EndpointId} {acts : List Act} {w : GatewayState}

theorem sequenceOf_other (other : op ≠ .nextSequence service) :
    sequenceOf (exec breaker op w).2 service = sequenceOf w service := by
  cases op with
  | nextSequence asked =>
    have apart : asked ≠ service := fun same => other (same ▸ rfl)
    simp [sequenceOf,exec,apart]
  | _ => rfl

theorem chosen_none (none : totalWeight (candidates endpoints excluded) = 0) :
    chosen breaker service endpoints excluded w = (.ok (fail .unavailable "No upstream endpoint is available."),w) := by
  simp only [chosen,choose]
  rw [if_pos none]
  rfl

theorem chosen_some (left : totalWeight (candidates endpoints excluded) ≠ 0) :
    chosen breaker service endpoints excluded w =
      (.ok (chooseSlot (candidates endpoints excluded) (totalWeight (candidates endpoints excluded)) (sequenceOf w service)),
        (exec breaker (.nextSequence service) w).2) := by
  simp only [chosen,choose]
  rw [if_neg left]
  rfl

theorem sequenceOf_next : sequenceOf (exec breaker (.nextSequence service) w).2 service = sequenceOf w service + 1 := by
  simp [sequenceOf,exec]

theorem sequenceOf_chosen (apart : asked ≠ service) :
    sequenceOf (chosen breaker asked endpoints excluded w).2 service = sequenceOf w service := by
  by_cases none : totalWeight (candidates endpoints excluded) = 0
  · rw [chosen_none none]
  · rw [chosen_some none]
    exact sequenceOf_other fun same => apart (GatewayOp.nextSequence.inj same)

def slotted (endpoints : List Endpoint) (k : Nat) : Except HttpResponse (Result Endpoint) :=
  .ok (chooseSlot endpoints (totalWeight endpoints) (UInt64.ofNat k))

theorem answers_slotted (some_left : totalWeight endpoints ≠ 0) (acts : List Act) :
    ∀ {w : GatewayState},(∀ act ∈ acts,Keeps service endpoints act) →
      (sequenceOf w service).toNat + (answers breaker service acts w).length ≤ 18446744073709551616 →
        answers breaker service acts w =
          (List.range' (sequenceOf w service).toNat (answers breaker service acts w).length).map (slotted endpoints) := by
  induction acts with
  | nil => exact fun _ _ => rfl
  | cons act rest ih =>
    intro w kept fits
    have later : ∀ act ∈ rest,Keeps service endpoints act := fun act listed => kept act (List.mem_cons_of_mem _ listed)
    have first := kept act (List.mem_cons_self ..)
    cases act with
    | other op =>
      rw [answers] at fits ⊢
      rw [← sequenceOf_other first] at fits ⊢
      exact ih later fits
    | choose asked offered excluded =>
      rw [answers] at fits ⊢
      by_cases own : asked = service
      · obtain ⟨rfl,rfl⟩ := first own
        subst own
        simp only [if_pos] at fits ⊢
        rw [← candidates_all offered] at some_left
        rw [chosen_some some_left,candidates_all] at fits ⊢
        simp only [List.length_cons] at fits ⊢
        have next := ih (w := (exec breaker (.nextSequence asked) w).2) later
        rw [sequenceOf_next] at next
        generalize answers breaker asked rest (exec breaker (.nextSequence asked) w).2 = following at fits next ⊢
        generalize sequenceOf w asked = sequence at fits next ⊢
        rw [List.range'_succ,List.map_cons]
        have head : slotted offered sequence.toNat =
            .ok (chooseSlot offered (totalWeight offered) sequence) := by
          rw [slotted,UInt64.ofNat_toNat]
        rw [head]
        congr 1
        cases following with
        | nil => rfl
        | cons answer more =>
          rw [List.length_cons] at fits next
          have one : (sequence + 1).toNat = sequence.toNat + 1 := by
            rw [UInt64.toNat_add]
            exact Nat.mod_eq_of_lt (by simp only [UInt64.toNat_one]; omega)
          rw [one] at next
          exact next (by omega)
      · simp only [if_neg own] at fits ⊢
        rw [← sequenceOf_chosen own (w := w)] at fits ⊢
        exact ih later fits

theorem returned_slotted {k : Nat} (fits : k < 18446744073709551616) :
    returned (slotted endpoints k) = pick (k % totalWeight endpoints) 0 endpoints := by
  have number : (UInt64.ofNat k).toNat = k := by
    rw [UInt64.toNat_ofNat']
    exact Nat.mod_eq_of_lt fits
  rw [slotted,chooseSlot,number]
  cases pick (k % totalWeight endpoints) 0 endpoints <;> rfl

theorem window_shares (kept : ∀ act ∈ acts,Keeps service endpoints act)
    (whole : (answers breaker service acts w).length = totalWeight endpoints)
    (unwrapped : (sequenceOf w service).toNat + totalWeight endpoints ≤ 18446744073709551616) (e : Endpoint) :
    ((answers breaker service acts w).filterMap returned).count e = endpoints.count e*e.weight := by
  by_cases none : totalWeight endpoints = 0
  · rw [none,List.length_eq_zero_iff] at whole
    rw [whole,totalWeight_zero.mp none]
    simp
  rw [answers_slotted none acts kept (by omega),whole,List.filterMap_map,List.count_filterMap]
  generalize (sequenceOf w service).toNat = start at unwrapped
  have slots : (List.range' start (totalWeight endpoints)).countP (fun k => (returned ∘ slotted endpoints) k == some e) =
      (List.range' start (totalWeight endpoints)).countP (fun k => pick (k % totalWeight endpoints) 0 endpoints = some e) := by
    refine List.countP_congr fun k listed => ?_
    have bound := (List.mem_range'_1.mp listed).2
    simp [returned_slotted (show k < 18446744073709551616 by omega)]
  have periodic : Function.Periodic (fun k => pick (k % totalWeight endpoints) 0 endpoints = some e) (totalWeight endpoints) := by
    intro k
    simp
  rw [slots,window_count _ periodic,← pick_count endpoints e 0]
  refine List.countP_congr fun k listed => ?_
  have below := List.mem_range.mp listed
  simp [Nat.mod_eq_of_lt below]

theorem chosen_sound (breaker : CircuitBreaker) (service : ServiceId) (endpoints : List Endpoint)
    (excluded : List EndpointId) (w : GatewayState) :
    (∃ endpoint,(chosen breaker service endpoints excluded w).1 = .ok (.ok endpoint) ∧ endpoint ∈ endpoints ∧ endpoint.id ∉ excluded) ∨
      (chosen breaker service endpoints excluded w).1 = .ok (fail .unavailable "No upstream endpoint is available.") ∧
        ∀ endpoint ∈ endpoints,endpoint.id ∈ excluded := by
  by_cases none : totalWeight (candidates endpoints excluded) = 0
  · refine .inr ⟨by rw [chosen_none none],fun endpoint listed => ?_⟩
    have empty := List.filter_eq_nil_iff.mp (totalWeight_zero.mp none) endpoint listed
    simpa using empty
  · obtain ⟨endpoint,candidate,found⟩ := chooseSlot_found none
    refine .inl ⟨endpoint,by rw [chosen_some none,found],?_⟩
    obtain ⟨listed,kept⟩ := List.mem_filter.mp candidate
    exact ⟨listed,by simpa using kept⟩

-- The shares are exact in every window, and a choice never leaves the loop without an endpoint.
theorem weighted_choices (breaker : CircuitBreaker) (service : ServiceId) (endpoints : List Endpoint) :
    (∀ (acts : List Act) (w : GatewayState),(∀ act ∈ acts,Keeps service endpoints act) →
      (answers breaker service acts w).length = totalWeight endpoints →
      (sequenceOf w service).toNat + totalWeight endpoints ≤ 18446744073709551616 →
        ∀ endpoint,((answers breaker service acts w).filterMap returned).count endpoint =
          endpoints.count endpoint*endpoint.weight) ∧ ∀ (excluded : List EndpointId) (w : GatewayState),
        (∃ endpoint,(chosen breaker service endpoints excluded w).1 = .ok (.ok endpoint) ∧ endpoint ∈ endpoints ∧
          endpoint.id ∉ excluded) ∨
        (chosen breaker service endpoints excluded w).1 = .ok (fail .unavailable "No upstream endpoint is available.") ∧
          ∀ endpoint ∈ endpoints,endpoint.id ∈ excluded :=
  ⟨fun _ _ kept whole unwrapped => window_shares kept whole unwrapped,chosen_sound breaker service endpoints⟩

end

theorem heavy_weighted : (0 : Nat) < 2 ∧ (2 : Nat) ≤ 1000 := by decide
theorem light_weighted : (0 : Nat) < 1 ∧ (1 : Nat) ≤ 1000 := by decide

def demoHeavy : Endpoint := ⟨⟨"e"⟩,"upstream.example",443,true,2,heavy_weighted⟩
def demoLight : Endpoint := ⟨⟨"f"⟩,"upstream.example",444,true,1,light_weighted⟩

def demoActs : List Act :=
  [.choose ⟨"s"⟩ [demoHeavy,demoLight] [],.choose ⟨"t"⟩ [demoLight] [],.other .now,.choose ⟨"s"⟩ [demoHeavy,demoLight] [],
    .other (.allow ⟨"f"⟩),.choose ⟨"s"⟩ [demoHeavy,demoLight] []]

theorem weighted_choices_two : ((answers SenderProofs.demoBreaker ⟨"s"⟩ demoActs
    SenderProofs.demoGateway).filterMap returned).count demoHeavy = 2 := by
  have apart : Text.of "t" ≠ Text.of "s" := by decide
  have kept : ∀ act ∈ demoActs,Keeps ⟨"s"⟩ [demoHeavy,demoLight] act := by simp [demoActs,Keeps,apart]
  have shares := (weighted_choices SenderProofs.demoBreaker ⟨"s"⟩ [demoHeavy,demoLight]).1 demoActs SenderProofs.demoGateway
    kept (by decide) (by decide) demoHeavy
  rw [shares]
  decide

end OpenProof.WeightedShares
