import Mathlib.Algebra.Order.Ring.Rat
import OpenProof.TokenBuckets
import OpenProof.Foundation

namespace OpenProof.RateLimits
open Foundation TokenBuckets

-- Costs and tokens are exact rationals here, so none of them is infinite or not a number.
structure TokenBucketRateLimiter where
  capacity : Rat
  refillPerSecond : Rat
  maximumKeys : Nat
  valid : 1 ≤ capacity ∧ 0 < refillPerSecond ∧ maximumKeys ≠ 0

-- The overflow bucket is absent until it is initialized.
structure Limits where
  buckets : Map Text (Bucket Rat)
  overflowBucket : Option (Bucket Rat)

def Limits.empty : Limits := ⟨∅,none⟩

structure Call where
  key : Text
  cost : Rat
  now : Instant

namespace TokenBucketRateLimiter

def create (capacity refillPerSecond : Rat) (maximumKeys : Nat) : Result TokenBucketRateLimiter :=
  if invalid : capacity < 1 ∨ refillPerSecond ≤ 0 ∨ maximumKeys = 0 then
    fail .invalidArgument "The rate-limit policy is invalid."
  else .ok ⟨capacity,refillPerSecond,maximumKeys,by
    simp only [not_or,not_lt,not_le] at invalid
    exact invalid⟩

variable (l : TokenBucketRateLimiter)

def spend (cost : Rat) (now : Instant) (bucket : Bucket Rat) : Bool × Bucket Rat :=
  let elapsed := now - bucket.updatedAt
  let bucket := if 0 < elapsed then
      let seconds : Rat := (elapsed : Rat) / 1000
      ⟨min l.capacity (bucket.tokens + seconds*l.refillPerSecond),now⟩
    else bucket
  if bucket.tokens < cost then (false,bucket) else (true,{ bucket with tokens := bucket.tokens - cost })

def allow (c : Call) (s : Limits) : Bool × Limits :=
  if c.key.isEmpty || c.cost ≤ 0 || l.capacity < c.cost then (false,s)
  else match s.buckets[c.key]? with
    | some bucket =>
      let r := l.spend c.cost c.now bucket
      (r.1,{ s with buckets := s.buckets.insert c.key r.2 })
    | none =>
      if l.maximumKeys ≤ s.buckets.size then
        let r := l.spend c.cost c.now (s.overflowBucket.getD ⟨l.capacity,c.now⟩)
        (r.1,{ s with overflowBucket := some r.2 })
      else
        let r := l.spend c.cost c.now ⟨l.capacity,c.now⟩
        (r.1,{ s with buckets := s.buckets.insert c.key r.2 })

def run (calls : List Call) (s : Limits) : Limits := calls.foldl (fun s c => (l.allow c s).2) s

def policy : Policy Rat where
  capacity := l.capacity
  rate := l.refillPerSecond / 1000
  bounded := le_trans (by decide) l.valid.1
  gaining := div_nonneg (le_of_lt l.valid.2.1) (by decide)

theorem spend_draw (cost : Rat) (now : Instant) (bucket : Bucket Rat) :
    l.spend cost now bucket = l.policy.draw ⟨now,cost⟩ bucket := by
  have elapsed : 0 < now - bucket.updatedAt ↔ bucket.updatedAt < now := Int.sub_pos
  have gain : (((now - bucket.updatedAt : Int) : Rat) / 1000)*l.refillPerSecond =
      ((now - bucket.updatedAt : Int) : Rat)*(l.refillPerSecond / 1000) := by ring
  unfold spend Policy.draw Policy.refill
  simp only [elapsed,gain,policy]
  rfl

end TokenBucketRateLimiter

-- A bucket of the limiter: a key's own, or the one that the keys beyond the limit share.
inductive Slot where
  | own (key : Text)
  | overflow
  deriving DecidableEq

def Limits.bucket (s : Limits) : Slot → Option (Bucket Rat)
  | .own key => s.buckets[key]?
  | .overflow => s.overflowBucket

def Limits.put (s : Limits) (b : Bucket Rat) : Slot → Limits
  | .own key => { s with buckets := s.buckets.insert key b }
  | .overflow => { s with overflowBucket := some b }

section
variable (l : TokenBucketRateLimiter)

def slotOf (c : Call) (s : Limits) : Option Slot :=
  if c.key.isEmpty || c.cost ≤ 0 || l.capacity < c.cost then none
  else if s.buckets[c.key]? = none ∧ l.maximumKeys ≤ s.buckets.size then some .overflow
  else some (.own c.key)

def fresh (c : Call) : Bucket Rat := ⟨l.capacity,c.now⟩

theorem allow_none {c : Call} {s : Limits} (refused : slotOf l c s = none) : l.allow c s = (false,s) := by
  unfold slotOf at refused
  unfold TokenBucketRateLimiter.allow
  split_ifs at refused ⊢ with bad
  rfl

theorem allow_some {c : Call} {s : Limits} {slot : Slot} (served : slotOf l c s = some slot) :
    l.allow c s = ((l.policy.draw ⟨c.now,c.cost⟩ ((s.bucket slot).getD (fresh l c))).1,
      s.put (l.policy.draw ⟨c.now,c.cost⟩ ((s.bucket slot).getD (fresh l c))).2 slot) := by
  unfold slotOf at served
  unfold TokenBucketRateLimiter.allow
  split_ifs at served with bad beyond
  · cases served
    rw [if_neg bad,beyond.1]
    simp only [if_pos beyond.2,l.spend_draw]
    rfl
  · cases served
    rw [if_neg bad]
    cases found : s.buckets[c.key]? with
    | some bucket =>
      simp only [l.spend_draw,Limits.bucket,Limits.put,found,Option.getD_some]
    | none =>
      have room : ¬l.maximumKeys ≤ s.buckets.size := fun full => beyond ⟨found,full⟩
      simp only [if_neg room,l.spend_draw,Limits.bucket,Limits.put,found,Option.getD_none,fresh]

def admittedFrom (slot : Slot) : List Call → Limits → Rat
  | [],_ => 0
  | c :: rest,s =>
    (if slotOf l c s = some slot ∧ (l.allow c s).1 = true then c.cost else 0) + admittedFrom slot rest (l.allow c s).2

def draws (slot : Slot) : List Call → Limits → List (Draw Rat)
  | [],_ => []
  | c :: rest,s =>
    if slotOf l c s = some slot then ⟨c.now,c.cost⟩ :: draws slot rest (l.allow c s).2
    else draws slot rest (l.allow c s).2

def readings (slot : Slot) (calls : List Call) (s : Limits) : List Instant := (draws l slot calls s).map Draw.now

def decisions (key : Text) : List Call → Limits → List Bool
  | [],_ => []
  | c :: rest,s =>
    if c.key = key then (l.allow c s).1 :: decisions key rest (l.allow c s).2 else decisions key rest (l.allow c s).2

variable {l} {c : Call} {s : Limits} {slot other : Slot} {b : Bucket Rat}

theorem put_own : (s.put b slot).bucket slot = some b := by
  cases slot <;> simp [Limits.put,Limits.bucket]

theorem put_apart (apart : other ≠ slot) : (s.put b other).bucket slot = s.bucket slot := by
  cases other with
  | own key =>
    cases slot with
    | own asked =>
      have keys : key ≠ asked := fun same => apart (congrArg Slot.own same)
      simp [Limits.put,Limits.bucket,keys]
    | overflow => rfl
  | overflow =>
    cases slot with
    | own asked => rfl
    | overflow => exact absurd rfl apart

theorem allow_apart (elsewhere : slotOf l c s ≠ some slot) : (l.allow c s).2.bucket slot = s.bucket slot := by
  cases served : slotOf l c s with
  | none => rw [allow_none l served]
  | some used =>
    rw [allow_some l served]
    exact put_apart fun same => elsewhere (served.trans (congrArg some same))

theorem admittedFrom_some (calls : List Call) : ∀ {s : Limits} {b : Bucket Rat},s.bucket slot = some b →
    admittedFrom l slot calls s = l.policy.admitted (draws l slot calls s) b := by
  induction calls with
  | nil => exact fun _ => rfl
  | cons c rest ih =>
    intro s b there
    rw [admittedFrom,draws]
    by_cases served : slotOf l c s = some slot
    · have step := allow_some l served
      rw [there,Option.getD_some] at step
      have later : (l.allow c s).2.bucket slot = some (l.policy.draw ⟨c.now,c.cost⟩ b).2 := by
        rw [step]
        exact put_own
      rw [if_pos served,Policy.admitted,ih later]
      simp only [served,step,true_and]
    · rw [if_neg served,if_neg fun both => served both.1,zero_add]
      exact ih ((allow_apart served).trans there)

theorem admittedFrom_none (calls : List Call) : ∀ {s : Limits},s.bucket slot = none →
    admittedFrom l slot calls s = 0 ∨ ∃ first later,draws l slot calls s = first :: later ∧
      admittedFrom l slot calls s = l.policy.admitted (first :: later) ⟨l.capacity,first.now⟩ := by
  induction calls with
  | nil => exact fun _ => .inl rfl
  | cons c rest ih =>
    intro s absent
    rw [admittedFrom,draws]
    by_cases served : slotOf l c s = some slot
    · have step := allow_some l served
      rw [absent,Option.getD_none] at step
      have later : (l.allow c s).2.bucket slot = some (l.policy.draw ⟨c.now,c.cost⟩ (fresh l c)).2 := by
        rw [step]
        exact put_own
      refine .inr ⟨_,_,if_pos served,?_⟩
      rw [Policy.admitted,admittedFrom_some rest later]
      simp only [served,step,true_and]
      rfl
    · rw [if_neg served,if_neg fun both => served both.1,zero_add]
      exact ih ((allow_apart served).trans absent)

theorem slotOf_cost (served : slotOf l c s = some slot) : 0 ≤ c.cost := by
  unfold slotOf at served
  split_ifs at served with bad
  all_goals
    simp only [Bool.or_eq_true,decide_eq_true_eq,not_or,not_le] at bad
    exact le_of_lt bad.1.2

theorem draws_cost (calls : List Call) : ∀ {s : Limits},∀ d ∈ draws l slot calls s,0 ≤ d.cost := by
  induction calls with
  | nil => exact fun d listed => absurd listed List.not_mem_nil
  | cons c rest ih =>
    intro s d listed
    rw [draws] at listed
    split_ifs at listed with served
    · rcases List.mem_cons.mp listed with rfl | later
      · exact slotOf_cost served
      · exact ih d later
    · exact ih d listed

theorem slotOf_own {key : Text} (served : slotOf l c s = some (.own key)) :
    key = c.key ∧ (s.buckets[key]? = none → s.buckets.size < l.maximumKeys) := by
  unfold slotOf at served
  split_ifs at served with bad beyond
  · cases served
  obtain rfl : c.key = key := Slot.own.inj (Option.some.inj served)
  exact ⟨rfl,fun absent => by_contra fun full => beyond ⟨absent,Nat.not_lt.mp full⟩⟩

structure Kept (l : TokenBucketRateLimiter) (s : Limits) : Prop where
  filled : ∀ slot b,s.bucket slot = some b → l.policy.Filled b
  size : s.buckets.size ≤ l.maximumKeys

theorem Kept.empty (l : TokenBucketRateLimiter) : Kept l .empty where
  filled slot b there := by cases slot <;> simp [Limits.empty,Limits.bucket] at there
  size := by simp [Limits.empty]

theorem full_filled (c : Call) : l.policy.Filled (fresh l c) := ⟨l.policy.bounded,le_refl _⟩

theorem Kept.allow (kept : Kept l s) (c : Call) : Kept l (l.allow c s).2 := by
  cases served : slotOf l c s with
  | none =>
    rw [allow_none l served]
    exact kept
  | some slot =>
    have before : l.policy.Filled ((s.bucket slot).getD (fresh l c)) := by
      cases there : s.bucket slot with
      | none => exact full_filled c
      | some b => exact kept.filled slot b there
    rw [allow_some l served]
    constructor
    · intro asked b there
      by_cases same : slot = asked
      · subst same
        rw [put_own] at there
        cases there
        exact before.draw (slotOf_cost served)
      · rw [put_apart same] at there
        exact kept.filled asked b there
    · cases slot with
      | overflow => exact kept.size
      | own key =>
        have room := (slotOf_own served).2
        simp only [Limits.put,Std.ExtTreeMap.size_insert]
        split_ifs with held
        · exact kept.size
        · rw [Std.ExtTreeMap.contains_eq_isSome_getElem?,Option.not_isSome_iff_eq_none] at held
          exact room held

theorem Kept.run (calls : List Call) : ∀ {s : Limits},Kept l s → Kept l (l.run calls s) := by
  induction calls with
  | nil => exact fun kept => kept
  | cons c rest ih => exact fun kept => ih (kept.allow c)

theorem admittedFrom_within (kept : Kept l s) (slot : Slot) (calls : List Call) (d : Duration) (nonneg : 0 ≤ d)
    (timely : ∀ first ∈ (readings l slot calls s).head?,∀ t ∈ readings l slot calls s,t ≤ first + d) :
    admittedFrom l slot calls s ≤ l.capacity + l.refillPerSecond*((d : Rat) / 1000) := by
  have gain : (d : Rat)*l.policy.rate = l.refillPerSecond*((d : Rat) / 1000) := by
    simp only [TokenBucketRateLimiter.policy]
    ring
  have nothing : (0 : Rat) ≤ l.capacity + l.refillPerSecond*((d : Rat) / 1000) := by
    rw [← gain]
    exact add_nonneg l.policy.bounded (mul_nonneg (by exact_mod_cast nonneg) l.policy.gaining)
  have bound : ∀ {first : Draw Rat} {later : List (Draw Rat)} {b : Bucket Rat},draws l slot calls s = first :: later →
      l.policy.Filled b → l.policy.admitted (first :: later) b ≤ l.capacity + l.refillPerSecond*((d : Rat) / 1000) := by
    intro first later b drawn filled
    rw [← gain]
    refine Policy.admitted_within filled nonneg fun e listed => ⟨draws_cost calls e (drawn ▸ listed),?_⟩
    refine timely first.now ?_ e.now ?_
    · rw [readings,drawn]
      rfl
    · rw [readings,drawn]
      exact List.mem_map_of_mem listed
  cases there : s.bucket slot with
  | none =>
    rcases admittedFrom_none (l := l) calls there with none | ⟨first,later,drawn,same⟩
    · rw [none]
      exact nothing
    · rw [same]
      exact bound drawn ⟨l.policy.bounded,le_refl _⟩
  | some b =>
    rw [admittedFrom_some calls there]
    cases drawn : draws l slot calls s with
    | nil => exact nothing
    | cons first later => exact bound drawn (kept.filled slot b there)

def Beyond (l : TokenBucketRateLimiter) (key : Text) (s : Limits) : Prop :=
  s.buckets[key]? = none ∧ l.maximumKeys ≤ s.buckets.size

variable {key : Text}

theorem Beyond.allow (beyond : Beyond l key s) (c : Call) : Beyond l key (l.allow c s).2 := by
  cases served : slotOf l c s with
  | none =>
    rw [allow_none l served]
    exact beyond
  | some slot =>
    rw [allow_some l served]
    cases slot with
    | overflow => exact beyond
    | own asked =>
      obtain ⟨rfl,room⟩ := slotOf_own served
      have apart : c.key ≠ key := by
        rintro rfl
        exact absurd (room beyond.1) (Nat.not_lt.mpr beyond.2)
      refine ⟨?_,?_⟩
      · simpa [Limits.put,apart] using beyond.1
      · exact le_trans beyond.2 Std.ExtTreeMap.size_le_size_insert

theorem Beyond.run (calls : List Call) : ∀ {s : Limits},Beyond l key s → Beyond l key (l.run calls s) := by
  induction calls with
  | nil => exact fun beyond => beyond
  | cons c rest ih => exact fun beyond => ih (beyond.allow c)

theorem Beyond.overflow (beyond : Beyond l c.key s) (served : slotOf l c s = some slot) : slot = .overflow := by
  cases slot with
  | overflow => rfl
  | own key =>
    obtain ⟨rfl,room⟩ := slotOf_own served
    exact absurd (room beyond.1) (Nat.not_lt.mpr beyond.2)

-- Two states that one key, and whoever shares a bucket with it, cannot tell apart.
structure Alike (key : Text) (s t : Limits) : Prop where
  own : s.buckets[key]? = t.buckets[key]?
  overflow : s.overflowBucket = t.overflowBucket
  holders : ∀ other : Text,s.buckets[other]? = none ↔ t.buckets[other]? = none
  size : s.buckets.size = t.buckets.size

variable {t : Limits}

theorem Alike.slotOf (alike : Alike key s t) (c : Call) : slotOf l c s = slotOf l c t := by
  unfold RateLimits.slotOf
  rw [alike.size]
  simp only [alike.holders c.key]

theorem holders_size :
    (s.buckets.insert key b).size = if s.buckets[key]? = none then s.buckets.size + 1 else s.buckets.size := by
  rw [Std.ExtTreeMap.size_insert,Std.ExtTreeMap.contains_eq_isSome_getElem?]
  cases s.buckets[key]? <;> simp

theorem Alike.put (alike : Alike key s t) (slot : Slot) (same : slot = .own key ∨ slot = .overflow → one = two) : Alike key (s.put one slot) (t.put two slot) := by
  cases slot with
  | overflow => exact ⟨alike.own,congrArg some (same (.inr rfl)),alike.holders,alike.size⟩
  | own asked =>
    refine ⟨?_,alike.overflow,fun other => ?_,?_⟩
    · by_cases own : asked = key
      · simp [Limits.put,own,same (.inl (congrArg Slot.own own))]
      · simpa [Limits.put,own] using alike.own
    · by_cases own : asked = other
      · simp [Limits.put,own]
      · simpa [Limits.put,own] using alike.holders other
    · simp only [Limits.put,holders_size,alike.holders asked,alike.size]

theorem Alike.buckets (alike : Alike key s t) {slot : Slot} (shared : slot = .own key ∨ slot = .overflow) :
    s.bucket slot = t.bucket slot := by
  rcases shared with rfl | rfl
  · exact alike.own
  · exact alike.overflow

theorem Alike.allow (alike : Alike key s t) (c : Call) :
    Alike key (l.allow c s).2 (l.allow c t).2 ∧ (c.key = key → (l.allow c s).1 = (l.allow c t).1) := by
  cases served : RateLimits.slotOf l c s with
  | none =>
    have also := (alike.slotOf c).symm.trans served
    rw [allow_none l served,allow_none l also]
    exact ⟨alike,fun _ => rfl⟩
  | some slot =>
    have also := (alike.slotOf c).symm.trans served
    rw [allow_some l served,allow_some l also]
    refine ⟨alike.put slot fun shared => by rw [alike.buckets shared],fun mine => ?_⟩
    have shared : slot = .own key ∨ slot = .overflow := by
      cases slot with
      | overflow => exact .inr rfl
      | own asked => exact .inl (congrArg Slot.own ((slotOf_own served).1.trans mine))
    simp only [alike.buckets shared]

theorem Alike.held (alike : Alike key s t) (c : Call) (apart : c.key ≠ key) (held : s.buckets[c.key]? ≠ none) :
    Alike key (l.allow c s).2 t := by
  cases served : RateLimits.slotOf l c s with
  | none =>
    rw [allow_none l served]
    exact alike
  | some slot =>
    rw [allow_some l served]
    cases slot with
    | overflow =>
      unfold RateLimits.slotOf at served
      split_ifs at served with bad beyond
      · exact absurd beyond.1 held
      · cases served
    | own asked =>
      obtain ⟨rfl,-⟩ := slotOf_own served
      refine ⟨?_,alike.overflow,fun other => ?_,?_⟩
      · simpa [Limits.put,apart] using alike.own
      · by_cases own : c.key = other
        · subst own
          simpa [Limits.put] using fun absent => held ((alike.holders c.key).mpr absent)
        · simpa [Limits.put,own] using alike.holders other
      · simp only [Limits.put,holders_size,if_neg held,alike.size]

inductive Spared (l : TokenBucketRateLimiter) (key : Text) : Limits → List Call → List Call → Prop where
  | nil {s : Limits} : Spared l key s [] []
  | kept {s : Limits} {c : Call} {calls fewer : List Call} (rest : Spared l key (l.allow c s).2 calls fewer) :
      Spared l key s (c :: calls) (c :: fewer)
  | spared {s : Limits} {c : Call} {calls fewer : List Call} (apart : c.key ≠ key) (held : s.buckets[c.key]? ≠ none)
      (rest : Spared l key (l.allow c s).2 calls fewer) : Spared l key s (c :: calls) fewer

theorem Spared.decisions (spared : Spared l key s calls fewer) :
    ∀ {t : Limits},Alike key s t → decisions l key calls s = decisions l key fewer t := by
  induction spared with
  | nil => exact fun _ => rfl
  | @kept s c calls fewer rest ih =>
    intro t alike
    obtain ⟨later,same⟩ := alike.allow (l := l) c
    rw [RateLimits.decisions,RateLimits.decisions,ih later]
    split_ifs with mine
    · rw [same mine]
    · rfl
  | @spared s c calls fewer apart held rest ih =>
    intro t alike
    rw [RateLimits.decisions,if_neg apart]
    exact ih (alike.held c apart held)

theorem decisions_own (calls : List Call) : ∀ {s t : Limits} {b : Bucket Rat},s.buckets[key]? = some b →
    t.buckets[key]? = some b → decisions l key calls s = decisions l key (calls.filter (·.key = key)) t := by
  induction calls with
  | nil => exact fun _ _ => rfl
  | cons c rest ih =>
    intro s t b there also
    by_cases mine : c.key = key
    · subst mine
      have kept : (c :: rest).filter (·.key = c.key) = c :: rest.filter (·.key = c.key) := by simp
      have slots : slotOf l c s = slotOf l c t := by simp [slotOf,there,also]
      rw [kept,decisions,decisions,if_pos rfl,if_pos rfl]
      cases served : slotOf l c s with
      | none =>
        rw [allow_none l served,allow_none l (slots.symm.trans served)]
        exact congrArg _ (ih there also)
      | some slot =>
        have own : slot = .own c.key := by
          cases slot with
          | own key => rw [(slotOf_own served).1]
          | overflow =>
            unfold slotOf at served
            split_ifs at served with bad beyond
            · rw [there] at beyond
              cases beyond.1
            · cases served
        subst own
        have mine : s.bucket (.own c.key) = some b := there
        have yours : t.bucket (.own c.key) = some b := also
        have stored : ∀ (s : Limits) (b : Bucket Rat),(s.put b (.own c.key)).buckets[c.key]? = some b :=
          fun s b => (put_own : (s.put b (.own c.key)).bucket (.own c.key) = some b)
        rw [allow_some l served,allow_some l (slots.symm.trans served),mine,yours]
        exact congrArg _ (ih (stored _ _) (stored _ _))
    · have dropped : (c :: rest).filter (·.key = key) = rest.filter (·.key = key) := by simp [mine]
      have away : slotOf l c s ≠ some (.own key) := fun served => mine (slotOf_own served).1.symm
      rw [dropped,decisions,if_neg mine]
      exact ih ((allow_apart away).trans there) also

-- In a run from the start: what a bucket lets through over any stretch, how many buckets there
-- are, who shares the overflow bucket, and what a key's decisions depend on.
theorem limits_hold (l : TokenBucketRateLimiter) (earlier calls : List Call) : (∀ (slot : Slot) (d : Duration),0 ≤ d →
      (∀ first ∈ (readings l slot calls (l.run earlier .empty)).head?,
        ∀ t ∈ readings l slot calls (l.run earlier .empty),t ≤ first + d) →
      admittedFrom l slot calls (l.run earlier .empty) ≤ l.capacity + l.refillPerSecond*((d : Rat) / 1000)) ∧
    (l.run earlier .empty).buckets.size ≤ l.maximumKeys ∧
    (∀ c,(l.run earlier .empty).buckets[c.key]? = none → l.maximumKeys ≤ (l.run earlier .empty).buckets.size →
      ∀ slot,slotOf l c (l.run calls (l.run earlier .empty)) = some slot → slot = .overflow) ∧
    (∀ (key : Text) (fewer : List Call),Spared l key (l.run earlier .empty) calls fewer →
      decisions l key calls (l.run earlier .empty) = decisions l key fewer (l.run earlier .empty)) ∧
    ∀ key : Text,(l.run earlier .empty).buckets[key]? ≠ none → decisions l key calls (l.run earlier .empty) =
        decisions l key (calls.filter (·.key = key)) (l.run earlier .empty) := by
  have kept : Kept l (l.run earlier .empty) := (Kept.empty l).run earlier
  refine ⟨fun slot d nonneg timely => admittedFrom_within kept slot calls d nonneg timely,kept.size,?_,?_,?_⟩
  · intro c absent full slot served
    exact (Beyond.run calls ⟨absent,full⟩).overflow served
  · intro key fewer spared
    exact spared.decisions ⟨rfl,rfl,fun _ => Iff.rfl,rfl⟩
  · intro key held
    obtain ⟨b,there⟩ := Option.ne_none_iff_exists'.mp held
    exact decisions_own calls there there

end

def demoLimiter : TokenBucketRateLimiter := ⟨1,1,1,by decide⟩

-- The first call for `a` takes the last bucket, so that `z` and `k` have to share one.
theorem bucket_taken : ¬∀ (l : TokenBucketRateLimiter) (calls : List Call) (key other : Text),other ≠ key →
    (l.run calls .empty).buckets[other]? ≠ none →
      decisions l key calls .empty = decisions l key (calls.filter (·.key ≠ other)) .empty := by
  intro independent
  have apart : Text.of "a" ≠ Text.of "k" := by decide
  have owned : (demoLimiter.run [⟨"a",1,0⟩,⟨"z",1,0⟩,⟨"k",1,0⟩] .empty).buckets[Text.of "a"]? ≠ none := by decide
  have differ : decisions demoLimiter "k" [⟨"a",1,0⟩,⟨"z",1,0⟩,⟨"k",1,0⟩] .empty ≠
      decisions demoLimiter "k" ([⟨"a",1,0⟩,⟨"z",1,0⟩,⟨"k",1,0⟩].filter (·.key ≠ Text.of "a")) .empty := by decide +kernel
  exact differ (independent demoLimiter _ "k" "a" apart owned)

theorem limits_hold_steps : admittedFrom demoLimiter (.own "a") [⟨"a",1,0⟩,⟨"a",1,1000⟩,⟨"a",1,500⟩,⟨"a",1,2000⟩] .empty ≤ 3 := by
  have bound := (limits_hold demoLimiter [] [⟨"a",1,0⟩,⟨"a",1,1000⟩,⟨"a",1,500⟩,⟨"a",1,2000⟩]).1 (.own "a") 2000 (by decide)
    (by decide)
  have three : demoLimiter.capacity + demoLimiter.refillPerSecond*(((2000 : Int) : Rat) / 1000) = 3 := by decide +kernel
  exact le_of_le_of_eq bound three

end OpenProof.RateLimits
