import Mathlib.Data.List.Nodup
import OpenProof.Foundation
import OpenProof.SavedStates

namespace OpenProof.Telemetry
open Foundation SavedStates Std List

-- `double` as the registry uses it: the comparisons, the addition and `std::format`. The finite
-- ones are ordered, and `std::format` writes the shortest text that reads back as the same number.
structure Doubles where
  Double : Type
  zero : Double
  isFinite : Double → Bool
  less : Double → Double → Bool
  atMost : Double → Double → Bool
  same : Double → Double → Bool
  add : Double → Double → Double
  format : Double → Text
  less_iff : ∀ a b,isFinite a → isFinite b → (less a b ↔ ¬atMost b a)
  same_iff : ∀ a b,isFinite a → isFinite b → (same a b ↔ atMost a b ∧ atMost b a)
  atMost_total : ∀ a b,isFinite a → isFinite b → atMost a b ∨ atMost b a
  atMost_trans : ∀ a b c,isFinite a → isFinite b → isFinite c → atMost a b → atMost b c → atMost a c
  format_same : ∀ a b,isFinite a → isFinite b → format a = format b → same a b
  format_finite : ∀ a,isFinite a → format a ≠ Text.of "+Inf"

abbrev Labels := Map Text Text

def letter (byte : UInt8) : Bool := isLower byte || isUpper byte

def validMetricName : Text → Bool
  | [] => false
  | first :: rest => (letter first || first == ch '_' || first == ch ':') &&
    rest.all fun value => letter value || isDigit value || value == ch '_' || value == ch ':'

def validLabelName (name : Text) : Bool :=
  match name with
  | [] => false
  | first :: rest => !(Text.of "__").isPrefixOf name && (letter first || first == ch '_') &&
    rest.all fun value => letter value || isDigit value || value == ch '_'

def validateLabels (labels : Labels) : Result Unit :=
  if labels.size > 16 then fail .invalidArgument "A metric has too many labels."
  else if labels.toList.any fun (name,value) =>
      !validLabelName name || value.length > 200 || value.contains (ch '\n') || value.contains (ch '\r') then
    fail .invalidArgument "A metric label is invalid."
  else .ok ()

def escapeLabel (value : Text) : Text :=
  value.flatMap fun symbol => if symbol == ch '\\' || symbol == ch '"' then [ch '\\',symbol] else [symbol]

def labelText (labels : Labels) : Text :=
  if labels.isEmpty then []
  else "\x7b" ++ (Text.of ",").intercalate
    (labels.toList.map fun (name,value) => name ++ Text.of "=\"" ++ escapeLabel value ++ Text.of "\"") ++ "\x7d"

def seriesKey (name : Text) (labels : Labels) : Text := name ++ labelText labels

variable (d : Doubles)

structure Counter where
  name : Text
  labels : Labels
  value : d.Double

structure Histogram where
  name : Text
  labels : Labels
  boundaries : List d.Double
  counts : List UInt64
  totalCount : UInt64
  sum : d.Double

structure MetricRegistry where
  maximumSeries : Nat
  counters : Map Text (Counter d)
  histograms : Map Text (Histogram d)
  metricTypes : Map Text UInt8

def MetricRegistry.create (maximumSeries : Nat) : MetricRegistry d := ⟨maximumSeries,∅,∅,∅⟩

-- `std::ranges::is_sorted`.
def isSorted : List d.Double → Bool
  | a :: b :: rest => !d.less b a && isSorted (b :: rest)
  | _ => true

-- `std::unique` behind a value that is kept.
def uniqueAfter (last : d.Double) : List d.Double → List d.Double
  | [] => []
  | value :: rest => if d.same last value then uniqueAfter last rest else value :: uniqueAfter value rest

def unique : List d.Double → List d.Double
  | [] => []
  | value :: rest => value :: uniqueAfter d value rest

variable {d}

def Histogram.record (h : Histogram d) (value : d.Double) : Histogram d :=
  { h with
    counts := h.boundaries.zipWith (fun boundary count => if d.atMost value boundary then count+1 else count) h.counts
    totalCount := h.totalCount+1
    sum := d.add h.sum value }

namespace MetricRegistry
variable (r : MetricRegistry d)

def seriesCount : Nat := r.counters.size + r.histograms.size

def increment (name : Text) (labels : Labels) (amount : d.Double) : Result (MetricRegistry d) :=
  if !validMetricName name || !(validateLabels labels).isOk || !d.isFinite amount || d.less amount d.zero then
    fail .invalidArgument "The counter update is invalid."
  else if (r.metricTypes[name]?).any (· != ch 'c') then
    fail .conflict "A histogram already uses this metric family."
  else
    match r.counters[seriesKey name labels]? with
    | some found =>
      .ok { r with counters := r.counters.insert (seriesKey name labels) { found with value := d.add found.value amount } }
    | none =>
      if r.counters.size + r.histograms.size ≥ r.maximumSeries then
        fail .failedPrecondition "The metric series limit has been reached."
      else .ok { r with
        counters := r.counters.insert (seriesKey name labels) ⟨name,labels,d.add d.zero amount⟩
        metricTypes := r.metricTypes.insert name (ch 'c') }

def observe (name : Text) (buckets : List d.Double) (value : d.Double) (labels : Labels) : Result (MetricRegistry d) :=
  if !validMetricName name || !(validateLabels labels).isOk || labels.holds "le" || !d.isFinite value || buckets.isEmpty
      || !isSorted d buckets || buckets.any (fun boundary => !d.isFinite boundary) then
    fail .invalidArgument "The histogram observation is invalid."
  else if (r.metricTypes[name]?).any (· != ch 'h') then
    fail .conflict "A counter already uses this metric family."
  else
    match r.histograms[seriesKey name labels]? with
    | none =>
      if r.counters.size + r.histograms.size ≥ r.maximumSeries then
        fail .failedPrecondition "The metric series limit has been reached."
      else
        let added : Histogram d :=
          ⟨name,labels,unique d buckets,List.replicate (unique d buckets).length 0,0,d.zero⟩
        .ok { r with
          histograms := r.histograms.insert (seriesKey name labels) (added.record value)
          metricTypes := r.metricTypes.insert name (ch 'h') }
    | some found =>
      if !found.boundaries.isEqv (unique d buckets) d.same then
        fail .conflict "Histogram bucket boundaries cannot change."
      else .ok { r with histograms := r.histograms.insert (seriesKey name labels) (found.record value) }

end MetricRegistry

structure Sample where
  name : Text
  labels : Labels
  value : Text

def Sample.line (sample : Sample) : Text := sample.name ++ labelText sample.labels ++ Text.of " " ++ sample.value ++ Text.of "\n"

def Counter.sample (c : Counter d) : Sample := ⟨c.name,c.labels,d.format c.value⟩

def number (count : UInt64) : Text := Text.of (toString count.toNat)

def Histogram.samples (h : Histogram d) : List Sample :=
  h.boundaries.zipWith (fun boundary count =>
      ⟨h.name ++ Text.of "_bucket",h.labels.insertIfNew "le" (d.format boundary),number count⟩) h.counts ++
    [⟨h.name ++ Text.of "_bucket",h.labels.insertIfNew "le" "+Inf",number h.totalCount⟩,
      ⟨h.name ++ Text.of "_sum",h.labels,d.format h.sum⟩,⟨h.name ++ Text.of "_count",h.labels,number h.totalCount⟩]

def MetricRegistry.samples (r : MetricRegistry d) : List Sample :=
  r.counters.elements.map Counter.sample ++ r.histograms.elements.flatMap Histogram.samples

def MetricRegistry.prometheus (r : MetricRegistry d) : Text := r.samples.flatMap Sample.line

-- Names and label sets of the samples that one histogram is written out as.
def seriesOf (name : Text) (labels : Labels) (boundaries : List d.Double) : List (Text × Labels) :=
  (boundaries.map d.format ++ [Text.of "+Inf"]).map (fun bound => (name ++ Text.of "_bucket",labels.insertIfNew "le" bound)) ++
    [(name ++ Text.of "_sum",labels),(name ++ Text.of "_count",labels)]

abbrev Histogram.series (h : Histogram d) : List (Text × Labels) := seriesOf h.name h.labels h.boundaries

structure Histogram.Sound (h : Histogram d) : Prop where
  unbounded : h.labels[Text.of "le"]? = none
  finite : ∀ boundary ∈ h.boundaries,d.isFinite boundary = true
  increasing : h.boundaries.Pairwise fun a b => d.less a b = true
  counted : h.counts.length = h.boundaries.length

def Histogram.Cumulative (h : Histogram d) : Prop := (h.counts ++ [h.totalCount]).Pairwise (· ≤ ·)

structure MetricRegistry.Keyed (r : MetricRegistry d) : Prop where
  counter : ∀ (key : Text) (c : Counter d),r.counters[key]? = some c → seriesKey c.name c.labels = key
  histogram : ∀ (key : Text) (h : Histogram d),r.histograms[key]? = some h → seriesKey h.name h.labels = key
  sound : ∀ (key : Text) (h : Histogram d),r.histograms[key]? = some h → h.Sound

structure MetricRegistry.Exposes (r : MetricRegistry d) : Prop where
  distinct : (r.samples.map fun s => (s.name,s.labels)).Nodup
  cumulative : ∀ (key : Text) (h : Histogram d),r.histograms[key]? = some h → h.Cumulative
  infinite : ∀ (key : Text) (h : Histogram d),r.histograms[key]? = some h → ∀ bucket ∈ h.samples,∀ count ∈ h.samples,
    bucket.labels[Text.of "le"]? = some (Text.of "+Inf") → count.name = h.name ++ Text.of "_count" → bucket.value = count.value
  bounded : r.seriesCount ≤ r.maximumSeries

variable {r : MetricRegistry d} {h : Histogram d}

theorem bounded_find {labels : Labels} (free : labels[Text.of "le"]? = none) (bound key : Text) :
    (labels.insertIfNew (Text.of "le") bound)[key]? = if Text.of "le" = key then some bound else labels[key]? := by
  rw [ExtTreeMap.getElem?_insertIfNew]
  have absent : Text.of "le" ∉ labels := by
    rw [ExtTreeMap.mem_iff_isSome_getElem?,free]
    exact Bool.false_ne_true
  by_cases same : Text.of "le" = key
  · rw [← same]
    simp [absent]
  · simp [same]

theorem bounded_injective {labels other : Labels} (free : labels[Text.of "le"]? = none) (also : other[Text.of "le"]? = none)
    (same : labels.insertIfNew (Text.of "le") bound = other.insertIfNew (Text.of "le") limit) : labels = other ∧ bound = limit := by
  have each : ∀ key : Text,(labels.insertIfNew (Text.of "le") bound)[key]? = (other.insertIfNew (Text.of "le") limit)[key]? := by
    rw [same]
    exact fun _ => rfl
  simp only [bounded_find free,bounded_find also] at each
  constructor
  · refine ExtTreeMap.ext_getElem? fun key => ?_
    by_cases le : Text.of "le" = key
    · rw [← le,free,also]
    · simpa [le] using each key
  · simpa using each (Text.of "le")

theorem ending {a b s t : Text} (same : a ++ s = b ++ t) (two : 2 ≤ s.length) (also : 2 ≤ t.length) :
    s.reverse.take 2 = t.reverse.take 2 := by
  have turned := congrArg (fun text => text.reverse.take 2) same
  simpa [take_append_of_le_length,two,also] using turned

theorem mem_seriesOf {name n : Text} {labels l : Labels} {boundaries : List d.Double} : (n,l) ∈ seriesOf name labels boundaries ↔
    (n = name ++ Text.of "_bucket" ∧ ∃ bound ∈ boundaries.map d.format ++ [Text.of "+Inf"],l = labels.insertIfNew "le" bound) ∨
      (n = name ++ Text.of "_sum" ∧ l = labels) ∨ (n = name ++ Text.of "_count" ∧ l = labels) := by
  simp only [seriesOf,mem_append,mem_map,mem_cons,not_mem_nil,or_false,Prod.mk.injEq]
  constructor
  · rintro (⟨bound,listed,rfl,rfl⟩ | rest)
    · exact .inl ⟨rfl,bound,listed,rfl⟩
    · exact .inr rest
  · rintro (⟨rfl,bound,listed,rfl⟩ | rest)
    · exact .inl ⟨bound,listed,rfl,rfl⟩
    · exact .inr rest

-- The endings tell the three kinds of samples apart, and without them the names are the histograms' own.
theorem series_shared {one two : Text} {labels other : Labels} {boundaries limits : List d.Double}
    (free : labels[Text.of "le"]? = none) (also : other[Text.of "le"]? = none)
    (mine : sample ∈ seriesOf one labels boundaries) (yours : sample ∈ seriesOf two other limits) :
    one = two ∧ labels = other := by
  obtain ⟨n,l⟩ := sample
  rcases mem_seriesOf.mp mine with ⟨rfl,bound,-,rfl⟩ | ⟨rfl,rfl⟩ | ⟨rfl,rfl⟩ <;>
    rcases mem_seriesOf.mp yours with ⟨same,limit,-,joined⟩ | ⟨same,rfl⟩ | ⟨same,rfl⟩
  case inl.inl => exact ⟨append_cancel_right same,(bounded_injective free also joined).1⟩
  case inr.inl.inr.inl => exact ⟨append_cancel_right same,rfl⟩
  case inr.inr.inr.inr => exact ⟨append_cancel_right same,rfl⟩
  all_goals exact absurd (ending same (by decide) (by decide)) (by decide)

theorem formats_apart {boundaries : List d.Double} (finite : ∀ boundary ∈ boundaries,d.isFinite boundary = true)
    (increasing : boundaries.Pairwise fun a b => d.less a b = true) :
    (boundaries.map d.format ++ [Text.of "+Inf"]).Nodup := by
  rw [nodup_append]
  refine ⟨?_,nodup_singleton _,?_⟩
  · refine pairwise_map.mpr (increasing.imp_of_mem fun {a b} mine yours below spelled => ?_)
    have same := (d.same_iff a b (finite a mine) (finite b yours)).mp (d.format_same a b (finite a mine) (finite b yours) spelled)
    exact (d.less_iff a b (finite a mine) (finite b yours)).mp below same.2
  · intro text listed infinite last
    obtain ⟨boundary,mine,rfl⟩ := mem_map.mp listed
    rw [mem_singleton.mp last]
    exact d.format_finite boundary (finite boundary mine)

theorem series_nodup (sound : h.Sound) : (h.series).Nodup := by
  unfold Histogram.series seriesOf
  rw [nodup_append]
  refine ⟨?_,?_,?_⟩
  · refine (formats_apart sound.finite sound.increasing).map fun bound limit same => ?_
    exact (bounded_injective sound.unbounded sound.unbounded (Prod.mk.inj same).2).2
  · simp only [nodup_cons,mem_singleton,Prod.mk.injEq,and_true,not_mem_nil,not_false_eq_true,nodup_nil]
    exact fun same => absurd (ending same (by decide) (by decide)) (by decide)
  · intro bucket listed other rest same
    obtain ⟨bound,-,rfl⟩ := mem_map.mp listed
    simp only [mem_cons,not_mem_nil,or_false] at rest
    rcases rest with rfl | rfl
    · exact absurd (ending (Prod.mk.inj same).1 (by decide) (by decide)) (by decide)
    · exact absurd (ending (Prod.mk.inj same).1 (by decide) (by decide)) (by decide)

theorem zipWith_left {A B C : Type} (f : A → C) : ∀ (as : List A) (bs : List B),bs.length = as.length →
    as.zipWith (fun a _ => f a) bs = as.map f := by
  intro as
  induction as with
  | nil => simp
  | cons a as ih =>
    intro bs length
    cases bs with
    | nil => cases length
    | cons b bs => simp [ih bs (Nat.succ.inj length)]

theorem Histogram.Sound.series (sound : h.Sound) : h.samples.map (fun s => (s.name,s.labels)) = h.series := by
  simp [Histogram.samples,seriesOf,map_zipWith,zipWith_left _ h.boundaries h.counts sound.counted]

theorem elements_apart {V : Type} {m : Map Text V} {key : V → Text} (keyed : ∀ (k : Text) (v : V),m[k]? = some v → key v = k) :
    m.elements.Pairwise fun a b => key a ≠ key b := by
  refine pairwise_map.mpr ((ExtTreeMap.distinct_keys_toList (t:=m)).imp_of_mem fun {a b} mine yours apart same => ?_)
  have one := keyed a.1 a.2 (ExtTreeMap.mem_toList_iff_getElem?_eq_some.mp mine)
  have two := keyed b.1 b.2 (ExtTreeMap.mem_toList_iff_getElem?_eq_some.mp yours)
  rw [← one,← two,same] at apart
  exact apart Std.compare_self

namespace MetricRegistry

-- No counter has the name and the label set of a sample of a histogram.
def Clear (r : MetricRegistry d) : Prop := ∀ (key other : Text) (c : Counter d) (h : Histogram d),
  r.counters[key]? = some c → r.histograms[other]? = some h → (c.name,c.labels) ∉ h.series

theorem Keyed.distinct_iff (keyed : r.Keyed) : (r.samples.map fun s => (s.name,s.labels)).Nodup ↔ r.Clear := by
  have split : r.samples.map (fun s => (s.name,s.labels)) = r.counters.elements.map (fun c => (c.name,c.labels)) ++
      r.histograms.elements.flatMap fun h => h.series := by
    rw [samples,map_append,map_map,map_flatMap]
    congr 1
    refine flatMap_congr fun h listed => ?_
    obtain ⟨key,held⟩ := Map.mem_elements.mp listed
    exact (keyed.sound key h held).series
  have counters : (r.counters.elements.map fun c => (c.name,c.labels)).Nodup := by
    refine pairwise_map.mpr ((elements_apart keyed.counter).imp fun {a b} apart same => apart ?_)
    rw [(Prod.mk.inj same).1,(Prod.mk.inj same).2]
  have histograms : (r.histograms.elements.flatMap fun h => h.series).Nodup := by
    refine nodup_flatMap.mpr ⟨fun h listed => ?_,?_⟩
    · obtain ⟨key,held⟩ := Map.mem_elements.mp listed
      exact series_nodup (keyed.sound key h held)
    · refine (elements_apart keyed.histogram).imp_of_mem fun {a b} mine yours apart sample one two => apart ?_
      obtain ⟨key,held⟩ := Map.mem_elements.mp mine
      obtain ⟨other,also⟩ := Map.mem_elements.mp yours
      obtain ⟨name,labels⟩ := series_shared (keyed.sound key a held).unbounded (keyed.sound other b also).unbounded one two
      rw [name,labels]
  rw [split,nodup_append]
  constructor
  · rintro ⟨-,-,disjoint⟩ key other c h held also shared
    exact disjoint _ (mem_map.mpr ⟨c,Map.mem_elements.mpr ⟨key,held⟩,rfl⟩) _
      (mem_flatMap.mpr ⟨h,Map.mem_elements.mpr ⟨other,also⟩,shared⟩) rfl
  · intro clear
    refine ⟨counters,histograms,fun one mine two yours same => ?_⟩
    obtain ⟨c,listed,rfl⟩ := mem_map.mp mine
    obtain ⟨h,also,shared⟩ := mem_flatMap.mp yours
    obtain ⟨key,held⟩ := Map.mem_elements.mp listed
    obtain ⟨other,kept⟩ := Map.mem_elements.mp also
    rw [← same] at shared
    exact clear key other c h held kept shared

end MetricRegistry

theorem Histogram.Sound.infinite (sound : h.Sound) {bucket count : Sample} (bucketed : bucket ∈ h.samples)
    (counted : count ∈ h.samples) (unbounded : bucket.labels[Text.of "le"]? = some (Text.of "+Inf"))
    (total : count.name = h.name ++ Text.of "_count") : bucket.value = count.value := by
  rw [Histogram.samples,← map_uncurry_zip_eq_zipWith,mem_append,mem_map] at bucketed counted
  simp only [mem_cons,not_mem_nil,or_false] at bucketed counted
  have bucketTotal : bucket.value = number h.totalCount := by
    rcases bucketed with ⟨⟨_,_⟩,listed,rfl⟩ | rfl | rfl | rfl
    · simp only [Function.uncurry_apply_pair,bounded_find sound.unbounded,if_true,Option.some.injEq] at unbounded
      exact absurd unbounded (d.format_finite _ (sound.finite _ (of_mem_zip listed).1))
    · rfl
    · rw [sound.unbounded] at unbounded
      cases unbounded
    · rfl
  have countTotal : count.value = number h.totalCount := by
    rcases counted with ⟨pair,-,rfl⟩ | rfl | rfl | rfl
    · exact absurd (ending total (by decide) (by decide)) (by decide)
    · rfl
    · exact absurd (ending total (by decide) (by decide)) (by decide)
    · rfl
  rw [bucketTotal,countTotal]

-- Recording wraps a full total to zero; then every bucket has to end up at zero with it.
def Histogram.Room (h : Histogram d) (value : d.Double) : Prop :=
  h.totalCount + 1 = 0 → ∀ bucket ∈ h.boundaries.zip h.counts,
    if d.atMost value bucket.1 then bucket.2 + 1 = 0 else bucket.2 = 0

def tally (value : d.Double) (bucket : d.Double × UInt64) : UInt64 :=
  if d.atMost value bucket.1 then bucket.2 + 1 else bucket.2

theorem Histogram.record_counts : (h.record value).counts = (h.boundaries.zip h.counts).map (tally value) := by
  rw [record,← map_uncurry_zip_eq_zipWith]
  rfl

theorem Histogram.Sound.recorded (sound : h.Sound) (value : d.Double) : (h.record value).Sound :=
  ⟨sound.unbounded,sound.finite,sound.increasing,by simp [record,sound.counted]⟩

theorem succ_toNat {count total : UInt64} (below : count ≤ total) (spare : total + 1 ≠ 0) :
    (count + 1).toNat = count.toNat + 1 := by
  have less := UInt64.le_iff_toNat_le.mp below
  have bound := total.toNat_lt
  have open_ : total.toNat + 1 ≠ 2^64 := by
    intro full
    apply spare
    apply UInt64.toNat_inj.mp
    rw [UInt64.toNat_add,UInt64.toNat_one,full]
    rfl
  rw [UInt64.toNat_add,UInt64.toNat_one]
  omega

-- With a total that is not full, a bucket that counts the value stays below the ones above it.
theorem tally_le {low high : d.Double × UInt64} {total : UInt64} (finite : d.isFinite value = true)
    (one : d.isFinite low.1 = true) (two : d.isFinite high.1 = true) (increasing : d.less low.1 high.1 = true)
    (ordered : low.2 ≤ high.2) (below : high.2 ≤ total) (spare : total + 1 ≠ 0) : tally value low ≤ tally value high := by
  have next := succ_toNat below spare
  have before := succ_toNat (UInt64.le_trans ordered below) spare
  have apart := (d.less_iff _ _ one two).mp increasing
  have upward : d.atMost low.1 high.1 = true := (d.atMost_total _ _ one two).resolve_right apart
  rw [UInt64.le_iff_toNat_le] at ordered ⊢
  by_cases within : d.atMost value low.1 = true
  · have also := d.atMost_trans value low.1 high.1 finite one two within upward
    rw [tally,tally,if_pos within,if_pos also,next,before]
    omega
  · rw [tally,tally,if_neg within]
    split
    · rw [next]
      omega
    · exact ordered

theorem Histogram.Sound.cumulative_iff (sound : h.Sound) (cumulative : h.Cumulative)
    (finite : d.isFinite value = true) : (h.record value).Cumulative ↔ h.Room value := by
  obtain ⟨counts,_,below⟩ := pairwise_append.mp cumulative
  have below : ∀ count ∈ h.counts,count ≤ h.totalCount := fun count listed => below count listed _ (by simp)
  have parts : (h.record value).Cumulative ↔ ((h.boundaries.zip h.counts).map (tally value)).Pairwise (· ≤ ·) ∧
      ∀ bucket ∈ h.boundaries.zip h.counts,tally value bucket ≤ h.totalCount + 1 := by
    have total : (h.record value).totalCount = h.totalCount + 1 := rfl
    rw [Cumulative,pairwise_append,record_counts,total,forall_mem_map]
    simp
  rw [parts]
  constructor
  · intro ⟨_,bounded⟩ full bucket listed
    have zero : tally value bucket = 0 := by
      have low := bounded bucket listed
      rw [full] at low
      exact UInt64.le_zero_iff.mp low
    simpa [tally,apply_ite (· = (0 : UInt64))] using zero
  · intro room
    by_cases full : h.totalCount + 1 = 0
    · have zero : ∀ bucket ∈ h.boundaries.zip h.counts,tally value bucket = 0 := by
        intro bucket listed
        simpa [tally,apply_ite (· = (0 : UInt64))] using room full bucket listed
      have none : ∀ count ∈ (h.boundaries.zip h.counts).map (tally value),count = 0 :=
        forall_mem_map.mpr zero
      refine ⟨pairwise_of_forall_mem_list fun one mine two yours => ?_,fun bucket listed => ?_⟩
      · rw [none one mine,none two yours]
        exact UInt64.le_refl 0
      · rw [zero bucket listed,full]
        exact UInt64.le_refl 0
    · have within : ∀ bucket ∈ h.boundaries.zip h.counts,d.isFinite bucket.1 = true ∧ bucket.2 ≤ h.totalCount :=
        fun bucket listed => ⟨sound.finite _ (of_mem_zip listed).1,below _ (of_mem_zip listed).2⟩
      have zipped : (h.boundaries.zip h.counts).Pairwise fun low high => d.less low.1 high.1 = true ∧ low.2 ≤ high.2 := by
        refine pairwise_iff_getElem.mpr fun i j one two before => ?_
        simp only [getElem_zip]
        exact ⟨pairwise_iff_getElem.mp sound.increasing i j _ _ before,
          pairwise_iff_getElem.mp counts i j _ _ before⟩
      constructor
      · refine pairwise_map.mpr (zipped.imp_of_mem fun {low high} mine yours apart => ?_)
        exact tally_le finite (within low mine).1 (within high yours).1 apart.1 apart.2 (within high yours).2 full
      · intro bucket listed
        have next := succ_toNat (within bucket listed).2 full
        have top := succ_toNat (UInt64.le_refl h.totalCount) full
        have small := UInt64.le_iff_toNat_le.mp (within bucket listed).2
        rw [tally,UInt64.le_iff_toNat_le,top]
        split
        · rw [next]
          omega
        · omega

theorem isSorted_pairwise : ∀ {buckets : List d.Double},(∀ boundary ∈ buckets,d.isFinite boundary = true) →
    isSorted d buckets = true → buckets.Pairwise fun a b => d.atMost a b = true := by
  intro buckets
  induction buckets with
  | nil => exact fun _ _ => .nil
  | cons a rest ih =>
    intro finite sorted
    cases rest with
    | nil => exact pairwise_singleton _ _
    | cons b rest =>
      rw [isSorted,Bool.and_eq_true,Bool.not_eq_true'] at sorted
      have onward := ih (fun x listed => finite x (mem_cons_of_mem _ listed)) sorted.2
      have one := finite a (by simp)
      have two := finite b (by simp)
      have next : d.atMost a b = true := by
        by_contra above
        rw [(d.less_iff b a two one).mpr above] at sorted
        cases sorted.1
      refine pairwise_cons.mpr ⟨fun x listed => ?_,onward⟩
      rcases mem_cons.mp listed with rfl | later
      · exact next
      · exact d.atMost_trans a b x one two (finite x (by simp [later])) next ((pairwise_cons.mp onward).1 x later)

theorem uniqueAfter_subset (rest : List d.Double) : ∀ {last : d.Double},∀ x ∈ uniqueAfter d last rest,x ∈ rest := by
  induction rest with
  | nil => exact fun _ listed => listed
  | cons value rest ih =>
    intro last x listed
    rw [uniqueAfter] at listed
    split at listed
    · exact mem_cons_of_mem _ (ih x listed)
    · rcases mem_cons.mp listed with rfl | later
      · exact mem_cons_self
      · exact mem_cons_of_mem _ (ih x later)

theorem uniqueAfter_increasing (rest : List d.Double) : ∀ {last : d.Double},
    (∀ boundary ∈ last :: rest,d.isFinite boundary = true) → (last :: rest).Pairwise (fun a b => d.atMost a b = true) →
    (last :: uniqueAfter d last rest).Pairwise fun a b => d.less a b = true := by
  induction rest with
  | nil => exact fun _ _ => pairwise_singleton _ _
  | cons value rest ih =>
    intro last finite sorted
    have fewer : (last :: rest).Sublist (last :: value :: rest) := .cons_cons _ (.cons _ (.refl _))
    rw [uniqueAfter]
    split
    · exact ih (fun x listed => finite x (fewer.subset listed)) (sorted.sublist fewer)
    · rename_i differ
      obtain ⟨least,onward⟩ := pairwise_cons.mp sorted
      have one := finite last (by simp)
      have two := finite value (by simp)
      have above : ¬d.atMost value last = true := fun back =>
        differ ((d.same_iff last value one two).mpr ⟨least value (by simp),back⟩)
      refine pairwise_cons.mpr ⟨fun x listed => ?_,ih (fun x listed => finite x (mem_cons_of_mem _ listed)) onward⟩
      rcases mem_cons.mp listed with rfl | later
      · exact (d.less_iff _ _ one two).mpr above
      · have listed := uniqueAfter_subset rest x later
        have three := finite x (by simp [listed])
        exact (d.less_iff _ _ one three).mpr fun back =>
          above (d.atMost_trans _ _ _ two three one ((pairwise_cons.mp onward).1 x listed) back)

theorem unique_sound {buckets : List d.Double} (finite : ∀ boundary ∈ buckets,d.isFinite boundary = true)
    (sorted : isSorted d buckets = true) : (∀ boundary ∈ unique d buckets,d.isFinite boundary = true) ∧
      (unique d buckets).Pairwise fun a b => d.less a b = true := by
  cases buckets with
  | nil => exact ⟨finite,.nil⟩
  | cons value rest =>
    refine ⟨fun x listed => ?_,uniqueAfter_increasing rest finite (isSorted_pairwise finite sorted)⟩
    rcases mem_cons.mp listed with rfl | later
    · exact finite _ mem_cons_self
    · exact finite x (mem_cons_of_mem _ (uniqueAfter_subset rest x later))

namespace MetricRegistry

def withCounter (r : MetricRegistry d) (c : Counter d) (types : Map Text UInt8) : MetricRegistry d :=
  { r with counters := r.counters.insert (seriesKey c.name c.labels) c, metricTypes := types }

def withHistogram (r : MetricRegistry d) (h : Histogram d) (types : Map Text UInt8) : MetricRegistry d :=
  { r with histograms := r.histograms.insert (seriesKey h.name h.labels) h, metricTypes := types }

theorem Keyed.exposes_iff (keyed : r.Keyed) : r.Exposes ↔ r.Clear ∧
    (∀ (key : Text) (h : Histogram d),r.histograms[key]? = some h → h.Cumulative) ∧ r.seriesCount ≤ r.maximumSeries := by
  constructor
  · intro exposes
    exact ⟨keyed.distinct_iff.mp exposes.distinct,exposes.cumulative,exposes.bounded⟩
  · intro ⟨clear,cumulative,bounded⟩
    exact ⟨keyed.distinct_iff.mpr clear,cumulative,fun key h held bucket bucketed count counted unbounded total =>
      (keyed.sound key h held).infinite bucketed counted unbounded total,bounded⟩

theorem Keyed.withCounter (keyed : r.Keyed) (c : Counter d) (types : Map Text UInt8) :
    (r.withCounter c types).Keyed where
  counter key other held := by
    rcases Map.insert_cases held with ⟨same,rfl⟩ | before
    · exact same
    · exact keyed.counter key other before
  histogram := keyed.histogram
  sound := keyed.sound

theorem Keyed.withHistogram (keyed : r.Keyed) (sound : h.Sound)
    (types : Map Text UInt8) : (r.withHistogram h types).Keyed where
  counter := keyed.counter
  histogram key other held := by
    rcases Map.insert_cases held with ⟨same,rfl⟩ | before
    · exact same
    · exact keyed.histogram key other before
  sound key other held := by
    rcases Map.insert_cases held with ⟨same,rfl⟩ | before
    · exact sound
    · exact keyed.sound key other before

theorem insert_bounded {V : Type} {m : Map Text V} {k : Text} {v : V} {n limit : Nat} (bounded : m.size + n ≤ limit)
    (room : m[k]? = none → m.size + n < limit) : (m.insert k v).size + n ≤ limit := by
  rw [ExtTreeMap.size_insert]
  split
  · exact bounded
  · rename_i absent
    have less := room (ExtTreeMap.getElem?_eq_none absent)
    omega

theorem Keyed.withCounter_exposes (keyed : r.Keyed) (exposes : r.Exposes) (types : Map Text UInt8)
    (room : r.counters[seriesKey c.name c.labels]? = none → r.seriesCount < r.maximumSeries) :
    (r.withCounter c types).Exposes ↔ ∀ (key : Text) (h : Histogram d),r.histograms[key]? = some h →
      (c.name,c.labels) ∉ h.series := by
  obtain ⟨clear,cumulative,bounded⟩ := keyed.exposes_iff.mp exposes
  rw [(keyed.withCounter c types).exposes_iff]
  constructor
  · intro ⟨apart,_⟩ key h held
    exact apart _ key c h ((Map.find_insert _ _ _).trans (if_pos rfl)) held
  · intro apart
    refine ⟨fun key other one h held also => ?_,cumulative,?_⟩
    · rcases Map.insert_cases held with ⟨same,rfl⟩ | before
      · exact apart other h also
      · exact clear key other one h before also
    · exact insert_bounded bounded room

theorem Keyed.withHistogram_exposes (keyed : r.Keyed) (exposes : r.Exposes) (sound : h.Sound) (types : Map Text UInt8)
    (room : r.histograms[seriesKey h.name h.labels]? = none → r.seriesCount < r.maximumSeries) :
    (r.withHistogram h types).Exposes ↔ (∀ (key : Text) (c : Counter d),r.counters[key]? = some c →
      (c.name,c.labels) ∉ h.series) ∧ h.Cumulative := by
  obtain ⟨clear,cumulative,bounded⟩ := keyed.exposes_iff.mp exposes
  have added : (r.withHistogram h types).histograms[seriesKey h.name h.labels]? = some h :=
    (Map.find_insert _ _ _).trans (if_pos rfl)
  rw [(keyed.withHistogram sound types).exposes_iff]
  constructor
  · intro ⟨apart,counts,_⟩
    exact ⟨fun key c held => apart key _ c h held added,counts _ h added⟩
  · intro ⟨apart,counts⟩
    refine ⟨fun key other c one held also => ?_,fun key one held => ?_,?_⟩
    · rcases Map.insert_cases also with ⟨same,rfl⟩ | before
      · exact apart key c held
      · exact clear key other c one held before
    · rcases Map.insert_cases held with ⟨same,rfl⟩ | before
      · exact counts
      · exact cumulative key one before
    · have before : r.histograms.size + r.counters.size ≤ r.maximumSeries := by rwa [Nat.add_comm]
      rw [seriesCount,Nat.add_comm]
      exact insert_bounded before fun free => by
        rw [Nat.add_comm]
        exact room free

-- An update that is accepted writes one counter or one histogram: a new one, or one it has found.
theorem Keyed.increment_ok {next} (keyed : r.Keyed) (done : r.increment name labels amount = .ok next) :
    ∃ c types,next = r.withCounter c types ∧
      ((r.counters[seriesKey name labels]? = none ∧ c.name = name ∧ c.labels = labels ∧ r.seriesCount < r.maximumSeries) ∨
        ∃ found,r.counters[seriesKey name labels]? = some found ∧ c.name = found.name ∧ c.labels = found.labels) := by
  unfold increment at done
  split at done
  · cases done
  split at done
  · cases done
  split at done
  · rename_i found held
    cases done
    have key := keyed.counter _ found held
    exact ⟨{ found with value := d.add found.value amount },r.metricTypes,by simp only [MetricRegistry.withCounter,key],
      .inr ⟨found,held,rfl,rfl⟩⟩
  · rename_i free
    split at done
    · cases done
    rename_i spare
    cases done
    exact ⟨⟨name,labels,d.add d.zero amount⟩,_,rfl,.inl ⟨free,rfl,rfl,Nat.not_le.mp spare⟩⟩

theorem Keyed.observe_ok {next} (keyed : r.Keyed) (done : r.observe name buckets value labels = .ok next) :
    d.isFinite value = true ∧ ∃ h types,next = r.withHistogram (h.record value) types ∧ h.Sound ∧
      ((r.histograms[seriesKey name labels]? = none ∧ h.Cumulative ∧ h.totalCount = 0 ∧ h.name = name ∧ h.labels = labels ∧
          h.boundaries = unique d buckets ∧ r.seriesCount < r.maximumSeries) ∨
        r.histograms[seriesKey name labels]? = some h) := by
  unfold observe at done
  split at done
  · cases done
  rename_i accepted
  simp only [Bool.or_eq_true,not_or,Bool.not_eq_true,Bool.not_eq_false',any_eq_false] at accepted
  obtain ⟨⟨⟨⟨⟨⟨-,-⟩,unbounded⟩,finite⟩,-⟩,sorted⟩,bounds⟩ := accepted
  have finites : ∀ boundary ∈ buckets,d.isFinite boundary = true := by simpa using bounds
  obtain ⟨kept,increasing⟩ := unique_sound finites sorted
  refine ⟨finite,?_⟩
  split at done
  · cases done
  split at done
  · rename_i free
    split at done
    · cases done
    rename_i spare
    cases done
    have zero : ∀ count ∈ List.replicate (unique d buckets).length (0 : UInt64) ++ [0],count = 0 := by
      simp [or_imp]
    refine ⟨⟨name,labels,unique d buckets,List.replicate (unique d buckets).length 0,0,d.zero⟩,_,rfl,
      ⟨Option.isSome_eq_false_iff.mp unbounded |> Option.isNone_iff_eq_none.mp,kept,increasing,length_replicate⟩,
      .inl ⟨free,?_,rfl,rfl,rfl,rfl,Nat.not_le.mp spare⟩⟩
    refine pairwise_of_forall_mem_list fun one mine two yours => ?_
    rw [zero one mine,zero two yours]
    exact UInt64.le_refl 0
  · rename_i found held
    split at done
    · cases done
    cases done
    have key := keyed.histogram _ found held
    exact ⟨found,r.metricTypes,by simp only [MetricRegistry.withHistogram,Histogram.record,key],keyed.sound _ found held,.inr held⟩

end MetricRegistry

inductive Update (d : Doubles) where
  | increment (name : Text) (labels : Labels) (amount : d.Double)
  | observe (name : Text) (buckets : List d.Double) (value : d.Double) (labels : Labels)

namespace Update

def make : Update d → MetricRegistry d → Result (MetricRegistry d)
  | .increment name labels amount,r => r.increment name labels amount
  | .observe name buckets value labels,r => r.observe name buckets value labels

-- A new series must not have the name and labels of a sample that is there already, and an
-- observation must not wrap a full histogram.
def Meets (call : Update d) (r : MetricRegistry d) : Prop :=
  ∀ next,call.make r = .ok next → match call with
    | .increment name labels _ => r.counters[seriesKey name labels]? = none →
      ∀ (key : Text) (h : Histogram d),r.histograms[key]? = some h → (name,labels) ∉ h.series
    | .observe name buckets value labels =>
      (r.histograms[seriesKey name labels]? = none → ∀ (key : Text) (c : Counter d),r.counters[key]? = some c →
        (c.name,c.labels) ∉ seriesOf name labels (unique d buckets)) ∧
      ∀ h : Histogram d,r.histograms[seriesKey name labels]? = some h → h.Room value

def Good (r : MetricRegistry d) : Prop := r.Keyed ∧ r.Exposes

theorem increment_good (good : Good r) : Good (stepOf make (.increment name labels amount) r) ↔
    Meets (.increment name labels amount) r := by
  obtain ⟨keyed,exposes⟩ := good
  have clear := (keyed.exposes_iff.mp exposes).1
  unfold stepOf Meets make
  cases done : r.increment name labels amount with
  | error e =>
    simp only [done]
    exact iff_of_true ⟨keyed,exposes⟩ fun next made => by cases made
  | ok next =>
    simp only [done,Except.ok.injEq,forall_eq',Good]
    obtain ⟨c,types,rfl,⟨free,rfl,rfl,spare⟩ | ⟨found,held,sameName,sameLabels⟩⟩ := keyed.increment_ok done
    · rw [keyed.withCounter_exposes exposes types fun _ => spare]
      exact ⟨fun good _ => good.2,fun met => ⟨keyed.withCounter c types,met free⟩⟩
    · have key := keyed.counter _ found held
      refine iff_of_true ⟨keyed.withCounter c types,(keyed.withCounter_exposes exposes types ?_).mpr ?_⟩ ?_
      · intro free
        rw [sameName,sameLabels,key,held] at free
        cases free
      · intro other h also
        rw [sameName,sameLabels]
        exact clear _ other found h held also
      · intro free
        rw [held] at free
        cases free

theorem observe_good (good : Good r) : Good (stepOf make (.observe name buckets value labels) r) ↔
    Meets (.observe name buckets value labels) r := by
  obtain ⟨keyed,exposes⟩ := good
  obtain ⟨clear,cumulative,-⟩ := keyed.exposes_iff.mp exposes
  unfold stepOf Meets make
  cases done : r.observe name buckets value labels with
  | error e =>
    simp only [done]
    exact iff_of_true ⟨keyed,exposes⟩ fun next made => by cases made
  | ok next =>
    simp only [done,Except.ok.injEq,forall_eq',Good]
    obtain ⟨finite,h,types,rfl,sound,⟨free,counts,zero,rfl,rfl,bounds,spare⟩ | held⟩ := keyed.observe_ok done
    · have next := keyed.withHistogram (sound.recorded value) types
      have room : h.Room value := fun full => by
        rw [zero] at full
        cases full
      rw [keyed.withHistogram_exposes exposes (sound.recorded value) types fun _ => spare,sound.cumulative_iff counts finite]
      simp only [free,← bounds]
      constructor
      · intro ⟨_,apart,_⟩
        exact ⟨fun _ => apart,fun other held => by cases held⟩
      · exact fun met => ⟨next,met.1 trivial,room⟩
    · have next := keyed.withHistogram (sound.recorded value) types
      have key := keyed.histogram _ h held
      rw [keyed.withHistogram_exposes exposes (sound.recorded value) types,sound.cumulative_iff (cumulative _ h held) finite]
      · simp only [held,Option.some.injEq,forall_eq']
        constructor
        · intro ⟨_,_,room⟩
          exact ⟨fun free => (by cases free),room⟩
        · exact fun met => ⟨next,fun other c also => clear other _ c h also held,met.2⟩
      · intro free
        have same : seriesKey (h.record value).name (h.record value).labels = seriesKey name labels := key
        rw [same,held] at free
        cases free

theorem good_iff (call : Update d) (r : MetricRegistry d) (good : Good r) : Good (stepOf make call r) ↔ call.Meets r := by
  cases call with
  | increment name labels amount => exact increment_good good
  | observe name buckets value labels => exact observe_good good

theorem keyed_kept (call : Update d) (r : MetricRegistry d) (keyed : r.Keyed) : (stepOf make call r).Keyed := by
  unfold stepOf
  cases call with
  | increment name labels amount =>
    simp only [make]
    cases done : r.increment name labels amount with
    | error e => exact keyed
    | ok next =>
      obtain ⟨c,types,rfl,-⟩ := keyed.increment_ok done
      exact keyed.withCounter c types
  | observe name buckets value labels =>
    simp only [make]
    cases done : r.observe name buckets value labels with
    | error e => exact keyed
    | ok next =>
      obtain ⟨-,h,types,rfl,sound,-⟩ := keyed.observe_ok done
      exact keyed.withHistogram (sound.recorded value) types

end Update

theorem created_good (maximumSeries : Nat) : Update.Good (MetricRegistry.create d maximumSeries) := by
  have none : ∀ {V : Type} (key : Text),(∅ : Map Text V)[key]? = none := fun key => ExtTreeMap.getElem?_empty
  have keyed : (MetricRegistry.create d maximumSeries).Keyed := by
    constructor <;> intro key found held <;> cases (none key).symm.trans held
  refine ⟨keyed,keyed.exposes_iff.mpr ⟨?_,?_,Nat.zero_le _⟩⟩
  · intro key other c h held
    cases (none key).symm.trans held
  · intro key h held
    cases (none key).symm.trans held

theorem registry_exposes (d : Doubles) (maximumSeries : Nat) (calls : List (Update d)) :
    (∀ r ∈ visited (stepOf Update.make) calls (MetricRegistry.create d maximumSeries),r.Exposes) ↔
      Throughout (stepOf Update.make) Update.Meets calls (MetricRegistry.create d maximumSeries) := by
  have start := created_good (d:=d) maximumSeries
  have keyed : ∀ r ∈ visited (stepOf Update.make) calls _,r.Keyed := visited_all Update.keyed_kept start.1
  rw [← visited_iff Update.good_iff start]
  exact ⟨fun exposed r reached => ⟨keyed r reached,exposed r reached⟩,fun good r reached => (good r reached).2⟩

def bitText (bit : Bool) : Text := if bit then "1" else "0"

theorem bits_ordered : (∀ a b : Bool,(!a && b) = true ↔ ¬(!b || a) = true) ∧
    (∀ a b : Bool,(a == b) = true ↔ (!a || b) = true ∧ (!b || a) = true) ∧
    (∀ a b : Bool,(!a || b) = true ∨ (!b || a) = true) ∧
    (∀ a b c : Bool,(!a || b) = true → (!b || c) = true → (!a || c) = true) ∧
    (∀ a b,bitText a = bitText b → (a == b) = true) ∧ ∀ a,bitText a ≠ Text.of "+Inf" := by decide

def bits : Doubles where
  Double := Bool
  zero := false
  isFinite _ := true
  less a b := !a && b
  atMost a b := !a || b
  same a b := a == b
  add a b := a || b
  format := bitText
  less_iff a b _ _ := bits_ordered.1 a b
  same_iff a b _ _ := bits_ordered.2.1 a b
  atMost_total a b _ _ := bits_ordered.2.2.1 a b
  atMost_trans a b c _ _ _ := bits_ordered.2.2.2.1 a b c
  format_same a b _ _ := bits_ordered.2.2.2.2.1 a b
  format_finite a _ := bits_ordered.2.2.2.2.2 a

-- The families of a counter `h_sum` and of a histogram `h` are different ones to the registry.
theorem sum_sample_repeats : ¬∀ (d : Doubles) (maximumSeries : Nat) (calls : List (Update d)),
    ∀ r ∈ visited (stepOf Update.make) calls (MetricRegistry.create d maximumSeries),r.Exposes := by
  intro claimed
  let counted : Update bits := .increment "h_sum" ∅ true
  let r := stepOf Update.make counted (MetricRegistry.create bits 10)
  have facts : ((r.counters[Text.of "h_sum"]?).any fun c => c.name == Text.of "h_sum" && c.labels.isEmpty) = true ∧
      (r.histograms[seriesKey "h" ∅]?).isNone = true ∧ (r.observe "h" [true] true ∅).isOk = true := by
    decide
  obtain ⟨held,free,accepted⟩ := facts
  obtain ⟨c,found,named⟩ := (Option.any_eq_true _ _).mp held
  simp only [Bool.and_eq_true,beq_iff_eq,ExtTreeMap.isEmpty_iff] at named
  have start := created_good (d:=bits) 10
  have keyed : ∀ r ∈ visited _ [counted,.observe "h" [true] true ∅] _,MetricRegistry.Keyed r := visited_all Update.keyed_kept start.1
  have met := (visited_iff Update.good_iff start).mp fun r reached => ⟨keyed r reached,claimed bits 10 _ r reached⟩
  cases done : r.observe "h" [true] true ∅ with
  | error e =>
    rw [done] at accepted
    cases accepted
  | ok next =>
    have apart := (met.2.1 next done).1 (Option.isNone_iff_eq_none.mp free) (Text.of "h_sum") c found
    rw [named.1,named.2] at apart
    exact apart (mem_seriesOf.mpr (.inr (.inl ⟨rfl,rfl⟩)))

end OpenProof.Telemetry
