import Mathlib.Data.List.MinMax
import OpenProof.GatewayWorld

namespace OpenProof.LongestRoutes
open Foundation Http GatewayWorld List

-- `path` goes on below `start` only behind a slash: at the end of it, or as its own last character.
def Covers (start path : Text) : Prop :=
  path = start ∨ (∃ rest,path = start ++ ch '/' :: rest) ∨ ∃ shorter rest,start = shorter ++ [ch '/'] ∧ path = start ++ rest

theorem prefixMatches_iff {path start : Text} : prefixMatches path start = true ↔ Covers start path := by
  unfold prefixMatches
  rw [Bool.and_eq_true, isPrefixOf_iff_prefix]
  constructor
  · rintro ⟨⟨rest,rfl⟩,boundary⟩
    simp only [Bool.or_eq_true,beq_iff_eq] at boundary
    rcases boundary with ((root | whole) | last) | next
    · exact .inr (.inr ⟨[],rest,root,rfl⟩)
    · have none : rest = [] := by simpa using whole
      exact .inl (by rw [none,append_nil])
    · obtain ⟨shorter,ends⟩ := getLast?_eq_some_iff.mp last
      exact .inr (.inr ⟨shorter,rest,ends,rfl⟩)
    · cases rest with
      | nil => simp at next
      | cons symbol tail =>
        rw [getElem?_append_right (Nat.le_refl _),Nat.sub_self] at next
        cases next
        exact .inr (.inl ⟨tail,rfl⟩)
  · rintro (whole | ⟨rest,rfl⟩ | ⟨shorter,rest,ends,rfl⟩)
    · exact ⟨⟨[],by rw [whole,append_nil]⟩,by simp [whole]⟩
    · exact ⟨⟨_,rfl⟩,by simp⟩
    · exact ⟨⟨rest,rfl⟩,by simp [ends]⟩

theorem Covers.isPrefix {start path : Text} (covers : Covers start path) : start <+: path := by
  rcases covers with whole | ⟨rest,below⟩ | ⟨shorter,rest,-,below⟩
  · exact ⟨[],by rw [whole,append_nil]⟩
  · exact ⟨_,below.symm⟩
  · exact ⟨_,below.symm⟩

structure Serves (method : HttpMethod) (path : Text) (route : Route) : Prop where
  method : route.method = method
  covers : Covers route.pathPrefix path

structure Longest (routes : List Route) (method : HttpMethod) (path : Text) (route : Route) : Prop where
  listed : route ∈ routes
  serves : Serves method path route
  longest : ∀ other ∈ routes,Serves method path other → other.pathPrefix.length ≤ route.pathPrefix.length

-- What `Router::add` takes for a duplicate.
def Clash (one two : Route) : Prop :=
  one.id = two.id ∨ one.method = two.method ∧ one.pathPrefix = two.pathPrefix

def Distinct (routes : List Route) : Prop := routes.Pairwise fun one two => ¬Clash one two

-- `Router::add` for each, a refused one leaving the router as it is.
def addAll (routes : List Route) (attempts : List Route) : List Route :=
  attempts.foldl (fun routes route => (Router.add routes route).toOption.getD routes) routes

def added (attempts : List Route) : List Route := addAll [] attempts

section
variable {routes attempts others : List Route} {method : HttpMethod} {path : Text} {route one two : Route}

def serves (method : HttpMethod) (path : Text) (route : Route) : Bool :=
  route.method = method && prefixMatches path route.pathPrefix

theorem serves_iff : serves method path route = true ↔ Serves method path route := by
  simp only [serves,Bool.and_eq_true,decide_eq_true_eq,prefixMatches_iff]
  exact ⟨fun ⟨asked,covers⟩ => ⟨asked,covers⟩,fun given => ⟨given.method,given.covers⟩⟩

theorem match_argmax :
    Router.match_ routes method path = (routes.filter (serves method path)).argmax (·.pathPrefix.length) := by
  unfold Router.match_ argmax
  rw [foldl_filter]
  congr 1
  funext best route
  cases best with
  | none | some => cases served : serves method path route <;> simp_all [serves,argAux]

theorem match_longest (found : Router.match_ routes method path = some route) : Longest routes method path route := by
  rw [match_argmax] at found
  have kept := mem_filter.mp (argmax_mem found)
  refine ⟨kept.1,serves_iff.mp kept.2,fun other listed also => ?_⟩
  have among : other ∈ routes.filter (serves method path) := mem_filter.mpr ⟨listed,serves_iff.mpr also⟩
  exact le_of_mem_argmax (f := fun route : Route => route.pathPrefix.length) among found

theorem match_none_iff : Router.match_ routes method path = none ↔ ∀ route ∈ routes,¬Serves method path route := by
  rw [match_argmax,argmax_eq_none,filter_eq_nil_iff]
  simp only [serves_iff]

theorem Clash.symm (clash : Clash one two) : Clash two one :=
  clash.imp Eq.symm fun alike => ⟨alike.1.symm,alike.2.symm⟩

instance clash_apart : Std.Symm fun one two : Route => ¬Clash one two := ⟨fun _ _ apart clash => apart clash.symm⟩

theorem Longest.unique (distinct : Distinct routes) (first : Longest routes method path one)
    (second : Longest routes method path two) : one = two := by
  have long := second.longest one first.listed first.serves
  have also := first.longest two second.listed second.serves
  have same : one.pathPrefix = two.pathPrefix :=
    (prefix_of_prefix_length_le first.serves.covers.isPrefix second.serves.covers.isPrefix long).eq_of_length
      (Nat.le_antisymm long also)
  have methods : one.method = two.method := first.serves.method.trans second.serves.method.symm
  by_contra apart
  exact distinct.forall first.listed second.listed apart (.inr ⟨methods,same⟩)

theorem match_some_iff (distinct : Distinct routes) :
    Router.match_ routes method path = some route ↔ Longest routes method path route := by
  constructor
  · exact match_longest
  · intro longest
    cases found : Router.match_ routes method path with
    | none => exact absurd longest.serves (match_none_iff.mp found route longest.listed)
    | some other => rw [(match_longest found).unique distinct longest]

theorem match_congr (distinct : Distinct routes) (apart : Distinct others) (same : ∀ route,route ∈ others ↔ route ∈ routes) :
    Router.match_ others method path = Router.match_ routes method path := by
  ext route
  rw [match_some_iff distinct,match_some_iff apart]
  constructor
  · intro longest
    exact ⟨(same route).mp longest.listed,longest.serves,fun other listed => longest.longest other ((same other).mpr listed)⟩
  · intro longest
    exact ⟨(same route).mpr longest.listed,longest.serves,fun other listed => longest.longest other ((same other).mp listed)⟩

instance clash_decidable (one two : Route) : Decidable (Clash one two) := by
  unfold Clash
  infer_instance

theorem add_step : (Router.add routes route).toOption.getD routes =
    if ∀ existing ∈ routes,¬Clash existing route then routes ++ [route] else routes := by
  unfold Router.add
  have same : (routes.any fun existing => existing.id = route.id ||
      (existing.method = route.method && existing.pathPrefix == route.pathPrefix)) = true ↔
        ¬∀ existing ∈ routes,¬Clash existing route := by
    simp [Clash,or_iff_not_imp_left]
  by_cases fresh : ∀ existing ∈ routes,¬Clash existing route
  · rw [if_neg (fun taken => same.mp taken fresh),if_pos fresh]
    rfl
  · rw [if_pos (same.mpr fresh),if_neg fresh]
    rfl

theorem addAll_cons : addAll routes (route :: rest) =
    addAll (if ∀ existing ∈ routes,¬Clash existing route then routes ++ [route] else routes) rest := by
  unfold addAll
  rw [foldl_cons,add_step]

theorem Distinct.add (distinct : Distinct routes) (fresh : ∀ existing ∈ routes,¬Clash existing route) :
    Distinct (routes ++ [route]) := by
  refine pairwise_append.mpr ⟨distinct,pairwise_singleton _ _,fun existing listed other last => ?_⟩
  rw [mem_singleton.mp last]
  exact fresh existing listed

theorem addAll_distinct (attempts : List Route) : ∀ {routes : List Route},Distinct routes → Distinct (addAll routes attempts) := by
  induction attempts with
  | nil => exact fun distinct => distinct
  | cons route rest ih =>
    intro routes distinct
    rw [addAll_cons]
    split_ifs with fresh
    · exact ih (distinct.add fresh)
    · exact ih distinct

theorem added_distinct (attempts : List Route) : Distinct (added attempts) := addAll_distinct attempts .nil

theorem addAll_all (attempts : List Route) : ∀ {routes : List Route},Distinct (routes ++ attempts) →
    addAll routes attempts = routes ++ attempts := by
  induction attempts with
  | nil => exact fun _ => (append_nil _).symm
  | cons route rest ih =>
    intro routes distinct
    have fresh : ∀ existing ∈ routes,¬Clash existing route := fun existing listed =>
      (pairwise_append.mp distinct).2.2 existing listed route (mem_cons_self ..)
    rw [append_cons] at distinct ⊢
    rw [addAll_cons,if_pos fresh,ih distinct]

theorem added_all_iff : added attempts = attempts ↔ Distinct attempts := by
  constructor
  · intro all
    rw [← all]
    exact added_distinct attempts
  · exact fun distinct => addAll_all attempts distinct

theorem Distinct.perm (distinct : Distinct attempts) (permuted : others.Perm attempts) : Distinct others :=
  (permuted.pairwise_iff fun {_ _} apart clash => apart clash.symm).mpr distinct

-- The router answers by the routes it has taken, in whatever order they came: a list of
-- attempts of which none is refused may be permuted, and nothing is refused then either.
theorem longest_route (attempts : List Route) (method : HttpMethod) (path : Text) :
    (∀ route,Router.match_ (added attempts) method path = some route ↔ Longest (added attempts) method path route) ∧
      (Router.match_ (added attempts) method path = none ↔ ∀ route ∈ added attempts,¬Serves method path route) ∧
      (∀ others,(∀ route,route ∈ added others ↔ route ∈ added attempts) →
        Router.match_ (added others) method path = Router.match_ (added attempts) method path) ∧
      (added attempts = attempts → ∀ others : List Route,others.Perm attempts →
        added others = others ∧ Router.match_ (added others) method path = Router.match_ (added attempts) method path) := by
  have distinct := added_distinct attempts
  refine ⟨fun route => match_some_iff distinct,match_none_iff,fun others same => ?_,fun all others permuted => ?_⟩
  · exact match_congr distinct (added_distinct others) same
  · have also : added others = others := added_all_iff.mpr ((added_all_iff.mp all).perm permuted)
    refine ⟨also,match_congr distinct (added_distinct others) fun route => ?_⟩
    rw [also,all]
    exact permuted.mem_iff

end

def demoRoute (id start : Text) : Route := ⟨⟨id⟩,.get,start,⟨"svc"⟩,false,⟨""⟩,⟨""⟩,⟨""⟩,"",""⟩

theorem longest_route_nested :
    added [demoRoute "b" "/api",demoRoute "a" "/"] = [demoRoute "b" "/api",demoRoute "a" "/"] ∧
      Router.match_ (added [demoRoute "b" "/api",demoRoute "a" "/"]) .get "/api/x" =
        Router.match_ (added [demoRoute "a" "/",demoRoute "b" "/api"]) .get "/api/x" :=
  (longest_route [demoRoute "a" "/",demoRoute "b" "/api"] .get "/api/x").2.2.2 (by decide) _ (List.Perm.swap ..)

example : Router.match_ (added [demoRoute "a" "/",demoRoute "b" "/api"]) .get "/apis" = some (demoRoute "a" "/") := by
  decide

end OpenProof.LongestRoutes
