import OpenProof.Identities

namespace OpenProof.TenantIsolation
open Foundation Identities KeyedTables

-- The calls of `IdentityRepository`, each made under an organization.
inductive Call where
  | add (identity : Identity)
  | findById (id : IdentityId)
  | changeStatus (id : IdentityId) (status : IdentityStatus)
  | idsOfKind (kind : SubjectKind)
  | countIn
  deriving DecidableEq

inductive Answer where
  | status (result : Result Unit)
  | identity (found : Option Identity)
  | ids (listed : List IdentityId)
  | count (total : Nat)

structure Turn where
  organization : OrganizationId
  call : Call
  deriving DecidableEq

-- A turn and what it was answered.
abbrev Event := Turn × Answer

def serve (turn : Turn) (entries : IdentityStore) : Answer × IdentityStore :=
  match turn.call with
  | .add identity =>
    let (result,after) := entries.add turn.organization identity
    (.status result,after)
  | .findById id => (.identity (entries.findById turn.organization id),entries)
  | .changeStatus id status =>
    let (result,after) := entries.changeStatus turn.organization id status
    (.status result,after)
  | .idsOfKind kind => (.ids (entries.idsOfKind turn.organization kind),entries)
  | .countIn => (.count (entries.countIn turn.organization),entries)

def play : List Turn → IdentityStore → List Event × IdentityStore
  | [],entries => ([],entries)
  | turn :: later,entries =>
    let (answer,after) := serve turn entries
    let (events,last) := play later after
    ((turn,answer) :: events,last)

theorem play_cons :
    play (turn :: later) entries = ((turn,(serve turn entries).1) :: (play later (serve turn entries).2).1,
      (play later (serve turn entries).2).2) := rfl

def Adds (organization : OrganizationId) (key : IdentityId) (events : List Event) : Prop :=
  ∃ identity,identity.id = key ∧ (⟨organization,.add identity⟩,Answer.status (.ok ())) ∈ events

def answersTo (organization : OrganizationId) (events : List Event) : List Answer :=
  (events.filter fun event => event.1.organization = organization).map Prod.snd

def Terminal (status : IdentityStatus) : Prop := status = .deleted ∨ status = .merged

-- What later calls may make of a row: another status, and of a tombstone nothing else.
structure Follows (before after : Owned) : Prop where
  organization : after.organization = before.organization
  id : after.identity.id = before.identity.id
  kind : after.identity.kind = before.identity.kind
  createdAt : after.identity.createdAt = before.identity.createdAt
  terminal : Terminal before.identity.status → after = before

namespace Follows

theorem refl (row : Owned) : Follows row row := ⟨rfl,rfl,rfl,rfl,fun _ => rfl⟩

theorem trans (one : Follows first second) (two : Follows second third) : Follows first third := by
  refine ⟨two.organization.trans one.organization,two.id.trans one.id,two.kind.trans one.kind,
    two.createdAt.trans one.createdAt,?_⟩
  intro ended
  obtain rfl := one.terminal ended
  exact two.terminal ended

theorem changeStatus {row : Owned} (changed : row.identity.changeStatus status = .ok next) : Follows row { row with identity := next } := by
  unfold Identity.changeStatus at changed
  split at changed
  · cases changed
  · cases changed
  · rename_i apart still
    cases changed
    refine ⟨rfl,rfl,rfl,rfl,?_⟩
    intro ended
    cases ended with
    | inl deleted => exact absurd deleted apart
    | inr merged => exact absurd merged still

end Follows

section
variable (turn : Turn) (entries : IdentityStore)

theorem serve_cases : (serve turn entries).2 = entries ∧
        (∀ identity,turn.call = .add identity → (serve turn entries).1 ≠ .status (.ok ())) ∨
      (∃ identity,turn.call = .add identity ∧ entries[identity.id]? = none ∧
        serve turn entries = (.status (.ok ()),entries.insert identity.id ⟨turn.organization,identity⟩)) ∨
      ∃ id status row next,turn.call = .changeStatus id status ∧ entries[id]? = some row ∧
        row.organization = turn.organization ∧ row.identity.changeStatus status = .ok next ∧
        serve turn entries = (.status (.ok ()),entries.insert id { row with identity := next }) := by
  obtain ⟨organization,call⟩ := turn
  cases call with
  | add identity =>
    rcases entries.add_cases organization identity with ⟨e,refused⟩ | ⟨free,added⟩
    · exact .inl (by simp [serve,refused])
    · exact .inr (.inl ⟨identity,rfl,free,by simp [serve,added]⟩)
  | changeStatus id status =>
    cases found : entries[id]? with
    | none => exact .inl (by simp [serve,IdentityStore.changeStatus,found])
    | some row =>
      by_cases within : row.organization = organization
      · cases changed : row.identity.changeStatus status with
        | error e => exact .inl (by simp [serve,IdentityStore.changeStatus,found,within,changed])
        | ok next =>
          exact .inr (.inr ⟨id,status,row,next,rfl,found,within,changed,
            by simp [serve,IdentityStore.changeStatus,found,within,changed]⟩)
      · exact .inl (by simp [serve,IdentityStore.changeStatus,found,within])
  | findById | idsOfKind | countIn => exact .inl ⟨rfl,by simp⟩

variable {entries} {key : IdentityId} {row : Owned}

theorem serve_follows (stored : entries[key]? = some row) :
    ∃ after,(serve turn entries).2[key]? = some after ∧ Follows row after := by
  rcases serve_cases turn entries with ⟨same,-⟩ | ⟨identity,-,free,served⟩ | ⟨id,status,old,next,-,found,-,changed,served⟩
  · rw [same]
    exact ⟨row,stored,.refl row⟩
  · have apart : identity.id ≠ key := by
      rintro rfl
      rw [free] at stored
      cases stored
    exact ⟨row,by simp [served,apart,stored],.refl row⟩
  · rw [served]
    by_cases here : id = key
    · obtain rfl := here
      obtain rfl := Option.some.inj (found.symm.trans stored)
      exact ⟨_,by simp,.changeStatus changed⟩
    · exact ⟨row,by simp [here,stored],.refl row⟩

theorem play_follows (turns : List Turn) (stored : entries[key]? = some row) :
    ∃ after,(play turns entries).2[key]? = some after ∧ Follows row after := by
  induction turns generalizing entries row with
  | nil => exact ⟨row,stored,.refl row⟩
  | cons turn later ih =>
    obtain ⟨next,here,one⟩ := serve_follows turn stored
    obtain ⟨last,there,two⟩ := ih here
    exact ⟨last,there,one.trans two⟩

variable {organization : OrganizationId} {identity : Identity}

theorem serve_added (accepted : (serve ⟨organization,.add identity⟩ entries).1 = .status (.ok ())) :
    entries[identity.id]? = none ∧
      (serve ⟨organization,.add identity⟩ entries).2 = entries.insert identity.id ⟨organization,identity⟩ := by
  rcases serve_cases ⟨organization,.add identity⟩ entries with ⟨-,refused⟩ | ⟨added,same,free,served⟩ | ⟨_,_,_,_,other,-⟩
  · exact absurd accepted (refused identity rfl)
  · cases same
    exact ⟨free,by rw [served]⟩
  · cases other

theorem play_taken (stored : entries[key]? = some row) : ¬Adds organization key (play turns entries).1 := by
  induction turns generalizing entries row with
  | nil =>
    intro ⟨_,_,inside⟩
    cases inside
  | cons turn later ih =>
    intro ⟨identity,named,inside⟩
    cases List.mem_cons.mp inside with
    | inl head =>
      obtain ⟨rfl,accepted⟩ := Prod.mk.inj head
      have free := (serve_added accepted.symm).1
      rw [named,stored] at free
      cases free
    | inr tail =>
      obtain ⟨next,here,-⟩ := serve_follows turn stored
      exact ih here ⟨identity,named,tail⟩

theorem play_added (added : (⟨organization,.add identity⟩,Answer.status (.ok ())) ∈ (play turns entries).1) :
    ∃ after,(play turns entries).2[identity.id]? = some after ∧ Follows ⟨organization,identity⟩ after := by
  induction turns generalizing entries with
  | nil => cases added
  | cons turn later ih =>
    rw [play_cons] at added ⊢
    cases List.mem_cons.mp added with
    | inl head =>
      obtain ⟨rfl,accepted⟩ := Prod.mk.inj head
      refine play_follows later ?_
      rw [(serve_added accepted.symm).2]
      simp
    | inr tail => exact ih tail

end

-- Two maps that an organization cannot tell apart, where the keys it adds are nobody else's.
structure Alike (organization : OrganizationId) (mine : IdentityId → Prop) (one two : IdentityStore) : Prop where
  same : ∀ (key : IdentityId) (row : Owned),row.organization = organization → (one[key]? = some row ↔ two[key]? = some row)
  first : ∀ (key : IdentityId) (row : Owned),mine key → one[key]? = some row → row.organization = organization
  second : ∀ (key : IdentityId) (row : Owned),mine key → two[key]? = some row → row.organization = organization

def Respects (organization : OrganizationId) (mine : IdentityId → Prop) (events : List Event) : Prop :=
  ∀ other key,Adds other key events → (other = organization ↔ mine key)

namespace Alike
variable {organization : OrganizationId} {mine : IdentityId → Prop} {one two : IdentityStore} {key : IdentityId}
  {row : Owned}

section
variable (alike : Alike organization mine one two)
include alike

theorem symm : Alike organization mine two one :=
  ⟨fun key row own => (alike.same key row own).symm,alike.second,alike.first⟩

theorem insert_own (own : row.organization = organization) :
    Alike organization mine (one.insert key row) (two.insert key row) := by
  refine ⟨?_,?_,?_⟩
  · intro a found within
    simp only [Map.find_insert]
    split_ifs
    · rfl
    · exact alike.same a found within
  · intro a found taken stored
    rcases Map.insert_cases stored with ⟨-,rfl⟩ | before
    · exact own
    · exact alike.first a found taken before
  · intro a found taken stored
    rcases Map.insert_cases stored with ⟨-,rfl⟩ | before
    · exact own
    · exact alike.second a found taken before

theorem insert_foreign (foreign : row.organization ≠ organization) (apart : ¬mine key)
    (before : ∀ old,one[key]? = some old → old.organization ≠ organization) :
    Alike organization mine (one.insert key row) two := by
  refine ⟨?_,?_,alike.second⟩
  · intro a found within
    rw [← alike.same a found within,Map.find_insert]
    split_ifs with here
    · obtain rfl := here
      constructor
      · intro equal
        cases equal
        exact absurd within foreign
      · intro stored
        exact absurd within (before found stored)
    · rfl
  · intro a found taken stored
    rw [Map.find_insert] at stored
    split_ifs at stored with here
    · obtain rfl := here
      exact absurd taken apart
    · exact alike.first a found taken stored

theorem rows (within : ∀ key row,chosen key row = true → row.organization = organization) :
    rowsWhere chosen one = rowsWhere chosen two :=
  rowsWhere_congr fun key row picked => alike.same key row (within key row picked)

theorem findById (id : IdentityId) : one.findById organization id = two.findById organization id := by
  have reads : ∀ (entries : IdentityStore) (identity : Identity),
      entries.findById organization id = some identity ↔ entries[id]? = some ⟨organization,identity⟩ := by
    intro entries identity
    unfold IdentityStore.findById
    cases entries[id]? with
    | none => simp
    | some owned =>
      obtain ⟨tenant,stored⟩ := owned
      by_cases own : tenant = organization <;> simp [own]
  refine Option.ext fun identity => ?_
  rw [reads,reads]
  exact alike.same id ⟨organization,identity⟩ rfl

theorem holds (taken : mine key) : one.holds key = two.holds key := by
  have carried : ∀ {here there : IdentityStore},Alike organization mine here there →
      here.holds key = true → there.holds key = true := by
    intro here there alike held
    obtain ⟨row,stored⟩ := Option.isSome_iff_exists.mp held
    have own := alike.first key row taken stored
    exact Option.isSome_iff_exists.mpr ⟨row,(alike.same key row own).mp stored⟩
  exact Bool.eq_iff_iff.mpr ⟨carried alike,carried alike.symm⟩

end

end Alike

section
variable {organization : OrganizationId} {mine : IdentityId → Prop} {one two : IdentityStore}

theorem Respects.head (respected : Respects organization mine (event :: later)) :
    Respects organization mine [event] := fun other key ⟨identity,named,inside⟩ =>
  respected other key ⟨identity,named,List.mem_cons.mpr (.inl (List.mem_singleton.mp inside))⟩

theorem Respects.tail (respected : Respects organization mine (event :: later)) :
    Respects organization mine later := fun other key ⟨identity,named,inside⟩ =>
  respected other key ⟨identity,named,List.mem_cons_of_mem _ inside⟩

theorem adds_one (organization : OrganizationId) (identity : Identity)
    (accepted : (serve ⟨organization,.add identity⟩ one).1 = .status (.ok ())) :
    Adds organization identity.id [(⟨organization,.add identity⟩,(serve ⟨organization,.add identity⟩ one).1)] :=
  ⟨identity,rfl,List.mem_singleton.mpr (by rw [accepted])⟩

theorem own_step (alike : Alike organization mine one two) (own : turn.organization = organization)
    (left : Respects organization mine [(turn,(serve turn one).1)])
    (right : Respects organization mine [(turn,(serve turn two).1)]) :
    (serve turn one).1 = (serve turn two).1 ∧ Alike organization mine (serve turn one).2 (serve turn two).2 := by
  obtain ⟨tenant,call⟩ := turn
  obtain rfl : tenant = organization := own
  cases call with
  | add identity =>
    have held : one.holds identity.id = two.holds identity.id := by
      by_cases taken : mine identity.id
      · exact alike.holds taken
      · have refused : ∀ {entries : IdentityStore},
            Respects tenant mine [(⟨tenant,.add identity⟩,(serve ⟨tenant,.add identity⟩ entries).1)] →
              entries.holds identity.id = true := by
          intro entries respected
          by_contra free
          refine taken ((respected tenant identity.id (adds_one tenant identity ?_)).mp rfl)
          simp [serve,IdentityStore.add,free]
        rw [refused left,refused right]
    cases present : two.holds identity.id with
    | true => simpa [serve,IdentityStore.add,held,present] using alike
    | false => simpa [serve,IdentityStore.add,held,present] using alike.insert_own rfl
  | findById id => exact ⟨congrArg Answer.identity (alike.findById id),alike⟩
  | changeStatus id status =>
    by_cases there : ∃ row,one[id]? = some row ∧ row.organization = tenant
    · obtain ⟨⟨holder,identity⟩,stored,within⟩ := there
      obtain rfl : holder = tenant := within
      have also := (alike.same id ⟨holder,identity⟩ rfl).mp stored
      cases changed : identity.changeStatus status with
      | error e => simpa [serve,IdentityStore.changeStatus,stored,also,changed] using alike
      | ok next => simpa [serve,IdentityStore.changeStatus,stored,also,changed] using alike.insert_own rfl
    · have absent : ∀ {entries : IdentityStore},(¬∃ row,entries[id]? = some row ∧ row.organization = tenant) →
          serve ⟨tenant,.changeStatus id status⟩ entries = (.status (.error (.plain .notFound)),entries) := by
        intro entries none
        cases found : entries[id]? with
        | none => simp [serve,IdentityStore.changeStatus,found]
        | some row =>
          have apart : row.organization ≠ tenant := fun within => none ⟨row,found,within⟩
          simp [serve,IdentityStore.changeStatus,found,apart]
      have neither : ¬∃ row,two[id]? = some row ∧ row.organization = tenant := by
        rintro ⟨row,stored,within⟩
        exact there ⟨row,(alike.same id row within).mpr stored,within⟩
      rw [absent there,absent neither]
      exact ⟨rfl,alike⟩
  | idsOfKind kind =>
    refine ⟨congrArg (fun rows : List (IdentityId × Owned) => Answer.ids (rows.map Prod.fst)) (alike.rows ?_),alike⟩
    intro key row picked
    simp only [Bool.and_eq_true,decide_eq_true_eq] at picked
    exact picked.1
  | countIn =>
    refine ⟨congrArg (fun rows : List (IdentityId × Owned) => Answer.count rows.length) (alike.rows ?_),alike⟩
    intro key row picked
    exact decide_eq_true_eq.mp picked

theorem foreign_step (alike : Alike organization mine one two) (foreign : turn.organization ≠ organization)
    (respected : Respects organization mine [(turn,(serve turn one).1)]) :
    Alike organization mine (serve turn one).2 two := by
  rcases serve_cases turn one with ⟨same,-⟩ | ⟨identity,added,free,served⟩ | ⟨id,status,row,next,-,stored,within,-,served⟩
  · rw [same]
    exact alike
  · obtain ⟨tenant,call⟩ := turn
    obtain rfl : call = .add identity := added
    have accepted := adds_one tenant identity (congrArg Prod.fst served)
    rw [served]
    refine alike.insert_foreign foreign ?_ ?_
    · intro taken
      exact foreign ((respected _ _ accepted).mpr taken)
    · intro old stored
      rw [free] at stored
      cases stored
  · have other : row.organization ≠ organization := by rwa [within]
    rw [served]
    refine alike.insert_foreign other ?_ ?_
    · intro taken
      exact other (alike.first id row taken stored)
    · intro old found
      cases stored.symm.trans found
      exact other

end

inductive Interleaved (organization : OrganizationId) : List Turn → List Turn → Prop where
  | nil : Interleaved organization [] []
  | left {turn first second} (foreign : turn.organization ≠ organization) (later : Interleaved organization first second) :
      Interleaved organization (turn :: first) second
  | right {turn first second} (foreign : turn.organization ≠ organization) (later : Interleaved organization first second) :
      Interleaved organization first (turn :: second)
  | both {turn first second} (own : turn.organization = organization) (later : Interleaved organization first second) :
      Interleaved organization (turn :: first) (turn :: second)

def callsOf (organization : OrganizationId) (turns : List Turn) : List Turn :=
  turns.filter fun turn => turn.organization = organization

theorem interleaved_of_calls {organization : OrganizationId}
    (same : callsOf organization first = callsOf organization second) : Interleaved organization first second := by
  induction first generalizing second with
  | nil =>
    induction second with
    | nil => exact .nil
    | cons turn second ih =>
      have foreign : turn.organization ≠ organization := by
        intro own
        simp [callsOf,own] at same
      exact .right foreign (ih (by simpa [callsOf,foreign] using same))
  | cons turn first outer =>
    by_cases own : turn.organization = organization
    · induction second with
      | nil => simp [callsOf,own] at same
      | cons next second inner =>
        by_cases also : next.organization = organization
        · simp only [callsOf,List.filter_cons,own,also,decide_true,if_true,List.cons.injEq] at same
          obtain ⟨rfl,rest⟩ := same
          exact .both own (outer rest)
        · exact .right also (inner (by simpa [callsOf,also] using same))
    · exact .left own (outer (by simpa [callsOf,own] using same))

theorem play_alike {organization : OrganizationId} {mine : IdentityId → Prop}
    (interleaved : Interleaved organization first second) {one two : IdentityStore}
    (alike : Alike organization mine one two) (left : Respects organization mine (play first one).1)
    (right : Respects organization mine (play second two).1) :
    answersTo organization (play first one).1 = answersTo organization (play second two).1 := by
  induction interleaved generalizing one two with
  | nil => rfl
  | left foreign later ih =>
    rw [play_cons] at left ⊢
    simpa [answersTo,foreign] using ih (foreign_step alike foreign left.head) left.tail right
  | right foreign later ih =>
    rw [play_cons] at right ⊢
    simpa [answersTo,foreign] using ih (foreign_step alike.symm foreign right.head).symm left right.tail
  | both own later ih =>
    rw [play_cons] at left right ⊢
    rw [play_cons]
    obtain ⟨answered,after⟩ := own_step alike own left.head right.head
    simpa [answersTo,own,answered] using ih after left.tail right.tail

-- Keys stay with their tenant for good, tombstones stay as they are, and what other tenants do
-- shows in no answer as long as the keys that one adds are not the keys that another adds.
theorem tombstones_and_isolation (organization : OrganizationId) : (∀ (turns later : List Turn) (identity : Identity),
      (⟨organization,.add identity⟩,Answer.status (.ok ())) ∈ (play turns ∅).1 →
        (∃ row,(play later (play turns ∅).2).2[identity.id]? = some row ∧ row.organization = organization ∧
          row.identity.id = identity.id ∧ row.identity.kind = identity.kind ∧
          row.identity.createdAt = identity.createdAt) ∧
        ∀ other,¬Adds other identity.id (play later (play turns ∅).2).1) ∧
    (∀ (turns later : List Turn) (key : IdentityId) (row : Owned),(play turns ∅).2[key]? = some row →
      Terminal row.identity.status → (play later (play turns ∅).2).2[key]? = some row) ∧
    ∀ first second : List Turn,callsOf organization first = callsOf organization second →
      (∀ other key,other ≠ organization → Adds other key (play first ∅).1 ∨ Adds other key (play second ∅).1 →
        ¬Adds organization key (play first ∅).1 ∧ ¬Adds organization key (play second ∅).1) →
      answersTo organization (play first ∅).1 = answersTo organization (play second ∅).1 := by
  refine ⟨?_,?_,?_⟩
  · intro turns later identity added
    obtain ⟨now,here,since⟩ := play_added added
    obtain ⟨row,stored,kept⟩ := play_follows later here
    have whole := since.trans kept
    exact ⟨⟨row,stored,whole.organization,whole.id,whole.kind,whole.createdAt⟩,fun other => play_taken here⟩
  · intro turns later key row stored ended
    obtain ⟨after,there,kept⟩ := play_follows later stored
    rwa [kept.terminal ended] at there
  · intro first second same apart
    let mine key := Adds organization key (play first ∅).1 ∨ Adds organization key (play second ∅).1
    have respects : ∀ events,(∀ other key,Adds other key events → Adds other key (play first ∅).1 ∨
        Adds other key (play second ∅).1) → Respects organization mine events := by
      intro events within other key added
      constructor
      · intro own
        obtain rfl := own
        exact within other key added
      · intro taken
        by_contra foreign
        obtain ⟨notFirst,notSecond⟩ := apart other key foreign (within other key added)
        cases taken with
        | inl inFirst => exact notFirst inFirst
        | inr inSecond => exact notSecond inSecond
    have start : Alike organization mine ∅ ∅ := ⟨by simp,by simp,by simp⟩
    exact play_alike (interleaved_of_calls same) start (respects _ fun _ _ => .inl) (respects _ fun _ _ => .inr)

theorem tombstones_and_isolation_two_tenants :
    answersTo ⟨"a"⟩ (play [⟨⟨"a"⟩,.add ⟨⟨"x"⟩,.human,.active,0⟩⟩,⟨⟨"b"⟩,.changeStatus ⟨"x"⟩ .deleted⟩,
        ⟨⟨"a"⟩,.findById ⟨"x"⟩⟩] ∅).1 =
      answersTo ⟨"a"⟩ (play [⟨⟨"a"⟩,.add ⟨⟨"x"⟩,.human,.active,0⟩⟩,⟨⟨"a"⟩,.findById ⟨"x"⟩⟩] ∅).1 := by
  refine (tombstones_and_isolation ⟨"a"⟩).2.2 _ _ (by decide) ?_
  intro other key foreign added
  exfalso
  simp [Adds,play] at added
  grind

end OpenProof.TenantIsolation
