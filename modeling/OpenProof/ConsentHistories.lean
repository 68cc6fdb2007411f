import OpenProof.Consents

namespace OpenProof.ConsentHistories
open Foundation Consents Clients ConsentStore Identities List

inductive ConsentCall where
  | covers (identity : IdentityId) (clientId : ClientId) (audience : Text) (scopes : List Text)
  | grant (identity : IdentityId) (clientId : ClientId) (audience : Text) (scopes : List Text)
      (lifetime : Option Duration) (drawn : Result Text)
  | revoke (id : ConsentId) (identity : IdentityId)

namespace ConsentService

def covers (identity : IdentityId) (clientId : ClientId) (audience : Text) (scopes : List Text) (now : Instant)
    (store : ConsentStore) : Result Bool :=
  .ok ((store.findActive identity clientId audience now).any fun found => found.covers scopes)

def drawUp (identity : IdentityId) (clientId : ClientId) (audience : Text) (scopes : List Text)
    (lifetime : Option Duration) (drawn : Result Text) (now : Instant) : Result ConsentGrant := do
  if lifetime.any (· ≤ 0) then .error (.plain .invalidArgument)
  else
    let random ← drawn
    ConsentGrant.create ⟨Text.of "opcns_" ++ random⟩ identity clientId audience scopes now (lifetime.map (now+·))

def grant (identity : IdentityId) (clientId : ClientId) (audience : Text) (scopes : List Text)
    (lifetime : Option Duration) (drawn : Result Text) (now : Instant) (store : ConsentStore) :
    Result ConsentGrant × ConsentStore :=
  match drawUp identity clientId audience scopes lifetime drawn now with
  | .error e => (.error e,store)
  | .ok grant => (.ok grant,store.save grant)

def revoke (id : ConsentId) (identity : IdentityId) (now : Instant) (store : ConsentStore) :
    Result Unit × ConsentStore := store.revoke id identity now

end ConsentService

structure Turn where
  now : Instant
  call : ConsentCall

def Turn.leave (turn : Turn) (store : ConsentStore) : ConsentStore :=
  match turn.call with
  | .covers .. => store
  | .grant identity clientId audience scopes lifetime drawn =>
    (ConsentService.grant identity clientId audience scopes lifetime drawn turn.now store).2
  | .revoke id identity => (ConsentService.revoke id identity turn.now store).2

def Turn.made (turn : Turn) : Option ConsentGrant :=
  match turn.call with
  | .grant identity clientId audience scopes lifetime drawn =>
    (ConsentService.drawUp identity clientId audience scopes lifetime drawn turn.now).toOption
  | _ => none

def after (turns : List Turn) : ConsentStore := turns.foldl (fun store turn => turn.leave store) ∅

def made (turns : List Turn) : List ConsentGrant := turns.filterMap Turn.made

structure Triple where
  identity : IdentityId
  client : ClientId
  audience : Text
  deriving DecidableEq

def tripleOf (grant : ConsentGrant) : Triple := ⟨grant.identity,grant.client,grant.audience⟩

def latest (triple : Triple) (turns : List Turn) : Option ConsentGrant :=
  ((made turns).filter fun grant => tripleOf grant = triple).getLast?

def Unrepeated (turns : List Turn) : Prop := ((made turns).map ConsentGrant.id).Nodup

def asMade (grant : ConsentGrant) : ConsentGrant := { grant with revokedAt := none }

def Spent (grant : ConsentGrant) (now : Instant) : Prop :=
  grant.revokedAt.isSome = true ∨ ∃ expiry,grant.expiresAt = some expiry ∧ expiry ≤ now

section
variable {grant : ConsentGrant} {now : Instant}

theorem inactive_spent : grant.activeAt now = false ↔ Spent grant now := by
  unfold ConsentGrant.activeAt Spent
  cases grant.revokedAt <;> cases grant.expiresAt <;> simp

theorem Spent.lasts (spent : Spent grant now) (onward : now ≤ later) : Spent grant later := by
  rcases spent with revoked | ⟨expiry,same,past⟩
  · exact .inl revoked
  · exact .inr ⟨expiry,same,le_trans past onward⟩

theorem made_fresh {turn : Turn} (makes : turn.made = some grant) :
    asMade grant = grant ∧ grant.grantedAt = turn.now ∧ ∀ store,turn.leave store = store.save grant := by
  unfold Turn.made at makes
  split at makes
  · rename_i identity clientId audience scopes lifetime drawn asked
    cases drew : ConsentService.drawUp identity clientId audience scopes lifetime drawn turn.now with
    | error e =>
      rw [drew] at makes
      cases makes
    | ok value =>
      rw [drew] at makes
      cases makes
      have fresh : asMade grant = grant ∧ grant.grantedAt = turn.now := by
        obtain ⟨-,onward⟩ := passed drew
        obtain ⟨random,-,created⟩ := bind_ok onward
        obtain ⟨rfl,-⟩ := ConsentGrant.create_spec created
        exact ⟨rfl,rfl⟩
      refine ⟨fresh.1,fresh.2,?_⟩
      intro store
      simp [Turn.leave,asked,ConsentService.grant,drew]
  · cases makes

end

theorem after_concat (turns : List Turn) (turn : Turn) : after (turns ++ [turn]) = turn.leave (after turns) := by
  simp [after]

theorem made_append : made (one ++ two) = made one ++ made two := filterMap_append

theorem made_concat {turn : Turn} : made (turns ++ [turn]) = made turns ++ turn.made.toList := by
  rw [made_append]
  cases makes : turn.made <;> simp [made,makes]

theorem Unrepeated.split (distinct : Unrepeated (one ++ two)) :
    Unrepeated one ∧ ∀ grant ∈ made one,∀ other ∈ made two,grant.id ≠ other.id := by
  unfold Unrepeated at distinct
  rw [made_append,map_append,nodup_append] at distinct
  obtain ⟨earlier,-,apart⟩ := distinct
  exact ⟨earlier,fun grant inside other inside' => apart _ (mem_map_of_mem inside) _ (mem_map_of_mem inside')⟩

section
variable {triple : Triple} {turns : List Turn} {turn : Turn} {grant : ConsentGrant}

theorem latest_same (none_ : ∀ grant,turn.made = some grant → tripleOf grant ≠ triple) :
    latest triple (turns ++ [turn]) = latest triple turns := by
  unfold latest
  rw [made_concat]
  cases makes : turn.made with
  | none => simp
  | some grant => simp [none_ grant makes]

theorem latest_made (makes : turn.made = some grant) : latest (tripleOf grant) (turns ++ [turn]) = some grant := by
  unfold latest
  rw [made_concat,makes]
  simp

end

-- What a store holds after a run: every grant made, and none in force but the latest of its triple.
structure Accounted (turns : List Turn) (store : ConsentStore) : Prop where
  stored : ∀ (id : ConsentId) (grant : ConsentGrant),store[id]? = some grant → grant.id = id ∧ asMade grant ∈ made turns
  known : ∀ grant ∈ made turns,∃ found : ConsentGrant,store[grant.id]? = some found ∧ asMade found = grant
  superseded : ∀ (id : ConsentId) (grant : ConsentGrant),store[id]? = some grant →
    latest (tripleOf grant) turns ≠ some (asMade grant) → ∀ now,(∀ turn ∈ turns,turn.now ≤ now) → Spent grant now

section
variable {turns : List Turn} {store : ConsentStore} {turn : Turn} {grant : ConsentGrant}

theorem start_accounted : Accounted [] ∅ where
  stored id grant found := by simp at found
  known grant inside := by cases inside
  superseded id grant found := by simp at found

theorem find_save (id : ConsentId) : (store.save grant)[id]? = if grant.id = id then some grant else
    store[id]?.map fun value => if sameGrantee value grant && value.activeAt grant.grantedAt then
      value.revoke grant.grantedAt else value := by
  unfold ConsentStore.save
  rw [Map.find_insert,Map.find_map]

theorem sameGrantee_triple : sameGrantee one two = true ↔ tripleOf one = tripleOf two := by
  simp [sameGrantee,tripleOf,and_assoc]

theorem revoke_cases (store : ConsentStore) (id : ConsentId) (identity : IdentityId) (now : Instant) :
    (∃ e,store.revoke id identity now = (.error e,store)) ∨ ∃ found : ConsentGrant,store[id]? = some found ∧
      store.revoke id identity now = (.ok (),store.insert id (found.revoke now)) := by
  unfold ConsentStore.revoke
  split
  · exact .inl ⟨_,rfl⟩
  · rename_i found there
    split
    · exact .inl ⟨_,rfl⟩
    · exact .inr ⟨found,there,rfl⟩

theorem leave_unmade (silent : turn.made = none) (id : ConsentId) : (turn.leave store)[id]? = store[id]? ∨
    ∃ found : ConsentGrant,store[id]? = some found ∧ (turn.leave store)[id]? = some (found.revoke turn.now) := by
  unfold Turn.made at silent
  unfold Turn.leave
  split
  · exact .inl rfl
  · rename_i identity clientId audience scopes lifetime drawn asked
    rw [asked] at silent
    left
    cases drew : ConsentService.drawUp identity clientId audience scopes lifetime drawn turn.now with
    | error e => simp [ConsentService.grant,drew]
    | ok value =>
      simp only [drew] at silent
      cases silent
  · rename_i revoked identity asked
    unfold ConsentService.revoke
    rcases revoke_cases store revoked identity turn.now with ⟨e,same⟩ | ⟨found,there,same⟩
    · rw [same]
      exact .inl rfl
    · rw [same]
      by_cases mine : revoked = id
      · subst mine
        exact .inr ⟨found,there,by simp⟩
      · exact .inl (by simp [mine])

theorem Accounted.unmade (accounted : Accounted turns store) (silent : turn.made = none) :
    Accounted (turns ++ [turn]) (turn.leave store) := by
  have all : made (turns ++ [turn]) = made turns := by rw [made_concat,silent]; simp
  have last : ∀ triple,latest triple (turns ++ [turn]) = latest triple turns := by
    intro triple
    apply latest_same
    rw [silent]
    rintro grant impossible
    cases impossible
  constructor
  · intro id grant found
    rw [all]
    rcases leave_unmade silent id with same | ⟨before,there,same⟩
    · exact accounted.stored id grant (same ▸ found)
    · cases same.symm.trans found
      exact accounted.stored id before there
  · intro grant inside
    rw [all] at inside
    obtain ⟨found,there,same⟩ := accounted.known grant inside
    rcases leave_unmade silent grant.id with kept | ⟨before,stored,kept⟩
    · exact ⟨found,kept.trans there,same⟩
    · cases stored.symm.trans there
      exact ⟨_,kept,same⟩
  · intro id grant found older now past
    rw [last] at older
    have earlier : ∀ turn ∈ turns,turn.now ≤ now := fun turn inside => past turn (mem_append_left _ inside)
    rcases leave_unmade silent id with same | ⟨before,there,same⟩
    · exact accounted.superseded id grant (same ▸ found) older now earlier
    · cases same.symm.trans found
      exact .inl rfl

theorem Accounted.grown (accounted : Accounted turns store) (makes : turn.made = some grant)
    (fresh : ∀ earlier ∈ made turns,earlier.id ≠ grant.id) : Accounted (turns ++ [turn]) (turn.leave store) := by
  obtain ⟨plain,at_,saves⟩ := made_fresh makes
  have all : made (turns ++ [turn]) = made turns ++ [grant] := by
    rw [made_concat,makes,Option.toList_some]
  have absent : store[grant.id]? = none := by
    cases there : store[grant.id]? with
    | none => rfl
    | some old =>
      obtain ⟨same,inside⟩ := accounted.stored _ old there
      exact absurd same (fresh (asMade old) inside)
  rw [saves store]
  constructor
  · intro id other found
    rw [all]
    rw [find_save] at found
    split at found
    · rename_i same
      cases found
      exact ⟨same,by simp [plain]⟩
    · obtain ⟨old,there,rfl⟩ := Option.map_eq_some_iff.mp found
      obtain ⟨same,inside⟩ := accounted.stored id old there
      split
      · exact ⟨same,mem_append_left _ inside⟩
      · exact ⟨same,mem_append_left _ inside⟩
  · intro other inside
    rw [all] at inside
    rw [find_save]
    rcases mem_append.mp inside with old | new
    · obtain ⟨found,there,same⟩ := accounted.known other old
      rw [if_neg (Ne.symm (fresh other old)),there,Option.map_some]
      split
      · exact ⟨_,rfl,same⟩
      · exact ⟨found,rfl,same⟩
    · cases mem_singleton.mp new
      rw [if_pos rfl]
      exact ⟨grant,rfl,plain⟩
  · intro id other found older now past
    rw [find_save] at found
    split at found
    · cases found
      rw [latest_made makes,plain] at older
      exact absurd rfl older
    · obtain ⟨old,there,rfl⟩ := Option.map_eq_some_iff.mp found
      have onward : turn.now ≤ now := past turn (by simp)
      by_cases same : sameGrantee old grant = true
      · by_cases active : old.activeAt grant.grantedAt = true
        · rw [same,active]
          exact .inl rfl
        · have spent := inactive_spent.mp (Bool.eq_false_iff.mpr active)
          rw [same,Bool.true_and,if_neg active]
          rw [at_] at spent
          exact spent.lasts onward
      · have apart : ∀ g,turn.made = some g → tripleOf g ≠ tripleOf old := by
          intro g makes' triple
          cases makes.symm.trans makes'
          exact same (sameGrantee_triple.mpr triple.symm)
        rw [Bool.eq_false_iff.mpr same,Bool.false_and,if_neg Bool.false_ne_true] at older ⊢
        rw [latest_same apart] at older
        exact accounted.superseded id old there older now fun turn inside => past turn (mem_append_left _ inside)

theorem after_accounted {turns : List Turn} (distinct : Unrepeated turns) : Accounted turns (after turns) := by
  induction turns using reverseRecOn with
  | nil => exact start_accounted
  | append_singleton front turn ih =>
    obtain ⟨earlier,apart⟩ := distinct.split
    rw [after_concat]
    cases makes : turn.made with
    | none => exact (ih earlier).unmade makes
    | some grant =>
      apply (ih earlier).grown makes
      intro old inside
      exact apart old inside grant (by simp [made,makes])

end

section
variable {turns : List Turn} {triple : Triple} {now : Instant} {store : ConsentStore}

theorem active_latest (accounted : Accounted turns store) (past : ∀ turn ∈ turns,turn.now ≤ now) {id : ConsentId}
    {grant : ConsentGrant} (found : store[id]? = some grant) (active : grant.activeAt now = true) :
    latest (tripleOf grant) turns = some (asMade grant) := by
  by_contra other
  have spent := accounted.superseded id grant found other now past
  rw [inactive_spent.mpr spent] at active
  cases active

theorem active_one (accounted : Accounted turns store) (past : ∀ turn ∈ turns,turn.now ≤ now)
    (inside : one ∈ store.elements) (inside' : two ∈ store.elements) (same : tripleOf one = tripleOf two)
    (active : one.activeAt now = true) (active' : two.activeAt now = true) : one = two := by
  obtain ⟨id,found⟩ := Map.mem_elements.mp inside
  obtain ⟨id',found'⟩ := Map.mem_elements.mp inside'
  have first := active_latest accounted past found active
  have second := active_latest accounted past found' active'
  rw [same,second] at first
  have made_ : asMade two = asMade one := Option.some.inj first
  have names : (asMade two).id = (asMade one).id := by rw [made_]
  change two.id = one.id at names
  obtain ⟨rfl,-⟩ := accounted.stored id one found
  obtain ⟨rfl,-⟩ := accounted.stored id' two found'
  rw [names] at found'
  exact Option.some.inj (found.symm.trans found')

theorem covers_iff (accounted : Accounted turns store) (past : ∀ turn ∈ turns,turn.now ≤ now) :
    ConsentService.covers triple.identity triple.client triple.audience scopes now store = .ok true ↔
      ∃ grant stored : ConsentGrant,latest triple turns = some grant ∧ store[grant.id]? = some stored ∧
        stored.activeAt now = true ∧ ∀ scope ∈ scopes,scope ∈ stored.scopes.items := by
  unfold ConsentService.covers ConsentStore.findActive
  rw [Except.ok.injEq,Option.any_eq_true]
  constructor
  · rintro ⟨found,sought,covered⟩
    have inside := mem_of_find?_eq_some sought
    have matches_ := find?_some sought
    simp only [Bool.and_eq_true,decide_eq_true_eq] at matches_
    obtain ⟨⟨⟨identity,client⟩,audience⟩,active⟩ := matches_
    have mine : tripleOf found = triple := by
      unfold tripleOf
      rw [identity,client,audience]
    obtain ⟨id,there⟩ := Map.mem_elements.mp inside
    obtain ⟨rfl,-⟩ := accounted.stored id found there
    have last := active_latest accounted past there active
    rw [mine] at last
    exact ⟨asMade found,found,last,there,active,(SortedList.SortedSet.containsAll_eq_true _ _).mp covered⟩
  · rintro ⟨grant,stored,last,there,active,covered⟩
    have mine : tripleOf grant = triple := by
      have inside := mem_of_getLast? last
      exact of_decide_eq_true (mem_filter.mp inside).2
    have made_ : grant ∈ made turns := mem_of_mem_filter (mem_of_getLast? last)
    obtain ⟨found,there',same⟩ := accounted.known grant made_
    cases there.symm.trans there'
    have same_triple : tripleOf stored = triple := by rw [← mine,← same]; rfl
    have listed : stored ∈ store.elements := Map.mem_elements.mpr ⟨_,there⟩
    have wanted : (decide (stored.identity = triple.identity) && decide (stored.client = triple.client)
        && decide (stored.audience = triple.audience) && stored.activeAt now) = true := by
      rw [← same_triple,active]
      simp [tripleOf]
    cases sought : store.elements.find? fun value => decide (value.identity = triple.identity) &&
        decide (value.client = triple.client) && decide (value.audience = triple.audience) && value.activeAt now with
    | none =>
      have refused := find?_eq_none.mp sought stored listed
      exact absurd wanted refused
    | some other =>
      have matches_ := find?_some sought
      simp only [Bool.and_eq_true,decide_eq_true_eq] at matches_
      obtain ⟨⟨⟨identity,client⟩,audience⟩,active'⟩ := matches_
      have other_triple : tripleOf other = tripleOf stored := by
        rw [same_triple,tripleOf,identity,client,audience]
      obtain rfl := active_one accounted past (mem_of_find?_eq_some sought) listed other_triple active' active
      exact ⟨other,rfl,(SortedList.SortedSet.containsAll_eq_true _ _).mpr covered⟩

end

section
variable {before rest : List Turn} {turn : Turn} {triple : Triple} {id : ConsentId} {store : ConsentStore}

def Revoked (id : ConsentId) (store : ConsentStore) : Prop :=
  ∃ grant : ConsentGrant,store[id]? = some grant ∧ grant.revokedAt.isSome = true

theorem leave_revoked (revoked : Revoked id store) (other : ∀ grant,turn.made = some grant → grant.id ≠ id) :
    Revoked id (turn.leave store) := by
  obtain ⟨grant,there,over_⟩ := revoked
  cases makes : turn.made with
  | none =>
    rcases leave_unmade makes id with same | ⟨found,-,same⟩
    · exact ⟨grant,same.trans there,over_⟩
    · exact ⟨_,same,rfl⟩
  | some new =>
    obtain ⟨-,-,saves⟩ := made_fresh makes
    rw [saves]
    refine ⟨_,by rw [find_save,if_neg (other new makes),there,Option.map_some],?_⟩
    split
    · rfl
    · exact over_

theorem revoked_stays (revoked : Revoked id (after before)) (other : ∀ grant ∈ made rest,grant.id ≠ id) :
    Revoked id (after (before ++ rest)) := by
  induction rest using reverseRecOn with
  | nil => rwa [append_nil]
  | append_singleton front turn ih =>
    rw [← append_assoc,after_concat]
    rw [made_concat] at other
    apply leave_revoked (ih fun grant inside => other grant (mem_append_left _ inside))
    intro grant makes
    exact other grant (by simp [makes])

theorem latest_silent (silent : ∀ turn ∈ rest,∀ grant,turn.made = some grant → tripleOf grant ≠ triple) :
    latest triple (before ++ rest) = latest triple before := by
  induction rest using reverseRecOn with
  | nil => rw [append_nil]
  | append_singleton front turn ih =>
    rw [← append_assoc,latest_same (silent turn (by simp))]
    exact ih fun turn inside => silent turn (mem_append_left _ inside)

theorem revoke_leaves {now : Instant} (done : (ConsentService.revoke id identity now store).1 = .ok ()) :
    Revoked id (ConsentService.revoke id identity now store).2 := by
  unfold ConsentService.revoke at done ⊢
  rcases revoke_cases store id identity now with ⟨e,same⟩ | ⟨found,there,same⟩
  · rw [same] at done
    cases done
  · rw [same]
    exact ⟨found.revoke now,by simp,rfl⟩

end

theorem uncovered {turns : List Turn} {triple : Triple} {grant : ConsentGrant} {now : Instant}
    (accounted : Accounted turns (after turns)) (past : ∀ turn ∈ turns,turn.now ≤ now)
    (last : latest triple turns = some grant) (revoked : Revoked grant.id (after turns)) (scopes : List Text) :
    ConsentService.covers triple.identity triple.client triple.audience scopes now (after turns) = .ok false := by
  cases answer : (ConsentStore.findActive triple.identity triple.client triple.audience now (after turns)).any
      fun found => found.covers scopes with
  | false => rw [ConsentService.covers,answer]
  | true =>
    have covered := congrArg (fun covered => (.ok covered : Result _)) answer
    obtain ⟨other,stored,last',there,active,-⟩ := (covers_iff accounted past).mp covered
    cases last.symm.trans last'
    obtain ⟨found,there',over_⟩ := revoked
    cases there.symm.trans there'
    rw [inactive_spent.mpr (.inl over_)] at active
    cases active

theorem consents_tracked (turns : List Turn) (distinct : Unrepeated turns) (now : Instant)
    (past : ∀ turn ∈ turns,turn.now ≤ now) :
    (∀ one ∈ (after turns).elements,∀ two ∈ (after turns).elements,tripleOf one = tripleOf two →
      one.activeAt now = true → two.activeAt now = true → one = two) ∧ (∀ triple scopes,
      ConsentService.covers triple.identity triple.client triple.audience scopes now (after turns) = .ok true ↔
        ∃ grant stored : ConsentGrant,latest triple turns = some grant ∧ (after turns)[grant.id]? = some stored ∧
          stored.activeAt now = true ∧ ∀ scope ∈ scopes,scope ∈ stored.scopes.items) ∧
    ∀ before (rest : List Turn) at_ grant identity triple,turns = before ++ ⟨at_,.revoke grant.id identity⟩ :: rest →
      (ConsentService.revoke grant.id identity at_ (after before)).1 = .ok () → latest triple before = some grant →
        (∀ turn ∈ rest,∀ grant,turn.made = some grant → tripleOf grant ≠ triple) → ∀ scopes,
          ConsentService.covers triple.identity triple.client triple.audience scopes now (after turns) = .ok false := by
  have accounted := after_accounted distinct
  refine ⟨?_,fun triple scopes => covers_iff accounted past,?_⟩
  · intro one inside two inside' same active active'
    exact active_one accounted past inside inside' same active active'
  · rintro before rest at_ grant identity triple rfl done last silent scopes
    have shape : before ++ ⟨at_,.revoke grant.id identity⟩ :: rest =
        (before ++ [⟨at_,.revoke grant.id identity⟩]) ++ rest := by simp
    rw [shape] at accounted past distinct ⊢
    have before_ : latest triple (before ++ [⟨at_,.revoke grant.id identity⟩]) = some grant := by
      rw [latest_same]
      · exact last
      · rintro other impossible
        cases impossible
    apply uncovered accounted past ((latest_silent silent).trans before_)
    apply revoked_stays
    · rw [after_concat]
      exact revoke_leaves done
    · intro other inside same
      have mine : grant ∈ made before := List.mem_of_mem_filter (List.mem_of_getLast? last)
      have early : grant ∈ made (before ++ [⟨at_,.revoke grant.id identity⟩]) := by
        rw [made_append]
        exact List.mem_append_left _ mine
      exact distinct.split.2 grant early other inside same.symm

def demoGrant (drawn : Text) (now : Instant) : Turn :=
  ⟨now,.grant ⟨"ann"⟩ ⟨"web"⟩ "api" ["read"] none (.ok drawn)⟩

def demoTriple : Triple := ⟨⟨"ann"⟩,⟨"web"⟩,"api"⟩

def demoGranted (id : Text) (now : Instant) : ConsentGrant :=
  ⟨⟨id⟩,⟨"ann"⟩,⟨"web"⟩,"api",.ofList ["read"],now,none,none⟩

def demoRevoke (id : Text) : Turn := ⟨2,.revoke ⟨id⟩ ⟨"ann"⟩⟩

theorem consents_tracked_pair :
    ConsentService.covers ⟨"ann"⟩ ⟨"web"⟩ "api" ["read"] 1 (after [demoGrant "1" 0,demoGrant "2" 1]) = .ok true ∧
      ConsentService.covers ⟨"ann"⟩ ⟨"web"⟩ "api" ["read"] 3
        (after [demoGrant "1" 0,demoGrant "2" 1,demoRevoke "opcns_2"]) = .ok false := by
  constructor
  · have tracked := consents_tracked [demoGrant "1" 0,demoGrant "2" 1] (by unfold Unrepeated; decide) 1
      (by decide)
    refine (tracked.2.1 demoTriple ["read"]).mpr ⟨demoGranted "opcns_2" 1,demoGranted "opcns_2" 1,?_,?_,?_,?_⟩
    · decide
    · decide
    · decide
    · intro scope inside
      exact (SortedList.SortedSet.mem_ofList scope ["read"]).mpr inside
  · have tracked := consents_tracked [demoGrant "1" 0,demoGrant "2" 1,demoRevoke "opcns_2"]
      (by unfold Unrepeated; decide) 3 (by decide)
    refine tracked.2.2 [demoGrant "1" 0,demoGrant "2" 1] [] 2 (demoGranted "opcns_2" 1) ⟨"ann"⟩ demoTriple rfl ?_ ?_ ?_ _
    · decide
    · decide
    · exact List.forall_mem_nil _

-- To revoke a grant that another has superseded takes nothing away.
theorem superseded_covered : ¬∀ (turns : List Turn) (now : Instant),Unrepeated turns →
    turns.Pairwise (fun one two => one.now ≤ two.now) → (∀ turn ∈ turns,turn.now ≤ now) →
      ∀ before (rest : List Turn) at_ id identity grant,turns = before ++ ⟨at_,.revoke id identity⟩ :: rest →
        (after before)[id]? = some grant → (ConsentService.revoke id identity at_ (after before)).1 = .ok () →
          (∀ turn ∈ rest,∀ other,turn.made = some other → tripleOf other ≠ tripleOf grant) → ∀ scopes,
            ConsentService.covers grant.identity grant.client grant.audience scopes now (after turns) = .ok false := by
  intro always
  have gone := always [demoGrant "1" 0,demoGrant "2" 1,demoRevoke "opcns_1"] 3 (by unfold Unrepeated; decide)
    (by decide) (by decide) [demoGrant "1" 0,demoGrant "2" 1] [] 2 ⟨"opcns_1"⟩ ⟨"ann"⟩
    ((demoGranted "opcns_1" 0).revoke 1) rfl (by decide) (by decide) (List.forall_mem_nil _) ["read"]
  exact absurd gone (by decide)

end OpenProof.ConsentHistories
