import OpenProof.CallHistories
import OpenProof.ScimRemovals

namespace OpenProof.RemovedMemberships
open CallTraces CallLogs CallHistories Foundation Memberships ScimDirectory ScimWorld ScimService ScimRemovals
open CallProtocols AtomicPrograms.Prog
open Identities (IdentityId OrganizationId)

abbrev ScimTrace := List (Exchange ScimOp ScimOp.Ret)
abbrev ScimEntry := Entry ScimOp ScimOp.Ret ScimState

inductive Request where
  | create (userName : Text) (externalId : Option Text) (active : Bool) (displayName email : Option Text)
  | replace (id : IdentityId) (userName : Text) (externalId : Option Text) (active : Bool) (displayName email : Option Text)
  | remove (id : IdentityId)

inductive Reply where
  | viewed (view : UserView)
  | removed

def calling (organization : OrganizationId) : Request → ScimCall Reply
  | .create userName externalId active displayName email =>
    (createUser organization userName externalId active displayName email).bind fun view => .ret (.viewed view)
  | .replace id userName externalId active displayName email =>
    (replaceUser organization id userName externalId active displayName email).bind fun view => .ret (.viewed view)
  | .remove id => (ScimService.removeUser organization id).bind fun _ => .ret .removed

abbrev ScimFloor := Floor ScimOp ScimOp.Ret Error Reply ScimState

def membershipStage : Stage ScimOp ScimOp.Ret ScimState where
  exec := exec
  drift before after := after.memberships = before.memberships

def Serves (floor : ScimFloor) : Prop :=
  ∀ m ∈ floor.members,∃ organization request,m.begun = calling organization request

def Saves (past : ScimTrace) : ScimOp → Prop
  | .saveMembership membership => ∃ organization id current,
      ⟨.findMembership organization id,.ok (some current)⟩ ∈ past ∧ current.state ≠ .removed ∧
        membership.key = current.key
  | _ => True

section
variable {organization : OrganizationId} {id : IdentityId} {past : ScimTrace}

theorem hydrate_saves : Follows (remembering Saves) (fun _ _ => True) past (hydrate organization record) := by
  refine .ask trivial fun answer => .check (fun identity _ => ?_) fun _ _ => trivial
  cases identity with
  | none => trivial
  | some identity => exact .ask trivial fun answer => .check (fun _ _ => trivial) fun _ _ => trivial

theorem settle_saves (found : ⟨.findMembership organization id,.ok (some current)⟩ ∈ past) (there : current.gone = false) :
    Follows (remembering Saves) (fun _ _ => True) past (settle current active) := by
  have standing : current.state ≠ .removed := by simpa [Membership.gone] using there
  unfold settle
  split <;> split
  · refine .check (fun changed done => .ask ?_ fun _ => .checked trivial) fun _ _ => trivial
    obtain ⟨-,rfl⟩ := Membership.reinstate_spec done
    exact ⟨organization,id,current,found,standing,rfl⟩
  · trivial
  · refine .check (fun changed done => .ask ?_ fun _ => .checked trivial) fun _ _ => trivial
    obtain ⟨-,rfl⟩ := Membership.suspend_spec done
    exact ⟨organization,id,current,found,standing,rfl⟩
  · trivial

theorem expel_saves (found : ⟨.findMembership organization id,.ok membership⟩ ∈ past) :
    Follows (remembering Saves) (fun _ _ => True) past (expel membership) := by
  cases membership with
  | none => trivial
  | some current =>
    dsimp only [expel]
    split
    · trivial
    · refine .check (fun removed done => .ask ?_ fun _ => .checked trivial) fun _ _ => trivial
      obtain ⟨there,rfl⟩ := Membership.remove_spec done
      exact ⟨organization,id,current,found,there,rfl⟩

theorem setActive_saves : Follows (remembering Saves) (fun _ _ => True) past (setActive organization id active) := by
  refine .ask trivial fun answer => .check (fun found told => ?_) fun _ _ => trivial
  cases found with
  | none => trivial
  | some current =>
    refine .refuse (fun there => ?_) trivial
    have known : ⟨.findMembership organization id,.ok (some current)⟩ ∈ past ++ [⟨.findMembership organization id,answer⟩] := by
      simp [told]
    exact (settle_saves known there).bind (fun _ _ _ => .ask trivial fun _ => .checked trivial) fun _ _ _ => trivial

theorem orUndo_saves (undoes : Follows (remembering Saves) (fun _ _ => True) past undo) :
    Follows (remembering Saves) (fun _ _ => True) past (orUndo result undo) := by
  cases result with
  | ok _ => trivial
  | error e => exact undoes.attempt.bind (fun _ _ _ => trivial) fun _ _ _ => trivial

theorem requireUser_saves : Follows (remembering Saves) (fun _ _ => True) past (requireUser organization id) := by
  refine .ask trivial fun answer => .check (fun found _ => ?_) fun _ _ => trivial
  cases found <;> trivial

theorem profileOf_saves : Follows (remembering Saves) (fun _ _ => True) past (profileOf id) := by
  refine .ask trivial fun answer => .check (fun found _ => ?_) fun _ _ => trivial
  cases found with
  | none => exact .ask trivial fun _ => .checked trivial
  | some profile => trivial

theorem createUser_saves : Follows (remembering Saves) (fun _ _ => True) past
      (createUser organization userName externalId active displayName email) := by
  refine .refuse (fun _ => .ask trivial fun _ => .check (fun _ _ => .refuse (fun _ => ?_) trivial) fun _ _ => trivial) trivial
  refine .ask trivial fun _ => .check (fun random _ => .ask trivial fun now => ?_) fun _ _ => trivial
  refine .check (fun made _ => ?_) fun _ _ => trivial
  obtain ⟨identity,membership,profile,record⟩ := made
  refine .ask trivial fun _ => .check (fun _ _ => .ask trivial fun _ => ?_) fun _ _ => trivial
  have deactivates : ∀ past : ScimTrace,Follows (remembering Saves) (fun _ _ => True) past
      (do check (← ask (.changeStatus organization ⟨Text.of "scim_" ++ random⟩ .deactivated)) : ScimCall Unit) :=
    fun _ => .ask trivial fun _ => .checked trivial
  refine (orUndo_saves (deactivates _)).bind (fun _ _ _ => .ask trivial fun _ => ?_) fun _ _ _ => trivial
  refine (orUndo_saves setActive_saves).bind (fun _ _ _ => .ask trivial fun _ => ?_) fun _ _ _ => trivial
  refine (orUndo_saves setActive_saves).bind (fun _ _ _ => ?_) fun _ _ _ => trivial
  split
  · exact hydrate_saves
  · exact setActive_saves.bind (fun _ _ _ => hydrate_saves) fun _ _ _ => trivial

theorem replaceUser_saves : Follows (remembering Saves) (fun _ _ => True) past
      (replaceUser organization id userName externalId active displayName email) := by
  refine requireUser_saves.bind (fun _ existing _ => .ask trivial fun _ => ?_) fun _ _ _ => trivial
  refine .check (fun byName _ => .refuse (fun _ => ?_) trivial) fun _ _ => trivial
  refine profileOf_saves.bind (fun _ profile _ => .ask trivial fun now => ?_) fun _ _ _ => trivial
  refine .check (fun updated _ => setActive_saves.bind (fun _ _ _ => ?_) fun _ _ _ => trivial) fun _ _ => trivial
  refine .ask trivial fun _ => .check (fun _ _ => .check (fun record _ => ?_) fun _ _ => trivial) fun _ _ => trivial
  exact .ask trivial fun _ => .check (fun _ _ => hydrate_saves) fun _ _ => trivial

theorem removeUser_saves : Follows (remembering Saves) (fun _ _ => True) past (ScimService.removeUser organization id) := by
  refine .ask trivial fun answer => .check (fun found told => ?_) fun _ _ => trivial
  have known : ⟨.findMembership organization id,.ok found⟩ ∈ past ++ [⟨.findMembership organization id,answer⟩] := by
    simp [told]
  refine (expel_saves known).bind (fun _ _ _ => .ask trivial fun _ => .check (fun _ _ => ?_) fun _ _ => trivial)
    fun _ _ _ => trivial
  exact .ask trivial fun _ => .checked trivial

theorem calling_saves : Follows (remembering Saves) (fun _ _ => True) [] (calling organization request) := by
  cases request with
  | create userName externalId active displayName email =>
    exact createUser_saves.bind (fun _ _ _ => trivial) fun _ _ _ => trivial
  | replace id userName externalId active displayName email =>
    exact replaceUser_saves.bind (fun _ _ _ => trivial) fun _ _ _ => trivial
  | remove id => exact removeUser_saves.bind (fun _ _ _ => trivial) fun _ _ _ => trivial

end

def Gone (organization : OrganizationId) (id : IdentityId) (w : ScimState) : Prop :=
  ∃ membership,memberOf organization id w = some membership ∧ membership.state = .removed ∧ membership.roles = []

def Removes (key : MemberKey) : ScimOp → Prop
  | .saveMembership membership => membership.key = key ∧ membership.state = .removed
  | _ => False

def Undisturbed (log : List ScimEntry) : Prop :=
  ∀ first (finds : ScimEntry) between (saves : ScimEntry) rest,log = first ++ finds :: (between ++ saves :: rest) → finds.caller = saves.caller →
    ∀ organization id membership,finds.exchange.1 = .findMembership organization id →
      saves.exchange.1 = .saveMembership membership → membership.key = ⟨organization,id⟩ →
        membership.state ≠ .removed → ∀ other ∈ between,¬Removes ⟨organization,id⟩ other.exchange.1

section
variable {organization : OrganizationId} {id : IdentityId} {initial w : ScimState} {floor : ScimFloor}
  {before after : List ScimEntry} {entry : ScimEntry}

def Standing (organization : OrganizationId) (id : IdentityId) (w : ScimState) : Prop :=
  ∃ membership,memberOf organization id w = some membership ∧ membership.state ≠ .removed

theorem standing_gone (standing : Standing organization id w) : ¬Gone organization id w := by
  rintro ⟨membership,found,removed,-⟩
  obtain ⟨current,there,kept⟩ := standing
  cases there.symm.trans found
  exact kept removed

theorem member_cases (op : ScimOp) {current : Membership} (there : memberOf organization id w = some current) :
    memberOf organization id (exec op w).2 = some current ∨
      ∃ membership,op = .saveMembership membership ∧ membership.key = ⟨organization,id⟩ ∧
        memberOf organization id (exec op w).2 = some membership := by
  cases op with
  | addMembership membership =>
    apply Or.inl
    rcases MembershipStore.add_cases membership w.memberships with ⟨e,same⟩ | ⟨absent,same⟩
    · simp only [exec,same]
      exact there
    · simp only [exec,same,memberOf,MembershipStore.find_put]
      rw [if_neg]
      · exact there
      · intro here
        cases here
        cases absent.symm.trans there
  | saveMembership membership =>
    rcases MembershipStore.save_cases membership w.memberships with ⟨⟨e,same⟩,-⟩ | ⟨-,same⟩
    · apply Or.inl
      simp only [exec,same]
      exact there
    · by_cases here : membership.key = ⟨organization,id⟩
      · refine .inr ⟨membership,rfl,here,?_⟩
        simp [exec,same,memberOf,here]
      · apply Or.inl
        simp only [exec,same,memberOf,MembershipStore.find_put,if_neg here]
        exact there
  | removeUser other gone =>
    apply Or.inl
    simp only [exec,ScimWorld.removeUser]
    split <;> exact there
  | replaceGroupMembers other group members =>
    apply Or.inl
    simp only [exec,ScimWorld.replaceGroupMembers]
    split
    · exact there
    · split <;> exact there
  | _ => exact .inl there

theorem standing_kept (standing : Standing organization id w) (spared : ¬Removes ⟨organization,id⟩ op) :
    Standing organization id (exec op w).2 := by
  obtain ⟨current,there,kept⟩ := standing
  rcases member_cases op there with same | ⟨membership,rfl,here,saved⟩
  · exact ⟨current,same,kept⟩
  · exact ⟨membership,saved,fun removed => spared ⟨here,removed⟩⟩

theorem gone_kept (gone : Gone organization id w) (spared : ∀ membership,op = .saveMembership membership →
      membership.key = ⟨organization,id⟩ → membership.state = .removed) : Gone organization id (exec op w).2 := by
  obtain ⟨current,there,removed,none⟩ := gone
  rcases member_cases op there with same | ⟨membership,called,here,saved⟩
  · exact ⟨current,same,removed,none⟩
  · have ended := spared membership called here
    exact ⟨membership,saved,ended,membership.dropped ended⟩

theorem still {w w' : ScimState} (moved : membershipStage.drift w w') (there : Standing organization id w) :
    Standing organization id w' := by
  obtain ⟨current,found,kept⟩ := there
  have same : w'.memberships = w.memberships := moved
  exact ⟨current,by rw [memberOf,same]; exact found,kept⟩

theorem still_gone {w w' : ScimState} (moved : membershipStage.drift w w') (gone : Gone organization id w) :
    Gone organization id w' := by
  obtain ⟨current,found,kept⟩ := gone
  have same : w'.memberships = w.memberships := moved
  exact ⟨current,by rw [memberOf,same]; exact found,kept⟩

theorem saved_standing (played : Plays membershipStage initial floor) (serves : Serves floor)
    (undisturbed : Undisturbed floor.log) (split : floor.log = before ++ entry :: after)
    (saves : entry.exchange.1 = .saveMembership membership) (kept : membership.state ≠ .removed) :
    Standing membership.organization membership.identity entry.found := by
  have inside : entry ∈ floor.log := by simp [split]
  obtain ⟨m,known⟩ : ∃ m,floor.members[entry.caller]? = some m :=
    ⟨_,List.getElem?_eq_getElem (played.accounted.entered entry inside)⟩
  obtain ⟨p,rest⟩ := m
  obtain ⟨organization,request,same⟩ := serves _ (List.mem_of_getElem? known)
  have follows : Follows (remembering Saves) (fun _ _ => True) [] p := by
    rw [show p = _ from same]
    exact calling_saves
  have asked := asked_then played split known follows
  rw [saves] at asked
  obtain ⟨organization,id,current,found,there,alike⟩ := asked
  obtain ⟨finds,earlier,mine,same⟩ := mem_own.mp found
  obtain ⟨first,between,rfl⟩ := List.append_of_mem earlier
  have shape : floor.log = first ++ finds :: (between ++ entry :: after) := by simp [split]
  have told := played.answered finds (by simp [shape])
  rw [same] at told
  have stored : memberOf organization id finds.found = some current := (Except.ok.inj told).symm
  have key : current.key = ⟨organization,id⟩ := MembershipStore.find_key stored
  have here : membership.key = ⟨organization,id⟩ := alike.trans key
  have quiet := undisturbed first finds between entry after shape mine organization id membership (by rw [same]) saves
    here kept
  have stands : Standing organization id (exec finds.exchange.1 finds.found).2 := by
    rw [same]
    exact ⟨current,stored,there⟩
  cases here
  exact kept_until played (fun _ _ => still) shape stands fun other inside standing =>
    standing_kept standing (quiet other inside)

theorem gone_keeping (played : Plays membershipStage initial floor) (serves : Serves floor)
    (undisturbed : Undisturbed floor.log) (split : floor.log = before ++ entry :: after) :
    Keeping membershipStage (Gone organization id) entry := by
  intro gone
  refine gone_kept gone fun membership saves here => ?_
  by_contra kept
  have stands := saved_standing played serves undisturbed split saves kept
  cases here
  exact standing_gone stands gone

theorem removed_stays (played : Plays membershipStage initial floor) (serves : Serves floor)
    (undisturbed : Undisturbed floor.log) {membership : Membership} (removed : membership.state = .removed) :
    (memberOf organization id initial = some membership →
      (∀ entry ∈ floor.log,Gone organization id entry.found) ∧ Gone organization id floor.world) ∧
    ∀ before (entry : Entry _ _ _) after,floor.log = before ++ entry :: after → memberOf organization id entry.found = some membership →
      (∀ later ∈ after,Gone organization id later.found) ∧ Gone organization id floor.world := by
  have keeps : ∀ entry ∈ floor.log,Keeping membershipStage (Gone organization id) entry := by
    intro entry inside
    obtain ⟨before,after,split⟩ := List.append_of_mem inside
    exact gone_keeping played serves undisturbed split
  constructor
  · intro there
    have gone : Gone organization id initial := ⟨membership,there,removed,membership.dropped removed⟩
    obtain ⟨last,all⟩ := played.always (fun _ _ => still_gone) gone keeps
    exact ⟨all,last⟩
  · intro before entry after split there
    have gone : Gone organization id entry.found := ⟨membership,there,removed,membership.dropped removed⟩
    have left := keeps entry (by simp [split]) gone
    have onward : ∀ later ∈ after,Keeping membershipStage (Gone organization id) later :=
      fun later inside => keeps later (by simp [split,inside])
    refine ⟨?_,played.since (fun _ _ => still_gone) before entry after split left onward⟩
    intro later inside
    obtain ⟨between,rest,rfl⟩ := List.append_of_mem inside
    exact kept_until played (fun _ _ => still_gone) split left fun other member =>
      onward other (List.mem_append_left _ member)

end

section

def demoUser : UserRecord := ⟨⟨"opi_E"⟩,⟨"org"⟩,"ann",none,0,0⟩

def demoProvisioned : ScimState :=
  { demoOwner .active demoMembership with users := (Table.empty.add "insert SCIM user" demoUser).2 }

def demoDeactivates : Request := .replace ⟨"opi_E"⟩ "ann" none false none none
def demoRemoves : Request := .remove ⟨"opi_E"⟩

def removesAny : ScimOp → Bool
  | .saveMembership membership => membership.state == .removed
  | _ => false

def savesAny : ScimOp → Bool
  | .saveMembership membership => membership.state != .removed
  | _ => false

theorem undisturbed_last
    (last : log.Pairwise fun earlier later => ¬(removesAny earlier.exchange.1 = true ∧ savesAny later.exchange.1 = true)) :
    Undisturbed log := by
  rintro first finds between saves rest rfl - organization id membership - saved - kept other inside removes
  have behind := ((List.pairwise_append.mp last).2.1.of_cons)
  have apart := (List.pairwise_append.mp behind).2.2 other inside saves List.mem_cons_self
  apply apart
  constructor
  · cases asked : other.exchange.1 with
    | saveMembership ended =>
      rw [asked] at removes
      simpa [removesAny] using removes.2
    | _ => simp [asked,Removes] at removes
  · simp [saved,savesAny,kept]

def demoServed (requests : List Request) : List (ScimCall Reply) := requests.map (calling ⟨"org"⟩)

theorem demo_serves {floor : ScimFloor}
    (taken : takeTurns exec turns (⟨demoProvisioned,[],[]⟩ : ScimFloor) = some floor)
    (entered : turns.filterMap Turn.entered = demoServed requests) : Serves floor := by
  intro m inside
  have begun : m.begun ∈ turns.filterMap Turn.entered := by
    rw [← List.nil_append (turns.filterMap Turn.entered)]
    exact (takeTurns_begun taken) ▸ List.mem_map_of_mem inside
  rw [entered] at begun
  obtain ⟨request,-,same⟩ := List.mem_map.mp begun
  exact ⟨⟨"org"⟩,request,same.symm⟩

def demoEnded (w : ScimState) : Bool := memberOf ⟨"org"⟩ ⟨"opi_E"⟩ w == some (ended demoMembership)

theorem removed_stays_last : ∃ floor : ScimFloor,Plays membershipStage demoProvisioned floor ∧ Serves floor ∧
    Undisturbed floor.log ∧ ∃ before,∃ entry : Entry _ _ _,∃ after,floor.log = before ++ entry :: after ∧ after ≠ [] ∧
      memberOf ⟨"org"⟩ ⟨"opi_E"⟩ entry.found = some (ended demoMembership) ∧
        (∀ later ∈ after,Gone ⟨"org"⟩ ⟨"opi_E"⟩ later.found) ∧ Gone ⟨"org"⟩ ⟨"opi_E"⟩ floor.world := by
  let turns : List (Turn ScimOp ScimOp.Ret Error Reply ScimState) :=
    .enter (calling ⟨"org"⟩ demoDeactivates) :: steps 0 12 ++ .enter (calling ⟨"org"⟩ demoRemoves) :: steps 1 4 ++
      .enter (calling ⟨"org"⟩ demoDeactivates) :: steps 2 1
  have done : (takeTurns exec turns (⟨demoProvisioned,[],[]⟩ : ScimFloor)).any (fun floor =>
      decide (floor.log.Pairwise fun earlier later =>
        ¬(removesAny earlier.exchange.1 = true ∧ savesAny later.exchange.1 = true)) &&
          (floor.log.drop 15).length == 2 && (floor.log.drop 15).all fun entry => demoEnded entry.found) = true := by
    decide
  obtain ⟨floor,taken,holds⟩ := (Option.any_eq_true _ _).mp done
  simp only [Bool.and_eq_true,decide_eq_true_eq] at holds
  obtain ⟨⟨last,two⟩,gone⟩ := holds
  have played : Plays membershipStage demoProvisioned floor :=
    Plays.start.turns (by simp [turns,steps,Turn.Allowed]) taken
  have serves := demo_serves taken (rfl : _ = demoServed [demoDeactivates,demoRemoves,demoDeactivates])
  have undisturbed := undisturbed_last last
  generalize late : floor.log.drop 15 = entries at two gone
  cases entries with
  | nil => cases two
  | cons entry after =>
    have split : floor.log = floor.log.take 15 ++ entry :: after := by rw [← late,List.take_append_drop]
    have there : memberOf ⟨"org"⟩ ⟨"opi_E"⟩ entry.found = some (ended demoMembership) := by
      have held := List.all_eq_true.mp gone entry List.mem_cons_self
      simpa [demoEnded] using held
    have past : (ended demoMembership).state = .removed := rfl
    obtain ⟨since,now⟩ := (removed_stays played serves undisturbed past).2 _ _ _ split there
    refine ⟨floor,played,serves,undisturbed,_,entry,after,split,?_,there,since,now⟩
    rintro rfl
    cases two

-- A deactivation that has read the membership before the removal brings it back, with its roles.
theorem removed_returns : ∃ floor : ScimFloor,Plays membershipStage demoProvisioned floor ∧ Serves floor ∧
    (∃ entry ∈ floor.log,memberOf ⟨"org"⟩ ⟨"opi_E"⟩ entry.found = some (ended demoMembership)) ∧
      memberOf ⟨"org"⟩ ⟨"opi_E"⟩ floor.world =
        some (demoMembership.withState .suspended Membership.suspended_dropped) ∧
          ¬Gone ⟨"org"⟩ ⟨"opi_E"⟩ floor.world := by
  let turns : List (Turn ScimOp ScimOp.Ret Error Reply ScimState) :=
    .enter (calling ⟨"org"⟩ demoDeactivates) :: .enter (calling ⟨"org"⟩ demoRemoves) :: steps 0 6 ++ steps 1 4 ++ steps 0 1
  have done : (takeTurns exec turns (⟨demoProvisioned,[],[]⟩ : ScimFloor)).any (fun floor =>
      floor.log.any (fun entry => demoEnded entry.found) && decide (memberOf ⟨"org"⟩ ⟨"opi_E"⟩ floor.world =
        some (demoMembership.withState .suspended Membership.suspended_dropped))) = true := by
    decide
  obtain ⟨floor,taken,holds⟩ := (Option.any_eq_true _ _).mp done
  simp only [Bool.and_eq_true,decide_eq_true_eq,List.any_eq_true,demoEnded,beq_iff_eq] at holds
  obtain ⟨was,now⟩ := holds
  have played : Plays membershipStage demoProvisioned floor :=
    Plays.start.turns (by simp [turns,steps,Turn.Allowed]) taken
  refine ⟨floor,played,demo_serves taken (rfl : _ = demoServed [demoDeactivates,demoRemoves]),was,now,?_⟩
  have standing : Standing ⟨"org"⟩ ⟨"opi_E"⟩ floor.world := ⟨_,now,by decide⟩
  exact standing_gone standing

end

end OpenProof.RemovedMemberships
