import OpenProof.CallTraces
import OpenProof.ScimRemovals

namespace OpenProof.ScimReplacements
open AtomicPrograms CallTraces Foundation Memberships ScimDirectory ScimWorld ScimService ScimRemovals Prog
open AtomicPrograms.Prog IdentityProfiles
open Identities (IdentityId OrganizationId Identity IdentityStatus MembershipState IdentityStore)

-- The status that `setActive` gives, and the one membership state it moves from.
def target (active : Bool) : IdentityStatus := if active then .active else .suspended
def moved (active : Bool) : MembershipState := if active then .suspended else .active

theorem active_held (current : Membership) : MembershipState.active = .removed → current.roles = [] :=
  Membership.active_dropped

theorem suspended_held (current : Membership) : MembershipState.suspended = .removed → current.roles = [] :=
  Membership.suspended_dropped

def switched (active : Bool) (current : Membership) : Membership :=
  if active then current.withState .active (active_held current)
  else current.withState .suspended (suspended_held current)

def placed (active : Bool) (current : Membership) (store : MembershipStore) : MembershipStore :=
  if current.state = moved active then store.put (switched active current) else store

section
variable {organization : OrganizationId} {id : IdentityId} {w : ScimState} {current : Membership} {active : Bool}

theorem switched_key : (switched active current).key = current.key := by cases active <;> rfl

theorem settle_run (found : memberOf organization id w = some current) :
    (settle current active).run exec w = (.ok (),{ w with memberships := placed active current w.memberships }) := by
  have same : (switched active current).key = current.key := switched_key
  have saved := MembershipStore.save_found found same
  cases active with
  | true =>
    by_cases suspended : current.state = .suspended
    · have changed : current.reinstate = .ok (switched true current) := if_neg (not_not.mpr suspended)
      simp [settle,placed,moved,suspended,changed,saved,ask,exec,check]
    · simp [settle,placed,moved,suspended]
  | false =>
    by_cases standing : current.state = .active
    · have changed : current.suspend = .ok (switched false current) := if_neg (not_not.mpr standing)
      simp [settle,placed,moved,standing,changed,saved,ask,exec,check]
    · simp [settle,placed,moved,standing]

theorem setActive_run (found : memberOf organization id w = some current) (there : current.state ≠ .removed) :
    (setActive organization id active).run exec w =
      ((w.identities.changeStatus organization id (target active)).1,{ w with
        memberships := placed active current w.memberships
        identities := (w.identities.changeStatus organization id (target active)).2 }) := by
  have standing : current.gone = false := by simpa [Membership.gone] using there
  have settled : (settle current active).run exec w = _ := settle_run found
  have sought : w.memberships.find organization id = some current := found
  unfold setActive
  simp only [ask,bind_eq,run_perform_bind,exec,sought,check_ok,ret_bind,standing,refuseIf_false]
  rw [run_bind,settled]
  simp only [run_perform_bind,exec,run_check]
  rfl

end

def Open (organization : OrganizationId) (id : IdentityId) (w : ScimState) (status : IdentityStatus) : Prop :=
  statusOf organization id w = some status ∧ status ≠ .deleted ∧ status ≠ .merged

def profileThen (id : IdentityId) (w : ScimState) : Result (IdentityProfile × Instant) :=
  match w.profiles.find id with
  | some profile => .ok (profile,w.clock 0)
  | none => (IdentityProfiles.IdentityProfile.create id (w.clock 0)).map fun profile => (profile,w.clock 1)

def AtFault (organization : OrganizationId) (id : IdentityId) (given : Attributes) (w : ScimState) : Prop :=
  IdentityProfiles.validText (some given.userName) 128 = false ∨ validOptional given.externalId 1024 = false ∨
    IdentityProfiles.validText given.displayName 256 = false ∨ IdentityProfiles.validText given.email 320 = false ∨
    ∃ other,w.users.findByName organization given.userName = some other ∧ other.id ≠ id

structure Untouched (organization : OrganizationId) (id : IdentityId) (before after : ScimState) : Prop where
  status : statusOf organization id after = statusOf organization id before
  member : memberOf organization id after = memberOf organization id before
  profile : after.profiles.find id = before.profiles.find id
  record : after.users.find organization id = before.users.find organization id

def Spared (organization : OrganizationId) (id : IdentityId) (given : Attributes) (w : ScimState) : Prop :=
  ∀ e,((replacing organization id given).run exec w).1 = .error e → e.code = .invalidArgument ∨ e.code = .alreadyExists →
    AtFault organization id given w → Untouched organization id w ((replacing organization id given).run exec w).2

structure Passes (organization : OrganizationId) (id : IdentityId) (given : Attributes) (w : ScimState)
    (current : Membership) (status : IdentityStatus) (updated : IdentityProfile) : Prop where
  listed : ∃ record,restoredUser (w.users.find organization id) = .ok (some record)
  free : ∃ named,restoredUser (w.users.findByName organization given.userName) = .ok named ∧
    (named.any fun found => found.id != id) = false
  drafted : ∃ profile now,profileThen id w = .ok (profile,now) ∧
    provisioned profile given.displayName given.userName given.email now = .ok updated
  member : memberOf organization id w = some current
  there : current.state ≠ .removed
  changing : Open organization id w status

def Alters (id : IdentityId) (active : Bool) (w : ScimState) (current : Membership) (status : IdentityStatus)
    (updated : IdentityProfile) : Prop :=
  w.profiles.find id ≠ some updated ∨ status ≠ target active ∨ current.state = moved active

def Halfway (organization : OrganizationId) (id : IdentityId) (given : Attributes) (w : ScimState) : Prop :=
  validOptional given.externalId 1024 = false ∧ ∃ current status updated,
    Passes organization id given w current status updated ∧ Alters id given.active w current status updated

def stored (organization : OrganizationId) (id : IdentityId) (active : Bool) (current : Membership)
    (updated : IdentityProfile) (w : ScimState) : ScimState :=
  { w with
    memberships := placed active current w.memberships
    identities := (w.identities.changeStatus organization id (target active)).2
    profiles := w.profiles.save updated }

section
variable {profile updated : IdentityProfile}

theorem provisioned_spec (done : provisioned profile displayName userName email now = .ok updated) :
    (IdentityProfiles.validText displayName 256 = true ∧ IdentityProfiles.validText (some userName) 128 = true ∧
      IdentityProfiles.validText email 320 = true) ∧ updated = { profile with
      displayName := displayName
      preferredUsername := some userName
      email := email.or profile.email
      emailVerified := if email.isSome then false else profile.emailVerified
      locale := none
      pictureUrl := none
      updatedAt := now } := by
  unfold provisioned at done
  split at done
  · cases done
  · rename_i presented served
    obtain ⟨shown,rfl⟩ := IdentityProfile.updateSelfService_spec served
    have lettered : IdentityProfiles.validText displayName 256 = true ∧
        IdentityProfiles.validText (some userName) 128 = true := by
      simp only [IdentityProfile.validPresentation,Bool.and_eq_true] at shown
      exact shown.1.1
    cases email with
    | none =>
      cases done
      exact ⟨⟨lettered.1,lettered.2,rfl⟩,rfl⟩
    | some email =>
      rcases IdentityProfile.setEmail_cases _ email false now with ⟨⟨-,valid⟩,set⟩ | ⟨-,e,refused⟩
      · dsimp only at done
        rw [set] at done
        cases done
        exact ⟨⟨lettered.1,lettered.2,valid⟩,rfl⟩
      · dsimp only at done
        rw [refused] at done
        cases done

end

section
variable {organization : OrganizationId} {id : IdentityId} {given : Attributes} {w : ScimState}
  {current : Membership} {status : IdentityStatus} {profile updated : IdentityProfile} {active : Bool}
  {clock : Nat → Instant}

theorem changeStatus_open (changing : Open organization id w status) (next : IdentityStatus) :
    (w.identities.changeStatus organization id next).1 = .ok () ∧
      ((w.identities.changeStatus organization id next).2.findById organization id).map Identity.status = some next := by
  obtain ⟨standing,kept,unmerged⟩ := changing
  unfold statusOf IdentityStore.findById at standing
  unfold IdentityStore.changeStatus IdentityStore.findById
  cases held : w.identities[id]? with
  | none => simp [held] at standing
  | some owned =>
    by_cases within : owned.organization = organization
    · simp [held,within] at standing
      cases was : owned.identity.status <;> simp_all [Identity.changeStatus]
    · simp [held,within] at standing

theorem open_changed (done : (w.identities.changeStatus organization id (target active)).1 = .ok ()) :
    ∃ status,Open organization id w status := by
  unfold IdentityStore.changeStatus at done
  cases held : w.identities[id]? with
  | none => simp [held] at done
  | some owned =>
    by_cases within : owned.organization = organization
    · refine ⟨owned.identity.status,?_,?_,?_⟩
      · simp [statusOf,IdentityStore.findById,held,within]
      · intro deleted
        simp [held,within,Identity.changeStatus,deleted] at done
      · intro merged
        simp [held,within,Identity.changeStatus,merged] at done
    · simp [held,within] at done

theorem placed_member (found : memberOf organization id w = some current) :
    (placed active current w.memberships).find organization id =
      some (if current.state = moved active then switched active current else current) := by
  unfold placed
  split
  · have here : (switched active current).key = ⟨organization,id⟩ := switched_key.trans (MembershipStore.find_key found)
    simp [here]
  · exact found

theorem switched_state : (switched active current).state ≠ moved active := by cases active <;> exact nofun

theorem profileThen_identity (drafted : profileThen id w = .ok (profile,now)) : profile.identity = id := by
  unfold profileThen at drafted
  split at drafted
  · rename_i held
    cases drafted
    exact w.profiles.keyed id _ held
  · unfold IdentityProfiles.IdentityProfile.create at drafted
    split at drafted
    · cases drafted
    · cases drafted
      rfl

theorem untouched_iff (found : memberOf organization id w = some current) (changing : Open organization id w status)
    (same : updated.identity = id) : Untouched organization id w
      (stored organization id active current updated { w with clock := clock }) ↔ ¬Alters id active w current status updated := by
  have status' : statusOf organization id (stored organization id active current updated { w with clock := clock }) =
      some (target active) := (changeStatus_open changing _).2
  have member : memberOf organization id (stored organization id active current updated { w with clock := clock }) =
      some (if current.state = moved active then switched active current else current) := placed_member found
  have profile : (stored organization id active current updated { w with clock := clock }).profiles.find id =
      some updated := by simp [stored,same]
  constructor
  · rintro ⟨sameStatus,sameMember,sameProfile,-⟩ (other | other | other)
    · exact other (sameProfile.symm.trans profile)
    · rw [status',changing.1] at sameStatus
      exact other (Option.some.inj sameStatus).symm
    · rw [member,found,if_pos other] at sameMember
      have left : (switched active current).state ≠ moved active := switched_state
      apply left
      rw [Option.some.inj sameMember]
      exact other
  · intro unaltered
    unfold Alters at unaltered
    simp only [not_or,not_not] at unaltered
    obtain ⟨sameProfile,sameStatus,sameMember⟩ := unaltered
    refine ⟨?_,?_,?_,rfl⟩
    · rw [status',changing.1,sameStatus]
    · rw [member,found,if_neg sameMember]
    · rw [profile,sameProfile]

theorem Passes.identity (passes : Passes organization id given w current status updated) : updated.identity = id := by
  obtain ⟨profile,now,started,drafted⟩ := passes.drafted
  have same : profile.identity = id := profileThen_identity started
  exact (congrArg IdentityProfile.identity (provisioned_spec drafted).2).trans same

theorem restoredUser_same (restored : restoredUser found = .ok named) : named = found := by
  cases found with
  | none =>
    cases restored
    rfl
  | some row =>
    unfold restoredUser UserRecord.create at restored
    dsimp only at restored
    split at restored
    · cases restored
    · cases restored
      rfl

theorem restoredGroup_same (restored : restoredGroup found = .ok named) : named = found := by
  cases found with
  | none =>
    cases restored
    rfl
  | some row =>
    unfold restoredGroup GroupRecord.create at restored
    dsimp only at restored
    split at restored
    · cases restored
    · cases restored
      rfl

theorem requireUser_run : (requireUser organization id).run exec w =
    match restoredUser (w.users.find organization id) with
    | .ok (some record) => (.ok record,w)
    | .ok none => (.error (.plain .notFound),w)
    | .error e => (.error e,w) := by
  unfold requireUser
  simp only [ask,bind_eq,run_perform_bind,exec]
  generalize restoredUser (w.users.find organization id) = found
  cases found with
  | error e => rfl
  | ok found =>
    cases found with
    | none | some => rfl

theorem profileOf_run (id : IdentityId) (w : ScimState) : ∃ clock,(profileOf id).run exec w = (((profileThen id w).map Prod.fst),{ w with clock := clock }) ∧
    ∀ profile now,profileThen id w = .ok (profile,now) → clock 0 = now := by
  unfold profileOf profileThen
  simp only [ask,bind_eq,run_perform_bind,exec,check_ok,ret_bind,pure_eq]
  cases held : w.profiles.find id with
  | some profile =>
    refine ⟨w.clock,rfl,?_⟩
    intro profile now same
    cases same
    rfl
  | none =>
    refine ⟨tail w.clock,?_,?_⟩
    · simp only [run_perform_bind,exec,run_check]
      cases IdentityProfiles.IdentityProfile.create id (w.clock 0) <;> rfl
    · intro profile now same
      cases made : IdentityProfiles.IdentityProfile.create id (w.clock 0) with
      | error e =>
        rw [made] at same
        cases same
      | ok fresh =>
        rw [made] at same
        cases same
        rfl

def recording (organization : OrganizationId) (given : Attributes) (record : UserRecord) (now : Instant) :
    ScimCall UserView := do
  let renamed ← check (UserRecord.rename record given.userName given.externalId now)
  check (← ask (.saveUser renamed))
  hydrate organization renamed

theorem passes_run (passes : Passes organization id given w current status updated) :
    ∃ record now clock,restoredUser (w.users.find organization id) = .ok (some record) ∧
      (replacing organization id given).run exec w = (recording organization given record now).run exec
        (stored organization id given.active current updated { w with clock := clock }) := by
  obtain ⟨record,listed⟩ := passes.listed
  obtain ⟨named,called,free⟩ := passes.free
  obtain ⟨profile,now,started,drafted⟩ := passes.drafted
  have active : ∀ clock,(setActive organization id given.active).run exec { w with clock := clock } = (.ok (),
      { w with
        clock := clock
        memberships := placed given.active current w.memberships
        identities := (w.identities.changeStatus organization id (target given.active)).2 }) := by
    intro clock
    have found : memberOf organization id { w with clock := clock } = some current := passes.member
    rw [setActive_run found passes.there,(changeStatus_open passes.changing _).1]
  obtain ⟨clock,began,later⟩ := profileOf_run id w
  rw [started] at began
  have now_ := later profile now started
  subst now_
  refine ⟨record,clock 0,tail clock,listed,?_⟩
  unfold replacing replaceUser
  rw [bind_eq,run_bind,requireUser_run,listed]
  simp only [ask,bind_eq,run_perform_bind,exec,called,check_ok,ret_bind,free,refuseIf_false]
  rw [run_bind,began]
  simp only [Except.map,run_perform_bind,exec,drafted,check_ok,ret_bind]
  rw [run_bind,active]
  rfl

theorem requireUser_alone : Alone exec (requireUser organization id) w fun _ r later =>
    later = w ∧ ∀ record,r = .ok record → restoredUser (w.users.find organization id) = .ok (some record) := by
  unfold Alone
  rw [requireUser_run]
  split
  · rename_i record listed
    refine ⟨rfl,?_⟩
    rintro _ ⟨⟩
    exact listed
  · exact ⟨rfl,nofun⟩
  · exact ⟨rfl,nofun⟩

theorem profileOf_alone : Alone exec (profileOf id) w fun _ r later =>
    ∃ clock,later = { w with clock := clock } ∧ ∀ profile,r = .ok profile → profileThen id w = .ok (profile,clock 0) := by
  obtain ⟨clock,ran,later⟩ := profileOf_run id w
  unfold Alone
  rw [ran]
  refine ⟨clock,rfl,?_⟩
  intro profile done
  cases started : profileThen id w with
  | error e =>
    rw [started] at done
    cases done
  | ok found =>
    rw [started] at done
    cases done
    rw [later found.1 found.2 started]

theorem setActive_alone : Alone exec (setActive organization id active) w fun _ r _ =>
    (∃ e,r = .error e ∧ (e.code = .notFound ∨ e.code = .failedPrecondition)) ∨ r = .ok () ∧ ∃ current status,
      memberOf organization id w = some current ∧ current.state ≠ .removed ∧ Open organization id w status := by
  cases found : memberOf organization id w with
  | none =>
    have sought : w.memberships.find organization id = none := found
    refine .ask (.check (fun membership told => ?_) fun e => nofun)
    obtain rfl : none = membership := sought.symm.trans (Except.ok.inj told)
    exact .inl ⟨_,rfl,.inl rfl⟩
  | some current =>
    by_cases there : current.state = .removed
    · have sought : w.memberships.find organization id = some current := found
      have gone : current.gone = true := by simp [Membership.gone,there]
      refine .ask (.check (fun membership told => ?_) fun e => nofun)
      obtain rfl : some current = membership := sought.symm.trans (Except.ok.inj told)
      refine .refuseIf (fun standing => ?_) fun _ => .inl ⟨_,rfl,.inr rfl⟩
      rw [gone] at standing
      cases standing
    · unfold Alone
      rw [setActive_run found there]
      cases changed : (w.identities.changeStatus organization id (target active)).1 with
      | error e => exact .inl ⟨e,rfl,IdentityStore.changeStatus_fails changed⟩
      | ok done =>
        obtain ⟨status,changing⟩ := open_changed changed
        exact .inr ⟨rfl,current,status,rfl,there,changing⟩

theorem replacing_cases (organization : OrganizationId) (id : IdentityId) (given : Attributes) (w : ScimState) :
    Alone exec (replacing organization id given) w fun _ r later =>
      (∃ e clock,r = .error e ∧ later = { w with clock := clock }) ∨
        (∃ e,r = .error e ∧ (e.code = .notFound ∨ e.code = .failedPrecondition)) ∨
          ∃ current status updated,Passes organization id given w current status updated := by
  refine .bind requireUser_alone ?_ ?_
  · rintro _ record _ ⟨rfl,listed⟩
    refine .ask (.check (fun named called => ?_) fun e _ => .inl ⟨e,_,rfl,rfl⟩)
    refine .refuseIf (fun free => ?_) fun _ => .inl ⟨_,_,rfl,rfl⟩
    refine .bind profileOf_alone ?_ ?_
    · rintro _ profile _ ⟨clock,rfl,started⟩
      refine .ask (.check (fun updated drafted => ?_) fun e _ => .inl ⟨e,_,rfl,rfl⟩)
      refine .bind setActive_alone ?_ ?_
      · rintro _ _ _ (⟨e,impossible,-⟩ | ⟨-,current,status,found,there,changing⟩)
        · cases impossible
        · exact .inr (.inr ⟨current,status,updated,⟨record,listed record rfl⟩,⟨named,called,free⟩,
            ⟨profile,clock 0,started profile rfl,drafted⟩,found,there,changing⟩)
      · rintro _ e _ (⟨_,⟨⟩,coded⟩ | ⟨impossible,-⟩)
        · exact .inr (.inl ⟨e,rfl,coded⟩)
        · cases impossible
    · rintro _ e _ ⟨clock,rfl,-⟩
      exact .inl ⟨e,clock,rfl,rfl⟩
  · rintro _ e _ ⟨rfl,-⟩
    exact .inl ⟨e,_,rfl,rfl⟩

theorem Passes.fault (passes : Passes organization id given w current status updated)
    (given_ : validOptional given.externalId 1024 = true) : ¬AtFault organization id given w := by
  obtain ⟨profile,now,-,drafted⟩ := passes.drafted
  obtain ⟨⟨shown,called,mailed⟩,-⟩ := provisioned_spec drafted
  obtain ⟨named,restored,free⟩ := passes.free
  rintro (bad | bad | bad | bad | ⟨other,found,else_⟩)
  · rw [called] at bad
    cases bad
  · rw [given_] at bad
    cases bad
  · rw [shown] at bad
    cases bad
  · rw [mailed] at bad
    cases bad
  · have same := restoredUser_same restored
    rw [found] at same
    subst same
    exact else_ (by simpa using free)

theorem recording_refused (refused : validOptional given.externalId 1024 = false) :
    (recording organization given record now).run exec w = (.error (.plain .invalidArgument),w) := by
  have renamed : UserRecord.rename record given.userName given.externalId now = .error (.plain .invalidArgument) := by
    simp [UserRecord.rename,Row.rename,refused]
  simp only [recording,renamed]
  rfl

theorem halfway_run (refused : validOptional given.externalId 1024 = false)
    (passes : Passes organization id given w current status updated) :
    ∃ clock,(replacing organization id given).run exec w = (.error (.plain .invalidArgument),
      stored organization id given.active current updated { w with clock := clock }) := by
  obtain ⟨record,now,clock,-,ran⟩ := passes_run passes
  exact ⟨clock,ran.trans (recording_refused refused)⟩

end

-- What is refused for its arguments is left as it was, unless the external id is the one at fault.
theorem replacement_spared_iff {organization : OrganizationId} {id : IdentityId} {given : Attributes} {w : ScimState} :
    Spared organization id given w ↔ ¬Halfway organization id given w := by
  constructor
  · rintro spared ⟨refused,current,status,updated,passes,altered⟩
    obtain ⟨clock,ran⟩ := halfway_run refused passes
    have untouched := spared (.plain .invalidArgument) (congrArg Prod.fst ran) (.inl rfl) (.inr (.inl refused))
    rw [ran] at untouched
    exact (untouched_iff passes.member passes.changing passes.identity).mp untouched altered
  · intro whole e failed refusal fault
    rcases replacing_cases organization id given w with ⟨-,clock,-,same⟩ | ⟨e',stopped,coded⟩ | ⟨current,status,updated,passes⟩
    · rw [same]
      exact ⟨rfl,rfl,rfl,rfl⟩
    · cases stopped.symm.trans failed
      rcases coded with coded | coded <;> simp [coded] at refusal
    · cases valid : validOptional given.externalId 1024 with
      | true => exact absurd fault (passes.fault valid)
      | false =>
        obtain ⟨clock,ran⟩ := halfway_run valid passes
        rw [ran]
        apply (untouched_iff passes.member passes.changing passes.identity).mpr
        exact fun altered => whole ⟨valid,current,status,updated,passes,altered⟩

section

def demoListed : ScimState :=
  { demoOwner .active demoMembership with
    users := (Table.empty.add "insert SCIM user" ⟨⟨"opi_E"⟩,⟨"org"⟩,"ann",none,0,0⟩).2 }

def demoEmptied : Attributes := ⟨"ann",some "",false,none,none⟩

def demoReplaced : Result UserView × ScimState := (replacing ⟨"org"⟩ ⟨"opi_E"⟩ demoEmptied).run exec demoListed

theorem replacement_unspared : demoReplaced.1 = .error (.plain .invalidArgument) ∧
    AtFault ⟨"org"⟩ ⟨"opi_E"⟩ demoEmptied demoListed ∧
      statusOf ⟨"org"⟩ ⟨"opi_E"⟩ demoListed = some .active ∧ statusOf ⟨"org"⟩ ⟨"opi_E"⟩ demoReplaced.2 = some .suspended ∧
        memberOf ⟨"org"⟩ ⟨"opi_E"⟩ demoListed = some demoMembership ∧
          memberOf ⟨"org"⟩ ⟨"opi_E"⟩ demoReplaced.2 = some (switched false demoMembership) ∧
            demoListed.profiles.find ⟨"opi_E"⟩ = none ∧ (demoReplaced.2.profiles.find ⟨"opi_E"⟩).isSome = true ∧
              ¬Spared ⟨"org"⟩ ⟨"opi_E"⟩ demoEmptied demoListed := by
  have refused : demoReplaced.1 = .error (.plain .invalidArgument) := by decide
  have fault : AtFault ⟨"org"⟩ ⟨"opi_E"⟩ demoEmptied demoListed := .inr (.inl rfl)
  have status : statusOf ⟨"org"⟩ ⟨"opi_E"⟩ demoListed = some .active := by decide
  have later : statusOf ⟨"org"⟩ ⟨"opi_E"⟩ demoReplaced.2 = some .suspended := by decide
  refine ⟨refused,fault,status,later,by decide,by decide,by decide,by decide,?_⟩
  intro spared
  have untouched := spared (.plain .invalidArgument) refused (.inl rfl) fault
  have same : statusOf ⟨"org"⟩ ⟨"opi_E"⟩ demoReplaced.2 = _ := untouched.status
  rw [status,later] at same
  cases same

end

end OpenProof.ScimReplacements
