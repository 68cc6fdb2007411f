import OpenProof.EmailTraces

namespace OpenProof.EmailConvergence
open CallTraces CallLogs CallHistories Foundation ExternalIdentities
open IdentityProfiles AuthenticationWorld AuthenticationService AuthenticationRuns
open SubjectConvergence EmailTraces Identities

def bears (email : Text) (profile : IdentityProfile) : Bool :=
  profile.emailVerified && profile.email.any fun candidate => toLower candidate == toLower email

def Bears (email : Text) (id : IdentityId) (w : AuthState) : Prop :=
  ∃ profile,w.profiles[id]? = some profile ∧ bears email profile = true

def Authenticates (organization : OrganizationId) (id : IdentityId) (w : AuthState) : Prop :=
  Stands organization id (fun status => Identities.permitsAuthentication status = true) w

theorem found_bears {email : Text} {id : IdentityId} :
    id ∈ w.profiles.findVerifiedByEmail email ↔ Bears email id w := by
  unfold ProfileStore.findVerifiedByEmail Bears bears
  simp [Std.ExtTreeMap.mem_toList_iff_getElem?_eq_some]

theorem findById_authenticates {id : IdentityId} :
    (w.identities.findById organization id).any Identity.canAuthenticate = true ↔ Authenticates organization id w := by
  unfold Identities.IdentityStore.findById Authenticates Stands
  cases found : w.identities[id]? with
  | none => simp
  | some owned =>
    by_cases within : owned.organization = organization <;> simp [within,Identity.canAuthenticate]

def Keyed (w : AuthState) : Prop := ∀ (id : IdentityId) (profile : IdentityProfile),w.profiles[id]? = some profile →
  profile.identity = id

def SignInsOf (a : Authenticator) (floor : AuthFloor) : Prop :=
  ∀ m ∈ floor.members,∃ transactionId continuationToken binding response,
    m.begun = completing a transactionId continuationToken binding response

def Holder (a : Authenticator) (email : Text) (id : IdentityId) (w : AuthState) : Prop :=
  Bears email id w ∧ Authenticates a.organization id w

-- When a call writes the address into a profile that did not hold it, the other
-- identities that may sign in with it held it already when the call searched for them.
def Orderly (a : Authenticator) (email : Text) (log : List AuthEntry) : Prop :=
  ∀ before (entry : AuthEntry) rest profile,log = before ++ entry :: rest → entry.exchange.1 = .saveProfile profile →
    bears email profile = true → ¬Bears email profile.identity entry.found →
      ∀ id,id ≠ profile.identity → Holder a email id entry.found → ∃ search ∈ before,search.caller = entry.caller ∧
        (∃ address,search.exchange.1 = .findVerifiedByEmail address ∧ toLower address = toLower email) ∧
          Bears email id search.found

section
variable {a : Authenticator} {email : Text} {sha256 : Text → Result Sha256Digest} {initial : AuthState}
  {floor : AuthFloor} {entry : AuthEntry} {before rest : List AuthEntry} {id : IdentityId}

theorem signIn_asks (played : Plays (signInStage sha256) initial floor) (signIns : SignInsOf a floor)
    (split : floor.log = before ++ entry :: rest) : Asks a (own entry.caller before) entry.exchange.1 := by
  have entered := played.accounted.entered entry (by simp [split])
  obtain ⟨transactionId,continuationToken,binding,response,same⟩ := signIns _ (List.getElem_mem entered)
  have follows : CallProtocols.Follows (remembering (Asks a)) (fun _ _ => True) [] floor.members[entry.caller].begun := by
    rw [same]
    exact completing_follows
  exact asked_then played split (List.getElem?_eq_getElem entered) follows

theorem signIns_gentle (played : Plays (signInStage sha256) initial floor) (signIns : SignInsOf a floor) :
    ∀ entry ∈ floor.log,Gentle entry.exchange.1 :=
  signIn_gentle played fun m inside => ⟨a,signIns m inside⟩

theorem bears_before (held : Bears email id (exec sha256 op w).2) :
    Bears email id w ∨ ∃ profile,op = .saveProfile profile ∧ profile.identity = id ∧ bears email profile = true := by
  obtain ⟨stored,found,bearing⟩ := held
  cases op with
  | saveProfile profile =>
    rcases Map.insert_cases found with ⟨mine,rfl⟩ | old
    · exact .inr ⟨_,rfl,mine,bearing⟩
    · exact .inl ⟨stored,old,bearing⟩
  | _ => exact .inl ⟨stored,found,bearing⟩

theorem authenticates_before (gentle : Gentle op) (signs : Authenticates organization id (exec sha256 op w).2) :
    Authenticates organization id w ∨ w.identities[id]? = none ∧ ∃ identity,op = .add organization identity := by
  obtain ⟨owned,found,within,permitted⟩ := signs
  cases op with
  | add other identity =>
    have found : (w.identities.add other identity).2[id]? = some owned := found
    unfold Identities.IdentityStore.add at found
    split at found
    · exact .inl ⟨owned,found,within,permitted⟩
    · rename_i absent
      rcases Map.insert_cases found with ⟨rfl,rfl⟩ | old
      · cases within
        exact .inr ⟨by simpa [Map.holds] using absent,identity,rfl⟩
      · exact .inl ⟨owned,old,within,permitted⟩
  | changeStatus other changed status =>
    cases gentle
    have found : (w.identities.changeStatus other changed .deleted).2[id]? = some owned := found
    rcases Identities.IdentityStore.changeStatus_cases other changed .deleted w.identities with
      ⟨e,same⟩ | ⟨before,known,-,same⟩
    · rw [same] at found
      exact .inl ⟨owned,found,within,permitted⟩
    · rw [same] at found
      rcases Map.insert_cases found with ⟨rfl,rfl⟩ | old
      · cases permitted
      · exact .inl ⟨owned,old,within,permitted⟩
  | _ => exact .inl ⟨owned,found,within,permitted⟩

section
variable (played : Plays (signInStage sha256) initial floor)
include played

theorem keyed_always (keyed : Keyed initial) : ∀ entry ∈ floor.log,Keyed entry.found := by
  refine (played.always (φ:=Keyed) ?_ keyed ?_).2
  · rintro w w' ⟨-,-,same⟩ keyed
    rw [Keyed,same]
    exact keyed
  · intro entry inside keyed id profile found
    obtain ⟨caller,w,op,answer⟩ := entry
    cases op with
    | saveProfile saved =>
      rcases Map.insert_cases found with ⟨same,rfl⟩ | old
      · exact same
      · exact keyed id profile old
    | _ => exact keyed id profile found

theorem onRecord_stands (signIns : SignInsOf a floor) (lifecycle : a.lifecycleRepository = true)
    (split : floor.log = before ++ entry :: rest) (recorded : OnRecord a (own caller before) id) : Stands a.organization id (fun _ => True) entry.found := by
  have gentle := signIns_gentle played signIns
  have later : ∀ earlier ∈ before,Stands a.organization id (fun _ => True) (exec sha256 earlier.exchange.1 earlier.found).2 →
      Stands a.organization id (fun _ => True) entry.found := by
    intro earlier inside stands
    obtain ⟨first,between,rfl⟩ := List.append_of_mem inside
    rw [List.append_assoc,List.cons_append] at split
    refine kept_until played stands_still split stands fun other member stands => ?_
    exact stands_kept (gentle other (by simp [split,member])) trivial stands
  have answered : ∀ earlier ∈ before,earlier.exchange.2 = (exec sha256 earlier.exchange.1 earlier.found).1 :=
    fun earlier inside => played.answered earlier (by simp [split,inside])
  rcases recorded lifecycle with ⟨identity,rfl,added⟩ | ⟨record,seen⟩
  · obtain ⟨earlier,inside,-,exchanged⟩ := mem_own.mp added
    have answer := answered earlier inside
    refine later earlier inside ?_
    rw [exchanged] at answer ⊢
    obtain ⟨owned,found,within,-⟩ := @add_stands sha256 _ _ _ answer.symm
    exact ⟨owned,found,within,trivial⟩
  · obtain ⟨earlier,inside,-,exchanged⟩ := mem_own.mp seen
    have answer := answered earlier inside
    refine later earlier inside ?_
    rw [exchanged] at answer ⊢
    have found := (Except.ok.inj answer).symm
    unfold Identities.IdentityStore.findById at found
    split at found
    · cases found
    · rename_i owned known
      split at found
      · cases found
      · rename_i within
        exact ⟨owned,known,not_not.mp within,trivial⟩

theorem saved_identity (signIns : SignInsOf a floor) (keyed : Keyed initial)
    (split : floor.log = before ++ entry :: rest) (saves : entry.exchange.1 = .saveProfile profile) :
    Looked a (own entry.caller before) profile.identity ∧ OnRecord a (own entry.caller before) profile.identity := by
  have asked := signIn_asks played signIns split
  rw [saves] at asked
  obtain ⟨id,looked,recorded,rfl | ⟨found,read,same⟩⟩ := asked
  · exact ⟨looked,recorded⟩
  · obtain ⟨earlier,inside,-,exchanged⟩ := mem_own.mp read
    have answer := played.answered earlier (by simp [split,inside])
    rw [exchanged] at answer
    have stored : earlier.found.profiles[id]? = some found := (Except.ok.inj answer).symm
    have mine := keyed_always played keyed earlier (by simp [split,inside]) id found stored
    rw [same,mine]
    exact ⟨looked,recorded⟩

end

def Known (a : Authenticator) (email : Text) (w : AuthState) : Prop :=
  a.lifecycleRepository = true → ∀ id,Bears email id w → Stands a.organization id (fun _ => True) w

theorem known_always (played : Plays (signInStage sha256) initial floor) (signIns : SignInsOf a floor)
    (keyed : Keyed initial) (fresh : ∀ id,¬Bears email id initial) :
    Known a email floor.world ∧ ∀ entry ∈ floor.log,Known a email entry.found := by
  refine played.always (φ:=Known a email) ?_ (fun _ id held => (fresh id held).elim) ?_
  · rintro w w' ⟨-,same,profiles⟩ known lifecycle id held
    have before := known lifecycle id (by rw [Bears,← profiles]; exact held)
    rw [Stands,same]
    exact before
  · intro entry inside known lifecycle id held
    have gentle := signIns_gentle played signIns entry inside
    obtain ⟨first,rest,split⟩ := List.append_of_mem inside
    have kept : Stands a.organization id (fun _ => True) entry.found →
        Stands a.organization id (fun _ => True) (exec sha256 entry.exchange.1 entry.found).2 := stands_kept gentle trivial
    rcases bears_before held with old | ⟨profile,saves,rfl,-⟩
    · exact kept (known lifecycle id old)
    · exact kept (onRecord_stands played signIns lifecycle split (saved_identity played signIns keyed split saves).2)

theorem holder_before (played : Plays (signInStage sha256) initial floor) (signIns : SignInsOf a floor)
    (known : Known a email entry.found) (inside : entry ∈ floor.log)
    (holder : Holder a email id (exec sha256 entry.exchange.1 entry.found).2) : Holder a email id entry.found ∨
      ∃ profile,entry.exchange.1 = .saveProfile profile ∧ profile.identity = id ∧ bears email profile = true := by
  obtain ⟨held,signs⟩ := holder
  obtain ⟨first,rest,split⟩ := List.append_of_mem inside
  rcases bears_before held with old | saved
  · refine .inl ⟨old,?_⟩
    rcases authenticates_before (signIns_gentle played signIns entry inside) signs with before | ⟨absent,identity,adds⟩
    · exact before
    · have lifecycle := signIn_asks played signIns split
      rw [adds] at lifecycle
      obtain ⟨owned,found,-⟩ := known lifecycle id old
      rw [absent] at found
      cases found
  · exact .inr saved

theorem bears_lower (same : toLower address = toLower email) : Bears address id w ↔ Bears email id w := by
  unfold Bears bears
  rw [same]

section
variable (played : Plays (signInStage sha256) initial floor)
include played

theorem stands_until {two : Entry _ _ _} {one : Entry _ _ _} (gentle : ∀ entry ∈ floor.log,Gentle entry.exchange.1) (closed : kind .deleted)
    (split : floor.log = first ++ one :: (between ++ two :: after)) (stands : Stands organization id kind one.found) :
    Stands organization id kind two.found := by
  refine kept_until played stands_still split (stands_kept (gentle one (by simp [split])) closed stands) ?_
  intro entry inside stands
  exact stands_kept (gentle entry (by simp [split,inside])) closed stands

theorem searched_barred (signIns : SignInsOf a floor) (known : ∀ entry ∈ floor.log,Known a email entry.found)
    (split : floor.log = before ++ entry :: rest) (looked : Looked a (own entry.caller before) mine)
    (inside : search ∈ before) (same : search.caller = entry.caller)
    (searches : search.exchange.1 = .findVerifiedByEmail address) (lowered : toLower address = toLower email)
    (held : Bears email id search.found) (other : id ≠ mine) : ¬Authenticates a.organization id entry.found := by
  have gentle := signIns_gentle played signIns
  have lifecycle : a.lifecycleRepository = true := by
    obtain ⟨x,y,shape⟩ := List.append_of_mem inside
    have asked := signIn_asks played signIns (show floor.log = x ++ search :: (y ++ entry :: rest) by simp [split,shape])
    rwa [searches] at asked
  have answered : ∀ earlier ∈ before,earlier.exchange.2 = (exec sha256 earlier.exchange.1 earlier.found).1 :=
    fun earlier member => played.answered earlier (by simp [split,member])
  have exchanged : search.exchange =
      ⟨.findVerifiedByEmail address,.ok (search.found.profiles.findVerifiedByEmail address)⟩ := by
    have answer := answered search inside
    obtain ⟨caller,found,op,given⟩ := search
    cases searches
    exact congrArg (Sigma.mk _) answer
  have listed : id ∈ search.found.profiles.findVerifiedByEmail address := found_bears.mpr ((bears_lower lowered).mpr held)
  rcases looked _ _ (mem_own.mpr ⟨search,inside,same,exchanged⟩) id listed with mine | ⟨answer,order,barred⟩
  · exact absurd mine other
  obtain ⟨entries,told,-,shape⟩ := sublist_own order
  obtain ⟨again,_,rfl,one,shape⟩ := List.map_eq_cons_iff.mp shape
  obtain ⟨seen,_,rfl,two,shape⟩ := List.map_eq_cons_iff.mp shape
  cases List.map_eq_nil_iff.mp shape
  obtain ⟨x,y,z,rfl⟩ := pair_split told
  have present : Stands a.organization id (fun _ => True) again.found := by
    have answer := answered again (by simp)
    rw [one] at answer
    have listed : id ∈ again.found.profiles.findVerifiedByEmail address := (Except.ok.inj answer) ▸ listed
    exact known again (by simp [split]) lifecycle id ((bears_lower lowered).mp (found_bears.mp listed))
  have firstSplit : floor.log = x ++ again :: (y ++ seen :: (z ++ entry :: rest)) := by simp [split]
  obtain ⟨owned,found,within,-⟩ := stands_until played gentle trivial firstSplit present
  have status : Identities.permitsAuthentication owned.identity.status = false := by
    have answer := answered seen (by simp)
    rw [two] at answer
    cases Except.ok.inj answer
    simpa [Identities.IdentityStore.findById,found,within,Identity.canAuthenticate] using barred
  have secondSplit : floor.log = (x ++ again :: y) ++ seen :: (z ++ entry :: rest) := by simp [split]
  have refuses : Stands a.organization id (fun status => Identities.permitsAuthentication status = false) entry.found :=
    stands_until played gentle rfl secondSplit ⟨owned,found,within,status⟩
  obtain ⟨later,there,-,refused⟩ := refuses
  rintro ⟨signs,known,-,permitted⟩
  cases there.symm.trans known
  rw [refused] at permitted
  cases permitted

theorem saved_alone (signIns : SignInsOf a floor) (keyed : Keyed initial)
    (known : ∀ entry ∈ floor.log,Known a email entry.found) (orderly : Orderly a email floor.log)
    (inside : entry ∈ floor.log) (saves : entry.exchange.1 = .saveProfile profile)
    (bearing : bears email profile = true) (anew : ¬Bears email profile.identity entry.found)
    (holder : Holder a email id entry.found) : id = profile.identity := by
  by_contra other
  obtain ⟨before,rest,split⟩ := List.append_of_mem inside
  obtain ⟨search,earlier,same,⟨address,searches,lowered⟩,held⟩ :=
    orderly before entry rest profile split saves bearing anew id other holder
  have looked := (saved_identity played signIns keyed split saves).1
  exact searched_barred played signIns known split looked earlier same searches lowered held other holder.2

end

end

-- From nobody on, at most one identity that may sign in ever holds the address, in
-- every run in which those who get it have searched since the last one got it.
theorem emails_converge {a : Authenticator} {email : Text} {sha256 : Text → Result Sha256Digest} {initial : AuthState}
    {floor : AuthFloor} (played : Plays (signInStage sha256) initial floor) (signIns : SignInsOf a floor)
    (keyed : Keyed initial) (fresh : initial.profiles.findVerifiedByEmail email = [])
    (orderly : Orderly a email floor.log) :
    ∀ one two,Holder a email one floor.world → Holder a email two floor.world → one = two := by
  have nobody : ∀ id,¬Bears email id initial := by
    intro id held
    have listed := found_bears.mpr held
    rw [fresh] at listed
    cases listed
  have known := (known_always played signIns keyed nobody).2
  refine (played.always (φ:=fun w => ∀ one two,Holder a email one w → Holder a email two w → one = two) ?_ ?_ ?_).1
  · rintro w w' ⟨-,identities,profiles⟩ alone one two first second
    rw [Holder,Bears,Authenticates,Stands,identities,profiles] at first second
    exact alone one two first second
  · intro one two first
    exact (nobody one first.1).elim
  · intro entry inside alone one two first second
    have joins : ∀ id profile,entry.exchange.1 = .saveProfile profile → bears email profile = true →
        Holder a email profile.identity (exec sha256 entry.exchange.1 entry.found).2 → Holder a email id entry.found →
          id = profile.identity := by
      intro id profile saves bearing after holder
      by_cases anew : Bears email profile.identity entry.found
      · have signs : Authenticates a.organization profile.identity entry.found := by
          have later := after.2
          rwa [saves] at later
        exact alone id profile.identity holder ⟨anew,signs⟩
      · exact saved_alone played signIns keyed known orderly inside saves bearing anew holder
    rcases holder_before played signIns (known entry inside) inside first with before | ⟨profile,saves,rfl,bearing⟩
    · rcases holder_before played signIns (known entry inside) inside second with also | ⟨profile,saves,rfl,bearing⟩
      · exact alone one two before also
      · exact joins one profile saves bearing second before
    · rcases holder_before played signIns (known entry inside) inside second with also | ⟨other,again,rfl,-⟩
      · exact (joins two profile saves bearing first also).symm
      · cases saves.symm.trans again
        rfl

def demoAddress : Text := "ann@x.org"

def demoClaims : VerifiedClaims :=
  ⟨((∅ : Map Text Text).insert (claimNameKey .email) demoAddress).insert (claimNameKey .emailVerified) "true"⟩

def demoMailbox (provider : Text) (named : (⟨provider⟩ : Identities.ProviderId).empty = false) : AuthenticationProvider where
  interactionModel := .redirect
  maximumClaimableAssurance := .ial2
  beginAuthentication _ := .returned (.ok ⟨⟨"c"⟩,1000,∅⟩)
  completeAuthentication _ := .returned (.ok ⟨⟨provider⟩,⟨"ann"⟩,demoClaims,.ial1,
    ⟨Identities.AuthenticationFactor.knowledge,false⟩,∅,5,⟨named,rfl⟩⟩)

def demoFederation : Authenticator := { demoAuthenticator with
  trustPolicy := ⟨(Std.ExtTreeMap.insert ∅ ⟨"mail"⟩ .ial3).insert ⟨"work"⟩ .ial3,
    (Std.ExtTreeMap.insert ∅ ⟨"mail"⟩ true).insert ⟨"work"⟩ true⟩ }

def demoProviders : AuthState := { demoWorld with
  providers := fun id => if id = ⟨"mail"⟩ then some (demoMailbox "mail" (by decide))
    else if id = ⟨"work"⟩ then some (demoMailbox "work" (by decide)) else none }

def demoWith (provider : Text) : AuthCall Reply :=
  starting demoFederation ⟨⟨provider⟩,⟨[],[]⟩,none,∅⟩ 0 "flow" none

def demoStarted : AuthState :=
  let one := ((demoWith "mail").run (exec demoSha256) demoProviders).2
  let two := ((demoWith "work").run (exec demoSha256) { one with randomness := fun _ => .ok "other" }).2
  { demoProviders with transactions := two.transactions }

def demoPair : List (Turn AuthOp AuthOp.Ret Error Reply AuthState) :=
  [.enter (demoFirst demoFederation),.enter (demoOther demoFederation)]

def demoRace : List (Turn AuthOp AuthOp.Ret Error Reply AuthState) :=
  demoPair ++ steps 0 8 ++ steps 1 8 ++ steps 0 8 ++
    [.drift fun w => { w with randomness := fun _ => .ok "other" }] ++ steps 1 8

theorem demo_signIns {floor : AuthFloor}
    (two : turns.filterMap Turn.entered = [demoFirst demoFederation,demoOther demoFederation])
    (taken : takeTurns (exec demoSha256) turns (⟨w,[],[]⟩ : AuthFloor) = some floor) : SignInsOf demoFederation floor := by
  intro m inside
  obtain ⟨i,entered,rfl⟩ := List.getElem_of_mem inside
  have known := takeTurns_member taken (List.getElem?_eq_getElem entered)
  rw [two] at known
  rcases List.mem_cons.mp (List.mem_of_getElem? known) with same | later
  · exact ⟨_,_,_,_,same⟩
  · exact ⟨_,_,_,_,List.mem_singleton.mp later⟩

theorem demo_keyed : Keyed demoStarted := by
  intro id profile found
  rw [show demoStarted.profiles = ∅ from rfl,Std.ExtTreeMap.getElem?_empty] at found
  cases found

def Vouches (a : Authenticator) (email : Text) (log : List AuthEntry) : Prop :=
  ∀ entry ∈ log,∀ id response outcome,entry.exchange = ⟨.completeAuthentication id response,.returned (.ok outcome)⟩ →
    a.trustPolicy.maySelfProvision outcome.provider = true ∧ outcome.claims.isTrue .emailVerified = true ∧
      outcome.claims.get .email = some email

def outcomeOf : Exchange AuthOp AuthOp.Ret → Option AuthenticationOutcome
  | ⟨.completeAuthentication _ _,.returned (.ok outcome)⟩ => some outcome
  | _ => none

def vouches (a : Authenticator) (email : Text) (entry : AuthEntry) : Bool :=
  (outcomeOf entry.exchange).all fun outcome => a.trustPolicy.maySelfProvision outcome.provider &&
    outcome.claims.isTrue .emailVerified && outcome.claims.get .email == some email

theorem told_vouches {a : Authenticator} {email : Text} (told : log.all (vouches a email) = true) : Vouches a email log := by
  intro entry inside id response outcome exchanged
  have seen := List.all_eq_true.mp told entry inside
  rw [vouches,exchanged] at seen
  simp only [outcomeOf,Option.all_some,Bool.and_eq_true,beq_iff_eq] at seen
  exact ⟨seen.1.1,seen.1.2,seen.2⟩

def holderNow (a : Authenticator) (email : Text) (w : AuthState) (id : IdentityId) : Bool :=
  (w.profiles.findVerifiedByEmail email).contains id &&
    (w.identities.findById a.organization id).any Identity.canAuthenticate

theorem holderNow_holder {a : Authenticator} {email : Text} {id : IdentityId} (now : holderNow a email w id = true) : Holder a email id w := by
  simp only [holderNow,Bool.and_eq_true,List.contains_iff_mem] at now
  exact ⟨found_bears.mp now.1,findById_authenticates.mp now.2⟩

theorem emails_diverge : ∃ floor : AuthFloor,Plays (signInStage demoSha256) demoStarted floor ∧
    SignInsOf demoFederation floor ∧ Keyed demoStarted ∧ demoStarted.profiles.findVerifiedByEmail demoAddress = [] ∧
      Vouches demoFederation demoAddress floor.log ∧ Verifies (own 0 floor.log) ⟨⟨"mail"⟩,⟨"ann"⟩⟩ ∧
        Verifies (own 1 floor.log) ⟨⟨"work"⟩,⟨"ann"⟩⟩ ∧ Holder demoFederation demoAddress ⟨"opi_token"⟩ floor.world ∧
          Holder demoFederation demoAddress ⟨"opi_other"⟩ floor.world := by
  have done : (takeTurns (exec demoSha256) demoRace (⟨demoStarted,[],[]⟩ : AuthFloor)).any (fun floor =>
      floor.log.all (vouches demoFederation demoAddress) &&
        ((own 0 floor.log).any fun exchange => subjectOf exchange == some ⟨⟨"mail"⟩,⟨"ann"⟩⟩) &&
          ((own 1 floor.log).any fun exchange => subjectOf exchange == some ⟨⟨"work"⟩,⟨"ann"⟩⟩) &&
            holderNow demoFederation demoAddress floor.world ⟨"opi_token"⟩ &&
              holderNow demoFederation demoAddress floor.world ⟨"opi_other"⟩) = true := by
    decide
  obtain ⟨floor,taken,holds⟩ := (Option.any_eq_true _ _).mp done
  simp only [Bool.and_eq_true] at holds
  obtain ⟨⟨⟨⟨told,one⟩,two⟩,first⟩,second⟩ := holds
  refine ⟨floor,Plays.start.turns ?_ taken,demo_signIns rfl taken,demo_keyed,by decide,told_vouches told,
    told_verifies one,told_verifies two,holderNow_holder first,holderNow_holder second⟩
  simp [demoRace,demoPair,steps,Turn.Allowed,signInStage]

def savedOf : AuthOp → Option IdentityProfile
  | .saveProfile profile => some profile
  | _ => none

def savesFirst (email : Text) (entry : AuthEntry) : Bool :=
  (savedOf entry.exchange.1).all fun profile => (entry.found.profiles.findVerifiedByEmail email).contains profile.identity ||
    (entry.found.profiles.findVerifiedByEmail email).isEmpty

theorem orderly_first {a : Authenticator} {email : Text} (first : log.all (savesFirst email) = true) : Orderly a email log := by
  rintro before entry rest profile rfl saves - anew id other ⟨held,-⟩
  have checked := List.all_eq_true.mp first entry (by simp)
  rw [savesFirst,saves] at checked
  simp only [savedOf,Option.all_some] at checked
  simp only [Bool.or_eq_true,List.contains_iff_mem,List.isEmpty_iff] at checked
  rcases checked with already | nobody
  · exact absurd (found_bears.mp already) anew
  · have listed := found_bears.mpr held
    rw [nobody] at listed
    cases listed

theorem emails_converge_in_turn : ∃ floor : AuthFloor,Plays (signInStage demoSha256) demoStarted floor ∧
    SignInsOf demoFederation floor ∧ Holder demoFederation demoAddress ⟨"opi_token"⟩ floor.world ∧
      ∀ two,Holder demoFederation demoAddress two floor.world → two = ⟨"opi_token"⟩ := by
  let turns : List (Turn AuthOp AuthOp.Ret Error Reply AuthState) := demoPair ++ steps 0 16 ++ steps 1 14
  have done : (takeTurns (exec demoSha256) turns (⟨demoStarted,[],[]⟩ : AuthFloor)).any (fun floor =>
      floor.log.all (savesFirst demoAddress) && holderNow demoFederation demoAddress floor.world ⟨"opi_token"⟩) = true := by
    decide
  obtain ⟨floor,taken,holds⟩ := (Option.any_eq_true _ _).mp done
  obtain ⟨first,now⟩ := Bool.and_eq_true_iff.mp holds
  have played : Plays (signInStage demoSha256) demoStarted floor := by
    refine Plays.start.turns ?_ taken
    simp [turns,demoPair,steps,Turn.Allowed]
  have signIns := demo_signIns rfl taken
  have holder := holderNow_holder now
  refine ⟨floor,played,signIns,holder,?_⟩
  intro two other
  exact emails_converge played signIns demo_keyed (by decide) (orderly_first first) two _ other holder

end OpenProof.EmailConvergence
