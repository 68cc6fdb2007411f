import OpenProof.CallHistories
import OpenProof.PasskeyProvider

namespace OpenProof.PasskeyCounters
open AtomicPrograms CallTraces CallLogs CallHistories Foundation Passkeys PasskeyProvider AuthenticationWorld
open ExternalIdentities PasskeyAuthenticationProvider

inductive PasskeyCall where
  | begins (request : AuthenticationRequest)
  | completes (response : AuthenticationResponse)

inductive PasskeyReply where
  | challenged (challenge : AuthenticationChallenge)
  | authenticated (outcome : AuthenticationOutcome)

def calling (p : PasskeyAuthenticationProvider) : PasskeyCall → Call PasskeyReply
  | .begins request => (p.beginAuthentication request).bind fun challenge => .ret (.challenged challenge)
  | .completes response => (p.completeAuthentication response).bind fun outcome => .ret (.authenticated outcome)

abbrev PasskeyEntry := Entry Op Op.Ret State
abbrev PasskeyFloor := Floor Op Op.Ret Error PasskeyReply State

abbrev counterOf (credentialId : Text) (w : State) : Option UInt32 := w.repository.counter credentialId

def stage (credentialId : Text) : Stage Op Op.Ret State where
  exec := exec
  drift before after := ∀ count,counterOf credentialId before = some count → counterOf credentialId after = some count

def Serves (floor : PasskeyFloor) : Prop := ∀ m ∈ floor.members,∃ p call,m.begun = calling p call

def Reports (response : AuthenticationResponse) (credentialId : Text) (reported : UInt32) : Prop :=
  ∃ assertion data,assertionOf response = some assertion ∧ assertion.credentialId = credentialId ∧
    decodeCanonical assertion.authenticatorData kMaximumAttestation = .ok data ∧ signCountOf data = reported

def Takes (credentialId : Text) (reported : UInt32) (exchange : Exchange Op Op.Ret) : Prop :=
  ∃ expected usedAt,exchange = ⟨.passkey (.advanceCounter credentialId expected reported usedAt),.ok ()⟩

def Succeeds (floor : PasskeyFloor) (i : Nat) (credentialId : Text) (reported : UInt32) : Prop :=
  ∃ p response outcome,floor.members[i]? = some ⟨calling p (.completes response),.ret (.authenticated outcome)⟩ ∧
    Reports response credentialId reported

def Reached (credentialId : Text) (count : UInt32) (w : State) : Prop :=
  ∃ stored,counterOf credentialId w = some stored ∧ count ≤ stored

def Grown (credentialId : Text) (w later : State) : Prop :=
  ∀ count,counterOf credentialId w = some count → Reached credentialId count later

def Asked : Op → Prop
  | .passkey (.findCredential _) => True
  | .passkey (.advanceCounter ..) => True
  | .passkey _ => False
  | _ => True

theorem Advances.le (step : Advances expected replacement) : expected ≤ replacement := by
  rcases step with ⟨rfl,rfl⟩ | less
  · exact UInt32.le_refl 0
  · exact UInt32.le_of_lt less

theorem Advances.strict (step : Advances expected replacement) (counted : expected ≠ 0) : expected < replacement := by
  rcases step with ⟨none,-⟩ | less
  · exact absurd none counted
  · exact less

theorem Reached.beyond {credentialId : Text} {count expected reported : UInt32} {w : State}
    (reached : Reached credentialId count w) (found : counterOf credentialId w = some expected)
    (step : Advances expected reported) (counted : count ≠ 0) : count < reported := by
  obtain ⟨stored,there,least⟩ := reached
  obtain rfl := Option.some.inj (there.symm.trans found)
  have positive : stored ≠ 0 := by
    rintro rfl
    exact counted (UInt32.le_antisymm least (UInt32.zero_le))
  exact UInt32.lt_of_le_of_lt least (Advances.strict step positive)

section
variable {credentialId : Text} {count : UInt32} {w w' : State}

theorem reached_kept (asked : Asked op) (reached : Reached credentialId count w) :
    Reached credentialId count (exec op w).2 := by
  obtain ⟨stored,there,least⟩ := reached
  cases op with
  | now | random => exact ⟨stored,there,least⟩
  | passkey op =>
    cases w.repository.exec_counted op credentialId with
    | kept same => exact ⟨stored,same.trans there,least⟩
    | advanced expected replacement usedAt _ found left step =>
      obtain rfl := Option.some.inj (there.symm.trans found)
      exact ⟨replacement,left,UInt32.le_trans least (Advances.le step)⟩
    | added absent => exact absurd (there.symm.trans absent) (Option.some_ne_none stored)
    | removed identity removes _ =>
      rcases removes with rfl | rfl
      · exact asked.elim
      · exact asked.elim

theorem reached_still (moved : (stage credentialId).drift w w') (reached : Reached credentialId count w) :
    Reached credentialId count w' := by
  obtain ⟨stored,there,least⟩ := reached
  exact ⟨stored,moved stored there,least⟩

theorem taken {reported : UInt32} (takes : Takes credentialId reported ⟨op,(exec op w).1⟩) :
    ∃ expected,counterOf credentialId w = some expected ∧ counterOf credentialId (exec op w).2 = some reported ∧
      Advances expected reported := by
  obtain ⟨expected,usedAt,same⟩ := takes
  obtain ⟨rfl,done⟩ := executed_as same
  exact ⟨expected,PasskeyRepository.advance_done done⟩

end

section
variable (p : PasskeyAuthenticationProvider)

theorem verifyAssertion_only (response : PasskeyProvider.AssertionResponse) (expectedChallenge : Text) (now : Instant) :
    (p.verifyAssertion response expectedChallenge now).Only Asked := by
  unfold PasskeyAuthenticationProvider.verifyAssertion
  split
  · refine ⟨trivial,fun found => ?_⟩
    dsimp only [Prog.bind]
    split
    · exact .check_bind fun next _ => ⟨trivial,fun advanced => .check_bind fun _ _ => trivial⟩
    · trivial
  · trivial

theorem calling_only (call : PasskeyCall) : (calling p call).Only Asked := by
  cases call with
  | begins request =>
    refine .bind ?_ fun _ => trivial
    unfold PasskeyAuthenticationProvider.beginAuthentication
    split
    · trivial
    · exact ⟨trivial,fun drawn => .check_bind fun random _ => .check_bind fun challenge _ => ⟨trivial,fun _ => trivial⟩⟩
  | completes response =>
    refine .bind ?_ fun _ => trivial
    unfold PasskeyAuthenticationProvider.completeAuthentication
    split
    · trivial
    · refine .check_bind fun challenge _ => .bind (.perform trivial) fun at_ => ?_
      exact .bind (verifyAssertion_only p _ _ _) fun credential => .bind (.perform trivial) fun verifiedAt => .check ..

theorem prefix_counts (done : p.verifyAuthenticatorPrefix data relyingPartyId attested = .ok parsed) : parsed.signCount = signCountOf data := by
  obtain ⟨-,done⟩ := passed done
  obtain ⟨-,done⟩ := passed done
  obtain ⟨-,done⟩ := passed done
  exact Except.ok.inj done ▸ rfl

theorem verifyStored_counts {reported : UInt32}
    (done : p.verifyStored stored response client data signature = .ok reported) : signCountOf data = reported := by
  obtain ⟨parsed,read,done⟩ := bind_ok done
  obtain ⟨-,done⟩ := passed done
  obtain ⟨_,-,done⟩ := bind_ok done
  obtain ⟨_,-,done⟩ := bind_ok done
  obtain ⟨clientHash,-,done⟩ := bind_ok done
  obtain ⟨_,-,done⟩ := bind_ok done
  obtain ⟨-,done⟩ := passed done
  rw [← prefix_counts p read]
  exact Except.ok.inj done

theorem verifyAssertion_yields (response : PasskeyProvider.AssertionResponse) (expectedChallenge : Text) (now : Instant) :
    Yields (p.verifyAssertion response expectedChallenge now) fun trace _ => ∃ data stored,
      decodeCanonical response.authenticatorData kMaximumAttestation = .ok data ∧
        trace = [⟨.passkey (.findCredential response.credentialId),.ok (some stored)⟩,
          ⟨.passkey (.advanceCounter response.credentialId stored.signCount (signCountOf data) now),.ok ()⟩] := by
  unfold PasskeyAuthenticationProvider.verifyAssertion
  split
  · rename_i client _ data signature _ _ read _
    refine .ask fun found => ?_
    split
    · rename_i stored
      refine .check fun reported counted => .ask fun advanced => .check fun done finished => .ret ?_
      obtain rfl := verifyStored_counts p counted
      subst finished
      exact ⟨data,stored,read,rfl⟩
    · exact .fail
  · exact .fail

def Authenticates (response : AuthenticationResponse) (trace : List (Exchange Op Op.Ret)) : Prop :=
  ∃ credentialId reported stored at_ verifiedAt,Reports response credentialId reported ∧
    trace = [⟨.now,at_⟩,⟨.passkey (.findCredential credentialId),.ok (some stored)⟩,
      ⟨.passkey (.advanceCounter credentialId stored.signCount reported at_),.ok ()⟩,⟨.now,verifiedAt⟩]

theorem complete_yields (response : AuthenticationResponse) :
    Yields (p.completeAuthentication response) fun trace _ => Authenticates response trace := by
  unfold PasskeyAuthenticationProvider.completeAuthentication
  split
  · exact .fail
  · rename_i assertion presented
    refine .check fun challenge _ => .ask fun at_ => .bind (verifyAssertion_yields p assertion challenge at_) ?_
    rintro done credential ⟨data,stored,read,rfl⟩
    refine .ask fun verifiedAt => .checked fun outcome _ => ?_
    exact ⟨_,_,stored,at_,verifiedAt,⟨assertion,data,presented,rfl,read,rfl⟩,rfl⟩

theorem calling_yields (response : AuthenticationResponse) :
    Yields (calling p (.completes response)) fun trace _ => Authenticates response trace := by
  refine .bind (complete_yields p response) fun done outcome went => .ret ?_
  rwa [List.append_nil]

end

section
variable {credentialId : Text} {count reported next : UInt32} {initial : State} {floor : PasskeyFloor}
  {first between rest : List PasskeyEntry} {one two entry : PasskeyEntry} {i j : Nat}

theorem reached_keeping (serves : Serves floor) (played : Plays (stage credentialId) initial floor) (count : UInt32)
    (inside : entry ∈ floor.log) : Keeping (stage credentialId) (Reached credentialId count) entry := by
  have entered := played.accounted.entered entry inside
  obtain ⟨p,call,same⟩ := serves _ (List.getElem_mem entered)
  have only : floor.members[entry.caller].begun.Only Asked := same ▸ calling_only p call
  exact reached_kept (Plays.only played (List.getElem?_eq_getElem entered) only entry inside rfl)

theorem reached_until (serves : Serves floor) (played : Plays (stage credentialId) initial floor)
    (split : floor.log = first ++ one :: (between ++ two :: rest))
    (reached : Reached credentialId count (exec one.exchange.1 one.found).2) : Reached credentialId count two.found := by
  refine kept_until played (fun w w' => reached_still) split reached fun entry inside => ?_
  exact reached_keeping serves played count (by simp [split,inside])

theorem grown_run (serves : Serves floor) (played : Plays (stage credentialId) initial floor) :
    Grown credentialId initial floor.world := by
  intro count there
  refine (Plays.always played (fun w w' => reached_still) ⟨count,there,UInt32.le_refl count⟩ ?_).1
  exact fun entry inside => reached_keeping serves played count inside

theorem grown_since (serves : Serves floor) (played : Plays (stage credentialId) initial floor)
    (split : floor.log = first ++ one :: rest) : Grown credentialId one.found floor.world ∧
      ∀ two ∈ rest,Grown credentialId one.found two.found := by
  have here : one ∈ floor.log := by simp [split]
  have onward : ∀ count,counterOf credentialId one.found = some count →
      Reached credentialId count (exec one.exchange.1 one.found).2 :=
    fun count there => reached_keeping serves played count here ⟨count,there,UInt32.le_refl count⟩
  constructor
  · intro count there
    refine Plays.since played (fun w w' => reached_still) first one rest split (onward count there) ?_
    exact fun later inside => reached_keeping serves played count (by simp [split,inside])
  · intro two inside count there
    obtain ⟨between,after,rfl⟩ := List.append_of_mem inside
    exact reached_until serves played split (onward count there)

theorem entry_taken (played : Plays (stage credentialId) initial floor) (inside : entry ∈ floor.log)
    (takes : Takes credentialId reported entry.exchange) : ∃ expected,counterOf credentialId entry.found = some expected ∧
      counterOf credentialId (exec entry.exchange.1 entry.found).2 = some reported ∧ Advances expected reported :=
  taken (Plays.exchanged played entry inside ▸ takes)

-- The worlds a run has gone through until one of its operations is called.
abbrev worldsUntil (initial : State) (first : List PasskeyEntry) (one : PasskeyEntry) : List State :=
  initial :: (first ++ [one]).map Entry.found

theorem grown_until (serves : Serves floor) (played : Plays (stage credentialId) initial floor)
    (split : floor.log = first ++ one :: rest) : ∀ w ∈ worldsUntil initial first one,Grown credentialId w one.found := by
  intro w inside count there
  rcases List.mem_cons.mp inside with rfl | later
  · refine (Plays.always played (fun w w' => reached_still) ⟨count,there,UInt32.le_refl count⟩ ?_).2 one (by simp [split])
    exact fun entry inside => reached_keeping serves played count inside
  · obtain ⟨earlier,member,rfl⟩ := List.mem_map.mp later
    rcases List.mem_append.mp member with before | same
    · obtain ⟨front,between,rfl⟩ := List.append_of_mem before
      have shape : floor.log = front ++ earlier :: (between ++ one :: rest) := by simp [split]
      exact (grown_since serves played shape).2 one (by simp) count there
    · cases List.mem_singleton.mp same
      exact ⟨count,there,UInt32.le_refl count⟩

theorem taken_beyond (serves : Serves floor) (played : Plays (stage credentialId) initial floor)
    (split : floor.log = first ++ one :: rest) (takes : Takes credentialId reported one.exchange) :
    (∀ w ∈ worldsUntil initial first one,∀ count,counterOf credentialId w = some count → count ≠ 0 → count < reported) ∧
      ∀ later ∈ rest,∀ next,Takes credentialId next later.exchange → reported ≠ 0 → reported < next := by
  obtain ⟨expected,found,left,step⟩ := entry_taken played (by simp [split]) takes
  constructor
  · intro w inside count there counted
    exact (grown_until serves played split w inside count there).beyond found step counted
  · intro later inside next takesNext counted
    obtain ⟨between,after,rfl⟩ := List.append_of_mem inside
    obtain ⟨expected',found',-,step'⟩ := entry_taken played (by simp [split]) takesNext
    have reached := reached_until serves played split ⟨reported,left,UInt32.le_refl reported⟩
    exact reached.beyond found' step' counted

theorem succeeded (played : Plays (stage credentialId) initial floor) (succeeds : Succeeds floor i credentialId reported) :
    ∃ stored at_ verifiedAt,own i floor.log = [⟨.now,at_⟩,⟨.passkey (.findCredential credentialId),.ok (some stored)⟩,
      ⟨.passkey (.advanceCounter credentialId stored.signCount reported at_),.ok ()⟩,⟨.now,verifiedAt⟩] := by
  obtain ⟨p,response,outcome,finished,assertion,data,presented,rfl,read,rfl⟩ := succeeds
  obtain ⟨_,_,stored,at_,verifiedAt,⟨assertion',data',presented',rfl,read',rfl⟩,trace⟩ :=
    calling_yields p response _ _ (played.returned finished)
  cases presented.symm.trans presented'
  cases read.symm.trans read'
  exact ⟨stored,at_,verifiedAt,trace⟩

theorem success_taken (played : Plays (stage credentialId) initial floor)
    (succeeds : Succeeds floor i credentialId reported) : ∃ first,∃ one : Entry _ _ _,∃ rest,floor.log = first ++ one :: rest ∧
      one.caller = i ∧ Takes credentialId reported one.exchange := by
  obtain ⟨stored,at_,verifiedAt,trace⟩ := succeeded played succeeds
  have asked : ⟨.passkey (.advanceCounter credentialId stored.signCount reported at_),.ok ()⟩ ∈ own i floor.log := by
    simp [trace]
  obtain ⟨one,inside,mine,same⟩ := mem_own.mp asked
  obtain ⟨first,rest,split⟩ := List.append_of_mem inside
  exact ⟨first,one,rest,split,mine,stored.signCount,at_,same⟩

theorem counters_guarded (serves : Serves floor) (played : Plays (stage credentialId) initial floor) :
    (Grown credentialId initial floor.world ∧ ∀ first (one : Entry _ _ _) rest,floor.log = first ++ one :: rest →
      Grown credentialId one.found floor.world ∧ ∀ two ∈ rest,Grown credentialId one.found two.found) ∧
    (∀ (i : Nat) reported,Succeeds floor i credentialId reported → ∃ first : List PasskeyEntry,∃ one : PasskeyEntry,∃ rest,floor.log = first ++ one :: rest ∧
      one.caller = i ∧ Takes credentialId reported one.exchange ∧
      (∀ w ∈ worldsUntil initial first one,∀ count,counterOf credentialId w = some count → count ≠ 0 → count < reported) ∧
      ∀ later ∈ rest,∀ next,Takes credentialId next later.exchange → reported ≠ 0 → reported < next) ∧
    ∀ (i j : Nat) reported next,i ≠ j → Succeeds floor i credentialId reported → Succeeds floor j credentialId next →
      reported ≠ 0 → next ≠ 0 → reported < next ∨ next < reported := by
  refine ⟨⟨grown_run serves played,fun first one rest split => grown_since serves played split⟩,?_,?_⟩
  · intro i reported succeeds
    obtain ⟨first,one,rest,split,mine,takes⟩ := success_taken played succeeds
    exact ⟨first,one,rest,split,mine,takes,taken_beyond serves played split takes⟩
  · intro i j reported next apart one_ two_ counted counted'
    obtain ⟨first,one,rest,split,rfl,takes⟩ := success_taken played one_
    obtain ⟨before,two,since,split',rfl,takes'⟩ := success_taken played two_
    rcases split_order (split.symm.trans split') with later | same | earlier
    · exact .inl ((taken_beyond serves played split takes).2 two later next takes' counted)
    · exact absurd (congrArg Entry.caller same.symm) apart
    · exact .inr ((taken_beyond serves played split' takes').2 one earlier reported takes counted')

end

def demoProvider : PasskeyAuthenticationProvider where
  config := ⟨"example.org","https://example.org",[],300000⟩
  hmacSha256 _ _ := .ok 0
  sha256 _ := .ok 0
  parseJson _ := some (.object [("type",.string "webauthn.get"),
    ("challenge",.string (toBase64Url (GatewayWorld.digestBytes 0))),("origin",.string "https://example.org")])
  serialize _ := []
  verifySignature _ _ _ _ := .ok ()

def demoCredential : PasskeyCredential where
  credentialId := "aWQ"
  identity := ⟨"ann"⟩
  publicKeyX := toBase64Url (List.replicate 32 0)
  publicKeyY := toBase64Url (List.replicate 32 0)
  signCount := 4
  createdAt := 0
  lastUsedAt := 0

def demoWorld : State := ⟨5,[],.inMemory ⟨∅,(∅ : Map Text PasskeyCredential).insert "aWQ" demoCredential⟩⟩

def demoData (count : UInt8) : Text := toBase64Url (List.replicate 32 0 ++ [5,0,0,0,count])

def demoResponse (count : UInt8) : AuthenticationResponse where
  challengeId := ⟨"pka"⟩
  client := ⟨[],[]⟩
  parameters := ((((∅ : AuthenticationTransactions.AttributeMap).insert "credential_id" "aWQ").insert "client_data_json"
    "e30").insert "authenticator_data" (demoData count)).insert "signature" "c2ln"

def demoCall (count : UInt8) : Call PasskeyReply := calling demoProvider (.completes (demoResponse count))

def demoReports (count : UInt8) : Bool :=
  (assertionOf (demoResponse count)).any fun assertion => decide (assertion.credentialId = Text.of "aWQ") &&
    (decodeCanonical assertion.authenticatorData kMaximumAttestation).toOption.any fun data =>
      decide (signCountOf data = count.toUInt32)

theorem reports_of {count : UInt8} (read : demoReports count = true) :
    Reports (demoResponse count) "aWQ" count.toUInt32 := by
  obtain ⟨assertion,presented,holds⟩ := (Option.any_eq_true _ _).mp read
  obtain ⟨named,holds⟩ := Bool.and_eq_true_iff.mp holds
  obtain ⟨data,decoded,same⟩ := (Option.any_eq_true _ _).mp holds
  refine ⟨assertion,data,presented,of_decide_eq_true named,?_,of_decide_eq_true same⟩
  cases found : decodeCanonical assertion.authenticatorData kMaximumAttestation with
  | error e =>
    rw [found] at decoded
    cases decoded
  | ok bytes =>
    rw [found] at decoded
    cases decoded
    rfl

def accepted : Except Error PasskeyReply → Bool
  | .ok (.authenticated _) => true
  | _ => false

theorem accepted_outcome (good : accepted r = true) : ∃ outcome,r = .ok (.authenticated outcome) := by
  cases r with
  | error e => cases good
  | ok reply =>
    cases reply with
    | challenged challenge => cases good
    | authenticated outcome => exact ⟨outcome,rfl⟩

theorem counters_guarded_race : ∃ floor : PasskeyFloor,Plays (stage "aWQ") demoWorld floor ∧ Succeeds floor 0 "aWQ" 7 ∧
    Succeeds floor 2 "aWQ" 9 ∧ Grown "aWQ" demoWorld floor.world ∧ ((7 : UInt32) < 9 ∨ (9 : UInt32) < 7) := by
  let turns : List (Turn Op Op.Ret Error PasskeyReply State) := .enter (demoCall 7) :: .enter (demoCall 6) ::
    steps 0 2 ++ steps 1 2 ++ steps 0 2 ++ steps 1 1 ++ .enter (demoCall 9) :: steps 2 4
  have done : (takeTurns exec turns (⟨demoWorld,[],[]⟩ : PasskeyFloor)).any (fun floor =>
      (floor.members[0]?.bind fun m => ended m.rest).any accepted &&
        (floor.members[2]?.bind fun m => ended m.rest).any accepted) = true := by
    decide +kernel
  obtain ⟨floor,taken,holds⟩ := (Option.any_eq_true _ _).mp done
  obtain ⟨first,third⟩ := Bool.and_eq_true_iff.mp holds
  have played : Plays (stage "aWQ") demoWorld floor := Plays.start.turns (by simp [turns,steps,Turn.Allowed]) taken
  have serves : Serves floor := by
    refine takeTurns_all (P:=fun q => ∃ p call,q = calling p call) taken ?_
    rw [show turns.filterMap Turn.entered = [demoCall 7,demoCall 6,demoCall 9] from rfl]
    simp only [List.forall_mem_cons,List.not_mem_nil,false_implies,implies_true,and_true]
    exact ⟨⟨_,_,rfl⟩,⟨_,_,rfl⟩,⟨_,_,rfl⟩⟩
  obtain ⟨r,member,good⟩ := takeTurns_ended taken rfl first
  obtain ⟨r',member',good'⟩ := takeTurns_ended taken rfl third
  obtain ⟨outcome,rfl⟩ := accepted_outcome good
  obtain ⟨outcome',rfl⟩ := accepted_outcome good'
  have one : Succeeds floor 0 "aWQ" 7 := ⟨demoProvider,_,outcome,member,reports_of (by decide +kernel)⟩
  have two : Succeeds floor 2 "aWQ" 9 := ⟨demoProvider,_,outcome',member',reports_of (by decide +kernel)⟩
  obtain ⟨⟨grown,-⟩,-,apart⟩ := counters_guarded serves played
  exact ⟨floor,played,one,two,grown,apart 0 2 7 9 (by decide) one two (by decide) (by decide)⟩

end OpenProof.PasskeyCounters
