import OpenProof.CodeRedemptions

namespace OpenProof.PushedRequests
open AtomicPrograms CallTraces CallLogs CallHistories Foundation World Services CallStocks Clients
open Authorizations

inductive PushedCall where
  | push (request : AuthorizationRequest)
  | find (requestUri : Text) (expectedClient : ClientId)
  | consume (requestUri : Text) (expectedClient : ClientId)

inductive PushedReply where
  | pushed (requestUri : Text)
  | found (request : AuthorizationRequest)
  | consumed (request : AuthorizationRequest)

def calling (d : Deployment) : PushedCall → Call PushedReply
  | .push request => (PushedAuthorizationService.push d request).bind fun requestUri => .ret (.pushed requestUri)
  | .find requestUri expectedClient =>
    (PushedAuthorizationService.find d requestUri expectedClient).bind fun request => .ret (.found request)
  | .consume requestUri expectedClient =>
    (PushedAuthorizationService.consume d requestUri expectedClient).bind fun request => .ret (.consumed request)

abbrev PushedEntry := Entry Op Op.Ret State
abbrev PushedFloor := Floor Op Op.Ret Error PushedReply State

def pushedStage : Stage Op Op.Ret State where
  exec := exec
  drift before after := after.pushed = before.pushed

def Serves (d : Deployment) (floor : PushedFloor) : Prop := ∀ m ∈ floor.members,∃ call,m.begun = calling d call

def Pushes (pushed : PushedAuthorizationRequest) (exchange : Exchange Op Op.Ret) : Prop :=
  exchange = ⟨.pushed (.add pushed),.ok ()⟩

def Consumes (digest : PushedRequestDigest) (pushed : PushedAuthorizationRequest) (exchange : Exchange Op Op.Ret) : Prop :=
  ∃ client now,exchange = ⟨.pushed (.consume digest client now),.ok pushed⟩

section
variable {d : Deployment} {digest : PushedRequestDigest} {client : ClientId} {now : Instant}
  {pushed one two : PushedAuthorizationRequest} {exchange : Exchange Op Op.Ret}

theorem add_cases (pushed : PushedAuthorizationRequest) (requests : PushedStore) :
    requests.add pushed = (.ok (),requests.insert pushed.digest pushed) ∨ ∃ e,requests.add pushed = (.error e,requests) := by
  unfold PushedStore.add
  split
  · exact .inr ⟨_,rfl⟩
  · exact .inl rfl

theorem consume_cases (digest : PushedRequestDigest) (client : ClientId) (now : Instant) (requests : PushedStore) :
    (∃ found,requests[digest]? = some found ∧ now < found.expiresAt ∧ found.request.clientId = client ∧
      requests.consume digest client now = (.ok found,requests.erase digest)) ∨
    ∃ e,requests.consume digest client now = (.error e,requests) := by
  unfold PushedStore.consume
  cases stored : requests[digest]? with
  | none => exact .inr ⟨_,rfl⟩
  | some found =>
    dsimp only
    split
    · exact .inr ⟨_,rfl⟩
    · rename_i allowed
      simp only [PushedAuthorizationRequest.expiredAt,Bool.or_eq_true,decide_eq_true_eq,not_or,ge_iff_le,Int.not_le,
        ne_eq,not_not] at allowed
      exact .inl ⟨found,rfl,allowed.1,allowed.2,rfl⟩

theorem exec_brings (there : (exec op w).2.pushed[digest]? = some pushed) :
    w.pushed[digest]? = some pushed ∨ pushed.digest = digest ∧ Pushes pushed ⟨op,(exec op w).1⟩ := by
  cases op with
  | pushed op =>
    cases op with
    | add added =>
      simp only [exec,PushedOp.exec,Pushes] at there ⊢
      rcases add_cases added w.pushed with same | ⟨e,same⟩
      · rw [same] at there ⊢
        rcases Map.insert_cases there with ⟨here,rfl⟩ | before
        · exact .inr ⟨here,rfl⟩
        · exact .inl before
      · rw [same] at there
        exact .inl there
    | find other now => exact .inl there
    | consume other client now =>
      left
      simp only [exec,PushedOp.exec] at there
      rcases consume_cases other client now w.pushed with ⟨found,-,-,-,same⟩ | ⟨e,same⟩
      · rw [same] at there
        exact Map.erase_cases there
      · rw [same] at there
        exact there
  | _ => exact .inl there

theorem exec_pushes (pushes : Pushes pushed ⟨op,(exec op w).1⟩) : (exec op w).2.pushed[pushed.digest]? = some pushed := by
  obtain ⟨rfl,answer⟩ := executed_as pushes
  simp only [exec,PushedOp.exec] at answer ⊢
  rcases add_cases pushed w.pushed with same | ⟨e,same⟩
  · rw [same]
    simp
  · rw [same] at answer
    cases answer

theorem exec_consumed (consumed : (⟨op,(exec op w).1⟩ : Exchange Op Op.Ret) =
    ⟨.pushed (.consume digest client now),.ok pushed⟩) : w.pushed[digest]? = some pushed ∧ now < pushed.expiresAt ∧
      pushed.request.clientId = client ∧ (exec op w).2.pushed[digest]? = none := by
  obtain ⟨rfl,answer⟩ := executed_as consumed
  simp only [exec,PushedOp.exec] at answer ⊢
  rcases consume_cases digest client now w.pushed with ⟨found,stored,early,mine,same⟩ | ⟨e,same⟩
  · rw [same] at answer ⊢
    cases answer
    exact ⟨stored,early,mine,by simp⟩
  · rw [same] at answer
    cases answer

theorem exec_consumes (consumes : Consumes digest pushed ⟨op,(exec op w).1⟩) :
    w.pushed[digest]? = some pushed ∧ (exec op w).2.pushed[digest]? = none := by
  obtain ⟨client,now,consumed⟩ := consumes
  obtain ⟨stored,-,-,gone⟩ := exec_consumed consumed
  exact ⟨stored,gone⟩

theorem exec_found (found : (⟨op,(exec op w).1⟩ : Exchange Op Op.Ret) = ⟨.pushed (.find digest now),.ok pushed⟩) :
    w.pushed[digest]? = some pushed := by
  obtain ⟨rfl,answer⟩ := executed_as found
  exact PushedStore.find_stored answer

theorem pushes_one (first : Pushes one exchange) (second : Pushes two exchange) : one = two := by
  cases first.symm.trans second
  rfl

theorem pushed_still (moved : pushedStage.drift w w') (digest : PushedRequestDigest) : w'.pushed[digest]? = w.pushed[digest]? :=
  congrArg (fun requests : PushedStore => requests[digest]?) moved

end

def pushedStock : Stock pushedStage PushedRequestDigest PushedAuthorizationRequest where
  held w digest := w.pushed[digest]?
  key := PushedAuthorizationRequest.digest
  put := Pushes
  take := Consumes
  one := pushes_one
  puts := exec_pushes
  takes := exec_consumes
  brings := exec_brings
  still := pushed_still

def Uses (P : PushedOp → Prop) : Op → Prop
  | .pushed op => P op
  | _ => True

section
variable {d : Deployment}

theorem uses_reads {op : Op} (reading : op.reads = true) (spared : ∀ digest now,P (.find digest now)) :
    Uses P op := by
  cases op with
  | pushed op =>
    cases op with
    | add => cases reading
    | find digest now => exact spared digest now
    | consume => cases reading
  | _ => trivial

theorem push_only (request : AuthorizationRequest) : (calling d (.push request)).Only
    (Uses fun op => ∀ pushed,op = .add pushed → pushed.request = request) := by
  have reads : ∀ op : Op,op.reads = true → Uses (fun op => ∀ pushed,op = .add pushed → pushed.request = request) op :=
    fun op reading => uses_reads reading nofun
  refine .bind ?_ fun _ => trivial
  apply Prog.Only.bind (Prog.Only.weaken (looks_randomToken 32) reads)
  intro random
  apply Prog.Only.bind (.check _ _)
  intro fingerprint
  apply Prog.Only.bind (Prog.Only.weaken looks_now reads)
  intro at_
  apply Prog.Only.check_bind
  intro pushed created
  apply Prog.Only.bind (.perform ?_)
  · intro stored
    exact .bind (.check _ _) fun _ => trivial
  · intro other same
    cases same
    exact PushedAuthorizationRequest.create_request created

theorem find_only (requestUri : Text) (client : ClientId) : (calling d (.find requestUri client)).Only
    (Uses fun op => ∀ pushed,op ≠ .add pushed) := by
  refine .bind ?_ fun _ => trivial
  apply Prog.Only.bind (.check _ _)
  intro fingerprint
  apply Prog.Only.bind (Prog.Only.weaken looks_now fun op reading => uses_reads reading fun _ _ _ => nofun)
  intro at_
  refine .bind (.perform nofun) fun found => ?_
  cases found with
  | error e => trivial
  | ok pushed => exact .bind (.refuseIf _ _ _) fun _ => trivial

theorem consume_only (requestUri : Text) (client : ClientId) : (calling d (.consume requestUri client)).Only
    (Uses fun op => ∀ pushed,op ≠ .add pushed) := by
  refine .bind ?_ fun _ => trivial
  apply Prog.Only.bind (.check _ _)
  intro fingerprint
  apply Prog.Only.bind (Prog.Only.weaken looks_now fun op reading => uses_reads reading fun _ _ _ => nofun)
  intro at_
  exact .bind (.perform nofun) fun consumed => .bind (.check _ _) fun _ => trivial

theorem find_yields (requestUri : Text) (client : ClientId) : Yields (calling d (.find requestUri client)) fun trace reply =>
    ∃ pushed digest at_,reply = .found pushed.request ∧ d.sha256 requestUri = .ok digest ∧
      pushed.request.clientId = client ∧ ⟨.pushed (.find digest at_),.ok pushed⟩ ∈ trace := by
  have finds : Yields (PushedAuthorizationService.find d requestUri client) fun trace request =>
      ∃ pushed digest at_,request = pushed.request ∧ d.sha256 requestUri = .ok digest ∧
        pushed.request.clientId = client ∧ ⟨.pushed (.find digest at_),.ok pushed⟩ ∈ trace := by
    refine .check fun digest hashed => .ask fun at_ => .ask fun answer => ?_
    cases answer with
    | error e => exact .fail
    | ok pushed =>
      refine .refuseIf fun mine => .ret ?_
      exact ⟨pushed,digest,at_,rfl,hashed,by simpa using mine,by simp⟩
  refine .bind finds ?_
  rintro done request ⟨pushed,digest,at_,rfl,hashed,mine,asked⟩
  apply Yields.ret
  rw [List.append_nil]
  exact ⟨pushed,digest,at_,rfl,hashed,mine,asked⟩

theorem consume_yields (requestUri : Text) (client : ClientId) :
    Yields (calling d (.consume requestUri client)) fun trace reply =>
      ∃ pushed digest at_,reply = .consumed pushed.request ∧ d.sha256 requestUri = .ok digest ∧ ⟨.now,at_⟩ ∈ trace ∧
        ⟨.pushed (.consume digest client at_),.ok pushed⟩ ∈ trace := by
  have consumes : Yields (PushedAuthorizationService.consume d requestUri client) fun trace request =>
      ∃ pushed digest at_,request = pushed.request ∧ d.sha256 requestUri = .ok digest ∧ ⟨.now,at_⟩ ∈ trace ∧
        ⟨.pushed (.consume digest client at_),.ok pushed⟩ ∈ trace := by
    refine .check fun digest hashed => .ask fun at_ => .ask fun answer => .check ?_
    rintro pushed rfl
    exact .ret ⟨pushed,digest,at_,rfl,hashed,by simp,by simp⟩
  refine .bind consumes ?_
  rintro done request ⟨pushed,digest,at_,rfl,hashed,told,asked⟩
  apply Yields.ret
  rw [List.append_nil]
  exact ⟨pushed,digest,at_,rfl,hashed,told,asked⟩

variable {initial : State} {floor : PushedFloor} {pushing : PushedEntry} {pushed : PushedAuthorizationRequest}

theorem pushed_by (serves : Serves d floor) (played : Plays pushedStage initial floor) (inside : pushing ∈ floor.log)
    (pushes : Pushes pushed pushing.exchange) :
    ∃ rest,floor.members[pushing.caller]? = some ⟨calling d (.push pushed.request),rest⟩ := by
  have entered := played.accounted.entered pushing inside
  obtain ⟨⟨begun,rest⟩,member⟩ : ∃ m,floor.members[pushing.caller]? = some m := ⟨_,List.getElem?_eq_getElem entered⟩
  obtain ⟨call,same⟩ := serves _ (List.mem_of_getElem? member)
  subst same
  cases call with
  | push request =>
    have uses := played.only member (push_only request) pushing inside rfl
    rw [pushes] at uses
    rw [uses pushed rfl]
    exact ⟨rest,member⟩
  | find requestUri client =>
    have uses := played.only member (find_only requestUri client) pushing inside rfl
    rw [pushes] at uses
    exact absurd rfl (uses pushed)
  | consume requestUri client =>
    have uses := played.only member (consume_only requestUri client) pushing inside rfl
    rw [pushes] at uses
    exact absurd rfl (uses pushed)

def PushedAgain (log : List PushedEntry) (digest : PushedRequestDigest) : Prop :=
  ∃ first,∃ one : PushedEntry,∃ between,∃ two : PushedEntry,∃ after,log = first ++ one :: (between ++ two :: after) ∧
    pushedStock.Puts digest one.exchange ∧ pushedStock.Puts digest two.exchange

def Sighting (log before : List PushedEntry) (pushing : PushedEntry) (i : Nat) (pushed : PushedAuthorizationRequest) : Prop :=
  ∃ between : List PushedEntry,∃ looking : PushedEntry,∃ after,log = before ++ pushing :: (between ++ looking :: after) ∧ Pushes pushed pushing.exchange ∧
    (∀ entry ∈ between,¬pushedStock.Puts pushed.digest entry.exchange) ∧ looking.caller = i ∧
      ∃ now,looking.exchange = ⟨.pushed (.find pushed.digest now),.ok pushed⟩

theorem same_push {pushing pushing' : PushedEntry} {one two : PushedAuthorizationRequest}
    (split : log = before ++ pushing :: rest) (split' : log = before' ++ pushing' :: rest')
    (first : Pushes one pushing.exchange) (second : Pushes two pushing'.exchange) (same : one.digest = two.digest)
    (once : ¬PushedAgain log one.digest) : one = two := by
  rcases split_order (split.symm.trans split') with later | rfl | later
  · obtain ⟨between,after,rfl⟩ := List.append_of_mem later
    exact (once ⟨before,pushing,between,pushing',after,split,⟨one,rfl,first⟩,two,same.symm,second⟩).elim
  · exact pushes_one first second
  · obtain ⟨between,after,rfl⟩ := List.append_of_mem later
    exact (once ⟨before',pushing',between,pushing,after,split',⟨two,same.symm,second⟩,one,rfl,first⟩).elim

theorem consumed_from (fresh : initial.pushed = ∅) (serves : Serves d floor)
    (played : Plays pushedStage initial floor) {client : ClientId}
    (finished : floor.members[i]? = some ⟨calling d (.consume requestUri client),.ret (.consumed request)⟩) :
    ∃ before pushing pushed rest at_,pushedStock.Taken floor.log before pushing i pushed ∧
      floor.members[pushing.caller]? = some ⟨calling d (.push request),rest⟩ ∧ pushed.request = request ∧
        d.sha256 requestUri = .ok pushed.digest ∧ request.clientId = client ∧ ⟨.now,at_⟩ ∈ own i floor.log ∧
          at_ < pushed.expiresAt := by
  obtain ⟨pushed,digest,at_,same,hashed,told,asked⟩ := consume_yields requestUri client _ _ (played.returned finished)
  cases same
  obtain ⟨taking,inside,rfl,taken⟩ := mem_own.mp asked
  obtain ⟨first,after,split⟩ := List.append_of_mem inside
  obtain ⟨stored,early,mine,-⟩ := exec_consumed ((Plays.exchanged played taking inside).trans taken)
  obtain ⟨before,pushing,between,rfl,rfl,pushes,silent⟩ := pushedStock.found_put (by simp [pushedStock,fresh]) played split
    stored
  obtain ⟨rest,member⟩ := pushed_by serves played (show pushing ∈ floor.log by simp [split]) pushes
  exact ⟨before,pushing,pushed,rest,at_,⟨between,taking,after,by simp [split],pushes,silent,rfl,client,at_,taken⟩,member,rfl,
    hashed,mine,told,early⟩

theorem found_from (fresh : initial.pushed = ∅) (serves : Serves d floor) (played : Plays pushedStage initial floor)
    {client : ClientId}
    (finished : floor.members[i]? = some ⟨calling d (.find requestUri client),.ret (.found request)⟩) :
    ∃ before pushing pushed rest,Sighting floor.log before pushing i pushed ∧
      floor.members[pushing.caller]? = some ⟨calling d (.push request),rest⟩ ∧ pushed.request = request ∧
        d.sha256 requestUri = .ok pushed.digest := by
  obtain ⟨pushed,digest,at_,same,hashed,-,asked⟩ := find_yields requestUri client _ _ (played.returned finished)
  cases same
  obtain ⟨looking,inside,rfl,looked⟩ := mem_own.mp asked
  obtain ⟨first,after,split⟩ := List.append_of_mem inside
  have stored := exec_found ((Plays.exchanged played looking inside).trans looked)
  obtain ⟨before,pushing,between,rfl,rfl,pushes,silent⟩ := pushedStock.found_put (by simp [pushedStock,fresh]) played split
    stored
  obtain ⟨rest,member⟩ := pushed_by serves played (show pushing ∈ floor.log by simp [split]) pushes
  exact ⟨before,pushing,pushed,rest,⟨between,looking,after,by simp [split],pushes,silent,rfl,at_,looked⟩,member,rfl,hashed⟩

theorem found_between {between : List PushedEntry} {looking : PushedEntry} {one two : PushedAuthorizationRequest} {now : Instant}
    (played : Plays pushedStage initial floor)
    (split : floor.log = before ++ pushing :: (between ++ looking :: after)) (pushes : Pushes one pushing.exchange)
    (silent : ∀ entry ∈ between,¬pushedStock.Puts one.digest entry.exchange)
    (looked : looking.exchange = ⟨.pushed (.find one.digest now),.ok two⟩) : two = one :=
  Stock.held_since played split pushes silent
    (exec_found ((Plays.exchanged played looking (by simp [split])).trans looked))

theorem pushed_consumed_once (fresh : initial.pushed = ∅) (serves : Serves d floor) (played : Plays pushedStage initial floor) :
    (∀ (i : Nat) requestUri client request,
      floor.members[i]? = some ⟨calling d (.consume requestUri client),.ret (.consumed request)⟩ →
        ∃ before,∃ pushing : Entry _ _ _,∃ pushed rest at_,pushedStock.Taken floor.log before pushing i pushed ∧
          floor.members[pushing.caller]? = some ⟨calling d (.push request),rest⟩ ∧ pushed.request = request ∧
            d.sha256 requestUri = .ok pushed.digest ∧ request.clientId = client ∧ ⟨.now,at_⟩ ∈ own i floor.log ∧
              at_ < pushed.expiresAt) ∧
      (∀ before (pushing : Entry _ _ _) i j one two,pushedStock.Taken floor.log before pushing i one →
        pushedStock.Taken floor.log before pushing j two → i = j) ∧
        (∀ before (pushing : Entry _ _ _) (between : List (Entry _ _ _)) (looking : Entry _ _ _) after one two now,floor.log = before ++ pushing :: (between ++ looking :: after) →
          Pushes one pushing.exchange → (∀ entry ∈ between,¬pushedStock.Puts one.digest entry.exchange) →
            looking.exchange = ⟨.pushed (.find one.digest now),.ok two⟩ → two = one) ∧
          ∀ (i j : Nat) requestUri client client' digest consumed found,d.sha256 requestUri = .ok digest →
            ¬PushedAgain floor.log digest →
              floor.members[i]? = some ⟨calling d (.consume requestUri client),.ret (.consumed consumed)⟩ →
                floor.members[j]? = some ⟨calling d (.find requestUri client'),.ret (.found found)⟩ → found = consumed := by
  refine ⟨?_,?_,?_,?_⟩
  · intro i requestUri client request finished
    exact consumed_from fresh serves played finished
  · intro before pushing i j one two
    exact Stock.taken_once played
  · intro before pushing between looking after one two now split pushes silent looked
    exact found_between played split pushes silent looked
  · intro i j requestUri client client' digest consumed found hashed once first second
    obtain ⟨before,pushing,one,rest,at_,⟨between,taking,after,split,pushes,-⟩,-,rfl,told,-⟩ :=
      consumed_from fresh serves played first
    obtain ⟨before',pushing',two,rest',⟨between',looking,after',split',pushes',-⟩,-,rfl,told'⟩ :=
      found_from fresh serves played second
    have mine : one.digest = digest := Except.ok.inj (told.symm.trans hashed)
    have yours : two.digest = digest := Except.ok.inj (told'.symm.trans hashed)
    subst mine
    rw [same_push split split' pushes pushes' yours.symm once]

end

def demoPush : Call PushedReply := calling TokenActs.demoDeployment (.push CodeRedemptions.demoRequest)

def demoConsume (client : ClientId) : Call PushedReply := calling TokenActs.demoDeployment
  (.consume "urn:ietf:params:oauth:request_uri:opar_k1" client)

def demoFind : Call PushedReply := calling TokenActs.demoDeployment
  (.find "urn:ietf:params:oauth:request_uri:opar_k1" ⟨"web"⟩)

def consumes : Except Error PushedReply → Bool
  | .ok (.consumed request) => request.clientId == ⟨"web"⟩
  | _ => false

theorem consumes_request (good : consumes r = true) : ∃ request,r = .ok (.consumed request) := by
  cases r with
  | error e => cases good
  | ok reply =>
    cases reply with
    | consumed request => exact ⟨request,rfl⟩
    | _ => cases good

theorem pushed_consumed_once_race : ∃ (floor : PushedFloor) (request : AuthorizationRequest),
    Plays pushedStage (TokenActs.demoState ["k1"]) floor ∧
      floor.members[2]? = some ⟨demoConsume ⟨"web"⟩,.ret (.consumed request)⟩ ∧ request.clientId = ⟨"web"⟩ := by
  let turns : List (Turn Op Op.Ret Error PushedReply State) := .enter demoPush :: steps 0 3 ++
    .enter (demoConsume ⟨"web"⟩) :: .enter (demoConsume ⟨"web"⟩) :: .enter demoFind ::
      steps 1 1 ++ steps 3 2 ++ steps 2 2 ++ steps 1 1
  have done : (takeTurns exec turns (⟨TokenActs.demoState ["k1"],[],[]⟩ : PushedFloor)).any (fun floor =>
      (floor.members[2]?.bind fun m => ended m.rest).any consumes) = true := by
    decide +kernel
  obtain ⟨floor,taken,holds⟩ := (Option.any_eq_true _ _).mp done
  have played : Plays pushedStage (TokenActs.demoState ["k1"]) floor :=
    Plays.start.turns (by simp [turns,steps,Turn.Allowed]) taken
  have serves : Serves TokenActs.demoDeployment floor := by
    refine takeTurns_all (P:=fun p => ∃ call,p = calling TokenActs.demoDeployment call) taken ?_
    rw [show turns.filterMap Turn.entered = [demoPush,demoConsume ⟨"web"⟩,demoConsume ⟨"web"⟩,demoFind] from rfl]
    simp only [List.forall_mem_cons,List.not_mem_nil,false_implies,implies_true,and_true]
    exact ⟨⟨_,rfl⟩,⟨_,rfl⟩,⟨_,rfl⟩,⟨_,rfl⟩⟩
  obtain ⟨r,member,good⟩ := takeTurns_ended taken rfl holds
  obtain ⟨request,rfl⟩ : ∃ request,r = .ok (.consumed request) := consumes_request good
  obtain ⟨first,-⟩ := pushed_consumed_once rfl serves played
  obtain ⟨before,pushing,pushed,rest,at_,-,-,-,-,client,-⟩ := first 2 _ _ request member
  exact ⟨floor,request,played,member,client⟩

end OpenProof.PushedRequests
