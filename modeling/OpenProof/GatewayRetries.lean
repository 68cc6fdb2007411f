import OpenProof.GatewayHeaders

namespace OpenProof.GatewayRetries
open AtomicPrograms CallTraces Foundation Http GatewayRequests GatewayWorld SenderProofs GatewayHandler GatewayHeaders

inductive Contact where
  | asked (endpoint : EndpointId) (allowed : Bool)
  | sent (endpoint : EndpointId) (answered : Bool)
  | recorded (endpoint : EndpointId) (success : Bool)
  deriving DecidableEq

def contactOf : Exchange GatewayOp GatewayOp.Ret → Option Contact
  | ⟨.allow endpoint,allowed⟩ => some (.asked endpoint allowed)
  | ⟨.send endpoint _ _,.ok _⟩ => some (.sent endpoint.id true)
  | ⟨.send endpoint _ _,.error _⟩ => some (.sent endpoint.id false)
  | ⟨.recordSuccess endpoint,_⟩ => some (.recorded endpoint true)
  | ⟨.recordFailure endpoint,_⟩ => some (.recorded endpoint false)
  | _ => none

def contacts (trace : GatewayTrace) : List Contact := trace.filterMap contactOf

-- One round of the loop: the circuit refuses the endpoint, or the endpoint gets the
-- request and gives no response, or it gives one.
inductive Round where
  | refused (endpoint : EndpointId)
  | unanswered (endpoint : EndpointId)
  | answered (endpoint : EndpointId) (success : Bool)
  deriving DecidableEq

namespace Round

def endpoint : Round → EndpointId
  | refused endpoint => endpoint
  | unanswered endpoint => endpoint
  | answered endpoint _ => endpoint

def contacts : Round → List Contact
  | refused endpoint => [.asked endpoint false]
  | unanswered endpoint => [.asked endpoint true,.sent endpoint false,.recorded endpoint false]
  | answered endpoint success => [.asked endpoint true,.sent endpoint true,.recorded endpoint success]

def sends : Round → Bool
  | refused _ => false
  | unanswered _ => true
  | answered .. => true

def isAnswered : Round → Bool
  | answered .. => true
  | _ => false

end Round

-- A run of the loop, from its rounds: every endpoint is met once and is none of the
-- excluded ones, at most `limit` of them get the request, and a response ends it.
structure Disciplined (excluded : List EndpointId) (limit : Nat) (rounds : List Round) : Prop where
  fresh : (rounds.map Round.endpoint).Nodup ∧ ∀ round ∈ rounds,round.endpoint ∉ excluded
  bounded : rounds.countP Round.sends ≤ limit
  final : ∀ before (round : Round) after,rounds = before ++ round :: after → round.isAnswered = true → after = []

section
variable {endpoint : EndpointId} {rounds : List Round}

theorem Disciplined.none : Disciplined excluded limit [] where
  fresh := ⟨List.nodup_nil,List.forall_mem_nil _⟩
  bounded := Nat.zero_le _
  final := by
    intro before round after impossible
    simp at impossible

theorem Disciplined.answered (new : endpoint ∉ excluded) (room : 0 < limit) :
    Disciplined excluded limit [.answered endpoint success] where
  fresh := by simpa [Round.endpoint] using new
  bounded := room
  final := by
    intro before round after shape _
    cases before with
    | nil =>
      cases shape
      rfl
    | cons first more => simp at shape

theorem Disciplined.cons {round : Round} (new : round.endpoint ∉ excluded) (open_ : round.isAnswered = false)
    (room : (if round.sends then 1 else 0) + limit ≤ total)
    (rest : Disciplined (excluded ++ [round.endpoint]) limit rounds) :
    Disciplined excluded total (round :: rounds) where
  fresh := by
    obtain ⟨distinct,apart⟩ := rest.fresh
    constructor
    · rw [List.map_cons,List.nodup_cons]
      refine ⟨fun again => ?_,distinct⟩
      obtain ⟨later,member,same⟩ := List.mem_map.mp again
      exact apart later member (by simp [same])
    · intro later member old
      rcases List.mem_cons.mp member with rfl | further
      · exact new old
      · exact apart later further (List.mem_append_left _ old)
  bounded := by
    have later := rest.bounded
    rw [List.countP_cons]
    omega
  final := by
    intro before other after shape answered
    cases before with
    | nil =>
      cases shape
      cases open_.symm.trans answered
    | cons first more =>
      cases shape
      exact rest.final more other after rfl answered

end

theorem contacts_append : contacts (first ++ rest) = contacts first ++ contacts rest :=
  List.filterMap_append

theorem contacts_early {trace : GatewayTrace} (early : ∀ exchange ∈ trace,preliminary exchange.1 = true) :
    contacts trace = [] := by
  apply List.filterMap_eq_nil_iff.mpr
  rintro ⟨op,answer⟩ member
  have before := early _ member
  cases op with
  | allow | recordSuccess | recordFailure | send => cases before
  | _ => rfl

section
variable {service : ServiceId} {endpoints : List Endpoint} {trace : GatewayTrace}

theorem choose_cases {r : Except Err (Result Endpoint)}
    (path : Trace (choose service endpoints excluded : Proc Err _) trace r) :
    contacts trace = [] ∧ ∃ chosen,r = .ok chosen ∧ ∀ endpoint,chosen = .ok endpoint → endpoint.id ∉ excluded := by
  unfold choose at path
  dsimp only at path
  split at path
  · obtain ⟨rfl,rfl⟩ := path.ret_cases
    exact ⟨rfl,_,rfl,nofun⟩
  · obtain ⟨sequence,rest,rfl,further⟩ := path.ask_cases
    obtain ⟨rfl,rfl⟩ := further.ret_cases
    refine ⟨rfl,_,rfl,fun endpoint chosen => ?_⟩
    unfold chooseSlot at chosen
    split at chosen
    · rename_i picked found
      cases chosen
      simpa [candidates] using (List.mem_filter.mp (pick_mem found)).2
    · cases chosen

variable {g : Gateway} {request : HttpRequest} {attempts rounds sentAttempts : Nat}
  {r : Except HttpResponse HttpResponse}

theorem settle_cases {endpoint : Endpoint} (path : Trace (settle request endpoint.id retry answer) trace r) :
    (∃ success,answer.isOk = true ∧ contacts trace = [.recorded endpoint.id success]) ∨
      ∃ e rest,answer = .error e ∧ contacts trace = .recorded endpoint.id false :: contacts rest ∧
        Trace (retry e) rest r := by
  cases answer with
  | error e =>
    obtain ⟨-,rest,rfl,further⟩ := path.ask_cases
    exact .inr ⟨e,rest,rfl,rfl,further⟩
  | ok response =>
    unfold settle at path
    dsimp only at path
    split at path
    · obtain ⟨-,rest,rfl,further⟩ := path.ask_cases
      cases further
      exact .inl ⟨false,rfl,rfl⟩
    · split at path
      · obtain ⟨-,rest,rfl,further⟩ := path.ask_cases
        cases further
        exact .inl ⟨false,rfl,rfl⟩
      · obtain ⟨-,rest,rfl,further⟩ := path.ask_cases
        cases further
        exact .inl ⟨true,rfl,rfl⟩

theorem forward_disciplined
    (path : Trace (forward g service request endpoints attempts rounds sentAttempts excluded lastFailure) trace r) :
    ∃ done,contacts trace = done.flatMap Round.contacts ∧ Disciplined excluded (attempts-sentAttempts) done := by
  induction rounds generalizing sentAttempts excluded lastFailure trace with
  | zero =>
    cases path
    exact ⟨[],rfl,.none⟩
  | succ rounds ih =>
    rw [forward] at path
    split at path
    · rename_i within
      rcases path.bind_cases with ⟨chosen,first,rest,rfl,choosing,further⟩ | ⟨e,rfl,failed⟩
      · obtain ⟨silent,_,same,apart⟩ := choose_cases choosing
        cases same
        rw [contacts_append,silent,List.nil_append]
        cases chosen with
        | error e =>
          cases further
          exact ⟨[],rfl,.none⟩
        | ok endpoint =>
          have new := apart endpoint rfl
          obtain ⟨allowed,later,rfl,onward⟩ := further.ask_cases
          cases allowed with
          | false =>
            obtain ⟨done,shape,disciplined⟩ := ih onward
            refine ⟨.refused endpoint.id :: done,?_,disciplined.cons new rfl ?_⟩
            · rw [List.flatMap_cons,← shape]
              rfl
            · simp [Round.sends]
          | true =>
            obtain ⟨answer,last,rfl,settled⟩ := onward.ask_cases
            rcases settle_cases settled with ⟨success,answered,only⟩ | ⟨e,rest,rfl,recorded,again⟩
            · cases answer with
              | error e => cases answered
              | ok response =>
                refine ⟨[.answered endpoint.id success],?_,.answered new (by omega)⟩
                change _ :: _ :: contacts last = _
                rw [only]
                rfl
            · obtain ⟨done,shape,disciplined⟩ := ih again
              refine ⟨.unanswered endpoint.id :: done,?_,disciplined.cons new rfl ?_⟩
              · change _ :: _ :: contacts last = _
                rw [recorded,List.flatMap_cons,← shape]
                rfl
              · simp only [Round.sends,if_true]
                omega
      · obtain ⟨_,_,impossible,_⟩ := choose_cases failed
        cases impossible
    · cases path
      exact ⟨[],rfl,.none⟩

theorem identification_method (identification : Identification route (stripped request) trace out) : out.method = request.method := by
  have hops := SameEnvelope.eraseAll hopByHop ((connectionHeaders (stripTrustedIdentityHeaders request)).foldl
    HttpRequest.eraseHeader (stripTrustedIdentityHeaders request))
  have listed := SameEnvelope.eraseAll (connectionHeaders (stripTrustedIdentityHeaders request))
    (stripTrustedIdentityHeaders request)
  have trusting := SameEnvelope.eraseAll (request.headers.keys.filter trusted) request
  have kept : (stripped request).method = request.method :=
    (hops.method.trans listed.method).trans trusting.method
  rcases identification with ⟨-,rfl⟩ | ⟨-,accepted,admission,rfl⟩
  · exact kept
  · have same : (identified route accepted).method = accepted.request.method := by
      unfold identified
      cases accepted.delegated <;> rfl
    exact (same.trans admission.reduced.envelope.method).trans kept

def retryLimit (method : HttpMethod) : Nat := if retryable method then 2 else 1

theorem attemptsFor_le (method : HttpMethod) (endpoints : List Endpoint) :
    attemptsFor method endpoints ≤ retryLimit method := by
  unfold attemptsFor retryLimit
  split
  · exact Nat.min_le_left 2 endpoints.length
  · exact Nat.le_refl 1

theorem Disciplined.mono {limit more : Nat} (disciplined : Disciplined excluded limit done) (room : limit ≤ more) : Disciplined excluded more done :=
  ⟨disciplined.fresh,disciplined.bounded.trans room,disciplined.final⟩

theorem handle_disciplined (path : Trace (handle g request) trace r) :
    ∃ done,contacts trace = done.flatMap Round.contacts ∧ Disciplined [] (retryLimit request.method) done := by
  rcases handle_cases path with early | ⟨route,before,after,matched,rfl,dispatched⟩
  · exact ⟨[],contacts_early early,.none⟩
  · obtain ⟨out,now,digest,identification,-,-,last⟩ := dispatched.sent
    obtain ⟨resolved,rest,rfl,further⟩ := last.ask_cases
    have silent : contacts (before ++ ⟨.resolve route.service,resolved⟩ :: rest) = contacts rest := by
      rw [contacts_append,contacts_early dispatched.early]
      rfl
    rw [silent]
    cases resolved with
    | error e =>
      cases further
      exact ⟨[],rfl,.none⟩
    | ok endpoints =>
      obtain ⟨done,shape,disciplined⟩ := forward_disciplined further
      have same : (sealed (requestIdentified out) now digest).method = request.method := by
        change out.method = request.method
        exact identification_method identification
      refine ⟨done,shape,disciplined.mono ?_⟩
      rw [same,Nat.sub_zero]
      exact attemptsFor_le request.method endpoints

end

def Contact.sentTo : Contact → Option EndpointId
  | .sent endpoint _ => some endpoint
  | _ => none

theorem sent_rounds (rounds : List Round) :
    (rounds.flatMap Round.contacts).filterMap Contact.sentTo = (rounds.filter Round.sends).map Round.endpoint := by
  induction rounds with
  | nil => rfl
  | cons round rest ih =>
    rw [List.flatMap_cons,List.filterMap_append,ih]
    cases round <;> rfl

theorem retries_disciplined (g : Gateway) (request : HttpRequest) : (∀ trace r,Trace (handle g request) trace r →
      ((contacts trace).filterMap Contact.sentTo).length ≤ (if retryable request.method then 2 else 1) ∧
      ((contacts trace).filterMap Contact.sentTo).Nodup ∧
      ∃ rounds,contacts trace = rounds.flatMap Round.contacts ∧ (rounds.map Round.endpoint).Nodup ∧
        ∀ before round after,rounds = before ++ round :: after → round.isAnswered = true → after = []) ∧
      ∀ service endpoints more,
        forward g service request endpoints (attemptsFor request.method endpoints) (endpoints.length+more) 0 []
            (.plain .unavailable) =
          forward g service request endpoints (attemptsFor request.method endpoints) endpoints.length 0 []
            (.plain .unavailable) := by
  constructor
  · intro trace r path
    obtain ⟨rounds,shape,disciplined⟩ := handle_disciplined path
    have sent : (contacts trace).filterMap Contact.sentTo = (rounds.filter Round.sends).map Round.endpoint := by
      rw [shape,sent_rounds]
    refine ⟨?_,?_,rounds,shape,disciplined.fresh.1,disciplined.final⟩
    · rw [sent,List.length_map,← List.countP_eq_length_filter]
      exact disciplined.bounded
    · rw [sent]
      exact disciplined.fresh.1.sublist (List.filter_sublist.map Round.endpoint)
  · intro service endpoints more
    apply forward_rounds
    exact Nat.le_add_left endpoints.length 0

def demoSecond : Endpoint := ⟨⟨"f"⟩,"upstream.example",444,true,2,by decide⟩

def demoFailing : GatewayState :=
  { demoGateway with
    services := (∅ : Map ServiceId (List Endpoint)).insert ⟨"s"⟩ [demoEndpoint,demoSecond]
    surroundings := { demoSurroundings with
      upstream := fun endpoint _ => if endpoint = demoSecond then .ok (.plain 200) else .error (.plain .timeout) } }

theorem retries_disciplined_failing :
    ((contacts (exchanges (exec demoBreaker) (handle (demoHandler false) demoCookie) demoFailing)).filterMap
        Contact.sentTo).length ≤ 2 ∧
      contacts (exchanges (exec demoBreaker) (handle (demoHandler false) demoCookie) demoFailing) =
        [.asked ⟨"e"⟩ true,.sent ⟨"e"⟩ false,.recorded ⟨"e"⟩ false,.asked ⟨"f"⟩ true,.sent ⟨"f"⟩ true,
          .recorded ⟨"f"⟩ true] := by
  have disciplined := (retries_disciplined (demoHandler false) demoCookie).1 _ _
    (run_trace (exec demoBreaker) (handle (demoHandler false) demoCookie) demoFailing)
  exact ⟨disciplined.1,by decide⟩

end OpenProof.GatewayRetries
