import OpenProof.SenderProofs

namespace OpenProof.GatewayHandler
open Foundation Http GatewayRequests GatewayWorld SenderProofs AtomicPrograms.Prog Identities
open ApplicationHttp (takeSessionCredential)

-- The null pointers of the source are a flag and an option here.
structure Gateway where
  routes : List Route
  upstreamTimeout : Duration
  delegatedAccess : Bool
  senderConstraintVerifier : Option SenderProofVerifier

-- A handler that leaves early does so with the response it sends.
abbrev Handler (α : Type) := Proc HttpResponse α

def eraseResponseHeader (response : HttpResponse) (name : Text) : HttpResponse :=
  { response with
    headers := response.headers.erase name
    repeatedHeaders := response.repeatedHeaders.filter fun header => header.1 != name }

def secureResponse (response : HttpResponse) : HttpResponse :=
  (((hopByHop.foldl eraseResponseHeader response).setHeader "x-content-type-options" "nosniff").setHeader
    "referrer-policy" "no-referrer").setHeader "cache-control" "no-store"

def errorResponse (failure : Error) (request : HttpRequest) : HttpResponse :=
  secureResponse (withType (errorHttpStatus failure.code) "application/json"
    (.json (toClientJson failure request.correlation)))

def retryable : HttpMethod → Bool
  | .get | .head | .options => true
  | .post | .put | .patch | .delete => false

def signedPart (value : Text) : Text := decimal value.length ++ [ch ':'] ++ value

def signedNames : List Text :=
  [Text.of "x-openproof-request-id",Text.of "x-openproof-identity",Text.of "x-openproof-organization",
    Text.of "x-openproof-provider",Text.of "x-openproof-assurance",Text.of "x-openproof-client-id",
    Text.of "x-openproof-scopes",Text.of "x-openproof-context-issued-at"]

def trustedContextPayload (request : HttpRequest) : Text :=
  signedPart (httpMethodName request.method) ++ signedPart request.target
    ++ signedNames.flatMap fun name => signedPart ((request.header name).getD [])

-- `TrustedContextSigner::seal`.
def sealAt (request : HttpRequest) (now : Instant) : Handler HttpRequest :=
  let request := request.setHeader "x-openproof-context-issued-at" (decimal now)
  (ask (.hmacSha256 (trustedContextPayload request))).bind fun digest =>
    match digest with
    | .error e => .fail (errorResponse e request)
    | .ok digest => .ret (request.setHeader "x-openproof-context-signature" (toHex (digestBytes digest)))

def seal_ (request : HttpRequest) : Handler HttpRequest := (ask .now).bind (sealAt request)

structure Accepted where
  session : AuthenticatedSession
  delegated : Option DelegatedAccess
  request : HttpRequest

def usesDpop (request : HttpRequest) : Bool :=
  (request.header "authorization").any fun authorization => (Text.of "DPoP ").isPrefixOf authorization

def acceptDelegated (g : Gateway) (request : HttpRequest) (credential : Text) (dpopAuthorizationScheme : Bool)
    (delegated : DelegatedAccess) : Handler Accepted :=
  match delegated.senderConstraint with
  | none =>
    if dpopAuthorizationScheme then .fail (errorResponse (.plain .authenticationFailed) request)
    else .ret ⟨delegated.authenticated,some delegated,request⟩
  | some constraint =>
    match g.senderConstraintVerifier with
    | none => .fail (errorResponse (.plain .authenticationFailed) request)
    | some verifier =>
      (verifier.verify request constraint credential dpopAuthorizationScheme).bind fun proof =>
        match proof with
        | (.error e,request) => .fail (errorResponse e request)
        | (.ok _,request) => .ret ⟨delegated.authenticated,some delegated,request⟩

def acceptCredential (g : Gateway) (request : HttpRequest) (credential : Text) (dpopAuthorizationScheme : Bool) :
    Handler Accepted :=
  (ask (.authenticate credential)).bind fun authenticated =>
    match authenticated with
    | .ok session =>
      if dpopAuthorizationScheme then .fail (errorResponse (.plain .authenticationFailed) request)
      else .ret ⟨session,none,request⟩
    | .error e =>
      if !g.delegatedAccess then .fail (errorResponse e request)
      else (ask (.authenticateDelegated credential)).bind fun delegated =>
        match delegated with
        | .error e => .fail (errorResponse e request)
        | .ok delegated => acceptDelegated g request credential dpopAuthorizationScheme delegated

def accept (g : Gateway) (request : HttpRequest) : Handler Accepted :=
  let taken := takeSessionCredential request
  match taken.1 with
  | .error e => .fail (errorResponse e taken.2)
  | .ok none => .fail (errorResponse (.plain .authenticationRequired) taken.2)
  | .ok (some credential) => acceptCredential g taken.2 credential (usesDpop request)

def permitted (route : Route) (accepted : Accepted) : Handler Unit := do
  refuseIf (!route.requiredScope.isEmpty
      && !accepted.delegated.any fun delegated => delegated.permits route.requiredScope)
    (errorResponse (.plain .permissionDenied) accepted.request)
  refuseIf (!route.requiredAudience.isEmpty
      && !accepted.delegated.any fun delegated => delegated.permitsAudience route.requiredAudience)
    (errorResponse (.plain .permissionDenied) accepted.request)
  let allowed ← ask (.allowRate (Text.of "identity:" ++ accepted.session.identity.value))
  refuseIf (!allowed) (errorResponse (.plain .rateLimited) accepted.request)
  let decision ← ask (.authorize accepted.session route accepted.request.correlation)
  refuseIf (!decision) (errorResponse (.plain .permissionDenied) accepted.request)

def joinedScopes (scopes : List Text) : Text :=
  scopes.foldl (fun joined scope => (if joined.isEmpty then joined else joined ++ [ch ' ']) ++ scope) []

def identified (route : Route) (accepted : Accepted) : HttpRequest :=
  let request := (((accepted.request.setHeader "x-openproof-identity" accepted.session.identity.value).setHeader
    "x-openproof-provider" accepted.session.provider.value).setHeader
      "x-openproof-assurance" (assuranceLevelName accepted.session.assurance)).setHeader
        "x-openproof-organization" route.organization.value
  match accepted.delegated with
  | none => request
  | some delegated =>
    (request.setHeader "x-openproof-client-id" delegated.clientId).setHeader
      "x-openproof-scopes" (joinedScopes delegated.scopes.items)

def identify (g : Gateway) (route : Route) (request : HttpRequest) : Handler HttpRequest :=
  if route.isProtected then
    (accept g request).bind fun accepted => (permitted route accepted).bind fun _ =>
      .ret (identified route accepted)
  else .ret request

-- `WeightedRoundRobin::choose`.
def candidates (endpoints : List Endpoint) (excluded : List EndpointId) : List Endpoint :=
  endpoints.filter fun endpoint => !excluded.contains endpoint.id

def pick (slot cursor : Nat) : List Endpoint → Option Endpoint
  | [] => none
  | endpoint :: rest =>
    if slot < cursor+endpoint.weight then some endpoint else pick slot (cursor+endpoint.weight) rest

def chooseSlot (candidates : List Endpoint) (total : Nat) (sequence : UInt64) : Result Endpoint :=
  match pick (sequence.toNat % total) 0 candidates with
  | some endpoint => .ok endpoint
  | none => fail .internal "The load balancer could not select an endpoint."

def totalWeight : List Endpoint → Nat
  | [] => 0
  | endpoint :: rest => endpoint.weight+totalWeight rest

def choose (service : ServiceId) (endpoints : List Endpoint) (excluded : List EndpointId) :
    Proc Err (Result Endpoint) :=
  let total := totalWeight (candidates endpoints excluded)
  if total = 0 then .ret (fail .unavailable "No upstream endpoint is available.")
  else (ask (.nextSequence service)).bind fun sequence =>
    .ret (chooseSlot (candidates endpoints excluded) total sequence)

def gaveUp (lastFailure : Error) (request : HttpRequest) : HttpResponse :=
  errorResponse (if lastFailure.code = .timeout then lastFailure else .plain .unavailable) request

-- What is done with an answer from an upstream; `retry` is the rest of the loop.
def settle (request : HttpRequest) (endpoint : EndpointId) (retry : Error → Handler HttpResponse) :
    Result HttpResponse → Handler HttpResponse
  | .ok response =>
    if response.status < 100 || response.status > 599 then
      (ask (.recordFailure endpoint)).bind fun _ => .ret (errorResponse (.plain .unavailable) request)
    else if response.status ≥ 500 then
      (ask (.recordFailure endpoint)).bind fun _ => .ret (secureResponse response)
    else (ask (.recordSuccess endpoint)).bind fun _ => .ret (secureResponse response)
  | .error e => (ask (.recordFailure endpoint)).bind fun _ => retry e

def forward (g : Gateway) (service : ServiceId) (request : HttpRequest) (endpoints : List Endpoint)
    (attempts : Nat) : Nat → (sentAttempts : Nat) → (excluded : List EndpointId) → (lastFailure : Error) →
      Handler HttpResponse
  | 0,_,_,lastFailure => .ret (gaveUp lastFailure request)
  | rounds+1,sentAttempts,excluded,lastFailure =>
    if sentAttempts < attempts ∧ excluded.length < endpoints.length then
      (choose service endpoints excluded).bind fun chosen =>
        match chosen with
        | .error _ => .ret (gaveUp lastFailure request)
        | .ok endpoint =>
          (ask (.allow endpoint.id)).bind fun (allowed : Bool) =>
            if allowed then
              (ask (.send endpoint request g.upstreamTimeout)).bind (settle request endpoint.id fun e =>
                forward g service request endpoints attempts rounds (sentAttempts+1)
                  (excluded ++ [endpoint.id]) e)
            else forward g service request endpoints attempts rounds sentAttempts
              (excluded ++ [endpoint.id]) lastFailure
    else .ret (gaveUp lastFailure request)

def attemptsFor (method : HttpMethod) (endpoints : List Endpoint) : Nat :=
  if retryable method then min 2 endpoints.length else 1

def dispatch (g : Gateway) (route : Route) (request : HttpRequest) : Handler HttpResponse :=
  (ask (.resolve route.service)).bind fun resolved =>
    match resolved with
    | .error e => .fail (errorResponse e request)
    | .ok endpoints => forward g route.service request endpoints (attemptsFor request.method endpoints)
        endpoints.length 0 [] (.plain .unavailable)

def stripped (request : HttpRequest) : HttpRequest := stripHopByHop (stripTrustedIdentityHeaders request)

def requestIdentified (request : HttpRequest) : HttpRequest :=
  request.setHeader "x-openproof-request-id" request.correlation

def handleRoute (g : Gateway) (route : Route) (request : HttpRequest) : Handler HttpResponse :=
  (identify g route (stripped request)).bind fun request =>
    (seal_ (requestIdentified request)).bind (dispatch g route)

def handle (g : Gateway) (request : HttpRequest) : Handler HttpResponse :=
  match Router.match_ g.routes request.method request.path with
  | none => .fail (errorResponse (.plain .notFound) request)
  | some route =>
    (ask (.allowRate request.remoteAddress)).bind fun (allowed : Bool) =>
      if allowed then handleRoute g route request
      else .fail (errorResponse (.plain .rateLimited) request)

section

theorem forward_rounds (enough : endpoints.length ≤ excluded.length+rounds) (more : Nat) :
    forward g service request endpoints attempts (rounds+more) sentAttempts excluded lastFailure =
      forward g service request endpoints attempts rounds sentAttempts excluded lastFailure := by
  induction rounds generalizing sentAttempts excluded lastFailure with
  | zero =>
    cases more with
    | zero => rfl
    | succ more =>
      have ended : ¬(sentAttempts < attempts ∧ excluded.length < endpoints.length) := by
        rintro ⟨-,short⟩
        omega
      rw [Nat.zero_add]
      simp only [forward,if_neg ended]
  | succ rounds ih =>
    have next : ∀ endpoint : EndpointId,endpoints.length ≤ (excluded ++ [endpoint]).length+rounds := by
      intro endpoint
      rw [List.length_append,List.length_singleton]
      omega
    rw [Nat.succ_add,forward,forward]
    simp only [ih (next _)]

theorem pick_mem (found : pick slot cursor endpoints = some endpoint) : endpoint ∈ endpoints := by
  induction endpoints generalizing cursor with
  | nil => cases found
  | cons first rest ih =>
    rw [pick] at found
    split at found
    · cases found
      exact List.mem_cons_self
    · exact List.mem_cons_of_mem _ (ih found)

theorem pick_total (reached : cursor ≤ slot) (below : slot < cursor+totalWeight endpoints) :
    ∃ endpoint,pick slot cursor endpoints = some endpoint := by
  induction endpoints generalizing cursor with
  | nil =>
    simp only [totalWeight] at below
    omega
  | cons first rest ih =>
    rw [totalWeight,← Nat.add_assoc] at below
    rw [pick]
    split
    · exact ⟨first,rfl⟩
    · rename_i further
      exact ih (Nat.not_lt.mp further) below

theorem chooseSlot_found {sequence : UInt64} (some_left : totalWeight (candidates endpoints excluded) ≠ 0) :
    ∃ endpoint ∈ candidates endpoints excluded,
      chooseSlot (candidates endpoints excluded) (totalWeight (candidates endpoints excluded)) sequence =
        .ok endpoint := by
  have below := Nat.mod_lt sequence.toNat (Nat.pos_of_ne_zero some_left)
  obtain ⟨endpoint,found⟩ := pick_total (Nat.zero_le _) (by rwa [Nat.zero_add])
  exact ⟨endpoint,pick_mem found,by rw [chooseSlot,found]⟩

end

def preliminary : GatewayOp → Bool
  | .now | .allowRate _ | .authenticate _ | .authenticateDelegated _ | .authorize .. | .hmacSha256 _ => true
  | .consumeDpopReplay .. | .consumeMtlsForwardingReplay .. => true
  | .resolve _ | .nextSequence _ | .allow _ | .recordSuccess _ | .recordFailure _ | .send .. => false

abbrev Prelude (p : Proc Err α) : Prop := p.Only fun op => preliminary op = true

theorem prelude_ask (early : preliminary op = true) : Prelude (ask op : Proc Err _) :=
  .perform early

theorem prelude_verifyDpop (v : SenderProofVerifier) (request : HttpRequest) (accessToken : Option Text) :
    Prelude (v.verifyDpop request accessToken : Proc Err _) := by
  unfold SenderProofVerifier.verifyDpop
  split
  · trivial
  · refine .bind (.bind (prelude_ask rfl) fun now => ?_) fun answer => ?_
    · unfold DpopService.consumeAt
      split
      · trivial
      · exact prelude_ask rfl
    · cases answer <;> trivial

theorem prelude_verifyMtlsForwarding (v : SenderProofVerifier) (request : HttpRequest) :
    Prelude (v.verifyMtlsForwarding request : Proc Err _) := by
  unfold SenderProofVerifier.verifyMtlsForwarding
  split
  · split
    · trivial
    · split
      · split
        · trivial
        · refine .bind (prelude_ask rfl) fun now => ?_
          unfold SenderProofVerifier.consumeAssertion
          split
          · trivial
          · split
            · trivial
            · refine .bind (prelude_ask rfl) fun answer => ?_
              cases answer <;> trivial
      · trivial
  · trivial

theorem prelude_verify (v : SenderProofVerifier) (request : HttpRequest) (constraint : Tokens.SenderConstraint)
    (accessToken : Text) (dpopAuthorizationScheme : Bool) :
    Prelude (v.verify request constraint accessToken dpopAuthorizationScheme : Proc Err _) := by
  unfold SenderProofVerifier.verify
  split
  · split
    · trivial
    · exact .bind (prelude_verifyDpop v request _) fun _ => trivial
  · split
    · trivial
    · exact .bind (prelude_verifyMtlsForwarding v request) fun _ => trivial

theorem prelude_acceptDelegated (g : Gateway) (request : HttpRequest) (credential : Text)
    (dpopAuthorizationScheme : Bool) (delegated : DelegatedAccess) :
    Prelude (acceptDelegated g request credential dpopAuthorizationScheme delegated) := by
  unfold acceptDelegated
  split
  · split <;> trivial
  · split
    · trivial
    · refine .bind (prelude_verify _ _ _ _ _) fun proof => ?_
      split <;> trivial

theorem prelude_accept (g : Gateway) (request : HttpRequest) : Prelude (accept g request) := by
  unfold accept
  dsimp only
  split
  · trivial
  · trivial
  · unfold acceptCredential
    refine .bind (prelude_ask rfl) fun authenticated => ?_
    cases authenticated with
    | ok session =>
      dsimp only
      split <;> trivial
    | error e =>
      dsimp only
      split
      · trivial
      · refine .bind (prelude_ask rfl) fun delegated => ?_
        cases delegated with
        | error e => trivial
        | ok delegated => exact prelude_acceptDelegated g _ _ _ delegated

theorem prelude_permitted (route : Route) (accepted : Accepted) : Prelude (permitted route accepted) := by
  refine .bind (.refuseIf _ _ _) fun _ => .bind (.refuseIf _ _ _) fun _ => ?_
  refine .bind (prelude_ask rfl) fun allowed => .bind (.refuseIf _ _ _) fun _ => ?_
  exact .bind (prelude_ask rfl) fun decision => .refuseIf _ _ _

theorem prelude_identify (g : Gateway) (route : Route) (request : HttpRequest) :
    Prelude (identify g route request) := by
  unfold identify
  split
  · exact .bind (prelude_accept g request) fun accepted => .bind (prelude_permitted route accepted) fun _ => trivial
  · trivial

theorem prelude_seal (request : HttpRequest) : Prelude (seal_ request) := by
  refine .bind (prelude_ask rfl) fun now => .bind (prelude_ask rfl) fun digest => ?_
  cases digest <;> trivial

end OpenProof.GatewayHandler
