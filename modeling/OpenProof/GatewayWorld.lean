import OpenProof.ReplayTables
import OpenProof.GatewayRequests

namespace OpenProof.GatewayWorld
open AtomicPrograms Foundation Http GatewayRequests ReplayTables Identities Tokens SortedList

structure RouteIdTag
abbrev RouteId := StrongId RouteIdTag
structure ServiceIdTag
abbrev ServiceId := StrongId ServiceIdTag
structure EndpointIdTag
abbrev EndpointId := StrongId EndpointIdTag
structure ActionTag
abbrev Action := StrongId ActionTag
structure ResourceTag
abbrev Resource := StrongId ResourceTag

structure Route where
  id : RouteId
  method : HttpMethod
  pathPrefix : Text
  service : ServiceId
  isProtected : Bool
  organization : OrganizationId
  action : Action
  resource : Resource
  requiredScope : Text
  requiredAudience : Text
  deriving DecidableEq

namespace Route

def create (id : RouteId) (method : HttpMethod) (pathPrefix : Text) (service : ServiceId)
    (protectedRoute : Bool) (organization : OrganizationId) (action : Action) (resource : Resource)
    (requiredScope requiredAudience : Text) : Result Route :=
  if id.empty || service.empty || pathPrefix.isEmpty || pathPrefix.head? != some (ch '/')
      || (Text.of "//").isPrefixOf pathPrefix || pathPrefix.contains (ch '?') || pathPrefix.contains (ch '#')
      || hasControl pathPrefix || (pathPrefix.length > 1 && pathPrefix.getLast? == some (ch '/'))
      || requiredScope.length > 128 || hasControl requiredScope
      || requiredAudience.length > 2048 || hasControl requiredAudience then
    fail .invalidArgument "The gateway route is invalid."
  else if protectedRoute && (organization.empty || action.empty || resource.empty) then
    fail .invalidArgument "A protected route requires organization, action and resource."
  else .ok ⟨id,method,pathPrefix,service,protectedRoute,organization,action,resource,requiredScope,
    requiredAudience⟩

end Route

def prefixMatches (path start : Text) : Bool :=
  start.isPrefixOf path && (start == Text.of "/" || path.length == start.length
    || start.getLast? == some (ch '/') || path[start.length]? == some (ch '/'))

namespace Router

def add (routes : List Route) (route : Route) : Result (List Route) :=
  if routes.any fun existing => existing.id = route.id
      || (existing.method = route.method && existing.pathPrefix == route.pathPrefix) then
    fail .alreadyExists "The gateway route already exists."
  else .ok (routes ++ [route])

def match_ (routes : List Route) (method : HttpMethod) (path : Text) : Option Route :=
  routes.foldl (fun best route =>
    if route.method = method && prefixMatches path route.pathPrefix
        && best.all fun best => route.pathPrefix.length > best.pathPrefix.length then some route
    else best) none

end Router

structure Endpoint where
  id : EndpointId
  host : Text
  port : UInt16
  tls : Bool
  weight : Nat
  weighted : 0 < weight ∧ weight ≤ 1000
  deriving DecidableEq

def Endpoint.create (id : EndpointId) (host : Text) (port : UInt16) (tls : Bool) (weight : Nat) :
    Result Endpoint :=
  if id.empty || host.isEmpty || host.length > 253 || port == 0
      || invalidTargetCharacter host || host.contains (ch '/') || host.contains (ch '@') then
    fail .invalidArgument "The upstream endpoint is invalid."
  else if weighted : 0 < weight ∧ weight ≤ 1000 then .ok ⟨id,host,port,tls,weight,weighted⟩
  else fail .invalidArgument "The upstream endpoint is invalid."

def setEndpoints (services : Map ServiceId (List Endpoint)) (service : ServiceId) (endpoints : List Endpoint) :
    Result (Map ServiceId (List Endpoint)) :=
  if service.empty || endpoints.isEmpty then
    fail .invalidArgument "A discovered service requires endpoints."
  else if ¬(endpoints.map Endpoint.id).Nodup then
    fail .invalidArgument "A discovered service contains duplicate endpoints."
  else .ok (services.insert service endpoints)

inductive CircuitState where
  | closed
  | opened
  | halfOpen
  deriving DecidableEq

-- One endpoint's circuit; `failures` is an `unsigned int`.
structure Circuit where
  state : CircuitState
  failures : UInt32
  openedAt : Instant
  probeInFlight : Bool
  deriving DecidableEq

def Circuit.fresh : Circuit := ⟨.closed,0,0,false⟩

structure CircuitBreaker where
  failureThreshold : UInt32
  openDuration : Duration
  positive : failureThreshold ≠ 0 ∧ 0 < openDuration

namespace CircuitBreaker

def create (failureThreshold : UInt32) (openDuration : Duration) : Result CircuitBreaker :=
  if usable : failureThreshold = 0 ∨ openDuration ≤ 0 then
    fail .invalidArgument "The circuit-breaker policy is invalid."
  else .ok ⟨failureThreshold,openDuration,by
    obtain ⟨threshold,duration⟩ := not_or.mp usable
    exact ⟨threshold,Int.not_le.mp duration⟩⟩

variable (breaker : CircuitBreaker)

def allow (now : Instant) (entry : Circuit) : Bool × Circuit :=
  match entry.state with
  | .closed => (true,entry)
  | .opened =>
    if now - entry.openedAt < breaker.openDuration then (false,entry)
    else (true,{ entry with state := .halfOpen,probeInFlight := true })
  | .halfOpen => if entry.probeInFlight then (false,entry) else (true,{ entry with probeInFlight := true })

def recordSuccess (_ : Circuit) : Circuit := .fresh

def recordFailure (now : Instant) (entry : Circuit) : Circuit :=
  match entry.state with
  | .halfOpen => { entry with probeInFlight := false,state := .opened,openedAt := now }
  | state =>
    let failures := entry.failures + 1
    if breaker.failureThreshold ≤ failures then ⟨.opened,failures,now,false⟩
    else ⟨state,failures,entry.openedAt,false⟩

end CircuitBreaker

-- `std::map::operator[]` makes a fresh entry.
def circuitOf (circuits : Map EndpointId Circuit) (endpoint : EndpointId) : Circuit :=
  circuits[endpoint]?.getD .fresh

structure DelegatedAccess where
  authenticated : AuthenticatedSession
  clientId : Text
  scopes : SortedSet Text
  audiences : SortedSet Text
  senderConstraint : Option SenderConstraint

namespace DelegatedAccess

def permits (access : DelegatedAccess) (scope : Text) : Bool := scope.isEmpty || access.scopes.contains scope
def permitsAudience (access : DelegatedAccess) (audience : Text) : Bool :=
  audience.isEmpty || access.audiences.contains audience

end DelegatedAccess

-- One step each: a repository or component method that holds its mutex, one statement
-- of the replay tables, one look at the clock, one request to an upstream.
inductive GatewayOp where
  | now
  | allowRate (key : Text)
  | authenticate (credential : Text)
  | authenticateDelegated (credential : Text)
  | consumeDpopReplay (jwkThumbprint jwtId : Text) (expiresAt now : Instant)
  | consumeMtlsForwardingReplay (certificateThumbprint nonce : Text) (expiresAt now : Instant)
  | authorize (session : AuthenticatedSession) (route : Route) (correlation : Text)
  | hmacSha256 (message : Text)
  | resolve (service : ServiceId)
  | nextSequence (service : ServiceId)
  | allow (endpoint : EndpointId)
  | recordSuccess (endpoint : EndpointId)
  | recordFailure (endpoint : EndpointId)
  | send (endpoint : Endpoint) (request : HttpRequest) (timeout : Duration)

abbrev GatewayOp.Ret : GatewayOp → Type
  | .now => Instant
  | .allowRate _ => Bool
  | .authenticate _ => Result AuthenticatedSession
  | .authenticateDelegated _ => Result DelegatedAccess
  | .consumeDpopReplay .. => Result Unit
  | .consumeMtlsForwardingReplay .. => Result Unit
  | .authorize .. => Bool
  | .hmacSha256 _ => Result Sha256Digest
  | .resolve _ => Result (List Endpoint)
  | .nextSequence _ => UInt64
  | .allow _ => Bool
  | .recordSuccess _ => Unit
  | .recordFailure _ => Unit
  | .send .. => Result HttpResponse

-- What the gateway is surrounded by: rate limits, sessions, policies and upstreams.
structure GatewaySurroundings where
  allowRate : Text → Bool
  sessions : Text → Result AuthenticatedSession
  delegated : Text → Result DelegatedAccess
  permits : AuthenticatedSession → Route → Bool
  hmacSha256 : Text → Result Sha256Digest
  upstream : Endpoint → HttpRequest → Result HttpResponse

structure GatewayState where
  clock : Instant
  surroundings : GatewaySurroundings
  services : Map ServiceId (List Endpoint)
  sequences : Map ServiceId UInt64
  circuits : Map EndpointId Circuit
  dpopReplays : Table (Text × Text)
  mtlsReplays : Table (Text × Text)

def replayed (message : Text) (taken : Bool) : Result Unit :=
  if taken then .ok () else fail .authenticationFailed message

def exec (breaker : CircuitBreaker) : (op : GatewayOp) → GatewayState → op.Ret × GatewayState
  | .now,w => (w.clock,w)
  | .allowRate key,w => (w.surroundings.allowRate key,w)
  | .authenticate credential,w => (w.surroundings.sessions credential,w)
  | .authenticateDelegated credential,w => (w.surroundings.delegated credential,w)
  | .consumeDpopReplay jwkThumbprint jwtId expiresAt now,w =>
    let r := consume (jwkThumbprint,jwtId) expiresAt now w.dpopReplays
    (replayed "The DPoP proof was replayed." r.1,{ w with dpopReplays := r.2 })
  | .consumeMtlsForwardingReplay certificateThumbprint nonce expiresAt now,w =>
    let r := consume (certificateThumbprint,nonce) expiresAt now w.mtlsReplays
    (replayed "The authenticated mTLS forwarding assertion was replayed." r.1,{ w with mtlsReplays := r.2 })
  | .authorize session route _,w => (w.surroundings.permits session route,w)
  | .hmacSha256 message,w => (w.surroundings.hmacSha256 message,w)
  | .resolve service,w =>
    ((w.services[service]?).elim (fail .unavailable "The upstream service is unavailable.") .ok,w)
  | .nextSequence service,w =>
    let sequence := w.sequences[service]?.getD 0
    (sequence,{ w with sequences := w.sequences.insert service (sequence+1) })
  | .allow endpoint,w =>
    let r := breaker.allow w.clock (circuitOf w.circuits endpoint)
    (r.1,{ w with circuits := w.circuits.insert endpoint r.2 })
  | .recordSuccess endpoint,w =>
    ((),{ w with
      circuits := w.circuits.insert endpoint (CircuitBreaker.recordSuccess (circuitOf w.circuits endpoint)) })
  | .recordFailure endpoint,w =>
    ((),{ w with
      circuits := w.circuits.insert endpoint (breaker.recordFailure w.clock (circuitOf w.circuits endpoint)) })
  | .send endpoint request _,w => (w.surroundings.upstream endpoint request,w)

def ask (op : GatewayOp) : Prog GatewayOp GatewayOp.Ret Err op.Ret := .perform op

def httpMethodName : HttpMethod → Text
  | .get => "GET"
  | .head => "HEAD"
  | .post => "POST"
  | .put => "PUT"
  | .patch => "PATCH"
  | .delete => "DELETE"
  | .options => "OPTIONS"

def digestBytes (digest : Sha256Digest) : Text :=
  (List.range 32).map fun i => ((digest >>> (8*(31-i))).toNat % 256).toUInt8

def hexDigitsLower : Text := "0123456789abcdef"

def toHex (bytes : Text) : Text :=
  bytes.flatMap fun byte =>
    [hexDigitsLower.getD (byte.toNat / 16) 0,hexDigitsLower.getD (byte.toNat % 16) 0]

end OpenProof.GatewayWorld
