import OpenProof.Consents

namespace OpenProof.Authorizations
open Foundation Identities Clients

def validOpaque (value : Text) (maximum : Nat) : Bool :=
  !value.isEmpty && value.length ≤ maximum && !value.any isControl

def base64UrlCharacter (byte : UInt8) : Bool :=
  isUpper byte || isLower byte || isDigit byte || byte == ch '-' || byte == ch '_'

def validChallenge (value : Text) : Bool := value.length == 43 && value.all base64UrlCharacter

structure PkceChallenge where
  value : Text
  valid : validChallenge value = true
  deriving DecidableEq

def PkceChallenge.create (value : Text) : Result PkceChallenge :=
  if valid : validChallenge value then .ok ⟨value,valid⟩
  else fail .invalidArgument "Only PKCE S256 challenges are accepted."

inductive AuthorizationResponseMode where
  | query
  | jwt
  deriving DecidableEq

structure AuthorizationRequest where
  clientId : ClientId
  redirectUri : Text
  scopes : List Scope
  codeChallenge : PkceChallenge
  state : Option Text
  nonce : Option Text
  maximumAuthenticationAge : Option Duration
  resource : Option Text
  responseMode : AuthorizationResponseMode
  deriving DecidableEq

namespace AuthorizationRequest

def create (clientId : ClientId) (redirectUri : Text) (scopes : List Scope)
    (codeChallenge : PkceChallenge) (state nonce : Option Text)
    (maximumAuthenticationAge : Option Duration) (resource : Option Text)
    (responseMode : AuthorizationResponseMode) : Result AuthorizationRequest :=
  if clientId.empty || redirectUri.isEmpty || redirectUri.length > 2048
      || scopes.isEmpty || scopes.length > 64
      || state.any (fun value => !validOpaque value 512)
      || nonce.any (fun value => !validOpaque value 512)
      || maximumAuthenticationAge.any (· < 0)
      || resource.any (fun value => !validOpaque value 2048) then
    fail .invalidArgument "The authorization request is invalid."
  else if adjacentEqual (sortScopes scopes) then
    fail .invalidArgument "The authorization scope list contains duplicates."
  else .ok ⟨clientId,redirectUri,sortScopes scopes,codeChallenge,state,nonce,
    maximumAuthenticationAge,resource,responseMode⟩

theorem create_spec {clientId : ClientId} {redirectUri : Text} {scopes : List Scope} {codeChallenge : PkceChallenge}
    {state nonce : Option Text} {resource : Option Text} {mode : AuthorizationResponseMode}
    {request : AuthorizationRequest}
    (done : create clientId redirectUri scopes codeChallenge state nonce age resource mode = .ok request) :
    request.clientId = clientId ∧ request.redirectUri = redirectUri ∧
      request.resource = resource ∧ ∀ scope,scope ∈ request.scopes ↔ scope ∈ scopes := by
  unfold create at done
  split_ifs at done
  cases done
  exact ⟨rfl,rfl,rfl,fun scope => Clients.mem_sortScopes scope scopes⟩

end AuthorizationRequest

abbrev CodeDigest := Sha256Digest

structure AuthorizationCode where
  digest : CodeDigest
  clientId : ClientId
  identity : IdentityId
  redirectUri : Text
  scopes : List Scope
  codeChallenge : PkceChallenge
  nonce : Option Text
  provider : ProviderId
  assurance : AssuranceLevel
  strength : AuthenticationStrength
  authenticatedAt : Instant
  issuedAt : Instant
  expiresAt : Instant
  resource : Option Text
  deriving DecidableEq

namespace AuthorizationCode

def create (digest : CodeDigest) (clientId : ClientId) (identity : IdentityId) (redirectUri : Text)
    (scopes : List Scope) (codeChallenge : PkceChallenge) (nonce : Option Text)
    (provider : ProviderId) (assurance : AssuranceLevel) (strength : AuthenticationStrength)
    (authenticatedAt issuedAt : Instant) (lifetime : Duration) (resource : Option Text) :
    Result AuthorizationCode :=
  if clientId.empty || identity.empty || redirectUri.isEmpty || scopes.isEmpty
      || lifetime ≤ 0 || authenticatedAt > issuedAt
      || nonce.any (fun value => !validOpaque value 512)
      || resource.any (fun value => !validOpaque value 2048) then
    fail .invalidArgument "The authorization code state is invalid."
  else .ok ⟨digest,clientId,identity,redirectUri,scopes,codeChallenge,nonce,provider,assurance,
    strength,authenticatedAt,issuedAt,issuedAt+lifetime,resource⟩

def restore (digest : CodeDigest) (clientId : ClientId) (identity : IdentityId) (redirectUri : Text)
    (scopes : List Scope) (codeChallenge : PkceChallenge) (nonce : Option Text)
    (provider : ProviderId) (assurance : AssuranceLevel) (strength : AuthenticationStrength)
    (authenticatedAt issuedAt expiresAt : Instant) (resource : Option Text) : Result AuthorizationCode :=
  if expiresAt ≤ issuedAt then fail .internal "Stored authorization code timestamps are invalid."
  else match create digest clientId identity redirectUri scopes codeChallenge nonce provider assurance strength
      authenticatedAt issuedAt (expiresAt-issuedAt) resource with
    | .error e => .error (.of .internal "Stored authorization code state is invalid." e.message)
    | .ok code => .ok code

def expiredAt (code : AuthorizationCode) (now : Instant) : Bool := now ≥ code.expiresAt

theorem create_spec {digest : CodeDigest} {clientId : ClientId} {identity : IdentityId} {redirectUri : Text}
    {scopes : List Scope} {codeChallenge : PkceChallenge} {nonce : Option Text} {provider : ProviderId}
    {assurance : AssuranceLevel} {strength : AuthenticationStrength} {authenticatedAt issuedAt : Instant}
    {lifetime : Duration} {resource : Option Text} {code : AuthorizationCode}
    (done : create digest clientId identity redirectUri scopes codeChallenge nonce provider assurance strength
      authenticatedAt issuedAt lifetime resource = .ok code) :
    code.clientId = clientId ∧ code.identity = identity ∧ code.redirectUri = redirectUri ∧
      code.scopes = scopes ∧ code.resource = resource := by
  unfold create at done
  split_ifs at done
  cases done
  exact ⟨rfl,rfl,rfl,rfl,rfl⟩

end AuthorizationCode

-- `InMemoryAuthorizationCodeStore`; the hex key of the source orders as the digest.
abbrev CodeStore := Map CodeDigest AuthorizationCode

namespace CodeStore

def add (code : AuthorizationCode) (codes : CodeStore) : Result Unit × CodeStore :=
  if codes.holds code.digest then (fail .alreadyExists "The authorization code already exists.",codes)
  else (.ok (),codes.insert code.digest code)

def consumeBound (digest : CodeDigest) (now : Instant)
    (expectedClientId expectedRedirectUri expectedCodeChallenge : Text) (codes : CodeStore) :
    Result AuthorizationCode × CodeStore :=
  match codes[digest]? with
  | none => (fail .authenticationFailed "The authorization grant is invalid.",codes)
  | some code =>
    if code.expiredAt now then
      (fail .authenticationFailed "The authorization grant is invalid.",codes.erase digest)
    else if code.clientId.value ≠ expectedClientId ∨ code.redirectUri ≠ expectedRedirectUri
        ∨ code.codeChallenge.value ≠ expectedCodeChallenge then
      (fail .authenticationFailed "The authorization grant is invalid.",codes)
    else (.ok code,codes.erase digest)

theorem consumeBound_stored (done : (consumeBound digest now clientId redirectUri challenge codes).1 = .ok code) :
    codes[digest]? = some code := by
  unfold consumeBound at done
  split at done
  · cases done
  · rename_i stored
    split_ifs at done
    cases done
    exact stored

end CodeStore

abbrev PushedRequestDigest := Sha256Digest

structure PushedAuthorizationRequest where
  digest : PushedRequestDigest
  request : AuthorizationRequest
  issuedAt : Instant
  expiresAt : Instant
  deriving DecidableEq

namespace PushedAuthorizationRequest

def create (digest : PushedRequestDigest) (request : AuthorizationRequest) (issuedAt : Instant)
    (lifetime : Duration) : Result PushedAuthorizationRequest :=
  if lifetime ≤ 0 then fail .invalidArgument "PAR lifetime must be positive."
  else if issuedAt+lifetime ≤ issuedAt then fail .invalidArgument "PAR timestamps are invalid."
  else .ok ⟨digest,request,issuedAt,issuedAt+lifetime⟩

def expiredAt (pushed : PushedAuthorizationRequest) (now : Instant) : Bool := now ≥ pushed.expiresAt

theorem create_request {digest : PushedRequestDigest} {request : AuthorizationRequest} {issuedAt : Instant}
    (done : create digest request issuedAt lifetime = .ok pushed) : pushed.request = request := by
  unfold create at done
  split_ifs at done
  cases done
  rfl

end PushedAuthorizationRequest

abbrev PushedStore := Map PushedRequestDigest PushedAuthorizationRequest

namespace PushedStore

def add (pushed : PushedAuthorizationRequest) (requests : PushedStore) : Result Unit × PushedStore :=
  if requests.holds pushed.digest then (.error (.plain .alreadyExists),requests)
  else (.ok (),requests.insert pushed.digest pushed)

def find (digest : PushedRequestDigest) (now : Instant) (requests : PushedStore) :
    Result PushedAuthorizationRequest :=
  match requests[digest]? with
  | none => .error (.plain .notFound)
  | some found => if found.expiredAt now then .error (.plain .notFound) else .ok found

def consume (digest : PushedRequestDigest) (expectedClient : ClientId) (now : Instant)
    (requests : PushedStore) : Result PushedAuthorizationRequest × PushedStore :=
  match requests[digest]? with
  | none => (fail .authenticationFailed "The pushed authorization request is invalid.",requests)
  | some found =>
    if found.expiredAt now || found.request.clientId ≠ expectedClient then
      (fail .authenticationFailed "The pushed authorization request is invalid.",requests)
    else (.ok found,requests.erase digest)

theorem find_stored (done : find digest now requests = .ok pushed) : requests[digest]? = some pushed := by
  unfold find at done
  split at done
  · cases done
  · rename_i stored
    split_ifs at done
    cases done
    exact stored

theorem consume_stored (done : (consume digest expected now requests).1 = .ok pushed) : requests[digest]? = some pushed := by
  unfold consume at done
  split at done
  · cases done
  · rename_i stored
    split_ifs at done
    cases done
    exact stored

end PushedStore

inductive DeviceAuthorizationStatus where
  | pending
  | approved
  | denied
  | consumed
  deriving DecidableEq

def normalizeDeviceScopes (scopes : List Scope) : Result (List Scope) :=
  if scopes.isEmpty || scopes.length > 256 then
    fail .invalidArgument "Device authorization requires scopes."
  else if adjacentEqual (sortScopes scopes) then
    fail .invalidArgument "Device authorization scopes must be unique."
  else .ok (sortScopes scopes)

structure DeviceAuthorization where
  deviceCode : Sha256Digest
  userCode : Sha256Digest
  clientId : ClientId
  scopes : List Scope
  resource : Option Text
  issuedAt : Instant
  expiresAt : Instant
  pollInterval : Duration
  status : DeviceAuthorizationStatus
  identity : Option IdentityId
  provider : Option ProviderId
  assurance : Option AssuranceLevel
  strength : Option AuthenticationStrength
  authenticatedAt : Option Instant
  lastPollAt : Option Instant
  deriving DecidableEq

namespace DeviceAuthorization

-- `create` is `restore` of a pending record that names nobody yet.
def create (deviceCode userCode : Sha256Digest) (clientId : ClientId) (scopes : List Scope)
    (resource : Option Text) (issuedAt : Instant) (lifetime pollInterval : Duration) :
    Result DeviceAuthorization :=
  if lifetime ≤ 0 ∨ pollInterval ≤ 0 then
    fail .invalidArgument "Device authorization timing policy is invalid."
  else match normalizeDeviceScopes scopes with
    | .error _ => fail .invalidArgument "The device authorization record is invalid."
    | .ok normalized =>
      if clientId.empty || issuedAt+lifetime ≤ issuedAt
          || resource.any (fun value => value.isEmpty || value.length > 2048) then
        fail .invalidArgument "The device authorization record is invalid."
      else .ok ⟨deviceCode,userCode,clientId,normalized,resource,issuedAt,issuedAt+lifetime,
        pollInterval,.pending,none,none,none,none,none,none⟩

def restore (deviceCode userCode : Sha256Digest) (clientId : ClientId) (scopes : List Scope)
    (resource : Option Text) (issuedAt expiresAt : Instant) (pollInterval : Duration)
    (status : DeviceAuthorizationStatus) (identity : Option IdentityId) (provider : Option ProviderId)
    (assurance : Option AssuranceLevel) (strength : Option AuthenticationStrength)
    (authenticatedAt lastPollAt : Option Instant) : Result DeviceAuthorization :=
  let approvedClaims := identity.isSome && provider.isSome && assurance.isSome && strength.isSome
    && authenticatedAt.isSome
  match normalizeDeviceScopes scopes with
  | .error _ => fail .invalidArgument "The device authorization record is invalid."
  | .ok normalized =>
    if clientId.empty || expiresAt ≤ issuedAt || pollInterval ≤ 0
        || resource.any (fun value => value.isEmpty || value.length > 2048)
        || ((status = .approved || status = .consumed) && !approvedClaims)
        || (status = .pending && approvedClaims) then
      fail .invalidArgument "The device authorization record is invalid."
    else .ok ⟨deviceCode,userCode,clientId,normalized,resource,issuedAt,expiresAt,pollInterval,status,identity,
      provider,assurance,strength,authenticatedAt,lastPollAt⟩

def expiredAt (authorization : DeviceAuthorization) (now : Instant) : Bool :=
  now ≥ authorization.expiresAt

def approve (authorization : DeviceAuthorization) (authenticated : AuthenticatedSession)
    (now : Instant) : Result DeviceAuthorization :=
  if authorization.status ≠ .pending ∨ authorization.expiredAt now then
    fail .failedPrecondition "The device authorization cannot be approved."
  else .ok { authorization with
    identity := some authenticated.identity
    provider := some authenticated.provider
    assurance := some authenticated.assurance
    strength := some authenticated.strength
    authenticatedAt := some authenticated.authenticatedAt
    status := .approved }

def deny (authorization : DeviceAuthorization) (now : Instant) : Result DeviceAuthorization :=
  if authorization.status ≠ .pending ∨ authorization.expiredAt now then
    fail .failedPrecondition "The device authorization cannot be denied."
  else .ok { authorization with status := .denied }

def markPolled (authorization : DeviceAuthorization) (now : Instant) : Result DeviceAuthorization :=
  if authorization.expiredAt now ∨ authorization.status = .consumed then .error (.plain .failedPrecondition)
  else .ok { authorization with lastPollAt := some now }

def slowDown (authorization : DeviceAuthorization) (now : Instant) : Result DeviceAuthorization :=
  if authorization.expiredAt now ∨ authorization.status = .consumed then .error (.plain .failedPrecondition)
  else .ok { authorization with
    pollInterval := authorization.pollInterval+5000
    lastPollAt := some now }

def consume (authorization : DeviceAuthorization) (now : Instant) : Result DeviceAuthorization :=
  if authorization.expiredAt now ∨ authorization.status ≠ .approved then
    fail .failedPrecondition "The device authorization cannot be consumed."
  else .ok { authorization with status := .consumed, lastPollAt := some now }

structure SameRequest (before after : DeviceAuthorization) : Prop where
  clientId : after.clientId = before.clientId
  scopes : after.scopes = before.scopes
  resource : after.resource = before.resource

theorem approve_same (done : before.approve authenticated now = .ok after) : SameRequest before after := by
  unfold approve at done
  split_ifs at done
  cases done
  exact ⟨rfl,rfl,rfl⟩

theorem deny_same (done : before.deny now = .ok after) : SameRequest before after := by
  unfold deny at done
  split_ifs at done
  cases done
  exact ⟨rfl,rfl,rfl⟩

theorem markPolled_same (done : before.markPolled now = .ok after) : SameRequest before after := by
  unfold markPolled at done
  split_ifs at done
  cases done
  exact ⟨rfl,rfl,rfl⟩

theorem slowDown_same (done : before.slowDown now = .ok after) : SameRequest before after := by
  unfold slowDown at done
  split_ifs at done
  cases done
  exact ⟨rfl,rfl,rfl⟩

theorem consume_same (done : before.consume now = .ok after) : SameRequest before after := by
  unfold consume at done
  split_ifs at done
  cases done
  exact ⟨rfl,rfl,rfl⟩

theorem create_spec {deviceCode userCode : Sha256Digest} {clientId : ClientId} {scopes : List Scope}
    {resource : Option Text} {issuedAt : Instant} {lifetime pollInterval : Duration}
    (done : create deviceCode userCode clientId scopes resource issuedAt lifetime pollInterval = .ok authorization) :
    authorization.clientId = clientId ∧ authorization.resource = resource ∧
      ∀ scope,scope ∈ authorization.scopes ↔ scope ∈ scopes := by
  unfold create normalizeDeviceScopes at done
  split_ifs at done
  cases done
  exact ⟨rfl,rfl,fun scope => Clients.mem_sortScopes scope scopes⟩

end DeviceAuthorization

inductive DevicePollDisposition where
  | pending
  | slowDown
  | denied
  | expired
  | approved
  deriving DecidableEq

structure DevicePollResult where
  disposition : DevicePollDisposition
  authorization : Option DeviceAuthorization
  retryAfter : Duration
  deriving DecidableEq

-- `InMemoryDeviceAuthorizationStore`.
structure DeviceStore where
  byDevice : Map Sha256Digest DeviceAuthorization
  userToDevice : Map Sha256Digest Sha256Digest

namespace DeviceStore

def add (authorization : DeviceAuthorization) (store : DeviceStore) : Result Unit × DeviceStore :=
  if store.byDevice.holds authorization.deviceCode
      || store.userToDevice.holds authorization.userCode then
    (.error (.plain .alreadyExists),store)
  else
    (.ok (),
      { userToDevice := store.userToDevice.insert authorization.userCode authorization.deviceCode
        byDevice := store.byDevice.insert authorization.deviceCode authorization })

def byUserCode (userCode : Sha256Digest) (store : DeviceStore) :
    Option (Sha256Digest × DeviceAuthorization) :=
  match store.userToDevice[userCode]? with
  | none => none
  | some device => store.byDevice[device]?.map fun found => (device,found)

def findByUserCode (userCode : Sha256Digest) (now : Instant) (store : DeviceStore) :
    Result DeviceAuthorization :=
  match store.byUserCode userCode with
  | none => .error (.plain .notFound)
  | some (_,found) =>
    if found.expiredAt now ∨ found.status ≠ .pending then .error (.plain .notFound) else .ok found

def approve (userCode : Sha256Digest) (authenticated : AuthenticatedSession) (now : Instant)
    (store : DeviceStore) : Result DeviceAuthorization × DeviceStore :=
  match store.byUserCode userCode with
  | none => (.error (.plain .notFound),store)
  | some (device,found) =>
    match found.approve authenticated now with
    | .error e => (.error e,store)
    | .ok value => (.ok value,{ store with byDevice := store.byDevice.insert device value })

def deny (userCode : Sha256Digest) (now : Instant) (store : DeviceStore) : Result Unit × DeviceStore :=
  match store.byUserCode userCode with
  | none => (.error (.plain .notFound),store)
  | some (device,found) =>
    match found.deny now with
    | .error e => (.error e,store)
    | .ok value => (.ok (),{ store with byDevice := store.byDevice.insert device value })

def poll (deviceCode : Sha256Digest) (expectedClient : ClientId) (now : Instant) (store : DeviceStore) :
    Result DevicePollResult × DeviceStore :=
  match store.byDevice[deviceCode]? with
  | none => (.error (.plain .notFound),store)
  | some value =>
    if value.clientId ≠ expectedClient then
      (fail .authenticationFailed "The device code is not bound to this client.",store)
    else if value.expiredAt now then (.ok ⟨.expired,none,value.pollInterval⟩,store)
    else if value.status = .denied then (.ok ⟨.denied,none,value.pollInterval⟩,store)
    else if value.status = .consumed then
      (fail .authenticationFailed "The device code has already been consumed.",store)
    else if value.lastPollAt.any (fun last => now < last+value.pollInterval) then
      match value.slowDown now with
      | .error e => (.error e,store)
      | .ok slowed => (.ok ⟨.slowDown,none,slowed.pollInterval⟩,
          { store with byDevice := store.byDevice.insert deviceCode slowed })
    else if value.status = .approved then
      match value.consume now with
      | .error e => (.error e,store)
      | .ok consumed => (.ok ⟨.approved,some consumed,consumed.pollInterval⟩,
          { store with byDevice := store.byDevice.insert deviceCode consumed })
    else
      match value.markPolled now with
      | .error e => (.error e,store)
      | .ok polled => (.ok ⟨.pending,none,polled.pollInterval⟩,
          { store with byDevice := store.byDevice.insert deviceCode polled })

theorem poll_stored (done : (poll deviceCode expected now store).1 = .ok result)
    (handed : result.authorization = some authorization) : ∃ stored,store.byDevice[deviceCode]? = some stored ∧
      DeviceAuthorization.SameRequest stored authorization := by
  unfold poll at done
  split at done
  · cases done
  · rename_i value stored
    split_ifs at done
    · cases done
      cases handed
    · cases done
      cases handed
    · split at done
      · cases done
      · cases done
        cases handed
    · split at done
      · cases done
      · rename_i consumed used
        cases done
        cases handed
        exact ⟨value,stored,DeviceAuthorization.consume_same used⟩
    · split at done
      · cases done
      · cases done
        cases handed

end DeviceStore

structure ClientRequestSigningKey where
  clientId : ClientId
  keyId : Text
  publicKeyPem : Text
  updatedAt : Instant
  deriving DecidableEq

def ClientRequestSigningKey.create (clientId : ClientId) (keyId publicKeyPem : Text)
    (updatedAt : Instant) : Result ClientRequestSigningKey :=
  if clientId.empty || keyId.isEmpty || keyId.length > 128
      || publicKeyPem.isEmpty || publicKeyPem.length > 16*1024 then
    fail .invalidArgument "The JAR signing key registration is invalid."
  else .ok ⟨clientId,keyId,publicKeyPem,updatedAt⟩

theorem ClientRequestSigningKey.create_client {clientId : ClientId} {keyId publicKeyPem : Text}
    {updatedAt : Instant} (done : create clientId keyId publicKeyPem updatedAt = .ok key) : key.clientId = clientId := by
  unfold create at done
  split_ifs at done
  cases done
  rfl

abbrev JarKeyStore := Map ClientId ClientRequestSigningKey

structure JarReplay where
  clientId : ClientId
  jwtId : Text
  expiresAt : Instant
  deriving DecidableEq

def consumeJarReplay (clientId : ClientId) (jwtId : Text) (expiresAt now : Instant)
    (replays : List JarReplay) : Result Unit × List JarReplay :=
  let live := replays.filter fun replay => now < replay.expiresAt
  if live.any fun replay => replay.clientId = clientId && replay.jwtId == jwtId then
    (fail .authenticationFailed "The JAR request object was replayed.",replays)
  else (.ok (),⟨clientId,jwtId,expiresAt⟩ :: live)

end OpenProof.Authorizations
