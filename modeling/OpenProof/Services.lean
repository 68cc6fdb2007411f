import OpenProof.World

namespace OpenProof.Services
open Foundation World AtomicPrograms.Prog Identities Applications
open Clients Resources Consents
open Authorizations Http

-- What a process is started with: its keys and lifetimes, and the libraries it
-- calls for hashing, signatures and JSON.
structure Deployment where
  organization : OrganizationId
  issuer : Text
  clientSecretKey : Text
  codeKey : Text
  deviceKey : Text
  tokenKey : Text
  codeLifetime : Duration
  pushedLifetime : Duration
  deviceLifetime : Duration
  devicePollInterval : Duration
  accessLifetime : Duration
  refreshLifetime : Duration
  hmacSha256 : (key message : Text) → Result Sha256Digest
  sha256 : Text → Result Sha256Digest
  toBase64Url : Sha256Digest → Text
  validateRs256PublicKey : Text → Result Unit
  verifyRs256Jwt : (publicKeyPem compactJwt : Text) → Result (Text × Text)
  parseJson : Text → Option Json

variable (d : Deployment)

namespace ApplicationRegistry

def registerApplication (owner : OrganizationId) (identifier displayName : Text)
    (environment : Environment) : Call Application := do
  let id ← randomToken 24
  let created ← now
  let application ← check (Application.create ⟨id⟩ owner identifier displayName environment created)
  check (← ask (.application (.add application)))
  return application

def require (id : ApplicationId) : Call Application := do
  match ← ask (.application (.findById id)) with
  | none => .fail (.plain .notFound)
  | some application => return application

-- `suspend`, `activate` and `revoke` differ only in the transition they apply.
def transition (change : Application → Instant → Result Application) (id : ApplicationId) :
    Call Application := do
  let application ← require id
  let at_ ← now
  let changed ← check (change application at_)
  check (← ask (.application (.save changed)))
  return changed

def suspend (id : ApplicationId) : Call Application := transition Application.suspend id
def activate (id : ApplicationId) : Call Application := transition Application.activate id
def revoke (id : ApplicationId) : Call Application := transition Application.revoke id

end ApplicationRegistry

structure ClientRegistration where
  client : Client
  secret : Option Text

namespace ClientManager

def digest (secret : Text) : Result ClientSecretDigest :=
  if secret.isEmpty then .error (.plain .authenticationFailed)
  else d.hmacSha256 d.clientSecretKey secret

def generateSecret (kind : ClientKind) : Call (Option Text) :=
  if clientIsPublic kind then return none
  else do
    let generated ← randomToken 32
    return some (Text.of "ops_" ++ generated)

def registerClient (applicationId : ApplicationId) (displayName : Text) (kind : ClientKind)
    (redirectUris scopes : List Text) : Call ClientRegistration := do
  let application ← ask (.application (.findById applicationId))
  refuseIf (!application.any (·.permitsAuthorization))
    (.because .failedPrecondition "The application is unavailable for client registration.")
  let parsedRedirects ← check (redirectUris.mapM (RedirectUri.create · kind))
  let parsedScopes ← check (parseScopes scopes)
  let randomId ← randomToken 24
  let plaintext ← generateSecret kind
  let secretDigest ← check (match plaintext with
    | none => .ok none
    | some secret => (digest d secret).map some)
  let created ← now
  let client ← check (Client.create ⟨Text.of "opc_" ++ randomId⟩ applicationId displayName kind
    parsedRedirects parsedScopes secretDigest created)
  check (← ask (.client (.add client)))
  return ⟨client,plaintext⟩

def require (id : ClientId) : Call Client := do
  match ← ask (.client (.findById id)) with
  | none => .fail (.plain .notFound)
  | some client => return client

def rotateSecret (id : ClientId) : Call Text := do
  let client ← require id
  refuseIf client.isPublic
    (.because .failedPrecondition "Public clients do not have client secrets.")
  let generated ← randomToken 32
  let secret := Text.of "ops_" ++ generated
  let calculated ← check (digest d secret)
  let at_ ← now
  let changed ← check (client.replaceSecret calculated at_)
  check (← ask (.client (.save changed)))
  return secret

def transition (change : Client → Instant → Result Client) (id : ClientId) : Call Client := do
  let client ← require id
  let at_ ← now
  let changed ← check (change client at_)
  check (← ask (.client (.save changed)))
  return changed

def suspend (id : ClientId) : Call Client := transition Client.suspend id
def activate (id : ClientId) : Call Client := transition Client.activate id
def revoke (id : ClientId) : Call Client := transition Client.revoke id

def authenticationError : Error := .because .authenticationFailed "Client authentication failed."

def requireActive (id : ClientId) : Call Client := do
  match ← ask (.client (.findById id)) with
  | none => .fail authenticationError
  | some client =>
    refuseIf (!client.permitsAuthorization) authenticationError
    let application ← ask (.application (.findById client.applicationId))
    refuseIf (!application.any (·.permitsAuthorization)) authenticationError
    return client

theorem looks_requireActive (id : ClientId) : Looks (requireActive id) := by
  refine .bind (looks_ask rfl) fun found => ?_
  cases found with
  | none => trivial
  | some client =>
    refine .bind (.refuseIf _ _ _) fun _ => .bind (looks_ask rfl) fun application => ?_
    exact .bind (.refuseIf _ _ _) fun _ => trivial

def authenticate (id : ClientId) (presentedSecret : Option Text) : Call Client := do
  let client ← requireActive id
  if client.isPublic then
    refuseIf presentedSecret.isSome authenticationError
    return client
  else match presentedSecret,client.secretDigest with
    | some secret,some expected =>
      match digest d secret with
      | .error _ => .fail authenticationError
      | .ok calculated =>
        refuseIf (calculated != expected) authenticationError
        return client
    | _,_ => .fail authenticationError

end ClientManager

namespace ResourceRegistry

def registerResource (audience displayName : Text) (scopes : List Text) : Call ResourceServer := do
  let random ← randomToken 18
  let created ← now
  let resource ← check (ResourceServer.create ⟨Text.of "opr_" ++ random⟩ audience displayName scopes created)
  check (← ask (.resource (.add resource)))
  return resource

def requireActive (audience : Text) : Call ResourceServer := do
  match ← ask (.resource (.findByAudience audience)) with
  | none => .fail (.because .permissionDenied "The requested OAuth resource is unavailable.")
  | some resource =>
    refuseIf (!resource.active) (.because .permissionDenied "The requested OAuth resource is unavailable.")
    return resource

def list : Call (List ResourceServer) := ask (.resource .list)

def setStatus (audience : Text) (status : ResourceStatus) : Call ResourceServer := do
  match ← ask (.resource (.findByAudience audience)) with
  | none => .fail (.plain .notFound)
  | some resource =>
    let at_ ← now
    let changed ← check (resource.setStatus status at_)
    check (← ask (.resource (.save changed)))
    return changed

end ResourceRegistry

namespace ServiceIdentityService

def checkAudiences (scopes : List Text) : List Text → Call Unit
  | [] => return ()
  | audience :: rest => do
    let resource ← ask (.resource (.findByAudience audience))
    refuseIf (!resource.any fun resource => resource.active && resource.permitsScopes scopes)
      (.because .permissionDenied "The service grant exceeds the resource registration.")
    checkAudiences scopes rest

def provision (clientId : ClientId) (audiences scopes : List Text) : Call ServiceIdentity := do
  let registered ← ClientManager.requireActive clientId
  refuseIf (registered.kind != .service)
    (.because .failedPrecondition "Only service clients can own service identities.")
  checkAudiences scopes audiences
  let existing ← ask (.resource (.serviceForClient clientId))
  refuseIf existing.isSome
    (.because .alreadyExists "The service client already has a canonical identity.")
  let random ← randomToken 24
  let identityId : IdentityId := ⟨Text.of "opsi_" ++ random⟩
  let createdAt ← now
  let identity ← check (Identity.create identityId .service createdAt)
  check (← ask (.identity (.add d.organization identity)))
  let grantedAt ← now
  match ServiceIdentity.create identityId clientId audiences scopes grantedAt with
  | .error e =>
    let _ ← ask (.identity (.changeStatus d.organization identityId .deleted))
    .fail e
  | .ok service =>
    match ← ask (.resource (.saveService service)) with
    | .error e =>
      let _ ← ask (.identity (.changeStatus d.organization identityId .deleted))
      .fail e
    | .ok _ => return service

def requireActive (clientId : ClientId) (audience : Text) (scopes : List Text) :
    Call ServiceIdentity := do
  let registered ← ClientManager.requireActive clientId
  refuseIf (registered.kind != .service) ClientManager.authenticationError
  match ← ask (.resource (.serviceForClient clientId)) with
  | none => .fail (.because .permissionDenied "The service identity does not permit the requested grant.")
  | some service =>
    refuseIf (!service.active || !service.permitsAudience audience || !service.permitsScopes scopes)
      (.because .permissionDenied "The service identity does not permit the requested grant.")
    let identity ← ask (.identity (.findById d.organization service.identity))
    refuseIf (!identity.any fun identity => identity.canAuthenticate && identity.kind == .service)
      (.because .permissionDenied "The service identity is inactive.")
    return service

def find (clientId : ClientId) : Call ServiceIdentity := do
  match ← ask (.resource (.serviceForClient clientId)) with
  | none => .fail (.plain .notFound)
  | some service => return service

def setActive (clientId : ClientId) (active : Bool) : Call ServiceIdentity := do
  let service ← find clientId
  let at_ ← now
  let changed := if active then service.activate at_ else service.deactivate at_
  check (← ask (.resource (.saveService changed)))
  return changed

end ServiceIdentityService

namespace ConsentService

def covers (identity : IdentityId) (clientId : ClientId) (audience : Text) (scopes : List Text) :
    Call Bool := do
  let at_ ← now
  let found ← ask (.consent (.findActive identity clientId audience at_))
  return found.any (·.covers scopes)

def grant (identity : IdentityId) (clientId : ClientId) (audience : Text) (scopes : List Text)
    (lifetime : Option Duration) : Call ConsentGrant := do
  refuseIf (lifetime.any (· ≤ 0)) (.plain .invalidArgument)
  let random ← randomToken 18
  let at_ ← now
  let grant ← check (ConsentGrant.create ⟨Text.of "opcns_" ++ random⟩ identity clientId audience scopes
    at_ (lifetime.map (at_ + ·)))
  ask (.consent (.save grant))
  return grant

def list (identity : IdentityId) : Call (List ConsentGrant) := ask (.consent (.list identity))

def revoke (id : ConsentId) (identity : IdentityId) : Call Unit := do
  let at_ ← now
  check (← ask (.consent (.revoke id identity at_)))

end ConsentService

structure AuthorizationGrant where
  code : Text
  redirectUri : Text
  state : Option Text

namespace AuthorizationService

def invalidGrant : Error := .because .authenticationFailed "The authorization grant is invalid."

def digest (code : Text) : Result CodeDigest :=
  if code.isEmpty then .error (.plain .authenticationFailed) else d.hmacSha256 d.codeKey code

def verifierCharacter (byte : UInt8) : Bool :=
  isUpper byte || isLower byte || isDigit byte || byte == ch '-' || byte == ch '.'
    || byte == ch '_' || byte == ch '~'

def challengeForVerifier (verifier : Text) : Result PkceChallenge :=
  if verifier.length < 43 || verifier.length > 128 || !verifier.all verifierCharacter then
    .error invalidGrant
  else match d.sha256 verifier with
    | .error e => .error e
    | .ok digest => PkceChallenge.create (d.toBase64Url digest)

def authorize (authenticated : AuthenticatedSession) (request : AuthorizationRequest) :
    Call AuthorizationGrant := do
  let client ← ClientManager.requireActive request.clientId
  refuseIf (!client.permitsRedirect request.redirectUri || !client.permitsScopes request.scopes)
    (.because .invalidArgument "The authorization request is invalid.")
  let at_ ← now
  refuseIf (request.maximumAuthenticationAge.any fun age => authenticated.authenticatedAt+age ≤ at_)
    (.because .authenticationRequired "Fresh authentication is required.")
  let generated ← randomToken 32
  let rawCode := Text.of "opa_" ++ generated
  let fingerprint ← check (digest d rawCode)
  let code ← check (AuthorizationCode.create fingerprint request.clientId authenticated.identity
    request.redirectUri request.scopes request.codeChallenge request.nonce authenticated.provider
    authenticated.assurance authenticated.strength authenticated.authenticatedAt at_ d.codeLifetime
    request.resource)
  check (← ask (.code (.add code)))
  return ⟨rawCode,request.redirectUri,request.state⟩

def redeem (code : Text) (clientId : ClientId) (redirectUri codeVerifier : Text) :
    Call AuthorizationCode := do
  let _ ← (ClientManager.requireActive clientId).mapError fun _ => invalidGrant
  let expectedChallenge ← (check (challengeForVerifier d codeVerifier)).mapError fun _ => invalidGrant
  let fingerprint ← check (digest d code)
  let at_ ← now
  check (← ask (.code (.consumeBound fingerprint at_ clientId.value redirectUri expectedChallenge.value)))

end AuthorizationService

namespace PushedAuthorizationService

def push (request : AuthorizationRequest) : Call Text := do
  let random ← randomToken 32
  let requestUri := Text.of "urn:ietf:params:oauth:request_uri:opar_" ++ random
  let fingerprint ← check (d.sha256 requestUri)
  let at_ ← now
  let pushed ← check (PushedAuthorizationRequest.create fingerprint request at_ d.pushedLifetime)
  check (← ask (.pushed (.add pushed)))
  return requestUri

def invalidRequest : Error := .because .authenticationFailed "The pushed authorization request is invalid."

def find (requestUri : Text) (expectedClient : ClientId) : Call AuthorizationRequest := do
  let fingerprint ← check (d.sha256 requestUri)
  let at_ ← now
  match ← ask (.pushed (.find fingerprint at_)) with
  | .error _ => .fail invalidRequest
  | .ok found =>
    refuseIf (found.request.clientId != expectedClient) invalidRequest
    return found.request

def consume (requestUri : Text) (expectedClient : ClientId) : Call AuthorizationRequest := do
  let fingerprint ← check (d.sha256 requestUri)
  let at_ ← now
  let consumed ← check (← ask (.pushed (.consume fingerprint expectedClient at_)))
  return consumed.request

end PushedAuthorizationService

structure DeviceAuthorizationGrant where
  deviceCode : Text
  userCode : Text

namespace DeviceAuthorizationService

def alphabet : Text := "BCDFGHJKLMNPQRSTVWXYZ23456789"

def userCodeOf (random : Text) : Text :=
  let symbols := random.map fun byte => alphabet.getD (byte.toNat % alphabet.length) 0
  if symbols.length > 4 then symbols.take 4 ++ [ch '-'] ++ symbols.drop 4 else symbols

def begin_ (clientId : ClientId) (scopes : List Scope) (resource : Option Text) :
    Call DeviceAuthorizationGrant := do
  match ← (ClientManager.requireActive clientId).attempt with
  | .error _ => .fail (.because .permissionDenied "The client cannot request this device grant.")
  | .ok active =>
    refuseIf (!active.permitsScopes scopes)
      (.because .permissionDenied "The client cannot request this device grant.")
    let deviceRandom ← ask (.random 32)
    let userRandom ← ask (.random 8)
    let deviceRandom ← check deviceRandom
    let userCode ← check (userRandom.map userCodeOf)
    let deviceCode := Text.of "opd_" ++ deviceRandom
    let deviceDigest ← check (d.hmacSha256 d.deviceKey deviceCode)
    let userDigest ← check (d.hmacSha256 d.deviceKey userCode)
    let at_ ← now
    let authorization ← check (DeviceAuthorization.create deviceDigest userDigest clientId scopes resource
      at_ d.deviceLifetime d.devicePollInterval)
    check (← ask (.device (.add authorization)))
    return ⟨deviceCode,userCode⟩

def find (userCode : Text) : Call DeviceAuthorization := do
  let digest ← check (d.hmacSha256 d.deviceKey userCode)
  let at_ ← now
  check (← ask (.device (.findByUserCode digest at_)))

def approve (userCode : Text) (authenticated : AuthenticatedSession) : Call DeviceAuthorization := do
  let digest ← check (d.hmacSha256 d.deviceKey userCode)
  let at_ ← now
  check (← ask (.device (.approve digest authenticated at_)))

def deny (userCode : Text) : Call Unit := do
  let digest ← check (d.hmacSha256 d.deviceKey userCode)
  let at_ ← now
  check (← ask (.device (.deny digest at_)))

def poll (deviceCode : Text) (expectedClient : ClientId) : Call DevicePollResult := do
  let digest ← check (d.hmacSha256 d.deviceKey deviceCode)
  let at_ ← now
  check (← ask (.device (.poll digest expectedClient at_)))

end DeviceAuthorizationService

namespace JarService

def registerKey (clientId : ClientId) (keyId publicKeyPem : Text) : Call Unit := do
  check (d.validateRs256PublicKey publicKeyPem)
  let at_ ← now
  let key ← check (ClientRequestSigningKey.create clientId keyId publicKeyPem at_)
  ask (.jar (.save key))

def removeKey (clientId : ClientId) : Call Unit := ask (.jar (.remove clientId))

def key (clientId : ClientId) : Call ClientRequestSigningKey := do
  match ← ask (.jar (.find clientId)) with
  | none => .fail (.because .failedPrecondition "The OAuth client has no registered JAR signing key.")
  | some key => return key

def verify (clientId : ClientId) (compactJwt : Text) : Call (Text × Text) := do
  let registered ← key clientId
  check (d.verifyRs256Jwt registered.publicKeyPem compactJwt)

def consumeReplay (clientId : ClientId) (jwtId : Text) (issuedAt expiresAt : Instant) : Call Unit := do
  let at_ ← now
  refuseIf (jwtId.isEmpty || jwtId.length > 256 || expiresAt ≤ at_ || issuedAt > at_+60000
      || issuedAt < at_-600000 || expiresAt > issuedAt+600000)
    (.because .authenticationFailed "The JAR temporal or replay claims are invalid.")
  check (← ask (.jar (.consume clientId jwtId expiresAt at_)))

end JarService

end OpenProof.Services
