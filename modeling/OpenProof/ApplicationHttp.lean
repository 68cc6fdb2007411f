import OpenProof.OAuthHttp

namespace OpenProof.ApplicationHttp
open Foundation World Services AtomicPrograms.Prog Identities
open Applications
open Clients Resources
open Http OAuthHttp

variable (d : Deployment)

-- `ApplicationManagementHttpApi`, serving one organization.
def kMaximumBody : Nat := 32*1024

def redirectTo (location : Text) : HttpResponse := redirect location 303

def jsonResponse (status : Nat) (body : Json) : HttpResponse :=
  secure (withType status "application/json" (.json body))

def errorResponse (request : HttpRequest) (failure : Error) : HttpResponse :=
  let response := secure (withType (errorHttpStatus failure.code) "application/json"
    (.json (toClientJson failure request.correlation)))
  if failure.code = .authenticationRequired then response.setHeader "www-authenticate" "Bearer"
  else response

def orError (request : HttpRequest) (p : Call α) : Handler α := p.mapError (errorResponse request)

def invalidRequest : Error := .because .invalidArgument "The management request is invalid."

def jsonBody (type : Text) : Bool :=
  type == Text.of "application/json" || (Text.of "application/json;").isPrefixOf type

def parseObject (request : HttpRequest) : Result JsonObject :=
  if request.body.isEmpty || request.body.length > kMaximumBody then .error invalidRequest
  else if !(request.header "content-type").any jsonBody then .error invalidRequest
  else match d.parseJson request.body with
    | some (.object fields) => .ok fields
    | _ => .error invalidRequest

def validText (value : Text) (maximum : Nat) : Bool :=
  !value.isEmpty && value.length ≤ maximum && !value.any isControl

def requiredString (object : JsonObject) (key : Text) (maximum : Nat) : Result Text :=
  match jsonString object key with
  | none => .error invalidRequest
  | some value => if validText value maximum then .ok value else .error invalidRequest

def requiredMultilineString (object : JsonObject) (key : Text) (maximum : Nat) : Result Text :=
  match jsonString object key with
  | none => .error invalidRequest
  | some value =>
    if value.isEmpty || value.length > maximum
        || value.any fun byte => (byte < 0x20 && byte != ch '\n' && byte != ch '\r') || byte == 0x7F then
      .error invalidRequest
    else .ok value

def stringItem (maximumLength : Nat) : Json → Result Text
  | .string value => if validText value maximumLength then .ok value else .error invalidRequest
  | _ => .error invalidRequest

def requiredStrings (object : JsonObject) (key : Text) (maximumItems maximumLength : Nat)
    (allowEmpty : Bool) : Result (List Text) :=
  match JsonObject.find object key with
  | some (.array items) =>
    if (!allowEmpty && items.isEmpty) || items.length > maximumItems then .error invalidRequest
    else items.mapM (stringItem maximumLength)
  | _ => .error invalidRequest

def onlyFields (object : JsonObject) (allowed : List Text) : Bool :=
  object.all fun field => allowed.contains field.1

def environment (value : Text) : Result Environment :=
  if value == Text.of "development" then .ok .development
  else if value == Text.of "staging" then .ok .staging
  else if value == Text.of "production" then .ok .production
  else fail .invalidArgument "The application environment is invalid."

def clientKind (value : Text) : Result ClientKind :=
  if value == Text.of "web" then .ok .web
  else if value == Text.of "native" then .ok .native
  else if value == Text.of "browser" then .ok .browser
  else if value == Text.of "service" then .ok .service
  else fail .invalidArgument "The client kind is invalid."

def queryParameter (target expected : Text) : Option Text :=
  match (splitAt (ch '?') target).2 with
  | none => none
  | some query =>
    let start := expected ++ "="
    if !start.isPrefixOf query || query.contains (ch '&') then none
    else
      let value := query.drop start.length
      if !validText value 256 || value.contains (ch '%') || value.contains (ch '+') then none
      else some value

def texts (values : List Text) : Json := .array (values.map .string)

def applicationJson (value : Application) : Json :=
  .object [textField "id" value.id.value,textField "identifier" value.identifier,
    textField "name" value.displayName,textField "environment" (environmentName value.environment),
    textField "status" (applicationStatusName value.status)]

def clientFields (value : Client) : JsonObject :=
  [textField "id" value.id.value,textField "application_id" value.applicationId.value,
    textField "name" value.displayName,textField "kind" (clientKindName value.kind),
    textField "status" (clientStatusName value.status),
    (Text.of "redirect_uris",texts (value.redirectUris.map RedirectUri.value)),
    (Text.of "scopes",texts (value.scopes.map Scope.value))]

def clientJson (value : Client) : Json := .object (clientFields value)

def resourceStatusName : ResourceStatus → Text
  | .active => "active"
  | .suspended => "suspended"
  | .revoked => "revoked"

def resourceJson (value : ResourceServer) : Json :=
  .object [textField "id" value.id.value,textField "audience" value.audience,
    textField "name" value.displayName,textField "status" (resourceStatusName value.status),
    (Text.of "scopes",texts value.scopes.items)]

def serviceIdentityJson (value : ServiceIdentity) : Json :=
  .object [textField "identity_id" value.identity.value,textField "client_id" value.client.value,
    (Text.of "active",.bool value.active),(Text.of "audiences",texts value.audiences.items),
    (Text.of "scopes",texts value.scopes.items)]

-- `gateway::takeSessionCredential`: the credential, and the request without it.
def authenticationRequired : Error := .because .authenticationRequired "Authentication is required."

def bearerCredential (authorization : Text) : Option Text :=
  let start := if (Text.of "Bearer ").isPrefixOf authorization then Text.of "Bearer "
    else if (Text.of "DPoP ").isPrefixOf authorization then Text.of "DPoP " else []
  let credential := authorization.drop start.length
  if start.isEmpty || credential.isEmpty || credential.contains (ch ' ') || credential.contains (ch '\t') then
    none
  else some credential

def isBlank (byte : UInt8) : Bool := byte == ch ' ' || byte == ch '\t'

def trimmed (item : Text) : Text := ((item.dropWhile isBlank).reverse.dropWhile isBlank).reverse

def sessionToken (value : Text) : Bool :=
  !value.isEmpty && value.length ≤ 128 && value.all Authorizations.base64UrlCharacter

def scanCookies (token : Option Text) (retained : List Text) : List Text → Option (Option Text × List Text)
  | [] => some (token,retained)
  | item :: rest =>
    let item := trimmed item
    match splitAt (ch '=') item with
    | (name,some value) =>
      if name == OAuthHttp.kSessionCookie then
        if !sessionToken value || token.isSome then none else scanCookies (some value) retained rest
      else scanCookies token (retained ++ [item]) rest
    | (_,none) => scanCookies token (if item.isEmpty then retained else retained ++ [item]) rest

def joined (items : List Text) : Text :=
  items.foldl (fun rebuilt item => (if rebuilt.isEmpty then rebuilt else rebuilt ++ "; ") ++ item) []

def takeCookie (request : HttpRequest) : Result (Option Text) × HttpRequest :=
  match request.header "cookie" with
  | none => (.ok none,request)
  | some cookie =>
    match scanCookies none [] (cookie.splitOn (ch ';')) with
    | none => (.error authenticationRequired,request.eraseHeader "cookie")
    | some (token,retained) =>
      (.ok token,
        if retained.isEmpty then request.eraseHeader "cookie"
        else request.setHeader "cookie" (joined retained))

def takeSessionCredential (request : HttpRequest) : Result (Option Text) × HttpRequest :=
  match request.header "authorization" with
  | none => takeCookie request
  | some authorization =>
    match bearerCredential authorization with
    | none => (.error authenticationRequired,request.eraseHeader "authorization")
    | some bearer =>
      let (cookie,request) := takeCookie (request.eraseHeader "authorization")
      (match cookie with
        | .error e => .error e
        | .ok (some _) => .error authenticationRequired
        | .ok none => .ok (some bearer),request)

def authorize (organization : OrganizationId) (credential : Result (Option Text)) : Call IdentityId := do
  match ← check credential with
  | none => .fail (.plain .authenticationRequired)
  | some token =>
    let authenticated ← check (← ask (.surrounding (.authenticate token)))
    refuseIf (!meetsAssurance authenticated.assurance .ial2) (.plain .assuranceInsufficient)
    let membership ← check (← ask (.surrounding (.membership organization authenticated.identity)))
    refuseIf (!membership.any fun membership => membership.hasRole ⟨"owner"⟩) (.plain .permissionDenied)
    return authenticated.identity

def consolePage (request : HttpRequest) : Handler HttpResponse := do
  let scriptNonce ← orError request (randomToken 24)
  return ((((withType 200 "text/html; charset=utf-8"
    (.page "OpenProof Admin Console" [scriptNonce])).setHeader "cache-control" "no-store").setHeader
      "x-content-type-options" "nosniff").setHeader "referrer-policy" "no-referrer").setHeader
        "content-security-policy"
        (Text.of "default-src 'none'; style-src 'unsafe-inline'; script-src 'nonce-" ++ scriptNonce
          ++ "'; connect-src 'self'; form-action 'self'; base-uri 'none'; frame-ancestors 'none'")

def notFound (request : HttpRequest) : HttpResponse := errorResponse request (.plain .notFound)
def malformed (request : HttpRequest) : HttpResponse := errorResponse request (.plain .invalidArgument)

def ownedApplication (organization : OrganizationId) (request : HttpRequest) (id : ApplicationId) :
    Handler Application := do
  match ← ask (.application (.findById id)) with
  | none => .fail (notFound request)
  | some found =>
    refuseIf (found.owner != organization) (notFound request)
    return found

def ownedClient (organization : OrganizationId) (request : HttpRequest) (id : ClientId) :
    Handler Client := do
  match ← ask (.client (.findById id)) with
  | none => .fail (notFound request)
  | some found =>
    let _ ← ownedApplication organization request found.applicationId
    return found

def fieldsOf (request : HttpRequest) (allowed : List Text) : Except HttpResponse JsonObject :=
  match parseObject d request with
  | .error e => .error (errorResponse request e)
  | .ok body => if !onlyFields body allowed then .error (malformed request) else .ok body

def orMalformed (request : HttpRequest) (field : Result α) : Except HttpResponse α :=
  field.mapError fun _ => malformed request

def namedClient (request : HttpRequest) : Except HttpResponse ClientId := do
  let body ← fieldsOf d request [Text.of "client_id"]
  let id ← (requiredString body "client_id" 256).mapError (errorResponse request)
  return ⟨id⟩

def listApplications (organization : OrganizationId) : Handler HttpResponse := do
  let applications ← ask (.application .list)
  return jsonResponse 200 (.object [(Text.of "applications",
    .array ((applications.filter fun value => value.owner == organization).map applicationJson))])

def createApplication (organization : OrganizationId) (request : HttpRequest) : Handler HttpResponse := do
  let body ← check (fieldsOf d request [Text.of "identifier",Text.of "name",Text.of "environment"])
  let identifier ← check (orMalformed request (requiredString body "identifier" 64))
  let name ← check (orMalformed request (requiredString body "name" 120))
  let environmentText ← check (orMalformed request (requiredString body "environment" 32))
  let parsedEnvironment ← orError request (check (environment environmentText))
  let created ← orError request
    (ApplicationRegistry.registerApplication organization identifier name parsedEnvironment)
  return jsonResponse 201 (applicationJson created)

def applicationChange (action : Text) : Option (ApplicationId → Call Application) :=
  if action == Text.of "suspend" then some ApplicationRegistry.suspend
  else if action == Text.of "activate" then some ApplicationRegistry.activate
  else if action == Text.of "revoke" then some ApplicationRegistry.revoke
  else none

def changeApplication (organization : OrganizationId) (request : HttpRequest) (action : Text) :
    Handler HttpResponse :=
  match applicationChange action with
  | none => .fail (notFound request)
  | some change => do
    let body ← check (fieldsOf d request [Text.of "application_id"])
    let id ← orError request (check (requiredString body "application_id" 256))
    let _ ← ownedApplication organization request ⟨id⟩
    let changed ← orError request (change ⟨id⟩)
    return jsonResponse 200 (applicationJson changed)

def listClients (organization : OrganizationId) (request : HttpRequest) : Handler HttpResponse :=
  match queryParameter request.target "application_id" with
  | none => .fail (malformed request)
  | some applicationIdText => do
    let _ ← ownedApplication organization request ⟨applicationIdText⟩
    let clients ← ask (.client (.clientsOf ⟨applicationIdText⟩))
    return jsonResponse 200 (.object [(Text.of "clients",.array (clients.map clientJson))])

def createClient (organization : OrganizationId) (request : HttpRequest) : Handler HttpResponse := do
  let body ← check (fieldsOf d request [Text.of "application_id",Text.of "name",Text.of "kind",
    Text.of "redirect_uris",Text.of "scopes"])
  let applicationIdText ← check (orMalformed request (requiredString body "application_id" 256))
  let name ← check (orMalformed request (requiredString body "name" 120))
  let kindText ← check (orMalformed request (requiredString body "kind" 32))
  let redirects ← check (orMalformed request (requiredStrings body "redirect_uris" 32 2048 true))
  let scopes ← check (orMalformed request (requiredStrings body "scopes" 64 128 false))
  let _ ← ownedApplication organization request ⟨applicationIdText⟩
  let kind ← orError request (check (clientKind kindText))
  let registration ← orError request
    (ClientManager.registerClient d ⟨applicationIdText⟩ name kind redirects scopes)
  return jsonResponse 201 (.object (clientFields registration.client
    ++ (registration.secret.map (textField "client_secret")).toList
    ++ [(Text.of "client_secret_returned_once",.bool registration.secret.isSome)]))

def rotateClientSecret (organization : OrganizationId) (request : HttpRequest) : Handler HttpResponse := do
  let id ← check (namedClient d request)
  let _ ← ownedClient organization request id
  let secret ← orError request (ClientManager.rotateSecret d id)
  return jsonResponse 200 (.object [textField "client_id" id.value,textField "client_secret" secret,
    (Text.of "client_secret_returned_once",.bool true)])

def jarKey (organization : OrganizationId) (request : HttpRequest) : Handler HttpResponse :=
  match queryParameter request.target "client_id" with
  | none => .fail (malformed request)
  | some clientIdText => do
    let _ ← ownedClient organization request ⟨clientIdText⟩
    let key ← orError request (JarService.key ⟨clientIdText⟩)
    return jsonResponse 200 (.object [textField "client_id" clientIdText,textField "key_id" key.keyId,
      textField "public_key_pem" key.publicKeyPem])

def registerJarKey (organization : OrganizationId) (request : HttpRequest) : Handler HttpResponse := do
  let body ← check (fieldsOf d request [Text.of "client_id",Text.of "key_id",Text.of "public_key_pem"])
  let clientIdText ← check (orMalformed request (requiredString body "client_id" 256))
  let keyId ← check (orMalformed request (requiredString body "key_id" 128))
  let publicKeyPem ← check (orMalformed request (requiredMultilineString body "public_key_pem" (16*1024)))
  let _ ← ownedClient organization request ⟨clientIdText⟩
  orError request (JarService.registerKey d ⟨clientIdText⟩ keyId publicKeyPem)
  return jsonResponse 200 (.object [textField "client_id" clientIdText,(Text.of "registered",.bool true)])

def removeJarKey (organization : OrganizationId) (request : HttpRequest) : Handler HttpResponse :=
  match queryParameter request.target "client_id" with
  | none => .fail (malformed request)
  | some clientIdText => do
    let _ ← ownedClient organization request ⟨clientIdText⟩
    orError request (JarService.removeKey ⟨clientIdText⟩)
    return .plain 204

def clientChange (action : Text) : Option (ClientId → Call Client) :=
  if action == Text.of "suspend" then some ClientManager.suspend
  else if action == Text.of "activate" then some ClientManager.activate
  else if action == Text.of "revoke" then some ClientManager.revoke
  else none

def changeClient (organization : OrganizationId) (request : HttpRequest) (action : Text) :
    Handler HttpResponse :=
  match clientChange action with
  | none => .fail (notFound request)
  | some change => do
    let id ← check (namedClient d request)
    let _ ← ownedClient organization request id
    let changed ← orError request (change id)
    return jsonResponse 200 (clientJson changed)

def listResources (request : HttpRequest) : Handler HttpResponse := do
  let values ← orError request ResourceRegistry.list
  return jsonResponse 200 (.object [(Text.of "resources",.array (values.map resourceJson))])

def createResource (request : HttpRequest) : Handler HttpResponse := do
  let body ← check (fieldsOf d request [Text.of "audience",Text.of "name",Text.of "scopes"])
  let audience ← check (orMalformed request (requiredString body "audience" 2048))
  let name ← check (orMalformed request (requiredString body "name" 120))
  let scopes ← check (orMalformed request (requiredStrings body "scopes" 256 128 false))
  let created ← orError request (ResourceRegistry.registerResource audience name scopes)
  return jsonResponse 201 (resourceJson created)

def resourceChange (action : Text) : Option ResourceStatus :=
  if action == Text.of "activate" then some .active
  else if action == Text.of "suspend" then some .suspended
  else if action == Text.of "revoke" then some .revoked
  else none

def changeResource (request : HttpRequest) (action : Text) : Handler HttpResponse :=
  match resourceChange action with
  | none => .fail (notFound request)
  | some status => do
    let body ← check (fieldsOf d request [Text.of "audience"])
    let audience ← orError request (check (requiredString body "audience" 2048))
    let changed ← orError request (ResourceRegistry.setStatus audience status)
    return jsonResponse 200 (resourceJson changed)

structure ProvisionBody where
  clientId : ClientId
  audiences : List Text
  scopes : List Text

def provisionBody (request : HttpRequest) : Except HttpResponse ProvisionBody := do
  let body ← fieldsOf d request [Text.of "client_id",Text.of "audiences",Text.of "scopes"]
  let id ← orMalformed request (requiredString body "client_id" 256)
  let audiences ← orMalformed request (requiredStrings body "audiences" 64 2048 false)
  let scopes ← orMalformed request (requiredStrings body "scopes" 256 128 false)
  return ⟨⟨id⟩,audiences,scopes⟩

def provisionServiceIdentity (request : HttpRequest) : Handler HttpResponse := do
  let body ← check (provisionBody d request)
  let created ← orError request (ServiceIdentityService.provision d body.clientId body.audiences body.scopes)
  return jsonResponse 201 (serviceIdentityJson created)

def serviceIdentity (request : HttpRequest) : Handler HttpResponse :=
  match queryParameter request.target "client_id" with
  | none => .fail (malformed request)
  | some clientId => do
    let found ← orError request (ServiceIdentityService.find ⟨clientId⟩)
    return jsonResponse 200 (serviceIdentityJson found)

def changeServiceIdentity (request : HttpRequest) (active : Bool) : Handler HttpResponse := do
  let id ← check (namedClient d request)
  let changed ← orError request (ServiceIdentityService.setActive id active)
  return jsonResponse 200 (serviceIdentityJson changed)

def managed (path : Text) : Bool :=
  path == Text.of "/admin/console" || path == Text.of "/admin/applications"
    || (Text.of "/admin/applications/").isPrefixOf path || path == Text.of "/admin/clients"
    || (Text.of "/admin/clients/").isPrefixOf path || path == Text.of "/admin/resources"
    || (Text.of "/admin/resources/").isPrefixOf path || path == Text.of "/admin/service-identities"
    || (Text.of "/admin/service-identities/").isPrefixOf path

def action (start path : Text) : Option Text :=
  if start.isPrefixOf path then some (path.drop start.length) else none

inductive Endpoint where
  | consolePage
  | listApplications
  | createApplication
  | changeApplication (action : Text)
  | listClients
  | createClient
  | rotateClientSecret
  | jarKey
  | registerJarKey
  | removeJarKey
  | changeClient (action : Text)
  | listResources
  | createResource
  | changeResource (action : Text)
  | provisionServiceIdentity
  | serviceIdentity
  | changeServiceIdentity (active : Bool)
  | none
  deriving DecidableEq

def endpoint (method : HttpMethod) (path : Text) : Endpoint :=
  match method with
  | .get =>
    if path == Text.of "/admin/console" then .consolePage
    else if path == Text.of "/admin/applications" then .listApplications
    else if path == Text.of "/admin/clients" then .listClients
    else if path == Text.of "/admin/clients/jar-key" then .jarKey
    else if path == Text.of "/admin/resources" then .listResources
    else if path == Text.of "/admin/service-identities" then .serviceIdentity
    else .none
  | .post =>
    if path == Text.of "/admin/applications" then .createApplication
    else match action "/admin/applications/" path with
    | some change => .changeApplication change
    | Option.none =>
      if path == Text.of "/admin/clients" then .createClient
      else if path == Text.of "/admin/clients/rotate-secret" then .rotateClientSecret
      else if path == Text.of "/admin/clients/jar-key" then .registerJarKey
      else match action "/admin/clients/" path with
      | some change => .changeClient change
      | Option.none =>
        if path == Text.of "/admin/resources" then .createResource
        else match action "/admin/resources/" path with
        | some change => .changeResource change
        | Option.none =>
          if path == Text.of "/admin/service-identities" then .provisionServiceIdentity
          else if path == Text.of "/admin/service-identities/activate" then .changeServiceIdentity true
          else if path == Text.of "/admin/service-identities/deactivate" then .changeServiceIdentity false
          else .none
  | .delete => if path == Text.of "/admin/clients/jar-key" then .removeJarKey else .none
  | _ => .none

def serve (organization : OrganizationId) (request : HttpRequest) : Endpoint → Handler HttpResponse
  | .consolePage => consolePage request
  | .listApplications => listApplications organization
  | .createApplication => createApplication d organization request
  | .changeApplication action => changeApplication d organization request action
  | .listClients => listClients organization request
  | .createClient => createClient d organization request
  | .rotateClientSecret => rotateClientSecret d organization request
  | .jarKey => jarKey organization request
  | .registerJarKey => registerJarKey d organization request
  | .removeJarKey => removeJarKey organization request
  | .changeClient action => changeClient d organization request action
  | .listResources => listResources request
  | .createResource => createResource d request
  | .changeResource action => changeResource d request action
  | .provisionServiceIdentity => provisionServiceIdentity d request
  | .serviceIdentity => serviceIdentity request
  | .changeServiceIdentity active => changeServiceIdentity d request active
  | .none => .fail (notFound request)

def clearSession : Text :=
  "__Host-openproof-session=; Path=/; Max-Age=0; Secure; HttpOnly; SameSite=Strict"

def unauthorized (request : HttpRequest) (failure : Error) : HttpResponse :=
  if request.method = .get ∧ request.path = Text.of "/admin/console" then
    if failure.code = .authenticationRequired ∨ failure.code = .authenticationFailed then
      (redirectTo "/login?return_to=%2Fadmin%2Fconsole").addHeader "set-cookie" clearSession
    else if failure.code = .assuranceInsufficient then redirectTo "/account/security"
    else errorResponse request failure
  else errorResponse request failure

def rateLimited (request : HttpRequest) (key : Text) : Handler Unit := do
  let allowed ← ask (.surrounding (.allow key))
  refuseIf (!allowed) (errorResponse request (.plain .rateLimited))

def manage (organization : OrganizationId) (request : HttpRequest) : Handler HttpResponse := do
  rateLimited request (Text.of "idp-admin-ip:" ++ request.remoteAddress)
  let taken := takeSessionCredential request
  let actor ← (authorize organization taken.1).mapError (unauthorized taken.2)
  rateLimited taken.2 (Text.of "idp-admin-identity:" ++ actor.value)
  serve d organization taken.2 (endpoint taken.2.method taken.2.path)

def handle (organization : OrganizationId) (fallback : HttpRequest → Handler HttpResponse)
    (request : HttpRequest) : Handler HttpResponse :=
  if managed request.path then manage d organization request else fallback request

end OpenProof.ApplicationHttp
