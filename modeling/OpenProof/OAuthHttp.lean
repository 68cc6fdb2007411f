import OpenProof.TokenService

namespace OpenProof.OAuthHttp
open AtomicPrograms Foundation World Services AtomicPrograms.Prog Identities
open Clients Consents
open Authorizations Tokens TokenService
open Http

variable (d : Deployment)

-- `OAuthHttpApi`. A handler that leaves early does so with the response it sends.
abbrev Handler (α : Type) := Prog Op Op.Ret HttpResponse α

def kSessionCookie : Text := "__Host-openproof-session"
def kConsentCsrfCookie : Text := "__Host-openproof-consent-csrf"
def kDeviceCsrfCookie : Text := "__Host-openproof-device-csrf"

def errorResponse (request : HttpRequest) (failure : Error) : HttpResponse :=
  cors (secure (withType (errorHttpStatus failure.code) "application/json"
    (.json (toClientJson failure request.correlation))))

def jsonResponse (status : Nat) (fields : JsonObject) : HttpResponse :=
  cors (secure (withType status "application/json" (.json (.object fields))))

def oauthErrorResponse (status : Nat) (code description : Text) : HttpResponse :=
  jsonResponse status (textField "error" code ::
    if description.isEmpty then [] else [textField "error_description" description])

def seconds (duration : Duration) : Json := .int64 (duration / 1000)

-- `if (!result) return response;`
def orReply (p : Call α) (response : HttpResponse) : Handler α := p.mapError fun _ => response
def orError (request : HttpRequest) (p : Call α) : Handler α := p.mapError (errorResponse request)

def audienceMatches (expected : Text) : Option Json → Bool
  | some (.string audience) => audience == expected
  | some (.array values) => values.any fun value => match value with
    | .string audience => audience == expected
    | _ => false
  | _ => false

def requiredClaims : List Text :=
  [Text.of "response_type",Text.of "redirect_uri",Text.of "scope",Text.of "code_challenge",
    Text.of "code_challenge_method"]
def optionalClaims : List Text :=
  [Text.of "state",Text.of "nonce",Text.of "resource",Text.of "response_mode"]

def jarFailure (message : Text) : Error := .because .authenticationFailed message

def jarParameters (clientId : ClientId) (payload : JsonObject) : Result Parameters := do
  let start : Parameters := (∅ : Parameters).insert "client_id" clientId.value
  let claimed ← requiredClaims.foldlM (fun parameters name =>
    match jsonString payload name with
    | none => fail .invalidArgument "The JAR request is missing a required authorization claim."
    | some value => .ok (parameters.insert name value)) start
  let described := optionalClaims.foldl (fun parameters name =>
    match jsonString payload name with
    | none => parameters
    | some value => parameters.insert name value) claimed
  match JsonObject.find payload "max_age" with
  | none => .ok described
  | some (.int64 age) =>
    if age < 0 then fail .invalidArgument "The JAR max_age claim is invalid."
    else .ok (described.insert "max_age" (decimal age))
  | some _ => fail .invalidArgument "The JAR max_age claim is invalid."

def verifiedJarParameters (compactJwt : Text) (expectedClient : ClientId) : Call Parameters := do
  let registeredKey ← JarService.key expectedClient
  let verified ← JarService.verify d expectedClient compactJwt
  match d.parseJson verified.1,d.parseJson verified.2 with
  | some (.object header),some (.object payload) =>
    let type := jsonString header "typ"
    refuseIf (jsonString header "alg" != some (Text.of "RS256")
        || jsonString header "kid" != some registeredKey.keyId
        || type.any fun type => type != Text.of "JWT" && type != Text.of "oauth-authz-req+jwt")
      (jarFailure "The JAR protected header is invalid.")
    match jsonString payload "jti" with
    | none => .fail (jarFailure "The JAR client binding is invalid.")
    | some jwtId =>
      refuseIf (jsonString payload "iss" != some expectedClient.value
          || jsonString payload "client_id" != some expectedClient.value)
        (jarFailure "The JAR client binding is invalid.")
      match audienceMatches d.issuer (JsonObject.find payload "aud"),JsonObject.find payload "iat",JsonObject.find payload "exp" with
      | true,some (.int64 issuedSeconds),some (.int64 expiresSeconds) =>
        refuseIf (issuedSeconds < 0 || expiresSeconds ≤ issuedSeconds)
          (jarFailure "The JAR temporal claims are invalid.")
        let parameters ← check (jarParameters expectedClient payload)
        JarService.consumeReplay expectedClient jwtId (instantFromUnixSeconds issuedSeconds)
          (instantFromUnixSeconds expiresSeconds)
        return parameters
      | _,_,_ => .fail (jarFailure "The JAR audience or temporal claims are invalid.")
  | _,_ => .fail (jarFailure "The JAR request object is malformed.")

def invalidRequest : Error := .because .invalidArgument "The authorization request is invalid."

def maximumAge (parameters : Parameters) : Result (Option Duration) :=
  match optional parameters "max_age" with
  | none => .ok none
  | some value =>
    match unsignedInteger value with
    | .error _ => fail .invalidArgument "max_age is invalid."
    | .ok age =>
      if age > 86400*30 then fail .invalidArgument "max_age is invalid." else .ok (some (age*1000))

def responseModeOf (parameters : Parameters) : Result AuthorizationResponseMode :=
  match optional parameters "response_mode" with
  | none => .ok .query
  | some mode =>
    if mode == Text.of "query.jwt" then .ok .jwt
    else if mode == Text.of "query" then .ok .query
    else fail .invalidArgument "The requested response_mode is unsupported."

def requireResource (resource : Option Text) (scopes : List Scope) (missing unavailable : Error) :
    Call Unit :=
  match resource with
  | none => refuseIf (!(resourceScopeStrings scopes).isEmpty) missing
  | some audience => do
    let registered ← (ResourceRegistry.requireActive audience).mapError fun _ => unavailable
    refuseIf (!registered.permitsScopes (resourceScopeStrings scopes)) unavailable

def validatedAuthorizationRequest (parameters : Parameters) : Call AuthorizationRequest := do
  let responseType ← (check (required parameters "response_type" 32)).mapError fun _ => invalidRequest
  let clientIdText ← (check (required parameters "client_id" 256)).mapError fun _ => invalidRequest
  let redirectUri ← (check (required parameters "redirect_uri" 2048)).mapError fun _ => invalidRequest
  let scopeText ← (check (required parameters "scope" 2048)).mapError fun _ => invalidRequest
  let challengeText ← (check (required parameters "code_challenge" 128)).mapError fun _ => invalidRequest
  let challengeMethod ←
    (check (required parameters "code_challenge_method" 16)).mapError fun _ => invalidRequest
  refuseIf (responseType != Text.of "code" || challengeMethod != Text.of "S256") invalidRequest
  let clientId : ClientId := ⟨clientIdText⟩
  let registered ← (ClientManager.requireActive clientId).mapError fun _ =>
    .because .invalidArgument "The authorization client or redirect URI is invalid."
  refuseIf (!registered.permitsRedirect redirectUri)
    (.because .invalidArgument "The authorization client or redirect URI is invalid.")
  let requestedScopes ← (check (scopes scopeText)).mapError fun _ =>
    .because .permissionDenied "The requested OAuth scopes are not permitted."
  refuseIf (!registered.permitsScopes requestedScopes)
    (.because .permissionDenied "The requested OAuth scopes are not permitted.")
  let challenge ← check (PkceChallenge.create challengeText)
  let maxAge ← check (maximumAge parameters)
  let requestedResource := optional parameters "resource"
  requireResource requestedResource requestedScopes
    (.because .permissionDenied "resource is required for API scopes.")
    (.because .permissionDenied "The requested resource is unavailable.")
  let responseMode ← check (responseModeOf parameters)
  check (AuthorizationRequest.create clientId redirectUri requestedScopes challenge
    (optional parameters "state") (optional parameters "nonce") maxAge requestedResource responseMode)

def requireRegistered (request : AuthorizationRequest) : Call Client := do
  let registered ← (ClientManager.requireActive request.clientId).mapError fun _ => .plain .invalidArgument
  refuseIf (!registered.permitsRedirect request.redirectUri || !registered.permitsScopes request.scopes)
    (.plain .invalidArgument)
  return registered

def requireRequestedResource (request : AuthorizationRequest) : Call Unit :=
  requireResource request.resource request.scopes (.plain .permissionDenied) (.plain .permissionDenied)

def consumePushed (requestUri : Option Text) (request : AuthorizationRequest) : Call AuthorizationRequest :=
  match requestUri with
  | none => .ret request
  | some uri => PushedAuthorizationService.consume d uri request.clientId

def issueCode (request : HttpRequest) (authenticated : AuthenticatedSession)
    (final : AuthorizationRequest) (status : Nat) : Handler HttpResponse := do
  let grant ← orError request (AuthorizationService.authorize d authenticated final)
  if final.responseMode = .jwt then do
    let signed ← ask (.surrounding (.issueAuthorizationResponse final.clientId (some grant.code) grant.state none))
    let responseJwt ← orError request (check signed)
    return redirect (appendRedirectParameter grant.redirectUri "response" responseJwt) status
  else
    let location := appendRedirectParameter grant.redirectUri "code" grant.code
    let location := match grant.state with
      | none => location
      | some state => appendRedirectParameter location "state" state
    return redirect (appendRedirectParameter location "iss" d.issuer) status

def loginRedirect (target : Text) : HttpResponse :=
  redirect (Text.of "/login?return_to=" ++ percentEncode target) 302

def requireSession (request : HttpRequest) (missing : HttpResponse) (refused : Error → HttpResponse) :
    Handler AuthenticatedSession := do
  match cookieValue request kSessionCookie with
  | none => .fail missing
  | some token =>
    let answer ← ask (.surrounding (.authenticate token))
    (check answer : Call AuthenticatedSession).mapError refused

def consentPageCsp : Text :=
  "default-src 'none'; form-action 'self'; base-uri 'none'; frame-ancestors 'none'"

def consentPage (displayName target csrf : Text) (scopes : List Text) : HttpResponse :=
  ((secure (withType 200 "text/html; charset=utf-8"
    (.page "authorize" ([displayName,target,csrf] ++ scopes)))).setHeader
      "content-security-policy" consentPageCsp).addHeader
        "set-cookie" (cookie kConsentCsrfCookie csrf "/" 600)

def authorizeJar (request : HttpRequest) (parameters : Parameters) (requestObject : Text) :
    Handler HttpResponse := do
  refuseIf (parameters.size != 2 || !parameters.holds "client_id")
    (errorResponse request (.plain .invalidArgument))
  let clientIdText ← orError request (check (required parameters "client_id" 256))
  let claimed ← orError request (verifiedJarParameters d requestObject ⟨clientIdText⟩)
  let jarRequest ← orError request (validatedAuthorizationRequest claimed)
  let requestUri ← orError request (PushedAuthorizationService.push d jarRequest)
  return redirect (Text.of "/oauth/authorize?client_id=" ++ percentEncode clientIdText
    ++ "&request_uri=" ++ percentEncode requestUri) 303

def authorizationRequestOf (parameters : Parameters) : Call (Option Text × AuthorizationRequest) :=
  match optional parameters "request_uri" with
  | some requestUri => do
    refuseIf (parameters.size != 2 || !parameters.holds "client_id")
      (.because .invalidArgument "PAR cannot be combined with front-channel request parameters.")
    let clientIdText ← check (required parameters "client_id" 256)
    let found ← PushedAuthorizationService.find d requestUri ⟨clientIdText⟩
    return (some requestUri,found)
  | none => do
    let validated ← validatedAuthorizationRequest parameters
    return (none,validated)

def authorize (request : HttpRequest) : Handler HttpResponse := do
  let parameters ← orError request (check (queryParameters request))
  match optional parameters "request" with
  | some requestObject => authorizeJar d request parameters requestObject
  | none =>
    let (pushedRequestUri,authorizationRequest) ← orError request (authorizationRequestOf d parameters)
    let registered ← orError request (requireRegistered authorizationRequest)
    orError request (requireRequestedResource authorizationRequest)
    let authenticated ← requireSession request (loginRedirect request.target) fun _ =>
      loginRedirect request.target
    let consentScopes := scopeStrings authorizationRequest.scopes
    let covered ← orError request (ConsentService.covers authenticated.identity
      authorizationRequest.clientId
      (consentAudience authorizationRequest.clientId authorizationRequest.resource) consentScopes)
    if !covered then do
      let csrf ← orError request (randomToken 32)
      return consentPage registered.displayName request.target csrf consentScopes
    else do
      let final ← orError request (consumePushed d pushedRequestUri authorizationRequest)
      issueCode d request authenticated final 302

-- As `authorizationRequestOf`, with the checks in another order and without a message.
def returnedRequestOf (parameters : Parameters) : Call (Option Text × AuthorizationRequest) :=
  match optional parameters "request_uri" with
  | some requestUri => do
    let clientIdText ← (check (required parameters "client_id" 256)).mapError fun _ =>
      .plain .invalidArgument
    refuseIf (parameters.size != 2) (.plain .invalidArgument)
    let found ← PushedAuthorizationService.find d requestUri ⟨clientIdText⟩
    return (some requestUri,found)
  | none => do
    let validated ← validatedAuthorizationRequest parameters
    return (none,validated)

def clearConsentCookie (response : HttpResponse) : HttpResponse :=
  response.addHeader "set-cookie" (cookie kConsentCsrfCookie [] "/" 0)

def denyConsent (request : HttpRequest) (pushedRequestUri : Option Text)
    (authorizationRequest : AuthorizationRequest) : Handler HttpResponse := do
  let final ← orError request (consumePushed d pushedRequestUri authorizationRequest)
  if final.responseMode = .jwt then do
    let signed ← ask (.surrounding (.issueAuthorizationResponse authorizationRequest.clientId none
      final.state (some "access_denied")))
    let responseJwt ← orError request (check signed)
    return clearConsentCookie
      (redirect (appendRedirectParameter final.redirectUri "response" responseJwt) 303)
  else
    let location := appendRedirectParameter final.redirectUri "error" "access_denied"
    let location := match final.state with
      | none => location
      | some state => appendRedirectParameter location "state" state
    return clearConsentCookie (redirect location 303)

structure ConsentForm where
  returnTarget : Text
  approved : Bool

def consentForm (request : HttpRequest) (form : Parameters) : Option ConsentForm := do
  let returnTarget ← (required form "return_to" 8192).toOption
  let csrf ← (required form "csrf" 128).toOption
  let decision ← (required form "decision" 16).toOption
  let csrfCookie ← cookieValue request kConsentCsrfCookie
  if !validReturnTarget returnTarget || csrf != csrfCookie
      || (decision != Text.of "approve" && decision != Text.of "deny") then none
  else some ⟨returnTarget,decision == Text.of "approve"⟩

def consentSubmit (request : HttpRequest) : Handler HttpResponse := do
  let form ← orError request (check (formParameters request))
  match consentForm request form with
  | none => .fail (errorResponse request (.plain .authenticationFailed))
  | some submitted =>
    let authenticated ← requireSession request (loginRedirect submitted.returnTarget) fun _ =>
      loginRedirect submitted.returnTarget
    match (splitAt (ch '?') submitted.returnTarget).2 with
    | none => .fail (errorResponse request (.plain .invalidArgument))
    | some query =>
      let parameters ← orError request (check (parseParameters query))
      let (pushedRequestUri,authorizationRequest) ← orError request (returnedRequestOf d parameters)
      let _ ← orError request (requireRegistered authorizationRequest)
      if !submitted.approved then denyConsent d request pushedRequestUri authorizationRequest
      else do
        orError request (requireRequestedResource authorizationRequest)
        let _ ← orError request (ConsentService.grant authenticated.identity
          authorizationRequest.clientId
          (consentAudience authorizationRequest.clientId authorizationRequest.resource)
          (scopeStrings authorizationRequest.scopes) none)
        let final ← orError request (consumePushed d pushedRequestUri authorizationRequest)
        let response ← issueCode d request authenticated final 303
        return clearConsentCookie response

def consentEntries : List ConsentGrant → Call (List Json)
  | [] => return []
  | grant :: rest => do
    let at_ ← now
    let others ← consentEntries rest
    return .object [textField "id" grant.id.value,textField "client_id" grant.client.value,
      textField "audience" grant.audience,textField "scope" (scopeString grant.scopes.items),
      (Text.of "active",.bool (grant.activeAt at_))] :: others

def consents (request : HttpRequest) : Handler HttpResponse := do
  let authenticated ← requireSession request (errorResponse request (.plain .authenticationRequired))
    (errorResponse request)
  let values ← orError request (ConsentService.list authenticated.identity)
  let csrf ← orError request (randomToken 32)
  let entries ← orError request (consentEntries values)
  return (secure (withType 200 "application/json"
    (.json (.object [textField "csrf" csrf,(Text.of "consents",.array entries)])))).addHeader
      "set-cookie" (cookie kConsentCsrfCookie csrf "/" 600)

def revokeForm (request : HttpRequest) (form : Parameters) : Option ConsentId := do
  let id ← (required form "consent_id" 200).toOption
  let csrf ← (required form "csrf" 128).toOption
  let csrfCookie ← cookieValue request kConsentCsrfCookie
  if csrf != csrfCookie then none else some ⟨id⟩

def revokeConsent (request : HttpRequest) : Handler HttpResponse := do
  let authenticated ← requireSession request (errorResponse request (.plain .authenticationRequired))
    (errorResponse request)
  let form ← orError request (check (formParameters request))
  match revokeForm request form with
  | none => .fail (errorResponse request (.plain .authenticationFailed))
  | some id =>
    orError request (ConsentService.revoke id authenticated.identity)
    return clearConsentCookie (secure (.plain 204))

def pushedParameters : List Text :=
  [Text.of "response_type",Text.of "client_id",Text.of "client_secret",Text.of "redirect_uri",
    Text.of "scope",Text.of "code_challenge",Text.of "code_challenge_method",Text.of "state",
    Text.of "nonce",Text.of "max_age",Text.of "resource",Text.of "response_mode",Text.of "request"]

def pushedRequestParameters (form : Parameters) (clientId : ClientId) : Handler Parameters :=
  match optional form "request" with
  | some requestObject => do
    refuseIf (form.size != if (optional form "client_secret").isSome then 3 else 2)
      (oauthErrorResponse 400 "invalid_request"
        "A JAR request object cannot be combined with authorization parameters at PAR.")
    orReply (verifiedJarParameters d requestObject clientId)
      (oauthErrorResponse 400 "invalid_request" "The JAR request object is invalid.")
  | none => return form.erase "client_secret"

def invalidClient : HttpResponse :=
  oauthErrorResponse 401 "invalid_client" "Client authentication failed."

def pushedAuthorization (request : HttpRequest) : Handler HttpResponse := do
  let form ← orReply (check (formParameters request))
    (oauthErrorResponse 400 "invalid_request" "The PAR request is malformed.")
  refuseIf (!form.toList.all fun parameter => pushedParameters.contains parameter.1)
    (oauthErrorResponse 400 "invalid_request" "The PAR request contains an unsupported parameter.")
  let clientIdText ← orReply (check (required form "client_id" 256))
    (oauthErrorResponse 400 "invalid_request" "client_id is required.")
  let clientId : ClientId := ⟨clientIdText⟩
  let _ ← orReply (ClientManager.authenticate d clientId (optional form "client_secret")) invalidClient
  let parameters ← pushedRequestParameters d form clientId
  let authorizationRequest ← orReply (validatedAuthorizationRequest parameters)
    (oauthErrorResponse 400 "invalid_request" "The pushed authorization request is invalid.")
  let requestUri ← orReply (PushedAuthorizationService.push d authorizationRequest)
    (oauthErrorResponse 500 "server_error" "The pushed authorization request could not be stored.")
  return jsonResponse 201 [textField "request_uri" requestUri,(Text.of "expires_in",seconds d.pushedLifetime)]

def deviceAuthorization (request : HttpRequest) : Handler HttpResponse := do
  let form ← orReply (check (formParameters request))
    (oauthErrorResponse 400 "invalid_request" "The device authorization request is malformed.")
  let missing := oauthErrorResponse 400 "invalid_request" "client_id and scope are required."
  let clientIdText ← orReply (check (required form "client_id" 256)) missing
  let scopeText ← orReply (check (required form "scope" 2048)) missing
  let clientId : ClientId := ⟨clientIdText⟩
  let authenticatedClient ←
    orReply (ClientManager.authenticate d clientId (optional form "client_secret")) invalidClient
  let forbidden := oauthErrorResponse 400 "invalid_scope" "The requested scopes are not permitted."
  let requestedScopes ← orReply (check (scopes scopeText)) forbidden
  refuseIf (!authenticatedClient.permitsScopes requestedScopes) forbidden
  let requestedResource := optional form "resource"
  let apiScopes := resourceScopeStrings requestedScopes
  refuseIf (!apiScopes.isEmpty && requestedResource.isNone)
    (oauthErrorResponse 400 "invalid_target" "resource is required for API scopes.")
  orReply (requireResource requestedResource requestedScopes (.plain .permissionDenied)
      (.plain .permissionDenied))
    (oauthErrorResponse 400 "invalid_target" "The requested resource is unavailable.")
  let grant ← orReply (DeviceAuthorizationService.begin_ d clientId requestedScopes requestedResource)
    (oauthErrorResponse 400 "invalid_request" "The device authorization could not be created.")
  let verificationUri := d.issuer ++ "/oauth/device"
  return jsonResponse 200 [textField "device_code" grant.deviceCode,textField "user_code" grant.userCode,
    textField "verification_uri" verificationUri,
    textField "verification_uri_complete"
      (verificationUri ++ "?user_code=" ++ percentEncode grant.userCode),
    (Text.of "expires_in",seconds d.deviceLifetime),(Text.of "interval",seconds d.devicePollInterval)]

def devicePageCsp (styleNonce : Text) : Text :=
  Text.of "default-src 'none'; style-src 'nonce-" ++ styleNonce
    ++ "'; form-action 'self'; base-uri 'none'; frame-ancestors 'none'"

def devicePage (styleNonce template : Text) (values : List Text) : HttpResponse :=
  (secure (withType 200 "text/html; charset=utf-8" (.page template (styleNonce :: values)))).setHeader
    "content-security-policy" (devicePageCsp styleNonce)

def deviceReturn (userCode : Text) : HttpResponse :=
  loginRedirect (Text.of "/oauth/device?user_code=" ++ percentEncode userCode)

def devicePrompt (request : HttpRequest) : Handler HttpResponse := do
  let parameters ← orError request (check (queryParameters request))
  let styleNonce ← orError request (randomToken 18)
  match optional parameters "user_code" with
  | none => return devicePage styleNonce "Connect a device" []
  | some userCode =>
    let authorization ← orReply (DeviceAuthorizationService.find d userCode)
      (errorResponse request (.plain .notFound))
    let _ ← requireSession request (deviceReturn userCode) fun _ => deviceReturn userCode
    let registered ← orError request (ClientManager.requireActive authorization.clientId)
    let csrf ← orError request (randomToken 32)
    return (devicePage styleNonce "Approve device" ([registered.displayName,userCode,csrf]
      ++ authorization.resource.toList ++ scopeStrings authorization.scopes)).addHeader
        "set-cookie" (cookie kDeviceCsrfCookie csrf "/" 600)

structure DeviceForm where
  userCode : Text
  approved : Bool

def deviceForm (request : HttpRequest) (form : Parameters) : Option DeviceForm := do
  let userCode ← (required form "user_code" 64).toOption
  let csrf ← (required form "csrf" 128).toOption
  let decision ← (required form "decision" 16).toOption
  let csrfCookie ← cookieValue request kDeviceCsrfCookie
  if csrf != csrfCookie || (decision != Text.of "approve" && decision != Text.of "deny") then none
  else some ⟨userCode,decision == Text.of "approve"⟩

def rememberApproval (authenticated : AuthenticatedSession) (approved : DeviceAuthorization) :
    Call Unit := do
  let _ ← (ConsentService.grant authenticated.identity approved.clientId
    (consentAudience approved.clientId approved.resource) (scopeStrings approved.scopes) none).attempt
  return ()

def deviceDecision (request : HttpRequest) : Handler HttpResponse := do
  let form ← orError request (check (formParameters request))
  match deviceForm request form with
  | none => .fail (errorResponse request (.plain .authenticationFailed))
  | some submitted =>
    let authenticated ← requireSession request (deviceReturn submitted.userCode) (errorResponse request)
    let styleNonce ← orError request (randomToken 18)
    if submitted.approved then do
      let approved ← orError request
        (DeviceAuthorizationService.approve d submitted.userCode authenticated)
      orError request (rememberApproval authenticated approved)
    else orError request (DeviceAuthorizationService.deny d submitted.userCode)
    return (devicePage styleNonce (if submitted.approved then "Device approved" else "Device denied")
      []).addHeader "set-cookie" (cookie kDeviceCsrfCookie [] "/" 0)

def deviceVerification (request : HttpRequest) : Handler HttpResponse :=
  if request.method = .get then devicePrompt d request else deviceDecision d request

def tokenType (context : TokenContext) : Text :=
  if context.senderConstraint.any fun constraint => constraint.kind = .dpop then "DPoP" else "Bearer"

def serverError : HttpResponse :=
  oauthErrorResponse 500 "server_error" "The authorization server could not complete the request."

def pairFields (grant : TokenGrant) : JsonObject :=
  [textField "access_token" grant.accessToken,textField "token_type" (tokenType grant.context),
    (Text.of "expires_in",seconds grant.expiresIn),textField "refresh_token" grant.refreshToken,
    textField "scope" (scopeString grant.context.scopes.items)]

def deviceCodeGrant (form : Parameters) (clientId : ClientId)
    (senderConstraint : Option SenderConstraint) : Handler HttpResponse := do
  let deviceCode ← orReply (check (required form "device_code" 512))
    (oauthErrorResponse 400 "invalid_request" "device_code is required.")
  let polled ← orReply (DeviceAuthorizationService.poll d deviceCode clientId)
    (oauthErrorResponse 400 "invalid_grant" "The device code is invalid.")
  match polled.disposition with
  | .pending => .fail (oauthErrorResponse 400 "authorization_pending"
      "The user has not completed authorization.")
  | .slowDown => .fail (oauthErrorResponse 400 "slow_down"
      "Polling is faster than the permitted interval.")
  | .denied => .fail (oauthErrorResponse 400 "access_denied" "The user denied authorization.")
  | .expired => .fail (oauthErrorResponse 400 "expired_token" "The device code has expired.")
  | .approved =>
    match polled.authorization with
    | none => .fail (oauthErrorResponse 400 "invalid_grant" "The device grant is invalid.")
    | some authorization =>
      let grant ← orReply (TokenService.issueDeviceAuthorization d authorization senderConstraint)
        serverError
      return jsonResponse 200 (pairFields grant)

-- The signed identity token of a code that was asked for with `openid`.
def idTokenOf (redeemed : AuthorizationCode) : Handler JsonObject :=
  if redeemed.scopes.any fun scope => scope.value == Text.of "openid" then do
    let answer ← ask (.surrounding (.issueIdToken redeemed))
    let idToken ← orReply (check answer) serverError
    return [textField "id_token" idToken]
  else return []

def authorizationCodeGrant (form : Parameters) (clientId : ClientId)
    (senderConstraint : Option SenderConstraint) : Handler HttpResponse := do
  let missing := oauthErrorResponse 400 "invalid_request"
    "code, redirect_uri and code_verifier are required."
  let code ← orReply (check (required form "code" 256)) missing
  let redirectUri ← orReply (check (required form "redirect_uri" 2048)) missing
  let verifier ← orReply (check (required form "code_verifier" 256)) missing
  let redeemed ← orReply (AuthorizationService.redeem d code clientId redirectUri verifier)
    (oauthErrorResponse 400 "invalid_grant" "The authorization grant is invalid or expired.")
  let idToken ← idTokenOf redeemed
  let grant ← orReply (TokenService.issue d redeemed senderConstraint) serverError
  return jsonResponse 200 (pairFields grant ++ idToken)

-- No `scope` parameter asks for nothing in particular.
def requestedScopes (form : Parameters) : Result (List Text) :=
  match optional form "scope" with
  | none => .ok []
  | some requestedScope => (scopes requestedScope).map scopeStrings

def clientCredentialsGrant (form : Parameters) (authenticatedClient : Client) (clientId : ClientId)
    (senderConstraint : Option SenderConstraint) : Handler HttpResponse := do
  refuseIf (authenticatedClient.kind != .service) (oauthErrorResponse 400 "unauthorized_client"
    "Only service clients may use client_credentials.")
  let audience ← orReply (check (required form "resource" 2048))
    (oauthErrorResponse 400 "invalid_target" "resource is required.")
  let requested ← orReply (check (requestedScopes form))
    (oauthErrorResponse 400 "invalid_scope" "scope is invalid.")
  let service ← orReply (ServiceIdentityService.requireActive d clientId audience requested)
    (oauthErrorResponse 400 "invalid_scope" "The service identity does not permit the requested grant.")
  let granted := if requested.isEmpty then service.scopes.items else requested
  let unavailable := oauthErrorResponse 400 "invalid_target" "The requested resource is unavailable."
  let registeredResource ← orReply (ResourceRegistry.requireActive audience) unavailable
  refuseIf (!registeredResource.permitsScopes granted) unavailable
  let grant ← orReply (TokenService.issueClientCredentials d service audience granted senderConstraint)
    serverError
  return jsonResponse 200 [textField "access_token" grant.accessToken,
    textField "token_type" (tokenType grant.context),(Text.of "expires_in",seconds grant.expiresIn),
    textField "scope" (scopeString grant.context.scopes.items)]

def accessTokenType : Text := "urn:ietf:params:oauth:token-type:access_token"

-- Without a `scope` parameter the resource is not asked about scopes.
def tokenExchangeGrant (form : Parameters) (clientId : ClientId)
    (senderConstraint : Option SenderConstraint) : Handler HttpResponse := do
  let unsupported := oauthErrorResponse 400 "invalid_request"
    "A supported subject token and resource are required."
  let subjectToken ← orReply (check (required form "subject_token" 512)) unsupported
  let subjectType ← orReply (check (required form "subject_token_type" 256)) unsupported
  let audience ← orReply (check (required form "resource" 2048)) unsupported
  refuseIf (subjectType != accessTokenType) unsupported
  let registeredResource ← orReply (ResourceRegistry.requireActive audience)
    (oauthErrorResponse 400 "invalid_target" "The requested resource is unavailable.")
  let requested ← orReply (check (requestedScopes form))
    (oauthErrorResponse 400 "invalid_scope" "scope is invalid.")
  refuseIf ((optional form "scope").isSome && !registeredResource.permitsScopes requested)
    (oauthErrorResponse 400 "invalid_scope" "scope is not permitted by the resource.")
  let grant ← orReply
    (TokenService.issueTokenExchange d clientId subjectToken audience requested senderConstraint)
    (oauthErrorResponse 400 "invalid_grant"
      "The token exchange would widen or invalidate the subject grant.")
  return jsonResponse 200 [textField "access_token" grant.accessToken,
    textField "issued_token_type" accessTokenType,textField "token_type" (tokenType grant.context),
    (Text.of "expires_in",seconds grant.expiresIn),
    textField "scope" (scopeString grant.context.scopes.items)]

def refreshTokenGrant (form : Parameters) (clientId : ClientId)
    (senderConstraint : Option SenderConstraint) : Handler HttpResponse := do
  let refresh ← orReply (check (required form "refresh_token" 256))
    (oauthErrorResponse 400 "invalid_request" "refresh_token is required.")
  let grant ← orReply (TokenService.refresh d clientId refresh senderConstraint)
    (oauthErrorResponse 400 "invalid_grant" "The refresh token is invalid or inactive.")
  return jsonResponse 200 (pairFields grant)

def tokenEndpoint (request : HttpRequest) : Handler HttpResponse := do
  let form ← orReply (check (formParameters request))
    (oauthErrorResponse 400 "invalid_request" "The token request is malformed.")
  let missing := oauthErrorResponse 400 "invalid_request" "grant_type and client_id are required."
  let grantType ← orReply (check (required form "grant_type" 64)) missing
  let clientIdText ← orReply (check (required form "client_id" 256)) missing
  let clientId : ClientId := ⟨clientIdText⟩
  let authenticatedClient ←
    orReply (ClientManager.authenticate d clientId (optional form "client_secret")) invalidClient
  let proven ← ask (.surrounding (.tokenEndpointConstraint request))
  let senderConstraint ← orReply (check proven)
    (oauthErrorResponse 400 "invalid_dpop_proof" "The sender-constraining proof is invalid.")
  if grantType == Text.of "urn:ietf:params:oauth:grant-type:device_code" then
    deviceCodeGrant d form clientId senderConstraint
  else if grantType == Text.of "authorization_code" then
    authorizationCodeGrant d form clientId senderConstraint
  else if grantType == Text.of "client_credentials" then
    clientCredentialsGrant d form authenticatedClient clientId senderConstraint
  else if grantType == Text.of "urn:ietf:params:oauth:grant-type:token-exchange" then
    tokenExchangeGrant d form clientId senderConstraint
  else if grantType == Text.of "refresh_token" then
    refreshTokenGrant d form clientId senderConstraint
  else .fail (oauthErrorResponse 400 "unsupported_grant_type"
    "The requested grant type is not supported.")

def introspect (request : HttpRequest) : Handler HttpResponse := do
  let form ← orError request (check (formParameters request))
  let malformed := errorResponse request (.plain .invalidArgument)
  let clientIdText ← orReply (check (required form "client_id" 256)) malformed
  let secretText ← orReply (check (required form "client_secret" 512)) malformed
  let rawToken ← orReply (check (required form "token" 256)) malformed
  let refused := errorResponse request (.plain .authenticationFailed)
  let caller ← orReply (ClientManager.authenticate d ⟨clientIdText⟩ (some secretText)) refused
  refuseIf caller.isPublic refused
  match ← (TokenService.introspect d rawToken).attempt with
  | .error _ => return jsonResponse 200 [(Text.of "active",.bool false)]
  | .ok claims =>
    return jsonResponse 200 [(Text.of "active",.bool true),
      textField "client_id" claims.context.client.value,textField "sub" claims.context.identity.value,
      textField "scope" (scopeString claims.context.scopes.items),
      textField "aud" (scopeString claims.context.audiences.items),
      (Text.of "iat",seconds claims.issuedAt),(Text.of "exp",seconds claims.expiresAt)]

def revoke (request : HttpRequest) : Handler HttpResponse := do
  let form ← orError request (check (formParameters request))
  let malformed := errorResponse request (.plain .invalidArgument)
  let clientIdText ← orReply (check (required form "client_id" 256)) malformed
  let rawToken ← orReply (check (required form "token" 256)) malformed
  let _ ← orError request
    (ClientManager.authenticate d ⟨clientIdText⟩ (optional form "client_secret"))
  orError request (TokenService.revokeForClient d ⟨clientIdText⟩ rawToken)
  return secure (.plain 200)

-- The part of `OAuthHttpApi::handle` that leads to the handlers above. Sign-in, user
-- info and the published documents are served elsewhere.
def endpoint (request : HttpRequest) : Option (Handler HttpResponse) :=
  if request.path == Text.of "/oauth/authorize" && request.method = .get then
    some (authorize d request)
  else if request.path == Text.of "/oauth/consent" && request.method = .post then
    some (consentSubmit d request)
  else if request.path == Text.of "/oauth/consents" && request.method = .get then
    some (consents request)
  else if request.path == Text.of "/oauth/consents/revoke" && request.method = .post then
    some (revokeConsent request)
  else if request.path == Text.of "/oauth/par" && request.method = .post then
    some (pushedAuthorization d request)
  else if request.path == Text.of "/oauth/device_authorization" && request.method = .post then
    some (deviceAuthorization d request)
  else if request.path == Text.of "/oauth/device" && (request.method = .get || request.method = .post) then
    some (deviceVerification d request)
  else if request.path == Text.of "/oauth/token" && request.method = .post then
    some (tokenEndpoint d request)
  else if request.path == Text.of "/oauth/introspect" && request.method = .post then
    some (introspect d request)
  else if request.path == Text.of "/oauth/revoke" && request.method = .post then
    some (revoke d request)
  else none

def rateLimited (request : HttpRequest) (handler : Handler HttpResponse) : Handler HttpResponse := do
  let allowed ← ask (.surrounding (.allow (Text.of "oauth-ip:" ++ request.remoteAddress)))
  refuseIf (!allowed) (errorResponse request (.plain .rateLimited))
  handler

def handle (request : HttpRequest) : Option (Handler HttpResponse) :=
  (endpoint d request).map (rateLimited request)

end OpenProof.OAuthHttp
