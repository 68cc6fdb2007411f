import OpenProof.CallTraces
import OpenProof.OAuthRuns
import OpenProof.RedirectParameters

namespace OpenProof.AuthorizationResponses
open AtomicPrograms CallTraces Foundation World Services OAuthHttp Authorizations Http RedirectParameters OAuthRuns
open TokenActs AtomicPrograms.Prog Clients Identities

def unixSeconds (instant : Instant) : Int := instant.tdiv 1000

def responseClaims (issuer : Text) (now : Instant) (jwtId : Text) (clientId : ClientId)
    (code state error : Option Text) : JsonObject :=
  [textField "iss" issuer,textField "aud" clientId.value,(Text.of "iat",.int64 (unixSeconds now)),
    (Text.of "exp",.int64 (unixSeconds (now+5*60*1000))),textField "jti" jwtId]
  ++ code.toList.map (textField "code") ++ error.toList.map (textField "error")
  ++ state.toList.map (textField "state")

-- `OpenIdProvider::issueAuthorizationResponse` at one reading of the clock, with what the random
-- generator drew. The signer is handed the claims.
def issueAuthorizationResponse (issuer : Text) (signJwt : JsonObject → Result Text) (now : Instant)
    (drawn : Result Text) (clientId : ClientId) (code state error : Option Text) : Result Text :=
  if clientId.empty || code.isSome == error.isSome then
    fail .invalidArgument "A JARM response requires exactly one result."
  else match drawn with
    | .error e => .error e
    | .ok jwtId => signJwt (responseClaims issuer now jwtId clientId code state error)

abbrev Exchanges := List (Exchange Op Op.Ret)

def Provided (d : Deployment) (signJwt : JsonObject → Result Text) (trace : Exchanges) : Prop :=
  ∀ (clientId : ClientId) (code state error : Option Text) (answer : Result Text),
    (⟨.surrounding (.issueAuthorizationResponse clientId code state error),answer⟩ : Exchange Op Op.Ret) ∈ trace →
      ∃ now drawn,answer = issueAuthorizationResponse d.issuer signJwt now drawn clientId code state error

theorem Provided.mono {d : Deployment} {signJwt : JsonObject → Result Text} (provided : Provided d signJwt later)
    (within : trace ⊆ later) : Provided d signJwt trace :=
  fun clientId code state error answer inside => provided clientId code state error answer (within inside)

-- The issuer and the state of the request, in the clear or inside a signed response.
inductive NamesIssuer (d : Deployment) (signJwt : JsonObject → Result Text) (final : AuthorizationRequest)
    (sent : List (Text × Text)) : Prop where
  | clear (issuer : (Text.of "iss",d.issuer) ∈ sent)
      (state : ∀ value,(Text.of "state",value) ∈ sent ↔ final.state = some value)
  | signed {jwt : Text} {claims : JsonObject} (carried : (Text.of "response",jwt) ∈ sent)
      (signed : signJwt claims = .ok jwt) (issuer : jsonString claims "iss" = some d.issuer)
      (state : jsonString claims "state" = final.state)

structure Spelled (parameters : Parameters) (final : AuthorizationRequest) : Prop where
  redirectUri : required parameters "redirect_uri" 2048 = .ok final.redirectUri
  state : final.state = optional parameters "state"
  responseMode : responseModeOf parameters = .ok final.responseMode

inductive Concerns (d : Deployment) (parameters : Parameters) (trace : Exchanges) : AuthorizationRequest → Prop where
  | front {final : AuthorizationRequest} (alone : optional parameters "request_uri" = none)
      (spelled : Spelled parameters final) : Concerns d parameters trace final
  | pushed {requestUri : Text} {fingerprint : Sha256Digest} {client : ClientId} {at_ : Instant}
      {pushed : PushedAuthorizationRequest} (given : optional parameters "request_uri" = some requestUri)
      (digested : d.sha256 requestUri = .ok fingerprint)
      (consumed : (⟨.pushed (.consume fingerprint client at_),.ok pushed⟩ : Exchange Op Op.Ret) ∈ trace) :
      Concerns d parameters trace pushed.request

theorem Concerns.mono {d : Deployment} (concerns : Concerns d parameters trace final) (within : trace ⊆ later) : Concerns d parameters later final := by
  cases concerns with
  | front alone spelled => exact .front alone spelled
  | pushed given digested consumed => exact .pushed given digested (within consumed)

def location (response : HttpResponse) : Option Text := response.headers[Text.of "location"]?

def sentResponse : Except HttpResponse HttpResponse → HttpResponse
  | .ok response => response
  | .error response => response

def Inward (r : Except HttpResponse HttpResponse) : Prop :=
  ∀ target,location (sentResponse r) = some target → target.head? = some (ch '/')

def Answered (d : Deployment) (signJwt : JsonObject → Result Text) (denied : Bool) (final : AuthorizationRequest)
    (r : Except HttpResponse HttpResponse) : Prop :=
  ∃ target,location (sentResponse r) = some target ∧ final.redirectUri <+: target ∧
    (NamesIssuer d signJwt final (sentBack final.redirectUri target) ↔
      ¬(denied = true ∧ final.responseMode = .query))

section
variable {d : Deployment} {signJwt : JsonObject → Result Text}

theorem location_setHeader (apart : name ≠ Text.of "location") (response : HttpResponse) (value : Text) :
    location (response.setHeader name value) = location response := by
  simp [location,HttpResponse.setHeader,apart]

@[simp] theorem location_secure (response : HttpResponse) : location (secure response) = location response := by
  unfold secure
  rw [location_setHeader (by decide),location_setHeader (by decide),location_setHeader (by decide),
    location_setHeader (by decide)]

@[simp] theorem location_cors (response : HttpResponse) : location (cors response) = location response := by
  unfold cors
  rw [location_setHeader (by decide),location_setHeader (by decide),location_setHeader (by decide),
    location_setHeader (by decide)]

@[simp] theorem location_redirect (target : Text) (status : Nat) : location (redirect target status) = some target := by
  unfold redirect
  rw [location_secure]
  simp [location]

@[simp] theorem location_withType (status : Nat) (type : Text) (body : Body) : location (withType status type body) = none := by
  have apart : Text.of "content-type" ≠ Text.of "location" := by decide
  simp [location,withType,apart]

theorem location_addHeader (apart : name ≠ Text.of "location") (response : HttpResponse) (value : Text) :
    location (response.addHeader name value) = location response := by
  unfold location HttpResponse.addHeader
  split
  · rfl
  · simp [apart]

@[simp] theorem location_clearConsentCookie (response : HttpResponse) :
    location (clearConsentCookie response) = location response := location_addHeader (by decide) response _

theorem unsent_inward (unsent : location response = none) : Inward (.error response) ∧ Inward (.ok response) := by
  constructor
  · intro target sent
    cases unsent.symm.trans sent
  · intro target sent
    cases unsent.symm.trans sent

theorem errorResponse_inward (request : HttpRequest) (e : Error) : Inward (.error (errorResponse request e)) :=
  (unsent_inward (by simp [errorResponse])).1

theorem consentPage_inward (displayName target csrf : Text) (scopes : List Text) :
    Inward (.ok (consentPage displayName target csrf scopes)) := by
  apply (unsent_inward ?_).2
  rw [consentPage,location_addHeader (by decide),location_setHeader (by decide)]
  simp

theorem loginRedirect_inward (target : Text) : Inward (.error (loginRedirect target)) := by
  intro there sent
  simp only [sentResponse,loginRedirect,location_redirect,Option.some.injEq] at sent
  rw [← sent]
  rfl

theorem past_orError {p : Call α} {f : α → Handler HttpResponse} {request : HttpRequest}
    {between : Exchanges → α → Prop} {inner : Exchanges → Except HttpResponse HttpResponse → Prop}
    (first : Yields p between)
    (rest : ∀ done a,between done a → Leaves (f a) fun trace r => Inward r ∨ inner (done ++ trace) r) :
    Leaves ((orError request p).bind f) fun trace r => Inward r ∨ inner trace r := by
  have ways := first.leaves.mapError (g:=errorResponse request)
  refine .bind ways ?_ ?_
  · intro done a ⟨outcome,same,held⟩
    cases outcome with
    | ok value =>
      cases same
      exact rest done a (held a rfl)
    | error e => cases same
  · intro done response ⟨outcome,same,held⟩
    cases outcome with
    | ok value => cases same
    | error e =>
      cases same
      exact .inl (errorResponse_inward request e)

theorem create_spelled {scopes : List Clients.Scope}
    (done : AuthorizationRequest.create clientId redirectUri scopes challenge state nonce age resource mode = .ok final) :
    final.redirectUri = redirectUri ∧ final.state = state ∧ final.responseMode = mode := by
  unfold AuthorizationRequest.create at done
  split_ifs at done
  cases done
  exact ⟨rfl,rfl,rfl⟩

theorem required_given {parameters : Parameters} {name : Text} {maximum : Nat} {g : Error → Error} :
    Yields ((check (required parameters name maximum) : Call Text).mapError g) fun _ value =>
      required parameters name maximum = .ok value := .mapError (.checked fun _ given => given)

theorem validated_spelled (parameters : Parameters) :
    Yields (validatedAuthorizationRequest parameters) fun _ => Spelled parameters := by
  refine .bind .any fun _ _ _ => .bind .any fun _ _ _ => ?_
  refine .bind required_given fun _ redirectUri given => ?_
  refine .bind .any fun _ _ _ => .bind .any fun _ _ _ => .bind .any fun _ _ _ => .refuseIf fun _ => ?_
  refine .bind .any fun _ _ _ => .refuseIf fun _ => .bind .any fun _ _ _ => .refuseIf fun _ => ?_
  refine .bind .any fun _ _ _ => .bind .any fun _ _ _ => .bind .any fun _ _ _ => .check fun mode chosen => ?_
  refine .checked fun final done => ?_
  obtain ⟨uri,state,kept⟩ := create_spelled done
  exact ⟨uri ▸ given,state,kept ▸ chosen⟩

def Asked (parameters : Parameters) (asked : Option Text × AuthorizationRequest) : Prop :=
  optional parameters "request_uri" = asked.1 ∧ (asked.1 = none → Spelled parameters asked.2)

theorem requested_asked (parameters : Parameters) :
    Yields (authorizationRequestOf d parameters) fun _ => Asked parameters := by
  unfold authorizationRequestOf
  split
  · rename_i given
    refine .refuseIf fun _ => .bind .any fun _ _ _ => .bind .any fun _ _ _ => .ret ?_
    exact ⟨given,fun unnamed => by cases unnamed⟩
  · rename_i given
    refine .bind (validated_spelled parameters) fun _ validated spelled => .ret ?_
    exact ⟨given,fun _ => spelled⟩

theorem returned_asked (parameters : Parameters) :
    Yields (returnedRequestOf d parameters) fun _ => Asked parameters := by
  unfold returnedRequestOf
  split
  · rename_i given
    refine .bind .any fun _ _ _ => .refuseIf fun _ => .bind .any fun _ _ _ => .ret ?_
    exact ⟨given,nofun⟩
  · rename_i given
    refine .bind (validated_spelled parameters) fun _ validated spelled => .ret ?_
    exact ⟨given,fun _ => spelled⟩

theorem consumed_concerns (named : Asked parameters asked) :
    Yields (consumePushed d asked.1 asked.2) fun trace final => Concerns d parameters trace final := by
  obtain ⟨requestUri,request⟩ := asked
  obtain ⟨given,spelled⟩ := named
  cases requestUri with
  | none => exact .ret (.front given (spelled rfl))
  | some uri =>
    simp only [consumePushed,PushedAuthorizationService.consume,Prog.bind_eq,Prog.pure_eq]
    refine .check fun fingerprint digested => .ask fun at_ => .ask fun answer => .check fun pushed found => .ret ?_
    subst found
    exact .pushed given digested (List.mem_cons_of_mem _ (List.mem_singleton.mpr rfl))

theorem authorize_grant (authenticated : AuthenticatedSession) (request : AuthorizationRequest) :
    Yields (AuthorizationService.authorize d authenticated request) fun _ grant =>
      grant.redirectUri = request.redirectUri ∧ grant.state = request.state := by
  refine .bind .any fun _ _ _ => .refuseIf fun _ => .bind .any fun _ _ _ => .refuseIf fun _ => ?_
  refine .bind .any fun _ _ _ => .bind .any fun _ _ _ => .bind .any fun _ _ _ => .ask fun _ => .bind .any fun _ _ _ => ?_
  exact .ret ⟨rfl,rfl⟩

theorem claims_named (issuer : Text) (now : Instant) (jwtId : Text) (clientId : ClientId) (code state error : Option Text) :
    jsonString (responseClaims issuer now jwtId clientId code state error) "iss" = some issuer ∧
      jsonString (responseClaims issuer now jwtId clientId code state error) "state" = state := by
  refine ⟨rfl,?_⟩
  cases code with
  | none | some => cases error <;> cases state <;> rfl

theorem signed_names (provided : Provided d signJwt trace)
    (asked : (⟨.surrounding (.issueAuthorizationResponse clientId code final.state error),.ok jwt⟩ : Exchange Op Op.Ret) ∈ trace) :
    NamesIssuer d signJwt final [(Text.of "response",jwt)] := by
  obtain ⟨now,drawn,issued⟩ := provided _ _ _ _ _ asked
  unfold issueAuthorizationResponse at issued
  split at issued
  · cases issued
  · split at issued
    · cases issued
    · obtain ⟨issuer,state⟩ := claims_named d.issuer now _ clientId code final.state error
      exact .signed (List.mem_singleton.mpr rfl) issued.symm issuer state

theorem answered_of (first : Text × Text) (rest : List (Text × Text))
    (sent : location response = some (sending final.redirectUri (first :: rest)))
    (names : NamesIssuer d signJwt final (first :: rest) ↔ ¬(denied = true ∧ final.responseMode = .query)) :
    Answered d signJwt denied final (.ok response) := by
  refine ⟨_,sent,sending_extends _ _,?_⟩
  rw [sentBack_sending]
  exact names

theorem check_ok (answer : Result α) : Yields (check answer : Call α) fun _ a => answer = .ok a :=
  .checked fun _ given => given

variable (signJwt) in
theorem issueCode_answered (request : HttpRequest) (authenticated : AuthenticatedSession) (final : AuthorizationRequest)
    (status : Nat) : Leaves (issueCode d request authenticated final status) fun trace r =>
      Inward r ∨ (Provided d signJwt trace → Answered d signJwt false final r) := by
  have loud : ∀ mode,¬(false = true ∧ final.responseMode = mode) := by simp
  refine past_orError (authorize_grant authenticated final) fun done grant ⟨uri,state⟩ => ?_
  split
  · refine .ask fun answer => past_orError (check_ok answer) fun signing jwt signed => .ret (.inr fun provided => ?_)
    subst signed
    have names : NamesIssuer d signJwt final [(Text.of "response",jwt)] := by
      rw [state] at provided
      exact signed_names provided (List.mem_append_right _ List.mem_cons_self)
    refine answered_of (Text.of "response",jwt) [] ?_ ⟨fun _ => loud _,fun _ => names⟩
    rw [location_redirect,uri]
    rfl
  · refine .ret (.inr fun _ => ?_)
    have code : Text.of "state" ≠ Text.of "code" := by decide
    have issuer : Text.of "state" ≠ Text.of "iss" := by decide
    cases given : grant.state with
    | none =>
      refine answered_of (Text.of "code",grant.code) [(Text.of "iss",d.issuer)] ?_ ⟨fun _ => loud _,fun _ => ?_⟩
      · rw [location_redirect,uri]
        rfl
      · rw [given] at state
        refine .clear (by simp) fun value => ?_
        simp [← state,code,issuer]
    | some value =>
      refine answered_of (Text.of "code",grant.code) [(Text.of "state",value),(Text.of "iss",d.issuer)] ?_ ⟨fun _ => loud _,fun _ => ?_⟩
      · rw [location_redirect,uri]
        rfl
      · rw [given] at state
        refine .clear (by simp) fun other => ?_
        simpa [← state,code,issuer] using eq_comm

theorem refusal_silent (plain : ∀ parameter ∈ sent,parameter.1 = Text.of "error" ∨ parameter.1 = Text.of "state") :
    ¬NamesIssuer d signJwt final sent := by
  intro names
  cases names with
  | clear issuer state =>
    rcases plain _ issuer with error | state
    · exact absurd (show Text.of "iss" = Text.of "error" from error) (by decide)
    · exact absurd (show Text.of "iss" = Text.of "state" from state) (by decide)
  | signed carried =>
    rcases plain _ carried with error | state
    · exact absurd (show Text.of "response" = Text.of "error" from error) (by decide)
    · exact absurd (show Text.of "response" = Text.of "state" from state) (by decide)

variable (signJwt) in
theorem denyConsent_answered (request : HttpRequest) (named : Asked parameters asked) :
    Leaves (denyConsent d request asked.1 asked.2) fun trace r => Inward r ∨ (Provided d signJwt trace →
      ∃ final,Concerns d parameters trace final ∧ Answered d signJwt true final r) := by
  refine past_orError (consumed_concerns named) fun done final concerns => ?_
  split
  · rename_i mode
    refine .ask fun answer => past_orError (check_ok answer) fun signing jwt signed => .ret (.inr fun provided => ?_)
    subst signed
    have names : NamesIssuer d signJwt final [(Text.of "response",jwt)] :=
      signed_names provided (List.mem_append_right _ List.mem_cons_self)
    refine ⟨final,?_,answered_of (Text.of "response",jwt) [] ?_ ⟨fun _ => ?_,fun _ => names⟩⟩
    · exact concerns.mono (List.subset_append_left _ _)
    · rw [location_clearConsentCookie,location_redirect]
      rfl
    · simp [mode]
  · rename_i mode
    have query : final.responseMode = .query := by
      cases found : final.responseMode with
      | query => rfl
      | jwt => exact absurd found mode
    refine .ret (.inr fun _ => ⟨final,concerns.mono (List.subset_append_left _ _),?_⟩)
    cases given : final.state with
    | none =>
      refine answered_of (Text.of "error",Text.of "access_denied") [] ?_ (iff_of_false (refusal_silent ?_) ?_)
      · rw [location_clearConsentCookie,location_redirect]
        rfl
      · simp
      · simp [query]
    | some value =>
      refine answered_of (Text.of "error",Text.of "access_denied") [(Text.of "state",value)] ?_
        (iff_of_false (refusal_silent ?_) ?_)
      · rw [location_clearConsentCookie,location_redirect]
        rfl
      · simp
      · simp [query]

theorem requireSession_inward (request : HttpRequest) (target : Text)
    {inner : Exchanges → Except HttpResponse HttpResponse → Prop}
    (rest : ∀ done authenticated,Leaves (f authenticated) fun trace r => Inward r ∨ inner (done ++ trace) r) :
    Leaves ((requireSession request (loginRedirect target) fun _ => loginRedirect target).bind f) fun trace r =>
      Inward r ∨ inner trace r := by
  unfold requireSession
  split
  · exact .fail (.inl (loginRedirect_inward target))
  · refine .ask fun answer => ?_
    cases answer with
    | error e => exact .fail (.inl (loginRedirect_inward target))
    | ok authenticated => exact rest [⟨_,_⟩] authenticated

theorem authorizeJar_inward (request : HttpRequest) (parameters : Parameters) (requestObject : Text) :
    Leaves (authorizeJar d request parameters requestObject) fun _ r => Inward r ∨ False := by
  refine .refuseIf (fun _ => ?_) (.inl (errorResponse_inward request _))
  refine past_orError .any fun _ clientId _ => past_orError .any fun _ claimed _ => past_orError .any fun _ asked _ => ?_
  refine past_orError .any fun _ requestUri _ => .ret (.inl ?_)
  intro target sent
  simp only [sentResponse,location_redirect,Option.some.injEq] at sent
  rw [← sent]
  rfl

end

inductive Endpoint where
  | authorize
  | consentSubmit

def Endpoint.handler (d : Deployment) : Endpoint → HttpRequest → Handler HttpResponse
  | .authorize => OAuthHttp.authorize d
  | .consentSubmit => OAuthHttp.consentSubmit d

def Endpoint.parameters (request : HttpRequest) : Endpoint → Result Parameters
  | .authorize => queryParameters request
  | .consentSubmit => do
    let form ← formParameters request
    let returnTarget ← required form "return_to" 8192
    parseParameters ((splitAt (ch '?') returnTarget).2.getD [])

def Endpoint.denies (request : HttpRequest) : Endpoint → Bool
  | .authorize => false
  | .consentSubmit =>
    match formParameters request with
    | .ok form => required form "decision" 16 = .ok (Text.of "deny")
    | .error _ => false

section
variable {d : Deployment} {signJwt : JsonObject → Result Text}

def Told (d : Deployment) (signJwt : JsonObject → Result Text) (endpoint : Endpoint) (request : HttpRequest)
    (trace : Exchanges) (r : Except HttpResponse HttpResponse) : Prop :=
  Inward r ∨ (Provided d signJwt trace → ∃ parameters final,endpoint.parameters request = .ok parameters ∧
    Concerns d parameters trace final ∧ Answered d signJwt (endpoint.denies request) final r)

theorem authorize_told (request : HttpRequest) :
    Leaves (authorize d request) (Told d signJwt .authorize request) := by
  refine past_orError (check_ok _) fun _ parameters given => ?_
  split
  · exact (authorizeJar_inward request parameters _).mono fun _ _ => Or.imp_right False.elim
  · refine past_orError (requested_asked parameters) fun _ asked named => ?_
    refine past_orError .any fun _ registered _ => past_orError .any fun _ _ _ => ?_
    refine requireSession_inward request request.target fun _ authenticated => ?_
    refine past_orError .any fun _ covered _ => ?_
    split
    · exact past_orError .any fun _ csrf _ => .ret (.inl (consentPage_inward _ _ _ _))
    · refine past_orError (consumed_concerns named) fun _ final concerns => ?_
      refine (issueCode_answered signJwt request authenticated final 302).mono ?_
      intro trace r way
      refine way.imp_right fun answered provided => ⟨parameters,final,given,concerns.mono ?_,answered (provided.mono ?_)⟩
      · intro exchange inside
        simp [inside]
      · intro exchange inside
        simp [inside]

theorem consentForm_parts (given : consentForm request form = some submitted) :
    required form "return_to" 8192 = .ok submitted.returnTarget ∧
      (submitted.approved = false ↔ required form "decision" 16 = .ok (Text.of "deny")) := by
  simp only [consentForm,Option.bind_eq_bind,Option.bind_eq_some_iff] at given
  obtain ⟨returnTarget,target,_,_,decision,decided,_,_,rest⟩ := given
  split_ifs at rest with refused
  cases rest
  have read : ∀ {name : Text} {maximum : Nat} {value : Text},
      (required form name maximum).toOption = some value → required form name maximum = .ok value := by
    intro name maximum value found
    cases given : required form name maximum with
    | error e => simp [given,Except.toOption] at found
    | ok text => simpa [given,Except.toOption] using found
  refine ⟨read target,?_⟩
  rw [read decided]
  simp only [Except.ok.injEq,beq_eq_false_iff_ne]
  simp only [Bool.or_eq_true,Bool.and_eq_true,bne_iff_ne] at refused
  constructor
  · intro apart
    by_contra other
    exact refused (.inr ⟨apart,other⟩)
  · rintro rfl
    decide

theorem consentSubmit_told (request : HttpRequest) :
    Leaves (consentSubmit d request) (Told d signJwt .consentSubmit request) := by
  refine past_orError (check_ok _) fun _ form posted => ?_
  split
  · exact .fail (.inl (errorResponse_inward request _))
  · rename_i submitted filled
    obtain ⟨target,decided⟩ := consentForm_parts filled
    refine requireSession_inward request submitted.returnTarget fun _ authenticated => ?_
    split
    · exact .fail (.inl (errorResponse_inward request _))
    · rename_i query cut
      refine past_orError (check_ok _) fun _ parameters parsed => ?_
      have given : Endpoint.consentSubmit.parameters request = .ok parameters := by
        simp [Endpoint.parameters,posted,target,cut,parsed,bind,Except.bind]
      refine past_orError (returned_asked parameters) fun _ asked named => ?_
      refine past_orError .any fun _ registered _ => ?_
      split
      · rename_i refused
        have denied : Endpoint.consentSubmit.denies request = true := by
          simp [Endpoint.denies,posted,decided.mp (by simpa using refused)]
        refine (denyConsent_answered signJwt request named).mono ?_
        intro trace r way
        refine way.imp_right fun answered provided => ?_
        obtain ⟨final,concerns,told⟩ := answered (provided.mono (by intro exchange inside; simp [inside]))
        refine ⟨parameters,final,given,concerns.mono ?_,denied ▸ told⟩
        intro exchange inside
        simp [inside]
      · rename_i approved
        have denied : Endpoint.consentSubmit.denies request = false := by
          have other := decided.not.mp (by simpa using approved)
          simp [Endpoint.denies,posted,other]
        refine past_orError .any fun _ _ _ => past_orError .any fun _ _ _ => ?_
        refine past_orError (consumed_concerns named) fun _ final concerns => ?_
        refine .bind (issueCode_answered signJwt request authenticated final 303) ?_ ?_
        · intro done response way
          refine .ret (way.imp (fun inward => ?_) fun answered provided => ?_)
          · intro there sent
            exact inward there (by simpa [sentResponse] using sent)
          · obtain ⟨there,sent,told⟩ := answered (provided.mono (by intro exchange inside; simp [inside]))
            refine ⟨parameters,final,given,concerns.mono (by intro exchange inside; simp [inside]),?_⟩
            rw [denied]
            exact ⟨there,by simpa [sentResponse] using sent,told⟩
        · intro done response way
          refine way.imp_right fun answered provided => ?_
          refine ⟨parameters,final,given,concerns.mono (by intro exchange inside; simp [inside]),?_⟩
          rw [denied]
          exact answered (provided.mono (by intro exchange inside; simp [inside]))

theorem endpoint_told (endpoint : Endpoint) (request : HttpRequest) :
    Leaves (endpoint.handler d request) (Told d signJwt endpoint request) := by
  cases endpoint with
  | authorize => exact authorize_told request
  | consentSubmit => exact consentSubmit_told request

-- A response that leaves this server goes to the redirect URI of the request it answers, and
-- names the issuer and the state unless it is a refusal in the clear.
theorem issuer_named_iff (endpoint : Endpoint) (request : HttpRequest) {trace : Exchanges}
    {r : Except HttpResponse HttpResponse} {target : Text} (way : Trace (endpoint.handler d request) trace r)
    (provided : Provided d signJwt trace) (sent : location (sentResponse r) = some target)
    (outward : target.head? ≠ some (ch '/')) :
    ∃ parameters final,endpoint.parameters request = .ok parameters ∧ Concerns d parameters trace final ∧
      final.redirectUri <+: target ∧ (NamesIssuer d signJwt final (sentBack final.redirectUri target) ↔
        ¬(endpoint.denies request = true ∧ final.responseMode = .query)) := by
  rcases endpoint_told endpoint request trace r way with inward | told
  · exact absurd (inward target sent) outward
  · obtain ⟨parameters,final,given,concerns,there,also,within,named⟩ := told provided
    cases sent.symm.trans also
    exact ⟨parameters,final,given,concerns,within,named⟩

end

def demoDecision (decision : Text) : HttpRequest :=
  demoPost "/oauth/consent" (Text.of
    "return_to=/oauth/authorize?response_type=code%26client_id=web%26redirect_uri=https://shop.example/cb"
    ++ "%26scope=read%26resource=https://api.example%26code_challenge_method=S256%26state=xyz"
    ++ "%26code_challenge=E9Melhoa2OwvFrEMTJguCHaoeK1t8URWbuGJSstw-cM&csrf=c&decision=" ++ decision)

def demoCall (decision : Text) : Handler HttpResponse :=
  Endpoint.consentSubmit.handler demoDeployment (demoDecision decision)

def signs : Exchange Op Op.Ret → Bool
  | ⟨.surrounding (.issueAuthorizationResponse ..),_⟩ => true
  | _ => false

theorem provided_unsigned {d : Deployment} {signJwt : JsonObject → Result Text} (unsigned : trace.any signs = false) : Provided d signJwt trace := by
  intro clientId code state error answer inside
  have absent := List.any_eq_false.mp unsigned _ inside
  exact absurd rfl absent

theorem issuer_named_iff_approved :
    ∃ parameters final,Endpoint.consentSubmit.parameters (demoDecision "approve") = .ok parameters ∧
      Concerns demoDeployment parameters (exchanges exec (demoCall "approve") (demoProcess ["g1","k1"])) final ∧
      final.redirectUri <+: Text.of "https://shop.example/cb?code=opa_k1&state=xyz&iss=https%3A%2F%2Fid.example" ∧
      (NamesIssuer demoDeployment (fun _ => .ok []) final (sentBack final.redirectUri
          "https://shop.example/cb?code=opa_k1&state=xyz&iss=https%3A%2F%2Fid.example") ↔
        ¬(Endpoint.consentSubmit.denies (demoDecision "approve") = true ∧ final.responseMode = .query)) := by
  refine issuer_named_iff .consentSubmit (demoDecision "approve") (run_trace exec (demoCall "approve") (demoProcess ["g1","k1"]))
    (provided_unsigned ?_) ?_ ?_
  · decide +kernel
  · decide +kernel
  · decide

-- A refusal in the clear: the client learns of the error and of its state, not who answers.
theorem refusal_unnamed :
    ¬∀ (d : Deployment) (signJwt : JsonObject → Result Text) (endpoint : Endpoint) (request : HttpRequest)
      (trace : Exchanges) (r : Except HttpResponse HttpResponse) (target : Text),
      Trace (endpoint.handler d request) trace r → Provided d signJwt trace →
      location (sentResponse r) = some target → target.head? ≠ some (ch '/') →
      ∃ parameters final,endpoint.parameters request = .ok parameters ∧ Concerns d parameters trace final ∧
        final.redirectUri <+: target ∧ NamesIssuer d signJwt final (sentBack final.redirectUri target) := by
  intro claimed
  have sent : location (sentResponse ((demoCall "deny").run exec (demoProcess ["g1","k1"])).1) =
      some "https://shop.example/cb?error=access_denied&state=xyz" := by decide +kernel
  obtain ⟨parameters,final,given,concerns,-,named⟩ := claimed demoDeployment (fun _ => .ok []) .consentSubmit
    (demoDecision "deny") _ _ _ (run_trace exec (demoCall "deny") (demoProcess ["g1","k1"]))
    (provided_unsigned (by decide +kernel)) sent (by decide)
  have read : (Endpoint.consentSubmit.parameters (demoDecision "deny")).toOption.any (fun parameters =>
      optional parameters "request_uri" = none ∧
        required parameters "redirect_uri" 2048 = .ok (Text.of "https://shop.example/cb")) = true := by decide +kernel
  rw [given] at read
  obtain ⟨alone,redirectUri⟩ := of_decide_eq_true read
  have uri : final.redirectUri = Text.of "https://shop.example/cb" := by
    cases concerns with
    | front _ spelled => exact Except.ok.inj (spelled.redirectUri.symm.trans redirectUri)
    | pushed pushed => exact absurd (alone.symm.trans pushed) (by simp)
  rw [uri] at named
  exact refusal_silent (by decide) named

end OpenProof.AuthorizationResponses
