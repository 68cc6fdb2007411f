import OpenProof.OAuthCalls
import OpenProof.TokenActs

namespace OpenProof.OAuthRuns
open AtomicPrograms Foundation World Services TokenService OAuthActs OAuthCalls OAuthHttp Identities Applications
open Clients Resources Consents
open Authorizations
open Tokens
open Http OAuthHttp

theorem hushed_requireSession : Hushed (requireSession request missing refused) := by
  unfold requireSession
  split
  · trivial
  · exact .bind (hushed_ask rfl) fun _ => .mapError _ (.check _ _)

theorem hushed_requireRegistered (request : AuthorizationRequest) : Hushed (requireRegistered request) := by
  refine .bind (.mapError _ (Hushed.of (ClientManager.looks_requireActive _))) fun _ => ?_
  exact .bind (.refuseIf _ _ _) fun _ => trivial

theorem hushed_authenticate : Hushed (ClientManager.authenticate d clientId secret) := by
  refine .bind (Hushed.of (ClientManager.looks_requireActive _)) fun client => ?_
  split
  · exact .bind (.refuseIf _ _ _) fun _ => trivial
  · split
    · split
      · trivial
      · exact .bind (.refuseIf _ _ _) fun _ => trivial
    · trivial

theorem hushed_key (clientId : ClientId) : Hushed (JarService.key clientId) := by
  refine .bind (hushed_ask rfl) fun found => ?_
  cases found <;> trivial

theorem hushed_consumeReplay : Hushed (JarService.consumeReplay clientId jwtId issuedAt expiresAt) := by
  refine .bind (Hushed.of looks_now) fun at_ => .bind (.refuseIf _ _ _) fun _ => ?_
  exact .bind (hushed_ask rfl) fun _ => .check _ _

theorem hushed_verifiedJarParameters : Hushed (verifiedJarParameters d compactJwt expected) := by
  refine .bind (hushed_key expected) fun registered => ?_
  refine .bind (.bind (hushed_key expected) fun _ => .check _ _) fun verified => ?_
  split
  · refine .bind (.refuseIf _ _ _) fun _ => ?_
    split
    · trivial
    · refine .bind (.refuseIf _ _ _) fun _ => ?_
      split
      · refine .bind (.refuseIf _ _ _) fun _ => .bind (.check _ _) fun _ => ?_
        exact .bind (hushed_consumeReplay) fun _ => trivial
      · trivial
  · trivial

theorem issueCode_safe (request : HttpRequest) (authenticated : AuthenticatedSession) (status : Nat)
    (cleared : Cleared born authenticated.identity asked final h) :
    Safe (contract admits) born (returns fun _ _ => True) (issueCode d request authenticated final status) h := by
  refine .seq (honest admits) (authorize_safe authenticated cleared).recast fun grant _ _ _ => ?_
  split
  · exact hushed_safe (.bind (hushed_ask rfl) fun _ => .bind (.mapError _ (.check _ _)) fun _ => trivial)
  · exact hushed_safe trivial

theorem authorizeJar_safe (begun : born ≤ h.past.length) (request : HttpRequest) (parameters : Parameters)
    (requestObject : Text) : Safe (contract admits) born (returns fun _ _ => True)
      (authorizeJar d request parameters requestObject) h := by
  refine .refuse_bind fun _ => .recheck_bind fun clientIdText _ => ?_
  refine passing (stable_begun _ born) (.mapError _ (hushed_verifiedJarParameters)) begun
    fun claimed _ begun => ?_
  refine .seq (honest admits) (validatedAuthorizationRequest_safe begun claimed).recast
    fun jarRequest _ _ checked => ?_
  exact .seq (honest admits) (push_safe jarRequest checked).recast fun _ _ _ _ _ _ => trivial

theorem authorizationRequestOf_safe (begun : born ≤ h.past.length) (parameters : Parameters) :
    Safe (contract admits) born (returns fun found later => Known d born found.1 found.2 later)
      (authorizationRequestOf d parameters) h := by
  unfold authorizationRequestOf
  split
  · rename_i requestUri _
    refine .refuse_bind fun _ => .check_bind fun clientIdText _ => ?_
    refine .seq (honest admits) (findPushed_safe begun requestUri _) fun asked _ _ read => ?_
    exact .ret (Known.stable born (some requestUri) asked) read
  · refine .seq (honest admits) (validatedAuthorizationRequest_safe begun parameters) fun asked _ _ _ => ?_
    exact .ret (Known.stable born none asked) trivial

theorem returnedRequestOf_safe (begun : born ≤ h.past.length) (parameters : Parameters) :
    Safe (contract admits) born (returns fun found later => Known d born found.1 found.2 later)
      (returnedRequestOf d parameters) h := by
  unfold returnedRequestOf
  split
  · rename_i requestUri _
    refine .recheck_bind fun clientIdText _ => .refuse_bind fun _ => ?_
    refine .seq (honest admits) (findPushed_safe begun requestUri _) fun asked _ _ read => ?_
    exact .ret (Known.stable born (some requestUri) asked) read
  · refine .seq (honest admits) (validatedAuthorizationRequest_safe begun parameters) fun asked _ _ _ => ?_
    exact .ret (Known.stable born none asked) trivial

theorem consumePushed_cleared (known : Known d born requestUri asked h)
    (consent : Witnessed born (fun w => Consented w identity asked.clientId asked.resource asked.scopes) h)
    (resource : Witnessed born (fun w => Declares w asked.scopes asked.resource) h) :
    Safe (contract admits) born (returns fun final later => Cleared born identity asked final later)
      (consumePushed d requestUri asked) h := by
  refine (consumePushed_safe consent.1 requestUri asked known).grown (honest admits) |>.mono ?_
  rintro (e | final) later ⟨taken,grown⟩
  · trivial
  · exact ⟨taken,grown.keep (Witnessed.stable _ born _) consent,grown.keep (Witnessed.stable _ born _) resource⟩

theorem authorizeEndpoint_safe (begun : born ≤ h.past.length) (request : HttpRequest) :
    Safe (contract admits) born (returns fun _ _ => True) (authorize d request) h := by
  refine .recheck_bind fun parameters _ => ?_
  split
  · exact authorizeJar_safe begun request parameters _
  · refine .seq (honest admits) (authorizationRequestOf_safe begun parameters).recast fun found _ grown known => ?_
    obtain ⟨requestUri,asked⟩ := found
    have begun := grown.length.trans' begun
    have knows : Stable (rely admits) (Known d born requestUri asked) := Known.stable born _ _
    refine passing (knows.and (stable_begun _ born)) (.mapError _ (hushed_requireRegistered asked))
      ⟨known,begun⟩ fun registered _ facts => ?_
    refine .seq (honest admits) (requireResource_safe facts.2 _ _ _ _).recast fun _ _ grown declared => ?_
    have stable := knows.and (Witnessed.stable (rely admits) born fun w => Declares w asked.scopes asked.resource)
    refine passing stable (hushed_requireSession) ⟨grown.keep knows facts.1,declared⟩
      fun authenticated _ facts => ?_
    refine .seq (honest admits) (covers_safe facts.2.1 _ _ _ _).recast fun covered _ grown consent => ?_
    have facts := grown.keep stable facts
    split
    · exact hushed_safe (.bind (.mapError _ (Hushed.of (looks_randomToken 32))) fun _ => trivial)
    · rename_i covers
      have consent := (consent (by simpa using covers)).mono fun w => consented_of
      exact .seq (honest admits) (consumePushed_cleared facts.1 consent facts.2).recast
        fun final _ _ cleared => issueCode_safe request authenticated 302 cleared

theorem denyConsent_safe (begun : born ≤ h.past.length) (request : HttpRequest) (requestUri : Option Text)
    (asked : AuthorizationRequest) (known : Known d born requestUri asked h) :
    Safe (contract admits) born (returns fun _ _ => True) (denyConsent d request requestUri asked) h := by
  refine .seq (honest admits) (consumePushed_safe begun requestUri asked known).recast fun final _ _ _ => ?_
  split
  · exact hushed_safe (.bind (hushed_ask rfl) fun _ => .bind (.mapError _ (.check _ _)) fun _ => trivial)
  · exact hushed_safe trivial

theorem consentSubmit_safe (begun : born ≤ h.past.length) (request : HttpRequest) :
    Safe (contract admits) born (returns fun _ _ => True) (consentSubmit d request) h := by
  refine .recheck_bind fun form _ => ?_
  split
  · exact .fail
  · rename_i submitted _
    refine passing (stable_begun _ born) (hushed_requireSession) begun fun authenticated _ begun => ?_
    split
    · exact .fail
    · refine .recheck_bind fun parameters _ => ?_
      refine .seq (honest admits) (returnedRequestOf_safe begun parameters).recast fun found _ grown known => ?_
      obtain ⟨requestUri,asked⟩ := found
      have begun := grown.length.trans' begun
      have knows : Stable (rely admits) (Known d born requestUri asked) := Known.stable born _ _
      refine passing (knows.and (stable_begun _ born)) (.mapError _ (hushed_requireRegistered asked))
        ⟨known,begun⟩ fun registered _ facts => ?_
      split
      · exact denyConsent_safe facts.2 request requestUri asked facts.1
      · refine .seq (honest admits) (requireResource_safe facts.2 _ _ _ _).recast fun _ _ grown declared => ?_
        have known := grown.keep knows facts.1
        refine .seq (honest admits) (grant_safe declared.1 _ _ _ _).recast fun _ later more consent => ?_
        refine .seq (honest admits) (consumePushed_cleared (more.keep knows known)
          (consent.mono fun w => consented_of) (more.keep (Witnessed.stable _ born _) declared)).recast
          fun final _ _ cleared => ?_
        exact .seq (honest admits) (issueCode_safe request authenticated 303 cleared)
          fun _ _ _ _ _ _ => trivial

theorem hushed_consentEntries (grants : List ConsentGrant) : Hushed (consentEntries grants) := by
  induction grants with
  | nil => trivial
  | cons grant rest ih => exact .bind (Hushed.of looks_now) fun _ => .bind ih fun _ => trivial

theorem hushed_consents (request : HttpRequest) : Hushed (consents request) := by
  refine .bind (hushed_requireSession) fun authenticated => ?_
  refine .bind (.mapError _ (hushed_ask rfl)) fun values => ?_
  refine .bind (.mapError _ (Hushed.of (looks_randomToken 32))) fun csrf => ?_
  exact .bind (.mapError _ (hushed_consentEntries values)) fun _ => trivial

theorem revokeConsentEndpoint_safe (request : HttpRequest) :
    Safe (contract admits) born (returns fun _ _ => True) (revokeConsent request) h := by
  have nothing := stable_true (rely admits)
  refine passing nothing (hushed_requireSession) trivial fun authenticated _ _ => ?_
  refine .recheck_bind fun form _ => ?_
  split
  · exact .fail
  · rename_i id _
    exact .seq (honest admits) (revokeConsent_safe id _).recast fun _ _ _ _ _ _ => trivial

theorem hushed_pushedRequestParameters : Hushed (pushedRequestParameters d form clientId) := by
  unfold pushedRequestParameters
  split
  · exact .bind (.refuseIf _ _ _) fun _ => .mapError _ (hushed_verifiedJarParameters)
  · trivial

theorem pushedAuthorization_safe (begun : born ≤ h.past.length) (request : HttpRequest) :
    Safe (contract admits) born (returns fun _ _ => True) (pushedAuthorization d request) h := by
  refine .recheck_bind fun form _ => .refuse_bind fun _ => .recheck_bind fun clientIdText _ => ?_
  refine passing (stable_begun _ born) (.mapError _ (hushed_authenticate)) begun fun _ _ begun => ?_
  refine passing (stable_begun _ born) (hushed_pushedRequestParameters) begun fun parameters _ begun => ?_
  refine .seq (honest admits) (validatedAuthorizationRequest_safe begun parameters).recast
    fun authorizationRequest _ _ checked => ?_
  exact .seq (honest admits) (push_safe authorizationRequest checked).recast fun _ _ _ _ _ _ => trivial

theorem deviceAuthorization_safe (begun : born ≤ h.past.length) (request : HttpRequest) :
    Safe (contract admits) born (returns fun _ _ => True) (deviceAuthorization d request) h := by
  refine .recheck_bind fun form _ => .recheck_bind fun clientIdText _ => .recheck_bind fun scopeText _ => ?_
  refine passing (stable_begun _ born) (.mapError _ (hushed_authenticate)) begun fun _ _ begun => ?_
  refine .recheck_bind fun requestedScopes _ => .refuse_bind fun _ => .refuse_bind fun _ => ?_
  refine .seq (honest admits) (requireResource_safe begun _ _ _ _).recast fun _ _ _ declared => ?_
  exact .seq (honest admits) (begin_safe _ _ _ declared).recast fun _ _ _ _ _ _ => trivial

theorem hushed_devicePrompt (request : HttpRequest) : Hushed (devicePrompt d request) := by
  refine .bind (.mapError _ (.check _ _)) fun parameters => ?_
  refine .bind (.mapError _ (Hushed.of (looks_randomToken 18))) fun styleNonce => ?_
  split
  · trivial
  · refine .bind (.mapError _ (.bind (.check _ _) fun _ => .bind (Hushed.of looks_now) fun _ =>
      .bind (hushed_ask rfl) fun _ => .check _ _)) fun authorization => ?_
    refine .bind (hushed_requireSession) fun _ => ?_
    refine .bind (.mapError _ (Hushed.of (ClientManager.looks_requireActive _))) fun registered => ?_
    exact .bind (.mapError _ (Hushed.of (looks_randomToken 32))) fun _ => trivial

theorem rememberApproval_safe (begun : born ≤ h.past.length) (authenticated : AuthenticatedSession)
    (approved : DeviceAuthorization) : Safe (contract admits) born (returns fun _ _ => True)
      (rememberApproval authenticated approved) h := by
  refine .seq (honest admits) (Safe.attempt ((grant_safe begun _ _ _ _).mono fun _ _ _ => trivial)) ?_
  exact fun _ _ _ _ _ _ => trivial

theorem deviceDecision_safe (begun : born ≤ h.past.length) (request : HttpRequest) :
    Safe (contract admits) born (returns fun _ _ => True) (deviceDecision d request) h := by
  refine .recheck_bind fun form _ => ?_
  split
  · exact .fail
  · rename_i submitted _
    refine passing (stable_begun _ born) (hushed_requireSession) begun fun authenticated _ begun => ?_
    refine passing (stable_begun _ born) (.mapError _ (Hushed.of (looks_randomToken 18))) begun
      fun styleNonce _ begun => ?_
    split
    · refine .seq (honest admits) (approve_safe _ authenticated).recast fun approved _ grown _ => ?_
      exact .seq (honest admits) (rememberApproval_safe (grown.length.trans' begun) _ approved).recast
        fun _ _ _ _ _ _ => trivial
    · exact .seq (honest admits) (deny_safe _).recast fun _ _ _ _ _ _ => trivial

theorem makeInitial_origin {scopes : List Scope}
    (stored : Witnessed born (fun w => Approved w clientId scopes resource) h) (client : context.client = clientId)
    (carried : context.scopes = .ofList (scopes.map Scope.value))
    (audiences : context.audiences = .ofList resource.toList) :
    Safe (contract admits) born (returns fun _ _ => True) (makeInitial d context) h :=
  makeInitial_safe d (lenient admits born) (Witnessed.stable _ born _) stored context
    fun _ family at_ accessDigest refreshDigest stored _ =>
      storeInitial_acts (.approved context clientId scopes resource stored client carried audiences)
        family at_ accessDigest refreshDigest

theorem deviceCodeGrant_safe (begun : born ≤ h.past.length) (form : Parameters) (clientId : ClientId)
    (senderConstraint : Option SenderConstraint) : Safe (contract admits) born (returns fun _ _ => True)
      (deviceCodeGrant d form clientId senderConstraint) h := by
  refine .recheck_bind fun deviceCode _ => ?_
  refine .seq (honest admits) (poll_safe begun deviceCode clientId).recast fun polled later _ handed => ?_
  split
  · exact .fail
  · exact .fail
  · exact .fail
  · exact .fail
  · split
    · exact .fail
    · rename_i authorization found
      have issued : Safe (contract admits) born (returns fun _ _ => True)
          (TokenService.issueDeviceAuthorization d authorization senderConstraint) later := by
        unfold TokenService.issueDeviceAuthorization
        split
        · exact .fail
        · rename_i context made
          obtain ⟨client,scopes,audiences⟩ := contextOfDevice_spec made
          exact makeInitial_origin (handed authorization found) client scopes audiences
      exact .seq (honest admits) issued.recast fun _ _ _ _ _ _ => trivial

theorem hushed_idTokenOf (redeemed : AuthorizationCode) : Hushed (idTokenOf redeemed) := by
  unfold idTokenOf
  split
  · exact .bind (hushed_ask rfl) fun _ => .bind (.mapError _ (.check _ _)) fun _ => trivial
  · trivial

theorem authorizationCodeGrant_safe (begun : born ≤ h.past.length) (form : Parameters) (clientId : ClientId)
    (senderConstraint : Option SenderConstraint) : Safe (contract admits) born (returns fun _ _ => True)
      (authorizationCodeGrant d form clientId senderConstraint) h := by
  refine .recheck_bind fun code _ => .recheck_bind fun redirectUri _ => .recheck_bind fun verifier _ => ?_
  refine .seq (honest admits) (redeem_safe begun code clientId redirectUri verifier).recast
    fun redeemed _ _ stored => ?_
  refine passing (Witnessed.stable _ born _) (hushed_idTokenOf redeemed) stored fun idToken _ stored => ?_
  have approved := stored.mono fun w (found : ∃ key : CodeDigest,w.codes[key]? = some redeemed) =>
    show Approved w redeemed.clientId redeemed.scopes redeemed.resource from
      .inl ⟨found.choose,redeemed,found.choose_spec,rfl,rfl,rfl⟩
  exact .seq (honest admits) (makeInitial_origin approved rfl rfl rfl).recast fun _ _ _ _ _ _ => trivial

theorem clientCredentialsGrant_safe (tidy : Tidy h.now.clients h.now.resources) (begun : born ≤ h.past.length)
    (form : Parameters) (authenticatedClient : Client) (clientId : ClientId)
    (senderConstraint : Option SenderConstraint) : Safe (contract admits) born (returns fun _ _ => True)
      (clientCredentialsGrant d form authenticatedClient clientId senderConstraint) h := by
  refine .refuse_bind fun _ => .recheck_bind fun audience _ => .recheck_bind fun requested _ => ?_
  refine .seq (honest admits) (requireActiveService_safe tidy begun clientId audience requested).recast
    fun service _ _ owned => ?_
  refine .seq (honest admits) (requireActiveResource_safe owned.2.1 audience).recast
    fun resource _ grown registered => ?_
  refine .refuse_bind fun permitted => ?_
  simp only [Bool.not_eq_false',ResourceServer.permitsScopes,
    SortedList.SortedSet.containsAll_eq_true] at permitted
  have stable := (Witnessed.stable (rely admits) born
    fun w => w.resources.services[clientId]? = some service).and
      (Witnessed.stable (rely admits) born fun w => w.resources.resources[audience]? = some resource)
  refine .seq (honest admits) (issueClientCredentials_safe d (lenient admits born) stable
    ⟨grown.keep (Witnessed.stable _ born _) owned.2,registered⟩ registered.1 service audience _ senderConstraint
    ?_).recast fun _ _ _ _ _ _ => trivial
  intro later family at_ digest known _ _ scopesHeld _
  refine storeAccessOnly_acts ?_ family at_ digest
  refine .credentials service clientId audience _ senderConstraint at_ known.1 owned.1 scopesHeld ?_
  exact known.2.mono fun w stored => ⟨resource,stored,permitted⟩

theorem requestedScopes_nonempty (parsed : requestedScopes form = .ok requested) : ∀ scope ∈ requested,scope ≠ [] := by
  unfold requestedScopes at parsed
  split at parsed
  · cases parsed
    simp
  · rename_i text _
    cases named : scopes text with
    | error e => simp [named,Except.map] at parsed
    | ok found =>
      simp only [named,Except.map,Except.ok.injEq] at parsed
      subst parsed
      intro scope member
      obtain ⟨item,_,rfl⟩ := List.mem_map.mp member
      intro empty
      have valid := item.valid
      simp [empty,validScope] at valid

theorem tokenExchangeGrant_safe (begun : born ≤ h.past.length) (form : Parameters) (clientId : ClientId)
    (senderConstraint : Option SenderConstraint) : Safe (contract admits) born (returns fun _ _ => True)
      (tokenExchangeGrant d form clientId senderConstraint) h := by
  refine .recheck_bind fun subjectToken _ => .recheck_bind fun subjectType _ => ?_
  refine .recheck_bind fun audience _ => .refuse_bind fun _ => ?_
  refine .seq (honest admits) (requireActiveResource_safe begun audience).recast fun resource _ _ found => ?_
  refine .recheck_bind fun requested parsed => .refuse_bind fun _ => ?_
  refine .seq (honest admits) (issueTokenExchange_safe d (lenient admits born) (stable_true _) trivial found.1
    clientId subjectToken audience requested senderConstraint ?_).recast fun _ _ _ _ _ _ => trivial
  intro later family at_ digest key record _ _ stored _ accepted _
  refine storeAccessOnly_acts ?_ family at_ digest
  refine .exchanged record.context clientId audience _ senderConstraint ?_ accepted.client accepted.audience ?_
  · exact stored.mono fun w present => .inl ⟨key,record,present,rfl⟩
  · -- The empty scope, which every token permits, cannot be asked for here.
    intro scope member
    rcases accepted.scopes scope member with empty | held
    · unfold exchangeScopes at member
      split at member
      · exact member
      · exact absurd empty (requestedScopes_nonempty parsed scope member)
    · exact held

theorem refreshTokenGrant_safe (begun : born ≤ h.past.length) (form : Parameters) (clientId : ClientId)
    (senderConstraint : Option SenderConstraint) : Safe (contract admits) born (returns fun _ _ => True)
      (refreshTokenGrant d form clientId senderConstraint) h := by
  refine .recheck_bind fun refresh _ => ?_
  refine .seq (honest admits) (refresh_safe d (K:=fun current => Witnessed born fun w => Held w.tokens current.context)
    (lenient admits born) (stable_begun _ born) (fun _ => Witnessed.stable _ born _) begun clientId refresh
    senderConstraint ?_ ?_).recast fun _ _ _ _ _ _ => trivial
  · intro before key current begun stored
    exact (Witnessed.here begun (.inr ⟨key,current,stored,rfl⟩)).push _
  · intro later current at_ accessDigest refreshDigest known _
    exact rotateRefresh_acts (.renewed _ known) at_ accessDigest refreshDigest

theorem tokenEndpoint_safe (tidy : Tidy h.now.clients h.now.resources) (begun : born ≤ h.past.length)
    (request : HttpRequest) : Safe (contract admits) born (returns fun _ _ => True) (tokenEndpoint d request) h := by
  refine .recheck_bind fun form _ => .recheck_bind fun grantType _ => .recheck_bind fun clientIdText _ => ?_
  have stable : Stable (rely admits) fun h => Tidy h.now.clients h.now.resources ∧ born ≤ h.past.length :=
    stable_tidy.and (stable_begun _ born)
  refine passing stable (.mapError _ (hushed_authenticate)) ⟨tidy,begun⟩ fun client _ known => ?_
  refine passing stable (hushed_ask rfl) known fun proven _ known => .recheck_bind fun senderConstraint _ => ?_
  split_ifs
  · exact deviceCodeGrant_safe known.2 form _ senderConstraint
  · exact authorizationCodeGrant_safe known.2 form _ senderConstraint
  · exact clientCredentialsGrant_safe known.1 known.2 form client _ senderConstraint
  · exact tokenExchangeGrant_safe known.2 form _ senderConstraint
  · exact refreshTokenGrant_safe known.2 form _ senderConstraint
  · exact .fail

theorem introspectEndpoint_safe (begun : born ≤ h.past.length) (request : HttpRequest) :
    Safe (contract admits) born (returns fun _ _ => True) (introspect d request) h := by
  refine .recheck_bind fun form _ => .recheck_bind fun clientIdText _ => ?_
  refine .recheck_bind fun secretText _ => .recheck_bind fun rawToken _ => ?_
  refine passing (stable_begun _ born) (.mapError _ (hushed_authenticate)) begun fun caller _ begun => ?_
  refine .refuse_bind fun _ => ?_
  refine .seq (honest admits) (Safe.attempt ((introspect_safe d (lenient admits born) begun rawToken).mono
    fun _ _ _ => trivial)) fun answer _ _ _ => ?_
  cases answer <;> exact hushed_safe trivial

theorem revokeEndpoint_safe (request : HttpRequest) :
    Safe (contract admits) born (returns fun _ _ => True) (revoke d request) h := by
  refine .recheck_bind fun form _ => .recheck_bind fun clientIdText _ => .recheck_bind fun rawToken _ => ?_
  refine passing (stable_true _) (.mapError _ (hushed_authenticate)) trivial fun _ _ _ => ?_
  exact .seq (honest admits) (revokeForClient_safe d (lenient admits born) _ rawToken
    fun later fingerprint at_ _ => revokeToken_acts fingerprint at_).recast fun _ _ _ _ _ _ => trivial

theorem routed_cases {α : Type} {fits : Prop} [Decidable fits] {first handler : α} {rest : Option α}
    (routed : (if fits then some first else rest) = some handler) : handler = first ∨ rest = some handler := by
  split at routed
  · exact .inl (Option.some.inj routed).symm
  · exact .inr routed

theorem endpoint_safe (tidy : Tidy h.now.clients h.now.resources) (begun : born ≤ h.past.length)
    {request : HttpRequest} {handler : Handler HttpResponse} (routed : endpoint d request = some handler) :
    Safe (contract admits) born (returns fun _ _ => True) handler h := by
  rcases routed_cases routed with rfl | routed
  · exact authorizeEndpoint_safe begun request
  rcases routed_cases routed with rfl | routed
  · exact consentSubmit_safe begun request
  rcases routed_cases routed with rfl | routed
  · exact hushed_safe (hushed_consents request)
  rcases routed_cases routed with rfl | routed
  · exact revokeConsentEndpoint_safe request
  rcases routed_cases routed with rfl | routed
  · exact pushedAuthorization_safe begun request
  rcases routed_cases routed with rfl | routed
  · exact deviceAuthorization_safe begun request
  rcases routed_cases routed with rfl | routed
  · unfold deviceVerification
    split
    · exact hushed_safe (hushed_devicePrompt request)
    · exact deviceDecision_safe begun request
  rcases routed_cases routed with rfl | routed
  · exact tokenEndpoint_safe tidy begun request
  rcases routed_cases routed with rfl | routed
  · exact introspectEndpoint_safe begun request
  rcases routed_cases routed with rfl | routed
  · exact revokeEndpoint_safe request
  cases routed

theorem handle_safe (tidy : Tidy h.now.clients h.now.resources) (begun : born ≤ h.past.length)
    (routed : handle d request = some handler) : Safe (contract admits) born (returns fun _ _ => True) handler h := by
  obtain ⟨inner,served,rfl⟩ := Option.map_eq_some_iff.mp routed
  have stable : Stable (rely admits) fun h => Tidy h.now.clients h.now.resources ∧ born ≤ h.past.length :=
    stable_tidy.and (stable_begun _ born)
  refine passing stable (hushed_ask rfl) ⟨tidy,begun⟩ fun allowed _ known => .refuse_bind fun _ => ?_
  exact endpoint_safe known.1 known.2 served

abbrev OAuthThread := Prog Op Op.Ret Unit Unit

-- What may run side by side on one process: any request to the endpoints, and the
-- calls that manage applications, clients, resources, service identities and JAR keys.
inductive OAuthCall (d : Deployment) : OAuthThread → Prop where
  | request (request : HttpRequest) (handler : Handler HttpResponse)
      (routed : OAuthHttp.handle d request = some handler) : OAuthCall d handler.discard
  | registerApplication (owner : OrganizationId) (identifier displayName : Text) (environment : Environment) :
      OAuthCall d (ApplicationRegistry.registerApplication owner identifier displayName environment).discard
  | suspendApplication (id : ApplicationId) : OAuthCall d (ApplicationRegistry.suspend id).discard
  | activateApplication (id : ApplicationId) : OAuthCall d (ApplicationRegistry.activate id).discard
  | revokeApplication (id : ApplicationId) : OAuthCall d (ApplicationRegistry.revoke id).discard
  | registerClient (applicationId : ApplicationId) (displayName : Text) (kind : ClientKind)
      (redirectUris scopes : List Text) :
      OAuthCall d (ClientManager.registerClient d applicationId displayName kind redirectUris scopes).discard
  | rotateSecret (id : ClientId) : OAuthCall d (ClientManager.rotateSecret d id).discard
  | suspendClient (id : ClientId) : OAuthCall d (ClientManager.suspend id).discard
  | activateClient (id : ClientId) : OAuthCall d (ClientManager.activate id).discard
  | revokeClient (id : ClientId) : OAuthCall d (ClientManager.revoke id).discard
  | registerResource (audience displayName : Text) (scopes : List Text) :
      OAuthCall d (ResourceRegistry.registerResource audience displayName scopes).discard
  | setStatus (audience : Text) (status : ResourceStatus) :
      OAuthCall d (ResourceRegistry.setStatus audience status).discard
  | provision (clientId : ClientId) (audiences scopes : List Text) :
      OAuthCall d (ServiceIdentityService.provision d clientId audiences scopes).discard
  | setActive (clientId : ClientId) (active : Bool) :
      OAuthCall d (ServiceIdentityService.setActive clientId active).discard
  | registerKey (clientId : ClientId) (keyId publicKeyPem : Text) :
      OAuthCall d (JarService.registerKey d clientId keyId publicKeyPem).discard
  | removeKey (clientId : ClientId) : OAuthCall d (JarService.removeKey clientId).discard

theorem hushed_registerApplication :
    Hushed (ApplicationRegistry.registerApplication owner identifier displayName environment) := by
  refine .bind (Hushed.of (looks_randomToken 24)) fun _ => .bind (Hushed.of looks_now) fun _ => ?_
  refine .bind (.check _ _) fun _ => .bind (hushed_ask rfl) fun _ => ?_
  exact .bind (.check _ _) fun _ => trivial

theorem hushed_transition (id : ApplicationId) : Hushed (ApplicationRegistry.transition change id) := by
  refine .bind (.bind (hushed_ask rfl) fun found => ?_) fun application => ?_
  · cases found <;> trivial
  · refine .bind (Hushed.of looks_now) fun _ => .bind (.check _ _) fun _ => .bind (hushed_ask rfl) fun _ => ?_
    exact .bind (.check _ _) fun _ => trivial

theorem hushed_registerKey : Hushed (JarService.registerKey d clientId keyId publicKeyPem) := by
  refine .bind (.check _ _) fun _ => .bind (Hushed.of looks_now) fun _ => ?_
  exact .bind (.check _ _) fun _ => hushed_ask rfl

theorem OAuthCall.safe (call : OAuthCall d p) (tidy : Tidy h.now.clients h.now.resources)
    (begun : born ≤ h.past.length) : Safe (contract admits) born (fun _ _ => True) p h := by
  cases call with
  | request request handler routed => exact (handle_safe tidy begun routed).discard
  | registerApplication owner identifier displayName environment =>
    exact (hushed_safe (hushed_registerApplication)).discard
  | suspendApplication id => exact (hushed_safe (hushed_transition id)).discard
  | activateApplication id => exact (hushed_safe (hushed_transition id)).discard
  | revokeApplication id => exact (hushed_safe (hushed_transition id)).discard
  | registerClient applicationId displayName kind redirectUris scopes =>
    exact (registerClient_safe _ _ _ _ _).discard
  | rotateSecret id => exact (rotateSecret_safe tidy id).discard
  | suspendClient id => exact (transition_safe tidy (fun _ _ _ => Client.suspend_same) id).discard
  | activateClient id => exact (transition_safe tidy (fun _ _ _ => Client.activate_same) id).discard
  | revokeClient id => exact (transition_safe tidy (fun _ _ _ => Client.revoke_same) id).discard
  | registerResource audience displayName scopes => exact (registerResource_safe _ _ _).discard
  | setStatus audience status => exact (setStatus_safe tidy audience status).discard
  | provision clientId audiences scopes => exact (provision_safe _ _ _).discard
  | setActive clientId active => exact (setActive_safe _ _).discard
  | registerKey clientId keyId publicKeyPem => exact (hushed_safe (hushed_registerKey)).discard
  | removeKey clientId => exact (hushed_safe (hushed_ask rfl)).discard

abbrev OAuthPool := Pool Op Op.Ret Unit Unit State

-- Clocks, entropy, sessions, identities, applications and JAR state are moved by others at any moment.
abbrev OAuthStep (d : Deployment) (admits : Op → History State → Prop) :
    OAuthPool → Event Op → OAuthPool → Prop := Step exec admits (OAuthCall d) Untouched
abbrev OAuthRun (d : Deployment) (admits : Op → History State → Prop) : OAuthPool → OAuthPool → Prop :=
  Runs exec admits (OAuthCall d) Untouched

theorem disciplined (d : Deployment) (admits : Op → History State → Prop) :
    Disciplined (contract admits) (OAuthCall d) Untouched (fun h => Tidy h.now.clients h.now.resources)
      fun _ _ _ => True where
  honest := honest admits
  drifts _ _ moved := ⟨0,.untouched moved⟩
  stable := stable_tidy
  entries _ call _ tidy := call.safe tidy (Nat.le_refl _)

theorem sound (tidy : Tidy w.clients w.resources) (path : OAuthRun d admits (Pool.start w) pool) :
    Pool.Sound (contract admits) (fun h => Tidy h.now.clients h.now.resources) (fun _ _ _ => True) pool :=
  (disciplined d admits).start w tidy path

theorem grows (tidy : Tidy w.clients w.resources) (path : OAuthRun d admits (Pool.start w) pool) : Grows (rely admits) ⟨w,[]⟩ pool.hist :=
  (disciplined d admits).grows ((disciplined d admits).start w tidy .nil) path

def demoResource : ResourceServer where
  id := ⟨"api"⟩
  audience := "https://api.example"
  displayName := "Shop API"
  scopes := .ofList ["read","write"]
  status := .active
  createdAt := 0
  updatedAt := 0

def demoSession : AuthenticatedSession where
  identity := ⟨"ann"⟩
  provider := ⟨"passkey"⟩
  assurance := .ial2
  strength := ⟨Identities.AuthenticationFactor.knowledge,false⟩
  authenticatedAt := 0

def demoProcess (entropy : List Text) : State :=
  { TokenActs.demoState entropy with
    surroundings := { TokenActs.demoSurroundings with
      sessions := fun token =>
        if token = Text.of "s1" then .ok demoSession else .error (.plain .authenticationRequired) }
    resources := ⟨(∅ : Map Text ResourceServer).insert "https://api.example" demoResource,∅⟩ }

theorem tidy_demo (entropy : List Text) : Tidy (demoProcess entropy).clients (demoProcess entropy).resources := by
  constructor
  · intro key client stored
    rcases Map.insert_cases stored with ⟨rfl,rfl⟩ | none
    · rfl
    · simp at none
  · intro audience resource stored
    rcases Map.insert_cases stored with ⟨rfl,rfl⟩ | none
    · rfl
    · simp at none
  · intro key service stored
    simp [demoProcess] at stored

abbrev OAuthMove (d : Deployment) := Move Op Op.Ret State (OAuthCall d) Untouched

def demoPost (target body : Text) : HttpRequest where
  method := .post
  target := target
  headers := ((∅ : Map Text Text).insert "content-type" "application/x-www-form-urlencoded").insert "cookie"
    "__Host-openproof-session=s1; __Host-openproof-consent-csrf=c"
  body := body
  remoteAddress := "192.0.2.1"
  correlation := []

def OAuthMove.send (d : Deployment) (request : HttpRequest)
    (served : (OAuthHttp.handle d request).isSome = true) : OAuthMove d :=
  .enter _ (.request request _ (Option.some_get served).symm)

def demoApproval : HttpRequest :=
  demoPost "/oauth/consent" (Text.of
    "return_to=/oauth/authorize?response_type=code%26client_id=web%26redirect_uri=https://shop.example/cb"
    ++ "%26scope=read%26resource=https://api.example%26code_challenge_method=S256"
    ++ "%26code_challenge=E9Melhoa2OwvFrEMTJguCHaoeK1t8URWbuGJSstw-cM&csrf=c&decision=approve")

end OpenProof.OAuthRuns
