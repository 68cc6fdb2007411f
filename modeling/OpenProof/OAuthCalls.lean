import OpenProof.OAuthActs

namespace OpenProof.OAuthCalls
open AtomicPrograms Foundation World Services TokenService OAuthActs ClientManager Identities Applications
open Clients Resources Consents
open Authorizations
open Http

def elsewhere : Op → Bool
  | .jar _ | .identity _ | .application _ => true
  | _ => false

def quietOp (op : Op) : Bool := op.reads || elsewhere op

theorem elsewhere_untouched (outside : elsewhere op = true) (w : State) : Untouched w (exec op w).2 := by
  cases op with
  | jar | identity | application => exact ⟨rfl,rfl,rfl,rfl,rfl,rfl,rfl⟩
  | now | random | surrounding | client | resource | consent | code | pushed | device | token => cases outside

theorem quiet_acts (quiet : quietOp op = true) (later : History State) :
    Acts admits born later (exec op later.now).2 := by
  refine .untouched ?_
  rcases Bool.or_eq_true .. |>.mp quiet with reading | outside
  · have same := exec_reads reading later.now
    exact ⟨same.clients,same.resources,same.consents,same.codes,same.pushed,same.devices,same.tokens⟩
  · exact elsewhere_untouched outside later.now

theorem quiet_of_reads (reading : op.reads = true) : quietOp op = true := by
  simp [quietOp,reading]

abbrev Hushed (p : Prog Op Op.Ret Err α) : Prop := p.Only fun op => quietOp op = true

theorem Hushed.of {p : Prog Op Op.Ret Err α} (looks : Looks p) : Hushed p :=
  looks.weaken fun _ => quiet_of_reads

theorem hushed_ask (quiet : quietOp op = true) : Hushed (ask op : Prog Op Op.Ret Err _) :=
  .perform quiet

theorem lenient (admits : Op → History State → Prop) (born : Nat) : Lenient admits (rely admits) (guar admits) born :=
  ⟨honest admits,fun _ later reading _ => quiet_acts (quiet_of_reads reading) later⟩

theorem hushed_safe {p : Prog Op Op.Ret Err α} (hushed : Hushed p) :
    Safe (contract admits) born (returns fun _ _ => True) p h :=
  .only hushed fun _ later quiet _ => quiet_acts quiet later

theorem passing {φ : History State → Prop} {second : β → History State → Prop} {p : Prog Op Op.Ret Err α}
    {f : α → Prog Op Op.Ret Err β} (stable : Stable (rely admits) φ) (hushed : Hushed p) (known : φ h)
    (rest : ∀ a later,φ later → Safe (contract admits) born (returns second) (f a) later) :
    Safe (contract admits) born (returns second) (p.bind f) h :=
  .past (honest admits) (fun _ later quiet _ => quiet_acts quiet later) stable hushed known rest

theorem stable_tidy : Stable (rely admits) fun h => Tidy h.now.clients h.now.resources :=
  fun _ _ ⟨_,acted⟩ tidy => acted.tidy tidy

theorem stable_registered (client : Client) : Stable (rely admits) (Registered client) := by
  rintro h w ⟨_,acted⟩ ⟨found,stored,same⟩
  obtain ⟨after,present,kept⟩ := acted.clients _ found stored
  exact ⟨after,present,kept.id.trans same.id,kept.applicationId.trans same.applicationId,
    kept.kind.trans same.kind,kept.redirectUris.trans same.redirectUris,kept.scopes.trans same.scopes⟩

theorem stable_declared (resource : ResourceServer) : Stable (rely admits) (Declared resource) := by
  rintro h w ⟨_,acted⟩ ⟨found,stored,same⟩
  obtain ⟨after,present,kept⟩ := acted.resources _ found stored
  exact ⟨after,present,kept.trans same⟩

theorem stable_permits (clientId : ClientId) (scopes : List Scope) :
    Stable (rely admits) fun h => Permits h.now clientId scopes := by
  rintro h w ⟨_,acted⟩ ⟨client,stored,permitted⟩
  obtain ⟨after,present,kept⟩ := acted.clients _ client stored
  refine ⟨after,present,?_⟩
  rw [Client.permitsScopes_eq_true] at permitted ⊢
  rw [kept.scopes]
  exact permitted

theorem stable_declares (scopes : List Scope) (resource : Option Text) :
    Stable (rely admits) fun h => Declares h.now scopes resource := by
  rintro h w ⟨_,acted⟩ declares
  cases resource with
  | none => exact declares
  | some audience =>
    obtain ⟨registered,stored,declared⟩ := declares
    obtain ⟨after,present,kept⟩ := acted.resources _ registered stored
    exact ⟨after,present,by rw [kept]; exact declared⟩

-- Since world `w` every grant that is still unrevoked either has no expiry or was there already.
def ConsentSince (w : State) (h : History State) : Prop :=
  ∀ (id : ConsentId) (grant : ConsentGrant),h.now.consents[id]? = some grant → grant.revokedAt = none →
    grant.expiresAt = none ∨ w.consents[id]? = some grant

theorem stable_consentSince (w : State) : Stable (rely admits) (ConsentSince w) := by
  rintro h v ⟨_,acted⟩ since id grant stored unrevoked
  rcases acted.consents id grant stored unrevoked with unlimited | earlier
  · exact .inl unlimited
  · exact since id grant earlier unrevoked

def ActiveClient (clientId : ClientId) (client : Client) (w : State) : Prop :=
  w.clients[clientId]? = some client ∧ client.status = .active

theorem requireActive_safe (begun : born ≤ h.past.length) (clientId : ClientId) : Safe (contract admits) born
      (returns fun client later => Witnessed born (ActiveClient clientId client) later)
      (requireActive clientId) h := by
  refine (lenient admits born).look (stable_begun _ born) rfl begun fun before begun _ => ?_
  split
  · exact .fail
  · rename_i client found
    refine .refuse_bind fun active => ?_
    have seen : Witnessed born (ActiveClient clientId client) (before.push before.now) :=
      (Witnessed.here begun ⟨found,by simpa [Client.permitsAuthorization] using active⟩).push _
    refine passing (Witnessed.stable _ born _) (hushed_ask rfl) seen fun application _ seen => ?_
    exact .refuse_bind fun _ => .ret (Witnessed.stable _ born _) seen

theorem requireActiveResource_safe (begun : born ≤ h.past.length) (audience : Text) : Safe (contract admits) born
      (returns fun resource later =>
        Witnessed born (fun w => w.resources.resources[audience]? = some resource) later)
      (ResourceRegistry.requireActive audience) h := by
  refine (lenient admits born).look (stable_begun _ born) rfl begun fun before begun _ => ?_
  split
  · exact .fail
  · rename_i resource found
    refine .refuse_bind fun _ => .ret (Witnessed.stable _ born _) ?_
    exact (Witnessed.here begun found).push _

theorem declares_none {scopes : List Scope} (none_left : (resourceScopeStrings scopes).isEmpty = true) :
    Declares w scopes none := by
  intro scope member
  by_contra other
  have listed : scope.value ∈ resourceScopeStrings scopes := by
    rw [mem_resourceScopeStrings]
    exact ⟨List.mem_map_of_mem member,by simpa using other⟩
  simp [List.isEmpty_iff.mp none_left] at listed

theorem declares_some {scopes : List Scope} (stored : w.resources.resources[audience]? = some resource)
    (permitted : resource.permitsScopes (resourceScopeStrings scopes) = true) :
    Declares w scopes (some audience) := by
  refine ⟨resource,stored,fun scope member other => ?_⟩
  simp only [ResourceServer.permitsScopes,SortedList.SortedSet.containsAll_eq_true] at permitted
  refine permitted scope.value ?_
  rw [mem_resourceScopeStrings]
  exact ⟨List.mem_map_of_mem member,other⟩

theorem requireResource_safe (begun : born ≤ h.past.length) (resource : Option Text) (scopes : List Scope)
    (missing unavailable : Error) : Safe (contract admits) born
      (returns fun _ later => Witnessed born (fun w => Declares w scopes resource) later)
      (OAuthHttp.requireResource resource scopes missing unavailable) h := by
  cases resource with
  | none =>
    refine .refuse (Witnessed.stable _ born _) fun accepted => .here begun (declares_none ?_)
    simpa using accepted
  | some audience =>
    refine .seq (honest admits) (requireActiveResource_safe begun audience).recast ?_
    rintro resource later grown ⟨begun,seen,member,stored⟩
    refine .refuse (Witnessed.stable _ born _) fun accepted => ⟨begun,seen,member,?_⟩
    exact declares_some stored (by simpa using accepted)

theorem Checked.stable (born : Nat) (clientId : ClientId) (scopes : List Scope) (resource : Option Text) :
    Stable (rely admits) fun h => Checked born h clientId scopes resource :=
  fun _ w _ known => ⟨known.client.push w,known.resource.push w⟩

theorem checked_of {scopes sorted : List Scope} (found : Witnessed born (ActiveClient clientId client) h)
    (permitted : client.permitsScopes scopes = true)
    (declared : Witnessed born (fun w => Declares w scopes resource) h)
    (members : ∀ scope,scope ∈ sorted ↔ scope ∈ scopes) : Checked born h clientId sorted resource := by
  constructor
  · refine found.mono fun w active => ⟨client,active.1,?_⟩
    rw [Client.permitsScopes_eq_true] at permitted ⊢
    exact fun scope member => permitted scope ((members scope).mp member)
  · refine declared.mono fun w declares => ?_
    cases resource with
    | none => exact fun scope member => declares scope ((members scope).mp member)
    | some audience =>
      obtain ⟨registered,stored,declares⟩ := declares
      exact ⟨registered,stored,fun scope member => declares scope ((members scope).mp member)⟩

theorem validatedAuthorizationRequest_safe (begun : born ≤ h.past.length) (parameters : Parameters) :
    Safe (contract admits) born
      (returns fun request later => Checked born later request.clientId request.scopes request.resource)
      (OAuthHttp.validatedAuthorizationRequest parameters) h := by
  refine .recheck_bind fun responseType _ => .recheck_bind fun clientIdText _ => ?_
  refine .recheck_bind fun redirectUri _ => .recheck_bind fun scopeText _ => ?_
  refine .recheck_bind fun challengeText _ => .recheck_bind fun challengeMethod _ => ?_
  refine .refuse_bind fun _ => ?_
  refine .seq (honest admits) (requireActive_safe begun _).recast fun registered later grown found => ?_
  refine .refuse_bind fun _ => .recheck_bind fun requestedScopes _ => .refuse_bind fun permitted => ?_
  refine .check_bind fun challenge _ => .check_bind fun maxAge _ => ?_
  refine .seq (honest admits) (requireResource_safe found.1 _ _ _ _) fun _ further more declared => ?_
  refine .check_bind fun responseMode _ => ?_
  cases created : AuthorizationRequest.create ⟨clientIdText⟩ redirectUri requestedScopes challenge
      (optional parameters "state") (optional parameters "nonce") maxAge (optional parameters "resource")
      responseMode with
  | error e => exact .fail
  | ok request =>
    obtain ⟨client,_,resource,scopes⟩ := AuthorizationRequest.create_spec created
    refine .ret (Checked.stable born _ _ _) ?_
    rw [client,resource]
    exact checked_of (more.keep (Witnessed.stable _ born _) found) (by simpa using permitted) declared scopes

def ConsentedTo (w : State) (identity : IdentityId) (clientId : ClientId) (audience : Text)
    (scopes : List Text) : Prop :=
  ∃ (id : ConsentId) (grant : ConsentGrant),w.consents[id]? = some grant ∧ grant.identity = identity ∧
    grant.client = clientId ∧ grant.audience = audience ∧ grant.activeAt w.clock = true ∧
      ∀ scope ∈ scopes,scope ∈ grant.scopes.items

theorem consented_of {scopes : List Scope}
    (given : ConsentedTo w identity clientId (consentAudience clientId resource) (scopeStrings scopes)) :
    Consented w identity clientId resource scopes := by
  obtain ⟨id,grant,stored,identity,client,audience,active,covered⟩ := given
  exact ⟨id,grant,stored,identity,client,audience,active,fun scope member =>
    covered scope.value (List.mem_map_of_mem member)⟩

theorem covers_safe (begun : born ≤ h.past.length) (identity : IdentityId) (clientId : ClientId)
    (audience : Text) (scopes : List Text) : Safe (contract admits) born
      (returns fun covered later => covered = true →
        Witnessed born (fun w => ConsentedTo w identity clientId audience scopes) later)
      (ConsentService.covers identity clientId audience scopes) h := by
  refine (lenient admits born).look (stable_begun _ born) rfl begun fun first begun _ => ?_
  have since : ConsentSince first.now (first.push (exec .now first.now).2) :=
    fun _ _ stored _ => .inr stored
  have started : Witnessed born (fun w => w = first.now) (first.push (exec .now first.now).2) :=
    (Witnessed.here (P:=fun w => w = first.now) begun rfl).push _
  refine (lenient admits born).look ((Witnessed.stable _ born _).and (stable_consentSince first.now)) rfl
    ⟨started,since⟩ fun second known _ => ?_
  obtain ⟨started,since⟩ := known
  refine .ret (fun _ w _ known covered => (known covered).push w) fun covered => ?_
  obtain ⟨grant,found,covers⟩ := Option.any_eq_true .. |>.mp covered
  have matching := List.find?_some found
  obtain ⟨id,stored⟩ := Map.mem_elements.mp (List.mem_of_find?_eq_some found)
  simp only [Bool.and_eq_true,decide_eq_true_eq] at matching
  obtain ⟨⟨⟨sameIdentity,sameClient⟩,sameAudience⟩,active⟩ := matching
  have unrevoked : grant.revokedAt = none := by
    simpa using (Bool.and_eq_true .. |>.mp active).1
  simp only [ConsentGrant.covers,SortedList.SortedSet.containsAll_eq_true] at covers
  rcases since id grant stored unrevoked with unlimited | earlier
  · refine (Witnessed.here started.1 ⟨id,grant,stored,sameIdentity,sameClient,sameAudience,?_,covers⟩).push _
    simp [ConsentGrant.activeAt,unrevoked,unlimited]
  · refine (started.mono ?_).push _
    rintro w rfl
    exact ⟨id,grant,earlier,sameIdentity,sameClient,sameAudience,active,covers⟩

theorem grant_safe (begun : born ≤ h.past.length) (identity : IdentityId) (clientId : ClientId)
    (audience : Text) (scopes : List Text) : Safe (contract admits) born
      (returns fun _ later => Witnessed born (fun w => ConsentedTo w identity clientId audience scopes) later)
      (ConsentService.grant identity clientId audience scopes none) h := by
  refine .refuse_bind fun _ => ?_
  refine passing (stable_begun _ born) (.of (looks_randomToken 18)) begun fun random _ begun => ?_
  refine passing (stable_begun _ born) (.of looks_now) begun fun at_ _ begun => ?_
  refine .check_bind fun grant created => ?_
  obtain ⟨rfl,_⟩ := ConsentGrant.create_spec created
  refine (lenient admits born).write (stable_begun _ born) begun (fun later _ _ => saveConsent_acts rfl)
    fun before _ begun => .ret (Witnessed.stable _ born _) (.here begun ?_)
  refine ⟨⟨Text.of "opcns_" ++ random⟩,_,Std.ExtTreeMap.getElem?_insert_self,rfl,rfl,rfl,?_,?_⟩
  · simp [ConsentGrant.activeAt]
  · simp

theorem revokeConsent_safe (id : ConsentId) (identity : IdentityId) :
    Safe (contract admits) born (returns fun _ _ => True) (ConsentService.revoke id identity) h := by
  have nothing := stable_true (rely admits)
  refine passing nothing (.of looks_now) trivial fun at_ _ known => ?_
  refine (lenient admits born).write nothing known (fun later _ _ => revokeConsent_acts id identity at_)
    fun _ _ _ => ?_
  exact hushed_safe (.check _ _)

theorem push_safe (request : AuthorizationRequest)
    (checked : Checked born h request.clientId request.scopes request.resource) :
    Safe (contract admits) born (returns fun _ _ => True) (PushedAuthorizationService.push d request) h := by
  have stable : Stable (rely admits) fun h => Checked born h request.clientId request.scopes request.resource :=
    Checked.stable born _ _ _
  refine passing stable (.of (looks_randomToken 32)) checked fun random _ checked => ?_
  refine .check_bind fun fingerprint _ => ?_
  refine passing stable (.of looks_now) checked fun at_ _ checked => ?_
  refine .check_bind fun pushed created => ?_
  have same := PushedAuthorizationRequest.create_request created
  refine (lenient admits born).write stable checked (fun later checked admitted => ?_) fun _ _ _ => ?_
  · exact addPushed_acts admitted (by rw [same]; exact checked)
  · exact .check_bind fun _ _ _ _ => trivial

def Read (d : Deployment) (born : Nat) (requestUri : Text) (request : AuthorizationRequest)
    (h : History State) : Prop :=
  ∃ (key : PushedRequestDigest) (pushed : PushedAuthorizationRequest),d.sha256 requestUri = .ok key ∧
    Witnessed born (fun w => w.pushed[key]? = some pushed) h ∧ pushed.request = request

theorem Read.stable (born : Nat) (requestUri : Text) (request : AuthorizationRequest) :
    Stable (rely admits) (Read d born requestUri request) := by
  rintro h w - ⟨key,pushed,named,seen,same⟩
  exact ⟨key,pushed,named,seen.push w,same⟩

theorem findPushed_safe (begun : born ≤ h.past.length) (requestUri : Text) (expected : ClientId) :
    Safe (contract admits) born (returns fun request later => Read d born requestUri request later)
      (PushedAuthorizationService.find d requestUri expected) h := by
  refine .check_bind fun key named => ?_
  refine passing (stable_begun _ born) (.of looks_now) begun fun at_ _ begun => ?_
  refine (lenient admits born).look (stable_begun _ born) rfl begun fun before begun _ => ?_
  split
  · exact .fail
  · rename_i found read
    refine .refuse_bind fun _ => .ret (Read.stable born _ _) ?_
    exact ⟨key,found,named,(Witnessed.here begun (PushedStore.find_stored read)).push _,rfl⟩

theorem consume_safe (begun : born ≤ h.past.length) (requestUri : Text) (expected : ClientId) :
    Safe (contract admits) born (returns fun request later => Read d born requestUri request later)
      (PushedAuthorizationService.consume d requestUri expected) h := by
  refine .check_bind fun key named => ?_
  refine passing (stable_begun _ born) (.of looks_now) begun fun at_ _ begun => ?_
  refine (lenient admits born).write (stable_begun _ born) begun
    (fun later _ _ => consumePushed_acts key expected at_) fun before begun _ => ?_
  refine .check_bind fun consumed taken => .ret (Read.stable born _ _) ?_
  exact ⟨key,consumed,named,(Witnessed.here begun (PushedStore.consume_stored taken)).push _,rfl⟩

theorem Taken.stable (born : Nat) (asked final : AuthorizationRequest) :
    Stable (rely admits) (Taken born asked final) := by
  rintro h w - (same | ⟨key,found,consumed,first,asked,second,final⟩)
  · exact .inl same
  · exact .inr ⟨key,found,consumed,first.push w,asked,second.push w,final⟩

theorem taken_of_read (found : Read d born requestUri asked h) (consumed : Read d born requestUri final h) :
    Taken born asked final h := by
  obtain ⟨key,first,named,seen,asked⟩ := found
  obtain ⟨again,second,renamed,taken,final⟩ := consumed
  cases named.symm.trans renamed
  exact .inr ⟨key,first,second,seen,asked,taken,final⟩

def Known (d : Deployment) (born : Nat) (requestUri : Option Text) (asked : AuthorizationRequest)
    (h : History State) : Prop :=
  match requestUri with
  | none => True
  | some uri => Read d born uri asked h

theorem Known.stable (born : Nat) (requestUri : Option Text) (asked : AuthorizationRequest) :
    Stable (rely admits) (Known d born requestUri asked) := by
  cases requestUri with
  | none => exact fun _ _ _ => id
  | some uri => exact Read.stable born uri asked

theorem consumePushed_safe (begun : born ≤ h.past.length) (requestUri : Option Text)
    (asked : AuthorizationRequest) (known : Known d born requestUri asked h) :
    Safe (contract admits) born (returns fun final later => Taken born asked final later)
      (OAuthHttp.consumePushed d requestUri asked) h := by
  cases requestUri with
  | none => exact .ret (Taken.stable born _ _) (.inl rfl)
  | some uri =>
    refine (consume_safe begun uri asked.clientId).grown (honest admits) |>.mono ?_
    rintro (e | final) later ⟨consumed,grown⟩
    · trivial
    · exact taken_of_read (grown.keep (Read.stable born uri asked) known) consumed

structure Cleared (born : Nat) (identity : IdentityId) (asked final : AuthorizationRequest)
    (h : History State) : Prop where
  taken : Taken born asked final h
  consent : Witnessed born (fun w => Consented w identity asked.clientId asked.resource asked.scopes) h
  resource : Witnessed born (fun w => Declares w asked.scopes asked.resource) h

theorem Cleared.stable (born : Nat) (identity : IdentityId) (asked final : AuthorizationRequest) :
    Stable (rely admits) (Cleared born identity asked final) := fun h w related known =>
  ⟨Taken.stable born asked final h w related known.taken,known.consent.push w,known.resource.push w⟩

theorem authorize_safe (authenticated : AuthenticatedSession)
    (cleared : Cleared born authenticated.identity asked final h) :
    Safe (contract admits) born (returns fun _ _ => True)
      (AuthorizationService.authorize d authenticated final) h := by
  refine .seq (honest admits) (requireActive_safe cleared.consent.1 final.clientId)
    fun client _ grown found => ?_
  refine .refuse_bind fun permitted => ?_
  simp only [Bool.or_eq_false_iff,Bool.not_eq_false'] at permitted
  have clears : Stable (rely admits) (Cleared born authenticated.identity asked final) :=
    Cleared.stable born _ _ _
  have stable := clears.and (Witnessed.stable (rely admits) born (ActiveClient final.clientId client))
  refine passing stable (.of looks_now) ⟨grown.keep clears cleared,found⟩ fun at_ _ known => ?_
  refine .refuse_bind fun _ => ?_
  refine passing stable (.of (looks_randomToken 32)) known fun generated _ known => ?_
  refine .check_bind fun fingerprint _ => .check_bind fun code created => ?_
  obtain ⟨clientId,identity,redirectUri,scopes,resource⟩ := AuthorizationCode.create_spec created
  refine (lenient admits born).write stable known (fun later known _ => ?_) fun _ _ _ => ?_
  · refine addCode_acts (.intro asked final ⟨clientId,redirectUri,scopes,resource⟩ known.1.taken ?_ ?_
      known.1.resource)
    · rw [clientId,redirectUri,scopes]
      exact known.2.mono fun w active => ⟨client,active.1,active.2,permitted.1,permitted.2⟩
    · rw [identity]
      exact known.1.consent
  · exact .check_bind fun _ _ _ _ => trivial

theorem redeem_safe (begun : born ≤ h.past.length) (code : Text) (clientId : ClientId)
    (redirectUri codeVerifier : Text) : Safe (contract admits) born (returns fun redeemed later =>
        Witnessed born (fun w => ∃ key : CodeDigest,w.codes[key]? = some redeemed) later)
      (AuthorizationService.redeem d code clientId redirectUri codeVerifier) h := by
  refine passing (stable_begun _ born) (.mapError _ (Hushed.of (looks_requireActive _))) begun
    fun _ _ begun => ?_
  refine .recheck_bind fun challenge _ => .check_bind fun fingerprint _ => ?_
  refine passing (stable_begun _ born) (.of looks_now) begun fun at_ _ begun => ?_
  refine (lenient admits born).write (stable_begun _ born) begun (fun later _ _ => consumeBound_acts _ _ _ _ _)
    fun before begun _ => ?_
  cases consumed : (CodeStore.consumeBound fingerprint at_ clientId.value redirectUri challenge.value
      before.now.codes).1 with
  | error e =>
    simp only [exec,CodeOp.exec,consumed]
    exact .fail
  | ok redeemed =>
    simp only [exec,CodeOp.exec,consumed]
    refine .ret (Witnessed.stable _ born _) ?_
    exact (Witnessed.here begun ⟨fingerprint,CodeStore.consumeBound_stored consumed⟩).push _

theorem begin_safe (clientId : ClientId) (scopes : List Scope) (resource : Option Text)
    (declared : Witnessed born (fun w => Declares w scopes resource) h) :
    Safe (contract admits) born (returns fun _ _ => True)
      (DeviceAuthorizationService.begin_ d clientId scopes resource) h := by
  have answered : Safe (contract admits) born (returns fun r later => returns
      (fun client later => Witnessed born (ActiveClient clientId client) later) r later)
      ((requireActive clientId).attempt : Call _) h :=
    (requireActive_safe declared.1 clientId).attempt
  refine .seq (honest admits) answered fun answer later grown found => ?_
  cases answer with
  | error e => exact .fail
  | ok active =>
    refine .refuse_bind fun permitted => ?_
    have stable : Stable (rely admits) fun h => Witnessed born (ActiveClient clientId active) h ∧
        Witnessed born (fun w => Declares w scopes resource) h :=
      (Witnessed.stable _ born _).and (Witnessed.stable _ born _)
    have known := And.intro found (grown.keep (Witnessed.stable _ born _) declared)
    refine passing stable (hushed_ask rfl) known fun deviceRandom _ known => ?_
    refine passing stable (hushed_ask rfl) known fun userRandom _ known => ?_
    refine .check_bind fun device _ => .check_bind fun userCode _ => ?_
    refine .check_bind fun deviceDigest _ => .check_bind fun userDigest _ => ?_
    refine passing stable (.of looks_now) known fun at_ _ known => ?_
    refine .check_bind fun authorization created => ?_
    obtain ⟨client,resource,members⟩ := DeviceAuthorization.create_spec created
    refine (lenient admits born).write stable known (fun later known _ => addDevice_acts ?_) fun _ _ _ => ?_
    · rw [client,resource]
      exact checked_of known.1 (by simpa using permitted) known.2 members
    · exact .check_bind fun _ _ _ _ => trivial

theorem approve_safe (userCode : Text) (authenticated : AuthenticatedSession) :
    Safe (contract admits) born (returns fun _ _ => True)
      (DeviceAuthorizationService.approve d userCode authenticated) h := by
  have nothing := stable_true (rely admits)
  refine .check_bind fun digest _ => ?_
  refine passing nothing (.of looks_now) trivial fun at_ _ known => ?_
  refine (lenient admits born).write nothing known (fun later _ _ => approve_acts _ _ _) fun _ _ _ => ?_
  exact hushed_safe (.check _ _)

theorem deny_safe (userCode : Text) :
    Safe (contract admits) born (returns fun _ _ => True) (DeviceAuthorizationService.deny d userCode) h := by
  have nothing := stable_true (rely admits)
  refine .check_bind fun digest _ => ?_
  refine passing nothing (.of looks_now) trivial fun at_ _ known => ?_
  refine (lenient admits born).write nothing known (fun later _ _ => deny_acts _ _) fun _ _ _ => ?_
  exact hushed_safe (.check _ _)

def Handed (born : Nat) (result : DevicePollResult) (h : History State) : Prop :=
  ∀ authorization,result.authorization = some authorization → Witnessed born
    (fun w => Approved w authorization.clientId authorization.scopes authorization.resource) h

theorem poll_safe (begun : born ≤ h.past.length) (deviceCode : Text) (expected : ClientId) :
    Safe (contract admits) born (returns fun result later => Handed born result later)
      (DeviceAuthorizationService.poll d deviceCode expected) h := by
  refine .check_bind fun digest _ => ?_
  refine passing (stable_begun _ born) (.of looks_now) begun fun at_ _ begun => ?_
  refine (lenient admits born).write (stable_begun _ born) begun (fun later _ _ => poll_acts _ _ _)
    fun before begun _ => ?_
  cases polled : (DeviceStore.poll digest expected at_ before.now.devices).1 with
  | error e =>
    simp only [exec,DeviceOp.exec,polled]
    exact .fail
  | ok result =>
    simp only [exec,DeviceOp.exec,polled]
    refine .ret (fun _ w _ known authorization handed => (known authorization handed).push w) ?_
    intro authorization handed
    obtain ⟨stored,present,same⟩ := DeviceStore.poll_stored polled handed
    exact (Witnessed.here begun (.inr ⟨digest,stored,present,same.clientId.symm,same.scopes.symm,
      same.resource.symm⟩)).push _

theorem requireActiveService_safe (tidy : Tidy h.now.clients h.now.resources) (begun : born ≤ h.past.length)
    (clientId : ClientId) (audience : Text) (scopes : List Text) : Safe (contract admits) born
      (returns fun service later => service.client = clientId ∧
        Witnessed born (fun w => w.resources.services[clientId]? = some service) later)
      (ServiceIdentityService.requireActive d clientId audience scopes) h := by
  have both : Stable (rely admits) fun h => Tidy h.now.clients h.now.resources ∧ born ≤ h.past.length :=
    stable_tidy.and (stable_begun _ born)
  refine passing both (.of (looks_requireActive _)) ⟨tidy,begun⟩ fun registered _ known => ?_
  refine .refuse_bind fun _ => ?_
  refine (lenient admits born).look both rfl known fun before known _ => ?_
  split
  · exact .fail
  · rename_i service found
    have seen : Witnessed born (fun w => w.resources.services[clientId]? = some service)
        (before.push before.now) := (Witnessed.here known.2 found).push _
    refine .refuse_bind fun _ => ?_
    refine passing (Witnessed.stable _ born _) (hushed_ask rfl) seen fun identity _ seen => ?_
    refine .refuse_bind fun _ => .ret (fun h w related known => ⟨known.1,known.2.push w⟩) ⟨?_,seen⟩
    exact known.1.services clientId service found

theorem hushed_checkAudiences (scopes audiences : List Text) :
    Hushed (ServiceIdentityService.checkAudiences scopes audiences) := by
  induction audiences with
  | nil => trivial
  | cons audience rest ih =>
    exact .bind (hushed_ask rfl) fun _ => .bind (.refuseIf _ _ _) fun _ => ih

theorem provision_safe (clientId : ClientId) (audiences scopes : List Text) :
    Safe (contract admits) born (returns fun _ _ => True)
      (ServiceIdentityService.provision d clientId audiences scopes) h := by
  have nothing := stable_true (rely admits)
  refine passing nothing (.of (looks_requireActive _)) trivial fun registered _ _ => ?_
  refine .refuse_bind fun _ => ?_
  refine passing nothing (hushed_checkAudiences scopes audiences) trivial fun _ _ _ => ?_
  refine passing nothing (hushed_ask rfl) trivial fun existing _ _ => ?_
  refine .refuse_bind fun _ => ?_
  refine passing nothing (.of (looks_randomToken 24)) trivial fun random _ _ => ?_
  refine passing nothing (.of looks_now) trivial fun createdAt _ _ => ?_
  refine .check_bind fun identity _ => ?_
  refine passing nothing (hushed_ask rfl) trivial fun added _ _ => .check_bind fun _ _ => ?_
  refine passing nothing (.of looks_now) trivial fun grantedAt _ _ => ?_
  split
  · exact passing nothing (hushed_ask rfl) trivial fun _ _ _ => .fail
  · rename_i service _
    exact (lenient admits born).write nothing trivial (fun later _ _ => saveService_acts service)
      fun _ _ _ _ _ => trivial

theorem setActive_safe (clientId : ClientId) (active : Bool) : Safe (contract admits) born (returns fun _ _ => True)
      (ServiceIdentityService.setActive clientId active) h := by
  have nothing := stable_true (rely admits)
  refine passing nothing (.bind (hushed_ask rfl) fun found => ?_) trivial fun service _ _ => ?_
  · cases found <;> trivial
  · refine passing nothing (.of looks_now) trivial fun at_ _ _ => ?_
    exact (lenient admits born).write nothing trivial (fun later _ _ => saveService_acts _)
      fun _ _ _ _ _ => trivial

theorem hushed_generateSecret (kind : ClientKind) : Hushed (generateSecret kind) := by
  unfold generateSecret
  split
  · trivial
  · exact .bind (Hushed.of (looks_randomToken 32)) fun _ => trivial

theorem registerClient_safe (applicationId : ApplicationId) (displayName : Text) (kind : ClientKind)
    (redirectUris scopes : List Text) : Safe (contract admits) born (returns fun _ _ => True)
      (registerClient d applicationId displayName kind redirectUris scopes) h := by
  have nothing := stable_true (rely admits)
  refine passing nothing (hushed_ask rfl) trivial fun application _ _ => .refuse_bind fun _ => ?_
  refine .check_bind fun parsedRedirects _ => .check_bind fun parsedScopes _ => ?_
  refine passing nothing (.of (looks_randomToken 24)) trivial fun randomId _ _ => ?_
  refine passing nothing (hushed_generateSecret kind) trivial fun plaintext _ _ => ?_
  refine .check_bind fun secretDigest _ => ?_
  refine passing nothing (.of looks_now) trivial fun created _ _ => .check_bind fun client _ => ?_
  refine (lenient admits born).write nothing trivial (fun later _ _ => addClient_acts client) fun _ _ _ => ?_
  exact .check_bind fun _ _ _ _ => trivial

theorem require_safe (tidy : Tidy h.now.clients h.now.resources) (id : ClientId) :
    Safe (contract admits) born (returns fun client later => Registered client later) (require id) h := by
  refine (lenient admits born).look stable_tidy rfl tidy fun before tidy _ => ?_
  split
  · exact .fail
  · rename_i client found
    refine .ret (stable_registered client) ⟨client,?_,rfl,rfl,rfl,rfl,rfl⟩
    rw [tidy.clients id client found]
    exact found

theorem rotateSecret_safe (tidy : Tidy h.now.clients h.now.resources) (id : ClientId) :
    Safe (contract admits) born (returns fun _ _ => True) (rotateSecret d id) h := by
  refine .seq (honest admits) (require_safe tidy id) fun client _ _ known => .refuse_bind fun _ => ?_
  have stable : Stable (rely admits) (Registered client) := stable_registered client
  refine passing stable (.of (looks_randomToken 32)) known fun generated _ known => ?_
  refine .check_bind fun calculated _ => ?_
  refine passing stable (.of looks_now) known fun at_ _ known => .check_bind fun changed replaced => ?_
  refine (lenient admits born).write stable known
    (fun later known _ => saveClient_acts known (Client.replaceSecret_same replaced)) fun _ _ _ => ?_
  exact .check_bind fun _ _ _ _ => trivial

theorem transition_safe (tidy : Tidy h.now.clients h.now.resources)
    (same : ∀ client at_ changed,change client at_ = .ok changed → Client.SameRegistration client changed)
    (id : ClientId) : Safe (contract admits) born (returns fun _ _ => True) (transition change id) h := by
  refine .seq (honest admits) (require_safe tidy id) fun client _ _ known => ?_
  have stable : Stable (rely admits) (Registered client) := stable_registered client
  refine passing stable (.of looks_now) known fun at_ _ known => .check_bind fun changed done => ?_
  refine (lenient admits born).write stable known
    (fun later known _ => saveClient_acts known (same client at_ changed done)) fun _ _ _ => ?_
  exact .check_bind fun _ _ _ _ => trivial

theorem registerResource_safe (audience displayName : Text) (scopes : List Text) :
    Safe (contract admits) born (returns fun _ _ => True)
      (ResourceRegistry.registerResource audience displayName scopes) h := by
  have nothing := stable_true (rely admits)
  refine passing nothing (.of (looks_randomToken 18)) trivial fun random _ _ => ?_
  refine passing nothing (.of looks_now) trivial fun created _ _ => .check_bind fun resource _ => ?_
  refine (lenient admits born).write nothing trivial (fun later _ _ => addResource_acts resource) fun _ _ _ => ?_
  exact .check_bind fun _ _ _ _ => trivial

theorem setStatus_safe (tidy : Tidy h.now.clients h.now.resources) (audience : Text) (status : ResourceStatus) :
    Safe (contract admits) born (returns fun _ _ => True) (ResourceRegistry.setStatus audience status) h := by
  refine (lenient admits born).look stable_tidy rfl tidy fun before tidy _ => ?_
  split
  · exact .fail
  · rename_i resource found
    have known : Declared resource (before.push before.now) := by
      refine ⟨resource,?_,rfl⟩
      rw [tidy.resources audience resource found]
      exact found
    have stable : Stable (rely admits) (Declared resource) := stable_declared resource
    refine passing stable (.of looks_now) known fun at_ _ known => .check_bind fun changed done => ?_
    obtain ⟨sameAudience,sameScopes⟩ := ResourceServer.setStatus_same done
    refine (lenient admits born).write stable known
      (fun later known _ => saveResource_acts known sameAudience sameScopes) fun _ _ _ => ?_
    exact .check_bind fun _ _ _ _ => trivial

end OpenProof.OAuthCalls
