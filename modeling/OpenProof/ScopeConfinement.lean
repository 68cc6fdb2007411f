import OpenProof.OAuthRuns

namespace OpenProof.ScopeConfinement
open AtomicPrograms Foundation World Services TokenService OAuthActs OAuthCalls OAuthRuns List
open Clients Resources
open Authorizations
open Tokens
open Http

variable {d : Deployment}

structure Opening (w : State) : Prop where
  tidy : Tidy w.clients w.resources
  codes : w.codes = ∅
  pushed : w.pushed = ∅
  devices : w.devices.byDevice = ∅
  tokens : w.tokens = .empty

def Grounded (w : State) (clientId : ClientId) (scopes : List Scope) (resource : Option Text) : Prop :=
  Permits w clientId scopes ∧ Declares w scopes resource

theorem stable_grounded (clientId : ClientId) (scopes : List Scope) (resource : Option Text) :
    Stable (rely admits) fun h => Grounded h.now clientId scopes resource :=
  (stable_permits clientId scopes).and (stable_declares scopes resource)

theorem Checked.grounded {scopes : List Scope} (checked : Checked born h clientId scopes resource)
    (grown : Grows (rely admits) ⟨w,[]⟩ h) : Grounded h.now clientId scopes resource :=
  ⟨checked.client.carry (stable_permits clientId scopes) grown,
    checked.resource.carry (stable_declares scopes resource) grown⟩

structure Waiting (h : History State) : Prop where
  pushed : ∀ w ∈ h.worlds,∀ (key : PushedRequestDigest) (pushed : PushedAuthorizationRequest),
    w.pushed[key]? = some pushed →
      Grounded h.now pushed.request.clientId pushed.request.scopes pushed.request.resource
  approved : ∀ w ∈ h.worlds,∀ clientId scopes resource,Approved w clientId scopes resource →
    Grounded h.now clientId scopes resource

theorem waiting_start (opening : Opening w) : Waiting ⟨w,[]⟩ := by
  constructor
  · intro v member key pushed stored
    cases mem_singleton.mp member
    simp [opening.pushed] at stored
  · intro v member clientId scopes resource approved
    cases mem_singleton.mp member
    rcases approved with ⟨key,code,stored,_⟩ | ⟨key,authorization,stored,_⟩
    · simp [opening.codes] at stored
    · simp [opening.devices] at stored

theorem Issued.grounded (issued : Issued born h code) (grown : Grows (rely admits) ⟨w,[]⟩ h) (waiting : Waiting h) :
    Grounded h.now code.clientId code.scopes code.resource := by
  cases issued with
  | intro asked final same taken client consent resource =>
    rw [same.clientId,same.scopes,same.resource]
    rcases taken with rfl | ⟨key,found,consumed,_,_,⟨_,v,member,stored⟩,rfl⟩
    · refine ⟨?_,resource.carry (stable_declares _ _) grown⟩
      have permits := client.mono fun w admitted => show Permits w code.clientId code.scopes from
        ⟨admitted.choose,admitted.choose_spec.1,admitted.choose_spec.2.2.2⟩
      rw [same.clientId,same.scopes] at permits
      exact permits.carry (stable_permits _ _) grown
    · exact waiting.pushed v (h.recent_subset born member) key consumed stored

theorem Acts.approved (acted : Acts admits born h w) (grown : Grows (rely admits) ⟨v,[]⟩ h) (waiting : Waiting h)
    {scopes : List Scope} (approved : Approved w clientId scopes resource) :
    Grounded h.now clientId scopes resource := by
  rcases approved with ⟨key,code,stored,rfl,rfl,rfl⟩ | ⟨key,after,stored,rfl,rfl,rfl⟩
  · rcases acted.codes key code stored with old | issued
    · exact waiting.approved h.now h.now_mem_worlds _ _ _ (.inl ⟨key,code,old,rfl,rfl,rfl⟩)
    · exact Issued.grounded issued grown waiting
  · rcases acted.devices key after stored with ⟨before,old,same⟩ | checked
    · rw [same.clientId,same.scopes,same.resource]
      exact waiting.approved h.now h.now_mem_worlds _ _ _ (.inr ⟨key,before,old,rfl,rfl,rfl⟩)
    · exact Checked.grounded checked grown

theorem stable_waiting (w : State) : Stable (rely admits) fun h => Grows (rely admits) ⟨w,[]⟩ h ∧ Waiting h := by
  rintro h v related ⟨grown,waiting⟩
  obtain ⟨born,acted⟩ := related
  refine ⟨.step grown ⟨born,acted⟩,⟨?_,?_⟩⟩
  · intro u member key pushed stored
    refine stable_grounded _ _ _ h v ⟨born,acted⟩ ?_
    rcases mem_cons.mp member with rfl | earlier
    · rcases acted.pushed key pushed stored with old | ⟨_,_,checked⟩
      · exact waiting.pushed h.now h.now_mem_worlds key pushed old
      · exact Checked.grounded checked grown
    · exact waiting.pushed u earlier key pushed stored
  · intro u member clientId scopes resource approved
    refine stable_grounded _ _ _ h v ⟨born,acted⟩ ?_
    rcases mem_cons.mp member with rfl | earlier
    · exact Acts.approved acted grown waiting approved
    · exact waiting.approved u earlier _ _ _ approved

def Offers (w : State) (audience : Text) (scopes : List Text) : Prop :=
  ∃ resource,w.resources.resources[audience]? = some resource ∧ ∀ scope ∈ scopes,scope ∈ resource.scopes.items

theorem stable_offers (audience : Text) (scopes : List Text) :
    Stable (rely admits) fun h => Offers h.now audience scopes := by
  rintro h w ⟨_,acted⟩ ⟨resource,stored,declared⟩
  obtain ⟨after,present,kept⟩ := acted.resources audience resource stored
  exact ⟨after,present,by rw [kept]; exact declared⟩

-- A property of token contexts that every grant type respects: to be shown once per
-- grant type, and then true of every token of every run.
structure Respected (admits : Op → History State → Prop) (Q : History State → TokenContext → Prop) : Prop where
  stable : ∀ context,Stable (rely admits) fun h => Q h context
  approved : ∀ h (context : TokenContext) clientId scopes resource,Grounded h.now clientId scopes resource →
    context.client = clientId → context.scopes = .ofList (scopes.map Scope.value) →
      context.audiences = .ofList resource.toList → Q h context
  credentials : ∀ h w (service : ServiceIdentity) (audience : Text) (scopes : List Text) senderConstraint at_,
    w ∈ h.worlds → w.resources.services[service.client]? = some service →
      (∀ scope ∈ scopes,scope ∈ service.scopes.items) → Offers h.now audience scopes →
        Q h (machineContext service audience scopes senderConstraint at_)
  exchanged : ∀ h (source : TokenContext) audience scopes senderConstraint,Q h source →
    audience ∈ source.audiences.items → (∀ scope ∈ scopes,scope ∈ source.scopes.items) →
      Q h (exchangeContext source.client source audience scopes senderConstraint)

def Carried (Q : History State → TokenContext → Prop) (h : History State) : Prop :=
  ∀ w ∈ h.worlds,∀ context,Held w.tokens context → Q h context

theorem Origin.respected (rules : Respected admits Q) (origin : Origin born h context)
    (grown : Grows (rely admits) ⟨w,[]⟩ h) (waiting : Waiting h) (carried : Carried Q h) : Q h context := by
  cases origin with
  | approved _ clientId scopes resource stored client scopesOf audiences =>
    obtain ⟨_,v,member,approved⟩ := stored
    exact rules.approved h context clientId scopes resource
      (waiting.approved v (h.recent_subset born member) _ _ _ approved) client scopesOf audiences
  | credentials service clientId audience scopes senderConstraint at_ stored client scopesHeld resource =>
    obtain ⟨_,v,member,owned⟩ := stored
    refine rules.credentials h v service audience scopes senderConstraint at_ (h.recent_subset born member)
      (client ▸ owned) scopesHeld (Witnessed.carry resource (stable_offers audience scopes) grown)
  | renewed _ stored =>
    obtain ⟨_,v,member,held⟩ := stored
    exact carried v (h.recent_subset born member) context held
  | exchanged source clientId audience scopes senderConstraint stored client audienceHeld scopesHeld =>
    obtain ⟨_,v,member,held⟩ := stored
    subst client
    exact rules.exchanged h source audience scopes senderConstraint
      (carried v (h.recent_subset born member) source held) audienceHeld scopesHeld

theorem Respected.carried (rules : Respected admits Q) (w : State) :
    Stable (rely admits) fun h => (Grows (rely admits) ⟨w,[]⟩ h ∧ Waiting h) ∧ Carried Q h := by
  rintro h v ⟨born,acted⟩ ⟨known,carried⟩
  refine ⟨stable_waiting w h v ⟨born,acted⟩ known,?_⟩
  intro u member context held
  refine rules.stable context h v ⟨born,acted⟩ ?_
  rcases mem_cons.mp member with rfl | earlier
  · rcases acted.tokens context held with old | origin
    · exact carried h.now h.now_mem_worlds context old
    · exact Origin.respected rules origin known.1 known.2 carried
  · exact carried u earlier context held

theorem Respected.held (rules : Respected admits Q) (opening : Opening w)
    (path : OAuthRun d admits (Pool.start w) pool) (held : Held pool.hist.now.tokens context) : Q pool.hist context := by
  have start : Carried Q ⟨w,[]⟩ := by
    intro v member context held
    cases mem_singleton.mp member
    rcases held with ⟨key,record,stored,_⟩ | ⟨key,record,stored,_⟩ <;>
      simp [opening.tokens,TokenStore.empty] at stored
  have reached := (grows opening.tidy path).keep (rules.carried w) ⟨⟨.refl,waiting_start opening⟩,start⟩
  exact reached.2 pool.hist.now pool.hist.now_mem_worlds context held

structure Confined (w : State) (context : TokenContext) : Prop where
  declared : ∀ scope ∈ context.scopes.items,oidcOnlyScope scope = false →
    ∀ audience ∈ context.audiences.items,
      ∃ resource,w.resources.resources[audience]? = some resource ∧ scope ∈ resource.scopes.items
  bare : context.audiences.items = [] → ∀ scope ∈ context.scopes.items,oidcOnlyScope scope = true

theorem confined_respected : Respected admits fun h context => Confined h.now context where
  stable context := by
    rintro h w ⟨_,acted⟩ confined
    refine ⟨fun scope member other audience listed => ?_,confined.bare⟩
    obtain ⟨resource,stored,declared⟩ := confined.declared scope member other audience listed
    obtain ⟨after,present,kept⟩ := acted.resources audience resource stored
    exact ⟨after,present,kept ▸ declared⟩
  approved h context clientId scopes resource grounded client carried audiences := by
    constructor
    · intro scope member other audience listed
      simp only [audiences,SortedList.SortedSet.mem_ofList,Option.mem_toList] at listed
      simp only [carried,SortedList.SortedSet.mem_ofList,mem_map] at member
      obtain ⟨item,asked,rfl⟩ := member
      subst listed
      obtain ⟨registered,stored,declares⟩ := grounded.2
      exact ⟨registered,stored,declares item asked other⟩
    · intro none scope member
      simp only [carried,SortedList.SortedSet.mem_ofList,mem_map] at member
      obtain ⟨item,asked,rfl⟩ := member
      cases resource with
      | none => exact grounded.2 item asked
      | some audience => simp [audiences] at none
  credentials h w service audience scopes senderConstraint at_ _ _ _ offers := by
    obtain ⟨resource,stored,declared⟩ := offers
    constructor
    · intro scope member _ named listed
      simp only [machineContext,SortedList.SortedSet.mem_ofList,mem_singleton] at member listed
      exact ⟨resource,listed ▸ stored,declared scope member⟩
    · intro none
      simp [machineContext] at none
  exchanged h source audience scopes senderConstraint confined audienceHeld scopesHeld := by
    constructor
    · intro scope member other named listed
      simp only [exchangeContext,SortedList.SortedSet.mem_ofList,mem_singleton] at member listed
      subst listed
      exact confined.declared scope (scopesHeld scope member) other _ audienceHeld
    · intro none
      simp [exchangeContext] at none

-- Whatever the admission of generated identifiers: every stored token stays within the
-- scopes its resources declare.
theorem scopes_confined {w : State} {pool : OAuthPool} (opening : Opening w)
    (path : OAuthRun d (fun _ _ => True) (Pool.start w) pool) : (∀ (key : TokenDigest) (record : AccessTokenRecord),
      pool.hist.now.tokens.access[key]? = some record → Confined pool.hist.now record.context) ∧
    ∀ (key : TokenDigest) (record : RefreshTokenRecord),
      pool.hist.now.tokens.refresh[key]? = some record → Confined pool.hist.now record.context := by
  constructor
  · intro key record stored
    exact confined_respected.held opening path (.inl ⟨key,record,stored,rfl⟩)
  · intro key record stored
    exact confined_respected.held opening path (.inr ⟨key,record,stored,rfl⟩)

theorem opening_demo : Opening (demoProcess entropy) := ⟨tidy_demo entropy,rfl,rfl,rfl,rfl⟩

def demoRedemption : HttpRequest :=
  demoPost "/oauth/token" (Text.of "grant_type=authorization_code&client_id=web&code=opa_k1"
    ++ "&redirect_uri=https://shop.example/cb&code_verifier=dBjftJeZ4CVP-mB92K27uhbUJU1p1r_wW1gFWFOEjXk")

def demoGrant : List (OAuthMove TokenActs.demoDeployment) :=
  .send _ demoApproval (by decide) :: List.replicate 16 (.act 0)
    ++ .send _ demoRedemption (by decide) :: List.replicate 15 (.act 1)

theorem scopes_confined_redeemed : ∃ pool : OAuthPool,
      OAuthRun TokenActs.demoDeployment (fun _ _ => True) (.start (demoProcess ["g1","k1","f","a0","r0"])) pool ∧
      (pool.hist.now.tokens.refresh.elements.map fun record => record.context.scopes.items) = [[Text.of "read"]] ∧
      ∀ (key : TokenDigest) (record : AccessTokenRecord),
        pool.hist.now.tokens.access[key]? = some record → Confined pool.hist.now record.context := by
  have played : (play exec (fun _ _ => true) demoGrant (.start (demoProcess ["g1","k1","f","a0","r0"]))).any
      (fun pool => (pool.hist.now.tokens.refresh.elements.map fun record => record.context.scopes.items) ==
        [[Text.of "read"]]) = true := by
    decide +kernel
  obtain ⟨pool,path,checked⟩ := play_reaches (fun _ _ _ => trivial) played
  exact ⟨pool,path,by simpa using checked,(scopes_confined (opening_demo) path).1⟩

-- The registered scopes of the token's client or, for what began as a machine grant,
-- those of a service identity the client has had.
def Within (h : History State) (context : TokenContext) : Prop :=
  ∀ scope ∈ context.scopes.items,
    (∃ client,h.now.clients[context.client]? = some client ∧ client.permitsScope scope = true) ∨
    context.provider = ⟨"client_credentials"⟩ ∧ ∃ w ∈ h.worlds,∃ service : ServiceIdentity,
      w.resources.services[context.client]? = some service ∧ scope ∈ service.scopes.items

theorem within_respected : Respected admits Within where
  stable context := by
    rintro h w ⟨_,acted⟩ within scope member
    rcases within scope member with ⟨client,stored,permitted⟩ | ⟨machine,v,seen,service,owned,listed⟩
    · obtain ⟨after,present,kept⟩ := acted.clients _ client stored
      refine .inl ⟨after,present,?_⟩
      simpa only [Client.permitsScope,kept.scopes] using permitted
    · exact .inr ⟨machine,v,mem_cons_of_mem _ seen,service,owned,listed⟩
  approved h context clientId scopes resource grounded client carried _ := by
    intro scope member
    obtain ⟨registered,stored,permitted⟩ := grounded.1
    simp only [carried,SortedList.SortedSet.mem_ofList,mem_map] at member
    obtain ⟨item,asked,rfl⟩ := member
    exact .inl ⟨registered,client ▸ stored,all_eq_true.mp permitted item asked⟩
  credentials h w service audience scopes senderConstraint at_ seen owned scopesHeld _ := by
    intro scope member
    simp only [machineContext,SortedList.SortedSet.mem_ofList] at member
    exact .inr ⟨rfl,w,seen,service,owned,scopesHeld scope member⟩
  exchanged h source audience scopes senderConstraint within _ scopesHeld := by
    intro scope member
    simp only [exchangeContext,SortedList.SortedSet.mem_ofList] at member
    exact within scope (scopesHeld scope member)

theorem scopes_registered_or_provisioned {w : State} {pool : OAuthPool} (opening : Opening w)
    (path : OAuthRun d (fun _ _ => True) (Pool.start w) pool) : (∀ (key : TokenDigest) (record : AccessTokenRecord),
      pool.hist.now.tokens.access[key]? = some record → Within pool.hist record.context) ∧
    ∀ (key : TokenDigest) (record : RefreshTokenRecord),
      pool.hist.now.tokens.refresh[key]? = some record → Within pool.hist record.context := by
  constructor
  · intro key record stored
    exact within_respected.held opening path (.inl ⟨key,record,stored,rfl⟩)
  · intro key record stored
    exact within_respected.held opening path (.inr ⟨key,record,stored,rfl⟩)

def demoCredentials : HttpRequest :=
  demoPost "/oauth/token" (Text.of "grant_type=client_credentials&client_id=opc_c1&client_secret=ops_s9"
    ++ "&resource=https://api.example")

def demoMachine : List (OAuthMove TokenActs.demoDeployment) :=
  .enter _ (.registerClient ⟨"app"⟩ "Batch" .service [] [Text.of "read"]) :: List.replicate 5 (.act 0)
    ++ .enter _ (.provision ⟨"opc_c1"⟩ [Text.of "https://api.example"] [Text.of "write"]) ::
      List.replicate 9 (.act 1)
    ++ .send _ demoCredentials (by decide) :: List.replicate 15 (.act 2)

theorem scopes_registered_or_provisioned_machine : ∃ pool : OAuthPool,
      OAuthRun TokenActs.demoDeployment (fun _ _ => True) (.start (demoProcess ["c1","s9","i1","f","a0"])) pool ∧
      (pool.hist.now.tokens.access.elements.map fun record => record.context.scopes.items) = [[Text.of "write"]] ∧
      ∀ (key : TokenDigest) (record : AccessTokenRecord),
        pool.hist.now.tokens.access[key]? = some record → Within pool.hist record.context := by
  have played : (play exec (fun _ _ => true) demoMachine (.start (demoProcess ["c1","s9","i1","f","a0"]))).any
      (fun pool => (pool.hist.now.tokens.access.elements.map fun record => record.context.scopes.items) ==
        [[Text.of "write"]]) = true := by
    decide +kernel
  obtain ⟨pool,path,checked⟩ := play_reaches (fun _ _ _ => trivial) played
  exact ⟨pool,path,by simpa using checked,(scopes_registered_or_provisioned (opening_demo) path).1⟩

theorem scopes_exceed_registration : ¬∀ (d : Deployment) (w : State) (pool : OAuthPool),Opening w →
      OAuthRun d (fun _ _ => True) (.start w) pool → ∀ (key : TokenDigest) (record : AccessTokenRecord),
          pool.hist.now.tokens.access[key]? = some record → ∀ scope ∈ record.context.scopes.items,
            ∃ client,pool.hist.now.clients[record.context.client]? = some client ∧
              client.permitsScope scope = true := by
  intro claimed
  have played : (play exec (fun _ _ => true) demoMachine (.start (demoProcess ["c1","s9","i1","f","a0"]))).any
      (fun pool => pool.hist.now.tokens.access.elements.any fun record =>
        record.context.scopes.items.any fun scope =>
          !pool.hist.now.clients[record.context.client]?.any fun client => client.permitsScope scope) = true := by
    decide +kernel
  obtain ⟨pool,path,checked⟩ := play_reaches (fun _ _ _ => trivial) played
  obtain ⟨record,listed,checked⟩ := List.any_eq_true.mp checked
  obtain ⟨key,stored⟩ := Map.mem_elements.mp listed
  obtain ⟨scope,member,foreign⟩ := List.any_eq_true.mp checked
  obtain ⟨client,registered,permitted⟩ :=
    claimed TokenActs.demoDeployment _ pool (opening_demo) path key record stored scope member
  simp [registered,permitted] at foreign

end OpenProof.ScopeConfinement
