import OpenProof.Services

namespace OpenProof.TenantViews
open AtomicPrograms Foundation World Services ClientManager AtomicPrograms.Prog Identities List
open Applications
open Clients Resources Authorizations

-- The repositories index their records by the records' own ids.
structure Keyed (w : State) : Prop where
  applications : ∀ (id : ApplicationId) (application : Application),
    w.applications.applications[id]? = some application → application.id = id
  clients : ∀ (id : ClientId) (client : Client),w.clients[id]? = some client → client.id = id
  services : ∀ (id : ClientId) (service : ServiceIdentity),
    w.resources.services[id]? = some service → service.client = id

theorem keyed_applications (op : ApplicationOp) (keyed : ∀ (id : ApplicationId) (application : Application),
      s.applications[id]? = some application → application.id = id) :
    ∀ (id : ApplicationId) (application : Application),
      (op.exec s).2.applications[id]? = some application → application.id = id := by
  cases op with
  | add application =>
    simp only [ApplicationOp.exec,ApplicationStore.add]
    split
    · exact keyed
    · exact Map.insert_keyed keyed application
  | save application =>
    simp only [ApplicationOp.exec,ApplicationStore.save]
    split
    · exact keyed
    · split
      · exact keyed
      · exact Map.insert_keyed keyed application
  | findById | list => exact keyed

theorem keyed_clients (op : ClientOp)
    (keyed : ∀ (id : ClientId) (client : Client),s[id]? = some client → client.id = id) :
    ∀ (id : ClientId) (client : Client),(op.exec s).2[id]? = some client → client.id = id := by
  cases op with
  | add client =>
    simp only [ClientOp.exec,ClientStore.add]
    split
    · exact keyed
    · exact Map.insert_keyed keyed client
  | save client =>
    simp only [ClientOp.exec,ClientStore.save]
    split
    · exact keyed
    · split
      · exact keyed
      · exact Map.insert_keyed keyed client
  | findById | clientsOf => exact keyed

theorem keyed_services (op : ResourceOp) (keyed : ∀ (id : ClientId) (service : ServiceIdentity),
      s.services[id]? = some service → service.client = id) : ∀ (id : ClientId) (service : ServiceIdentity),
      (op.exec s).2.services[id]? = some service → service.client = id := by
  cases op with
  | add resource =>
    simp only [ResourceOp.exec,ResourceStore.add]
    split <;> exact keyed
  | save resource =>
    simp only [ResourceOp.exec,ResourceStore.save]
    split <;> exact keyed
  | saveService service => exact Map.insert_keyed keyed service
  | findByAudience | list | serviceForClient => exact keyed

theorem keyed_exec (op : Op) (keyed : Keyed w) : Keyed (exec op w).2 := by
  cases op with
  | application op => exact ⟨keyed_applications op keyed.applications,keyed.clients,keyed.services⟩
  | client op => exact ⟨keyed.applications,keyed_clients op keyed.clients,keyed.services⟩
  | resource op => exact ⟨keyed.applications,keyed.clients,keyed_services op keyed.services⟩
  | _ => exact ⟨keyed.applications,keyed.clients,keyed.services⟩

theorem keyed_run (p : Prog Op Op.Ret Err α) (keyed : Keyed w) : Keyed (p.run exec w).2 := by
  induction p generalizing w with
  | ret | fail => exact keyed
  | call op next ih => exact ih _ (keyed_exec op keyed)

theorem keyed_empty (surroundings : Surroundings) (entropy : List (Result Text)) :
    Keyed { State.empty surroundings with entropy := entropy } := by
  constructor <;> intro id record found <;> simp [State.empty] at found

def foreignApplication (o : OrganizationId) (w : State) (id : ApplicationId) : Bool :=
  w.applications.applications[id]?.any fun application => application.owner != o

def foreignClient (o : OrganizationId) (w : State) (id : ClientId) : Bool :=
  w.clients[id]?.any fun client => foreignApplication o w client.applicationId

def foreignIdentifier (o : OrganizationId) (w : State) (key : Text) : Bool :=
  w.applications.applications.elements.any fun application => application.owner != o
    && ApplicationStore.tenantIdentifierKey application.owner application.identifier == key

def confine (o : OrganizationId) (w : State) : State :=
  { w with
    applications :=
      { applications := w.applications.applications.filter fun id _ => !foreignApplication o w id
        identifiers := w.applications.identifiers.filter fun key _ => !foreignIdentifier o w key }
    clients := w.clients.filter fun id _ => !foreignClient o w id
    resources :=
      { w.resources with services := w.resources.services.filter fun id _ => !foreignClient o w id }
    jar := { w.jar with keys := w.jar.keys.filter fun id _ => !foreignClient o w id } }

-- The client `requireActive` answers with.
def activeClient (w : State) (id : ClientId) : Option Client :=
  w.clients[id]?.filter fun client => client.permitsAuthorization
    && w.applications.applications[client.applicationId]?.any fun application =>
      application.permitsAuthorization

theorem requireActive_run (id : ClientId) (w : State) : (requireActive id).run exec w =
      ((activeClient w id).elim (.error authenticationError) .ok,w) := by
  unfold requireActive activeClient
  cases found : w.clients[id]? with
  | none => simp [bind,exec,ClientOp.exec,ClientStore.findById,found]
  | some client =>
    cases active : client.permitsAuthorization with
    | false =>
      simp [bind,exec,ClientOp.exec,ClientStore.findById,found,active,refuseIf,
        Option.filter_some]
    | true =>
      cases home : w.applications.applications[client.applicationId]? with
      | none =>
        simp [bind,exec,ClientOp.exec,ClientStore.findById,found,active,home,ApplicationOp.exec,
          ApplicationStore.findById,refuseIf,Option.filter_some]
      | some application =>
        cases live : application.permitsAuthorization <;>
          simp [bind,exec,ClientOp.exec,ClientStore.findById,found,active,home,live,ApplicationOp.exec,
            ApplicationStore.findById,refuseIf,Option.filter_some]

structure Fresh (o : OrganizationId) (w : State) : Prop where
  applications : ∀ text,.ok text ∈ w.entropy → foreignApplication o w ⟨text⟩ = false
  clients : ∀ text,.ok text ∈ w.entropy → foreignClient o w ⟨Text.of "opc_" ++ text⟩ = false
  failures : ∀ e,.error e ∈ w.entropy → e = randomFailure

-- Two runs side by side: `v` still holds what was hidden in `origin` and `w` never did.
structure Shadow (o : OrganizationId) (origin v w : State) : Prop where
  clock : w.clock = v.clock
  entropy : w.entropy = v.entropy
  drawn : v.entropy ⊆ origin.entropy
  identities : w.identities = v.identities
  resources : w.resources.resources = v.resources.resources
  applications : Shadowed (foreignApplication o origin) origin.applications.applications
    v.applications.applications w.applications.applications
  identifiers : Shadowed (foreignIdentifier o origin) origin.applications.identifiers
    v.applications.identifiers w.applications.identifiers
  clients : Shadowed (foreignClient o origin) origin.clients v.clients w.clients
  keys : Shadowed (foreignClient o origin) origin.jar.keys v.jar.keys w.jar.keys
  services : Shadowed (foreignClient o origin) origin.resources.services v.resources.services
    w.resources.services
  keyed : Keyed v
  homes : ∀ (id : ClientId) (client : Client),foreignClient o origin id = false →
    v.clients[id]? = some client → foreignApplication o origin client.applicationId = false

theorem shadow_confine (o : OrganizationId) (keyed : Keyed w) : Shadow o w w (confine o w) where
  clock := rfl
  entropy := rfl
  drawn := List.Subset.refl _
  identities := rfl
  resources := rfl
  applications := .start ..
  identifiers := .start ..
  clients := .start ..
  keys := .start ..
  services := .start ..
  keyed := keyed
  homes := by
    intro id client visible found
    simpa only [foreignClient,found,Option.any_some] using visible

theorem identifierBody_zero (valid : identifierBody separated identifier = true) : 0 ∉ identifier := by
  induction identifier generalizing separated with
  | nil => exact not_mem_nil
  | cons byte rest ih =>
    simp only [identifierBody,Bool.and_eq_true] at valid
    rw [mem_cons,not_or]
    refine ⟨?_,ih valid.2⟩
    rintro rfl
    exact absurd valid.1.1 (by decide)

theorem validIdentifier_zero {identifier : Text} (valid : validIdentifier identifier = true) : 0 ∉ identifier := by
  simp only [validIdentifier,Bool.and_eq_true] at valid
  exact identifierBody_zero valid.2

theorem before_zero {a b x y : Text} (first : 0 ∉ x) (second : 0 ∉ y) (same : a ++ 0 :: x = b ++ 0 :: y) : a = b := by
  -- Whichever of the two is longer, what it has more would put a zero into the other's identifier.
  rcases append_eq_append_iff.mp same with ⟨more,rfl,rest⟩ | ⟨more,rfl,rest⟩
  · cases more with
    | nil => exact (append_nil a).symm
    | cons byte tail =>
      refine absurd ?_ first
      rw [(List.cons.inj rest).2]
      exact mem_append_right _ mem_cons_self
  · cases more with
    | nil => exact append_nil b
    | cons byte tail =>
      refine absurd ?_ second
      rw [(List.cons.inj rest).2]
      exact mem_append_right _ mem_cons_self

theorem own_identifier {o : OrganizationId} (valid : validIdentifier identifier = true) :
    foreignIdentifier o w (ApplicationStore.tenantIdentifierKey o identifier) = false := by
  rw [foreignIdentifier,any_eq_false]
  rintro application - clash
  rw [Bool.and_eq_true,bne_iff_ne,beq_iff_eq] at clash
  refine clash.1 ?_
  have same := before_zero (validIdentifier_zero application.named) (validIdentifier_zero valid) clash.2
  cases o
  exact congrArg StrongId.mk same

-- A call that cannot tell whether the hidden records are there.
abbrev Blind (o : OrganizationId) (origin : State) (p : Prog Op Op.Ret Err α) (Q : α → Prop) : Prop :=
  Alike exec (Shadow o origin) p Q

section

theorem blind_now : Blind o origin now fun _ => True :=
  .perform fun _ _ related => ⟨related.clock,related,trivial⟩

theorem blind_randomToken (bytes : Nat) :
    Blind o origin (randomToken bytes) fun text => .ok text ∈ origin.entropy := by
  refine .bind (Q:=fun drawn => ∀ text,drawn = .ok text → .ok text ∈ origin.entropy) (.perform ?_) ?_
  · intro v w related
    refine ⟨?_,?_,?_⟩
    · simp only [exec,related.entropy]
    · exact { related with
        entropy := congrArg tail related.entropy
        drawn := fun _ later => related.drawn (mem_of_mem_tail later)
        keyed := keyed_exec _ related.keyed }
    · intro text drawn
      refine related.drawn ?_
      cases left : v.entropy with
      | nil => simp [exec,left] at drawn
      | cons first rest =>
        simp only [exec,left,headD_cons] at drawn
        rw [drawn]
        exact mem_cons_self
  · intro drawn known
    cases drawn with
    | ok text => exact .ret (known text rfl)
    | error e => exact .fail

theorem blind_identity : Blind o origin (ask (.identity op) : Prog Op Op.Ret Err _) fun _ => True := by
  refine .perform fun v w related => ?_
  refine ⟨by simp only [exec,related.identities],?_,trivial⟩
  exact { related with
    identities := by simp only [exec,related.identities]
    keyed := keyed_exec _ related.keyed }

theorem blind_application {id : ApplicationId} (visible : foreignApplication o origin id = false) :
    Blind o origin (ask (.application (.findById id)) : Prog Op Op.Ret Err _)
      fun found => ∀ application,found = some application → application.id = id :=
  .perform fun _ _ related =>
    ⟨related.applications.same id visible,related,related.keyed.applications id⟩

theorem blind_addApplication (owned : application.owner = o)
    (visible : foreignApplication o origin application.id = false) :
    Blind o origin (ask (.application (.add application)) : Prog Op Op.Ret Err _) fun _ => True := by
  have free : foreignIdentifier o origin
      (ApplicationStore.tenantIdentifierKey application.owner application.identifier) = false := by
    rw [owned]
    exact own_identifier application.named
  refine .perform fun v w related => ?_
  have keyed := keyed_exec (.application (.add application)) related.keyed
  simp only [exec,ApplicationOp.exec,ApplicationStore.add,related.applications.holds_same visible,
    related.identifiers.holds_same free] at keyed ⊢
  split
  · exact ⟨rfl,related,trivial⟩
  · rename_i absent
    rw [if_neg absent] at keyed
    exact ⟨rfl,{ related with
      applications := related.applications.insert visible application
      identifiers := related.identifiers.insert free application.id
      keyed := keyed },trivial⟩

theorem blind_saveApplication (visible : foreignApplication o origin application.id = false) :
    Blind o origin (ask (.application (.save application)) : Prog Op Op.Ret Err _) fun _ => True := by
  refine .perform fun v w related => ?_
  have keyed := keyed_exec (.application (.save application)) related.keyed
  simp only [exec,ApplicationOp.exec,ApplicationStore.save,related.applications.same _ visible] at keyed ⊢
  cases found : v.applications.applications[application.id]? with
  | none => exact ⟨rfl,related,trivial⟩
  | some stored =>
    simp only [found] at keyed
    dsimp only
    split
    · exact ⟨rfl,related,trivial⟩
    · rename_i unchanged
      rw [if_neg unchanged] at keyed
      exact ⟨rfl,{ related with
        applications := related.applications.insert visible application
        keyed := keyed },trivial⟩

theorem blind_client {id : ClientId} (visible : foreignClient o origin id = false) :
    Blind o origin (ask (.client (.findById id)) : Prog Op Op.Ret Err _) fun found => ∀ client,
      found = some client → client.id = id ∧ foreignApplication o origin client.applicationId = false :=
  .perform fun _ _ related => ⟨related.clients.same id visible,related,
    fun client found => ⟨related.keyed.clients id client found,related.homes id client visible found⟩⟩

theorem blind_clientsOf {id : ApplicationId} (visible : foreignApplication o origin id = false) :
    Blind o origin (ask (.client (.clientsOf id)) : Prog Op Op.Ret Err _) fun _ => True := by
  refine .perform fun v w related => ⟨?_,related,trivial⟩
  refine related.clients.elements_filter fun key client hide stored => ?_
  rw [foreignClient,stored,Option.any_some] at hide
  refine decide_eq_false fun same => ?_
  rw [same,visible] at hide
  cases hide

theorem shadow_client (related : Shadow o origin v w) (visible : foreignClient o origin client.id = false)
    (home : foreignApplication o origin client.applicationId = false)
    (keyed : Keyed { v with clients := v.clients.insert client.id client }) :
    Shadow o origin { v with clients := v.clients.insert client.id client }
      { w with clients := w.clients.insert client.id client } :=
  { related with
    clients := related.clients.insert visible client
    keyed := keyed
    homes := by
      intro id stored shown found
      rcases Map.insert_cases found with ⟨_,rfl⟩ | before
      · exact home
      · exact related.homes id stored shown before }

theorem blind_addClient (visible : foreignClient o origin client.id = false)
    (home : foreignApplication o origin client.applicationId = false) :
    Blind o origin (ask (.client (.add client)) : Prog Op Op.Ret Err _) fun _ => True := by
  refine .perform fun v w related => ?_
  have keyed := keyed_exec (.client (.add client)) related.keyed
  simp only [exec,ClientOp.exec,ClientStore.add,related.clients.holds_same visible] at keyed ⊢
  split
  · exact ⟨rfl,related,trivial⟩
  · rename_i absent
    rw [if_neg absent] at keyed
    exact ⟨rfl,shadow_client related visible home keyed,trivial⟩

theorem blind_saveClient (visible : foreignClient o origin client.id = false)
    (home : foreignApplication o origin client.applicationId = false) :
    Blind o origin (ask (.client (.save client)) : Prog Op Op.Ret Err _) fun _ => True := by
  refine .perform fun v w related => ?_
  have keyed := keyed_exec (.client (.save client)) related.keyed
  simp only [exec,ClientOp.exec,ClientStore.save,related.clients.same _ visible] at keyed ⊢
  cases found : v.clients[client.id]? with
  | none => exact ⟨rfl,related,trivial⟩
  | some stored =>
    simp only [found] at keyed
    dsimp only
    split
    · exact ⟨rfl,related,trivial⟩
    · rename_i unchanged
      rw [if_neg unchanged] at keyed
      exact ⟨rfl,shadow_client related visible home keyed,trivial⟩

theorem blind_addResource (resource : ResourceServer) :
    Blind o origin (ask (.resource (.add resource)) : Prog Op Op.Ret Err _) fun _ => True := by
  refine .perform fun v w related => ?_
  have keyed := keyed_exec (.resource (.add resource)) related.keyed
  simp only [exec,ResourceOp.exec,ResourceStore.add,related.resources] at keyed ⊢
  split
  · exact ⟨rfl,{ related with },trivial⟩
  · rename_i absent
    rw [if_neg absent] at keyed
    exact ⟨rfl,{ related with resources := rfl,keyed := keyed },trivial⟩

theorem blind_saveResource (resource : ResourceServer) :
    Blind o origin (ask (.resource (.save resource)) : Prog Op Op.Ret Err _) fun _ => True := by
  refine .perform fun v w related => ?_
  have keyed := keyed_exec (.resource (.save resource)) related.keyed
  simp only [exec,ResourceOp.exec,ResourceStore.save,related.resources] at keyed ⊢
  split
  · rename_i present
    rw [if_pos present] at keyed
    exact ⟨rfl,{ related with resources := rfl,keyed := keyed },trivial⟩
  · exact ⟨rfl,{ related with },trivial⟩

theorem blind_resource (audience : Text) :
    Blind o origin (ask (.resource (.findByAudience audience)) : Prog Op Op.Ret Err _) fun _ => True :=
  .perform fun _ _ related =>
    ⟨congrArg (fun resources : Map Text ResourceServer => resources[audience]?) related.resources,related,
      trivial⟩

theorem blind_resources : Blind o origin (ask (.resource .list) : Prog Op Op.Ret Err _) fun _ => True :=
  .perform fun _ _ related => ⟨congrArg Map.elements related.resources,related,trivial⟩

theorem blind_service {id : ClientId} (visible : foreignClient o origin id = false) :
    Blind o origin (ask (.resource (.serviceForClient id)) : Prog Op Op.Ret Err _)
      fun found => ∀ service,found = some service → service.client = id :=
  .perform fun _ _ related => ⟨related.services.same id visible,related,related.keyed.services id⟩

theorem blind_saveService (visible : foreignClient o origin service.client = false) :
    Blind o origin (ask (.resource (.saveService service)) : Prog Op Op.Ret Err _) fun _ => True :=
  .perform fun _ _ related => ⟨rfl,{ related with
    services := related.services.insert visible service
    keyed := keyed_exec (.resource (.saveService service)) related.keyed },trivial⟩

theorem blind_jarKey {id : ClientId} (visible : foreignClient o origin id = false) :
    Blind o origin (ask (.jar (.find id)) : Prog Op Op.Ret Err _) fun _ => True :=
  .perform fun _ _ related => ⟨related.keys.same id visible,related,trivial⟩

theorem blind_saveJarKey (visible : foreignClient o origin key.clientId = false) :
    Blind o origin (ask (.jar (.save key)) : Prog Op Op.Ret Err _) fun _ => True :=
  .perform fun _ _ related => ⟨rfl,{ related with
    keys := related.keys.insert visible key
    keyed := keyed_exec (.jar (.save key)) related.keyed },trivial⟩

theorem blind_removeJarKey {id : ClientId} (visible : foreignClient o origin id = false) :
    Blind o origin (ask (.jar (.remove id)) : Prog Op Op.Ret Err _) fun _ => True :=
  .perform fun _ _ related => ⟨rfl,{ related with
    keys := related.keys.erase visible
    keyed := keyed_exec (.jar (.remove id)) related.keyed },trivial⟩

theorem blind_registerApplication (fresh : Fresh o origin) (identifier displayName : Text) (environment : Environment) :
    Blind o origin (ApplicationRegistry.registerApplication o identifier displayName environment) fun _ => True := by
  refine .bind (blind_randomToken 24) fun id drawn => .bind blind_now fun created _ => ?_
  refine .bind .check fun application built => ?_
  obtain ⟨same,owned⟩ := Application.create_spec built
  have visible : foreignApplication o origin application.id = false := by
    rw [same]
    exact fresh.applications id drawn
  exact .bind (blind_addApplication owned visible) fun _ _ => .bind .check fun _ _ => .ret trivial

theorem blind_applicationTransition {id : ApplicationId} (visible : foreignApplication o origin id = false)
    (keeps : ∀ {application changed : Application} {at_ : Instant},change application at_ = .ok changed →
      Application.SameRegistration application changed) :
    Blind o origin (ApplicationRegistry.transition change id) fun _ => True := by
  refine .bind (Q:=fun application => application.id = id) ?_ fun application known => ?_
  · refine .bind (blind_application visible) fun found known => ?_
    cases found with
    | none => exact .fail
    | some application => exact .ret (known application rfl)
  · refine .bind blind_now fun at_ _ => .bind .check fun changed done => ?_
    have still : foreignApplication o origin changed.id = false := by
      rw [(keeps done).id,known]
      exact visible
    exact .bind (blind_saveApplication still) fun _ _ => .bind .check fun _ _ => .ret trivial

theorem blind_generateSecret (kind : ClientKind) : Blind o origin (generateSecret kind) fun _ => True := by
  unfold generateSecret
  split
  · exact .ret trivial
  · exact .bind (blind_randomToken 32) fun _ _ => .ret trivial

variable (d : Deployment)

theorem blind_registerClient (fresh : Fresh o origin) (home : foreignApplication o origin applicationId = false)
    (displayName : Text) (kind : ClientKind) (redirectUris scopes : List Text) :
    Blind o origin (registerClient d applicationId displayName kind redirectUris scopes) fun _ => True := by
  refine .bind (blind_application home) fun application _ => .bind .refuse fun _ _ => ?_
  refine .bind .check fun parsedRedirects _ => .bind .check fun parsedScopes _ => ?_
  refine .bind (blind_randomToken 24) fun id drawn => .bind (blind_generateSecret kind) fun secret _ => ?_
  refine .bind .check fun digest _ => .bind blind_now fun created _ => .bind .check fun client built => ?_
  obtain ⟨same,placed⟩ := Client.create_spec built
  rw [← placed] at home
  have visible : foreignClient o origin client.id = false := by
    rw [same]
    exact fresh.clients id drawn
  exact .bind (blind_addClient visible home) fun _ _ => .bind .check fun _ _ => .ret trivial

theorem blind_requireClient {id : ClientId} (visible : foreignClient o origin id = false) :
    Blind o origin (require id) fun client =>
      client.id = id ∧ foreignApplication o origin client.applicationId = false := by
  refine .bind (blind_client visible) fun found known => ?_
  cases found with
  | none => exact .fail
  | some client => exact .ret (known client rfl)

theorem blind_changedClient {id : ClientId} (visible : foreignClient o origin id = false)
    (known : client.id = id ∧ foreignApplication o origin client.applicationId = false)
    (same : Client.SameRegistration client changed) :
    Blind o origin (ask (.client (.save changed)) : Prog Op Op.Ret Err _) fun _ => True := by
  refine blind_saveClient ?_ ?_
  · rw [same.id,known.1]
    exact visible
  · rw [same.applicationId]
    exact known.2

theorem blind_rotateSecret {id : ClientId} (visible : foreignClient o origin id = false) :
    Blind o origin (rotateSecret d id) fun _ => True := by
  refine .bind (blind_requireClient visible) fun client known => .bind .refuse fun _ _ => ?_
  refine .bind (blind_randomToken 32) fun generated _ => .bind .check fun calculated _ => ?_
  refine .bind blind_now fun at_ _ => .bind .check fun changed done => ?_
  exact .bind (blind_changedClient visible known (Client.replaceSecret_same done)) fun _ _ =>
    .bind .check fun _ _ => .ret trivial

theorem blind_clientTransition {id : ClientId} (visible : foreignClient o origin id = false)
    (keeps : ∀ {client changed : Client} {at_ : Instant},change client at_ = .ok changed →
      Client.SameRegistration client changed) : Blind o origin (transition change id) fun _ => True := by
  refine .bind (blind_requireClient visible) fun client known => ?_
  refine .bind blind_now fun at_ _ => .bind .check fun changed done => ?_
  exact .bind (blind_changedClient visible known (keeps done)) fun _ _ => .bind .check fun _ _ => .ret trivial

theorem blind_registerKey {id : ClientId} (visible : foreignClient o origin id = false) (keyId publicKeyPem : Text) :
    Blind o origin (JarService.registerKey d id keyId publicKeyPem) fun _ => True := by
  refine .bind .check fun _ _ => .bind blind_now fun at_ _ => .bind .check fun key built => ?_
  rw [← ClientRequestSigningKey.create_client built] at visible
  exact blind_saveJarKey visible

theorem blind_key {id : ClientId} (visible : foreignClient o origin id = false) :
    Blind o origin (JarService.key id) fun _ => True := by
  refine .bind (blind_jarKey visible) fun found _ => ?_
  cases found with
  | none => exact .fail
  | some key => exact .ret trivial

theorem blind_registerResource (audience displayName : Text) (scopes : List Text) :
    Blind o origin (ResourceRegistry.registerResource audience displayName scopes) fun _ => True := by
  refine .bind (blind_randomToken 18) fun random _ => .bind blind_now fun created _ => ?_
  refine .bind .check fun resource _ => .bind (blind_addResource resource) fun _ _ => ?_
  exact .bind .check fun _ _ => .ret trivial

theorem blind_setStatus (audience : Text) (status : Resources.ResourceStatus) :
    Blind o origin (ResourceRegistry.setStatus audience status) fun _ => True := by
  refine .bind (blind_resource audience) fun found _ => ?_
  cases found with
  | none => exact .fail
  | some resource =>
    refine .bind blind_now fun at_ _ => .bind .check fun changed _ => ?_
    exact .bind (blind_saveResource changed) fun _ _ => .bind .check fun _ _ => .ret trivial

theorem blind_checkAudiences (scopes audiences : List Text) :
    Blind o origin (ServiceIdentityService.checkAudiences scopes audiences) fun _ => True := by
  induction audiences with
  | nil => exact .ret trivial
  | cons audience rest ih =>
    exact .bind (blind_resource audience) fun _ _ => .bind .refuse fun _ _ => ih

theorem shadow_activeClient (related : Shadow o origin v w) {id : ClientId}
    (hide : foreignClient o origin id = true) :
    activeClient v id = activeClient origin id ∧ activeClient w id = none := by
  unfold activeClient
  rw [related.clients.kept id hide,related.clients.gone id hide]
  refine ⟨?_,rfl⟩
  cases stored : origin.clients[id]? with
  | none => rfl
  | some client =>
    rw [foreignClient,stored,Option.any_some] at hide
    rw [Option.filter_some,Option.filter_some,related.applications.kept _ hide]

theorem blind_requireActive {id : ClientId}
    (inactive : foreignClient o origin id = true → activeClient origin id = none) :
    Blind o origin (requireActive id) fun _ => foreignClient o origin id = false := by
  cases hide : foreignClient o origin id with
  | true =>
    refine .turned (e:=authenticationError) (fun v w related => ?_) fun v w related => ?_
    · rw [requireActive_run,(shadow_activeClient related hide).1,inactive hide]
      rfl
    · rw [requireActive_run,(shadow_activeClient related hide).2]
      rfl
  | false =>
    refine .bind (blind_client hide) fun found known => ?_
    cases found with
    | none => exact .fail
    | some client =>
      refine .bind .refuse fun _ _ => .bind (blind_application (known client rfl).2) fun application _ => ?_
      exact .bind .refuse fun _ _ => .ret rfl

theorem blind_provision {id : ClientId} (inactive : foreignClient o origin id = true → activeClient origin id = none)
    (audiences scopes : List Text) :
    Blind o origin (ServiceIdentityService.provision d id audiences scopes) fun _ => True := by
  refine .bind (blind_requireActive inactive) fun registered visible => .bind .refuse fun _ _ => ?_
  refine .bind (blind_checkAudiences scopes audiences) fun _ _ => ?_
  refine .bind (blind_service visible) fun existing _ => .bind .refuse fun _ _ => ?_
  refine .bind (blind_randomToken 24) fun random _ => .bind blind_now fun createdAt _ => ?_
  refine .bind .check fun identity _ => .bind (blind_identity) fun _ _ => .bind .check fun _ _ => ?_
  refine .bind blind_now fun grantedAt _ => ?_
  cases built : ServiceIdentity.create ⟨Text.of "opsi_" ++ random⟩ id audiences scopes grantedAt with
  | error e => exact .bind (blind_identity) fun _ _ => .fail
  | ok service =>
    rw [← ServiceIdentity.create_client built] at visible
    refine .bind (blind_saveService visible) fun saved _ => ?_
    cases saved with
    | error e => exact .bind (blind_identity) fun _ _ => .fail
    | ok _ => exact .ret trivial

theorem find_run (id : ClientId) (w : State) : (ServiceIdentityService.find id).run exec w =
      (w.resources.services[id]?.elim (.error (.plain .notFound)) .ok,w) := by
  cases stored : w.resources.services[id]? <;>
    simp [ServiceIdentityService.find,bind,exec,ResourceOp.exec,ResourceStore.serviceForClient,stored]

theorem blind_find {id : ClientId}
    (absent : foreignClient o origin id = true → origin.resources.services[id]? = none) :
    Blind o origin (ServiceIdentityService.find id) fun service =>
      foreignClient o origin service.client = false := by
  cases hide : foreignClient o origin id with
  | true =>
    refine .turned (e:=.plain .notFound) (fun v w related => ?_) fun v w related => ?_
    · rw [find_run,related.services.kept id hide,absent hide]
      rfl
    · rw [find_run,related.services.gone id hide]
      rfl
  | false =>
    refine .bind (blind_service hide) fun found known => ?_
    cases found with
    | none => exact .fail
    | some service =>
      refine .ret ?_
      rw [known service rfl]
      exact hide

theorem blind_setActive {id : ClientId}
    (absent : foreignClient o origin id = true → origin.resources.services[id]? = none) (active : Bool) :
    Blind o origin (ServiceIdentityService.setActive id active) fun _ => True := by
  refine .bind (blind_find absent) fun service visible => .bind blind_now fun at_ _ => ?_
  refine .bind (blind_saveService ?_) fun _ _ => .bind .check fun _ _ => .ret trivial
  cases active <;> exact visible

end

end OpenProof.TenantViews
