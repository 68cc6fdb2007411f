import OpenProof.ApplicationHttp
import OpenProof.TenantViews
import OpenProof.OAuthRuns

namespace OpenProof.TenantConfinement
open AtomicPrograms Foundation World Services TenantViews ApplicationHttp ServiceIdentityService AtomicPrograms.Prog
open Identities
open Applications
open Clients Resources
open Http
open OAuthHttp (Handler)

section
variable {o : OrganizationId} (request : HttpRequest)

theorem ownedApplication_hidden {w : State} {id : ApplicationId} (hide : foreignApplication o w id = true) :
    (ownedApplication o request id).run exec w = (.error (notFound request),w) := by
  obtain ⟨application,stored,other⟩ := Option.any_eq_true .. |>.mp hide
  simp [ownedApplication,bind,exec,ApplicationOp.exec,ApplicationStore.findById,stored,refuseIf,
    bne_iff_ne.mp other]

theorem ownedApplication_absent {w : State} {id : ApplicationId} (absent : w.applications.applications[id]? = none) :
    (ownedApplication o request id).run exec w = (.error (notFound request),w) := by
  simp [ownedApplication,bind,exec,ApplicationOp.exec,ApplicationStore.findById,absent]

theorem blind_ownedApplication (id : ApplicationId) :
    Blind o origin (ownedApplication o request id) fun _ => foreignApplication o origin id = false := by
  cases hide : foreignApplication o origin id with
  | true =>
    refine .turned (fun v w related => ?_) fun v w related =>
      ownedApplication_absent request (related.applications.gone id hide)
    refine ownedApplication_hidden request ?_
    rw [foreignApplication,related.applications.kept id hide]
    exact hide
  | false =>
    refine .bind (blind_application hide) fun found _ => ?_
    cases found with
    | none => exact .fail
    | some application => exact .bind .refuse fun _ _ => .ret rfl

theorem blind_ownedClient (id : ClientId) :
    Blind o origin (ownedClient o request id) fun _ => foreignClient o origin id = false := by
  cases hide : foreignClient o origin id with
  | true =>
    refine .turned (e:=notFound request) (fun v w related => ?_) fun v w related => ?_
    · obtain ⟨client,stored,foreign⟩ := Option.any_eq_true .. |>.mp hide
      have here : v.clients[id]? = some client := (related.clients.kept id hide).trans stored
      have home : foreignApplication o v client.applicationId = true := by
        rw [foreignApplication,related.applications.kept _ foreign]
        exact foreign
      have answered : (ownedClient o request id).run exec v =
          ((ownedApplication o request client.applicationId).bind fun _ => .ret client).run exec v := by
        simp [ownedClient,bind,exec,ClientOp.exec,ClientStore.findById,here]
      rw [answered,Prog.run_bind,ownedApplication_hidden request home]
    · simp [ownedClient,bind,exec,ClientOp.exec,ClientStore.findById,related.clients.gone id hide]
  | false =>
    refine .bind (blind_client hide) fun found known => ?_
    cases found with
    | none => exact .fail
    | some client => exact .bind (blind_ownedApplication request client.applicationId) fun _ _ => .ret rfl

theorem blind_consolePage : Blind o origin (consolePage request) fun _ => True :=
  .bind (.mapError (blind_randomToken 24)) fun _ _ => .ret trivial

theorem blind_listApplications : Blind o origin (listApplications o) fun _ => True := by
  intro v w related
  refine ⟨?_,related,fun _ _ => trivial⟩
  have listed : w.applications.list.filter (fun value => value.owner == o) =
      v.applications.list.filter fun value => value.owner == o := by
    refine related.applications.elements_filter fun id application hide stored => ?_
    rw [foreignApplication,stored,Option.any_some,bne_iff_ne] at hide
    exact beq_eq_false_iff_ne.mpr hide
  exact congrArg (fun applications => Except.ok (jsonResponse 200 (.object [(Text.of "applications",
    .array (applications.map applicationJson))]))) listed

variable (d : Deployment)

theorem blind_createApplication (fresh : Fresh o origin) :
    Blind o origin (createApplication d o request) fun _ => True := by
  refine .bind .check fun body _ => .bind .check fun identifier _ => .bind .check fun name _ => ?_
  refine .bind .check fun environmentText _ => .bind (.mapError .check) fun environment _ => ?_
  exact .bind (.mapError (blind_registerApplication fresh identifier name environment)) fun _ _ => .ret trivial

theorem blind_applicationChange {action : Text} (named : applicationChange action = some change)
    {id : ApplicationId} (visible : foreignApplication o origin id = false) : Blind o origin (change id) fun _ => True := by
  unfold applicationChange at named
  split_ifs at named <;> cases named
  · exact blind_applicationTransition visible Application.suspend_same
  · exact blind_applicationTransition visible Application.activate_same
  · exact blind_applicationTransition visible Application.revoke_same

theorem blind_changeApplication (action : Text) :
    Blind o origin (changeApplication d o request action) fun _ => True := by
  unfold changeApplication
  cases named : applicationChange action with
  | none => exact .fail
  | some change =>
    refine .bind .check fun body _ => .bind (.mapError .check) fun id _ => ?_
    refine .bind (blind_ownedApplication request ⟨id⟩) fun _ visible => ?_
    exact .bind (.mapError (blind_applicationChange named visible)) fun _ _ => .ret trivial

theorem blind_listClients : Blind o origin (listClients o request) fun _ => True := by
  unfold listClients
  cases queryParameter request.target "application_id" with
  | none => exact .fail
  | some id =>
    refine .bind (blind_ownedApplication request ⟨id⟩) fun _ visible => ?_
    exact .bind (blind_clientsOf visible) fun _ _ => .ret trivial

theorem blind_createClient (fresh : Fresh o origin) : Blind o origin (createClient d o request) fun _ => True := by
  refine .bind .check fun body _ => .bind .check fun id _ => .bind .check fun name _ => ?_
  refine .bind .check fun kindText _ => .bind .check fun redirects _ => .bind .check fun scopes _ => ?_
  refine .bind (blind_ownedApplication request ⟨id⟩) fun _ visible => .bind (.mapError .check) fun kind _ => ?_
  exact .bind (.mapError (blind_registerClient d fresh visible name kind redirects scopes)) fun _ _ =>
    .ret trivial

theorem blind_rotateClientSecret : Blind o origin (rotateClientSecret d o request) fun _ => True := by
  refine .bind .check fun id _ => .bind (blind_ownedClient request id) fun _ visible => ?_
  exact .bind (.mapError (blind_rotateSecret d visible)) fun _ _ => .ret trivial

theorem blind_jarKeyPage : Blind o origin (jarKey o request) fun _ => True := by
  unfold jarKey
  cases queryParameter request.target "client_id" with
  | none => exact .fail
  | some id =>
    refine .bind (blind_ownedClient request ⟨id⟩) fun _ visible => ?_
    exact .bind (.mapError (blind_key visible)) fun _ _ => .ret trivial

theorem blind_registerJarKey : Blind o origin (registerJarKey d o request) fun _ => True := by
  refine .bind .check fun body _ => .bind .check fun id _ => .bind .check fun keyId _ => ?_
  refine .bind .check fun publicKeyPem _ => .bind (blind_ownedClient request ⟨id⟩) fun _ visible => ?_
  exact .bind (.mapError (blind_registerKey d visible keyId publicKeyPem)) fun _ _ => .ret trivial

theorem blind_removeJarKeyPage : Blind o origin (removeJarKey o request) fun _ => True := by
  unfold removeJarKey
  cases queryParameter request.target "client_id" with
  | none => exact .fail
  | some id =>
    refine .bind (blind_ownedClient request ⟨id⟩) fun _ visible => ?_
    exact .bind (.mapError (blind_removeJarKey visible)) fun _ _ => .ret trivial

theorem blind_clientChange {action : Text} (named : clientChange action = some change) {id : ClientId}
    (visible : foreignClient o origin id = false) : Blind o origin (change id) fun _ => True := by
  unfold clientChange at named
  split_ifs at named <;> cases named
  · exact blind_clientTransition visible Client.suspend_same
  · exact blind_clientTransition visible Client.activate_same
  · exact blind_clientTransition visible Client.revoke_same

theorem blind_changeClient (action : Text) : Blind o origin (changeClient d o request action) fun _ => True := by
  unfold changeClient
  cases named : clientChange action with
  | none => exact .fail
  | some change =>
    refine .bind .check fun id _ => .bind (blind_ownedClient request id) fun _ visible => ?_
    exact .bind (.mapError (blind_clientChange named visible)) fun _ _ => .ret trivial

theorem blind_listResources : Blind o origin (listResources request) fun _ => True :=
  .bind (.mapError blind_resources) fun _ _ => .ret trivial

theorem blind_createResource : Blind o origin (createResource d request) fun _ => True := by
  refine .bind .check fun body _ => .bind .check fun audience _ => .bind .check fun name _ => ?_
  refine .bind .check fun scopes _ => ?_
  exact .bind (.mapError (blind_registerResource audience name scopes)) fun _ _ => .ret trivial

theorem blind_changeResource (action : Text) : Blind o origin (changeResource d request action) fun _ => True := by
  unfold changeResource
  cases resourceChange action with
  | none => exact .fail
  | some status =>
    refine .bind .check fun body _ => .bind (.mapError .check) fun audience _ => ?_
    exact .bind (.mapError (blind_setStatus audience status)) fun _ _ => .ret trivial

end

-- What the three handlers without an owner check would need to hide: the client of another
-- organization that the request names has a service identity, or could be given one.
def Exposed (d : Deployment) (o : OrganizationId) (w : State) (request : HttpRequest) : Endpoint → Prop
  | .serviceIdentity => ∃ id,queryParameter request.target "client_id" = some id ∧
      foreignClient o w ⟨id⟩ = true ∧ w.resources.services.holds ⟨id⟩ = true
  | .changeServiceIdentity _ => ∃ id,namedClient d request = .ok id ∧
      foreignClient o w id = true ∧ w.resources.services.holds id = true
  | .provisionServiceIdentity => ∃ body,provisionBody d request = .ok body ∧
      foreignClient o w body.clientId = true ∧ (activeClient w body.clientId).isSome = true
  | _ => False

theorem unheld {w : State} {id : ClientId} {condition : Prop}
    (unexposed : ¬(condition ∧ w.resources.services.holds id = true)) :
    condition → w.resources.services[id]? = none := by
  intro holds
  cases stored : w.resources.services[id]? with
  | none => rfl
  | some service => exact absurd ⟨holds,by rw [Map.holds,stored]; rfl⟩ unexposed

section
variable {o : OrganizationId} {request : HttpRequest} {d : Deployment}

theorem blind_serviceIdentity (unexposed : ¬Exposed d o origin request .serviceIdentity) :
    Blind o origin (serviceIdentity request) fun _ => True := by
  unfold serviceIdentity
  cases named : queryParameter request.target "client_id" with
  | none => exact .fail
  | some id =>
    have absent : foreignClient o origin ⟨id⟩ = true → origin.resources.services[(⟨id⟩ : ClientId)]? = none :=
      unheld fun both => unexposed ⟨id,named,both⟩
    exact .bind (.mapError (blind_find absent)) fun _ _ => .ret trivial

theorem blind_changeServiceIdentity (unexposed : ¬Exposed d o origin request (.changeServiceIdentity active)) :
    Blind o origin (changeServiceIdentity d request active) fun _ => True := by
  refine .bind .check fun id named => ?_
  have absent := unheld fun both => unexposed ⟨id,named,both⟩
  exact .bind (.mapError (blind_setActive absent active)) fun _ _ => .ret trivial

theorem blind_provisionServiceIdentity (unexposed : ¬Exposed d o origin request .provisionServiceIdentity) :
    Blind o origin (provisionServiceIdentity d request) fun _ => True := by
  refine .bind .check fun body named => ?_
  have inactive : foreignClient o origin body.clientId = true → activeClient origin body.clientId = none := by
    intro foreign
    cases active : activeClient origin body.clientId with
    | none => rfl
    | some client => exact absurd ⟨body,named,foreign,by rw [active]; rfl⟩ unexposed
  exact .bind (.mapError (blind_provision d inactive body.audiences body.scopes)) fun _ _ => .ret trivial

theorem blind_serve (fresh : Fresh o origin) (unexposed : ¬Exposed d o origin request wanted) :
    Blind o origin (serve d o request wanted) fun _ => True := by
  cases wanted with
  | consolePage => exact blind_consolePage request
  | listApplications => exact blind_listApplications
  | createApplication => exact blind_createApplication request d fresh
  | changeApplication action => exact blind_changeApplication request d action
  | listClients => exact blind_listClients request
  | createClient => exact blind_createClient request d fresh
  | rotateClientSecret => exact blind_rotateClientSecret request d
  | jarKey => exact blind_jarKeyPage request
  | registerJarKey => exact blind_registerJarKey request d
  | removeJarKey => exact blind_removeJarKeyPage request
  | changeClient action => exact blind_changeClient request d action
  | listResources => exact blind_listResources request
  | createResource => exact blind_createResource request d
  | changeResource action => exact blind_changeResource request d action
  | provisionServiceIdentity => exact blind_provisionServiceIdentity unexposed
  | serviceIdentity => exact blind_serviceIdentity unexposed
  | changeServiceIdentity active => exact blind_changeServiceIdentity unexposed
  | none => exact .fail

end

def Signed (s : Surroundings) (o : OrganizationId) (credential : Result (Option Text)) (actor : IdentityId) :
    Prop :=
  ∃ token session membership,credential = .ok (some token) ∧ s.sessions token = .ok session ∧
    meetsAssurance session.assurance .ial2 = true ∧ s.memberships o session.identity = .ok (some membership) ∧
      membership.hasRole ⟨"owner"⟩ = true ∧ session.identity = actor

def Admitted (s : Surroundings) (o : OrganizationId) (request : HttpRequest) : Prop :=
  s.allows (Text.of "idp-admin-ip:" ++ request.remoteAddress) = true ∧
    ∃ actor,Signed s o (takeSessionCredential request).1 actor ∧
      s.allows (Text.of "idp-admin-identity:" ++ actor.value) = true

section
variable {o : OrganizationId} {request : HttpRequest} {d : Deployment} {w : State}

theorem authorize_signed (signed : Signed w.surroundings o credential actor) :
    (authorize o credential).run exec w = (.ok actor,w) := by
  obtain ⟨token,session,membership,rfl,authenticated,assured,member,owner,rfl⟩ := signed
  simp [authorize,bind,pure,check,exec,SurroundingOp.answer,authenticated,assured,member,owner,refuseIf]

theorem authorize_unsigned (unsigned : ∀ actor,¬Signed s o credential actor) :
    ∃ e,∀ w : State,w.surroundings = s → (authorize o credential).run exec w = (.error e,w) := by
  rcases credential with e | _ | token
  · exact ⟨e,fun w same => rfl⟩
  · exact ⟨_,fun w same => rfl⟩
  cases authenticated : s.sessions token with
  | error e =>
    refine ⟨e,?_⟩
    rintro w rfl
    simp [authorize,bind,check,exec,SurroundingOp.answer,authenticated]
  | ok session =>
    cases assured : meetsAssurance session.assurance .ial2 with
    | false =>
      refine ⟨.plain .assuranceInsufficient,?_⟩
      rintro w rfl
      simp [authorize,bind,check,exec,SurroundingOp.answer,authenticated,assured,refuseIf]
    | true =>
      cases member : s.memberships o session.identity with
      | error e =>
        refine ⟨e,?_⟩
        rintro w rfl
        simp [authorize,bind,check,exec,SurroundingOp.answer,authenticated,assured,refuseIf,member]
      | ok membership =>
        have denied : (membership.any fun membership => membership.hasRole ⟨"owner"⟩) = false := by
          refine Bool.eq_false_iff.mpr fun owns => ?_
          obtain ⟨membership,rfl,owner⟩ := Option.any_eq_true .. |>.mp owns
          exact unsigned session.identity
            ⟨token,session,membership,rfl,authenticated,assured,member,owner,rfl⟩
        refine ⟨.plain .permissionDenied,?_⟩
        rintro w rfl
        simp [authorize,bind,check,exec,SurroundingOp.answer,authenticated,assured,refuseIf,member,denied]

theorem rateLimited_run : (rateLimited request key).run exec w =
      (if w.surroundings.allows key then .ok () else .error (errorResponse request (.plain .rateLimited)),w) := by
  cases allowed : w.surroundings.allows key <;>
    simp [rateLimited,bind,exec,SurroundingOp.answer,allowed,refuseIf]

theorem manage_admitted (admitted : Admitted w.surroundings o request) : (manage d o request).run exec w =
      (serve d o (takeSessionCredential request).2 (endpoint (takeSessionCredential request).2.method
        (takeSessionCredential request).2.path)).run exec w := by
  obtain ⟨address,actor,signed,identity⟩ := admitted
  simp [manage,bind,Prog.run_bind,rateLimited_run,address,Prog.run_mapError,authorize_signed signed,
    Except.mapError,identity]

theorem manage_refused (refused : ¬Admitted s o request) :
    ∃ r,∀ w : State,w.surroundings = s → (manage d o request).run exec w = (.error r,w) := by
  cases address : s.allows (Text.of "idp-admin-ip:" ++ request.remoteAddress) with
  | false =>
    refine ⟨errorResponse request (.plain .rateLimited),?_⟩
    rintro w rfl
    simp [manage,bind,Prog.run_bind,rateLimited_run,address]
  | true =>
    by_cases signed : ∃ actor,Signed s o (takeSessionCredential request).1 actor
    · obtain ⟨actor,signed⟩ := signed
      cases identity : s.allows (Text.of "idp-admin-identity:" ++ actor.value) with
      | false =>
        refine ⟨errorResponse (takeSessionCredential request).2 (.plain .rateLimited),?_⟩
        rintro w rfl
        simp [manage,bind,Prog.run_bind,rateLimited_run,address,Prog.run_mapError,authorize_signed signed,
          Except.mapError,identity]
      | true => exact absurd ⟨address,actor,signed,identity⟩ refused
    · obtain ⟨e,failed⟩ := authorize_unsigned fun actor here => signed ⟨actor,here⟩
      refine ⟨unauthorized (takeSessionCredential request).2 e,?_⟩
      rintro w rfl
      simp [manage,bind,Prog.run_bind,rateLimited_run,address,Prog.run_mapError,failed w rfl,
        Except.mapError]

end

def reply : Except HttpResponse HttpResponse → HttpResponse
  | .ok response => response
  | .error response => response

theorem errorResponse_status (request : HttpRequest) (failure : Error) :
    (errorResponse request failure).status = errorHttpStatus failure.code := by
  unfold errorResponse
  split <;> rfl

section
variable {o : OrganizationId} {request : HttpRequest} {d : Deployment} {w : State}

theorem checkAudiences_unmoved (scopes audiences : List Text) :
    ((checkAudiences scopes audiences).run exec w).2 = w := by
  induction audiences with
  | nil => rfl
  | cons audience rest ih =>
    simp only [checkAudiences,bind,run_ask_bind]
    unfold refuseIf
    split
    · rfl
    · exact ih

theorem checkAudiences_throws (scopes audiences : List Text) : Throws exec (checkAudiences scopes audiences) w
      fun e => errorHttpStatus e.code ≠ 401 := by
  induction audiences with
  | nil => exact .ret
  | cons audience rest ih => exact .past rfl .perform fun resource => .past_refuse (by decide) ih

theorem randomToken_throws (drawn : ∀ e,.error e ∈ w.entropy → E e) (spent : E randomFailure) (bytes : Nat) : Throws exec (randomToken bytes) w E := by
  refine .bind .perform fun answer returned => .check fun e failed => ?_
  have head : w.entropy.headD (.error randomFailure) = .error e := (Except.ok.inj returned).trans failed
  cases left : w.entropy with
  | nil =>
    rw [left] at head
    cases head
    exact spent
  | cons first rest =>
    rw [left] at head drawn
    exact drawn e (List.mem_cons.mpr (.inl head.symm))

theorem provision_throws {id : ClientId} (active : activeClient w id = some client)
    (failures : ∀ e,.error e ∈ w.entropy → e = randomFailure) (audiences scopes : List Text) :
    Throws exec (provision d id audiences scopes) w fun e => errorHttpStatus e.code ≠ 401 := by
  refine .past (by rw [requireActive_run]) ?_ fun registered => .past_refuse (by decide) ?_
  · intro e failed
    rw [requireActive_run,active] at failed
    cases failed
  refine .past (checkAudiences_unmoved scopes audiences) (checkAudiences_throws scopes audiences) fun _ => ?_
  refine .past rfl .perform fun existing => .past_refuse (by decide) ?_
  refine .bind (randomToken_throws ?_ (by decide) 24) fun random _ => .bind .perform fun createdAt _ => ?_
  · intro e drawn
    rw [failures e drawn]
    decide
  refine .bind (.check fun e refused => ?_) fun identity _ => .bind .perform fun added stored => ?_
  · rw [Identities.Identity.create_fails refused]
    decide
  refine .bind (.check fun e refused => ?_) fun _ _ => .bind .perform fun grantedAt _ => ?_
  · rw [Identities.IdentityStore.add_fails ((Except.ok.inj stored).trans refused)]
    decide
  cases built : ServiceIdentity.create ⟨Text.of "opsi_" ++ random⟩ id audiences scopes grantedAt with
  | error e =>
    refine .bind .perform fun _ _ => .fail ?_
    rw [ServiceIdentity.create_fails built]
    decide
  | ok service =>
    refine .bind .perform fun saved stored => ?_
    cases stored
    exact .ret

theorem answered_status (p : Call α) (status : Nat) (json : α → Json) :
    (reply (((orError request p).bind fun a => .ret (jsonResponse status (json a))).run exec w).1).status =
      match (p.run exec w).1 with
      | .ok _ => status
      | .error e => errorHttpStatus e.code := by
  rw [Prog.run_bind,orError,Prog.run_mapError]
  rcases p.run exec w with ⟨e | a,later⟩
  · exact errorResponse_status request e
  · rfl

theorem serviceIdentity_status {id : Text} (named : queryParameter request.target "client_id" = some id) :
    (reply ((serviceIdentity request).run exec w).1).status =
      if w.resources.services.holds ⟨id⟩ then 200 else 404 := by
  unfold serviceIdentity
  rw [named]
  refine (answered_status _ 200 serviceIdentityJson).trans ?_
  rw [find_run,Map.holds]
  cases w.resources.services[(⟨id⟩ : ClientId)]? <;> rfl

theorem changeServiceIdentity_status {id : ClientId} (named : namedClient d request = .ok id) :
    (reply ((changeServiceIdentity d request active).run exec w).1).status =
      if w.resources.services.holds id then 200 else 404 := by
  unfold changeServiceIdentity
  rw [named]
  refine (answered_status (setActive id active) 200 serviceIdentityJson).trans ?_
  unfold setActive
  dsimp only [bind]
  rw [Prog.run_bind,find_run,Map.holds]
  cases w.resources.services[id]? <;> rfl

theorem provisionServiceIdentity_status (named : provisionBody d request = .ok body)
    (failures : ∀ e,.error e ∈ w.entropy → e = randomFailure) :
    (reply ((provisionServiceIdentity d request).run exec w).1).status = 401 ↔
      activeClient w body.clientId = none := by
  unfold provisionServiceIdentity
  rw [named]
  refine (iff_of_eq (congrArg (· = 401) (answered_status (provision d body.clientId
    body.audiences body.scopes) 201 serviceIdentityJson))).trans ?_
  cases active : activeClient w body.clientId with
  | none =>
    unfold provision
    dsimp only [bind]
    rw [Prog.run_bind,requireActive_run,active]
    exact iff_of_true rfl rfl
  | some client =>
    refine iff_of_false ?_ fun absent => nomatch absent
    have throws := provision_throws (d:=d) active failures body.audiences body.scopes
    cases answer : ((provision d body.clientId body.audiences body.scopes).run exec w).1 with
    | ok service => exact fun status : 201 = 401 => absurd status (by decide)
    | error e => exact throws e answer

theorem exposed_status (keyed : Keyed w) (fresh : Fresh o w) (exposed : Exposed d o w request wanted) :
    (reply ((serve d o request wanted).run exec w).1).status ≠
      (reply ((serve d o request wanted).run exec (confine o w)).1).status := by
  have hidden := shadow_confine o keyed
  cases wanted with
  | serviceIdentity =>
    obtain ⟨id,named,foreign,held⟩ := exposed
    simp only [serve]
    rw [serviceIdentity_status named,serviceIdentity_status named,held,Map.holds,hidden.services.gone _ foreign]
    decide
  | changeServiceIdentity active =>
    obtain ⟨id,named,foreign,held⟩ := exposed
    simp only [serve]
    rw [changeServiceIdentity_status named,changeServiceIdentity_status named,held,Map.holds,
      hidden.services.gone _ foreign]
    decide
  | provisionServiceIdentity =>
    obtain ⟨body,named,foreign,active⟩ := exposed
    simp only [serve]
    intro same
    have absent : activeClient (confine o w) body.clientId = none := (shadow_activeClient hidden foreign).2
    have failures : ∀ e,.error e ∈ (confine o w).entropy → e = randomFailure := fresh.failures
    have denied := same.trans ((provisionServiceIdentity_status named failures).mpr absent)
    rw [(provisionServiceIdentity_status named fresh.failures).mp denied] at active
    cases active
  | _ => exact exposed.elim

end

-- What a management request leaves alone, and what it lets its sender see.
structure Confined (d : Deployment) (o : OrganizationId) (fallback : HttpRequest → Handler HttpResponse)
    (request : HttpRequest) (w : State) : Prop where
  applications : ∀ id : ApplicationId,foreignApplication o w id = true →
    ((handle d o fallback request).run exec w).2.applications.applications[id]? =
      w.applications.applications[id]?
  clients : ∀ id : ClientId,foreignClient o w id = true →
    ((handle d o fallback request).run exec w).2.clients[id]? = w.clients[id]?
  keys : ∀ id : ClientId,foreignClient o w id = true →
    ((handle d o fallback request).run exec w).2.jar.keys[id]? = w.jar.keys[id]?
  services : ∀ id : ClientId,foreignClient o w id = true →
    ((handle d o fallback request).run exec w).2.resources.services[id]? = w.resources.services[id]?
  replies : reply ((handle d o fallback request).run exec w).1 =
    reply ((handle d o fallback request).run exec (confine o w)).1

-- The requests that reach a service identity across organizations.
structure Reaches (d : Deployment) (o : OrganizationId) (request : HttpRequest) (w : State) : Prop where
  admitted : Admitted w.surroundings o request
  exposed : Exposed d o w (takeSessionCredential request).2
    (endpoint (takeSessionCredential request).2.method (takeSessionCredential request).2.path)

theorem tenants_confined_iff (d : Deployment) (o : OrganizationId)
    (fallback : HttpRequest → Handler HttpResponse) (request : HttpRequest) (w : State)
    (management : managed request.path = true) (keyed : Keyed w) (fresh : Fresh o w) :
    Confined d o fallback request w ↔ ¬Reaches d o request w := by
  have handled : handle d o fallback request = manage d o request := if_pos management
  by_cases admitted : Admitted w.surroundings o request
  · have here : (manage d o request).run exec w = _ := manage_admitted admitted
    have there : (manage d o request).run exec (confine o w) = _ := manage_admitted admitted
    constructor
    · intro confined reaches
      have same := confined.replies
      rw [handled,here,there] at same
      exact exposed_status keyed fresh reaches.exposed (congrArg HttpResponse.status same)
    · intro unreached
      have unexposed := fun exposed => unreached ⟨admitted,exposed⟩
      obtain ⟨same,after,-⟩ := blind_serve fresh unexposed w (confine o w) (shadow_confine o keyed)
      rw [← here,← there] at same
      rw [← here,← there] at after
      rw [← handled] at same after
      exact ⟨after.applications.kept,after.clients.kept,after.keys.kept,after.services.kept,
        (congrArg reply same).symm⟩
  · obtain ⟨r,refused⟩ := manage_refused (d:=d) admitted
    refine iff_of_true ?_ fun reaches => admitted reaches.admitted
    have here := refused w rfl
    have there := refused (confine o w) rfl
    rw [← handled] at here there
    constructor
    all_goals rw [here]
    · exact fun _ _ => rfl
    · exact fun _ _ => rfl
    · exact fun _ _ => rfl
    · exact fun _ _ => rfl
    · rw [there]

-- Two organizations in one process: `org` runs the shop, `rival` a robot with a service identity.
def rivalApplication : Application :=
  { TokenActs.demoApplication with id := ⟨"bank"⟩,owner := ⟨"rival"⟩ }

def rivalClient : Client :=
  { TokenActs.demoClient with
    id := ⟨"robot"⟩
    applicationId := ⟨"bank"⟩
    kind := .service
    redirectUris := []
    secretDigest := some 1 }

def rivalService : ServiceIdentity where
  identity := ⟨"opsi_robot"⟩
  client := ⟨"robot"⟩
  audiences := .ofList ["https://api.example"]
  scopes := .ofList ["read"]
  active := true
  createdAt := 0
  updatedAt := 0

def demoRecords : Call Unit := do
  check (← ask (.application (.add TokenActs.demoApplication)))
  check (← ask (.client (.add TokenActs.demoClient)))
  check (← ask (.application (.add rivalApplication)))
  check (← ask (.client (.add rivalClient)))
  check (← ask (.resource (.saveService rivalService)))

def demoOwners : Surroundings :=
  { TokenActs.demoSurroundings with
    sessions := fun token =>
      if token = Text.of "s1" then .ok OAuthRuns.demoSession else .error (.plain .authenticationRequired)
    memberships := fun organization _ =>
      .ok (if organization = ⟨"org"⟩ then some ⟨.active,[⟨"owner"⟩]⟩ else none) }

def demoTenants : State :=
  (demoRecords.run exec { State.empty demoOwners with entropy := [.ok "fresh"] }).2

theorem keyed_demo : Keyed demoTenants := keyed_run demoRecords (keyed_empty demoOwners _)

theorem fresh_demo : Fresh ⟨"org"⟩ demoTenants := by
  have entropy : demoTenants.entropy = [.ok (Text.of "fresh")] := rfl
  constructor <;> intro drawn member <;> rw [entropy,List.mem_singleton] at member <;> cases member <;> decide

def demoBody : Text := "\x7b\"client_id\":\"robot\"\x7d"

def demoConsole : Deployment :=
  { TokenActs.demoDeployment with
    parseJson := fun body =>
      if body = demoBody then some (.object [textField "client_id" "robot"]) else none }

def demoRequest (target : Text) : HttpRequest where
  method := .post
  target := target
  headers := ((∅ : Map Text Text).insert "content-type" "application/json").insert "authorization" "Bearer s1"
  body := demoBody
  remoteAddress := "192.0.2.1"
  correlation := []

theorem tenants_confined_suspending :
    Confined demoConsole ⟨"org"⟩ (fun _ => .ret (.plain 404)) (demoRequest "/admin/clients/suspend") demoTenants ∧
      foreignClient ⟨"org"⟩ demoTenants ⟨"robot"⟩ = true := by
  refine ⟨?_,by decide⟩
  refine (tenants_confined_iff demoConsole ⟨"org"⟩ _ _ demoTenants (by decide) keyed_demo
    fresh_demo).mpr ?_
  rintro ⟨-,exposed⟩
  have wanted : endpoint (takeSessionCredential (demoRequest "/admin/clients/suspend")).2.method
      (takeSessionCredential (demoRequest "/admin/clients/suspend")).2.path = .changeClient "suspend" := by
    decide
  rw [wanted] at exposed
  exact exposed

theorem tenants_not_confined :
    managed (demoRequest "/admin/service-identities/deactivate").path = true ∧ Keyed demoTenants ∧
      Fresh ⟨"org"⟩ demoTenants ∧ ¬Confined demoConsole ⟨"org"⟩ (fun _ => .ret (.plain 404))
          (demoRequest "/admin/service-identities/deactivate") demoTenants := by
  refine ⟨by decide,keyed_demo,fresh_demo,fun confined => ?_⟩
  have kept := confined.services ⟨"robot"⟩ (by decide)
  exact absurd kept (by decide)

end OpenProof.TenantConfinement
