import Mathlib.Data.Prod.Lex
import OpenProof.GatewayWorld
import OpenProof.Memberships

namespace OpenProof.Policies
open Foundation GatewayWorld Memberships List
open Identities (AssuranceLevel AuthenticatedSession AuthenticationStrength Identity IdentityId MembershipState OrganizationId ProviderId Role meetsAssurance)

inductive OrganizationStatus where
  | active
  | suspended
  | archived
  deriving DecidableEq

def permitsUse : OrganizationStatus → Bool
  | .active => true
  | .suspended | .archived => false

structure Organization where
  id : OrganizationId
  displayName : Text
  createdAt : Instant
  status : OrganizationStatus
  deriving DecidableEq

def Organization.isUsable (organization : Organization) : Bool := permitsUse organization.status

def permitsAccess : MembershipState → Bool
  | .active => true
  | .invited | .suspended | .removed => false

theorem permitsAccess_iff : permitsAccess state = true ↔ state = .active := by
  cases state <;> simp [permitsAccess]

def hasRole (membership : Membership) (role : Role) : Bool :=
  if !permitsAccess membership.state then false else membership.roles.contains role

-- What the three repositories answer when asked; they may fail, and may answer under a wrong key.
structure Repositories where
  findOrganization : OrganizationId → Result (Option Organization)
  findIdentity : OrganizationId → IdentityId → Result (Option Identity)
  findMembership : OrganizationId → IdentityId → Result (Option Membership)

structure AuthenticationContext where
  providerId : ProviderId
  claimedAssurance : AssuranceLevel
  strength : AuthenticationStrength
  authenticatedAt : Instant
  deriving DecidableEq

def AuthenticationContext.ofSession (session : AuthenticatedSession) : AuthenticationContext :=
  ⟨session.provider,session.assurance,session.strength,session.authenticatedAt⟩

structure AuthorizationRequest where
  subject : IdentityId
  action : Action
  resource : Resource
  organization : OrganizationId
  authentication : AuthenticationContext
  roles : List Role
  deriving DecidableEq

namespace AuthorizationRequest
variable (repositories : Repositories)

def denied (detail : Text) : Error := .of .permissionDenied (defaultErrorMessage .permissionDenied) detail

def trustedOrganization (organization : OrganizationId) : Result Organization :=
  match repositories.findOrganization organization with
  | .error e => .error e
  | .ok none => .error (denied "Authorization context creation refused: organization is absent or inactive.")
  | .ok (some found) =>
    if !found.isUsable then
      .error (denied "Authorization context creation refused: organization is absent or inactive.")
    else if found.id ≠ organization then
      .error (denied "Authorization context creation refused: repository returned an organization under the wrong key.")
    else .ok found

def trustedIdentity (organization : OrganizationId) (authenticated : IdentityId) : Result Identity :=
  match repositories.findIdentity organization authenticated with
  | .error e => .error e
  | .ok none =>
    .error (denied "Authorization context creation refused: authenticated identity is absent from the requested organization.")
  | .ok (some found) =>
    if found.id ≠ authenticated then
      .error (denied "Authorization context creation refused: repository returned an identity under the wrong key.")
    else if !found.canAuthenticate then
      .error (.of .failedPrecondition "The subject cannot perform protected operations."
        "Authorization context creation refused because the canonical identity is not active.")
    else .ok found

def trustedMembership (organization : OrganizationId) (authenticated : IdentityId) (identity : Identity) :
    Result Membership :=
  match repositories.findMembership organization authenticated with
  | .error e => .error e
  | .ok none => .error (denied "Authorization context creation refused: membership is absent or inactive.")
  | .ok (some found) =>
    if !permitsAccess found.state then
      .error (denied "Authorization context creation refused: membership is absent or inactive.")
    else if found.identity ≠ identity.id ∨ found.organization ≠ organization then
      .error (denied "Authorization context creation refused: repository returned a membership under the wrong key.")
    else .ok found

def createResolved (authenticated : IdentityId) (context : AuthenticationContext) (organization : OrganizationId)
    (action : Action) (resource : Resource) : Result AuthorizationRequest :=
  if action.empty || resource.empty then
    fail .invalidArgument "An authorization request must name an action and resource."
  else do
    let _ ← trustedOrganization repositories organization
    let identity ← trustedIdentity repositories organization authenticated
    let membership ← trustedMembership repositories organization authenticated identity
    .ok ⟨identity.id,action,resource,organization,context,membership.roles⟩

def create (session : AuthenticatedSession) (organization : OrganizationId) (action : Action) (resource : Resource) :
    Result AuthorizationRequest :=
  createResolved repositories session.identity (.ofSession session) organization action resource

def hasRole (request : AuthorizationRequest) (role : Role) : Bool := request.roles.contains role

variable {repositories} {organization : OrganizationId} {authenticated : IdentityId}

theorem trustedOrganization_iff : trustedOrganization repositories organization = .ok found ↔
    repositories.findOrganization organization = .ok (some found) ∧ found.id = organization ∧ found.isUsable = true := by
  unfold trustedOrganization
  split
  · simp [*]
  · simp [*]
  · rename_i stored answer
    rw [answer]
    simp only [Except.ok.injEq,Option.some.injEq]
    constructor
    · intro accepted
      split_ifs at accepted with usable keyed
      cases accepted
      exact ⟨rfl,not_not.mp keyed,by simpa using usable⟩
    · rintro ⟨rfl,keyed,usable⟩
      simp [keyed,usable]

theorem trustedIdentity_iff : trustedIdentity repositories organization authenticated = .ok found ↔
    repositories.findIdentity organization authenticated = .ok (some found) ∧ found.id = authenticated ∧
      found.canAuthenticate = true := by
  unfold trustedIdentity
  split
  · simp [*]
  · simp [*]
  · rename_i stored answer
    rw [answer]
    simp only [Except.ok.injEq,Option.some.injEq]
    constructor
    · intro accepted
      split_ifs at accepted with keyed alive
      cases accepted
      exact ⟨rfl,not_not.mp keyed,by simpa using alive⟩
    · rintro ⟨rfl,keyed,alive⟩
      simp [keyed,alive]

theorem trustedMembership_iff : trustedMembership repositories organization authenticated identity = .ok found ↔
      repositories.findMembership organization authenticated = .ok (some found) ∧
        found.key = ⟨organization,identity.id⟩ ∧ found.state = .active := by
  unfold trustedMembership
  split
  · simp [*]
  · simp [*]
  · rename_i stored answer
    rw [answer]
    simp only [Except.ok.injEq,Option.some.injEq]
    constructor
    · intro accepted
      split_ifs at accepted with active keyed
      cases accepted
      rw [not_or,not_not,not_not] at keyed
      exact ⟨rfl,by rw [Membership.key,keyed.1,keyed.2],permitsAccess_iff.mp (by simpa using active)⟩
    · rintro ⟨rfl,keyed,active⟩
      rw [Membership.key,Memberships.MemberKey.mk.injEq] at keyed
      simp [permitsAccess_iff.mpr active,keyed]

-- What the repositories must hold for a request to be made.
structure Trusted (repositories : Repositories) (organization : OrganizationId) (subject : IdentityId)
    (membership : Membership) : Prop where
  usable : ∃ found,repositories.findOrganization organization = .ok (some found) ∧ found.id = organization ∧
    found.isUsable = true
  alive : ∃ found,repositories.findIdentity organization subject = .ok (some found) ∧ found.id = subject ∧
    found.canAuthenticate = true
  member : repositories.findMembership organization subject = .ok (some membership)
  keyed : membership.key = ⟨organization,subject⟩
  active : membership.state = .active

theorem createResolved_iff {action : Action} {resource : Resource} :
    createResolved repositories authenticated context organization action resource = .ok request ↔
      (action.empty = false ∧ resource.empty = false) ∧ ∃ membership,
        Trusted repositories organization authenticated membership ∧
          request = ⟨authenticated,action,resource,organization,context,membership.roles⟩ := by
  unfold createResolved
  constructor
  · intro created
    obtain ⟨named,created⟩ := passed created
    obtain ⟨tenant,found,created⟩ := bind_ok created
    obtain ⟨identity,known,created⟩ := bind_ok created
    obtain ⟨membership,member,created⟩ := bind_ok created
    obtain ⟨known,same,alive⟩ := trustedIdentity_iff.mp known
    obtain ⟨member,keyed,active⟩ := trustedMembership_iff.mp member
    cases created
    rw [same] at keyed ⊢
    refine ⟨by simpa using named,membership,?_,rfl⟩
    exact ⟨⟨tenant,trustedOrganization_iff.mp found⟩,⟨identity,known,same,alive⟩,member,keyed,active⟩
  · rintro ⟨named,membership,trusted,rfl⟩
    obtain ⟨tenant,usable⟩ := trusted.usable
    obtain ⟨identity,known,same,alive⟩ := trusted.alive
    have keyed := trusted.keyed
    rw [← same] at keyed
    have member := trustedMembership_iff.mpr ⟨trusted.member,keyed,trusted.active⟩
    rw [trustedOrganization_iff.mpr usable,trustedIdentity_iff.mpr ⟨known,same,alive⟩]
    simp only [named,Bool.or_self,Bool.false_eq_true,if_false,bind,Except.bind,member,same]

theorem Trusted.hasRole {subject : IdentityId} (trusted : Trusted repositories organization subject membership)
    (role : Role) : Policies.hasRole membership role = membership.roles.contains role := by
  simp [Policies.hasRole,permitsAccess_iff.mpr trusted.active]

end AuthorizationRequest

inductive DecisionKind where
  | allow
  | deny
  | notApplicable
  | indeterminate
  deriving DecidableEq

structure AuthorizationDecision where
  kind : DecisionKind
  reason : Text
  deriving DecidableEq

def AuthorizationDecision.isPermitted (decision : AuthorizationDecision) : Bool := decision.kind == .allow

theorem permitted_iff {decision : AuthorizationDecision} : decision.isPermitted = true ↔ decision.kind = .allow :=
  beq_iff_eq

abbrev PolicyEngine := AuthorizationRequest → AuthorizationDecision

inductive RoleMatchMode where
  | any
  | all
  deriving DecidableEq

def usableRole (role : Role) : Bool := !role.empty && role.value.length ≤ 200 && !role.value.any isBlankOrControl

def usableRule (action : Action) (resource : Resource) (requiredRoles : List Role) (minimumAssurance : AssuranceLevel) :
    Bool :=
  !action.empty && !resource.empty && !requiredRoles.isEmpty && requiredRoles.length ≤ 16
    && AssuranceLevel.rank .ial1 ≤ minimumAssurance.rank && minimumAssurance.rank ≤ AssuranceLevel.rank .ial4
    && requiredRoles.all usableRole

structure RolePolicyRule where
  action : Action
  resource : Resource
  requiredRoles : List Role
  roleMatch : RoleMatchMode
  minimumAssurance : AssuranceLevel
  usable : usableRule action resource requiredRoles minimumAssurance = true
  distinct : adjacentEqual requiredRoles = false
  deriving DecidableEq

namespace RolePolicyRule

def sortRequired (roles : List Role) : List Role := roles.insertionSort fun a b => a.value ≤ b.value

theorem sorted_usable {action : Action} {resource : Resource} {minimumAssurance : AssuranceLevel}
    (usable : ¬usableRule action resource roles minimumAssurance = false) :
    usableRule action resource (sortRequired roles) minimumAssurance = true := by
  have empties : (sortRequired roles).isEmpty = roles.isEmpty := by
    rw [Bool.eq_iff_iff,isEmpty_iff_length_eq_zero,isEmpty_iff_length_eq_zero,sortRequired,
      length_insertionSort]
  have members : (sortRequired roles).all usableRole = roles.all usableRole := by
    rw [Bool.eq_iff_iff]
    simp [sortRequired]
  rw [Bool.not_eq_false] at usable
  rw [← usable,usableRule,usableRule,empties,members,sortRequired,length_insertionSort]

theorem apart {roles : List Role} (distinct : ¬adjacentEqual roles = true) : adjacentEqual roles = false :=
  Bool.not_eq_true _ ▸ distinct

def create (action : Action) (resource : Resource) (requiredRoles : List Role) (roleMatch : RoleMatchMode)
    (minimumAssurance : AssuranceLevel) : Result RolePolicyRule :=
  if refused : usableRule action resource requiredRoles minimumAssurance = false then
    fail .invalidArgument "The route authorization rule is invalid."
  else if twice : adjacentEqual (sortRequired requiredRoles) = true then
    fail .invalidArgument "Required route roles must be unique."
  else .ok ⟨action,resource,sortRequired requiredRoles,roleMatch,minimumAssurance,sorted_usable refused,apart twice⟩

variable (rule : RolePolicyRule)

def key : Lex (Text × Text) := toLex (rule.action.value,rule.resource.value)

def governs (action : Action) (resource : Resource) : Bool := rule.action = action && rule.resource = resource

theorem governs_iff {rule : RolePolicyRule} {action : Action} {resource : Resource} :
    rule.governs action resource = true ↔ rule.action = action ∧ rule.resource = resource := by
  simp [governs]

theorem named : rule.action.empty = false ∧ rule.resource.empty = false := by
  have usable := rule.usable
  simp only [usableRule,Bool.and_eq_true,Bool.not_eq_true'] at usable
  tauto

theorem governs_key {rule other : RolePolicyRule} {action : Action} {resource : Resource}
    (one : rule.governs action resource = true) (two : other.governs action resource = true) : rule.key = other.key := by
  obtain ⟨rfl,rfl⟩ := governs_iff.mp one
  obtain ⟨same,likewise⟩ := governs_iff.mp two
  rw [key,key,same,likewise]

theorem find_iff {rules : List RolePolicyRule} (distinct : (rules.map key).Nodup) (action : Action) (resource : Resource)
    (rule : RolePolicyRule) : (rules.find? fun item => item.governs action resource) = some rule ↔
      (rules.filter fun item => item.governs action resource) = [rule] := by
  rw [← head?_filter]
  have matching : ∀ item ∈ rules.filter fun item => item.governs action resource,item.governs action resource = true :=
    fun item inside => (mem_filter.mp inside).2
  have apart : ((rules.filter fun item => item.governs action resource).map key).Nodup :=
    distinct.sublist (filter_sublist.map key)
  cases found : rules.filter fun item => item.governs action resource with
  | nil => simp
  | cons one rest =>
    cases rest with
    | nil => simp
    | cons two rest =>
      rw [found] at matching apart
      have same := governs_key (matching one (by simp)) (matching two (by simp))
      simp [same] at apart

end RolePolicyRule

-- Kept in key order, with no key twice.
structure RolePolicyEngine where
  rules : List RolePolicyRule
  ordered : rules.Pairwise fun a b => a.key ≤ b.key
  distinct : adjacentEqual (rules.map RolePolicyRule.key) = false

namespace RolePolicyEngine

def sortRules (rules : List RolePolicyRule) : List RolePolicyRule := rules.insertionSort fun a b => a.key ≤ b.key

theorem keys_total (a b : RolePolicyRule) : a.key ≤ b.key ∨ b.key ≤ a.key := le_total _ _

theorem keys_trans (a b c : RolePolicyRule) (one : a.key ≤ b.key) (two : b.key ≤ c.key) : a.key ≤ c.key := le_trans one two

theorem sortRules_ordered (rules : List RolePolicyRule) : (sortRules rules).Pairwise fun a b => a.key ≤ b.key :=
  haveI := Std.Total.mk keys_total
  haveI := IsTrans.mk keys_trans
  pairwise_insertionSort _ rules

theorem keys_apart {rules : List RolePolicyRule} (distinct : ¬adjacentEqual (rules.map RolePolicyRule.key) = true) :
    adjacentEqual (rules.map RolePolicyRule.key) = false := Bool.not_eq_true _ ▸ distinct

def create (rules : List RolePolicyRule) : Result RolePolicyEngine :=
  if rules.isEmpty || rules.length > 256 then
    fail .invalidArgument "At least one bounded route policy is required."
  else if twice : adjacentEqual ((sortRules rules).map RolePolicyRule.key) = true then
    fail .alreadyExists "A route policy is duplicated."
  else .ok ⟨sortRules rules,sortRules_ordered rules,keys_apart twice⟩

def evaluate (engine : RolePolicyEngine) : PolicyEngine := fun request =>
  match engine.rules.find? fun item => item.governs request.action request.resource with
  | none => ⟨.notApplicable,"No exact route authorization rule matched."⟩
  | some rule =>
    if !meetsAssurance request.authentication.claimedAssurance rule.minimumAssurance then
      ⟨.deny,"The authenticated session does not meet the route assurance requirement."⟩
    else if (if rule.roleMatch = .all then rule.requiredRoles.all request.hasRole
        else rule.requiredRoles.any request.hasRole) then
      ⟨.allow,"The trusted membership satisfies the route role policy."⟩
    else ⟨.deny,"The trusted membership does not satisfy the route role policy."⟩

theorem sortRules_perm (rules : List RolePolicyRule) : (sortRules rules).Perm rules := perm_insertionSort _ rules

theorem keys_ordered (rules : List RolePolicyRule) : ((sortRules rules).map RolePolicyRule.key).Pairwise (· ≤ ·) :=
  pairwise_map.mpr (sortRules_ordered rules)

variable {rules : List RolePolicyRule}

theorem create_spec {engine : RolePolicyEngine} (created : create rules = .ok engine) :
    engine.rules.Perm rules ∧ (rules.map RolePolicyRule.key).Nodup := by
  unfold create at created
  split_ifs at created with size twice
  cases created
  have apart := (adjacentEqual_sorted (keys_ordered rules)).mp (keys_apart twice)
  exact ⟨sortRules_perm rules,((sortRules_perm rules).map _).nodup_iff.mp apart⟩

theorem sortRules_eq (shuffled : rules.Perm reordered) (distinct : (rules.map RolePolicyRule.key).Nodup) : sortRules reordered = sortRules rules := by
  have alike := (sortRules_perm reordered).trans (shuffled.symm.trans (sortRules_perm rules).symm)
  apply alike.eq_of_pairwise _ (sortRules_ordered reordered) (sortRules_ordered rules)
  intro one two first second upward downward
  have inside := (sortRules_perm rules).mem_iff.mp (alike.mem_iff.mp first)
  have inside' := (sortRules_perm rules).mem_iff.mp second
  exact inj_on_of_nodup_map distinct inside inside' (le_antisymm upward downward)

theorem create_perm (shuffled : rules.Perm reordered) {engine : RolePolicyEngine}
    (created : create rules = .ok engine) : create reordered = .ok engine := by
  have distinct := (create_spec created).2
  unfold create at created ⊢
  simp only [sortRules_eq shuffled distinct,← shuffled.length_eq,← shuffled.isEmpty_eq]
  exact created

theorem evaluate_iff {engine : RolePolicyEngine} : (engine.evaluate request).kind = .allow ↔
      ∃ rule,(engine.rules.find? fun item => item.governs request.action request.resource) = some rule ∧
        meetsAssurance request.authentication.claimedAssurance rule.minimumAssurance = true ∧
        (rule.roleMatch = .all → ∀ role ∈ rule.requiredRoles,request.hasRole role = true) ∧
        (rule.roleMatch = .any → ∃ role ∈ rule.requiredRoles,request.hasRole role = true) := by
  unfold evaluate
  cases engine.rules.find? fun item => item.governs request.action request.resource with
  | none => simp
  | some rule =>
    simp only [Option.some.injEq,exists_eq_left']
    cases meetsAssurance request.authentication.claimedAssurance rule.minimumAssurance with
    | false => simp
    | true => cases rule.roleMatch <;> simp [apply_ite AuthorizationDecision.kind]

theorem find_iff {engine : RolePolicyEngine} (created : create rules = .ok engine) (action : Action) (resource : Resource)
    (rule : RolePolicyRule) : (engine.rules.find? fun item => item.governs action resource) = some rule ↔
      (rules.filter fun item => item.governs action resource) = [rule] := by
  obtain ⟨alike,distinct⟩ := create_spec created
  rw [RolePolicyRule.find_iff ((alike.map _).nodup_iff.mpr distinct),← perm_singleton,← perm_singleton]
  exact (alike.filter _).congr_left _

end RolePolicyEngine

def evaluateProtected (engine : Option PolicyEngine) (request : AuthorizationRequest) : AuthorizationDecision :=
  match engine with
  | none => ⟨.indeterminate,"No policy engine is installed; the protected operation was denied."⟩
  | some evaluate =>
    let decision := evaluate request
    if decision.isPermitted then decision else decision

-- `record` of the sink; the correlation of the request is its last argument.
abbrev AuthorizationDecisionSink :=
  AuthenticatedSession → OrganizationId → Action → Resource → AuthorizationDecision → Text → Result Unit

namespace PolicyAccessController
variable (policies : Option PolicyEngine) (repositories : Repositories) (decisionSink : Option AuthorizationDecisionSink)

def recorded (session : AuthenticatedSession) (route : Route) (correlation : Text) (decision : AuthorizationDecision)
    (lost : Text) : AuthorizationDecision :=
  match decisionSink with
  | none => decision
  | some record =>
    match record session route.organization route.action route.resource decision correlation with
    | .error _ => ⟨.indeterminate,lost⟩
    | .ok () => decision

def authorize (session : AuthenticatedSession) (route : Route) (correlation : Text) : AuthorizationDecision :=
  match AuthorizationRequest.create repositories session route.organization route.action route.resource with
  | .error e =>
    recorded decisionSink session route correlation
      ⟨.indeterminate,Text.of "Trusted authorization context failed: " ++ e.internalDetail⟩
      "Authorization failed and its security audit could not be persisted."
  | .ok request =>
    let decision := evaluateProtected policies request
    if decision.isPermitted then decision
    else recorded decisionSink session route correlation decision
      "Authorization was denied and its security audit could not be persisted."

variable {policies} {repositories} {decisionSink}

theorem recorded_refused {session : AuthenticatedSession} {route : Route} (refused : decision.kind ≠ .allow) :
    (recorded decisionSink session route correlation decision lost).kind ≠ .allow := by
  unfold recorded
  split
  · exact refused
  · split
    · simp
    · exact refused

theorem authorize_iff {session : AuthenticatedSession} {route : Route} {correlation : Text} :
    (authorize policies repositories decisionSink session route correlation).kind = .allow ↔
      ∃ request,AuthorizationRequest.create repositories session route.organization route.action route.resource
          = .ok request ∧ (evaluateProtected policies request).kind = .allow := by
  unfold authorize
  split
  · rename_i e failed
    constructor
    · intro allowed
      exact absurd allowed (recorded_refused (by simp))
    · rintro ⟨request,created,-⟩
      rw [failed] at created
      cases created
  · rename_i request created
    constructor
    · intro allowed
      refine ⟨request,created,?_⟩
      by_contra refused
      have barred : ¬(evaluateProtected policies request).isPermitted = true := mt permitted_iff.mp refused
      rw [if_neg barred] at allowed
      exact recorded_refused refused allowed
    · rintro ⟨other,made,allowed⟩
      rw [created] at made
      cases made
      simp only [permitted_iff.mpr allowed,if_true]
      exact allowed

end PolicyAccessController

structure Meets (rule : RolePolicyRule) (session : AuthenticatedSession) (membership : Membership) : Prop where
  assured : meetsAssurance session.assurance rule.minimumAssurance = true
  every : rule.roleMatch = .all → ∀ role ∈ rule.requiredRoles,hasRole membership role = true
  one : rule.roleMatch = .any → ∃ role ∈ rule.requiredRoles,hasRole membership role = true

def Allowed (rules : List RolePolicyRule) (repositories : Repositories) (session : AuthenticatedSession) (route : Route) :
    Prop :=
  ∃ membership rule,AuthorizationRequest.Trusted repositories route.organization session.identity membership ∧
    (rules.filter fun item => item.governs route.action route.resource) = [rule] ∧ Meets rule session membership

open PolicyAccessController

section
variable {repositories : Repositories} {session : AuthenticatedSession} {route : Route} {rules : List RolePolicyRule}
  {engine : RolePolicyEngine}

theorem met_iff {rule : RolePolicyRule} {request : AuthorizationRequest}
    (trusted : AuthorizationRequest.Trusted repositories route.organization session.identity membership)
    (assured : request.authentication = .ofSession session) (carried : request.roles = membership.roles) :
    (meetsAssurance request.authentication.claimedAssurance rule.minimumAssurance = true ∧
        (rule.roleMatch = .all → ∀ role ∈ rule.requiredRoles,request.hasRole role = true) ∧
        (rule.roleMatch = .any → ∃ role ∈ rule.requiredRoles,request.hasRole role = true)) ↔
      Meets rule session membership := by
  have same : ∀ role,request.hasRole role = hasRole membership role := by
    intro role
    rw [trusted.hasRole,AuthorizationRequest.hasRole,carried]
  simp only [same,assured]
  exact ⟨fun ⟨assured,every,one⟩ => ⟨assured,every,one⟩,fun met => ⟨met.assured,met.every,met.one⟩⟩

theorem allowed_iff (created : RolePolicyEngine.create rules = .ok engine) :
    (∃ request,AuthorizationRequest.create repositories session route.organization route.action route.resource
        = .ok request ∧ (engine.evaluate request).kind = .allow) ↔ Allowed rules repositories session route := by
  constructor
  · rintro ⟨request,made,allowed⟩
    obtain ⟨-,membership,trusted,rfl⟩ := AuthorizationRequest.createResolved_iff.mp made
    obtain ⟨rule,found,met⟩ := RolePolicyEngine.evaluate_iff.mp allowed
    exact ⟨membership,rule,trusted,(RolePolicyEngine.find_iff created _ _ _).mp found,(met_iff trusted rfl rfl).mp met⟩
  · rintro ⟨membership,rule,trusted,only,met⟩
    have inside : rule ∈ rules.filter fun item => item.governs route.action route.resource := by simp [only]
    obtain ⟨same,likewise⟩ := RolePolicyRule.governs_iff.mp (mem_filter.mp inside).2
    have named := rule.named
    rw [same,likewise] at named
    refine ⟨_,AuthorizationRequest.createResolved_iff.mpr ⟨named,membership,trusted,rfl⟩,?_⟩
    apply RolePolicyEngine.evaluate_iff.mpr
    exact ⟨rule,(RolePolicyEngine.find_iff created _ _ _).mpr only,(met_iff trusted rfl rfl).mpr met⟩

end

theorem protected_same : evaluateProtected (some engine) request = engine request := ite_self _

theorem access_decided {rules : List RolePolicyRule} {engine : RolePolicyEngine}
    (created : RolePolicyEngine.create rules = .ok engine) :
    (∀ (repositories : Repositories) (decisionSink : Option AuthorizationDecisionSink) (session : AuthenticatedSession)
      (route : Route) (correlation : Text),
      ((authorize (some engine.evaluate) repositories decisionSink session route correlation).kind = .allow ↔
        Allowed rules repositories session route) ∧
      ((authorize (some engine.evaluate) repositories decisionSink session route correlation).isPermitted = true ↔
        Allowed rules repositories session route)) ∧
    ∀ reordered,rules.Perm reordered → RolePolicyEngine.create reordered = .ok engine := by
  refine ⟨?_,fun reordered shuffled => RolePolicyEngine.create_perm shuffled created⟩
  intro repositories decisionSink session route correlation
  rw [permitted_iff,and_self,PolicyAccessController.authorize_iff,← allowed_iff created]
  simp only [protected_same]

section

def demoOrganization : Organization := ⟨⟨"org"⟩,"Example",0,.active⟩

def demoMembership : Membership := ⟨⟨"org"⟩,⟨"alice"⟩,.active,0,[⟨"auditor"⟩,⟨"member"⟩],Membership.active_dropped⟩

def demoRepositories : Repositories where
  findOrganization _ := .ok (some demoOrganization)
  findIdentity _ _ := .ok (some ⟨⟨"alice"⟩,.human,.active,0⟩)
  findMembership _ _ := .ok (some demoMembership)

def demoSession : AuthenticatedSession := ⟨⟨"alice"⟩,⟨"local"⟩,.ial2,⟨3,false⟩,0⟩

def demoRoute : Route := ⟨⟨"reports"⟩,.get,"/reports",⟨"reports"⟩,true,⟨"org"⟩,⟨"report.read"⟩,⟨"reports"⟩,[],[]⟩

theorem demoReports_usable : usableRule ⟨"report.read"⟩ ⟨"reports"⟩ [⟨"auditor"⟩,⟨"owner"⟩] .ial2 = true := by decide

theorem demoReports_distinct : adjacentEqual ([⟨"auditor"⟩,⟨"owner"⟩] : List Role) = false := by decide

def demoReports : RolePolicyRule :=
  ⟨⟨"report.read"⟩,⟨"reports"⟩,[⟨"auditor"⟩,⟨"owner"⟩],.any,.ial2,demoReports_usable,demoReports_distinct⟩

theorem demoInvoices_usable : usableRule ⟨"invoice.pay"⟩ ⟨"invoices"⟩ [⟨"owner"⟩] .ial3 = true := by decide

theorem demoInvoices_distinct : adjacentEqual ([⟨"owner"⟩] : List Role) = false := by decide

def demoInvoices : RolePolicyRule :=
  ⟨⟨"invoice.pay"⟩,⟨"invoices"⟩,[⟨"owner"⟩],.all,.ial3,demoInvoices_usable,demoInvoices_distinct⟩

theorem access_decided_demo : ∃ engine,RolePolicyEngine.create [demoReports,demoInvoices] = .ok engine ∧
    RolePolicyEngine.create [demoInvoices,demoReports] = .ok engine ∧
    (authorize (some engine.evaluate) demoRepositories none demoSession demoRoute "r1").isPermitted = true := by
  cases created : RolePolicyEngine.create [demoReports,demoInvoices] with
  | error e =>
    have accepted : (RolePolicyEngine.create [demoReports,demoInvoices]).isOk = true := by decide
    rw [created] at accepted
    cases accepted
  | ok engine =>
    obtain ⟨decided,shuffled⟩ := access_decided created
    refine ⟨engine,rfl,shuffled _ (.swap _ _ _),(decided demoRepositories none demoSession demoRoute "r1").2.mpr ?_⟩
    have only : ([demoReports,demoInvoices].filter fun item => item.governs demoRoute.action demoRoute.resource)
        = [demoReports] := by decide
    refine ⟨demoMembership,demoReports,⟨⟨_,rfl,rfl,rfl⟩,⟨_,rfl,rfl,rfl⟩,rfl,rfl,rfl⟩,only,rfl,?_,fun _ => ?_⟩
    · intro other
      cases other
    · exact ⟨⟨"auditor"⟩,by decide,by decide⟩

end

end OpenProof.Policies
