import OpenProof.Http

namespace OpenProof.World
open AtomicPrograms Foundation Identities Applications Clients Resources Consents
open Authorizations
open Tokens Http

-- Each constructor below is one repository method, and each repository method is
-- one atomic step: the in-memory repositories hold their mutex for the whole body.
inductive IdentityOp where
  | add (organization : OrganizationId) (identity : Identity)
  | findById (organization : OrganizationId) (id : IdentityId)
  | changeStatus (organization : OrganizationId) (id : IdentityId) (status : IdentityStatus)

abbrev IdentityOp.Ret : IdentityOp → Type
  | .add .. => Result Unit
  | .findById .. => Option Identity
  | .changeStatus .. => Result Unit

def IdentityOp.exec : (op : IdentityOp) → IdentityStore → op.Ret × IdentityStore
  | .add organization identity,s => s.add organization identity
  | .findById organization id,s => (s.findById organization id,s)
  | .changeStatus organization id status,s => s.changeStatus organization id status

inductive ApplicationOp where
  | add (application : Application)
  | save (application : Application)
  | findById (id : ApplicationId)
  | list

abbrev ApplicationOp.Ret : ApplicationOp → Type
  | .add _ => Result Unit
  | .save _ => Result Unit
  | .findById _ => Option Application
  | .list => List Application

def ApplicationOp.exec : (op : ApplicationOp) → ApplicationStore → op.Ret × ApplicationStore
  | .add application,s => s.add application
  | .save application,s => s.save application
  | .findById id,s => (s.findById id,s)
  | .list,s => (s.list,s)

inductive ClientOp where
  | add (client : Client)
  | save (client : Client)
  | findById (id : ClientId)
  | clientsOf (applicationId : ApplicationId)

abbrev ClientOp.Ret : ClientOp → Type
  | .add _ => Result Unit
  | .save _ => Result Unit
  | .findById _ => Option Client
  | .clientsOf _ => List Client

def ClientOp.exec : (op : ClientOp) → ClientStore → op.Ret × ClientStore
  | .add client,s => s.add client
  | .save client,s => s.save client
  | .findById id,s => (s.findById id,s)
  | .clientsOf applicationId,s => (s.clientsOf applicationId,s)

inductive ResourceOp where
  | add (resource : ResourceServer)
  | save (resource : ResourceServer)
  | findByAudience (audience : Text)
  | list
  | saveService (service : ServiceIdentity)
  | serviceForClient (clientId : ClientId)

abbrev ResourceOp.Ret : ResourceOp → Type
  | .add _ => Result Unit
  | .save _ => Result Unit
  | .findByAudience _ => Option ResourceServer
  | .list => List ResourceServer
  | .saveService _ => Result Unit
  | .serviceForClient _ => Option ServiceIdentity

def ResourceOp.exec : (op : ResourceOp) → ResourceStore → op.Ret × ResourceStore
  | .add resource,s => s.add resource
  | .save resource,s => s.save resource
  | .findByAudience audience,s => (s.findByAudience audience,s)
  | .list,s => (s.list,s)
  | .saveService service,s => s.saveService service
  | .serviceForClient clientId,s => (s.serviceForClient clientId,s)

inductive ConsentOp where
  | save (grant : ConsentGrant)
  | findActive (identity : IdentityId) (clientId : ClientId) (audience : Text) (now : Instant)
  | list (identity : IdentityId)
  | revoke (id : ConsentId) (identity : IdentityId) (now : Instant)

abbrev ConsentOp.Ret : ConsentOp → Type
  | .save _ => Unit
  | .findActive .. => Option ConsentGrant
  | .list _ => List ConsentGrant
  | .revoke .. => Result Unit

def ConsentOp.exec : (op : ConsentOp) → ConsentStore → op.Ret × ConsentStore
  | .save grant,s => ((),s.save grant)
  | .findActive identity clientId audience now,s => (s.findActive identity clientId audience now,s)
  | .list identity,s => (s.list identity,s)
  | .revoke id identity now,s => s.revoke id identity now

inductive CodeOp where
  | add (code : AuthorizationCode)
  | consumeBound (digest : CodeDigest) (now : Instant) (clientId redirectUri codeChallenge : Text)

abbrev CodeOp.Ret : CodeOp → Type
  | .add _ => Result Unit
  | .consumeBound .. => Result AuthorizationCode

def CodeOp.exec : (op : CodeOp) → CodeStore → op.Ret × CodeStore
  | .add code,s => s.add code
  | .consumeBound digest now clientId redirectUri codeChallenge,s =>
    s.consumeBound digest now clientId redirectUri codeChallenge

inductive PushedOp where
  | add (pushed : PushedAuthorizationRequest)
  | find (digest : PushedRequestDigest) (now : Instant)
  | consume (digest : PushedRequestDigest) (expectedClient : ClientId) (now : Instant)

abbrev PushedOp.Ret : PushedOp → Type
  | .add _ => Result Unit
  | .find .. => Result PushedAuthorizationRequest
  | .consume .. => Result PushedAuthorizationRequest

def PushedOp.exec : (op : PushedOp) → PushedStore → op.Ret × PushedStore
  | .add pushed,s => s.add pushed
  | .find digest now,s => (s.find digest now,s)
  | .consume digest expectedClient now,s => s.consume digest expectedClient now

inductive DeviceOp where
  | add (authorization : DeviceAuthorization)
  | findByUserCode (userCode : Sha256Digest) (now : Instant)
  | approve (userCode : Sha256Digest) (authenticated : AuthenticatedSession) (now : Instant)
  | deny (userCode : Sha256Digest) (now : Instant)
  | poll (deviceCode : Sha256Digest) (expectedClient : ClientId) (now : Instant)

abbrev DeviceOp.Ret : DeviceOp → Type
  | .add _ => Result Unit
  | .findByUserCode .. => Result DeviceAuthorization
  | .approve .. => Result DeviceAuthorization
  | .deny .. => Result Unit
  | .poll .. => Result DevicePollResult

def DeviceOp.exec : (op : DeviceOp) → DeviceStore → op.Ret × DeviceStore
  | .add authorization,s => s.add authorization
  | .findByUserCode userCode now,s => (s.findByUserCode userCode now,s)
  | .approve userCode authenticated now,s => s.approve userCode authenticated now
  | .deny userCode now,s => s.deny userCode now
  | .poll deviceCode expectedClient now,s => s.poll deviceCode expectedClient now

structure JarStore where
  keys : JarKeyStore
  replays : List JarReplay

inductive JarOp where
  | save (key : ClientRequestSigningKey)
  | find (clientId : ClientId)
  | remove (clientId : ClientId)
  | consume (clientId : ClientId) (jwtId : Text) (expiresAt now : Instant)

abbrev JarOp.Ret : JarOp → Type
  | .save _ => Unit
  | .find _ => Option ClientRequestSigningKey
  | .remove _ => Unit
  | .consume .. => Result Unit

def JarOp.exec : (op : JarOp) → JarStore → op.Ret × JarStore
  | .save key,s => ((),{ s with keys := s.keys.insert key.clientId key })
  | .find clientId,s => (s.keys[clientId]?,s)
  | .remove clientId,s => ((),{ s with keys := s.keys.erase clientId })
  | .consume clientId jwtId expiresAt now,s =>
    let r := consumeJarReplay clientId jwtId expiresAt now s.replays
    (r.1,{ s with replays := r.2 })

inductive TokenOp where
  | storeInitial (access : AccessTokenRecord) (refresh : RefreshTokenRecord)
  | storeAccessOnly (access : AccessTokenRecord)
  | findAccess (digest : TokenDigest)
  | findRefresh (digest : TokenDigest)
  | rotateRefresh (presented : TokenDigest) (now : Instant) (access : AccessTokenRecord)
      (refresh : RefreshTokenRecord)
  | revokeFamily (family : TokenFamilyId) (now : Instant)
  | revokeToken (digest : TokenDigest) (now : Instant)

abbrev TokenOp.Ret : TokenOp → Type
  | .storeInitial .. => Result Unit
  | .storeAccessOnly _ => Result Unit
  | .findAccess _ => Result AccessTokenRecord
  | .findRefresh _ => Result RefreshTokenRecord
  | .rotateRefresh .. => Result Unit
  | .revokeFamily .. => Result Unit
  | .revokeToken .. => Result Unit

def TokenOp.exec : (op : TokenOp) → TokenStore → op.Ret × TokenStore
  | .storeInitial access refresh,s => s.storeInitial access refresh
  | .storeAccessOnly access,s => s.storeAccessOnly access
  | .findAccess digest,s => (s.findAccess digest,s)
  | .findRefresh digest,s => (s.findRefresh digest,s)
  | .rotateRefresh presented now access refresh,s => s.rotateRefresh presented now access refresh
  | .revokeFamily family now,s => s.revokeFamily family now
  | .revokeToken digest now,s => s.revokeToken digest now

-- Services that answer the endpoints from state of their own: browser sessions,
-- memberships, rate limits, sender proofs and the OpenID signer. A run may change
-- any of these answers between two steps, so nothing is assumed of them.
structure Surroundings where
  sessions : Text → Result AuthenticatedSession
  memberships : OrganizationId → IdentityId → Result (Option Membership)
  allows : Text → Bool
  senderProof : HttpRequest → Result (Option SenderConstraint)
  issueIdToken : AuthorizationCode → Result Text
  issueAuthorizationResponse :
    ClientId → (code state error : Option Text) → Result Text

inductive SurroundingOp where
  | authenticate (token : Text)
  | membership (organization : OrganizationId) (identity : IdentityId)
  | allow (key : Text)
  | tokenEndpointConstraint (request : HttpRequest)
  | issueIdToken (code : AuthorizationCode)
  | issueAuthorizationResponse (clientId : ClientId) (code state error : Option Text)

abbrev SurroundingOp.Ret : SurroundingOp → Type
  | .authenticate _ => Result AuthenticatedSession
  | .membership .. => Result (Option Membership)
  | .allow _ => Bool
  | .tokenEndpointConstraint _ => Result (Option SenderConstraint)
  | .issueIdToken _ => Result Text
  | .issueAuthorizationResponse .. => Result Text

def SurroundingOp.answer : (op : SurroundingOp) → Surroundings → op.Ret
  | .authenticate token,s => s.sessions token
  | .membership organization identity,s => s.memberships organization identity
  | .allow key,s => s.allows key
  | .tokenEndpointConstraint request,s => s.senderProof request
  | .issueIdToken code,s => s.issueIdToken code
  | .issueAuthorizationResponse clientId code state error,s =>
    s.issueAuthorizationResponse clientId code state error

-- Everything the calls share. `entropy` is what the random generator will return.
structure State where
  clock : Instant
  entropy : List (Result Text)
  surroundings : Surroundings
  identities : IdentityStore
  applications : ApplicationStore
  clients : ClientStore
  resources : ResourceStore
  consents : ConsentStore
  codes : CodeStore
  pushed : PushedStore
  devices : DeviceStore
  jar : JarStore
  tokens : TokenStore

inductive Op where
  | now
  | random (count : Nat)
  | surrounding (op : SurroundingOp)
  | identity (op : IdentityOp)
  | application (op : ApplicationOp)
  | client (op : ClientOp)
  | resource (op : ResourceOp)
  | consent (op : ConsentOp)
  | code (op : CodeOp)
  | pushed (op : PushedOp)
  | device (op : DeviceOp)
  | jar (op : JarOp)
  | token (op : TokenOp)

abbrev Op.Ret : Op → Type
  | .now => Instant
  | .random _ => Result Text
  | .surrounding op => op.Ret
  | .identity op => op.Ret
  | .application op => op.Ret
  | .client op => op.Ret
  | .resource op => op.Ret
  | .consent op => op.Ret
  | .code op => op.Ret
  | .pushed op => op.Ret
  | .device op => op.Ret
  | .jar op => op.Ret
  | .token op => op.Ret

def randomFailure : Error :=
  .of .internal (defaultErrorMessage .internal) "The cryptographic random number generator failed."

def exec : (op : Op) → State → op.Ret × State
  | .now,w => (w.clock,w)
  | .random _,w => (w.entropy.headD (.error randomFailure),{ w with entropy := w.entropy.tail })
  | .surrounding op,w => (op.answer w.surroundings,w)
  | .identity op,w => ((op.exec w.identities).1,{ w with identities := (op.exec w.identities).2 })
  | .application op,w =>
    ((op.exec w.applications).1,{ w with applications := (op.exec w.applications).2 })
  | .client op,w => ((op.exec w.clients).1,{ w with clients := (op.exec w.clients).2 })
  | .resource op,w => ((op.exec w.resources).1,{ w with resources := (op.exec w.resources).2 })
  | .consent op,w => ((op.exec w.consents).1,{ w with consents := (op.exec w.consents).2 })
  | .code op,w => ((op.exec w.codes).1,{ w with codes := (op.exec w.codes).2 })
  | .pushed op,w => ((op.exec w.pushed).1,{ w with pushed := (op.exec w.pushed).2 })
  | .device op,w => ((op.exec w.devices).1,{ w with devices := (op.exec w.devices).2 })
  | .jar op,w => ((op.exec w.jar).1,{ w with jar := (op.exec w.jar).2 })
  | .token op,w => ((op.exec w.tokens).1,{ w with tokens := (op.exec w.tokens).2 })

def Op.reads : Op → Bool
  | .now | .random _ | .surrounding _ => true
  | .identity (.findById ..) => true
  | .application (.findById _) | .application .list => true
  | .client (.findById _) | .client (.clientsOf _) => true
  | .resource (.findByAudience _) | .resource .list | .resource (.serviceForClient _) => true
  | .consent (.findActive ..) | .consent (.list _) => true
  | .pushed (.find ..) => true
  | .device (.findByUserCode ..) => true
  | .jar (.find _) => true
  | .token (.findAccess _) | .token (.findRefresh _) => true
  | _ => false

structure SameStores (before after : State) : Prop where
  identities : after.identities = before.identities
  applications : after.applications = before.applications
  clients : after.clients = before.clients
  resources : after.resources = before.resources
  consents : after.consents = before.consents
  codes : after.codes = before.codes
  pushed : after.pushed = before.pushed
  devices : after.devices = before.devices
  jar : after.jar = before.jar
  tokens : after.tokens = before.tokens

theorem exec_reads (reading : op.reads = true) (w : State) : SameStores w (exec op w).2 := by
  cases op with
  | now | random | surrounding => exact ⟨rfl,rfl,rfl,rfl,rfl,rfl,rfl,rfl,rfl,rfl⟩
  | identity op => cases op <;> first | exact ⟨rfl,rfl,rfl,rfl,rfl,rfl,rfl,rfl,rfl,rfl⟩ | cases reading
  | application op => cases op <;> first | exact ⟨rfl,rfl,rfl,rfl,rfl,rfl,rfl,rfl,rfl,rfl⟩ | cases reading
  | client op => cases op <;> first | exact ⟨rfl,rfl,rfl,rfl,rfl,rfl,rfl,rfl,rfl,rfl⟩ | cases reading
  | resource op => cases op <;> first | exact ⟨rfl,rfl,rfl,rfl,rfl,rfl,rfl,rfl,rfl,rfl⟩ | cases reading
  | consent op => cases op <;> first | exact ⟨rfl,rfl,rfl,rfl,rfl,rfl,rfl,rfl,rfl,rfl⟩ | cases reading
  | code op => cases op <;> cases reading
  | pushed op => cases op <;> first | exact ⟨rfl,rfl,rfl,rfl,rfl,rfl,rfl,rfl,rfl,rfl⟩ | cases reading
  | device op => cases op <;> first | exact ⟨rfl,rfl,rfl,rfl,rfl,rfl,rfl,rfl,rfl,rfl⟩ | cases reading
  | jar op => cases op <;> first | exact ⟨rfl,rfl,rfl,rfl,rfl,rfl,rfl,rfl,rfl,rfl⟩ | cases reading
  | token op => cases op <;> first | exact ⟨rfl,rfl,rfl,rfl,rfl,rfl,rfl,rfl,rfl,rfl⟩ | cases reading

abbrev Call (α : Type) := Prog Op Op.Ret Error α

-- Contracts over the shared state.
abbrev Shared (admits : Op → History State → Prop) (rely : History State → State → Prop)
    (guar : Nat → History State → State → Prop) : Contract Op Op.Ret State :=
  ⟨exec,admits,rely,guar⟩

def ask (op : Op) : Prog Op Op.Ret Err (op.Ret) := .perform op

@[simp] theorem run_ask_bind (op : Op) (f : op.Ret → Prog Op Op.Ret Err β) (w : State) :
    (Prog.bind (α:=no_index op.Ret) (ask op) f).run exec w = (f (exec op w).1).run exec (exec op w).2 := rfl

def now : Call Instant := ask .now
def randomToken (bytes : Nat) : Call Text := (ask (.random bytes)).bind Prog.check

abbrev Looks (p : Prog Op Op.Ret Err α) : Prop := p.Only fun op => op.reads = true

theorem looks_ask (reading : op.reads = true) : Looks (ask op : Prog Op Op.Ret Err _) :=
  .perform reading

theorem looks_now : Looks now := looks_ask rfl

theorem looks_randomToken (bytes : Nat) : Looks (randomToken bytes) :=
  .bind (looks_ask rfl) fun _ => .check _ _

-- Contracts in which looking something up is never a breach.
structure Lenient (admits : Op → History State → Prop) (rely : History State → State → Prop)
    (guar : Nat → History State → State → Prop) (born : Nat) : Prop where
  honest : (Shared admits rely guar).Honest
  quiet : ∀ op later,op.reads = true → admits op later → guar born later (exec op later.now).2

section

section
variable (lenient : Lenient admits rely guar born)
include lenient

theorem Lenient.past (stable : Stable rely φ) {p : Prog Op Op.Ret Err α} {f : α → Prog Op Op.Ret Err β}
    (looks : Looks p) (known : φ h)
    (rest : ∀ a later,φ later → Safe (Shared admits rely guar) born (returns second) (f a) later) :
    Safe (Shared admits rely guar) born (returns second) (p.bind f) h :=
  .past lenient.honest (fun op later reading admitted => lenient.quiet op later reading admitted)
    stable looks known rest

theorem Lenient.looks {p : Prog Op Op.Ret Err α} (looks : Looks p) : Safe (Shared admits rely guar) born (returns fun _ _ => True) p h :=
  .only looks fun op later reading admitted => lenient.quiet op later reading admitted

theorem Lenient.look (stable : Stable rely φ) {op : Op} (reading : op.reads = true)
    {f : op.Ret → Prog Op Op.Ret Err β} (known : φ h)
    (rest : ∀ before,φ before → φ (before.push (exec op before.now).2) → Safe (Shared admits rely guar) born (returns second) (f (exec op before.now).1) (before.push (exec op before.now).2)) :
    Safe (Shared admits rely guar) born (returns second) ((ask op).bind f) h := by
  intro later grown admitted
  have kept := lenient.quiet op later reading admitted
  have here := Grows.keep grown stable known
  exact ⟨kept,rest later here (stable _ _ (lenient.honest _ _ _ kept) here)⟩

theorem Lenient.write (stable : Stable rely φ) {op : Op} {f : op.Ret → Prog Op Op.Ret Err β} (known : φ h)
    (acts : ∀ later,φ later → admits op later → guar born later (exec op later.now).2)
    (rest : ∀ before,φ before → φ (before.push (exec op before.now).2) → Safe (Shared admits rely guar) born (returns second) (f (exec op before.now).1) (before.push (exec op before.now).2)) :
    Safe (Shared admits rely guar) born (returns second) ((ask op).bind f) h := by
  intro later grown admitted
  have here := Grows.keep grown stable known
  have kept := acts later here admitted
  exact ⟨kept,rest later here (stable _ _ (lenient.honest _ _ _ kept) here)⟩

end

end

def State.empty (surroundings : Surroundings) : State :=
  ⟨0,[],surroundings,∅,⟨∅,∅⟩,∅,⟨∅,∅⟩,∅,∅,∅,⟨∅,∅⟩,⟨∅,[]⟩,.empty⟩

end OpenProof.World
