import OpenProof.OAuthHttp

namespace OpenProof.OAuthActs
open AtomicPrograms Foundation World TokenService Identities
open Clients Resources Consents
open Authorizations
open Tokens
open Http

-- The registries keep each record under the name it carries.
structure Tidy (clients : ClientStore) (registry : ResourceStore) : Prop where
  clients : ∀ (key : ClientId) (client : Client),clients[key]? = some client → client.id = key
  resources : ∀ (audience : Text) (resource : ResourceServer),
    registry.resources[audience]? = some resource → resource.audience = audience
  services : ∀ (key : ClientId) (service : ServiceIdentity),
    registry.services[key]? = some service → service.client = key

def Declares (w : State) (scopes : List Scope) : Option Text → Prop
  | none => ∀ scope ∈ scopes,oidcOnlyScope scope.value = true
  | some audience => ∃ resource,w.resources.resources[audience]? = some resource ∧
      ∀ scope ∈ scopes,oidcOnlyScope scope.value = false → scope.value ∈ resource.scopes.items

def Permits (w : State) (clientId : ClientId) (scopes : List Scope) : Prop :=
  ∃ client,w.clients[clientId]? = some client ∧ client.permitsScopes scopes = true

structure Checked (born : Nat) (h : History State) (clientId : ClientId) (scopes : List Scope)
    (resource : Option Text) : Prop where
  client : Witnessed born (fun w => Permits w clientId scopes) h
  resource : Witnessed born (fun w => Declares w scopes resource) h

def Consented (w : State) (identity : IdentityId) (clientId : ClientId) (resource : Option Text)
    (scopes : List Scope) : Prop :=
  ∃ (id : ConsentId) (grant : ConsentGrant),w.consents[id]? = some grant ∧ grant.identity = identity ∧
    grant.client = clientId ∧ grant.audience = consentAudience clientId resource ∧
      grant.activeAt w.clock = true ∧ ∀ scope ∈ scopes,scope.value ∈ grant.scopes.items

def Admitted (w : State) (clientId : ClientId) (redirectUri : Text) (scopes : List Scope) : Prop :=
  ∃ client,w.clients[clientId]? = some client ∧ client.status = .active ∧
    client.permitsRedirect redirectUri = true ∧ client.permitsScopes scopes = true

-- The request a code is issued for: the one that was checked, or what the pushed
-- store held later under the digest it was found by.
def Taken (born : Nat) (asked final : AuthorizationRequest) (h : History State) : Prop :=
  final = asked ∨ ∃ (key : PushedRequestDigest) (found consumed : PushedAuthorizationRequest),
    Witnessed born (fun w => w.pushed[key]? = some found) h ∧ found.request = asked ∧
      Witnessed born (fun w => w.pushed[key]? = some consumed) h ∧ consumed.request = final

structure IssuedFor (request : AuthorizationRequest) (code : AuthorizationCode) : Prop where
  clientId : code.clientId = request.clientId
  redirectUri : code.redirectUri = request.redirectUri
  scopes : code.scopes = request.scopes
  resource : code.resource = request.resource

inductive Issued (born : Nat) (h : History State) (code : AuthorizationCode) : Prop where
  | intro (asked final : AuthorizationRequest) (same : IssuedFor final code) (taken : Taken born asked final h)
      (client : Witnessed born (fun w => Admitted w code.clientId code.redirectUri code.scopes) h)
      (consent : Witnessed born
        (fun w => Consented w code.identity asked.clientId asked.resource asked.scopes) h)
      (resource : Witnessed born (fun w => Declares w asked.scopes asked.resource) h)

def Held (tokens : TokenStore) (context : TokenContext) : Prop :=
  (∃ (key : TokenDigest) (record : AccessTokenRecord),
    tokens.access[key]? = some record ∧ record.context = context) ∨
  ∃ (key : TokenDigest) (record : RefreshTokenRecord),
    tokens.refresh[key]? = some record ∧ record.context = context

def Approved (w : State) (clientId : ClientId) (scopes : List Scope) (resource : Option Text) : Prop :=
  (∃ (key : CodeDigest) (code : AuthorizationCode),w.codes[key]? = some code ∧
    code.clientId = clientId ∧ code.scopes = scopes ∧ code.resource = resource) ∨
  ∃ (key : Sha256Digest) (authorization : DeviceAuthorization),
    w.devices.byDevice[key]? = some authorization ∧ authorization.clientId = clientId ∧
      authorization.scopes = scopes ∧ authorization.resource = resource

-- Where the context of a new token comes from, grant type by grant type.
inductive Origin (born : Nat) (h : History State) : TokenContext → Prop where
  | approved (context : TokenContext) (clientId : ClientId) (scopes : List Scope) (resource : Option Text)
      (stored : Witnessed born (fun w => Approved w clientId scopes resource) h)
      (client : context.client = clientId) (carried : context.scopes = .ofList (scopes.map Scope.value))
      (audiences : context.audiences = .ofList resource.toList) : Origin born h context
  | credentials (service : ServiceIdentity) (clientId : ClientId) (audience : Text) (scopes : List Text)
      (senderConstraint : Option SenderConstraint) (at_ : Instant)
      (stored : Witnessed born (fun w => w.resources.services[clientId]? = some service) h)
      (client : service.client = clientId) (scopesHeld : ∀ scope ∈ scopes,scope ∈ service.scopes.items)
      (resource : Witnessed born (fun w => ∃ resource,w.resources.resources[audience]? = some resource ∧
        ∀ scope ∈ scopes,scope ∈ resource.scopes.items) h) :
      Origin born h (machineContext service audience scopes senderConstraint at_)
  | renewed (context : TokenContext) (stored : Witnessed born (fun w => Held w.tokens context) h) :
      Origin born h context
  | exchanged (source : TokenContext) (clientId : ClientId) (audience : Text) (scopes : List Text)
      (senderConstraint : Option SenderConstraint) (stored : Witnessed born (fun w => Held w.tokens source) h)
      (client : source.client = clientId) (audienceHeld : audience ∈ source.audiences.items)
      (scopesHeld : ∀ scope ∈ scopes,scope ∈ source.scopes.items) :
      Origin born h (exchangeContext clientId source audience scopes senderConstraint)

structure Acts (admits : Op → History State → Prop) (born : Nat) (h : History State) (w : State) : Prop where
  clients : ∀ (key : ClientId) (client : Client),h.now.clients[key]? = some client →
    ∃ after,w.clients[key]? = some after ∧ Client.SameRegistration client after
  resources : ∀ (audience : Text) (resource : ResourceServer),
    h.now.resources.resources[audience]? = some resource →
      ∃ after,w.resources.resources[audience]? = some after ∧ after.scopes = resource.scopes
  tidy : Tidy h.now.clients h.now.resources → Tidy w.clients w.resources
  consents : ∀ (id : ConsentId) (grant : ConsentGrant),w.consents[id]? = some grant →
    grant.revokedAt = none → grant.expiresAt = none ∨ h.now.consents[id]? = some grant
  codes : ∀ (key : CodeDigest) (code : AuthorizationCode),w.codes[key]? = some code →
    h.now.codes[key]? = some code ∨ Issued born h code
  pushed : ∀ (key : PushedRequestDigest) (pushed : PushedAuthorizationRequest),w.pushed[key]? = some pushed →
    h.now.pushed[key]? = some pushed ∨ (pushed.digest = key ∧ admits (.pushed (.add pushed)) h ∧
      Checked born h pushed.request.clientId pushed.request.scopes pushed.request.resource)
  devices : ∀ (key : Sha256Digest) (after : DeviceAuthorization),w.devices.byDevice[key]? = some after →
    (∃ before,h.now.devices.byDevice[key]? = some before ∧ DeviceAuthorization.SameRequest before after) ∨
      Checked born h after.clientId after.scopes after.resource
  tokens : ∀ context,Held w.tokens context → Held h.now.tokens context ∨ Origin born h context

theorem Acts.refl : Acts admits born h h.now where
  clients _ client stored := ⟨client,stored,rfl,rfl,rfl,rfl,rfl⟩
  resources _ resource stored := ⟨resource,stored,rfl⟩
  tidy := id
  consents _ _ stored _ := .inr stored
  codes _ _ stored := .inl stored
  pushed _ _ stored := .inl stored
  devices _ after stored := .inl ⟨after,stored,rfl,rfl,rfl⟩
  tokens _ held := .inl held

def guar (admits : Op → History State → Prop) (born : Nat) (h : History State) (w : State) : Prop :=
  Acts admits born h w
def rely (admits : Op → History State → Prop) (h : History State) (w : State) : Prop :=
  ∃ born,Acts admits born h w

abbrev contract (admits : Op → History State → Prop) : Contract Op Op.Ret State :=
  Shared admits (rely admits) (guar admits)

theorem honest (admits : Op → History State → Prop) : (contract admits).Honest :=
  fun born _ _ acted => ⟨born,acted⟩

structure Untouched (before after : State) : Prop where
  clients : after.clients = before.clients
  resources : after.resources = before.resources
  consents : after.consents = before.consents
  codes : after.codes = before.codes
  pushed : after.pushed = before.pushed
  devices : after.devices = before.devices
  tokens : after.tokens = before.tokens

theorem Acts.untouched (same : Untouched h.now w) : Acts admits born h w := by
  have kept : Acts admits born h h.now := .refl
  constructor
  · rw [same.clients]
    exact kept.clients
  · rw [same.resources]
    exact kept.resources
  · rw [same.clients,same.resources]
    exact kept.tidy
  · rw [same.consents]
    exact kept.consents
  · rw [same.codes]
    exact kept.codes
  · rw [same.pushed]
    exact kept.pushed
  · rw [same.devices]
    exact kept.devices
  · rw [same.tokens]
    exact kept.tokens

theorem acts_codes (moved : ∀ (key : CodeDigest) (code : AuthorizationCode),codes[key]? = some code →
      h.now.codes[key]? = some code ∨ Issued born h code) :
    Acts admits born h { h.now with codes := codes } := { Acts.refl with codes := moved }

theorem acts_pushed (moved : ∀ (key : PushedRequestDigest) (pushed : PushedAuthorizationRequest),
      requests[key]? = some pushed → h.now.pushed[key]? = some pushed ∨
        (pushed.digest = key ∧ admits (.pushed (.add pushed)) h ∧
          Checked born h pushed.request.clientId pushed.request.scopes pushed.request.resource)) :
    Acts admits born h { h.now with pushed := requests } :=
  { (Acts.refl : Acts admits born h h.now) with pushed := moved }

theorem acts_devices
    (moved : ∀ (key : Sha256Digest) (after : DeviceAuthorization),devices.byDevice[key]? = some after →
      (∃ before,h.now.devices.byDevice[key]? = some before ∧ DeviceAuthorization.SameRequest before after) ∨
        Checked born h after.clientId after.scopes after.resource) :
    Acts admits born h { h.now with devices := devices } := { Acts.refl with devices := moved }

theorem acts_tokens (moved : ∀ context,Held tokens context → Held h.now.tokens context ∨ Origin born h context) :
    Acts admits born h { h.now with tokens := tokens } := { Acts.refl with tokens := moved }

theorem acts_consents (moved : ∀ (id : ConsentId) (grant : ConsentGrant),grants[id]? = some grant →
      grant.revokedAt = none → grant.expiresAt = none ∨ h.now.consents[id]? = some grant) :
    Acts admits born h { h.now with consents := grants } := { Acts.refl with consents := moved }

theorem acts_clients (kept : ∀ (key : ClientId) (client : Client),h.now.clients[key]? = some client →
      ∃ after,clients[key]? = some after ∧ Client.SameRegistration client after)
    (tidy : Tidy h.now.clients h.now.resources → Tidy clients h.now.resources) :
    Acts admits born h { h.now with clients := clients } :=
  { Acts.refl with clients := kept, tidy := tidy }

theorem acts_resources (kept : ∀ (audience : Text) (resource : ResourceServer),
      h.now.resources.resources[audience]? = some resource →
        ∃ after,registry.resources[audience]? = some after ∧ after.scopes = resource.scopes)
    (tidy : Tidy h.now.clients h.now.resources → Tidy h.now.clients registry) :
    Acts admits born h { h.now with resources := registry } :=
  { Acts.refl with resources := kept, tidy := tidy }

theorem addCode_acts (issued : Issued born h code) : Acts admits born h (exec (.code (.add code)) h.now).2 := by
  refine acts_codes fun key found stored => ?_
  change (CodeStore.add code h.now.codes).2[key]? = some found at stored
  unfold CodeStore.add at stored
  split at stored
  · exact .inl stored
  · rcases Map.insert_cases stored with ⟨-,rfl⟩ | old
    · exact .inr issued
    · exact .inl old

theorem consumeBound_acts (digest : CodeDigest) (at_ : Instant) (clientId redirectUri challenge : Text) :
    Acts admits born h (exec (.code (.consumeBound digest at_ clientId redirectUri challenge)) h.now).2 := by
  refine acts_codes fun key found stored => .inl ?_
  change (CodeStore.consumeBound digest at_ clientId redirectUri challenge h.now.codes).2[key]? =
    some found at stored
  unfold CodeStore.consumeBound at stored
  split at stored
  · exact stored
  · split_ifs at stored
    · exact Map.erase_cases stored
    · exact stored
    · exact Map.erase_cases stored

theorem addPushed_acts (admitted : admits (.pushed (.add pushed)) h)
    (checked : Checked born h pushed.request.clientId pushed.request.scopes pushed.request.resource) :
    Acts admits born h (exec (.pushed (.add pushed)) h.now).2 := by
  refine acts_pushed fun key found stored => ?_
  change (PushedStore.add pushed h.now.pushed).2[key]? = some found at stored
  unfold PushedStore.add at stored
  split at stored
  · exact .inl stored
  · rcases Map.insert_cases stored with ⟨same,rfl⟩ | old
    · exact .inr ⟨same,admitted,checked⟩
    · exact .inl old

theorem consumePushed_acts (digest : PushedRequestDigest) (expected : ClientId) (at_ : Instant) :
    Acts admits born h (exec (.pushed (.consume digest expected at_)) h.now).2 := by
  refine acts_pushed fun key found stored => .inl ?_
  change (PushedStore.consume digest expected at_ h.now.pushed).2[key]? = some found at stored
  unfold PushedStore.consume at stored
  split at stored
  · exact stored
  · split_ifs at stored
    · exact stored
    · exact Map.erase_cases stored

theorem addDevice_acts (checked : Checked born h authorization.clientId authorization.scopes authorization.resource) :
    Acts admits born h (exec (.device (.add authorization)) h.now).2 := by
  refine acts_devices fun key found stored => ?_
  change (DeviceStore.add authorization h.now.devices).2.byDevice[key]? = some found at stored
  unfold DeviceStore.add at stored
  split at stored
  · exact .inl ⟨found,stored,rfl,rfl,rfl⟩
  · rcases Map.insert_cases stored with ⟨-,rfl⟩ | old
    · exact .inr checked
    · exact .inl ⟨found,old,rfl,rfl,rfl⟩

theorem replaceDevice_acts (stored : h.now.devices.byDevice[device]? = some before)
    (same : DeviceAuthorization.SameRequest before after)
    (replaced : devices.byDevice = h.now.devices.byDevice.insert device after) :
    Acts admits born h { h.now with devices := devices } := by
  refine acts_devices fun key found present => .inl ?_
  rw [replaced] at present
  rcases Map.insert_cases present with ⟨rfl,rfl⟩ | old
  · exact ⟨before,stored,same⟩
  · exact ⟨found,old,rfl,rfl,rfl⟩

theorem byUserCode_stored {store : DeviceStore} (read : store.byUserCode userCode = some (device,found)) : store.byDevice[device]? = some found := by
  unfold DeviceStore.byUserCode at read
  split at read
  · cases read
  · simp only [Option.map_eq_some_iff,Prod.mk.injEq] at read
    obtain ⟨value,stored,rfl,rfl⟩ := read
    exact stored

theorem approve_acts (userCode : Sha256Digest) (authenticated : AuthenticatedSession) (at_ : Instant) :
    Acts admits born h (exec (.device (.approve userCode authenticated at_)) h.now).2 := by
  change Acts admits born h { h.now with devices := (DeviceStore.approve userCode authenticated at_ h.now.devices).2 }
  unfold DeviceStore.approve
  split
  · exact .refl
  · rename_i device found read
    split
    · exact .refl
    · rename_i value approved
      exact replaceDevice_acts (byUserCode_stored read) (DeviceAuthorization.approve_same approved) rfl

theorem deny_acts (userCode : Sha256Digest) (at_ : Instant) :
    Acts admits born h (exec (.device (.deny userCode at_)) h.now).2 := by
  change Acts admits born h { h.now with devices := (DeviceStore.deny userCode at_ h.now.devices).2 }
  unfold DeviceStore.deny
  split
  · exact .refl
  · rename_i device found read
    split
    · exact .refl
    · rename_i value denied
      exact replaceDevice_acts (byUserCode_stored read) (DeviceAuthorization.deny_same denied) rfl

theorem poll_acts (deviceCode : Sha256Digest) (expected : ClientId) (at_ : Instant) :
    Acts admits born h (exec (.device (.poll deviceCode expected at_)) h.now).2 := by
  change Acts admits born h { h.now with devices := (DeviceStore.poll deviceCode expected at_ h.now.devices).2 }
  unfold DeviceStore.poll
  split
  · exact .refl
  · rename_i value stored
    split_ifs
    · exact .refl
    · exact .refl
    · exact .refl
    · exact .refl
    · split
      · exact .refl
      · rename_i slowed
        exact replaceDevice_acts stored (DeviceAuthorization.slowDown_same slowed) rfl
    · split
      · exact .refl
      · rename_i consumed
        exact replaceDevice_acts stored (DeviceAuthorization.consume_same consumed) rfl
    · split
      · exact .refl
      · rename_i polled
        exact replaceDevice_acts stored (DeviceAuthorization.markPolled_same polled) rfl

theorem held_access {refresh : Map TokenDigest RefreshTokenRecord}
    (held : Held ⟨access.insert key record,refresh⟩ context) :
    Held ⟨access,refresh⟩ context ∨ context = record.context := by
  rcases held with ⟨at_,found,stored,rfl⟩ | refresh
  · rcases Map.insert_cases stored with ⟨-,rfl⟩ | old
    · exact .inr rfl
    · exact .inl (.inl ⟨at_,found,old,rfl⟩)
  · exact .inl (.inr refresh)

theorem held_refresh {refresh : Map TokenDigest RefreshTokenRecord}
    (held : Held ⟨access,refresh.insert key record⟩ context) :
    Held ⟨access,refresh⟩ context ∨ context = record.context := by
  rcases held with access | ⟨at_,found,stored,rfl⟩
  · exact .inl (.inl access)
  · rcases Map.insert_cases stored with ⟨-,rfl⟩ | old
    · exact .inr rfl
    · exact .inl (.inr ⟨at_,found,old,rfl⟩)

theorem held_revokeRecords (held : Held (tokens.revokeRecords family at_) context) : Held tokens context := by
  rcases held with ⟨key,after,stored,rfl⟩ | ⟨key,after,stored,rfl⟩
  · simp only [TokenStore.revokeRecords,Map.find_map,Option.map_eq_some_iff] at stored
    obtain ⟨before,present,rfl⟩ := stored
    refine .inl ⟨key,before,present,?_⟩
    split
    · exact (before.revoke_context at_).symm
    · rfl
  · simp only [TokenStore.revokeRecords,Map.find_map,Option.map_eq_some_iff] at stored
    obtain ⟨before,present,rfl⟩ := stored
    refine .inr ⟨key,before,present,?_⟩
    split
    · exact (before.revoke_same at_).context.symm
    · rfl

theorem storeInitial_acts (origin : Origin born h context) (family : TokenFamilyId) (at_ : Instant)
    (accessDigest refreshDigest : TokenDigest) :
    Acts admits born h (exec (initialOp d context family at_ accessDigest refreshDigest) h.now).2 := by
  refine acts_tokens fun carried held => ?_
  simp only [TokenOp.exec] at held
  unfold TokenStore.storeInitial at held
  split at held
  · exact .inl held
  · rcases held_refresh held with earlier | rfl
    · rcases held_access earlier with old | rfl
      · exact .inl old
      · exact .inr origin
    · exact .inr origin

theorem storeAccessOnly_acts (origin : Origin born h context) (family : TokenFamilyId) (at_ : Instant)
    (digest : TokenDigest) : Acts admits born h (exec (machineOp d context family at_ digest) h.now).2 := by
  refine acts_tokens fun carried held => ?_
  simp only [TokenOp.exec] at held
  unfold TokenStore.storeAccessOnly at held
  split at held
  · exact .inl held
  · rcases held_access held with old | rfl
    · exact .inl old
    · exact .inr origin

theorem rotateRefresh_acts (origin : Origin born h current.context) (at_ : Instant)
    (accessDigest refreshDigest : TokenDigest) :
    Acts admits born h (exec (rotationOp d current at_ accessDigest refreshDigest) h.now).2 := by
  refine acts_tokens fun carried held => ?_
  simp only [TokenOp.exec] at held
  unfold TokenStore.rotateRefresh at held
  split at held
  · exact .inl held
  · rename_i found stored
    split_ifs at held
    · exact .inl (held_revokeRecords held)
    · exact .inl held
    · exact .inl held
    · rcases held_refresh held with earlier | rfl
      · rcases held_refresh earlier with earlier | rfl
        · rcases held_access earlier with old | rfl
          · exact .inl old
          · exact .inr origin
        · exact .inl (.inr ⟨_,found,stored,(found.markUsed_same at_).context.symm⟩)
      · exact .inr origin

theorem revokeToken_acts (digest : TokenDigest) (at_ : Instant) :
    Acts admits born h (exec (.token (.revokeToken digest at_)) h.now).2 := by
  refine acts_tokens fun carried held => .inl ?_
  simp only [TokenOp.exec] at held
  unfold TokenStore.revokeToken at held
  split at held
  · rename_i record stored
    rcases held_access held with old | rfl
    · exact old
    · exact .inl ⟨digest,record,stored,(record.revoke_context at_).symm⟩
  · split at held
    · exact held_revokeRecords held
    · exact held

theorem saveConsent_acts (unlimited : grant.expiresAt = none) :
    Acts admits born h (exec (.consent (.save grant)) h.now).2 := by
  refine acts_consents fun id found stored unrevoked => ?_
  rcases Map.insert_cases stored with ⟨-,rfl⟩ | earlier
  · exact .inl unlimited
  · simp only [Map.find_map,Option.map_eq_some_iff] at earlier
    obtain ⟨before,present,rfl⟩ := earlier
    split_ifs at unrevoked ⊢
    · cases unrevoked
    · exact .inr present

theorem revokeConsent_acts (id : ConsentId) (identity : IdentityId) (at_ : Instant) :
    Acts admits born h (exec (.consent (.revoke id identity at_)) h.now).2 := by
  refine acts_consents fun key found stored unrevoked => .inr ?_
  simp only [ConsentOp.exec] at stored
  unfold ConsentStore.revoke at stored
  split at stored
  · exact stored
  · split_ifs at stored
    · exact stored
    · rcases Map.insert_cases stored with ⟨-,rfl⟩ | old
      · cases unrevoked
      · exact old

theorem addClient_acts (client : Client) : Acts admits born h (exec (.client (.add client)) h.now).2 := by
  change Acts admits born h { h.now with clients := (ClientStore.add client h.now.clients).2 }
  unfold ClientStore.add
  split
  · exact .refl
  · rename_i absent
    refine acts_clients (fun key before stored => ?_) fun tidy => ⟨?_,tidy.resources,tidy.services⟩
    · have other : client.id ≠ key := by
        rintro rfl
        simp [Map.holds,stored] at absent
      exact ⟨before,by simp only [Map.find_insert,other,if_false,stored],rfl,rfl,rfl,rfl,rfl⟩
    · intro key found stored
      rcases Map.insert_cases stored with ⟨rfl,rfl⟩ | old
      · rfl
      · exact tidy.clients key found old

def Registered (client : Client) (h : History State) : Prop :=
  ∃ found,h.now.clients[client.id]? = some found ∧ Client.SameRegistration client found

theorem saveClient_acts (known : Registered client h) (same : Client.SameRegistration client changed) :
    Acts admits born h (exec (.client (.save changed)) h.now).2 := by
  obtain ⟨found,stored,kept⟩ := known
  change Acts admits born h { h.now with clients := (ClientStore.save changed h.now.clients).2 }
  unfold ClientStore.save
  rw [same.id,stored]
  dsimp only
  split
  · exact .refl
  · refine acts_clients (fun key before present => ?_) fun tidy => ⟨?_,tidy.resources,tidy.services⟩
    · by_cases here : client.id = key
      · subst here
        rw [stored] at present
        cases present
        refine ⟨changed,by simp only [Map.find_insert,if_true],?_⟩
        exact ⟨same.id.trans kept.id.symm,same.applicationId.trans kept.applicationId.symm,
          same.kind.trans kept.kind.symm,same.redirectUris.trans kept.redirectUris.symm,
          same.scopes.trans kept.scopes.symm⟩
      · exact ⟨before,by simp only [Map.find_insert,here,if_false,present],rfl,rfl,rfl,rfl,rfl⟩
    · intro key found stored
      rcases Map.insert_cases stored with ⟨rfl,rfl⟩ | old
      · exact same.id
      · exact tidy.clients key found old

theorem addResource_acts (resource : ResourceServer) :
    Acts admits born h (exec (.resource (.add resource)) h.now).2 := by
  change Acts admits born h { h.now with resources := (ResourceStore.add resource h.now.resources).2 }
  unfold ResourceStore.add
  split
  · exact .refl
  · rename_i absent
    refine acts_resources (fun audience before stored => ?_) fun tidy => ⟨tidy.clients,?_,tidy.services⟩
    · have other : resource.audience ≠ audience := by
        rintro rfl
        simp [Map.holds,stored] at absent
      exact ⟨before,by simp only [Map.find_insert,other,if_false,stored],rfl⟩
    · intro audience found stored
      rcases Map.insert_cases stored with ⟨rfl,rfl⟩ | old
      · rfl
      · exact tidy.resources audience found old

def Declared (resource : ResourceServer) (h : History State) : Prop :=
  ∃ found,h.now.resources.resources[resource.audience]? = some found ∧ found.scopes = resource.scopes

theorem saveResource_acts (known : Declared resource h) (audience : changed.audience = resource.audience)
    (scopes : changed.scopes = resource.scopes) : Acts admits born h (exec (.resource (.save changed)) h.now).2 := by
  obtain ⟨found,stored,kept⟩ := known
  change Acts admits born h { h.now with resources := (ResourceStore.save changed h.now.resources).2 }
  unfold ResourceStore.save
  split
  · refine acts_resources (fun key before present => ?_) fun tidy => ⟨tidy.clients,?_,tidy.services⟩
    · by_cases here : changed.audience = key
      · rw [← here,audience,stored] at present
        cases present
        exact ⟨changed,by simp only [Map.find_insert,here,if_true],scopes.trans kept.symm⟩
      · exact ⟨before,by simp only [Map.find_insert,here,if_false,present],rfl⟩
    · intro key found stored
      rcases Map.insert_cases stored with ⟨rfl,rfl⟩ | old
      · rfl
      · exact tidy.resources key found old
  · exact .refl

theorem saveService_acts (service : ServiceIdentity) :
    Acts admits born h (exec (.resource (.saveService service)) h.now).2 := by
  refine acts_resources (fun audience before stored => ⟨before,stored,rfl⟩) fun tidy =>
    ⟨tidy.clients,tidy.resources,?_⟩
  intro key found stored
  rcases Map.insert_cases stored with ⟨rfl,rfl⟩ | old
  · rfl
  · exact tidy.services key found old

end OpenProof.OAuthActs
