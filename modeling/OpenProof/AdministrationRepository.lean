import OpenProof.AdministrationTables

namespace OpenProof.AdministrationRepository
open AtomicPrograms Foundation SqlTransactions Administration AdministrationTables Accounts Audit Identities Postgres
open Prog

abbrev Call (α : Type) := Sql Statement.Ret (Option Text) Error α

structure PostgresAdministrationRepository where
  keyVersion : Nat
  provider : ProviderId
  auditKey : Text
  hmacSha256 : (key message : Text) → Result Sha256Digest

-- What a call gets from outside the tables: a connection, a random identifier, and what its
-- secrets are hashed and encrypted to.
structure Drawn where
  lease : Result Unit
  random : Result Text
  hashed : (password : Text) → Result PasswordHash
  encrypted : (plaintext associated : Text) → Result Text

structure LockedMember where
  state : MembershipState
  owner : Bool

def sql (asked : Statement) (operation : Text) : Call asked.Ret := statement asked fun state => databaseError state operation

def inTransaction (body : Call Unit) : Call Unit :=
  transact (fun state => databaseError state "BEGIN") (fun state => databaseError state "COMMIT") body

def prepareAdministrationTransaction : Call Unit := do
  sql .setSerializable "set administration isolation"
  sql .lockMutation "lock administration mutation"

def authorizeActiveOwner (organizationId : OrganizationId) (actor : IdentityId) (operation : Text) : Call Unit := do
  let rows ← sql (.authorizeActiveOwner organizationId actor) operation
  refuseIf (rows ≠ 1) (.because .permissionDenied "The operation is not permitted.")

def readMember : List (Nat × Bool) → Result LockedMember
  | [(code,owner)] =>
    match membershipState code with
    | some state => .ok ⟨state,owner⟩
    | none => fail .internal "PostgreSQL returned invalid membership state."
  | _ => fail .notFound "That local member was not found."

def lockLocalMember (organizationId : OrganizationId) (identityId : IdentityId) (provider : ProviderId) :
    Call LockedMember := do
  let rows ← sql (.lockLocalMember organizationId identityId provider) "lock managed local member"
  check (readMember rows)

def activeOwnerCount (organizationId : OrganizationId) : Call Nat :=
  sql (.activeOwnerCount organizationId) "count active owners"

def guardFinalOwner (ends : Bool) (organizationId : OrganizationId) (message : Text) : Call Unit :=
  if ends then do
    let owners ← activeOwnerCount organizationId
    refuseIf (owners ≤ 1) (.because .failedPrecondition message)
  else .ret ()

def revokeMemberSessions (identityId : IdentityId) (now : Instant) : Call Unit :=
  sql (.revokeMemberSessions identityId now) "revoke managed member sessions"

def administrationEvent (action : Text) (organizationId : OrganizationId) (target actor : IdentityId) (now : Instant)
    (fields : AuditFields) (random : Result Text) : Result AuditEvent := do
  let randomId ← random
  let eventId := Text.of "admin-" ++ randomId
  AuditEvent.create eventId now eventId (some organizationId) (some target) "administration" action "success"
    (fields.insertIfNew "actor_identity_id" actor.value)

namespace PostgresAdministrationRepository
variable (r : PostgresAdministrationRepository)

def appendAuditRecord (event : AuditEvent) (inserting setting : Text) : Call Unit := do
  sql .lockAuditChain "lock audit chain"
  let previousHash ← sql .auditChainHead "read audit chain head"
  let sequence ← sql (.insertAuditEvent event previousHash) inserting
  let recordHash ← check (computeAuditRecordHash r.hmacSha256 event sequence previousHash r.auditKey)
  sql (.setEventHash sequence recordHash) setting

def securityPayload (event : AuditEvent) (securityType actorIdentity severity : Text) : AuditFields :=
  ((((((∅ : AuditFields).insert "event_id" event.id).insert "type" securityType).insert "organization_id"
    (event.organization.elim [] StrongId.value)).insert "identity_id" (event.identity.elim [] StrongId.value)).insert
    "actor_identity_id" actorIdentity).insert "severity" severity

def appendSecurityRecord (event : AuditEvent) (securityType actorIdentity severity operation : Text) : Call Unit :=
  sql (.insertSecurityEvent ⟨event.id,event.occurredAt,securityPayload event securityType actorIdentity severity⟩)
    operation

def appendAdministrationRecords (event : AuditEvent) (securityType : Text) : Call Unit := do
  r.appendAuditRecord event "append administration audit event" "seal administration audit event"
  appendSecurityRecord event securityType (event.fields.getD "actor_identity_id" []) "critical" "append security event"

def roleList (roles : List Role) : Text := List.intercalate [ch ','] (roles.map StrongId.value)

def insertRoles (organizationId : OrganizationId) (identityId : IdentityId) (roles : List Role) (operation : Text) :
    Call Unit :=
  forEach (fun role => sql (.insertRole ⟨organizationId,identityId,role.value⟩) operation) roles

def enrolled (actor : IdentityId) (enrollment : LocalMemberEnrollment) : Bool :=
  !actor.empty && enrollment.identity.canAuthenticate && enrollment.identity.kind = .human
    && enrollment.link.state = .linked && enrollment.link.external.providerId = r.provider
    && enrollment.link.owner = enrollment.identity.id && enrollment.membership.organization = enrollment.organizationId
    && enrollment.membership.identity = enrollment.identity.id && enrollment.membership.state = .active

def enroll (actor : IdentityId) (enrollment : LocalMemberEnrollment) (passwordHash : PasswordHash) (encryptedTotp : Text)
    (event : AuditEvent) : Call Unit := do
  let organizationId := enrollment.organizationId
  let identity := enrollment.identity
  prepareAdministrationTransaction
  authorizeActiveOwner organizationId actor "authorize member provisioning"
  sql (.insertIdentity identity.id ⟨organizationId,subjectKindCode identity.kind,identityStatusCode identity.status,
    identity.createdAt⟩) "create managed identity"
  sql (.insertExternalIdentity enrollment.link.external.key ⟨identity.id,enrollment.link.requestedAt⟩)
    "create managed external identity"
  sql (.insertMembership ⟨organizationId,identity.id⟩ ⟨membershipStateCode enrollment.membership.state,
    enrollment.membership.invitedAt⟩) "create managed membership"
  insertRoles organizationId identity.id enrollment.membership.roles "create managed membership role"
  sql (.insertPassword identity.id ⟨passwordHash,identity.createdAt⟩) "create managed password"
  sql (.insertTotp identity.id ⟨encryptedTotp,r.keyVersion,none,identity.createdAt⟩) "create managed TOTP"
  r.appendAuditRecord event "append member audit event" "seal member audit event"
  appendSecurityRecord event "administration.local-member.created" actor.value "critical" "append member security event"

def provision (drawn : Drawn) (actor : IdentityId) (enrollment : LocalMemberEnrollment) : Call Unit :=
  if !r.enrolled actor enrollment then
    .fail (.because .failedPrecondition "The local-member enrollment ceremony is incomplete.")
  else do
    let identity := enrollment.identity
    let passwordHash ← check (drawn.hashed enrollment.generatedPassword)
    let encryptedTotp ← check (drawn.encrypted enrollment.generatedTotp.bytes
      (Text.of "openproof/totp/v1:" ++ identity.id.value))
    let randomId ← check drawn.random
    let eventId := Text.of "admin-member-" ++ randomId
    let event ← check (AuditEvent.create eventId identity.createdAt eventId (some enrollment.organizationId)
      (some identity.id) "administration" "local-member.create" "success"
      ((((∅ : AuditFields).insert "actor_identity_id" actor.value).insert "provider" r.provider.value).insert "roles"
        (roleList enrollment.membership.roles)))
    check drawn.lease
    inTransaction (r.enroll actor enrollment passwordHash encryptedTotp event)

def hasOwner (roles : List Role) : Bool := roles.any fun role => role.value == Text.of "owner"

def replace (actor : IdentityId) (replacement : MemberRoleReplacement) (event : AuditEvent) : Call Unit := do
  let organizationId := replacement.organizationId
  let identityId := replacement.identityId
  prepareAdministrationTransaction
  authorizeActiveOwner organizationId actor "authorize administration"
  let member ← lockLocalMember organizationId identityId r.provider
  refuseIf (member.state = .removed) (.because .failedPrecondition "A removed membership cannot receive roles.")
  guardFinalOwner (member.state = .active && member.owner && !hasOwner replacement.roles) organizationId
    "The final active owner cannot lose the owner role."
  sql (.deleteRoles organizationId identityId) "replace managed member roles"
  insertRoles organizationId identityId replacement.roles "insert replacement member role"
  revokeMemberSessions identityId replacement.occurredAt
  r.appendAdministrationRecords event "administration.local-member.roles-replaced"

def invalidActor : Error := .because .invalidArgument "The administrative actor is invalid."

def replaceRoles (drawn : Drawn) (actor : IdentityId) (replacement : MemberRoleReplacement) : Call Unit :=
  if actor.empty then .fail invalidActor
  else do
    let event ← check (administrationEvent "local-member.roles.replace" replacement.organizationId replacement.identityId
      actor replacement.occurredAt ((∅ : AuditFields).insert "roles" (roleList replacement.roles)) drawn.random)
    check drawn.lease
    inTransaction (r.replace actor replacement event)

def nextState (action : MemberLifecycleAction) (state : MembershipState) : Result MembershipState :=
  match action with
  | .suspend =>
    if state ≠ .active then fail .failedPrecondition "Only an active membership can be suspended." else .ok .suspended
  | .reinstate =>
    if state ≠ .suspended then fail .failedPrecondition "Only a suspended membership can be reinstated." else .ok .active
  | .remove =>
    if state = .removed then fail .failedPrecondition "This membership has already been removed." else .ok .removed

def dropRoles (removed : Bool) (organizationId : OrganizationId) (identityId : IdentityId) : Call Unit :=
  if removed then sql (.deleteRoles organizationId identityId) "drop removed member roles" else .ret ()

def change (actor : IdentityId) (change : MemberLifecycleChange) (event : AuditEvent) : Call Unit := do
  let organizationId := change.organizationId
  let identityId := change.identityId
  prepareAdministrationTransaction
  authorizeActiveOwner organizationId actor "authorize administration"
  let member ← lockLocalMember organizationId identityId r.provider
  let next ← check (nextState change.action member.state)
  guardFinalOwner (member.state = .active && member.owner && change.action ≠ .reinstate) organizationId
    "The final active owner cannot be suspended or removed."
  sql (.updateMembershipState ⟨organizationId,identityId⟩ (membershipStateCode next)) "change managed member lifecycle"
  dropRoles (next = .removed) organizationId identityId
  revokeMemberSessions identityId change.occurredAt
  r.appendAdministrationRecords event (Text.of "administration.local-member." ++ memberLifecycleActionName change.action)

def changeLifecycle (drawn : Drawn) (actor : IdentityId) (change : MemberLifecycleChange) : Call Unit :=
  if actor.empty then .fail invalidActor
  else do
    let event ← check (administrationEvent (Text.of "local-member." ++ memberLifecycleActionName change.action)
      change.organizationId change.identityId actor change.occurredAt ∅ drawn.random)
    check drawn.lease
    inTransaction (r.change actor change event)

def reset (actor : IdentityId) (reset : LocalCredentialReset) (passwordHash : PasswordHash) (encryptedTotp : Text)
    (event : AuditEvent) : Call Unit := do
  let identityId := reset.identityId
  prepareAdministrationTransaction
  authorizeActiveOwner reset.organizationId actor "authorize administration"
  let member ← lockLocalMember reset.organizationId identityId r.provider
  refuseIf (member.state ≠ .active)
    (.because .failedPrecondition "Credentials can be reset only for an active member.")
  let password ← sql (.updatePassword identityId ⟨passwordHash,reset.occurredAt⟩) "reset managed member password"
  let totp ← sql (.updateTotp identityId encryptedTotp r.keyVersion reset.occurredAt) "reset managed member TOTP"
  refuseIf (password ≠ 1 || totp ≠ 1)
    (.because .failedPrecondition "The local member does not have a complete credential set.")
  sql (.deleteRecoveryCodes identityId) "invalidate managed member recovery codes"
  revokeMemberSessions identityId reset.occurredAt
  r.appendAdministrationRecords event "administration.local-member.credentials-reset"

def resetCredentials (drawn : Drawn) (actor : IdentityId) (reset : LocalCredentialReset) : Call Unit :=
  if actor.empty then .fail invalidActor
  else do
    let passwordHash ← check (drawn.hashed reset.generatedPassword)
    let encryptedTotp ← check (drawn.encrypted reset.generatedTotp.bytes
      (Text.of "openproof/totp/v1:" ++ reset.identityId.value))
    let event ← check (administrationEvent "local-member.credentials.reset" reset.organizationId reset.identityId actor
      reset.occurredAt ((∅ : AuditFields).insert "provider" r.provider.value) drawn.random)
    check drawn.lease
    inTransaction (r.reset actor reset passwordHash encryptedTotp event)

end PostgresAdministrationRepository

end OpenProof.AdministrationRepository
