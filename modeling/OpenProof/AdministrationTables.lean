import OpenProof.Administration
import OpenProof.Audit
import OpenProof.Postgres
import OpenProof.SqlTransactions

namespace OpenProof.AdministrationTables
open Foundation Std SqlTransactions Accounts Audit ExternalIdentities Identities Memberships Postgres

def subjectKindCode : SubjectKind → Nat
  | .human => 0
  | .service => 1
  | .workload => 2
  | .organization => 3

def identityStatusCode : IdentityStatus → Nat
  | .active => 0
  | .suspended => 1
  | .locked => 2
  | .deactivated => 3
  | .deleted => 4
  | .merged => 5

def membershipStateCode : MembershipState → Nat
  | .invited => 0
  | .active => 1
  | .suspended => 2
  | .removed => 3

def membershipState : Nat → Option MembershipState
  | 0 => some .invited
  | 1 => some .active
  | 2 => some .suspended
  | 3 => some .removed
  | _ => none

structure OrganizationRow where
  name : Text
  state : Nat
  createdAt : Instant

structure IdentityRow where
  organizationId : OrganizationId
  kind : Nat
  status : Nat
  createdAt : Instant

structure ExternalRow where
  identityId : IdentityId
  linkedAt : Instant

structure MembershipRow where
  state : Nat
  invitedAt : Instant

structure RoleRow where
  organizationId : OrganizationId
  identityId : IdentityId
  role : Text
  deriving DecidableEq

structure PasswordRow where
  passwordHash : PasswordHash
  changedAt : Instant

structure TotpRow where
  encryptedSeed : Text
  keyVersion : Nat
  lastAcceptedStep : Option Nat
  enrolledAt : Instant

structure RecoveryRow where
  identityId : IdentityId
  codeDigest : Sha256Digest
  issuedAt : Instant

-- A session as far as an administrator ends it.
structure SessionRow where
  identityId : IdentityId
  state : Nat
  revokedAt : Option Instant

structure AuditRow where
  event : AuditEvent
  previousHash : Option Sha256Digest
  eventHash : Sha256Digest

structure OutboxRow where
  eventId : Text
  occurredAt : Instant
  payload : AuditFields

-- The tables an administrator's transactions read and write. Each map is keyed as its table is;
-- `distinct` is the key of the role table, all of whose columns are in it.
structure Tables where
  organizations : Map OrganizationId OrganizationRow
  identities : Map IdentityId IdentityRow
  externalIdentities : Map ExternalKey ExternalRow
  memberships : Map MemberKey MembershipRow
  membershipRoles : List RoleRow
  passwordCredentials : Map IdentityId PasswordRow
  totpCredentials : Map IdentityId TotpRow
  recoveryCodes : List RecoveryRow
  sessions : List SessionRow
  auditEvents : Map Nat AuditRow
  securityEventOutbox : List OutboxRow
  distinct : membershipRoles.Nodup

inductive Statement where
  | setSerializable
  | lockMutation
  | lockAuditChain
  | authorizeActiveOwner (organizationId : OrganizationId) (actor : IdentityId)
  | lockLocalMember (organizationId : OrganizationId) (identityId : IdentityId) (provider : ProviderId)
  | activeOwnerCount (organizationId : OrganizationId)
  | insertIdentity (id : IdentityId) (row : IdentityRow)
  | insertExternalIdentity (key : ExternalKey) (row : ExternalRow)
  | insertMembership (key : MemberKey) (row : MembershipRow)
  | insertRole (row : RoleRow)
  | deleteRoles (organizationId : OrganizationId) (identityId : IdentityId)
  | updateMembershipState (key : MemberKey) (state : Nat)
  | insertPassword (id : IdentityId) (row : PasswordRow)
  | updatePassword (id : IdentityId) (row : PasswordRow)
  | insertTotp (id : IdentityId) (row : TotpRow)
  | updateTotp (id : IdentityId) (encryptedSeed : Text) (keyVersion : Nat) (enrolledAt : Instant)
  | deleteRecoveryCodes (id : IdentityId)
  | revokeMemberSessions (id : IdentityId) (now : Instant)
  | auditChainHead
  | insertAuditEvent (event : AuditEvent) (previousHash : Option Sha256Digest)
  | setEventHash (sequence : Nat) (eventHash : Sha256Digest)
  | insertSecurityEvent (row : OutboxRow)

-- What is read of a result: a count of rows, or their fields.
abbrev Statement.Ret : Statement → Type
  | .authorizeActiveOwner .. => Nat
  | .lockLocalMember .. => List (Nat × Bool)
  | .activeOwnerCount _ => Nat
  | .updatePassword .. => Nat
  | .updateTotp .. => Nat
  | .auditChainHead => Option Sha256Digest
  | .insertAuditEvent .. => Nat
  | _ => Unit

namespace Tables
variable (t : Tables)

def organizationActive (organizationId : OrganizationId) : Bool :=
  t.organizations[organizationId]?.any fun row => row.state == 0

def localIdentity (organizationId : OrganizationId) (identityId : IdentityId) : Bool :=
  t.identities[identityId]?.any fun row => row.organizationId == organizationId && row.status == 0

def identityActive (identityId : IdentityId) : Bool := t.identities[identityId]?.any fun row => row.status == 0

def memberActive (key : MemberKey) : Bool := t.memberships[key]?.any fun row => row.state == 1

def holdsOwner (organizationId : OrganizationId) (identityId : IdentityId) : Bool :=
  t.membershipRoles.contains ⟨organizationId,identityId,"owner"⟩

def authorizeActiveOwner (organizationId : OrganizationId) (actor : IdentityId) : Nat :=
  if t.organizationActive organizationId && t.localIdentity organizationId actor
      && t.memberActive ⟨organizationId,actor⟩ && t.holdsOwner organizationId actor then 1 else 0

def lockLocalMember (organizationId : OrganizationId) (identityId : IdentityId) (provider : ProviderId) :
    List (Nat × Bool) :=
  if t.organizationActive organizationId && t.localIdentity organizationId identityId
      && t.externalIdentities.toList.any fun entry => entry.2.identityId == identityId && entry.1.provider == provider then
    match t.memberships[(⟨organizationId,identityId⟩ : MemberKey)]? with
    | none => []
    | some row => [(row.state,t.holdsOwner organizationId identityId)]
  else []

def activeOwners (organizationId : OrganizationId) : List RoleRow :=
  t.membershipRoles.filter fun row => row.organizationId == organizationId && row.role == Text.of "owner"
    && t.memberActive ⟨organizationId,row.identityId⟩ && t.identityActive row.identityId

variable {t}

theorem granted_distinct {row : RoleRow} (fresh : ¬row ∈ t.membershipRoles) : (row :: t.membershipRoles).Nodup :=
  List.nodup_cons.mpr ⟨fresh,t.distinct⟩

theorem remaining_distinct (keep : RoleRow → Bool) : (t.membershipRoles.filter keep).Nodup := t.distinct.filter keep

variable (t)

def withoutRoles (organizationId : OrganizationId) (identityId : IdentityId) : Tables :=
  let keep (row : RoleRow) : Bool := !(row.organizationId == organizationId && row.identityId == identityId)
  { t with membershipRoles := t.membershipRoles.filter keep,distinct := remaining_distinct keep }

def withRole (row : RoleRow) (fresh : ¬row ∈ t.membershipRoles) : Tables :=
  { t with membershipRoles := row :: t.membershipRoles,distinct := granted_distinct fresh }

def knownIdentity (id : IdentityId) : Bool := t.identities.holds id

-- The first row of `ORDER BY sequence DESC`.
def lastAudit : Option AuditRow := t.auditEvents.toList.getLast?.map Prod.snd

end Tables

-- What a statement does, on a snapshot that nobody else changes. `chosen` is the value an identity
-- column takes. The CHECKs on the length of a text are left to the server's verdict.
def meaning (statement : Statement) (chosen : Nat) (t : Tables) : Except (Option Text) (statement.Ret × Tables) :=
  match statement with
  | .setSerializable => .ok ((),t)
  | .lockMutation => .ok ((),t)
  | .lockAuditChain => .ok ((),t)
  | .authorizeActiveOwner organizationId actor => .ok (t.authorizeActiveOwner organizationId actor,t)
  | .lockLocalMember organizationId identityId provider => .ok (t.lockLocalMember organizationId identityId provider,t)
  | .activeOwnerCount organizationId => .ok ((t.activeOwners organizationId).length,t)
  | .insertIdentity id row =>
    if t.knownIdentity id then .error (some uniqueViolation)
    else if !t.organizations.holds row.organizationId then .error (some foreignKeyViolation)
    else .ok ((),{ t with identities := t.identities.insert id row })
  | .insertExternalIdentity key row =>
    if t.externalIdentities.holds key then .error (some uniqueViolation)
    else if !t.knownIdentity row.identityId then .error (some foreignKeyViolation)
    else .ok ((),{ t with externalIdentities := t.externalIdentities.insert key row })
  | .insertMembership key row =>
    if t.memberships.holds key then .error (some uniqueViolation)
    else if !t.identities[key.identity]?.any fun identity => identity.organizationId == key.organization then
      .error (some foreignKeyViolation)
    else if 3 < row.state then .error (some checkViolation)
    else .ok ((),{ t with memberships := t.memberships.insert key row })
  | .insertRole row =>
    if fresh : row ∈ t.membershipRoles then .error (some uniqueViolation)
    else if !t.memberships.holds ⟨row.organizationId,row.identityId⟩ then .error (some foreignKeyViolation)
    else .ok ((),t.withRole row fresh)
  | .deleteRoles organizationId identityId => .ok ((),t.withoutRoles organizationId identityId)
  | .updateMembershipState key state =>
    match t.memberships[key]? with
    | none => .ok ((),t)
    | some row =>
      if 3 < state then .error (some checkViolation)
      else .ok ((),{ t with memberships := t.memberships.insert key { row with state := state } })
  | .insertPassword id row =>
    if t.passwordCredentials.holds id then .error (some uniqueViolation)
    else if !t.knownIdentity id then .error (some foreignKeyViolation)
    else .ok ((),{ t with passwordCredentials := t.passwordCredentials.insert id row })
  | .updatePassword id row =>
    if t.passwordCredentials.holds id then .ok (1,{ t with passwordCredentials := t.passwordCredentials.insert id row })
    else .ok (0,t)
  | .insertTotp id row =>
    if t.totpCredentials.holds id then .error (some uniqueViolation)
    else if !t.knownIdentity id then .error (some foreignKeyViolation)
    else if row.keyVersion = 0 then .error (some checkViolation)
    else .ok ((),{ t with totpCredentials := t.totpCredentials.insert id row })
  | .updateTotp id encryptedSeed keyVersion enrolledAt =>
    if !t.totpCredentials.holds id then .ok (0,t)
    else if keyVersion = 0 then .error (some checkViolation)
    else .ok (1,{ t with totpCredentials := t.totpCredentials.insert id ⟨encryptedSeed,keyVersion,none,enrolledAt⟩ })
  | .deleteRecoveryCodes id =>
    .ok ((),{ t with recoveryCodes := t.recoveryCodes.filter fun row => row.identityId != id })
  | .revokeMemberSessions id now =>
    .ok ((),{ t with sessions := t.sessions.map fun row =>
      if row.identityId = id ∧ row.state = 0 then { row with state := 1,revokedAt := some now } else row })
  | .auditChainHead => .ok (t.lastAudit.map AuditRow.eventHash,t)
  | .insertAuditEvent event previousHash =>
    if t.auditEvents.holds chosen || t.auditEvents.elements.any fun row => row.event.id == event.id then
      .error (some uniqueViolation)
    else .ok (chosen,{ t with auditEvents := t.auditEvents.insert chosen ⟨event,previousHash,0⟩ })
  | .setEventHash sequence eventHash =>
    .ok ((),{ t with auditEvents := t.auditEvents.map fun key row =>
      if key = sequence then { row with eventHash := eventHash } else row })
  | .insertSecurityEvent row =>
    if t.securityEventOutbox.any fun other => other.eventId == row.eventId then .error (some uniqueViolation)
    else .ok ((),{ t with securityEventOutbox := t.securityEventOutbox ++ [row] })

structure ActiveOwner (t : Tables) (organizationId : OrganizationId) (identityId : IdentityId) : Prop where
  member : ∃ row : MembershipRow,t.memberships[(⟨organizationId,identityId⟩ : MemberKey)]? = some row ∧
    row.state = membershipStateCode .active
  role : (⟨organizationId,identityId,"owner"⟩ : RoleRow) ∈ t.membershipRoles
  identity : ∃ row : IdentityRow,t.identities[identityId]? = some row ∧ row.status = identityStatusCode .active

def Owned (t : Tables) (organizationId : OrganizationId) : Prop := ∃ identityId,ActiveOwner t organizationId identityId

section
variable {t later : Tables} {organizationId : OrganizationId} {identityId target : IdentityId} {row : RoleRow}

theorem ActiveOwner.moved (owner : ActiveOwner t organizationId identityId) (identities : later.identities = t.identities)
    (memberships : later.memberships = t.memberships)
    (role : (⟨organizationId,identityId,"owner"⟩ : RoleRow) ∈ later.membershipRoles) :
    ActiveOwner later organizationId identityId := by
  refine ⟨?_,role,?_⟩
  · rw [memberships]
    exact owner.member
  · rw [identities]
    exact owner.identity

theorem mem_activeOwners : row ∈ t.activeOwners organizationId ↔ row ∈ t.membershipRoles ∧
    row.organizationId = organizationId ∧ row.role = Text.of "owner" ∧
      t.memberActive ⟨organizationId,row.identityId⟩ = true ∧ t.identityActive row.identityId = true := by
  simp [Tables.activeOwners,and_assoc]

theorem counted_active (counted : row ∈ t.activeOwners organizationId) : ActiveOwner t organizationId row.identityId := by
  obtain ⟨held,rfl,owner,member,identity⟩ := mem_activeOwners.mp counted
  obtain ⟨stored,found,active⟩ := (Option.any_eq_true _ _).mp member
  obtain ⟨known,there,inUse⟩ := (Option.any_eq_true _ _).mp identity
  refine ⟨⟨stored,found,beq_iff_eq.mp active⟩,?_,known,there,beq_iff_eq.mp inUse⟩
  rw [← owner]
  exact held

theorem exists_other {X : Type} [DecidableEq X] {items : List X} (distinct : items.Nodup) (several : 1 < items.length)
    (one : X) : ∃ other ∈ items,other ≠ one := by
  by_contra none_
  have only : ∀ item ∈ items,item = one := fun item inside => by_contra fun apart => none_ ⟨item,inside,apart⟩
  have same := List.eq_replicate_of_mem only
  rw [same,List.nodup_replicate] at distinct
  omega

theorem other_owner (several : 1 < (t.activeOwners organizationId).length) (target : IdentityId) :
    ∃ other,other ≠ target ∧ ActiveOwner t organizationId other := by
  have distinct : (t.activeOwners organizationId).Nodup := t.distinct.filter _
  obtain ⟨row,counted,apart⟩ := exists_other distinct several ⟨organizationId,target,"owner"⟩
  refine ⟨row.identityId,?_,counted_active counted⟩
  rintro rfl
  obtain ⟨-,rfl,owner,-⟩ := mem_activeOwners.mp counted
  apply apart
  cases row
  cases owner
  rfl

end

structure SameAuthority (t later : Tables) : Prop where
  identities : later.identities = t.identities
  memberships : later.memberships = t.memberships
  membershipRoles : later.membershipRoles = t.membershipRoles

def Grows (t later : Tables) : Prop := ∀ organizationId identityId,ActiveOwner t organizationId identityId →
  ActiveOwner later organizationId identityId

def Quiet : Statement → Prop
  | .insertIdentity .. => False
  | .insertMembership .. => False
  | .insertRole _ => False
  | .deleteRoles .. => False
  | .updateMembershipState .. => False
  | _ => True

section
variable {t middle later : Tables} {statement : Statement} {chosen : Nat} {answer : statement.Ret}

theorem Grows.refl (t : Tables) : Grows t t := fun _ _ owner => owner

theorem Grows.trans (one : Grows t middle) (two : Grows middle later) : Grows t later :=
  fun organizationId identityId owner => two organizationId identityId (one organizationId identityId owner)

theorem SameAuthority.grows (same : SameAuthority t later) : Grows t later := by
  intro organizationId identityId owner
  apply owner.moved same.identities same.memberships
  rw [same.membershipRoles]
  exact owner.role

theorem quiet_same (quiet : Quiet statement) (done : meaning statement chosen t = .ok (answer,later)) :
    SameAuthority t later := by
  cases statement with
  | insertIdentity | insertMembership | insertRole | deleteRoles | updateMembershipState => cases quiet
  | _ =>
    dsimp only [meaning] at done
    repeat' split at done
    all_goals cases done
    all_goals exact ⟨rfl,rfl,rfl⟩

theorem insert_keeps {K V : Type} [Ord K] [TransOrd K] [LawfulEqOrd K] [DecidableEq K] {m : Map K V} {key : K} {value : V}
    (fresh : ¬m.holds key = true) {k : K} {v : V} (found : m[k]? = some v) : (m.insert key value)[k]? = some v := by
  rw [Map.find_insert,if_neg]
  · exact found
  · rintro rfl
    apply fresh
    rw [Map.holds,found,Option.isSome_some]

theorem insertIdentity_grows {id : IdentityId} {row : IdentityRow} {answer : Unit}
    (done : meaning (.insertIdentity id row) chosen t = .ok (answer,later)) : Grows t later := by
  dsimp only [meaning] at done
  split at done
  · cases done
  · rename_i fresh
    split at done
    · cases done
    · cases done
      rintro organizationId identityId ⟨member,role,known,found,active⟩
      exact ⟨member,role,known,insert_keeps fresh found,active⟩

theorem insertMembership_grows {key : MemberKey} {row : MembershipRow} {answer : Unit}
    (done : meaning (.insertMembership key row) chosen t = .ok (answer,later)) : Grows t later := by
  dsimp only [meaning] at done
  split at done
  · cases done
  · rename_i fresh
    split at done
    · cases done
    · split at done
      · cases done
      · cases done
        rintro organizationId identityId ⟨⟨stored,found,active⟩,role,identity⟩
        exact ⟨⟨stored,insert_keeps fresh found,active⟩,role,identity⟩

theorem insertRole_spec {row : RoleRow} {answer : Unit} (done : meaning (.insertRole row) chosen t = .ok (answer,later)) :
    later.identities = t.identities ∧ later.memberships = t.memberships ∧
      later.membershipRoles = row :: t.membershipRoles := by
  dsimp only [meaning] at done
  split at done
  · cases done
  · split at done
    · cases done
    · cases done
      exact ⟨rfl,rfl,rfl⟩

theorem insertRole_grows {row : RoleRow} {answer : Unit} (done : meaning (.insertRole row) chosen t = .ok (answer,later)) :
    Grows t later := by
  obtain ⟨identities,memberships,roles⟩ := insertRole_spec done
  intro organizationId identityId owner
  apply owner.moved identities memberships
  rw [roles]
  exact List.mem_cons_of_mem _ owner.role

theorem withoutRoles_spares {organizationId : OrganizationId} {identityId : IdentityId} {row : RoleRow}
    (there : row ∈ t.membershipRoles) (apart : ¬(row.organizationId = organizationId ∧ row.identityId = identityId)) :
    row ∈ (t.withoutRoles organizationId identityId).membershipRoles := by
  apply List.mem_filter.mpr
  refine ⟨there,?_⟩
  simp only [Bool.not_eq_true',Bool.and_eq_false_iff,beq_eq_false_iff_ne]
  exact not_and_or.mp apart

theorem updateState_cases {answer : Unit}
    (done : meaning (.updateMembershipState key state) chosen t = .ok (answer,later)) :
    later.identities = t.identities ∧ later.membershipRoles = t.membershipRoles ∧
      ∀ k : MemberKey,later.memberships[k]? = if k = key then
        t.memberships[k]?.map fun row => { row with state := state } else t.memberships[k]? := by
  dsimp only [meaning] at done
  split at done
  · rename_i absent
    cases done
    refine ⟨rfl,rfl,fun k => ?_⟩
    split
    · rename_i same
      rw [same,absent]
      rfl
    · rfl
  · rename_i row found
    split at done
    · cases done
    · cases done
      refine ⟨rfl,rfl,fun k => ?_⟩
      rw [Map.find_insert]
      by_cases same : key = k
      · subst same
        simp [found]
      · rw [if_neg same,if_neg (Ne.symm same)]

theorem updateState_spares {answer : Unit}
    (done : meaning (.updateMembershipState key state) chosen t = .ok (answer,later))
    {organizationId : OrganizationId} {identityId : IdentityId} (owner : ActiveOwner t organizationId identityId)
    (spared : (⟨organizationId,identityId⟩ : MemberKey) ≠ key) : ActiveOwner later organizationId identityId := by
  obtain ⟨identities,roles,memberships⟩ := updateState_cases done
  obtain ⟨member,role,identity⟩ := owner
  refine ⟨?_,?_,?_⟩
  · rwa [memberships,if_neg spared]
  · rwa [roles]
  · rwa [identities]

end

end OpenProof.AdministrationTables
