import OpenProof.AdministrationRepository

namespace OpenProof.OrganizationOwners
open AtomicPrograms Foundation SqlTransactions Administration AdministrationTables AdministrationRepository Accounts
open Audit Identities Memberships Prog

inductive Request where
  | provision (enrollment : LocalMemberEnrollment)
  | replaceRoles (replacement : MemberRoleReplacement)
  | changeLifecycle (change : MemberLifecycleChange)
  | resetCredentials (reset : LocalCredentialReset)

def Request.calling (r : PostgresAdministrationRepository) (drawn : Drawn) (actor : IdentityId) : Request → Call Unit
  | .provision enrollment => r.provision drawn actor enrollment
  | .replaceRoles replacement => r.replaceRoles drawn actor replacement
  | .changeLifecycle change => r.changeLifecycle drawn actor change
  | .resetCredentials reset => r.resetCredentials drawn actor reset

-- One administrator at a time: the advisory lock keeps everybody else out until the end.
structure Turn where
  repository : PostgresAdministrationRepository
  drawn : Drawn
  actor : IdentityId
  request : Request
  verdicts : List (Verdict (Option Text) Nat)

abbrev Database := Server Tables (Option Text) Nat

def Turn.take (turn : Turn) (tables : Tables) : Result Unit × Database :=
  (turn.request.calling turn.repository turn.drawn turn.actor).run (Server.exec meaning) ⟨tables,none,turn.verdicts⟩

def takeAll : List Turn → Tables → Tables
  | [],tables => tables
  | turn :: rest,tables => takeAll rest (turn.take tables).2.tables

def Kept (t later : Tables) : Prop := ∀ organizationId,Owned t organizationId → Owned later organizationId

section
variable {α β : Type} {organizationId : OrganizationId}

theorem Kept.refl (t : Tables) : Kept t t := fun _ owned => owned

theorem Kept.trans (one : Kept t middle) (two : Kept middle later) : Kept t later :=
  fun organizationId owned => two organizationId (one organizationId owned)

theorem grows_kept (grows : Grows t later) : Kept t later := by
  rintro organizationId ⟨identityId,owner⟩
  exact ⟨identityId,grows organizationId identityId owner⟩

def Spares (t : Tables) (organizationId : OrganizationId) (identityId : IdentityId) (later : Tables) : Prop :=
  ∀ organization identity,ActiveOwner t organization identity → ¬(organization = organizationId ∧ identity = identityId) →
    ActiveOwner later organization identity

theorem spares_kept (spares : Spares t organizationId identityId later)
    (target : ActiveOwner t organizationId identityId →
      ActiveOwner later organizationId identityId ∨ 1 < (t.activeOwners organizationId).length) : Kept t later := by
  rintro organization ⟨identity,owner⟩
  by_cases same : organization = organizationId ∧ identity = identityId
  · obtain ⟨rfl,rfl⟩ := same
    rcases target owner with still | several
    · exact ⟨identity,still⟩
    · obtain ⟨other,apart,counted⟩ := other_owner several identity
      exact ⟨other,spares organization other counted fun same => apart same.2⟩
  · exact ⟨identity,spares organization identity owner same⟩

def Mild (p : Call α) : Prop := ∀ t : Tables,Within meaning p t fun _ left => Grows t left

theorem Mild.ret (a : α) : Mild (.ret a) := fun t => .ret (.refl t)

theorem Mild.bind (first : Mild p) (rest : ∀ a,Mild (f a)) : Mild (p.bind f) := by
  intro t
  apply Within.bind (first t)
  intro a left grown
  exact (rest a left).mono fun _ _ later => grown.trans later

theorem Mild.check (answer : Result α) : Mild (Prog.check answer) := by
  cases answer with
  | ok a => exact .ret a
  | error e => exact fun t => .fail

theorem Mild.refuseIf (condition : Bool) (e : Error) : Mild (Prog.refuseIf condition e) := by
  cases condition with
  | true => exact fun t => .fail
  | false => exact .ret ()

theorem Mild.quiet {asked : Statement} (quiet : Quiet asked) : Mild (sql asked operation) := by
  intro t
  apply Within.statement
  intro chosen answer left done
  exact (quiet_same quiet done).grows

theorem Mild.forEach {X : Type} {act : X → Call Unit} (each : ∀ x,Mild (act x)) (items : List X) :
    Mild (SqlTransactions.forEach act items) := by
  induction items with
  | nil => exact .ret ()
  | cons x rest ih => exact (each x).bind fun _ => ih

end

section
variable (r : PostgresAdministrationRepository) (organizationId : OrganizationId) (identityId : IdentityId)

theorem prepare_mild : Mild prepareAdministrationTransaction :=
  Mild.bind (.quiet trivial) fun _ => .quiet trivial

theorem authorize_mild : Mild (authorizeActiveOwner organizationId identityId operation) :=
  Mild.bind (.quiet trivial) fun _ => .refuseIf _ _

theorem lockLocalMember_mild : Mild (lockLocalMember organizationId identityId provider) :=
  Mild.bind (.quiet trivial) fun _ => .check _

theorem revoke_mild (now : Instant) : Mild (revokeMemberSessions identityId now) := .quiet trivial

theorem audit_mild (event : AuditEvent) (inserting setting : Text) : Mild (r.appendAuditRecord event inserting setting) := by
  apply Mild.bind (.quiet (by trivial))
  intro _
  apply Mild.bind (.quiet (by trivial))
  intro previousHash
  apply Mild.bind (.quiet (by trivial))
  intro sequence
  apply Mild.bind (.check _)
  intro recordHash
  exact .quiet trivial

theorem records_mild (event : AuditEvent) (securityType : Text) :
    Mild (r.appendAdministrationRecords event securityType) :=
  (audit_mild r event _ _).bind fun _ => .quiet trivial

theorem insertRoles_mild :
    Mild (PostgresAdministrationRepository.insertRoles organizationId identityId roles operation) := by
  apply Mild.forEach
  intro role t
  apply Within.statement
  intro chosen answer left done
  exact insertRole_grows done

theorem enroll_mild (enrollment : LocalMemberEnrollment) (passwordHash : PasswordHash) (encryptedTotp : Text)
    (event : AuditEvent) : Mild (r.enroll identityId enrollment passwordHash encryptedTotp event) := by
  have identity : Mild (sql (.insertIdentity enrollment.identity.id ⟨enrollment.organizationId,
      subjectKindCode enrollment.identity.kind,identityStatusCode enrollment.identity.status,
      enrollment.identity.createdAt⟩) "create managed identity") :=
    fun t => .statement fun chosen answer left done => insertIdentity_grows done
  have membership : Mild (sql (.insertMembership ⟨enrollment.organizationId,enrollment.identity.id⟩
      ⟨membershipStateCode enrollment.membership.state,enrollment.membership.invitedAt⟩) "create managed membership") :=
    fun t => .statement fun chosen answer left done => insertMembership_grows done
  apply prepare_mild.bind
  intro _
  apply (authorize_mild _ _).bind
  intro _
  apply identity.bind
  intro _
  apply Mild.bind (.quiet (by trivial))
  intro _
  apply membership.bind
  intro _
  apply (insertRoles_mild _ _).bind
  intro _
  apply Mild.bind (.quiet (by trivial))
  intro _
  apply Mild.bind (.quiet (by trivial))
  intro _
  apply (audit_mild r event _ _).bind
  intro _
  exact .quiet trivial

theorem reset_mild (reset : LocalCredentialReset) (passwordHash : PasswordHash) (encryptedTotp : Text)
    (event : AuditEvent) : Mild (r.reset identityId reset passwordHash encryptedTotp event) := by
  apply prepare_mild.bind
  intro _
  apply (authorize_mild _ _).bind
  intro _
  apply (lockLocalMember_mild _ _).bind
  intro member
  apply (Mild.refuseIf _ _).bind
  intro _
  apply Mild.bind (.quiet (by trivial))
  intro password
  apply Mild.bind (.quiet (by trivial))
  intro totp
  apply (Mild.refuseIf _ _).bind
  intro _
  apply Mild.bind (.quiet (by trivial))
  intro _
  apply (revoke_mild _ _).bind
  intro _
  exact records_mild r event _

end

section
variable {organizationId : OrganizationId}

theorem prepare_reads : Within meaning prepareAdministrationTransaction t fun _ left => left = t := by
  apply Within.bind (Within.reads fun _ => rfl)
  rintro _ _ ⟨_,rfl⟩
  exact (Within.reads fun _ => rfl).mono fun _ _ same => same.2

theorem authorize_reads (actor : IdentityId) (operation : Text) :
    Within meaning (authorizeActiveOwner organizationId actor operation) t fun _ left => left = t := by
  apply Within.bind (Within.reads fun _ => rfl)
  rintro rows left ⟨_,rfl⟩
  unfold Prog.refuseIf
  split
  · exact .fail
  · exact .ret rfl

def Locked (t : Tables) (organizationId : OrganizationId) (identityId : IdentityId) (member : LockedMember) : Prop :=
  ActiveOwner t organizationId identityId → member.state = .active ∧ member.owner = true

theorem readMember_locked (found : readMember (t.lockLocalMember organizationId identityId provider) = .ok member) :
    Locked t organizationId identityId member := by
  rintro ⟨⟨row,stored,active⟩,role,identity⟩
  have owner : t.holdsOwner organizationId identityId = true := List.contains_iff_mem.mpr role
  unfold Tables.lockLocalMember at found
  split at found
  · rw [stored,owner] at found
    dsimp only at found
    rw [active] at found
    cases found
    exact ⟨rfl,rfl⟩
  · cases found

theorem lockLocalMember_reads (provider : ProviderId) :
    Within meaning (lockLocalMember organizationId identityId provider) t fun member left =>
      left = t ∧ Locked t organizationId identityId member := by
  apply Within.bind (Within.reads fun _ => rfl)
  rintro rows left ⟨rfl,rfl⟩
  cases read : readMember (Tables.lockLocalMember left organizationId identityId provider) with
  | error e => exact .fail
  | ok member => exact .ret ⟨rfl,readMember_locked read⟩

theorem guardFinalOwner_reads : Within meaning (guardFinalOwner ends organizationId message) t fun _ left =>
      left = t ∧ (ends = true → 1 < (t.activeOwners organizationId).length) := by
  cases ends with
  | false => exact .ret ⟨rfl,nofun⟩
  | true =>
    apply Within.bind (Within.reads fun _ => rfl)
    rintro owners left ⟨rfl,rfl⟩
    unfold Prog.refuseIf
    split
    · exact .fail
    · rename_i several
      apply Within.ret
      exact ⟨rfl,fun _ => by simpa using several⟩

end

structure Granted (t later : Tables) : Prop where
  identities : later.identities = t.identities
  memberships : later.memberships = t.memberships
  kept : ∀ row ∈ t.membershipRoles,row ∈ later.membershipRoles

section
variable {organizationId : OrganizationId}

theorem insertRoles_granted (roles : List Role) (operation : Text) :
    Within meaning (PostgresAdministrationRepository.insertRoles organizationId identityId roles operation) t fun _ left =>
      Granted t left ∧ ∀ role ∈ roles,(⟨organizationId,identityId,role.value⟩ : RoleRow) ∈ left.membershipRoles := by
  let goes (rest : List Role) (left : Tables) : Prop := Granted t left ∧
    ∀ role ∈ roles,role ∈ rest ∨ (⟨organizationId,identityId,role.value⟩ : RoleRow) ∈ left.membershipRoles
  have each : ∀ role rest left,goes (role :: rest) left → Within meaning
      (sql (.insertRole ⟨organizationId,identityId,role.value⟩) operation) left fun _ later => goes rest later := by
    rintro role rest left ⟨granted,given⟩
    apply Within.statement
    intro chosen answer later done
    obtain ⟨identities,memberships,inserted⟩ := insertRole_spec done
    refine ⟨⟨identities.trans granted.identities,memberships.trans granted.memberships,?_⟩,?_⟩
    · intro row held
      rw [inserted]
      exact List.mem_cons_of_mem _ (granted.kept row held)
    · intro other among
      rw [inserted]
      rcases given other among with waiting | held
      · rcases List.mem_cons.mp waiting with rfl | waiting
        · exact .inr List.mem_cons_self
        · exact .inl waiting
      · exact .inr (List.mem_cons_of_mem _ held)
  have started : goes roles t := ⟨⟨rfl,rfl,fun _ held => held⟩,fun _ among => .inl among⟩
  apply (Within.forEach goes each started).mono
  rintro _ left ⟨granted,given⟩
  exact ⟨granted,fun role among => (given role among).resolve_left List.not_mem_nil⟩

theorem Granted.spares (granted : Granted (t.withoutRoles organizationId identityId) later) :
    Spares t organizationId identityId later := by
  intro organization identity owner apart
  apply owner.moved granted.identities granted.memberships
  exact granted.kept _ (withoutRoles_spares owner.role apart)

theorem replaced_kept (locked : Locked t organizationId identityId member)
    (guarded : (member.state = .active && member.owner && !PostgresAdministrationRepository.hasOwner roles) = true →
      1 < (t.activeOwners organizationId).length) (granted : Granted (t.withoutRoles organizationId identityId) later)
    (given : ∀ role ∈ roles,(⟨organizationId,identityId,role.value⟩ : RoleRow) ∈ later.membershipRoles) :
    Kept t later := by
  apply spares_kept granted.spares
  intro owner
  obtain ⟨active,held⟩ := locked owner
  cases again : PostgresAdministrationRepository.hasOwner roles with
  | true =>
    left
    obtain ⟨role,among,named⟩ := List.any_eq_true.mp again
    have row := given role among
    rw [beq_iff_eq.mp named] at row
    exact owner.moved granted.identities granted.memberships row
  | false =>
    right
    apply guarded
    simp [active,held,again]

theorem replace_kept (r : PostgresAdministrationRepository) (actor : IdentityId) (replacement : MemberRoleReplacement)
    (event : AuditEvent) : Within meaning (r.replace actor replacement event) t fun _ left => Kept t left := by
  apply Within.bind prepare_reads
  rintro _ _ rfl
  apply Within.bind (authorize_reads actor _)
  rintro _ _ rfl
  apply Within.bind (lockLocalMember_reads r.provider)
  rintro member _ ⟨rfl,locked⟩
  apply Within.refuseIf
  intro _
  apply Within.bind (guardFinalOwner_reads)
  rintro _ base ⟨rfl,guarded⟩
  have deleted : Within meaning (sql (.deleteRoles replacement.organizationId replacement.identityId)
      "replace managed member roles") base fun _ left =>
        left = base.withoutRoles replacement.organizationId replacement.identityId := by
    apply Within.statement
    intro chosen answer left done
    cases done
    rfl
  apply Within.bind deleted
  rintro _ _ rfl
  apply Within.bind (insertRoles_granted replacement.roles _)
  rintro _ given ⟨granted,each⟩
  have kept := replaced_kept locked guarded granted each
  have ending := (revoke_mild replacement.identityId replacement.occurredAt).bind fun _ =>
    records_mild r event "administration.local-member.roles-replaced"
  exact (ending given).mono fun _ left grown => kept.trans (grows_kept grown)

end

section
variable {organizationId : OrganizationId}

theorem updateState_spares_others
    (done : meaning (.updateMembershipState ⟨organizationId,identityId⟩ state) chosen t = .ok (answer,later)) :
    Spares t organizationId identityId later := by
  intro organization identity owner apart
  apply updateState_spares done owner
  intro same
  cases same
  exact apart ⟨rfl,rfl⟩

theorem dropRoles_spares (spares : Spares t organizationId identityId later) :
    Within meaning (PostgresAdministrationRepository.dropRoles removed organizationId identityId) later fun _ left =>
      Spares t organizationId identityId left := by
  cases removed with
  | false => exact .ret spares
  | true =>
    apply Within.statement
    intro chosen answer left done
    cases done
    intro organization identity owner apart
    have still := spares organization identity owner apart
    exact still.moved rfl rfl (withoutRoles_spares still.role apart)

theorem ends_owner (locked : Locked t organizationId identityId member)
    (allowed : PostgresAdministrationRepository.nextState action member.state = .ok next)
    (owner : ActiveOwner t organizationId identityId) :
    (member.state = .active && member.owner && action ≠ .reinstate) = true := by
  obtain ⟨active,held⟩ := locked owner
  rw [active] at allowed
  cases action with
  | suspend => simp [active,held]
  | reinstate => cases allowed
  | remove => simp [active,held]

theorem change_kept (r : PostgresAdministrationRepository) (actor : IdentityId) (change : MemberLifecycleChange)
    (event : AuditEvent) : Within meaning (r.change actor change event) t fun _ left => Kept t left := by
  apply Within.bind prepare_reads
  rintro _ _ rfl
  apply Within.bind (authorize_reads actor _)
  rintro _ _ rfl
  apply Within.bind (lockLocalMember_reads r.provider)
  rintro member _ ⟨rfl,locked⟩
  apply Within.check
  intro next allowed
  apply Within.bind (guardFinalOwner_reads)
  rintro _ base ⟨rfl,guarded⟩
  have updated : Within meaning (sql (.updateMembershipState ⟨change.organizationId,change.identityId⟩
      (membershipStateCode next)) "change managed member lifecycle") base fun _ left =>
        Spares base change.organizationId change.identityId left :=
    .statement fun chosen answer left done => updateState_spares_others done
  apply Within.bind updated
  intro _ moved spares
  apply Within.bind (dropRoles_spares spares)
  intro _ dropped spares
  have kept : Kept base dropped := spares_kept spares fun owner => .inr (guarded (ends_owner locked allowed owner))
  have ending := (revoke_mild change.identityId change.occurredAt).bind fun _ =>
    records_mild r event (Text.of "administration.local-member." ++ memberLifecycleActionName change.action)
  exact (ending dropped).mono fun _ left grown => kept.trans (grows_kept grown)

end

def Ends (tables : Tables) (ran : Result Unit × Database) : Prop := Settled tables (fun _ later => Kept tables later) ran

section
variable {tables : Tables}

theorem untouched_ends (e : Error) : Ends tables ((.fail e : Call Unit).run (Server.exec meaning) ⟨tables,none,verdicts⟩) :=
  ⟨rfl,.inl ⟨e,rfl,rfl⟩⟩

theorem checked_ends {α : Type} (answer : Result α) {f : α → Call Unit}
    (rest : ∀ a,Ends tables ((f a).run (Server.exec meaning) ⟨tables,none,verdicts⟩)) :
    Ends tables (((check answer).bind f).run (Server.exec meaning) ⟨tables,none,verdicts⟩) := by
  cases answer with
  | ok a => exact rest a
  | error e => exact untouched_ends e

theorem inTransaction_ends (within : Within meaning body tables fun _ left => Kept tables left) :
    Ends tables ((inTransaction body).run (Server.exec meaning) ⟨tables,none,verdicts⟩) := transact_settled rfl within

theorem mild_kept {body : Call Unit} (mild : Mild body) : Within meaning body tables fun _ left => Kept tables left :=
  (mild tables).mono fun _ _ => grows_kept

variable (r : PostgresAdministrationRepository) (drawn : Drawn) (actor : IdentityId)

theorem provision_ends (enrollment : LocalMemberEnrollment) :
    Ends tables ((r.provision drawn actor enrollment).run (Server.exec meaning) ⟨tables,none,verdicts⟩) := by
  unfold PostgresAdministrationRepository.provision
  split
  · exact untouched_ends _
  · apply checked_ends
    intro passwordHash
    apply checked_ends
    intro encryptedTotp
    apply checked_ends
    intro randomId
    apply checked_ends
    intro event
    apply checked_ends
    intro _
    exact inTransaction_ends (mild_kept (enroll_mild r actor enrollment passwordHash encryptedTotp event))

theorem replaceRoles_ends (replacement : MemberRoleReplacement) :
    Ends tables ((r.replaceRoles drawn actor replacement).run (Server.exec meaning) ⟨tables,none,verdicts⟩) := by
  unfold PostgresAdministrationRepository.replaceRoles
  split
  · exact untouched_ends _
  · apply checked_ends
    intro event
    apply checked_ends
    intro _
    exact inTransaction_ends (replace_kept r actor replacement event)

theorem changeLifecycle_ends (change : MemberLifecycleChange) :
    Ends tables ((r.changeLifecycle drawn actor change).run (Server.exec meaning) ⟨tables,none,verdicts⟩) := by
  unfold PostgresAdministrationRepository.changeLifecycle
  split
  · exact untouched_ends _
  · apply checked_ends
    intro event
    apply checked_ends
    intro _
    exact inTransaction_ends (change_kept r actor change event)

theorem resetCredentials_ends (reset : LocalCredentialReset) :
    Ends tables ((r.resetCredentials drawn actor reset).run (Server.exec meaning) ⟨tables,none,verdicts⟩) := by
  unfold PostgresAdministrationRepository.resetCredentials
  split
  · exact untouched_ends _
  · apply checked_ends
    intro passwordHash
    apply checked_ends
    intro encryptedTotp
    apply checked_ends
    intro event
    apply checked_ends
    intro _
    exact inTransaction_ends (mild_kept (reset_mild r actor reset passwordHash encryptedTotp event))

end

theorem take_ends (turn : Turn) (tables : Tables) : Ends tables (turn.take tables) := by
  unfold Turn.take
  cases turn.request with
  | provision enrollment => exact provision_ends _ _ _ enrollment
  | replaceRoles replacement => exact replaceRoles_ends _ _ _ replacement
  | changeLifecycle change => exact changeLifecycle_ends _ _ _ change
  | resetCredentials reset => exact resetCredentials_ends _ _ _ reset

theorem take_kept (turn : Turn) (tables : Tables) : Kept tables (turn.take tables).2.tables := by
  rcases (take_ends turn tables).2 with ⟨e,failed,same⟩ | ⟨_,done,kept⟩
  · rw [same]
    exact .refl tables
  · exact kept

theorem never_orphaned (turns : List Turn) (tables : Tables) : Kept tables (takeAll turns tables) := by
  induction turns generalizing tables with
  | nil => exact .refl tables
  | cons turn rest ih => exact (take_kept turn tables).trans (ih _)

theorem owners_kept (turn : Turn) (tables : Tables) : (turn.take tables).2.working = none ∧
    (∀ e,(turn.take tables).1 = .error e → (turn.take tables).2.tables = tables) ∧
      ((turn.take tables).1 = .ok () → ∀ organizationId,Owned tables organizationId →
        Owned (turn.take tables).2.tables organizationId) := by
  have ends := take_ends turn tables
  refine ⟨ends.1,?_,fun _ => take_kept turn tables⟩
  intro e failed
  rcases ends.2 with ⟨_,_,same⟩ | ⟨_,done,_⟩
  · exact same
  · rw [done] at failed
    cases failed

def demoRepository : PostgresAdministrationRepository := ⟨1,⟨"local"⟩,"key",fun _ _ => .ok 0⟩

def demoDrawn : Drawn := ⟨.ok (),.ok "r",fun _ => .ok ⟨"hashed"⟩,fun _ _ => .ok "encrypted"⟩

def demoRoles : List RoleRow := [⟨⟨"org"⟩,⟨"ann"⟩,"owner"⟩,⟨⟨"org"⟩,⟨"bob"⟩,"owner"⟩]

theorem demoRoles_distinct : demoRoles.Nodup := by decide

def demoGiven : List Role := [⟨"auditor"⟩]

theorem demoGiven_distinct : adjacentEqual demoGiven = false := rfl

def demoTables : Tables where
  organizations := (∅ : Map OrganizationId OrganizationRow).insert ⟨"org"⟩ ⟨"Org",0,0⟩
  identities := ((∅ : Map IdentityId IdentityRow).insert ⟨"ann"⟩ ⟨⟨"org"⟩,0,0,0⟩).insert ⟨"bob"⟩ ⟨⟨"org"⟩,0,0,0⟩
  externalIdentities := (∅ : Map ExternalIdentities.ExternalKey ExternalRow).insert ⟨⟨"local"⟩,⟨"s"⟩⟩ ⟨⟨"ann"⟩,0⟩
  memberships := ((∅ : Map MemberKey MembershipRow).insert ⟨⟨"org"⟩,⟨"ann"⟩⟩ ⟨1,0⟩).insert ⟨⟨"org"⟩,⟨"bob"⟩⟩ ⟨1,0⟩
  membershipRoles := demoRoles
  passwordCredentials := ∅
  totpCredentials := ∅
  recoveryCodes := []
  sessions := []
  auditEvents := ∅
  securityEventOutbox := []
  distinct := demoRoles_distinct

def demoTurn : Turn :=
  ⟨demoRepository,demoDrawn,⟨"ann"⟩,.replaceRoles ⟨⟨"org"⟩,⟨"ann"⟩,demoGiven,0,demoGiven_distinct⟩,[]⟩

theorem counted_owned {tables : Tables} {organizationId : OrganizationId}
    (counted : (tables.activeOwners organizationId).isEmpty = false) : Owned tables organizationId := by
  cases rows : tables.activeOwners organizationId with
  | nil =>
    rw [rows] at counted
    cases counted
  | cons row rest => exact ⟨row.identityId,counted_active (rows ▸ List.mem_cons_self)⟩

theorem owners_kept_demotion : (demoTurn.take demoTables).1 = .ok () ∧
    ¬(⟨⟨"org"⟩,⟨"ann"⟩,"owner"⟩ : RoleRow) ∈ (demoTurn.take demoTables).2.tables.membershipRoles ∧
      Owned (demoTurn.take demoTables).2.tables ⟨"org"⟩ := by
  have done : (demoTurn.take demoTables).1 = .ok () := by decide
  refine ⟨done,by decide,?_⟩
  exact (owners_kept demoTurn demoTables).2.2 done ⟨"org"⟩ (counted_owned (by decide))

end OpenProof.OrganizationOwners
