import OpenProof.CallHistories
import OpenProof.HandoffTexts
import OpenProof.ScimPatches

namespace OpenProof.ScimVersions
open List
open AtomicPrograms CallTraces CallLogs CallHistories Foundation ScimDirectory ScimWorld ScimService ScimHttp
open CallProtocols AtomicPrograms.Prog Http ScimPatches ScimReplacements Identities

abbrev ScimExchange := Exchange ScimOp ScimOp.Ret
abbrev ScimTrace := List ScimExchange
abbrev ScimEntry := Entry ScimOp ScimOp.Ret ScimState
abbrev HttpFloor := Floor ScimOp ScimOp.Ret HttpResponse HttpResponse ScimState

inductive Resource where
  | user (id : IdentityId)
  | group (id : GroupId)

inductive Update where
  | put (request : HttpRequest)
  | patch (request : HttpRequest)

def Update.request : Update → HttpRequest
  | .put request => request
  | .patch request => request

section
variable (parse : Text → Option Json) (organization : OrganizationId)

def calling : Resource → Update → Handler HttpResponse
  | .user id,.put request => putUser parse organization request id
  | .user id,.patch request => patchUser parse organization request id
  | .group id,.put request => putGroup parse organization request id
  | .group id,.patch request => patchGroup parse organization request id

def stamped : Resource → ScimState → Option Instant
  | .user id,w => (w.users.find organization id).map Row.updatedAt
  | .group id,w => (w.groups.find organization id).map Row.updatedAt

def Reads (resource : Resource) (exchange : ScimExchange) (updatedAt : Instant) : Prop :=
  match resource with
  | .user id => ∃ record : UserRecord,exchange = ⟨.findUser organization id,.ok (some record)⟩ ∧ record.updatedAt = updatedAt
  | .group id =>
    ∃ record : GroupRecord,exchange = ⟨.findGroup organization id,.ok (some record)⟩ ∧ record.updatedAt = updatedAt

def Saves (resource : Resource) (exchange : ScimExchange) (updatedAt : Instant) : Prop :=
  match resource with
  | .user id => ∃ record : UserRecord,exchange = ⟨.saveUser record,.ok ()⟩ ∧ record.organization = organization ∧
      record.id = id ∧ record.updatedAt = updatedAt
  | .group id => ∃ record : GroupRecord,exchange = ⟨.saveGroup record,.ok ()⟩ ∧ record.organization = organization ∧
      record.id = id ∧ record.updatedAt = updatedAt

def versionStage (resource : Resource) : Stage ScimOp ScimOp.Ret ScimState where
  exec := exec
  drift before after := stamped organization resource after = stamped organization resource before

def Serves (resource : Resource) (version : Text) (floor : HttpFloor) : Prop :=
  ∀ m ∈ floor.members,∃ update,m.begun = calling parse organization resource update ∧
    update.request.header "if-match" = some version

def Undisturbed (resource : Resource) (log : List ScimEntry) : Prop :=
  ∀ first (reads : ScimEntry) between (saves : ScimEntry) rest,log = first ++ reads :: (between ++ saves :: rest) → reads.caller = saves.caller →
    ∀ read written,Reads organization resource reads.exchange read → Saves organization resource saves.exchange written →
      ∀ other ∈ between,∀ updatedAt,¬Saves organization resource other.exchange updatedAt

def Ticking (resource : Resource) (log : List ScimEntry) : Prop :=
  ∀ first (reads : ScimEntry) (between : List ScimEntry) (saves : ScimEntry) rest,
    log = first ++ reads :: (between ++ saves :: rest) → reads.caller = saves.caller →
    reads.exchange.1 = .now → (∀ exchange ∈ own saves.caller between,exchange.1 ≠ .now) →
      ∀ written,Saves organization resource saves.exchange written →
        stamped organization resource reads.found ≠ some (reads.found.clock 0)

def Checked (resource : Resource) (version : Text) (past : ScimTrace) : Prop :=
  ∃ exchange ∈ past,∃ updatedAt,Reads organization resource exchange updatedAt ∧ versionTag updatedAt = version

def Prepared (resource : Resource) (version : Text) (past : ScimTrace) (updatedAt : Instant) : Prop :=
  ∃ first,∃ rest : ScimTrace,past = first ++ ⟨.now,updatedAt⟩ :: rest ∧ Checked organization resource version first ∧
    ∀ exchange ∈ rest,exchange.1 ≠ .now

def Asks (resource : Resource) (version : Text) (past : ScimTrace) : ScimOp → Prop
  | .addUser _ => False
  | .removeUser .. => False
  | .saveUser record => Prepared organization resource version past record.updatedAt
  | .saveGroup record => Prepared organization resource version past record.updatedAt
  | _ => True

def Updated (resource : Resource) (past : ScimTrace) : Prop :=
  match resource with
  | .user id => ∃ saved record : UserRecord,⟨.saveUser saved,.ok ()⟩ ∈ past ∧
      ⟨.findUser organization id,.ok (some record)⟩ ∈ past ∧ saved.id = record.id ∧ saved.organization = record.organization
  | .group id => ∃ saved record : GroupRecord,⟨.saveGroup saved,.ok ()⟩ ∈ past ∧
      ⟨.findGroup organization id,.ok (some record)⟩ ∈ past ∧ saved.id = record.id ∧ saved.organization = record.organization

end

def Quiet : ScimOp → Prop
  | .now => False
  | .addUser _ => False
  | .removeUser .. => False
  | .saveUser _ => False
  | .saveGroup _ => False
  | _ => True

def Loose (op : ScimOp) : Prop := op = .now ∨ Quiet op

def Refusing {α : Type} (good : ScimTrace → α → Prop) (past : ScimTrace) : Except HttpResponse α → Prop
  | .ok a => good past a
  | .error response => response.status ≠ 200

section
variable {organization : OrganizationId} {id : IdentityId} {group : GroupId}

theorem hydrate_quiet : (hydrate organization record).Only Quiet := by
  refine .bind (.perform trivial) fun answer => .bind (.check _ _) fun identity => ?_
  cases identity with
  | none => trivial
  | some identity => exact .bind (.perform trivial) fun answer => .bind (.check _ _) fun _ => trivial

theorem settle_quiet : (settle current active).Only Quiet := by
  unfold settle
  split <;> split
  · exact .bind (.check _ _) fun changed => .bind (.perform trivial) fun _ => .check _ _
  · trivial
  · exact .bind (.check _ _) fun changed => .bind (.perform trivial) fun _ => .check _ _
  · trivial

theorem setActive_quiet : (setActive organization id active).Only Quiet := by
  refine .bind (.perform trivial) fun answer => .bind (.check _ _) fun found => ?_
  cases found with
  | none => trivial
  | some current =>
    refine .bind (.refuseIf _ _ _) fun _ => .bind settle_quiet fun _ => ?_
    exact .bind (.perform trivial) fun _ => .check _ _

theorem requireUser_quiet : (requireUser organization id).Only Quiet := by
  refine .bind (.perform trivial) fun answer => .bind (.check _ _) fun found => ?_
  cases found <;> trivial

theorem profileOf_loose : (profileOf id).Only Loose := by
  refine .bind (.perform (.inr trivial)) fun answer => .bind (.check _ _) fun found => ?_
  cases found with
  | none => exact .bind (.perform (.inl rfl)) fun _ => .check _ _
  | some profile => trivial

theorem eachMember_quiet {members : List IdentityId} : (eachMember organization members).Only Quiet := by
  induction members with
  | nil => trivial
  | cons member rest ih => exact .bind requireUser_quiet fun _ => ih

theorem validateMembers_quiet {members : List IdentityId} : (validateMembers organization members).Only Quiet :=
  .bind (.refuseIf _ _ _) fun _ => eachMember_quiet

theorem groupMembers_quiet : (groupMembers organization group).Only Quiet := by
  refine .bind (.perform trivial) fun answer => .bind (.check _ _) fun there => .bind (.refuseIf _ _ _) fun _ => ?_
  exact .bind (.perform trivial) fun _ => .check _ _

end

section
variable {organization : OrganizationId} {resource : Resource} {version : Text} {Err α β : Type}

theorem Checked.more {more : ScimTrace} (checked : Checked organization resource version past) :
    Checked organization resource version (past ++ more) := by
  obtain ⟨exchange,inside,read⟩ := checked
  exact ⟨exchange,mem_append_left more inside,read⟩

theorem Prepared.more {more : ScimTrace} (prepared : Prepared organization resource version past updatedAt)
    (quiet : ∀ exchange ∈ more,Quiet exchange.1) : Prepared organization resource version (past ++ more) updatedAt := by
  obtain ⟨first,rest,rfl,checked,since⟩ := prepared
  refine ⟨first,rest ++ more,by simp,checked,?_⟩
  intro exchange inside now
  rcases mem_append.mp inside with before | after
  · exact since exchange before now
  · have silent := quiet exchange after
    rw [now] at silent
    exact silent

theorem Checked.prepared (checked : Checked organization resource version past) :
    Prepared organization resource version (past ++ [⟨.now,updatedAt⟩]) updatedAt :=
  ⟨past,[],rfl,checked,forall_mem_nil _⟩

theorem loose_follows {p : Prog ScimOp ScimOp.Ret Err α} (loose : p.Only Loose) :
    Follows (remembering (Asks organization resource version)) (fun later _ => ∃ more,later = past ++ more) past p := by
  refine (follows_trace loose ?_).mono ?_
  · intro past op allowed
    rcases allowed with rfl | quiet
    · trivial
    · cases op <;> first | exact quiet.elim | trivial
  · rintro later r ⟨more,rfl,-⟩
    exact ⟨more,rfl⟩

theorem quiet_follows {p : Prog ScimOp ScimOp.Ret Err α} (quiet : p.Only Quiet) :
    Follows (remembering (Asks organization resource version))
      (fun later _ => ∃ more,later = past ++ more ∧ ∀ exchange ∈ more,Quiet exchange.1) past p := by
  refine (follows_trace quiet ?_).mono ?_
  · intro past op silent
    cases op <;> first | exact silent.elim | trivial
  · rintro later r ⟨more,rfl,path⟩
    exact ⟨more,rfl,path.only quiet⟩

end

section
variable {organization : OrganizationId} {resource : Resource} {version : Text} {α β : Type}
  {good : ScimTrace → α → Prop}

-- What a call brings back, whatever else it has done.
abbrev Brings (organization : OrganizationId) (resource : Resource) (version : Text) (good : ScimTrace → α → Prop)
    (past : ScimTrace) (p : ScimCall α) : Prop :=
  Follows (remembering (Asks organization resource version)) (fun later r => ∀ a,r = .ok a → good later a) past p

theorem Brings.bind {after : ScimTrace → β → Prop} (first : Brings organization resource version good past p)
    (rest : ∀ later a,good later a → Brings organization resource version after later (f a)) :
    Brings organization resource version after past (p.bind f) := by
  refine Follows.bind first (fun later a holds => rest later a (holds a rfl)) ?_
  intro later e holds b impossible
  cases impossible

theorem Brings.check {after : ScimTrace → β → Prop} {f : α → ScimCall β}
    (rest : ∀ a,result = .ok a → Brings organization resource version after past (f a)) :
    Brings organization resource version after past ((check result).bind f) := by
  refine Follows.check rest ?_
  intro e failed b impossible
  cases impossible

theorem Brings.refuse {after : ScimTrace → β → Prop} (rest : Brings organization resource version after past (f ())) :
    Brings organization resource version after past ((Prog.refuseIf condition e).bind f) := by
  refine Follows.refuse (fun _ => rest) ?_
  intro b impossible
  cases impossible

theorem Brings.ret (holds : good past a) : Brings organization resource version good past (.ret a) := by
  intro b same
  cases same
  exact holds

theorem Brings.fail : Brings organization resource version good past (.fail e) := by
  intro b impossible
  cases impossible

theorem Brings.loose {p : ScimCall α} (only : p.Only Loose) :
    Brings organization resource version (fun later _ => ∃ more,later = past ++ more) past p :=
  (loose_follows only).mono fun _ _ since _ _ => since

theorem Brings.quiet {p : ScimCall α} (only : p.Only Quiet) :
    Brings organization resource version (fun later _ => ∃ more,later = past ++ more ∧ ∀ exchange ∈ more,Quiet exchange.1)
      past p := (quiet_follows only).mono fun _ _ since _ _ => since

theorem requireUser_brings : Brings organization resource version
    (fun later record => later = past ++ [⟨.findUser organization user_,.ok (some record)⟩]) past
    (requireUser organization user_) := by
  refine .ask trivial fun answer => Brings.check fun found told => ?_
  subst told
  cases found with
  | none => exact .fail
  | some record => exact .ret rfl

theorem requireGroup_brings : Brings organization resource version
    (fun later record => later = past ++ [⟨.findGroup organization group_,.ok (some record)⟩]) past
    (requireGroup organization group_) := by
  refine .ask trivial fun answer => Brings.check fun found told => ?_
  subst told
  cases found with
  | none => exact .fail
  | some record => exact .ret rfl

theorem user_brings : Brings organization (.user user_) version
    (fun later view => ∃ exchange ∈ later,Reads organization (.user user_) exchange view.record.updatedAt) past
    (user organization user_) := by
  refine requireUser_brings.bind ?_
  rintro later record rfl
  have read : ∃ exchange ∈ past ++ [⟨.findUser organization user_,.ok (some record)⟩],
      Reads organization (.user user_) exchange record.updatedAt := ⟨_,mem_concat_self,record,rfl,rfl⟩
  refine .ask trivial fun answer => Brings.check fun identity _ => ?_
  cases identity with
  | none => exact .fail
  | some identity =>
    refine .ask trivial fun answer => Brings.check fun profile _ => .ret ?_
    obtain ⟨exchange,inside,seen⟩ := read
    exact ⟨exchange,mem_append_left _ (mem_append_left _ inside),seen⟩

theorem group_brings : Brings organization (.group group_) version
    (fun later view => ∃ exchange ∈ later,Reads organization (.group group_) exchange view.record.updatedAt) past
    (group organization group_) := by
  refine requireGroup_brings.bind ?_
  rintro later record rfl
  refine (Brings.quiet groupMembers_quiet).bind ?_
  rintro later members ⟨more,rfl,-⟩
  refine .ret ⟨⟨.findGroup organization group_,.ok (some record)⟩,?_,record,rfl,rfl⟩
  simp

theorem replacing_brings {given : Attributes} (checked : Checked organization (.user user_) version past) :
    Brings organization (.user user_) version (fun later _ => Updated organization (.user user_) later) past
      (replacing organization user_ given) := by
  refine requireUser_brings.bind ?_
  rintro later existing rfl
  refine .ask trivial fun answer => Brings.check fun byName _ => .refuse ?_
  refine (Brings.loose profileOf_loose).bind ?_
  rintro later profile ⟨more,rfl⟩
  refine .ask trivial fun now => Brings.check fun updated _ => ?_
  refine (Brings.quiet setActive_quiet).bind ?_
  rintro later _ ⟨further,rfl,silent⟩
  refine .ask trivial fun saved => Brings.check fun _ _ => Brings.check fun record renamed => ?_
  obtain rfl := Row.rename_spec renamed
  refine .ask ?_ fun told => Brings.check fun _ done => ?_
  · change Prepared organization (.user user_) version _ now
    refine Prepared.more (Prepared.more (Checked.prepared checked.more.more.more) silent) ?_
    intro exchange inside
    cases mem_singleton.mp inside
    trivial
  · subst done
    refine (Brings.quiet hydrate_quiet).mono ?_
    intro later r holds view same
    obtain ⟨last,rfl,-⟩ := holds view same
    refine ⟨{ existing with name := given.userName,externalId := given.externalId,updatedAt := now },existing,?_,?_,rfl,rfl⟩
    · simp
    · simp

theorem regrouping_brings {given : GroupAttributes} (checked : Checked organization (.group group_) version past) :
    Brings organization (.group group_) version (fun later _ => Updated organization (.group group_) later) past
      (regrouping organization group_ given) := by
  refine requireGroup_brings.bind ?_
  rintro later existing rfl
  refine .ask trivial fun answer => Brings.check fun duplicate _ => .refuse ?_
  refine (Brings.quiet validateMembers_quiet).bind ?_
  rintro later _ ⟨more,rfl,-⟩
  refine .ask trivial fun now => Brings.check fun record renamed => ?_
  obtain rfl := Row.rename_spec renamed
  refine .ask ?_ fun told => Brings.check fun _ done => ?_
  · change Prepared organization (.group group_) version _ now
    exact Checked.prepared checked.more.more.more
  · subst done
    refine .ask trivial fun answer => Brings.check fun _ _ => .ret ?_
    refine ⟨{ existing with name := given.displayName,externalId := given.externalId,updatedAt := now },existing,?_,?_,rfl,rfl⟩
    · simp
    · simp

-- What a handler does, up to the answer.
abbrev Handles (organization : OrganizationId) (resource : Resource) (version : Text) (good : ScimTrace → α → Prop)
    (past : ScimTrace) (p : Handler α) : Prop :=
  Follows (remembering (Asks organization resource version)) (Refusing good) past p

theorem Handles.call {after : ScimTrace → β → Prop} (first : Brings organization resource version good past p)
    (rest : ∀ later a,good later a → Handles organization resource version after later (f a)) :
    Handles organization resource version after past ((orError p).bind f) := by
  have lifted : Follows (remembering (Asks organization resource version)) (Refusing good) past (orError p) := by
    apply Follows.mapError
    refine first.mono ?_
    intro later r holds
    cases r with
    | ok a => exact holds a rfl
    | error e => exact errorResponse_status e
  exact lifted.bind (fun later a holds => rest later a holds) fun _ _ refused => refused

theorem Handles.need {after : ScimTrace → β → Prop} {f : α → Handler β}
    (rest : ∀ a,result = .ok a → Handles organization resource version after past (f a)) :
    Handles organization resource version after past ((need result).bind f) := by
  cases result with
  | ok a => exact rest a rfl
  | error e => exact errorResponse_status e

theorem matched {request : HttpRequest} {updatedAt : Instant} (carried : request.header "if-match" = some version)
    (wild : version ≠ "*") (done : validateIfMatch request updatedAt = .ok ()) : versionTag updatedAt = version := by
  unfold validateIfMatch at done
  rw [carried] at done
  simp only [Bool.or_eq_true,beq_iff_eq] at done
  split at done
  · rename_i same
    exact (same.resolve_left wild).symm
  · cases done

end

section
variable {parse : Text → Option Json} {organization : OrganizationId} {resource : Resource} {version : Text}

theorem matchUser_handles (carried : request.header "if-match" = some version) (wild : version ≠ "*") :
    Handles organization (.user user_) version (fun later _ => Checked organization (.user user_) version later) []
      (matchUser organization request user_) := by
  unfold matchUser
  rw [carried,if_pos Option.isSome_some]
  refine Handles.call user_brings ?_
  rintro later view ⟨exchange,inside,read⟩
  cases done : validateIfMatch request view.record.updatedAt with
  | ok done_ => exact ⟨exchange,inside,_,read,matched carried wild done⟩
  | error e => exact errorResponse_status e

theorem matchGroup_handles (carried : request.header "if-match" = some version) (wild : version ≠ "*") :
    Handles organization (.group group_) version (fun later _ => Checked organization (.group group_) version later) []
      (matchGroup organization request group_) := by
  unfold matchGroup
  rw [carried,if_pos Option.isSome_some]
  refine Handles.call group_brings ?_
  rintro later view ⟨exchange,inside,read⟩
  cases done : validateIfMatch request view.record.updatedAt with
  | ok done_ => exact ⟨exchange,inside,_,read,matched carried wild done⟩
  | error e => exact errorResponse_status e

theorem putUser_handles (carried : request.header "if-match" = some version) (wild : version ≠ "*") :
    Handles organization (.user user_) version (fun later _ => Updated organization (.user user_) later) []
      (putUser parse organization request user_) := by
  refine Follows.bind (matchUser_handles carried wild) (fun later _ checked => ?_) fun _ _ refused => refused
  refine Handles.need fun body _ => Handles.need fun given _ => ?_
  exact Handles.call (replacing_brings checked) fun later view updated => updated

theorem putGroup_handles (carried : request.header "if-match" = some version) (wild : version ≠ "*") :
    Handles organization (.group group_) version (fun later _ => Updated organization (.group group_) later) []
      (putGroup parse organization request group_) := by
  refine Follows.bind (matchGroup_handles carried wild) (fun later _ checked => ?_) fun _ _ refused => refused
  refine Handles.need fun body _ => Handles.need fun given _ => ?_
  exact Handles.call (regrouping_brings checked) fun later view updated => updated

theorem patchUser_handles (carried : request.header "if-match" = some version) (wild : version ≠ "*") :
    Handles organization (.user user_) version (fun later _ => Updated organization (.user user_) later) []
      (patchUser parse organization request user_) := by
  refine Handles.call user_brings ?_
  rintro later view ⟨exchange,inside,read⟩
  refine Handles.need fun body _ => Handles.need fun operations _ => Handles.need fun _ done => ?_
  have checked : Checked organization (.user user_) version later :=
    ⟨exchange,inside,_,read,matched carried wild done⟩
  refine Handles.need fun given _ => ?_
  exact Handles.call (replacing_brings checked) fun later view updated => updated

theorem patchGroup_handles (carried : request.header "if-match" = some version) (wild : version ≠ "*") :
    Handles organization (.group group_) version (fun later _ => Updated organization (.group group_) later) []
      (patchGroup parse organization request group_) := by
  refine Handles.call group_brings ?_
  rintro later view ⟨exchange,inside,read⟩
  refine Handles.need fun body _ => Handles.need fun operations _ => Handles.need fun _ done => ?_
  have checked : Checked organization (.group group_) version later :=
    ⟨exchange,inside,_,read,matched carried wild done⟩
  refine Handles.need fun given _ => ?_
  exact Handles.call (regrouping_brings checked) fun later view updated => updated

theorem calling_handles (carried : update.request.header "if-match" = some version) (wild : version ≠ "*") : Handles organization resource version (fun later _ => Updated organization resource later) []
      (calling parse organization resource update) := by
  cases resource with
  | user id =>
    cases update with
    | put request => exact putUser_handles carried wild
    | patch request => exact patchUser_handles carried wild
  | group id =>
    cases update with
    | put request => exact putGroup_handles carried wild
    | patch request => exact patchGroup_handles carried wild

end

section
variable {K : Type} [Ord K] [Std.TransOrd K] [Std.LawfulEqOrd K] [DecidableEq K]

theorem save_stamps (operation : Text) (record : Row K) (table : Table K) (organization : OrganizationId) (id : K) :
    ((table.save operation record).2.find organization id).map Row.updatedAt = (table.find organization id).map Row.updatedAt ∧
        ¬((table.save operation record).1 = .ok () ∧ record.organization = organization ∧ record.id = id) ∨
      ((table.save operation record).1 = .ok () ∧ record.organization = organization ∧ record.id = id) ∧
        ((table.save operation record).2.find organization id).map Row.updatedAt = some record.updatedAt := by
  rcases Table.save_cases operation record table with ⟨e,failed⟩ | ⟨stored,free,found,saved⟩
  · rw [failed]
    exact .inl ⟨rfl,fun done => nomatch done.1⟩
  · rw [saved]
    obtain ⟨-,within,named⟩ := Table.find_some found
    rw [Table.find_put]
    by_cases here : stored.id = id
    · by_cases there : stored.organization = organization
      · exact .inr ⟨⟨rfl,within.symm.trans there,named.symm.trans here⟩,by rw [if_pos here,if_pos there]; rfl⟩
      · refine .inl ⟨?_,fun done => there (within.trans done.2.1)⟩
        rw [if_pos here,if_neg there]
        cases other : table.find organization id with
        | none => rfl
        | some row =>
          have one := (Table.find_some found).1
          obtain ⟨two,belongs,-⟩ := Table.find_some other
          rw [← named,here,two] at one
          cases one
          exact absurd belongs there
    · exact .inl ⟨by rw [if_neg here],fun done => here (named.trans done.2.2)⟩

end

section
variable {parse : Text → Option Json} {organization : OrganizationId} {resource : Resource} {version : Text}
  {initial w : ScimState} {floor : HttpFloor} {before after : List ScimEntry} {entry : ScimEntry}
  {updatedAt other : Instant} {exchange : ScimExchange}

theorem Saves.unique (one : Saves organization resource exchange updatedAt) (two : Saves organization resource exchange other) :
    updatedAt = other := by
  cases resource with
  | user id =>
    obtain ⟨record,rfl,-,-,rfl⟩ := one
    obtain ⟨record',same,-,-,rfl⟩ := two
    cases same
    rfl
  | group id =>
    obtain ⟨record,rfl,-,-,rfl⟩ := one
    obtain ⟨record',same,-,-,rfl⟩ := two
    cases same
    rfl

def Stamps (organization : OrganizationId) (resource : Resource) (exchange : ScimExchange) (before after : ScimState) : Prop :=
  (stamped organization resource after = stamped organization resource before ∧
      ∀ updatedAt,¬Saves organization resource exchange updatedAt) ∨
    ∃ updatedAt,Saves organization resource exchange updatedAt ∧ stamped organization resource after = some updatedAt

theorem stamp_cases (added : ∀ record,op ≠ .addUser record) (removed : ∀ other id,op ≠ .removeUser other id) :
    Stamps organization resource ⟨op,(exec op w).1⟩ w (exec op w).2 := by
  cases op with
  | addUser record => exact absurd rfl (added record)
  | removeUser other id => exact absurd rfl (removed other id)
  | saveUser record =>
    cases resource with
    | group id => exact .inl ⟨rfl,fun updatedAt ⟨_,impossible,_⟩ => nomatch impossible⟩
    | user id =>
      rcases save_stamps "save SCIM user" record w.users organization id with ⟨same,other⟩ | ⟨⟨done,mine⟩,dated⟩
      · refine .inl ⟨same,?_⟩
        rintro updatedAt ⟨record',told,within,named,-⟩
        obtain ⟨known,answer⟩ := executed_as told
        cases known
        exact other ⟨answer,within,named⟩
      · refine .inr ⟨record.updatedAt,⟨record,?_,mine.1,mine.2,rfl⟩,dated⟩
        exact congrArg (Sigma.mk (ScimOp.saveUser record)) done
  | saveGroup record =>
    cases resource with
    | user id => exact .inl ⟨rfl,fun updatedAt ⟨_,impossible,_⟩ => nomatch impossible⟩
    | group id =>
      rcases save_stamps "save SCIM group" record w.groups organization id with ⟨same,other⟩ | ⟨⟨done,mine⟩,dated⟩
      · refine .inl ⟨same,?_⟩
        rintro updatedAt ⟨record',told,within,named,-⟩
        obtain ⟨known,answer⟩ := executed_as told
        cases known
        exact other ⟨answer,within,named⟩
      · refine .inr ⟨record.updatedAt,⟨record,?_,mine.1,mine.2,rfl⟩,dated⟩
        exact congrArg (Sigma.mk (ScimOp.saveGroup record)) done
  | replaceGroupMembers other group members =>
    refine .inl ⟨?_,?_⟩
    · simp only [exec,ScimWorld.replaceGroupMembers]
      split
      · rfl
      · split <;> cases resource <;> rfl
    · cases resource <;> rintro updatedAt ⟨_,impossible,-⟩ <;> cases congrArg Sigma.fst impossible
  | _ =>
    refine .inl ⟨by cases resource <;> rfl,?_⟩
    cases resource <;> rintro updatedAt ⟨_,impossible,-⟩ <;> cases congrArg Sigma.fst impossible

theorem served (serves : Serves parse organization resource version floor) (wild : version ≠ "*") {i : Nat}
    (known : floor.members[i]? = some m) :
    Handles organization resource version (fun later _ => Updated organization resource later) [] m.begun := by
  obtain ⟨update,same,carried⟩ := serves m (mem_of_getElem? known)
  rw [same]
  exact calling_handles carried wild

section
variable (played : Plays (versionStage organization resource) initial floor)
include played

theorem asked (serves : Serves parse organization resource version floor) (wild : version ≠ "*")
    (split : floor.log = before ++ entry :: after) :
    Asks organization resource version (own entry.caller before) entry.exchange.1 := by
  have inside : entry ∈ floor.log := by simp [split]
  have known := getElem?_eq_getElem (played.accounted.entered entry inside)
  exact asked_then played split known (served serves wild known)

theorem entry_stamps (serves : Serves parse organization resource version floor) (wild : version ≠ "*")
    (inside : entry ∈ floor.log) :
    Stamps organization resource entry.exchange entry.found (exec entry.exchange.1 entry.found).2 := by
  obtain ⟨before,after,split⟩ := append_of_mem inside
  have allowed := asked played serves wild split
  have whole : entry.exchange = ⟨entry.exchange.1,(exec entry.exchange.1 entry.found).1⟩ :=
    congrArg (Sigma.mk entry.exchange.1) (played.answered entry inside)
  rw [whole]
  apply stamp_cases
  · intro record same
    rw [same] at allowed
    exact allowed
  · intro other id same
    rw [same] at allowed
    exact allowed

theorem read_stamped (inside : entry ∈ floor.log) (reads : Reads organization resource entry.exchange updatedAt) :
    stamped organization resource entry.found = some updatedAt := by
  have told := played.answered entry inside
  cases resource with
  | user id =>
    obtain ⟨record,same,rfl⟩ := reads
    rw [same] at told
    have stored := restoredUser_same told.symm
    exact congrArg (Option.map Row.updatedAt) stored.symm
  | group id =>
    obtain ⟨record,same,rfl⟩ := reads
    rw [same] at told
    have stored := restoredGroup_same told.symm
    exact congrArg (Option.map Row.updatedAt) stored.symm

end

theorem Saves.prepared (allowed : Asks organization resource version past entry.exchange.1)
    (saves : Saves organization resource entry.exchange updatedAt) :
    Prepared organization resource version past updatedAt := by
  cases resource with
  | user id =>
    obtain ⟨record,same,-,-,rfl⟩ := saves
    rw [same] at allowed
    exact allowed
  | group id =>
    obtain ⟨record,same,-,-,rfl⟩ := saves
    rw [same] at allowed
    exact allowed

theorem versionTag_injective (same : versionTag one = versionTag two) : one = two := by
  have cut := append_cancel_right same
  exact HandoffTexts.decimal_injective (append_cancel_left cut)

theorem still_dated (moved : (versionStage organization resource).drift w w')
    (held : stamped organization resource w = some old) : stamped organization resource w' = some old := by
  have same : stamped organization resource w' = stamped organization resource w := moved
  exact same.trans held

theorem save_versions (played : Plays (versionStage organization resource) initial floor)
    (serves : Serves parse organization resource version floor) (wild : version ≠ "*")
    (undisturbed : Undisturbed organization resource floor.log) (ticking : Ticking organization resource floor.log)
    (split : floor.log = before ++ entry :: after) (saves : Saves organization resource entry.exchange updatedAt) :
    ∃ old,stamped organization resource entry.found = some old ∧ versionTag old = version ∧ updatedAt ≠ old := by
  obtain ⟨first,rest,mine,⟨exchange,read,old,reads,tag⟩,since⟩ := saves.prepared (asked played serves wild split)
  obtain ⟨early,looks,late,rfl,own_,told,begun,later⟩ := own_split mine
  rw [← begun] at read
  obtain ⟨check,inside,caller,rfl⟩ := mem_own.mp read
  obtain ⟨front,between,rfl⟩ := append_of_mem inside
  have shape : floor.log = front ++ check :: ((between ++ looks :: late) ++ entry :: after) := by simp [split]
  have shape' : floor.log = front ++ check :: (between ++ looks :: (late ++ entry :: after)) := by simp [split]
  have found := read_stamped played (by simp [shape]) reads
  have quiet := undisturbed front check _ entry after shape caller old updatedAt reads saves
  have keeps : ∀ other ∈ between ++ looks :: late,Keeping (versionStage organization resource)
      (fun w => stamped organization resource w = some old) other := by
    intro other member held
    have member_ : other ∈ floor.log := by
      rw [shape]
      exact mem_append_right _ (mem_cons_of_mem _ (mem_append_left _ member))
    rcases entry_stamps played serves wild member_ with ⟨same,-⟩ | ⟨written,saved,-⟩
    · exact same.trans held
    · exact absurd saved (quiet other member written)
  have left : stamped organization resource (exec check.exchange.1 check.found).2 = some old := by
    have member : check ∈ floor.log := by simp [shape]
    rcases entry_stamps played serves wild member with ⟨same,-⟩ | ⟨written,saved,-⟩
    · exact same.trans found
    · cases resource with
      | user id =>
        obtain ⟨record,same,-⟩ := reads
        obtain ⟨record',same',-⟩ := saved
        cases congrArg Sigma.fst (same.symm.trans same')
      | group id =>
        obtain ⟨record,same,-⟩ := reads
        obtain ⟨record',same',-⟩ := saved
        cases congrArg Sigma.fst (same.symm.trans same')
  have here : stamped organization resource entry.found = some old :=
    kept_until played (fun _ _ => still_dated) shape left keeps
  refine ⟨old,here,tag,?_⟩
  rintro rfl
  have seen : stamped organization resource looks.found = some updatedAt :=
    kept_until played (fun _ _ => still_dated) shape' left fun other member => keeps other (mem_append_left _ member)
  have split' : floor.log = (front ++ check :: between) ++ looks :: (late ++ entry :: after) := by simp [split]
  have clocked : looks.found.clock 0 = updatedAt := by
    have answered_ := played.answered looks (by simp [split])
    rw [told] at answered_
    exact answered_.symm
  apply ticking _ looks late entry after split' own_ (congrArg Sigma.fst told) (by rw [later]; exact since) updatedAt saves
  rw [seen,clocked]

def Superseded (organization : OrganizationId) (resource : Resource) (version : Text) (w : ScimState) : Prop :=
  ∃ last,stamped organization resource w = some last ∧ versionTag last ≠ version

theorem superseded_kept (played : Plays (versionStage organization resource) initial floor)
    (serves : Serves parse organization resource version floor) (wild : version ≠ "*")
    (undisturbed : Undisturbed organization resource floor.log) (ticking : Ticking organization resource floor.log)
    (inside : entry ∈ floor.log) (held : Superseded organization resource version entry.found) :
    (∀ written,¬Saves organization resource entry.exchange written) ∧
      Superseded organization resource version (exec entry.exchange.1 entry.found).2 := by
  obtain ⟨before,after,split⟩ := append_of_mem inside
  obtain ⟨last,found,other⟩ := held
  have spared : ∀ written,¬Saves organization resource entry.exchange written := by
    intro written saves
    obtain ⟨old,here,tag,-⟩ := save_versions played serves wild undisturbed ticking split saves
    cases found.symm.trans here
    exact other tag
  refine ⟨spared,?_⟩
  rcases entry_stamps played serves wild inside with ⟨same,-⟩ | ⟨written,saved,-⟩
  · exact ⟨last,same.trans found,other⟩
  · exact absurd saved (spared written)

theorem still_superseded (moved : (versionStage organization resource).drift w w')
    (held : Superseded organization resource version w) : Superseded organization resource version w' := by
  obtain ⟨last,found,other⟩ := held
  have same : stamped organization resource w' = stamped organization resource w := moved
  exact ⟨last,same.trans found,other⟩

theorem save_last (played : Plays (versionStage organization resource) initial floor)
    (serves : Serves parse organization resource version floor) (wild : version ≠ "*")
    (undisturbed : Undisturbed organization resource floor.log) (ticking : Ticking organization resource floor.log)
    (split : floor.log = before ++ entry :: after) (saves : Saves organization resource entry.exchange updatedAt) :
    (∃ old new,stamped organization resource entry.found = some old ∧
        stamped organization resource (exec entry.exchange.1 entry.found).2 = some new ∧ versionTag old = version ∧
          versionTag new ≠ version) ∧
      (∀ later ∈ after,∀ written,¬Saves organization resource later.exchange written) ∧
        Superseded organization resource version floor.world := by
  have inside : entry ∈ floor.log := by simp [split]
  obtain ⟨old,here,tag,moved⟩ := save_versions played serves wild undisturbed ticking split saves
  have left : stamped organization resource (exec entry.exchange.1 entry.found).2 = some updatedAt := by
    rcases entry_stamps played serves wild inside with ⟨-,none⟩ | ⟨written,saved,dated⟩
    · exact absurd saves (none updatedAt)
    · rw [dated,saved.unique saves]
  have other : versionTag updatedAt ≠ version := fun same => moved (versionTag_injective (same.trans tag.symm))
  have begun : Superseded organization resource version (exec entry.exchange.1 entry.found).2 := ⟨updatedAt,left,other⟩
  have keeps : ∀ later ∈ after,Keeping (versionStage organization resource) (Superseded organization resource version) later :=
    fun later member held =>
      (superseded_kept played serves wild undisturbed ticking (by simp [split,member]) held).2
  refine ⟨⟨old,updatedAt,here,left,tag,other⟩,?_,?_⟩
  · intro later member
    obtain ⟨between,rest,rfl⟩ := append_of_mem member
    have held : Superseded organization resource version later.found :=
      kept_until played (fun _ _ => still_superseded) split begun fun other member =>
        keeps other (mem_append_left _ member)
    exact (superseded_kept played serves wild undisturbed ticking (by simp [split]) held).1
  · exact played.since (fun _ _ => still_superseded) before entry after split begun keeps

theorem accepted_saves (played : Plays (versionStage organization resource) initial floor)
    (serves : Serves parse organization resource version floor) (wild : version ≠ "*") {i : Nat}
    (ended_ : floor.members[i]? = some ⟨p,settled r⟩) (accepted : (answered r).status = 200) :
    ∃ entry ∈ floor.log,entry.caller = i ∧ ∃ written,Saves organization resource entry.exchange written := by
  have done := follows_went (served serves wild ended_) (played.accounted.went i _ ended_)
  have updated : Updated organization resource (own i floor.log) := by
    cases r with
    | ok response => exact done
    | error response => exact absurd accepted done
  cases resource with
  | user id =>
    obtain ⟨saved,record,wrote,found,named,within⟩ := updated
    obtain ⟨reads,inside,-,read⟩ := mem_own.mp found
    obtain ⟨entry,there,mine,told⟩ := mem_own.mp wrote
    have answer := played.answered reads inside
    rw [read] at answer
    obtain ⟨-,belongs,same⟩ := Table.find_some (restoredUser_same answer.symm).symm
    exact ⟨entry,there,mine,saved.updatedAt,saved,told,within.trans belongs,named.trans same,rfl⟩
  | group id =>
    obtain ⟨saved,record,wrote,found,named,within⟩ := updated
    obtain ⟨reads,inside,-,read⟩ := mem_own.mp found
    obtain ⟨entry,there,mine,told⟩ := mem_own.mp wrote
    have answer := played.answered reads inside
    rw [read] at answer
    obtain ⟨-,belongs,same⟩ := Table.find_some (restoredGroup_same answer.symm).symm
    exact ⟨entry,there,mine,saved.updatedAt,saved,told,within.trans belongs,named.trans same,rfl⟩

theorem versions_guarded (played : Plays (versionStage organization resource) initial floor)
    (serves : Serves parse organization resource version floor) (wild : version ≠ "*")
    (undisturbed : Undisturbed organization resource floor.log) (ticking : Ticking organization resource floor.log) :
    (∀ (i j : Nat) (p q : Handler HttpResponse) (r r' : Except HttpResponse HttpResponse),
      floor.members[i]? = some ⟨p,settled r⟩ → floor.members[j]? = some ⟨q,settled r'⟩ →
        (answered r).status = 200 → (answered r').status = 200 → i = j) ∧
    ∀ (i : Nat) (p : Handler HttpResponse) (r : Except HttpResponse HttpResponse),floor.members[i]? = some ⟨p,settled r⟩ → (answered r).status = 200 → ∃ before,∃ entry : Entry _ _ _,∃ after old new last,
      floor.log = before ++ entry :: after ∧ entry.caller = i ∧ stamped organization resource entry.found = some old ∧
        stamped organization resource (exec entry.exchange.1 entry.found).2 = some new ∧
          versionTag new ≠ versionTag old ∧ stamped organization resource floor.world = some last ∧
            versionTag last ≠ versionTag old := by
  constructor
  · intro i j p q r r' one two accepted accepted'
    obtain ⟨entry,inside,mine,written,saves⟩ := accepted_saves played serves wild one accepted
    obtain ⟨entry',inside',mine',written',saves'⟩ := accepted_saves played serves wild two accepted'
    obtain ⟨before,after,split⟩ := List.append_of_mem inside
    obtain ⟨before',after',split'⟩ := List.append_of_mem inside'
    rcases split_order (split.symm.trans split') with later | rfl | earlier
    · exact absurd saves' ((save_last played serves wild undisturbed ticking split saves).2.1 entry' later written')
    · exact mine.symm.trans mine'
    · exact absurd saves ((save_last played serves wild undisturbed ticking split' saves').2.1 entry earlier written)
  · intro i p r ended_ accepted
    obtain ⟨entry,inside,mine,written,saves⟩ := accepted_saves played serves wild ended_ accepted
    obtain ⟨before,after,split⟩ := List.append_of_mem inside
    obtain ⟨⟨old,new,found,left,tag,moved⟩,-,last,now,gone⟩ := save_last played serves wild undisturbed ticking split saves
    exact ⟨before,entry,after,old,new,last,split,mine,found,left,fun same => moved (same.trans tag),now,
      fun same => gone (same.trans tag)⟩

end

section

def demoParse (body : Text) : Option Json :=
  some (.object [(Text.of "userName",.string "ann"),(Text.of "displayName",.string body)])

def demoPut (body : Text) : HttpRequest where
  method := .put
  target := "/scim/v2/Users/opi_E"
  headers := ((∅ : Map Text Text).insert "content-type" "application/scim+json").insert "if-match" "W/\"0\""
  body := body
  remoteAddress := "10.0.0.1"
  correlation := "c"

def demoClocked : ScimState :=
  { ScimPatches.demoWith .active (ScimPatches.demoProfile none false) with clock := fun n => n+1 }

def demoUser : Resource := .user ⟨"opi_E"⟩
def demoCall (body : Text) : Handler HttpResponse := calling demoParse ⟨"org"⟩ demoUser (.put (demoPut body))

def savesDemo (entry : ScimEntry) : Bool :=
  match entry.exchange with
  | ⟨.saveUser _,.ok _⟩ => true
  | _ => false

def ticksDemo (entry : ScimEntry) : Bool :=
  match entry.exchange.1 with
  | .now => stamped ⟨"org"⟩ demoUser entry.found != some (entry.found.clock 0)
  | _ => true

theorem saves_demo {entry : ScimEntry} (saves : Saves ⟨"org"⟩ demoUser entry.exchange written) :
    savesDemo entry = true := by
  obtain ⟨record,same,-⟩ := saves
  unfold savesDemo
  rw [same]

theorem undisturbed_once
    (once : log.Pairwise fun earlier later => ¬(savesDemo earlier = true ∧ savesDemo later = true)) :
    Undisturbed ⟨"org"⟩ demoUser log := by
  rintro first reads between saves rest rfl - read written - wrote other inside updatedAt before
  have behind := (pairwise_append.mp once).2.1.of_cons
  exact (pairwise_append.mp behind).2.2 other inside saves mem_cons_self ⟨saves_demo before,saves_demo wrote⟩

theorem ticking_all (all : log.all ticksDemo = true) : Ticking ⟨"org"⟩ demoUser log := by
  rintro first reads between saves rest rfl - looks - written - same
  have ticks := all_eq_true.mp all reads (by simp)
  simp [ticksDemo,looks,same] at ticks

theorem demo_serves {bodies : List Text} {floor : HttpFloor}
    (taken : takeTurns exec turns (⟨demoClocked,[],[]⟩ : HttpFloor) = some floor)
    (entered : turns.filterMap Turn.entered = bodies.map demoCall) :
    Serves demoParse ⟨"org"⟩ demoUser "W/\"0\"" floor := by
  intro m inside
  have begun : m.begun ∈ turns.filterMap Turn.entered := by
    rw [← nil_append (turns.filterMap Turn.entered)]
    exact (takeTurns_begun taken) ▸ mem_map_of_mem inside
  rw [entered] at begun
  obtain ⟨body,-,same⟩ := mem_map.mp begun
  exact ⟨.put (demoPut body),same.symm,by simp [Update.request,demoPut,HttpRequest.header]⟩

def accepts (r : Except HttpResponse HttpResponse) : Bool := (answered r).status == 200

theorem versions_guarded_first : ∃ floor : HttpFloor,∃ p r,Plays (versionStage ⟨"org"⟩ demoUser) demoClocked floor ∧
    floor.members[0]? = some ⟨p,settled r⟩ ∧ (answered r).status = 200 ∧ (∀ (j : Nat) (q : Handler HttpResponse)
      (r' : Except HttpResponse HttpResponse),floor.members[j]? = some ⟨q,settled r'⟩ → (answered r').status = 200 → 0 = j) ∧
        ∃ last,stamped ⟨"org"⟩ demoUser floor.world = some last := by
  let turns : List (Turn ScimOp ScimOp.Ret HttpResponse HttpResponse ScimState) :=
    .enter (demoCall "Ann") :: .enter (demoCall "Bob") :: steps 0 13 ++ steps 1 3
  have done : (takeTurns exec turns (⟨demoClocked,[],[]⟩ : HttpFloor)).any (fun floor =>
      decide (floor.log.Pairwise fun earlier later => ¬(savesDemo earlier = true ∧ savesDemo later = true)) &&
        floor.log.all ticksDemo && (floor.members[0]?.bind fun m => ended m.rest).any accepts) = true := by
    decide
  obtain ⟨floor,taken,holds⟩ := (Option.any_eq_true _ _).mp done
  simp only [Bool.and_eq_true,decide_eq_true_eq] at holds
  obtain ⟨⟨once,ticks⟩,accepted⟩ := holds
  have played : Plays (versionStage ⟨"org"⟩ demoUser) demoClocked floor :=
    Plays.start.turns (by simp [turns,steps,Turn.Allowed]) taken
  have serves := demo_serves taken (rfl : _ = [Text.of "Ann",Text.of "Bob"].map demoCall)
  obtain ⟨r,member,good⟩ := takeTurns_ended taken rfl accepted
  have good : (answered r).status = 200 := by simpa [accepts] using good
  obtain ⟨single,fresh⟩ := versions_guarded played serves (by decide) (undisturbed_once once) (ticking_all ticks)
  obtain ⟨_,_,_,_,_,last,_,_,_,_,_,now,_⟩ := fresh 0 _ r member good
  exact ⟨floor,_,r,played,member,good,fun j q r' other also => single 0 j _ q r r' member other good also,last,now⟩

-- The second passes its check before the first has saved: both succeed, and one update is lost.
theorem versions_lost : ∃ floor : HttpFloor,∃ p q r r',Plays (versionStage ⟨"org"⟩ demoUser) demoClocked floor ∧
    Serves demoParse ⟨"org"⟩ demoUser "W/\"0\"" floor ∧ floor.members[0]? = some ⟨p,settled r⟩ ∧
      floor.members[1]? = some ⟨q,settled r'⟩ ∧ (answered r).status = 200 ∧ (answered r').status = 200 := by
  let turns : List (Turn ScimOp ScimOp.Ret HttpResponse HttpResponse ScimState) :=
    .enter (demoCall "Ann") :: .enter (demoCall "Bob") :: steps 0 3 ++ steps 1 13 ++ steps 0 10
  have done : (takeTurns exec turns (⟨demoClocked,[],[]⟩ : HttpFloor)).any (fun floor =>
      (floor.members[0]?.bind fun m => ended m.rest).any accepts &&
        (floor.members[1]?.bind fun m => ended m.rest).any accepts) = true := by
    decide
  obtain ⟨floor,taken,holds⟩ := (Option.any_eq_true _ _).mp done
  simp only [Bool.and_eq_true] at holds
  obtain ⟨r,member,good⟩ := takeTurns_ended taken rfl holds.1
  obtain ⟨r',member',good'⟩ := takeTurns_ended taken rfl holds.2
  have played : Plays (versionStage ⟨"org"⟩ demoUser) demoClocked floor :=
    Plays.start.turns (by simp [turns,steps,Turn.Allowed]) taken
  exact ⟨floor,_,_,r,r',played,demo_serves taken (rfl : _ = [Text.of "Ann",Text.of "Bob"].map demoCall),member,member',
    by simpa [accepts] using good,by simpa [accepts] using good'⟩

end

end OpenProof.ScimVersions
