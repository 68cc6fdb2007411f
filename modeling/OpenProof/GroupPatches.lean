import OpenProof.ListedSets
import OpenProof.MemberPaths
import OpenProof.ScimPatches

namespace OpenProof.GroupPatches
open AtomicPrograms Foundation ListedSets ScimDirectory ScimWorld ScimService ScimHttp Prog Http Identities List
open MemberPaths ScimPatches ScimReplacements

def Asks (op path : Text) (value : Option Json) : Edit IdentityId → Prop
  | .add listed => adds op = true ∧ path = Text.of "members" ∧
      ∃ items,value = some (.array items) ∧ members [(Text.of "members",.array items)] = .ok listed
  | .remove member => removes op = true ∧ path = opening ++ member.value ++ closing
  | .replace listed => replaces op = true ∧ path = Text.of "members" ∧
      ∃ items,value = some (.array items) ∧ members [(Text.of "members",.array items)] = .ok listed

def Denotes (operation : Json) (edit : Edit IdentityId) : Prop :=
  ∃ fields op path,operation = .object fields ∧ requiredString fields "op" 16 = .ok op ∧
    optionalString fields "path" 256 = .ok (some path) ∧ Asks op path (JsonObject.find fields "value") edit

def Known (organization : OrganizationId) (w : ScimState) (member : IdentityId) : Prop :=
  ∃ record,restoredUser (w.users.find organization member) = .ok (some record)

section
variable (parse : Text → Option Json) (organization : OrganizationId) (request : HttpRequest) (id : GroupId)

def patching (w : ScimState) : Except HttpResponse HttpResponse × ScimState :=
  (patchGroup parse organization request id).run exec w

structure Editing (w : ScimState) (record : GroupRecord) (edits : List (Edit IdentityId)) : Prop where
  there : restoredGroup (w.groups.find organization id) = .ok (some record)
  distinct : (listGroupMembers organization id w).Nodup
  present : ∀ member ∈ listGroupMembers organization id w,Known organization w member
  posted : ∃ body operations,parseObject parse request = .ok body ∧ operationsOf body = .ok operations ∧
    List.Forall₂ Denotes operations edits
  matched : validateIfMatch request record.updatedAt = .ok ()
  brought : ∀ edit ∈ edits,∀ member ∈ edit.brings,Known organization w member

def memberSet (w : ScimState) : Set IdentityId := listed (listGroupMembers organization id w)

def SetPatched (w : ScimState) (edits : List (Edit IdentityId)) : Prop :=
  (answered (patching parse organization request id w).1).status = 200 ∧
    memberSet organization id (patching parse organization request id w).2 = setEdited edits (memberSet organization id w)

end

section
variable {edits : List (Edit IdentityId)}

theorem adds_only (adding : adds op = true) : replaces op = false := by
  simp only [adds,Bool.or_eq_true,beq_iff_eq] at adding
  rcases adding with rfl | rfl
  · decide
  · decide

theorem denoted (denotes : Denotes operation edit) :
    patchGroupOperation given operation = .ok { given with members := edit.onList given.members } := by
  obtain ⟨fields,op,path,rfl,isOp,isPath,asks⟩ := denotes
  simp only [patchGroupOperation,isOp,isPath]
  cases edit with
  | add listed =>
    obtain ⟨adding,rfl,items,valued,parsed⟩ := asks
    rw [valued]
    simp [patchGroupPath,adding,adds_only adding,parsed,Except.map,Edit.onList]
  | replace listed =>
    obtain ⟨replacing,rfl,items,valued,parsed⟩ := asks
    rw [valued]
    simp [patchGroupPath,replacing,parsed,Except.map,Edit.onList]
  | remove member =>
    obtain ⟨removing,rfl⟩ := asks
    exact patchGroupPath_between given removing

theorem denoted_all (given : GroupAttributes) (denote : List.Forall₂ Denotes operations edits) :
    operations.foldlM patchGroupOperation given = .ok { given with members := listEdited edits given.members } := by
  induction denote generalizing given with
  | nil => rfl
  | cons first rest ih =>
    rw [foldlM_cons,denoted first]
    exact ih _

end

section
variable {organization : OrganizationId} {id : GroupId} {w : ScimState} {record : GroupRecord} {members : List IdentityId}

theorem value_injective {Tag : Type} : Function.Injective (StrongId.value : StrongId Tag → Text) := by
  rintro ⟨one⟩ ⟨two⟩ same
  cases same
  rfl

theorem adjacentEqual_members : adjacentEqual (members.insertionSort fun a b => a.value ≤ b.value) = false ↔ members.Nodup := by
  let _ : PartialOrder IdentityId := PartialOrder.lift StrongId.value value_injective
  have sorted : (members.insertionSort fun a b => a.value ≤ b.value).Pairwise fun a b => a.value ≤ b.value :=
    pairwise_insertionSort _ members
  exact (adjacentEqual_sorted sorted).trans (perm_insertionSort _ members).nodup_iff

theorem eachMember_run (known : ∀ member ∈ members,Known organization w member) :
    (eachMember organization members).run exec w = (.ok (),w) := by
  induction members with
  | nil => rfl
  | cons member rest ih =>
    obtain ⟨⟨record,found⟩,others⟩ := forall_mem_cons.mp known
    rw [eachMember,bind_eq,run_bind,requireUser_run,found]
    exact ih others

section
variable (stored : restoredGroup (w.groups.find organization id) = .ok (some record))
include stored

theorem requireGroup_run : (requireGroup organization id).run exec w = (.ok record,w) := by
  unfold requireGroup
  simp only [ask,bind_eq,run_perform_bind,exec,stored]
  rfl

theorem group_run : (group organization id).run exec w = (.ok ⟨record,listGroupMembers organization id w⟩,w) := by
  have listed : (groupMembers organization id).run exec w = (.ok (listGroupMembers organization id w),w) := by
    unfold groupMembers
    simp only [ask,bind_eq,run_perform_bind,exec,← restoredGroup_same stored]
    rfl
  rw [group,bind_eq,run_bind,requireGroup_run stored]
  simp only [bind_eq,run_bind,listed]
  rfl

theorem rename_kept (now : Instant) : GroupRecord.rename record record.name record.externalId now =
      if now < record.createdAt then .error (.plain .invalidArgument) else .ok { record with updatedAt := now } := by
  rw [← restoredGroup_same stored] at stored
  unfold restoredGroup GroupRecord.create at stored
  dsimp only at stored
  split at stored
  · cases stored
  · rename_i valid
    simp only [Bool.or_eq_true,not_or,Bool.not_eq_true] at valid
    simp [GroupRecord.rename,Row.rename,valid]

end

theorem insertMembers_ok (distinct : (inserted ++ members).Nodup)
    (known : ∀ member ∈ members,Known organization w member) :
    insertMembers organization w.users inserted members = .ok (inserted ++ members) := by
  induction members generalizing inserted with
  | nil => simp [insertMembers]
  | cons member rest ih =>
    obtain ⟨⟨record,found⟩,others⟩ := forall_mem_cons.mp known
    have listed : w.users.find organization member = some record := (restoredUser_same found).symm
    have outside : inserted.contains member = false := by
      have apart := (nodup_append.mp distinct).2.2
      simp only [contains_eq_mem,decide_eq_false_iff_not]
      exact fun inside => apart member inside member mem_cons_self rfl
    have whole : inserted ++ member :: rest = inserted ++ [member] ++ rest := by simp
    rw [insertMembers,outside,listed,whole]
    exact ih (whole ▸ distinct) others

def regrouped (id : GroupId) (record : GroupRecord) (members : List IdentityId) (w : ScimState) : ScimState :=
  { w with
    clock := tail w.clock
    groups := (w.groups.save "save SCIM group" { record with updatedAt := w.clock 0 }).2
    groupMembers := w.groupMembers.insert id members }

theorem regrouped_found (members : List IdentityId) (stored : restoredGroup (w.groups.find organization id) = .ok (some record)) :
    (w.groups.save "save SCIM group" { record with updatedAt := w.clock 0 }).1 = .ok () ∧
      ((regrouped id record members w).groups.find organization id).isSome = true := by
  have found := (restoredGroup_same stored).symm
  obtain ⟨-,within,key⟩ := Table.find_some found
  have free : w.groups.clashes { record with externalId := nullIfEmpty record.externalId,updatedAt := w.clock 0 } = false :=
    Table.clashes_own found key within rfl
  have saved : w.groups.save "save SCIM group" { record with updatedAt := w.clock 0 } = (.ok (),w.groups.put
      { record with externalId := nullIfEmpty record.externalId,updatedAt := w.clock 0 } free) := by
    have sought : w.groups.find record.organization record.id = some record := by rw [within,key,found]
    simp only [Table.save,sought,free,dif_pos]
  constructor
  · rw [saved]
  · simp only [regrouped,saved,Table.find_put]
    simp [key,within]

theorem mem_regrouped (stored : restoredGroup (w.groups.find organization id) = .ok (some record)) :
    memberSet organization id (regrouped id record members w) = listed members := by
  obtain ⟨row,found⟩ := Option.isSome_iff_exists.mp (regrouped_found members stored).2
  ext member
  have here : (regrouped id record members w).groupMembers[id]? = some members := by simp [regrouped]
  simp [memberSet,listGroupMembers,found,here]

def repeated : Error := .because .invalidArgument "A SCIM group contains duplicate members."

theorem replaceGroup_run (stored : restoredGroup (w.groups.find organization id) = .ok (some record))
    (known : ∀ member ∈ members,Known organization w member) :
    (replaceGroup organization id record.name record.externalId members).run exec w = if members.Nodup then
        if w.clock 0 < record.createdAt then (.error (.plain .invalidArgument),{ w with clock := tail w.clock })
        else (.ok ⟨{ record with updatedAt := w.clock 0 },members⟩,regrouped id record members w)
      else (.error repeated,w) := by
  have found := (restoredGroup_same stored).symm
  have named : restoredGroup (w.groups.findByName organization record.name) = .ok (some record) := by
    rw [Table.findByName_find found,← stored,found]
  have own : (some record).any (fun other => other.id != id) = false := by simp [(Table.find_some found).2.2]
  rw [replaceGroup,bind_eq,run_bind,requireGroup_run stored]
  simp only [ask,bind_eq,run_perform_bind,exec,named,check_ok,ret_bind,own,refuseIf_false]
  rw [run_bind,validateMembers,bind_eq,run_bind]
  by_cases distinct : members.Nodup
  · rw [adjacentEqual_members.mpr distinct,refuseIf_false,run_ret,if_pos distinct]
    have renamed := rename_kept stored (w.clock 0)
    simp only [eachMember_run known]
    by_cases early : w.clock 0 < record.createdAt
    · rw [if_pos early] at renamed ⊢
      simp only [run_perform_bind,exec,renamed]
      rfl
    · rw [if_neg early] at renamed ⊢
      obtain ⟨saved,left⟩ := regrouped_found members stored
      obtain ⟨row,left⟩ := Option.isSome_iff_exists.mp left
      simp only [regrouped] at left
      have inserted : insertMembers organization w.users [] members = .ok members := insertMembers_ok (by simpa using distinct) known
      simp only [run_perform_bind,exec,renamed,check_ok,ret_bind,saved,replaceGroupMembers,left,inserted]
      rfl
  · have twice : adjacentEqual (members.insertionSort fun a b => a.value ≤ b.value) = true := by
      rw [← Bool.not_eq_false,adjacentEqual_members]
      exact distinct
    rw [twice,refuseIf_true,if_neg distinct]
    rfl

end

section
variable {parse : Text → Option Json} {organization : OrganizationId} {request : HttpRequest} {id : GroupId} {w : ScimState}
  {record : GroupRecord} {edits : List (Edit IdentityId)}

theorem need_ok {α β : Type} {a : α} {f : α → Handler β} : (need (.ok a)).bind f = f a := rfl

theorem patching_run (editing : Editing parse organization request id w record edits) : patching parse organization request id w =
    ((orError (replaceGroup organization id record.name record.externalId (listEdited edits (listGroupMembers organization id w)))).bind
      fun view => .ret (groupResponse view)).run exec w := by
  obtain ⟨body,operations,parsed,found,denote⟩ := editing.posted
  have folded := denoted_all (groupAttributesOf ⟨record,listGroupMembers organization id w⟩) denote
  unfold patching patchGroup
  rw [bind_eq,run_bind,orError,run_mapError,group_run editing.there]
  simp only [Except.mapError,bind_eq]
  rw [parsed,need_ok,found,need_ok,editing.matched,need_ok,folded,need_ok]
  rfl

theorem members_known (editing : Editing parse organization request id w record edits) :
    ∀ member ∈ listEdited edits (listGroupMembers organization id w),Known organization w member := by
  intro member inside
  rcases mem_listEdited inside with before | ⟨edit,among,brought⟩
  · exact editing.present member before
  · exact editing.brought edit among member brought

end

-- A PATCH edits the members as a set where nobody is added who is there, or twice, without being cleared later, and where
-- the clock has not gone back behind the group.
theorem setPatched_iff {parse : Text → Option Json} {organization : OrganizationId} {request : HttpRequest} {id : GroupId}
    {w : ScimState} {record : GroupRecord} {edits : List (Edit IdentityId)}
    (editing : Editing parse organization request id w record edits) :
    SetPatched parse organization request id w edits ↔
      (∀ member,Fresh member (memberSet organization id w) edits) ∧ record.createdAt ≤ w.clock 0 := by
  have ran := replaceGroup_run editing.there (members_known editing)
  have distinct := listEdited_nodup edits editing.distinct
  have left : memberSet organization id (regrouped id record (listEdited edits (listGroupMembers organization id w)) w) =
      setEdited edits (memberSet organization id w) := (mem_regrouped editing.there).trans (listEdited_listed _ _)
  unfold SetPatched
  rw [patching_run editing,Prog.run_bind,orError,Prog.run_mapError,ran]
  by_cases single : (listEdited edits (listGroupMembers organization id w)).Nodup
  · rw [if_pos single]
    by_cases early : w.clock 0 < record.createdAt
    · rw [if_pos early]
      exact iff_of_false (fun held => errorResponse_status _ held.1) (fun held => Int.not_le.mpr early held.2)
    · rw [if_neg early]
      exact iff_of_true ⟨rfl,left⟩ ⟨distinct.mp single,Int.not_lt.mp early⟩
  · rw [if_neg single]
    exact iff_of_false (fun held => errorResponse_status _ held.1) (fun held => single (distinct.mpr held.1))

section

def demoMember (name : Text) : Json := .object [(Text.of "value",.string name)]

def demoAdds (names : List Text) : Json :=
  .object [(Text.of "op",.string "add"),(Text.of "path",.string "members"),(Text.of "value",.array (names.map demoMember))]

def demoRemoves (name : Text) : Json :=
  .object [(Text.of "op",.string "remove"),(Text.of "path",.string (opening ++ name ++ closing))]

def demoParse (operations : List Json) (_ : Text) : Option Json :=
  some (.object [(Text.of "schemas",.array [.string kPatchSchema]),(Text.of "Operations",.array operations)])

def demoStaff : ScimState :=
  { ScimReplacements.demoListed with
    users := ((Table.empty.add "insert SCIM user" ⟨⟨"ann"⟩,⟨"org"⟩,"ann",none,0,0⟩).2.add "insert SCIM user"
      ⟨⟨"bob"⟩,⟨"org"⟩,"bob",none,0,0⟩).2
    groups := (Table.empty.add "insert SCIM group" ⟨⟨"staff"⟩,⟨"org"⟩,"Staff",none,0,0⟩).2
    groupMembers := (∅ : Map GroupId (List IdentityId)).insert ⟨"staff"⟩ [⟨"ann"⟩] }

def demoRecord : GroupRecord := ⟨⟨"staff"⟩,⟨"org"⟩,"Staff",none,0,0⟩

theorem demo_known (one : member ∈ [(⟨"ann"⟩ : IdentityId),⟨"bob"⟩]) : Known ⟨"org"⟩ demoStaff member := by
  have ann : restoredUser (demoStaff.users.find ⟨"org"⟩ ⟨"ann"⟩) = .ok (some ⟨⟨"ann"⟩,⟨"org"⟩,"ann",none,0,0⟩) := by decide
  have bob : restoredUser (demoStaff.users.find ⟨"org"⟩ ⟨"bob"⟩) = .ok (some ⟨⟨"bob"⟩,⟨"org"⟩,"bob",none,0,0⟩) := by decide
  simp only [mem_cons,not_mem_nil,or_false] at one
  rcases one with rfl | rfl
  · exact ⟨_,ann⟩
  · exact ⟨_,bob⟩

theorem demo_editing {operations : List Json} {edits : List (Edit IdentityId)} (denote : List.Forall₂ Denotes operations edits)
    (brought : ∀ edit ∈ edits,∀ member ∈ edit.brings,member ∈ [(⟨"ann"⟩ : IdentityId),⟨"bob"⟩]) :
    Editing (demoParse operations) ⟨"org"⟩ ScimPatches.demoRequest ⟨"staff"⟩ demoStaff demoRecord edits where
  there := by decide
  distinct := by decide
  present := by
    have alone : listGroupMembers ⟨"org"⟩ ⟨"staff"⟩ demoStaff = [⟨"ann"⟩] := by decide
    rw [alone]
    exact fun member inside => demo_known (mem_cons.mpr (.inl (mem_singleton.mp inside)))
  posted := ⟨_,operations,rfl,rfl,denote⟩
  matched := by decide
  brought := fun edit among member inside => demo_known (brought edit among member inside)

theorem demo_adds {members : List IdentityId}
    (parsed : ScimHttp.members [(Text.of "members",.array (names.map demoMember))] = .ok members) :
    Denotes (demoAdds names) (.add members) :=
  ⟨_,"add","members",rfl,rfl,rfl,rfl,rfl,_,rfl,parsed⟩

-- Ann once more: the set would be what it is, and the request is refused.
theorem member_readded : Editing (demoParse [demoAdds ["ann"]]) ⟨"org"⟩ ScimPatches.demoRequest ⟨"staff"⟩ demoStaff demoRecord
      [.add [⟨"ann"⟩]] ∧
    (answered (patching (demoParse [demoAdds ["ann"]]) ⟨"org"⟩ ScimPatches.demoRequest ⟨"staff"⟩ demoStaff).1).status = 400 ∧
      ¬SetPatched (demoParse [demoAdds ["ann"]]) ⟨"org"⟩ ScimPatches.demoRequest ⟨"staff"⟩ demoStaff [.add [⟨"ann"⟩]] := by
  have refused : (answered (patching (demoParse [demoAdds ["ann"]]) ⟨"org"⟩ ScimPatches.demoRequest ⟨"staff"⟩
      demoStaff).1).status = 400 := by decide
  refine ⟨demo_editing (.cons (demo_adds rfl) .nil) (by simp [Edit.brings]),refused,?_⟩
  rintro ⟨accepted,-⟩
  rw [refused] at accepted
  cases accepted

-- Ann taken out and put in again, and Bob.
theorem setPatched_exchanged : SetPatched (demoParse [demoRemoves "ann",demoAdds ["bob","ann"]]) ⟨"org"⟩
    ScimPatches.demoRequest ⟨"staff"⟩ demoStaff [.remove ⟨"ann"⟩,.add [⟨"bob"⟩,⟨"ann"⟩]] := by
  have alone : memberSet ⟨"org"⟩ ⟨"staff"⟩ demoStaff = listed [⟨"ann"⟩] := congrArg listed (by decide)
  have bob : (⟨"bob"⟩ : IdentityId) ≠ ⟨"ann"⟩ := by decide
  have removes : Denotes (demoRemoves "ann") (.remove ⟨"ann"⟩) := ⟨_,"remove",_,rfl,rfl,rfl,rfl,rfl⟩
  refine (setPatched_iff (demo_editing (.cons removes (.cons (demo_adds rfl) .nil))
    (by simp [Edit.brings]))).mpr ⟨fun member => ?_,Int.le_refl 0⟩
  rw [alone]
  refine fresh_cons.mpr ⟨fun _ => trivial,fresh_cons.mpr ⟨fun _ => ⟨?_,?_⟩,fresh_nil⟩⟩
  · exact List.nodup_iff_count_le_one.mp (by simp [bob]) member
  · simp [Edit.onSet]

end

end OpenProof.GroupPatches
