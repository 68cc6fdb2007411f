import OpenProof.CallProtocols
import OpenProof.OAuthRuns

namespace OpenProof.ServiceProvisioning
open AtomicPrograms List
open CallProtocols Foundation World Services Identities Clients Resources

-- The identity a provisioning call has created, and what became of it.
inductive Held where
  | begun
  | made (id : IdentityId)
  | saved (id : IdentityId)
  | undone (id : IdentityId)
  | done

def Held.created : Held → Option IdentityId
  | .made id => some id
  | .saved id => some id
  | .undone id => some id
  | _ => none

def Held.afterAdd (id : IdentityId) : Result Unit → Held
  | .ok _ => .made id
  | .error _ => .done

def Held.afterSave (id : IdentityId) : Result Unit → Held
  | .ok _ => .saved id
  | .error _ => .made id

def protocol (d : Deployment) (clientId : ClientId) : Protocol Op Op.Ret Held where
  asks
    | .begun,op => op.reads = true ∨
        ∃ identity : Identity,op = .identity (.add d.organization identity) ∧ identity.status = .active
    | .made id,op => op = .now ∨ op = .identity (.changeStatus d.organization id .deleted) ∨
        ∃ service,op = .resource (.saveService service) ∧ service.client = clientId
    | _,_ => False
  after
    | .begun,.identity (.add _ identity),added => .afterAdd identity.id added
    | .made id,.resource (.saveService _),saved => .afterSave id saved
    | .made id,.identity (.changeStatus ..),_ => .undone id
    | held,_,_ => held

def ends : Held → Result ServiceIdentity → Prop
  | held,.ok _ => ∃ id,held = .saved id
  | held,.error _ => held = .begun ∨ held = .done ∨ ∃ id,held = .undone id

section
variable {d : Deployment} {clientId : ClientId}

theorem looks_checkAudiences (scopes audiences : List Text) :
    Looks (ServiceIdentityService.checkAudiences scopes audiences) := by
  induction audiences with
  | nil => trivial
  | cons audience rest ih => exact .bind (looks_ask rfl) fun _ => .bind (.refuseIf _ _ _) fun _ => ih

theorem begun_still (reading : op.reads = true) :
    (protocol d clientId).asks .begun op ∧ ∀ answer,(protocol d clientId).after .begun op answer = .begun := by
  refine ⟨.inl reading,fun answer => ?_⟩
  unfold protocol
  dsimp only
  split <;> first | cases reading | rfl

theorem begun_looks {p : Call α} {f : α → Call ServiceIdentity} (looks : Looks p)
    (rest : ∀ a,Follows (protocol d clientId) ends .begun (f a)) :
    Follows (protocol d clientId) ends .begun (p.bind f) :=
  .past looks (fun _ reading => begun_still reading) rest fun _ => .inl rfl

theorem provision_follows (audiences scopes : List Text) :
    Follows (protocol d clientId) ends .begun (ServiceIdentityService.provision d clientId audiences scopes) := by
  refine begun_looks (ClientManager.looks_requireActive clientId) fun registered => ?_
  refine .refuse (fun _ => ?_) (.inl rfl)
  refine begun_looks (looks_checkAudiences scopes audiences) fun _ => ?_
  refine begun_looks (looks_ask rfl) fun existing => .refuse (fun _ => ?_) (.inl rfl)
  refine begun_looks (looks_randomToken 24) fun random => begun_looks looks_now fun createdAt => ?_
  refine .check (fun identity created => ?_) fun _ _ => .inl rfl
  have active : identity.status = .active ∧ identity.id = ⟨Text.of "opsi_" ++ random⟩ := by
    unfold Identity.create at created
    split_ifs at created
    cases created
    exact ⟨rfl,rfl⟩
  refine ⟨.inr ⟨identity,rfl,active.1⟩,fun added => ?_⟩
  cases added with
  | error e => exact .inr (.inl rfl)
  | ok _ =>
    change Follows (protocol d clientId) ends (Held.made identity.id) _
    rw [active.2]
    refine ⟨.inl rfl,fun grantedAt => ?_⟩
    cases built : ServiceIdentity.create ⟨Text.of "opsi_" ++ random⟩ clientId audiences scopes grantedAt with
    | error e =>
      simp only [Prog.ret_bind,built]
      exact ⟨.inr (.inl rfl),fun _ => .inr (.inr ⟨_,rfl⟩)⟩
    | ok service =>
      simp only [Prog.ret_bind,built]
      refine ⟨.inr (.inr ⟨service,rfl,ServiceIdentity.create_client built⟩),fun saved => ?_⟩
      cases saved with
      | error e => exact ⟨.inr (.inl rfl),fun _ => .inr (.inr ⟨_,rfl⟩)⟩
      | ok _ => exact ⟨_,rfl⟩

end

def execOr (outage : State → Option Error) : (op : Op) → State → op.Ret × State
  | .resource (.saveService service),w =>
    match outage w with
    | some e => (.error e,w)
    | none => exec (.resource (.saveService service)) w
  | op,w => exec op w

def Onward (before after : IdentityStore) : Prop :=
  ∀ (id : IdentityId) (owned : Owned),before[id]? = some owned → ∃ now : Owned,after[id]? = some now ∧
    now.organization = owned.organization ∧
      (now.identity.status = owned.identity.status ∨ now.identity.status = .deleted)

def Unprovisioned (outage : State → Option Error) (clientId : ClientId) : Held → Op → History State → Prop
  | _,.resource (.saveService _),h => outage h.now = none → h.now.resources.services[clientId]? = none
  | _,_,_ => True

def setting (d : Deployment) (outage : State → Option Error) (clientId : ClientId)
    (permits : Held → Op → History State → Prop) : Setting Op Op.Ret Error ServiceIdentity State Held where
  exec := execOr outage
  protocol := protocol d clientId
  entry held p := held = .begun ∧
    ∃ audiences scopes,p = ServiceIdentityService.provision d clientId audiences scopes
  permits := permits
  drift before after := Onward before.identities after.identities ∧
    after.resources.services[clientId]? = before.resources.services[clientId]?

abbrev ServiceCrew := Crew Op Op.Ret Error ServiceIdentity State Held

section
variable {entries : IdentityStore} {organization : OrganizationId} {id : IdentityId}

theorem Onward.refl (entries : IdentityStore) : Onward entries entries :=
  fun _ owned stored => ⟨owned,stored,rfl,.inl rfl⟩

theorem add_onward (identity : Identity) : Onward entries (entries.add organization identity).2 := by
  unfold IdentityStore.add
  split_ifs with present
  · exact .refl entries
  · intro id owned stored
    refine ⟨owned,?_,rfl,.inl rfl⟩
    rw [Map.find_insert,if_neg]
    · exact stored
    · rintro rfl
      simp [Map.holds,stored] at present

theorem add_stores (added : (entries.add organization identity).1 = .ok ()) :
    (entries.add organization identity).2[identity.id]? = some ⟨organization,identity⟩ := by
  unfold IdentityStore.add at added ⊢
  split_ifs at added ⊢
  rw [Map.find_insert,if_pos rfl]

theorem changeStatus_onward : Onward entries (entries.changeStatus organization id .deleted).2 := by
  unfold IdentityStore.changeStatus
  split
  · exact .refl entries
  · rename_i owned stored
    split_ifs with foreign
    · exact .refl entries
    · split
      · exact .refl entries
      · rename_i changed done
        intro key before found
        by_cases same : id = key
        · subst same
          cases stored.symm.trans found
          refine ⟨{ owned with identity := changed },by rw [Map.find_insert,if_pos rfl],rfl,.inr ?_⟩
          unfold Identity.changeStatus at done
          split at done <;> cases done
          rfl
        · refine ⟨before,?_,rfl,.inl rfl⟩
          rw [Map.find_insert,if_neg same]
          exact found

theorem changeStatus_deletes (stored : entries[id]? = some owned) (own : owned.organization = organization)
    (live : owned.identity.status = .active ∨ owned.identity.status = .deleted) :
    ∃ now,(entries.changeStatus organization id .deleted).2[id]? = some now ∧ now.identity.status = .deleted := by
  unfold IdentityStore.changeStatus
  rcases live with active | deleted
  · simp [stored,own,Identity.changeStatus,active]
  · simp [stored,own,Identity.changeStatus,deleted]

end

structure Canonical (d : Deployment) (clientId : ClientId) (h : History State) (states : List Held) : Prop where
  one : ∀ (i j : Nat) (a b : IdentityId),states[i]? = some (.saved a) → states[j]? = some (.saved b) → i = j
  stored : ∀ a,Held.saved a ∈ states → h.now.resources.services[clientId]? ≠ none
  kept : ∀ v ∈ h.worlds,∀ service,v.resources.services[clientId]? = some service →
    ∃ current,h.now.resources.services[clientId]? = some current ∧ current.identity = service.identity
  live : ∀ id,Held.made id ∈ states → ∃ owned,h.now.identities[id]? = some owned ∧
    owned.organization = d.organization ∧ (owned.identity.status = .active ∨ owned.identity.status = .deleted)
  gone : ∀ id,Held.undone id ∈ states → ∃ owned,h.now.identities[id]? = some owned ∧
    owned.identity.status = .deleted

section
variable {d : Deployment} {clientId : ClientId} {w : State}

section
variable (canonical : Canonical d clientId h states)
include canonical

theorem Canonical.world (onward : Onward h.now.identities w.identities)
    (same : w.resources.services[clientId]? = h.now.resources.services[clientId]?) :
    Canonical d clientId (h.push w) states where
  one := canonical.one
  stored := by
    intro a member
    rw [History.push_now,same]
    exact canonical.stored a member
  kept := by
    intro v member service stored
    rw [History.push_now,same]
    rcases mem_cons.mp member with rfl | earlier
    · exact ⟨service,same ▸ stored,rfl⟩
    · exact canonical.kept v earlier service stored
  live := by
    intro id member
    obtain ⟨owned,stored,own,live⟩ := canonical.live id member
    obtain ⟨now,found,moved,status⟩ := onward id owned stored
    refine ⟨now,found,moved.trans own,?_⟩
    rcases status with status | status
    · rw [status]
      exact live
    · exact .inr status
  gone := by
    intro id member
    obtain ⟨owned,stored,deleted⟩ := canonical.gone id member
    obtain ⟨now,found,_,status⟩ := onward id owned stored
    refine ⟨now,found,?_⟩
    rcases status with status | status
    · exact status.trans deleted
    · exact status

theorem Canonical.hold (i : Nat) (unsaved : ∀ a,held ≠ .saved a)
    (live : ∀ id,held = .made id → ∃ owned,h.now.identities[id]? = some owned ∧ owned.organization = d.organization ∧ (owned.identity.status = .active ∨ owned.identity.status = .deleted))
    (gone : ∀ id,held = .undone id → ∃ owned,h.now.identities[id]? = some owned ∧ owned.identity.status = .deleted) : Canonical d clientId h (states.set i held) where
  one := by
    have old : ∀ (j : Nat) (a : IdentityId),(states.set i held)[j]? = some (.saved a) → states[j]? = some (.saved a) := by
      intro j a found
      rw [getElem?_set] at found
      split_ifs at found
      · cases found
        exact absurd rfl (unsaved a)
      · exact found
    intro j k a b one two
    exact canonical.one j k a b (old j a one) (old k b two)
  stored := by
    intro a member
    rcases mem_or_eq_of_mem_set member with old | new
    · exact canonical.stored a old
    · exact absurd new.symm (unsaved a)
  kept := canonical.kept
  live := by
    intro id member
    rcases mem_or_eq_of_mem_set member with old | new
    · exact canonical.live id old
    · exact live id new.symm
  gone := by
    intro id member
    rcases mem_or_eq_of_mem_set member with old | new
    · exact canonical.gone id old
    · exact gone id new.symm

theorem Canonical.save {id : IdentityId} (own : service.client = clientId)
    (free : h.now.resources.services[clientId]? = none) :
    Canonical d clientId (h.push (exec (.resource (.saveService service)) h.now).2) (states.set i (.saved id)) := by
  have none_saved : ∀ (j : Nat) (a : IdentityId),states[j]? ≠ some (.saved a) :=
    fun j a found => canonical.stored a (mem_of_getElem? found) free
  have now : (exec (.resource (.saveService service)) h.now).2.resources.services[clientId]? = some service := by
    simp [exec,ResourceOp.exec,Resources.ResourceStore.saveService,own]
  constructor
  · have only : ∀ (j : Nat) (a : IdentityId),(states.set i (.saved id))[j]? = some (.saved a) → j = i := by
      intro j a found
      rw [getElem?_set] at found
      split_ifs at found with same
      · exact same.symm
      · exact absurd found (none_saved j a)
    intro j k a b one two
    exact (only j a one).trans (only k b two).symm
  · intro a _ empty
    rw [History.push_now,now] at empty
    cases empty
  · intro v member service' stored
    rw [History.push_now,now]
    rcases mem_cons.mp member with rfl | earlier
    · cases now.symm.trans stored
      exact ⟨service,rfl,rfl⟩
    · obtain ⟨current,found,_⟩ := canonical.kept v earlier service' stored
      cases free.symm.trans found
  · intro id' member
    rcases mem_or_eq_of_mem_set member with old | new
    · exact canonical.live id' old
    · cases new
  · intro id' member
    rcases mem_or_eq_of_mem_set member with old | new
    · exact canonical.gone id' old
    · cases new

end

theorem execOr_reads (outage : State → Option Error) (reading : op.reads = true) (w : State) :
    execOr outage op w = exec op w := by
  unfold execOr
  split
  · cases reading
  · rfl

theorem Canonical.begun (canonical : Canonical d clientId h states) :
    Canonical d clientId h (states ++ [.begun]) where
  one := by
    have old : ∀ (j : Nat) (a : IdentityId),(states ++ [Held.begun])[j]? = some (.saved a) →
        states[j]? = some (.saved a) := by
      intro j a found
      rw [getElem?_append] at found
      split_ifs at found with inside
      · exact found
      · cases mem_singleton.mp (mem_of_getElem? found)
    intro i j a b one two
    exact canonical.one i j a b (old i a one) (old j b two)
  stored := fun a member => canonical.stored a (by simpa using member)
  kept := canonical.kept
  live := fun id member => canonical.live id (by simpa using member)
  gone := fun id member => canonical.gone id (by simpa using member)

theorem keeps_canonical (d : Deployment) (outage : State → Option Error) (clientId : ClientId) :
    Keeps (setting d outage clientId (Unprovisioned outage clientId)) ends (Canonical d clientId) where
  follows := by
    rintro held p ⟨rfl,audiences,scopes,rfl⟩
    exact provision_follows audiences scopes
  enters := by
    rintro h states held p canonical ⟨rfl,_⟩
    exact canonical.begun
  drifts h states w canonical moved := canonical.world moved.1 moved.2
  acts := by
    intro h states i held op canonical present asked permitted
    cases held with
    | begun =>
      rcases asked with reading | ⟨identity,rfl,active⟩
      · have still := (@begun_still d clientId _ reading).2
        have kept := exec_reads reading h.now
        simp only [setting,execOr_reads outage reading]
        rw [still]
        refine (canonical.world ?_ ?_).hold i nofun nofun nofun
        · rw [kept.identities]
          exact .refl _
        · rw [kept.resources]
      · have onward := canonical.world (w:=(exec (.identity (.add d.organization identity)) h.now).2)
          (add_onward identity) rfl
        cases added : (IdentityStore.add d.organization identity h.now.identities).1 with
        | error e =>
          have held : (protocol d clientId).after .begun (.identity (.add d.organization identity))
              (exec (.identity (.add d.organization identity)) h.now).1 = .done := congrArg (Held.afterAdd _) added
          exact held ▸ onward.hold i nofun nofun nofun
        | ok _ =>
          have held : (protocol d clientId).after .begun (.identity (.add d.organization identity))
              (exec (.identity (.add d.organization identity)) h.now).1 = .made identity.id :=
            congrArg (Held.afterAdd _) added
          refine held ▸ onward.hold i nofun (fun id made => ?_) nofun
          cases made
          exact ⟨_,add_stores added,rfl,.inl active⟩
    | made id =>
      obtain ⟨owned,stored,own,live⟩ := canonical.live id (mem_of_getElem? present)
      rcases asked with rfl | rfl | ⟨service,rfl,client⟩
      · refine (canonical.world (.refl _) rfl).hold i nofun (fun id made => ?_) nofun
        cases made
        exact ⟨owned,stored,own,live⟩
      · have onward := canonical.world
          (w:=(exec (.identity (.changeStatus d.organization id .deleted)) h.now).2) changeStatus_onward rfl
        refine onward.hold i nofun nofun fun id undone => ?_
        cases undone
        exact changeStatus_deletes stored own live
      · cases failing : outage h.now with
        | none =>
          simp only [setting,execOr,failing]
          exact canonical.save client (permitted failing)
        | some e =>
          simp only [setting,execOr,failing]
          refine (canonical.world (.refl _) rfl).hold i nofun (fun id made => ?_) nofun
          cases made
          exact ⟨owned,stored,own,live⟩
    | saved | undone | done => exact asked.elim

end

structure OneIdentity (clientId : ClientId) (crew : ServiceCrew) : Prop where
  one : ∀ (i j : Nat) (a b : ServiceIdentity),crew.members[i]?.map Member.rest = some (.ret a) →
    crew.members[j]?.map Member.rest = some (.ret b) → i = j
  kept : ∀ v ∈ crew.hist.worlds,∀ service,v.resources.services[clientId]? = some service →
    ∃ current,crew.hist.now.resources.services[clientId]? = some current ∧ current.identity = service.identity
  compensated : ∀ m ∈ crew.members,∀ e id,m.rest = .fail e → m.held.created = some id →
    ∃ owned,crew.hist.now.identities[id]? = some owned ∧ owned.identity.status = .deleted

def ProvisionsOnce (d : Deployment) (outage : State → Option Error) (clientId : ClientId)
    (permits : Held → Op → History State → Prop) (w : State) : Prop :=
  ∀ crew,Runs (setting d outage clientId permits) (.start w) crew → OneIdentity clientId crew

theorem provisions_once_when_unprovisioned (d : Deployment) (outage : State → Option Error)
    (clientId : ClientId) (w : State) : ProvisionsOnce d outage clientId (Unprovisioned outage clientId) w := by
  intro crew path
  have begins : Canonical d clientId ⟨w,[]⟩ [] := by
    refine ⟨nofun,nofun,?_,nofun,nofun⟩
    intro v member service stored
    cases List.mem_singleton.mp member
    exact ⟨service,stored,rfl⟩
  have sound := (keeps_canonical d outage clientId).start begins path
  constructor
  · have saved : ∀ (i : Nat) (a : ServiceIdentity),crew.members[i]?.map Member.rest = some (.ret a) →
        ∃ id,crew.held[i]? = some (.saved id) := by
      intro i a returned
      obtain ⟨m,present,rest⟩ := Option.map_eq_some_iff.mp returned
      have follows := sound.follow m (List.mem_of_getElem? present)
      rw [rest] at follows
      obtain ⟨id,held⟩ := follows
      exact ⟨id,by rw [Crew.held,List.getElem?_map,present,Option.map_some,held]⟩
    intro i j a b one two
    obtain ⟨_,first⟩ := saved i a one
    obtain ⟨_,second⟩ := saved j b two
    exact sound.holds.one i j _ _ first second
  · exact sound.holds.kept
  · intro m member e id failed created
    have follows := sound.follow m member
    rw [failed] at follows
    rcases follows with held | held | ⟨other,held⟩
    · rw [held] at created
      cases created
    · rw [held] at created
      cases created
    · rw [held] at created
      cases created
      exact sound.holds.gone id (List.mem_map.mpr ⟨m,member,held⟩)

def demoMachine : State :=
  { OAuthRuns.demoProcess ["a","b"] with
    clients := (Clients.ClientStore.add { TokenActs.demoClient with
      id := ⟨"robot"⟩
      kind := .service
      redirectUris := []
      secretDigest := some 1 } ∅).2 }

abbrev demoSetting (permits : Held → Op → History State → Prop) :=
  setting TokenActs.demoDeployment (fun _ => none) ⟨"robot"⟩ permits

def demoProvision (permits : Held → Op → History State → Prop) : Move (demoSetting permits) :=
  .enter .begun (ServiceIdentityService.provision TokenActs.demoDeployment ⟨"robot"⟩
    [Text.of "https://api.example"] [Text.of "read"]) ⟨rfl,_,_,rfl⟩

def returned : Call ServiceIdentity → Option ServiceIdentity
  | .ret service => some service
  | _ => none

theorem returned_some (shown : returned p = some service) : p = .ret service := by
  cases p with
  | ret _ =>
    cases shown
    rfl
  | fail | call => cases shown

theorem provisions_twice :
    ¬ProvisionsOnce TokenActs.demoDeployment (fun _ => none) ⟨"robot"⟩ (fun _ _ _ => True) demoMachine := by
  intro once
  have played : (play (G := demoSetting fun _ _ _ => True) (fun _ _ _ => true)
      (demoProvision _ :: demoProvision _ :: List.replicate 4 (.act 0) ++ List.replicate 9 (.act 1) ++
        List.replicate 5 (.act 0)) (.start demoMachine)).any
      (fun crew => ((crew.members[0]?.map Member.rest).bind returned).isSome &&
        ((crew.members[1]?.map Member.rest).bind returned).isSome) = true := by
    decide
  obtain ⟨crew,path,shown⟩ := play_reaches (fun _ _ _ _ => trivial) played
  simp only [Bool.and_eq_true,Option.isSome_iff_exists,Option.bind_eq_some_iff] at shown
  obtain ⟨⟨a,p,first,one⟩,b,q,second,two⟩ := shown
  rw [returned_some one] at first
  rw [returned_some two] at second
  cases (once crew path).one 0 1 a b first second

end OpenProof.ServiceProvisioning
