import OpenProof.CallProtocols
import OpenProof.TokenActs
import OpenProof.TenantViews

namespace OpenProof.ClientChanges
open AtomicPrograms
open CallProtocols Foundation World Services
open Clients

-- The administrative calls on one client: each reads the whole record, changes its
-- copy and saves the copy.
inductive ClientChange where
  | suspend
  | activate
  | revoke
  | rotateSecret
  deriving DecidableEq

inductive Outcome where
  | changed (client : Client)
  | rotated (secret : Text)

def ClientChange.call (d : Deployment) (id : ClientId) : ClientChange → Call Outcome
  | .suspend => (ClientManager.suspend id).bind fun client => .ret (.changed client)
  | .activate => (ClientManager.activate id).bind fun client => .ret (.changed client)
  | .revoke => (ClientManager.revoke id).bind fun client => .ret (.changed client)
  | .rotateSecret => (ClientManager.rotateSecret d id).bind fun secret => .ret (.rotated secret)

inductive Held where
  | begun (change : ClientChange)
  | read (change : ClientChange) (copy : Client)
  | drawn (copy : Client) (secret : Text)
  | rotated (secret : Text)
  | done

def Held.copy : Held → Option Client
  | .read _ copy => some copy
  | .drawn copy _ => some copy
  | _ => none

def Held.found (change : ClientChange) : Option Client → Held
  | some copy => .read change copy
  | none => .done

def Held.generated (copy : Client) : Result Text → Held
  | .ok text => .drawn copy (Text.of "ops_" ++ text)
  | .error _ => .done

def Held.saved (secret : Text) : Result Unit → Held
  | .ok _ => .rotated secret
  | .error _ => .done

def StatusChange (copy changed : Client) (now : Instant) : ClientChange → Prop
  | .suspend => copy.suspend now = .ok changed
  | .activate => copy.activate now = .ok changed
  | .revoke => copy.revoke now = .ok changed
  | .rotateSecret => False

def protocol (d : Deployment) (id : ClientId) : Protocol Op Op.Ret Held where
  asks
    | .begun _,op => op = .client (.findById id)
    | .read change copy,op => op = .now ∨ op = .random 32 ∨
        ∃ changed now,op = .client (.save changed) ∧ StatusChange copy changed now change
    | .drawn copy secret,op => op = .now ∨
        ∃ changed now digest,op = .client (.save changed) ∧ ClientManager.digest d secret = .ok digest ∧
          copy.replaceSecret digest now = .ok changed
    | _,_ => False
  after
    | .begun change,.client (.findById _),found => .found change found
    | .read _ copy,.random _,drawn => .generated copy drawn
    | .drawn _ secret,.client (.save _),saved => .saved secret saved
    | held,.now,_ => held
    | _,_,_ => .done

def ends : Held → Except Error Outcome → Prop
  | held,.ok (.rotated secret) => held = .rotated secret
  | _,_ => True

section
variable {d : Deployment} {id : ClientId}

theorem require_follows {ends : Held → Except Error β → Prop}
    (rest : ∀ copy,Follows (protocol d id) ends (.read change copy) (f copy)) (stops : ∀ e,ends .done (.error e)) :
    Follows (protocol d id) ends (.begun change) ((ClientManager.require id).bind f) := by
  refine ⟨rfl,fun found => ?_⟩
  cases found with
  | none => exact stops _
  | some copy => exact rest copy

theorem transition_follows {change : ClientChange}
    (changes : ∀ {copy changed : Client} {now : Instant},apply copy now = .ok changed →
      StatusChange copy changed now change) :
    Follows (protocol d id) (fun _ _ => True) (.begun change) (ClientManager.transition apply id) := by
  refine require_follows (fun copy => ?_) fun _ => trivial
  refine .ask (.inl rfl) fun at_ => .check (fun changed done => ?_) fun _ _ => trivial
  refine .ask (.inr (.inr ⟨changed,at_,rfl,changes done⟩)) fun saved => ?_
  exact .check (fun _ _ => trivial) fun _ _ => trivial

theorem rotateSecret_follows :
    Follows (protocol d id) (fun held r => ∀ secret,r = .ok secret → held = .rotated secret)
      (.begun .rotateSecret) (ClientManager.rotateSecret d id) := by
  have stops : ∀ (held : Held) (e : Error) (secret : Text),(Except.error e : Result Text) = .ok secret →
      held = .rotated secret := fun _ _ _ returned => nomatch returned
  refine require_follows (fun copy => ?_) fun e => stops _ e
  refine .refuse (fun _ => ?_) (stops _ _)
  refine .ask (.inr (.inl rfl)) fun drawn => ?_
  cases drawn with
  | error e => exact stops _ e
  | ok text =>
    refine .check (fun generated same => ?_) fun e _ => stops _ e
    cases same
    refine .check (fun digest calculated => ?_) fun e _ => stops _ e
    refine ⟨.inl rfl,fun at_ => ?_⟩
    refine .check (fun changed done => ?_) fun e _ => stops _ e
    refine ⟨.inr ⟨changed,at_,digest,rfl,calculated,done⟩,fun saved => ?_⟩
    cases saved with
    | error e => exact stops _ e
    | ok _ =>
      intro secret returned
      cases returned
      rfl

theorem call_follows (change : ClientChange) : Follows (protocol d id) ends (.begun change) (change.call d id) := by
  cases change with
  | suspend => exact .bind (transition_follows fun done => done) (fun _ _ _ => trivial) fun _ _ _ => trivial
  | activate => exact .bind (transition_follows fun done => done) (fun _ _ _ => trivial) fun _ _ _ => trivial
  | revoke => exact .bind (transition_follows fun done => done) (fun _ _ _ => trivial) fun _ _ _ => trivial
  | rotateSecret => exact .bind rotateSecret_follows (fun _ _ known => known _ rfl) fun _ _ _ => trivial

end

def NewSecret (d : Deployment) (id : ClientId) (held : Held) (h : History State) : Prop :=
  ∀ copy secret digest,held = .drawn copy secret → ClientManager.digest d secret = .ok digest →
    ∀ w ∈ h.worlds,∀ client,w.clients[id]? = some client → client.secretDigest ≠ some digest

-- A save of a stale copy takes nothing back: no client is revoked under it but by a
-- revocation, and a change of status finds the secret it has read.
def Undisturbed (id : ClientId) : Held → Op → History State → Prop
  | .read change copy,.client (.save _),h => ∀ current,h.now.clients[id]? = some current →
      (current.status = .revoked → change = .revoke) ∧ current.secretDigest = copy.secretDigest
  | .drawn _ _,.client (.save _),h => ∀ current,h.now.clients[id]? = some current → current.status ≠ .revoked
  | _,_,_ => True

def setting (d : Deployment) (id : ClientId) (permits : Held → Op → History State → Prop) :
    Setting Op Op.Ret Error Outcome State Held where
  exec := exec
  protocol := protocol d id
  entry held p := ∃ change : ClientChange,held = .begun change ∧ p = change.call d id
  permits held op h := NewSecret d id held h ∧ permits held op h
  drift before after := after.clients = before.clients

abbrev ClientCrew := Crew Op Op.Ret Error Outcome State Held

def Revoked (id : ClientId) (w : State) : Prop :=
  ∃ client,w.clients[id]? = some client ∧ client.status = .revoked

def Digest (id : ClientId) (w : State) (digest : ClientSecretDigest) : Prop :=
  ∃ client,w.clients[id]? = some client ∧ client.secretDigest = some digest

structure Settled (id : ClientId) (retired : ClientSecretDigest → Prop) (h : History State) : Prop where
  keyed : ∀ client,h.now.clients[id]? = some client → client.id = id
  revoked : ∀ w ∈ h.worlds,Revoked id w → Revoked id h.now
  known : ∀ digest,retired digest → ∃ w ∈ h.worlds,Digest id w digest
  gone : ∀ digest,retired digest → ¬Digest id h.now digest

section
variable {id : ClientId} {h : History State}

theorem Settled.same (settled : Settled id retired h) (same : w.clients[id]? = h.now.clients[id]?) :
    Settled id retired (h.push w) where
  keyed := by
    intro client stored
    exact settled.keyed client (same ▸ stored)
  revoked := by
    intro v member revoked
    have before : Revoked id h.now := by
      rcases List.mem_cons.mp member with rfl | earlier
      · simpa only [Revoked,same] using revoked
      · exact settled.revoked v earlier revoked
    simpa only [Revoked,History.push_now,same] using before
  known := by
    intro digest member
    obtain ⟨v,earlier,stored⟩ := settled.known digest member
    exact ⟨v,List.mem_cons_of_mem _ earlier,stored⟩
  gone := by
    intro digest member
    simpa only [Digest,History.push_now,same] using settled.gone digest member

theorem Settled.save (settled : Settled id retired h) (key : changed.id = id)
    (final : Revoked id h.now → changed.status = .revoked)
    (apart : ∀ digest,retired digest → changed.secretDigest ≠ some digest) :
    Settled id retired (h.push { h.now with clients := h.now.clients.insert changed.id changed }) := by
  have now : (h.now.clients.insert changed.id changed)[id]? = some changed := by
    rw [Map.find_insert,if_pos key]
  constructor
  · intro client found
    rw [History.push_now] at found
    cases now.symm.trans found
    exact key
  · intro v member revoked
    rcases List.mem_cons.mp member with rfl | earlier
    · exact revoked
    · exact ⟨changed,now,final (settled.revoked v earlier revoked)⟩
  · intro digest member
    obtain ⟨v,earlier,found⟩ := settled.known digest member
    exact ⟨v,List.mem_cons_of_mem _ earlier,found⟩
  · rintro digest member ⟨client,found,carries⟩
    rw [History.push_now] at found
    cases now.symm.trans found
    exact apart digest member carries

end

theorem StatusChange.spec {now : Instant} (done : StatusChange copy changed now change) :
    changed.id = copy.id ∧ changed.secretDigest = copy.secretDigest ∧
      (change = .revoke → changed.status = .revoked) := by
  cases change with
  | suspend =>
    simp only [StatusChange,Client.suspend] at done
    split_ifs at done
    cases done
    exact ⟨rfl,rfl,nofun⟩
  | activate =>
    simp only [StatusChange,Client.activate] at done
    split_ifs at done
    cases done
    exact ⟨rfl,rfl,nofun⟩
  | revoke =>
    simp only [StatusChange,Client.revoke] at done
    split_ifs at done
    cases done
    exact ⟨rfl,rfl,fun _ => rfl⟩
  | rotateSecret => exact done.elim

theorem replaceSecret_digest {copy changed : Client} {now : Instant}
    (done : copy.replaceSecret digest now = .ok changed) : changed.secretDigest = some digest := by
  unfold Client.replaceSecret at done
  split_ifs at done
  cases done
  rfl

theorem exec_save (w : State) (changed : Client) : (∃ e,exec (.client (.save changed)) w = (.error e,w)) ∨
      ∃ current,w.clients[changed.id]? = some current ∧
        exec (.client (.save changed)) w = (.ok (),{ w with clients := w.clients.insert changed.id changed }) := by
  cases stored : w.clients[changed.id]? with
  | none => exact .inl ⟨.plain .notFound,by simp [exec,ClientOp.exec,ClientStore.save,stored]⟩
  | some current =>
    by_cases moved : current.applicationId ≠ changed.applicationId ∨ current.kind ≠ changed.kind
    · exact .inl ⟨_,by simp only [exec,ClientOp.exec,ClientStore.save,stored,if_pos moved]; rfl⟩
    · exact .inr ⟨current,rfl,by simp only [exec,ClientOp.exec,ClientStore.save,stored,if_neg moved]⟩

def Copies (id : ClientId) (states : List Held) : Prop :=
  ∀ held ∈ states,∀ copy,held.copy = some copy → copy.id = id

theorem Copies.set {id : ClientId} (copies : Copies id states) (known : ∀ copy,held.copy = some copy → copy.id = id)
    (i : Nat) : Copies id (states.set i held) := by
  intro other present
  rcases List.mem_or_eq_of_mem_set present with old | rfl
  · exact copies other old
  · exact known

section
variable {d : Deployment} {id : ClientId}

theorem after_copy (asked : (protocol d id).asks held op)
    (keyed : ∀ client,w.clients[id]? = some client → client.id = id)
    (known : ∀ copy,held.copy = some copy → copy.id = id) :
    ∀ copy,((protocol d id).after held op (exec op w).1).copy = some copy → copy.id = id := by
  cases held with
  | begun change =>
    cases asked
    intro copy shown
    cases stored : w.clients[id]? with
    | none => simp [protocol,exec,ClientOp.exec,ClientStore.findById,stored,Held.found,Held.copy] at shown
    | some client =>
      simp only [protocol,exec,ClientOp.exec,ClientStore.findById,stored,Held.found,Held.copy,
        Option.some.injEq] at shown
      exact shown ▸ keyed client stored
  | read change copy =>
    rcases asked with rfl | rfl | ⟨changed,now,rfl,done⟩
    · exact known
    · simp only [protocol]
      cases (exec (.random 32) w).1 with
      | ok text => exact known
      | error e =>
        intro copy impossible
        cases impossible
    · intro copy impossible
      cases impossible
  | drawn copy secret =>
    rcases asked with rfl | ⟨changed,now,digest,rfl,calculated,done⟩
    · exact known
    · simp only [protocol]
      cases (exec (.client (.save changed)) w).1 with
      | ok _ =>
        intro copy impossible
        cases impossible
      | error e =>
        intro copy impossible
        cases impossible
  | rotated | done => exact asked.elim

theorem settled_save {h : History State} (settled : Settled id retired h)
    (key : changed.id = id) (final : Revoked id h.now → changed.status = .revoked)
    (apart : ∀ current,h.now.clients[id]? = some current → ∀ digest,retired digest →
      changed.secretDigest ≠ some digest) : Settled id retired (h.push (exec (.client (.save changed)) h.now).2) := by
  rcases exec_save h.now changed with ⟨e,refused⟩ | ⟨current,stored,saved⟩
  · rw [refused]
    exact settled.same rfl
  · rw [saved]
    exact settled.save key final (apart current (key ▸ stored))

theorem keeps_settled (d : Deployment) (id : ClientId) (retired : ClientSecretDigest → Prop) :
    Keeps (setting d id (Undisturbed id)) ends fun h states => Settled id retired h ∧ Copies id states where
  follows := by
    rintro held p ⟨change,rfl,rfl⟩
    exact call_follows change
  enters := by
    rintro h states held p ⟨settled,copies⟩ ⟨change,rfl,rfl⟩
    refine ⟨settled,fun other present => ?_⟩
    rcases List.mem_append.mp present with old | new
    · exact copies other old
    · cases List.mem_singleton.mp new
      exact nofun
  drifts h _ w settled moved :=
    ⟨settled.1.same (congrArg (fun clients : ClientStore => clients[id]?) moved),settled.2⟩
  acts := by
    rintro h states i held op ⟨settled,copies⟩ present asked permitted
    have known := copies held (List.mem_of_getElem? present)
    refine ⟨?_,copies.set (after_copy asked settled.keyed known) i⟩
    cases held with
    | begun change =>
      cases asked
      exact settled.same rfl
    | read change copy =>
      rcases asked with rfl | rfl | ⟨changed,now,rfl,done⟩
      · exact settled.same rfl
      · exact settled.same rfl
      · obtain ⟨key,kept,final⟩ := done.spec
        apply settled_save settled (key.trans (known copy rfl))
        · rintro ⟨current,stored,revoked⟩
          exact final ((permitted.2 current stored).1 revoked)
        · intro current stored digest member carries
          have shown : current.secretDigest = some digest :=
            (permitted.2 current stored).2.trans (kept.symm.trans carries)
          exact settled.gone digest member ⟨current,stored,shown⟩
    | drawn copy secret =>
      rcases asked with rfl | ⟨changed,now,digest,rfl,calculated,done⟩
      · exact settled.same rfl
      · apply settled_save settled ((Client.replaceSecret_same done).id.trans (known copy rfl))
        · rintro ⟨current,stored,revoked⟩
          exact absurd revoked (permitted.2 current stored)
        · intro current _ old member repeated
          obtain ⟨w,earlier,client,stored,holds⟩ := settled.known old member
          refine permitted.1 copy secret digest rfl calculated w earlier client stored ?_
          exact holds.trans (repeated.symm.trans (replaceSecret_digest done))
    | rotated | done => exact asked.elim

theorem authenticate_digest
    (accepted : ((ClientManager.authenticate d id (some presented)).run exec w).1 = .ok client) :
    ∃ digest,ClientManager.digest d presented = .ok digest ∧ Digest id w digest := by
  unfold ClientManager.authenticate at accepted
  simp only [bind,Prog.run_bind,TenantViews.requireActive_run] at accepted
  cases active : TenantViews.activeClient w id with
  | none => simp [active] at accepted
  | some found =>
    have stored : w.clients[id]? = some found := (Option.filter_eq_some_iff.mp active).1
    simp only [active,Option.elim_some] at accepted
    split at accepted
    · cases accepted
    · split at accepted
      · rename_i secret expected given kept
        cases given
        cases calculated : ClientManager.digest d presented with
        | error e => simp [calculated] at accepted
        | ok digest =>
          refine ⟨digest,rfl,found,stored,?_⟩
          by_cases same : digest = expected
          · rw [kept,same]
          · simp [calculated,Prog.refuseIf,same] at accepted
      · cases accepted

theorem rotated_after (asked : (protocol d id).asks held op)
    (reached : (protocol d id).after held op answer = .rotated secret) :
    ∃ copy changed now digest,held = .drawn copy secret ∧ op = .client (.save changed) ∧
      ClientManager.digest d secret = .ok digest ∧ copy.replaceSecret digest now = .ok changed := by
  cases held with
  | begun change =>
    cases asked
    cases answer <;> cases reached
  | read change copy =>
    rcases asked with rfl | rfl | ⟨changed,now,rfl,done⟩
    · cases reached
    · cases answer <;> cases reached
    · cases reached
  | drawn copy drawn =>
    rcases asked with rfl | ⟨changed,now,digest,rfl,calculated,done⟩
    · cases reached
    · cases answer <;> cases reached
      exact ⟨copy,changed,now,digest,rfl,rfl,calculated,done⟩
  | rotated | done => exact asked.elim

theorem settled_rotation {crew next : ClientCrew}
    (sound : crew.Sound (setting d id (Undisturbed id)) ends fun h states =>
      Settled id (fun _ => False) h ∧ Copies id states)
    (moved : Step (setting d id (Undisturbed id)) crew (.act i op) next)
    (returned : (next.members[i]?.map Member.rest) = some (.ret (.rotated secret))) :
    next.Sound (setting d id (Undisturbed id)) ends fun h states =>
      Settled id (fun digest => ∃ w ∈ crew.hist.worlds,Digest id w digest) h ∧ Copies id states := by
  have after := (keeps_settled d id fun _ => False).step sound moved
  refine ⟨⟨⟨after.holds.1.keyed,after.holds.1.revoked,?_,?_⟩,after.holds.2⟩,after.follow⟩
  · rintro digest ⟨w,member,stored⟩
    exact ⟨w,(Runs.step .nil moved).worlds member,stored⟩
  · cases moved with
    | @act _ held _ rest waiting permitted =>
      have follows := sound.follow _ (List.mem_of_getElem? waiting)
      have present : i < crew.members.length := (List.getElem?_eq_some_iff.mp waiting).1
      simp only [List.getElem?_set_self present,Option.map_some,Option.some.injEq] at returned
      have ended := follows.2 ((setting d id (Undisturbed id)).exec op crew.hist.now).1
      rw [returned] at ended
      obtain ⟨copy,changed,now,digest,rfl,rfl,calculated,done⟩ := rotated_after follows.1 ended
      have member : Held.drawn copy secret ∈ crew.held :=
        List.mem_map.mpr ⟨_,List.mem_of_getElem? waiting,rfl⟩
      have key : changed.id = id :=
        (Client.replaceSecret_same done).id.trans (sound.holds.2 _ member copy rfl)
      rintro old ⟨w,earlier,client,stored,carried⟩ ⟨current,shown,carries⟩
      simp only [History.push_now,setting] at shown
      rcases exec_save crew.hist.now changed with ⟨e,refused⟩ | ⟨before,_,saved⟩
      · have reached : Held.saved secret (exec (.client (.save changed)) crew.hist.now).1 = .rotated secret := ended
        rw [refused] at reached
        cases reached
      · simp only [saved,Map.find_insert,key,if_true,Option.some.injEq] at shown
        subst shown
        refine permitted.1 copy secret digest rfl calculated w earlier client stored ?_
        rw [carried,← carries,replaceSecret_digest done]

end

def RevocationFinal (d : Deployment) (id : ClientId) (permits : Held → Op → History State → Prop) (w : State) :
    Prop :=
  ∀ crew,Runs (setting d id permits) (.start w) crew →
    ∀ v ∈ crew.hist.worlds,Revoked id v → Revoked id crew.hist.now

def Authenticates (d : Deployment) (id : ClientId) (presented : Text) (w : State) : Prop :=
  ∃ client,((ClientManager.authenticate d id (some presented)).run exec w).1 = .ok client

def RotationRetires (d : Deployment) (id : ClientId) (permits : Held → Op → History State → Prop) (w : State) :
    Prop :=
  ∀ (crew next later : ClientCrew) (i : Nat) (op : Op) (secret : Text),
    Runs (setting d id permits) (.start w) crew → Step (setting d id permits) crew (.act i op) next →
      next.members[i]?.map Member.rest = some (.ret (.rotated secret)) → Runs (setting d id permits) next later →
        ∀ v ∈ crew.hist.worlds,∀ presented,Authenticates d id presented v →
          ¬Authenticates d id presented later.hist.now

theorem changes_final_when_undisturbed (d : Deployment) (id : ClientId) (w : State)
    (keyed : ∀ client,w.clients[id]? = some client → client.id = id) :
    RevocationFinal d id (Undisturbed id) w ∧ RotationRetires d id (Undisturbed id) w := by
  have begins : Settled id (fun _ => False) ⟨w,[]⟩ ∧ Copies id [] := by
    refine ⟨⟨keyed,?_,fun _ none => none.elim,fun _ none => none.elim⟩,List.forall_mem_nil _⟩
    intro v member revoked
    cases List.mem_singleton.mp member
    exact revoked
  constructor
  · intro crew path
    exact ((keeps_settled d id _).start begins path).holds.1.revoked
  · rintro crew next later i op secret path moved returned further v member presented ⟨_,valid⟩ ⟨_,again⟩
    have sound := (keeps_settled d id _).start begins path
    have settled := ((keeps_settled d id _).runs (settled_rotation sound moved returned) further).holds.1
    obtain ⟨digest,calculated,stored⟩ := authenticate_digest valid
    obtain ⟨same,recalculated,still⟩ := authenticate_digest again
    cases calculated.symm.trans recalculated
    exact settled.gone digest ⟨v,member,stored⟩ still

def demoRobot : Client :=
  { TokenActs.demoClient with
    id := ⟨"robot"⟩
    kind := .service
    redirectUris := []
    secretDigest := (ClientManager.digest TokenActs.demoDeployment "ops_old").toOption }

def demoWorld : State :=
  { State.empty TokenActs.demoSurroundings with
    entropy := [.ok "new"]
    applications := (Applications.ApplicationStore.add TokenActs.demoApplication (State.empty TokenActs.demoSurroundings).applications).2
    clients := (ClientStore.add demoRobot ∅).2 }

abbrev demoSetting (permits : Held → Op → History State → Prop) :=
  setting TokenActs.demoDeployment ⟨"robot"⟩ permits

def demoEnter (permits : Held → Op → History State → Prop) (change : ClientChange) : Move (demoSetting permits) :=
  .enter (.begun change) (change.call TokenActs.demoDeployment ⟨"robot"⟩) ⟨change,rfl,rfl⟩

def newSecret (d : Deployment) (id : ClientId) : Held → History State → Bool
  | .drawn _ secret,h => (ClientManager.digest d secret).toOption.all fun digest =>
    h.worlds.all fun w => w.clients[id]?.all fun client => client.secretDigest ≠ some digest
  | _,_ => true

theorem newSecret_correct {d : Deployment} {id : ClientId} {h : History State}
    (shown : newSecret d id held h = true) : NewSecret d id held h := by
  rintro copy secret digest rfl calculated w member client stored
  simp only [newSecret,calculated,Except.toOption,Option.all_some,List.all_eq_true] at shown
  simpa [stored] using shown w member

def revoked (id : ClientId) (w : State) : Bool := w.clients[id]?.any fun client => client.status == .revoked

theorem revoked_iff {id : ClientId} : revoked id w = true ↔ Revoked id w := by
  simp [revoked,Revoked,Option.any_eq_true]

def authenticates (d : Deployment) (id : ClientId) (presented : Text) (w : State) : Bool :=
  ((ClientManager.authenticate d id (some presented)).run exec w).1.toOption.isSome

theorem authenticates_iff {d : Deployment} {id : ClientId} :
    authenticates d id presented w = true ↔ Authenticates d id presented w := by
  unfold authenticates Authenticates
  cases ((ClientManager.authenticate d id (some presented)).run exec w).1 with
  | ok | error => simp [Except.toOption]

def undisturbed (id : ClientId) : Held → Op → History State → Bool
  | .read change copy,.client (.save _),h => h.now.clients[id]?.all fun current =>
    decide (current.status = .revoked → change = .revoke) && decide (current.secretDigest = copy.secretDigest)
  | .drawn _ _,.client (.save _),h => h.now.clients[id]?.all fun current => decide (current.status ≠ .revoked)
  | _,_,_ => true

theorem undisturbed_correct {id : ClientId} {h : History State} (shown : undisturbed id held op h = true) : Undisturbed id held op h := by
  unfold Undisturbed
  split
  · intro current stored
    simpa [undisturbed,stored,← imp_iff_not_or] using shown
  · intro current stored
    simpa [undisturbed,stored] using shown
  · trivial

theorem changes_final_robot : RevocationFinal TokenActs.demoDeployment ⟨"robot"⟩ (Undisturbed ⟨"robot"⟩) demoWorld ∧
      RotationRetires TokenActs.demoDeployment ⟨"robot"⟩ (Undisturbed ⟨"robot"⟩) demoWorld ∧
        ∃ crew,Runs (demoSetting (Undisturbed ⟨"robot"⟩)) (.start demoWorld) crew ∧
          Revoked ⟨"robot"⟩ crew.hist.now := by
  have keyed : ∀ client,demoWorld.clients[(⟨"robot"⟩ : ClientId)]? = some client → client.id = ⟨"robot"⟩ := by
    intro client stored
    have known : demoWorld.clients[(⟨"robot"⟩ : ClientId)]? = some demoRobot := by decide
    cases known.symm.trans stored
    rfl
  obtain ⟨revocation,rotation⟩ := changes_final_when_undisturbed TokenActs.demoDeployment ⟨"robot"⟩ demoWorld keyed
  refine ⟨revocation,rotation,?_⟩
  have played : (play (G := demoSetting (Undisturbed ⟨"robot"⟩))
      (fun s op h => newSecret TokenActs.demoDeployment ⟨"robot"⟩ s h && undisturbed ⟨"robot"⟩ s op h)
      (demoEnter _ .rotateSecret :: .act 0 :: .act 0 :: .act 0 :: .act 0 ::
        demoEnter _ .revoke :: .act 1 :: .act 1 :: [.act 1]) (.start demoWorld)).any
      (fun crew => revoked ⟨"robot"⟩ crew.hist.now) = true := by
    decide
  obtain ⟨crew,path,shown⟩ := play_reaches (fun s op h allowed => by
    obtain ⟨new,calm⟩ := Bool.and_eq_true_iff.mp allowed
    exact ⟨newSecret_correct new,undisturbed_correct calm⟩) played
  exact ⟨crew,path,revoked_iff.mp shown⟩

def rotatedSecret : Call Outcome → Option Text
  | .ret (.rotated secret) => some secret
  | _ => none

theorem rotatedSecret_some (shown : rotatedSecret p = some secret) : p = .ret (.rotated secret) := by
  unfold rotatedSecret at shown
  split at shown
  · cases shown
    rfl
  · cases shown

-- A suspension reads the active record; the revocation, or the rotation, that
-- follows is overwritten when the suspended copy is saved.
theorem changes_not_final : ¬RevocationFinal TokenActs.demoDeployment ⟨"robot"⟩ (fun _ _ _ => True) demoWorld ∧
      ¬RotationRetires TokenActs.demoDeployment ⟨"robot"⟩ (fun _ _ _ => True) demoWorld := by
  have correct : ∀ s op h,newSecret TokenActs.demoDeployment ⟨"robot"⟩ s h = true →
      (demoSetting fun _ _ _ => True).permits s op h := fun s op h shown => ⟨newSecret_correct shown,trivial⟩
  constructor
  · intro final
    have played : (play (G := demoSetting fun _ _ _ => True)
        (fun s _ h => newSecret TokenActs.demoDeployment ⟨"robot"⟩ s h)
        (demoEnter _ .suspend :: demoEnter _ .revoke :: .act 0 :: .act 1 :: .act 1 :: .act 1 ::
          [.act 0,.act 0]) (.start demoWorld)).any
        (fun crew => crew.hist.worlds.any (revoked ⟨"robot"⟩) && !revoked ⟨"robot"⟩ crew.hist.now) = true := by
      decide
    obtain ⟨crew,path,shown⟩ := play_reaches correct played
    simp only [Bool.and_eq_true,List.any_eq_true,Bool.not_eq_true'] at shown
    obtain ⟨⟨v,member,was⟩,not⟩ := shown
    have still := final crew path v member (revoked_iff.mp was)
    rw [← revoked_iff,not] at still
    cases still
  · intro retires
    have played : playThrough (G := demoSetting fun _ _ _ => True)
        (fun s _ h => newSecret TokenActs.demoDeployment ⟨"robot"⟩ s h)
        (demoEnter _ .suspend :: demoEnter _ .rotateSecret :: .act 0 :: .act 1 :: .act 1 :: [.act 1]) 1
        (.act 0 :: .act 0 :: demoEnter _ .activate :: .act 2 :: .act 2 :: [.act 2]) (.start demoWorld)
        (fun middle next later =>
          ((next.members[1]?.map Member.rest).bind rotatedSecret).isSome
          && authenticates TokenActs.demoDeployment ⟨"robot"⟩ "ops_old" middle.hist.now
          && authenticates TokenActs.demoDeployment ⟨"robot"⟩ "ops_old" later.hist.now) = true := by
      decide
    obtain ⟨crew,op,next,later,path,moved,further,shown⟩ := playThrough_reaches correct played
    simp only [Bool.and_eq_true] at shown
    obtain ⟨⟨returned,before⟩,again⟩ := shown
    obtain ⟨secret,drawn⟩ := Option.isSome_iff_exists.mp returned
    obtain ⟨call,here,ended⟩ := Option.bind_eq_some_iff.mp drawn
    rw [rotatedSecret_some ended] at here
    exact retires crew next later 1 op secret path moved here further _ crew.hist.now_mem_worlds _
      (authenticates_iff.mp before) (authenticates_iff.mp again)

end OpenProof.ClientChanges
