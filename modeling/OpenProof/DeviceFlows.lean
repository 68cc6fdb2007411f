import OpenProof.CallHistories
import OpenProof.World

namespace OpenProof.DeviceFlows
open AtomicPrograms CallTraces CallLogs CallHistories Foundation World Identities Clients
open Authorizations

abbrev DeviceExchange := Exchange DeviceOp DeviceOp.Ret
abbrev DeviceEntry := Entry DeviceOp DeviceOp.Ret DeviceStore

def deviceStage : Stage DeviceOp DeviceOp.Ret DeviceStore where
  exec := DeviceOp.exec
  drift before after := after = before

def fails : (op : DeviceOp) → op.Ret → Bool
  | .add _,r => !r.isOk
  | .findByUserCode ..,r => !r.isOk
  | .approve ..,r => !r.isOk
  | .deny ..,r => !r.isOk
  | .poll ..,r => !r.isOk

def granted (authorization : DeviceAuthorization) (authenticated : AuthenticatedSession) : DeviceAuthorization :=
  { authorization with
    identity := some authenticated.identity
    provider := some authenticated.provider
    assurance := some authenticated.assurance
    strength := some authenticated.strength
    authenticatedAt := some authenticated.authenticatedAt
    status := .approved }

section
variable {store : DeviceStore} {device user : Sha256Digest} {client : ClientId} {now : Instant}
  {authenticated : AuthenticatedSession} {before after authorization : DeviceAuthorization}

theorem add_cases (authorization : DeviceAuthorization) (store : DeviceStore) :
    (∃ e,store.add authorization = (.error e,store)) ∨
      store.byDevice[authorization.deviceCode]? = none ∧ store.userToDevice[authorization.userCode]? = none ∧
        store.add authorization = (.ok (),
          { userToDevice := store.userToDevice.insert authorization.userCode authorization.deviceCode
            byDevice := store.byDevice.insert authorization.deviceCode authorization }) := by
  unfold DeviceStore.add Map.holds
  split
  · exact .inl ⟨_,rfl⟩
  · rename_i free
    simp only [Bool.or_eq_true,not_or,Bool.not_eq_true,Option.isSome_eq_false_iff,Option.isNone_iff_eq_none] at free
    exact .inr ⟨free.1,free.2,rfl⟩

theorem byUserCode_stored (leads : store.byUserCode user = some (device,before)) :
    store.userToDevice[user]? = some device ∧ store.byDevice[device]? = some before := by
  unfold DeviceStore.byUserCode at leads
  split at leads
  · cases leads
  · rename_i other mapped
    obtain ⟨found,stored,same⟩ := Option.map_eq_some_iff.mp leads
    cases same
    exact ⟨mapped,stored⟩

theorem approve_cases (user : Sha256Digest) (authenticated : AuthenticatedSession) (now : Instant) (store : DeviceStore) :
    (∃ e,store.approve user authenticated now = (.error e,store)) ∨
      ∃ device found,store.byUserCode user = some (device,found) ∧ found.status = .pending ∧ now < found.expiresAt ∧
        store.approve user authenticated now = (.ok (granted found authenticated),
          { store with byDevice := store.byDevice.insert device (granted found authenticated) }) := by
  unfold DeviceStore.approve DeviceAuthorization.approve
  cases leads : store.byUserCode user with
  | none => exact .inl ⟨_,rfl⟩
  | some known =>
    obtain ⟨device,found⟩ := known
    dsimp only
    by_cases refused : found.status ≠ .pending ∨ found.expiredAt now
    · rw [if_pos refused]
      exact .inl ⟨_,rfl⟩
    · rw [if_neg refused]
      simp only [DeviceAuthorization.expiredAt,not_or,ne_eq,not_not,ge_iff_le,decide_eq_true_eq,Int.not_le] at refused
      exact .inr ⟨device,found,rfl,refused.1,refused.2,rfl⟩

theorem deny_cases (user : Sha256Digest) (now : Instant) (store : DeviceStore) :
    (∃ e,store.deny user now = (.error e,store)) ∨
      ∃ device found,store.byUserCode user = some (device,found) ∧ found.status = .pending ∧ now < found.expiresAt ∧
        store.deny user now = (.ok (),
          { store with byDevice := store.byDevice.insert device { found with status := .denied } }) := by
  unfold DeviceStore.deny DeviceAuthorization.deny
  cases leads : store.byUserCode user with
  | none => exact .inl ⟨_,rfl⟩
  | some known =>
    obtain ⟨device,found⟩ := known
    dsimp only
    by_cases refused : found.status ≠ .pending ∨ found.expiredAt now
    · rw [if_pos refused]
      exact .inl ⟨_,rfl⟩
    · rw [if_neg refused]
      simp only [DeviceAuthorization.expiredAt,not_or,ne_eq,not_not,ge_iff_le,decide_eq_true_eq,Int.not_le] at refused
      exact .inr ⟨device,found,rfl,refused.1,refused.2,rfl⟩

-- The answers to a poll of the bound client, and what each leaves in the store.
inductive Polled (device : Sha256Digest) (value : DeviceAuthorization) (now : Instant) (store : DeviceStore) :
    DevicePollResult × DeviceStore → Prop where
  | expired (late : value.expiresAt ≤ now) : Polled device value now store (⟨.expired,none,value.pollInterval⟩,store)
  | denied (early : now < value.expiresAt) (status : value.status = .denied) :
      Polled device value now store (⟨.denied,none,value.pollInterval⟩,store)
  | slowed (early : now < value.expiresAt) (live : value.status = .pending ∨ value.status = .approved)
      (hasty : value.lastPollAt.any (fun last => now < last+value.pollInterval) = true) :
      Polled device value now store (⟨.slowDown,none,value.pollInterval+5000⟩,{ store with
        byDevice := store.byDevice.insert device { value with
          pollInterval := value.pollInterval+5000
          lastPollAt := some now } })
  | approved (early : now < value.expiresAt) (status : value.status = .approved)
      (patient : value.lastPollAt.any (fun last => now < last+value.pollInterval) = false) :
      Polled device value now store (⟨.approved,some { value with status := .consumed,lastPollAt := some now },
        value.pollInterval⟩,{ store with
          byDevice := store.byDevice.insert device { value with status := .consumed,lastPollAt := some now } })
  | pending (early : now < value.expiresAt) (status : value.status = .pending)
      (patient : value.lastPollAt.any (fun last => now < last+value.pollInterval) = false) :
      Polled device value now store (⟨.pending,none,value.pollInterval⟩,{ store with
        byDevice := store.byDevice.insert device { value with lastPollAt := some now } })

theorem poll_cases (device : Sha256Digest) (client : ClientId) (now : Instant) (store : DeviceStore) :
    (∃ e,store.poll device client now = (.error e,store)) ∨
      ∃ value result,store.byDevice[device]? = some value ∧ value.clientId = client ∧
        store.poll device client now = (.ok result.1,result.2) ∧ Polled device value now store result := by
  unfold DeviceStore.poll
  cases stored : store.byDevice[device]? with
  | none => exact .inl ⟨_,rfl⟩
  | some value =>
    dsimp only
    split_ifs with foreign late denied consumed hasty approved
    · exact .inl ⟨_,rfl⟩
    · refine .inr ⟨value,_,rfl,not_not.mp foreign,rfl,.expired ?_⟩
      simpa [DeviceAuthorization.expiredAt] using late
    all_goals have early : now < value.expiresAt := by simpa [DeviceAuthorization.expiredAt] using late
    · exact .inr ⟨value,_,rfl,not_not.mp foreign,rfl,.denied early denied⟩
    · exact .inl ⟨_,rfl⟩
    · have live : value.status = .pending ∨ value.status = .approved := by
        cases status : value.status <;> simp_all
      simp only [DeviceAuthorization.slowDown,late,consumed,Bool.false_eq_true,or_self,if_false]
      exact .inr ⟨value,_,rfl,not_not.mp foreign,rfl,.slowed early live hasty⟩
    · simp only [DeviceAuthorization.consume,late,approved,Bool.false_eq_true,ne_eq,not_true,or_self,if_false]
      exact .inr ⟨value,_,rfl,not_not.mp foreign,rfl,.approved early approved (Bool.eq_false_iff.mpr hasty)⟩
    · have status : value.status = .pending := by
        cases status : value.status <;> simp_all
      simp only [DeviceAuthorization.markPolled,late,consumed,Bool.false_eq_true,or_self,if_false]
      exact .inr ⟨value,_,rfl,not_not.mp foreign,rfl,.pending early status (Bool.eq_false_iff.mpr hasty)⟩

-- How one operation moves the record of a device on.
inductive Progress (store : DeviceStore) (device : Sha256Digest) (before : DeviceAuthorization) :
    DeviceExchange → DeviceAuthorization → Prop where
  | idle (exchange : DeviceExchange) : Progress store device before exchange before
  | waited (exchange : DeviceExchange) (live : before.status = .pending ∨ before.status = .approved)
      (interval : Duration) (now : Instant) :
      Progress store device before exchange { before with pollInterval := interval,lastPollAt := some now }
  | approved (user : Sha256Digest) (authenticated : AuthenticatedSession) (now : Instant)
      (leads : store.byUserCode user = some (device,before)) (pending : before.status = .pending) :
      Progress store device before ⟨.approve user authenticated now,.ok (granted before authenticated)⟩
        (granted before authenticated)
  | denied (user : Sha256Digest) (now : Instant) (leads : store.byUserCode user = some (device,before))
      (pending : before.status = .pending) :
      Progress store device before ⟨.deny user now,.ok ()⟩ { before with status := .denied }
  | consumed (exchange : DeviceExchange) (approved : before.status = .approved) (now : Instant) :
      Progress store device before exchange { before with status := .consumed,lastPollAt := some now }

theorem insert_other (apart : other ≠ device) (stored : store.byDevice[device]? = some before) : (store.byDevice.insert other value)[device]? = some before := by
  rw [Map.find_insert,if_neg apart]
  exact stored

theorem insert_here : (store.byDevice.insert device value)[device]? = some value := by
  rw [Map.find_insert,if_pos rfl]

theorem exec_progress (op : DeviceOp) (stored : store.byDevice[device]? = some before) :
    ∃ after,(op.exec store).2.byDevice[device]? = some after ∧ Progress store device before ⟨op,(op.exec store).1⟩ after := by
  cases op with
  | add authorization =>
    simp only [DeviceOp.exec]
    rcases add_cases authorization store with ⟨e,same⟩ | ⟨absent,-,same⟩
    · exact ⟨before,by rw [same]; exact stored,.idle _⟩
    · have apart : authorization.deviceCode ≠ device := by
        rintro rfl
        rw [stored] at absent
        cases absent
      exact ⟨before,by rw [same]; exact insert_other apart stored,.idle _⟩
  | findByUserCode user now => exact ⟨before,stored,.idle _⟩
  | approve user authenticated now =>
    simp only [DeviceOp.exec]
    rcases approve_cases user authenticated now store with ⟨e,same⟩ | ⟨other,found,leads,pending,-,same⟩
    · exact ⟨before,by rw [same]; exact stored,.idle _⟩
    · rw [same]
      by_cases here : other = device
      · subst here
        have known := (byUserCode_stored leads).2
        rw [stored] at known
        cases known
        exact ⟨_,insert_here,.approved user authenticated now leads pending⟩
      · exact ⟨before,insert_other here stored,.idle _⟩
  | deny user now =>
    simp only [DeviceOp.exec]
    rcases deny_cases user now store with ⟨e,same⟩ | ⟨other,found,leads,pending,-,same⟩
    · exact ⟨before,by rw [same]; exact stored,.idle _⟩
    · rw [same]
      by_cases here : other = device
      · subst here
        have known := (byUserCode_stored leads).2
        rw [stored] at known
        cases known
        exact ⟨_,insert_here,.denied user now leads pending⟩
      · exact ⟨before,insert_other here stored,.idle _⟩
  | poll other client now =>
    simp only [DeviceOp.exec]
    rcases poll_cases other client now store with ⟨e,same⟩ | ⟨value,⟨result,left⟩,known,-,same,polled⟩
    · exact ⟨before,by rw [same]; exact stored,.idle _⟩
    · rw [same]
      by_cases here : other = device
      · subst here
        rw [stored] at known
        cases known
        cases polled with
        | expired | denied => exact ⟨before,stored,.idle _⟩
        | slowed early live hasty => exact ⟨_,insert_here,.waited _ live _ now⟩
        | approved early status patient => exact ⟨_,insert_here,.consumed _ status now⟩
        | pending early status patient => exact ⟨_,insert_here,.waited _ (.inl status) before.pollInterval now⟩
      · cases polled with
        | expired | denied => exact ⟨before,stored,.idle _⟩
        | slowed | approved | pending => exact ⟨before,insert_other here stored,.idle _⟩

theorem insert_absent (absent : store.byDevice[device]? = none) (known : store.byDevice[other]? = some found) : (store.byDevice.insert other value)[device]? = none := by
  rw [Map.find_insert,if_neg]
  · exact absent
  · rintro rfl
    rw [absent] at known
    cases known

theorem exec_appears (absent : store.byDevice[device]? = none)
    (appears : (op.exec store).2.byDevice[device]? = some after) :
    after.deviceCode = device ∧ (⟨op,(op.exec store).1⟩ : DeviceExchange) = ⟨.add after,.ok ()⟩ := by
  cases op with
  | add authorization =>
    simp only [DeviceOp.exec] at appears ⊢
    rcases add_cases authorization store with ⟨e,same⟩ | ⟨-,-,same⟩
    · rw [same,absent] at appears
      cases appears
    · rw [same] at appears ⊢
      rcases Map.insert_cases appears with ⟨here,rfl⟩ | before
      · exact ⟨here,rfl⟩
      · rw [absent] at before
        cases before
  | findByUserCode user now =>
    rw [DeviceOp.exec,absent] at appears
    cases appears
  | approve user authenticated now =>
    simp only [DeviceOp.exec] at appears
    rcases approve_cases user authenticated now store with ⟨e,same⟩ | ⟨other,found,leads,-,-,same⟩
    · rw [same,absent] at appears
      cases appears
    · rw [same,insert_absent absent (byUserCode_stored leads).2] at appears
      cases appears
  | deny user now =>
    simp only [DeviceOp.exec] at appears
    rcases deny_cases user now store with ⟨e,same⟩ | ⟨other,found,leads,-,-,same⟩
    · rw [same,absent] at appears
      cases appears
    · rw [same,insert_absent absent (byUserCode_stored leads).2] at appears
      cases appears
  | poll other client now =>
    simp only [DeviceOp.exec] at appears
    rcases poll_cases other client now store with ⟨e,same⟩ | ⟨value,⟨result,left⟩,known,-,same,polled⟩
    · rw [same,absent] at appears
      cases appears
    · have none : left.byDevice[device]? = none := by
        cases polled with
        | expired | denied => exact absent
        | slowed | approved | pending => exact insert_absent absent known
      rw [same,none] at appears
      cases appears

theorem exec_hands (polled : (⟨op,(op.exec store).1⟩ : DeviceExchange) = ⟨.poll device client now,.ok result⟩)
    (handed : result.disposition = .approved) : ∃ stored,store.byDevice[device]? = some stored ∧
      stored.status = .approved ∧ stored.clientId = client ∧ now < stored.expiresAt ∧
        result.authorization = some { stored with status := .consumed,lastPollAt := some now } ∧
          (op.exec store).2.byDevice[device]? = some { stored with status := .consumed,lastPollAt := some now } := by
  obtain ⟨rfl,answer⟩ := executed_as polled
  simp only [DeviceOp.exec] at answer ⊢
  rcases poll_cases device client now store with ⟨e,same⟩ | ⟨value,⟨told,left⟩,known,bound,same,came⟩
  · rw [same] at answer
    cases answer
  · rw [same] at answer ⊢
    cases answer
    cases came with
    | approved early status patient => exact ⟨value,known,status,bound,early,rfl,insert_here⟩
    | expired | denied | slowed | pending => cases handed

theorem exec_fails (failed : fails op (op.exec store).1 = true) : (op.exec store).2 = store := by
  cases op with
  | add authorization =>
    simp only [DeviceOp.exec,fails] at failed ⊢
    rcases add_cases authorization store with ⟨e,same⟩ | ⟨-,-,same⟩
    · rw [same]
    · rw [same] at failed
      cases failed
  | findByUserCode user now => rfl
  | approve user authenticated now =>
    simp only [DeviceOp.exec,fails] at failed ⊢
    rcases approve_cases user authenticated now store with ⟨e,same⟩ | ⟨other,found,-,-,-,same⟩
    · rw [same]
    · rw [same] at failed
      cases failed
  | deny user now =>
    simp only [DeviceOp.exec,fails] at failed ⊢
    rcases deny_cases user now store with ⟨e,same⟩ | ⟨other,found,-,-,-,same⟩
    · rw [same]
    · rw [same] at failed
      cases failed
  | poll device client now =>
    simp only [DeviceOp.exec,fails] at failed ⊢
    rcases poll_cases device client now store with ⟨e,same⟩ | ⟨value,told,-,-,same,-⟩
    · rw [same]
    · rw [same] at failed
      cases failed

structure Rooted (added record : DeviceAuthorization) : Prop where
  userCode : record.userCode = added.userCode
  clientId : record.clientId = added.clientId
  scopes : record.scopes = added.scopes
  resource : record.resource = added.resource
  expiresAt : record.expiresAt = added.expiresAt

structure Carries (authenticated : AuthenticatedSession) (record : DeviceAuthorization) : Prop where
  identity : record.identity = some authenticated.identity
  provider : record.provider = some authenticated.provider
  assurance : record.assurance = some authenticated.assurance
  strength : record.strength = some authenticated.strength
  authenticatedAt : record.authenticatedAt = some authenticated.authenticatedAt

structure Backed (log : List DeviceEntry) (device : Sha256Digest) (record : DeviceAuthorization) : Prop where
  added : ∃ entry ∈ log,∃ added,entry.exchange = ⟨.add added,.ok ()⟩ ∧ added.deviceCode = device ∧ Rooted added record
  approved : record.status = .approved ∨ record.status = .consumed → ∃ entry ∈ log,∃ user authenticated now pending,
    entry.exchange = ⟨.approve user authenticated now,.ok (granted pending authenticated)⟩ ∧
      entry.found.byUserCode user = some (device,pending) ∧ pending.status = .pending ∧ Carries authenticated record

theorem Progress.rooted (progress : Progress store device before exchange after) : Rooted before after := by
  cases progress <;> exact ⟨rfl,rfl,rfl,rfl,rfl⟩

theorem Rooted.trans (one : Rooted added before) (two : Rooted before after) : Rooted added after :=
  ⟨two.userCode.trans one.userCode,two.clientId.trans one.clientId,two.scopes.trans one.scopes,
    two.resource.trans one.resource,two.expiresAt.trans one.expiresAt⟩

theorem Backed.step (backed : Backed log device before) (progress : Progress store device before exchange after) : Backed (log ++ [⟨i,store,exchange⟩]) device after := by
  have kept : (after.status = .approved ∨ after.status = .consumed → before.status = .approved ∨ before.status = .consumed) →
      (∀ authenticated,Carries authenticated before → Carries authenticated after) →
        after.status = .approved ∨ after.status = .consumed → ∃ entry ∈ log ++ [⟨i,store,exchange⟩],
          ∃ user authenticated now pending,
            entry.exchange = ⟨.approve user authenticated now,.ok (granted pending authenticated)⟩ ∧
              entry.found.byUserCode user = some (device,pending) ∧ pending.status = .pending ∧
                Carries authenticated after := by
    intro was carries now
    obtain ⟨entry,inside,user,authenticated,at_,pending,approve,leads,open_,carried⟩ := backed.approved (was now)
    exact ⟨entry,List.mem_append_left _ inside,user,authenticated,at_,pending,approve,leads,open_,carries _ carried⟩
  constructor
  · obtain ⟨entry,inside,added,put,named,rooted⟩ := backed.added
    exact ⟨entry,List.mem_append_left _ inside,added,put,named,rooted.trans progress.rooted⟩
  · cases progress with
    | idle => exact kept id fun _ carried => carried
    | waited _ live interval now => exact kept id fun _ carried => ⟨carried.1,carried.2,carried.3,carried.4,carried.5⟩
    | approved user authenticated now leads pending =>
      intro _
      exact ⟨_,List.mem_append_right _ List.mem_cons_self,user,authenticated,now,before,rfl,leads,pending,
        ⟨rfl,rfl,rfl,rfl,rfl⟩⟩
    | denied user now leads pending =>
      intro impossible
      rcases impossible with same | same <;> cases same
    | consumed _ approved now =>
      exact kept (fun _ => .inl approved) fun _ carried => ⟨carried.1,carried.2,carried.3,carried.4,carried.5⟩

def Created (log : List DeviceEntry) : Prop :=
  ∀ entry ∈ log,∀ authorization,entry.exchange.1 = .add authorization →
    ∃ deviceCode userCode clientId scopes resource issuedAt lifetime pollInterval,
      DeviceAuthorization.create deviceCode userCode clientId scopes resource issuedAt lifetime pollInterval =
        .ok authorization

theorem create_pending
    (created : DeviceAuthorization.create deviceCode userCode clientId scopes resource issuedAt lifetime pollInterval =
      .ok authorization) : authorization.status = .pending := by
  unfold DeviceAuthorization.create normalizeDeviceScopes at created
  split_ifs at created
  cases created
  rfl

variable {α : Type} {initial : DeviceStore} {floor : Floor DeviceOp DeviceOp.Ret Error α DeviceStore}

theorem backed_run (fresh : initial.byDevice = ∅) (played : Plays deviceStage initial floor) (created : Created floor.log) :
    ∀ (device : Sha256Digest) (record : DeviceAuthorization),floor.world.byDevice[device]? = some record →
      Backed floor.log device record := by
  induction played with
  | start =>
    intro device record stored
    simp [fresh] at stored
  | @move middle next _ moved ih =>
    cases moved with
    | enter p => exact ih created
    | drift moved =>
      cases moved
      exact ih created
    | @act i p op rest waiting =>
      have before := ih fun entry inside => created entry (List.mem_append_left _ inside)
      intro device record stored
      cases known : middle.world.byDevice[device]? with
      | some old =>
        obtain ⟨after,there,progress⟩ := exec_progress op known
        have same : record = after := Option.some.inj (stored.symm.trans there)
        subst same
        exact (before device old known).step progress
      | none =>
        obtain ⟨named,put⟩ := exec_appears known stored
        have here : (⟨i,middle.world,⟨op,(deviceStage.exec op middle.world).1⟩⟩ : DeviceEntry) ∈
            middle.log ++ [⟨i,middle.world,⟨op,(deviceStage.exec op middle.world).1⟩⟩] :=
          List.mem_append_right _ List.mem_cons_self
        obtain ⟨_,_,_,_,_,_,_,_,done⟩ := created _ here record (congrArg Sigma.fst put)
        refine ⟨⟨_,here,record,put,named,rfl,rfl,rfl,rfl,rfl⟩,?_⟩
        intro impossible
        rw [create_pending done] at impossible
        rcases impossible with same | same <;> cases same

theorem Progress.settled (progress : Progress store device before exchange after) (here : before.status = status)
    (final : status = .denied ∨ status = .consumed) : after.status = status := by
  subst here
  cases progress with
  | idle | waited => rfl
  | approved _ _ _ _ pending => rcases final with same | same <;> cases pending.symm.trans same
  | denied _ _ _ pending => rcases final with same | same <;> cases pending.symm.trans same
  | consumed _ approved => rcases final with same | same <;> cases approved.symm.trans same

def Stands (device : Sha256Digest) (status : DeviceAuthorizationStatus) (store : DeviceStore) : Prop :=
  ∃ record,store.byDevice[device]? = some record ∧ record.status = status

theorem stands_kept {op : DeviceOp} (final : status = .denied ∨ status = .consumed)
    (stands : Stands device status store) : Stands device status (op.exec store).2 := by
  obtain ⟨record,stored,here⟩ := stands
  obtain ⟨after,there,progress⟩ := exec_progress op stored
  exact ⟨after,there,progress.settled here final⟩

def Hands (device : Sha256Digest) (exchange : DeviceExchange) : Prop :=
  ∃ client now result,exchange = ⟨.poll device client now,.ok result⟩ ∧ result.disposition = .approved

theorem once_handed (device : Sha256Digest) :
    Once deviceStage (Hands device) (fun _ => False) (Stands device .consumed) where
  spends := by
    rintro op store ⟨client,now,result,polled,handed⟩
    obtain ⟨stored,there,approved,-,-,-,left⟩ := exec_hands polled handed
    refine ⟨?_,_,left,rfl⟩
    rintro ⟨record,known,consumed⟩
    rw [there] at known
    cases known
    cases approved.symm.trans consumed
  lasts _ _ spent _ := stands_kept (.inr rfl) spent
  still := by
    rintro store _ rfl spent
    exact spent

theorem exec_denies (denied : (⟨op,(op.exec store).1⟩ : DeviceExchange) = ⟨.deny user now,.ok ()⟩) :
    ∃ device found,store.byUserCode user = some (device,found) ∧ Stands device .denied (op.exec store).2 := by
  obtain ⟨rfl,answer⟩ := executed_as denied
  simp only [DeviceOp.exec] at answer ⊢
  rcases deny_cases user now store with ⟨e,same⟩ | ⟨device,found,leads,-,-,same⟩
  · rw [same] at answer
    cases answer
  · rw [same]
    exact ⟨device,found,leads,_,insert_here,rfl⟩

theorem device_authorized_once (fresh : initial = ⟨∅,∅⟩) (played : Plays deviceStage initial floor)
    (created : Created floor.log) : (∀ first poll after device client now result,floor.log = first ++ poll :: after →
      poll.exchange = ⟨.poll device client now,.ok result⟩ → result.disposition = .approved →
        (∀ other ∈ first ++ after,¬Hands device other.exchange) ∧
          ∃ authorization,result.authorization = some authorization ∧
            ∃ adding ∈ first,∃ added,adding.exchange = ⟨.add added,.ok ()⟩ ∧ added.deviceCode = device ∧
              Rooted added authorization ∧ added.clientId = client ∧ now < added.expiresAt ∧
                ∃ approving ∈ first,∃ user authenticated at_ pending,
                  approving.exchange = ⟨.approve user authenticated at_,.ok (granted pending authenticated)⟩ ∧
                    approving.found.byUserCode user = some (device,pending) ∧ pending.status = .pending ∧
                      Carries authenticated authorization) ∧
      (∀ first (deny : Entry _ _ _) after user at_,floor.log = first ++ deny :: after → deny.exchange = ⟨.deny user at_,.ok ()⟩ →
        ∃ device found,deny.found.byUserCode user = some (device,found) ∧
          ∀ later ∈ after,¬Hands device later.exchange) ∧
        ∀ entry ∈ floor.log,fails entry.exchange.1 entry.exchange.2 = true →
          (entry.exchange.1.exec entry.found).2 = entry.found := by
  refine ⟨?_,?_,?_⟩
  · intro first poll after device client now result split polled handed
    have exchanged := Plays.exchanged played poll (by simp [split])
    obtain ⟨stored,there,approved,bound,early,told,-⟩ := exec_hands (exchanged.trans polled) handed
    constructor
    · intro other inside hands
      have mine : Hands device poll.exchange := ⟨client,now,result,polled,handed⟩
      rcases List.mem_append.mp inside with before | behind
      · obtain ⟨early,between,rfl⟩ := List.append_of_mem before
        have shape : floor.log = early ++ other :: (between ++ poll :: after) := by rw [split]; simp
        obtain ⟨_,_,impossible⟩ := (once_handed device).twice played _ _ _ _ _ shape hands mine
        exact impossible
      · obtain ⟨between,late,rfl⟩ := List.append_of_mem behind
        obtain ⟨_,_,impossible⟩ := (once_handed device).twice played _ _ _ _ _ split mine hands
        exact impossible
    · obtain ⟨earlier,reached,logged,world,-⟩ := Plays.before played first poll after split
      have backed := backed_run (by rw [fresh]) reached (by
        intro entry inside
        rw [logged] at inside
        exact created entry (by simp [split,inside])) device stored (by rw [world]; exact there)
      rw [logged] at backed
      obtain ⟨adding,inside,added,put,named,rooted⟩ := backed.added
      obtain ⟨approving,before,user,authenticated,at_,pending,approve,leads,open_,carries⟩ := backed.approved (.inl approved)
      refine ⟨_,told,adding,inside,added,put,named,?_,rooted.clientId.symm.trans bound,rooted.expiresAt ▸ early,
        approving,before,user,authenticated,at_,pending,approve,leads,open_,?_⟩
      · exact ⟨rooted.1,rooted.2,rooted.3,rooted.4,rooted.5⟩
      · exact ⟨carries.1,carries.2,carries.3,carries.4,carries.5⟩
  · intro first deny after user at_ split denied
    have exchanged := Plays.exchanged played deny (by simp [split])
    obtain ⟨device,found,leads,stands⟩ := exec_denies (exchanged.trans denied)
    refine ⟨device,found,leads,?_⟩
    rintro later inside ⟨client,now,result,polled,handed⟩
    obtain ⟨between,rest,rfl⟩ := List.append_of_mem inside
    have there := kept_until played (fun store _ same held => same ▸ held) split stands fun entry _ held =>
      stands_kept (.inl rfl) held
    obtain ⟨record,known,status⟩ := there
    obtain ⟨stored,same,approved,-⟩ := exec_hands ((Plays.exchanged played later (by simp [split])).trans polled) handed
    rw [known] at same
    cases same
    cases status.symm.trans approved
  · intro entry inside failed
    have answered : entry.exchange.2 = (entry.exchange.1.exec entry.found).1 := played.answered entry inside
    apply exec_fails
    rwa [← answered]

end

theorem read_valid : Clients.validScope "read" = true := by decide

def demoSession : AuthenticatedSession where
  identity := ⟨"ann"⟩
  provider := ⟨"passkey"⟩
  assurance := .ial2
  strength := ⟨Identities.AuthenticationFactor.knowledge,false⟩
  authenticatedAt := 0

def demoAuthorization : DeviceAuthorization where
  deviceCode := 1
  userCode := 2
  clientId := ⟨"tv"⟩
  scopes := [⟨"read",read_valid⟩]
  resource := some "https://api.example"
  issuedAt := 0
  expiresAt := 600
  pollInterval := 5
  status := .pending
  identity := none
  provider := none
  assurance := none
  strength := none
  authenticatedAt := none
  lastPollAt := none

theorem demo_created : DeviceAuthorization.create 1 2 ⟨"tv"⟩ [⟨"read",read_valid⟩] (some "https://api.example") 0 600 5 =
    .ok demoAuthorization := by decide

abbrev DeviceCall := Prog DeviceOp DeviceOp.Ret Error Unit

def asking (op : DeviceOp) : DeviceCall := (Prog.perform op).bind fun _ => .ret ()

def addsDemo (exchange : DeviceExchange) : Bool :=
  match exchange.1 with
  | .add authorization => decide (authorization = demoAuthorization)
  | _ => true

def approvesDemo : DeviceExchange → Bool
  | ⟨.poll device client _,.ok result⟩ => device == 1 && client == ⟨"tv"⟩ && result.disposition == .approved
  | _ => false

theorem approvesDemo_hands (approves : approvesDemo exchange = true) : ∃ now result,
    exchange = ⟨.poll 1 ⟨"tv"⟩ now,.ok result⟩ ∧ result.disposition = .approved := by
  unfold approvesDemo at approves
  split at approves
  · simp only [Bool.and_eq_true,beq_iff_eq] at approves
    obtain ⟨⟨rfl,rfl⟩,same⟩ := approves
    exact ⟨_,_,rfl,same⟩
  · cases approves

theorem device_authorized_once_demo : ∃ (floor : Floor DeviceOp DeviceOp.Ret Error Unit DeviceStore)
    (first : List DeviceEntry) (poll : DeviceEntry) (authorization : DeviceAuthorization),
      Plays deviceStage ⟨∅,∅⟩ floor ∧ floor.log = first ++ [poll] ∧ Hands 1 poll.exchange ∧
        (∀ other ∈ first ++ [],¬Hands 1 other.exchange) ∧ authorization.clientId = ⟨"tv"⟩ := by
  let turns : List (Turn DeviceOp DeviceOp.Ret Error Unit DeviceStore) :=
    [.enter (asking (.add demoAuthorization)),.enter (asking (.poll 1 ⟨"tv"⟩ 1)),
      .enter (asking (.approve 2 demoSession 3)),.enter (asking (.poll 1 ⟨"tv"⟩ 8)),.act 0,.act 1,.act 2,.act 3]
  have done : (takeTurns DeviceOp.exec turns ⟨⟨∅,∅⟩,[],[]⟩).any (fun floor =>
      floor.log.all (fun entry => addsDemo entry.exchange) &&
        floor.log.getLast?.any fun entry => approvesDemo entry.exchange) = true := by
    decide
  obtain ⟨floor,taken,holds⟩ := (Option.any_eq_true _ _).mp done
  simp only [Bool.and_eq_true] at holds
  have played : Plays deviceStage ⟨∅,∅⟩ floor := Plays.start.turns (by simp [turns,Turn.Allowed]) taken
  have created : Created floor.log := by
    intro entry inside authorization adds
    have same := List.all_eq_true.mp holds.1 entry inside
    simp only [addsDemo,adds,decide_eq_true_eq] at same
    subst same
    exact ⟨_,_,_,_,_,_,_,_,demo_created⟩
  obtain ⟨poll,last,approves⟩ := (Option.any_eq_true _ _).mp holds.2
  obtain ⟨first,split⟩ := List.getLast?_eq_some_iff.mp last
  obtain ⟨now,result,polled,handed⟩ := approvesDemo_hands approves
  obtain ⟨alone,authorization,-,_,-,added,-,-,rooted,bound,-⟩ :=
    (device_authorized_once rfl played created).1 first poll [] 1 _ now result split polled handed
  exact ⟨floor,first,poll,authorization,played,split,⟨_,now,result,polled,handed⟩,alone,rooted.clientId.trans bound⟩

end OpenProof.DeviceFlows
