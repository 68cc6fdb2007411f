import OpenProof.TokenFamilies

namespace OpenProof.TokenRevocation
open AtomicPrograms Foundation World Services TokenService TokenActs Clients
open Tokens

variable {d : Deployment} {h : History State} {store : TokenStore} {family : TokenFamilyId}

def InUse (store : TokenStore) (family : TokenFamilyId) : Prop :=
  (∃ (key : TokenDigest) (record : AccessTokenRecord),store.access[key]? = some record ∧ record.family = family) ∨
    ∃ (key : TokenDigest) (record : RefreshTokenRecord),store.refresh[key]? = some record ∧ record.family = family

theorem InUse.not_new (used : InUse store family) : ¬ NewFamily store family := by
  rintro ⟨noAccess,noRefresh⟩
  rcases used with ⟨key,record,stored,member⟩ | ⟨key,record,stored,member⟩
  · exact noAccess key record stored member
  · exact noRefresh key record stored member

structure Dead (store : TokenStore) (family : TokenFamilyId) : Prop where
  used : InUse store family
  access : ∀ (key : TokenDigest) (record : AccessTokenRecord),store.access[key]? = some record →
    record.family = family → record.state = .revoked
  refresh : ∀ (key : TokenDigest) (record : RefreshTokenRecord),store.refresh[key]? = some record →
    record.family = family → record.state = .revoked

theorem inUse_act (acted : Act d born h store) (used : InUse h.now.tokens family) : InUse store family := by
  rcases used with ⟨key,record,stored,member⟩ | ⟨key,record,stored,member⟩
  · obtain ⟨after,present,rfl | ⟨at_,rfl⟩⟩ := acted.access_kept stored
    · exact .inl ⟨key,after,present,member⟩
    · exact .inl ⟨key,_,present,(record.revoke_family at_).trans member⟩
  · obtain ⟨after,present,same⟩ := acted.refresh_kept stored
    exact .inr ⟨key,after,present,same.family.trans member⟩

theorem Dead.not_usable (dead : Dead store family) {key : TokenDigest} (stored : store.refresh[key]? = some found)
    (member : found.family = family) (at_ : Instant) : found.usableAt at_ ≠ true := by
  rw [RefreshTokenRecord.not_usableAt_of_revoked (dead.refresh key found stored member) at_]
  exact Bool.false_ne_true

theorem dead_act (acted : Act d born h store) (dead : Dead h.now.tokens family) : Dead store family where
  used := inUse_act acted dead.used
  access key record stored member := by
    cases acted.access_from stored with
    | kept _ present => exact dead.access key record present member
    | revoked before at_ present => exact before.revoke_state at_
    | initial context _ at_ new => exact absurd (member ▸ new) dead.used.not_new
    | machine context _ at_ source new timed => exact absurd (member ▸ new) dead.used.not_new
    | rotated presented found at_ present usable => exact absurd usable (dead.not_usable present member at_)
  refresh key record stored member := by
    cases acted.refresh_from stored with
    | kept _ present => exact dead.refresh key record present member
    | revoked before at_ present => exact before.revoke_state at_
    | used before at_ present usable =>
      exact absurd usable (dead.not_usable present ((before.markUsed_same at_).family ▸ member) at_)
    | initial context _ at_ new => exact absurd (member ▸ new) dead.used.not_new
    | rotated presented found at_ present usable => exact absurd usable (dead.not_usable present member at_)

theorem stable_dead (family : TokenFamilyId) : Stable (rely d) fun h => Dead h.now.tokens family :=
  fun _ _ ⟨_,acted⟩ dead => dead_act acted dead

theorem dead_of_revokeRecords (used : InUse store family) (at_ : Instant) :
    Dead (store.revokeRecords family at_) family where
  used := by
    rcases used with ⟨key,record,stored,member⟩ | ⟨key,record,stored,member⟩
    · exact .inl ⟨key,record.revoke at_,by simp [TokenStore.revokeRecords,stored,member],by simp [member]⟩
    · exact .inr ⟨key,record.revoke at_,by simp [TokenStore.revokeRecords,stored,member],by simp [member]⟩
  access key record stored member := by
    obtain ⟨before,present,rfl⟩ := revokeRecords_access stored
    split
    · exact before.revoke_state at_
    · rename_i other
      simp [other] at member
  refresh key record stored member := by
    obtain ⟨before,present,rfl⟩ := revokeRecords_refresh stored
    split
    · exact before.revoke_state at_
    · rename_i other
      simp [other] at member

def Apart (store : TokenStore) : Prop :=
  ∀ key : TokenDigest,store.access[key]? = none ∨ store.refresh[key]? = none

theorem apart_act (acted : Act d born h store) (apart : Apart h.now.tokens) : Apart store := by
  cases acted with
  | keep => exact apart
  | initial context family at_ accessDigest refreshDigest new accessUnseen refreshUnseen distinct =>
    intro key
    by_cases here : accessDigest = key
    · subst here
      exact .inr (by simp only [Map.find_insert,distinct.symm,if_false,accessUnseen.2])
    · by_cases there : refreshDigest = key
      · subst there
        exact .inl (by simp only [Map.find_insert,here,if_false,refreshUnseen.1])
      · simpa only [Map.find_insert,here,there,if_false] using apart key
  | machine context family at_ digest source new unseen =>
    intro key
    by_cases here : digest = key
    · exact .inr (here ▸ unseen.2)
    · simpa only [Map.find_insert,here,if_false] using apart key
  | rotate presented found at_ accessDigest refreshDigest present usable accessUnseen refreshUnseen distinct =>
    have other : presented ≠ accessDigest := by
      rintro rfl
      rw [accessUnseen.2] at present
      cases present
    intro key
    by_cases here : accessDigest = key
    · subst here
      exact .inr (by simp only [Map.find_insert,distinct.symm,other,if_false,accessUnseen.2])
    · by_cases there : refreshDigest = key
      · subst there
        exact .inl (by simp only [Map.find_insert,here,if_false,refreshUnseen.1])
      · by_cases old : presented = key
        · subst old
          rcases apart presented with none_ | none_
          · exact .inl (by simp only [Map.find_insert,here,if_false,none_])
          · rw [present] at none_
            cases none_
        · simpa only [Map.find_insert,here,there,old,if_false] using apart key
  | retire family at_ =>
    intro key
    rcases apart key with none_ | none_
    · exact .inl (by simp [TokenStore.revokeRecords,none_])
    · exact .inr (by simp [TokenStore.revokeRecords,none_])
  | retireAccess digest record at_ present =>
    intro key
    by_cases here : digest = key
    · subst here
      rcases apart digest with none_ | none_
      · rw [present] at none_
        cases none_
      · exact .inr none_
    · simpa only [Map.find_insert,here,if_false] using apart key

theorem stable_apart : Stable (rely d) fun h => Apart h.now.tokens :=
  fun _ _ ⟨_,acted⟩ apart => apart_act acted apart

theorem apart_empty : Apart .empty := fun _ => .inl (by simp [TokenStore.empty])

inductive Ends (store : TokenStore) (family : TokenFamilyId) : TokenOp → Prop where
  | replay (presented : TokenDigest) (found : RefreshTokenRecord) (at_ : Instant)
      (access : AccessTokenRecord) (refresh : RefreshTokenRecord)
      (stored : store.refresh[presented]? = some found) (member : found.family = family)
      (stale : found.state = .used ∨ found.state = .revoked ∨ found.expiresAt ≤ at_) :
      Ends store family (.rotateRefresh presented at_ access refresh)
  | token (digest : TokenDigest) (record : RefreshTokenRecord) (at_ : Instant)
      (stored : store.refresh[digest]? = some record) (member : record.family = family) :
      Ends store family (.revokeToken digest at_)
  | family (at_ : Instant) (used : InUse store family) : Ends store family (.revokeFamily family at_)

theorem Ends.dead (ends : Ends store family op) (apart : Apart store) : Dead (op.exec store).2 family := by
  cases ends with
  | replay presented found at_ access refresh stored member stale =>
    have unusable : found.usableAt at_ = false := by
      rcases stale with used | revoked | expired
      · simp [RefreshTokenRecord.usableAt,used]
      · simp [RefreshTokenRecord.usableAt,revoked]
      · simp [RefreshTokenRecord.usableAt,expired]
    have revoked : (TokenStore.rotateRefresh presented at_ access refresh store).2 =
        store.revokeRecords family at_ := by
      simp only [TokenStore.rotateRefresh,stored,unusable,Bool.not_false,if_true,member]
    change Dead (TokenStore.rotateRefresh presented at_ access refresh store).2 family
    rw [revoked]
    exact dead_of_revokeRecords (.inr ⟨presented,found,stored,member⟩) at_
  | token digest record at_ stored member =>
    have free : store.access[digest]? = none := by
      rcases apart digest with none_ | none_
      · exact none_
      · rw [stored] at none_
        cases none_
    have revoked : (TokenStore.revokeToken digest at_ store).2 = store.revokeRecords family at_ := by
      simp only [TokenStore.revokeToken,free,stored,member]
    change Dead (TokenStore.revokeToken digest at_ store).2 family
    rw [revoked]
    exact dead_of_revokeRecords (.inr ⟨digest,record,stored,member⟩) at_
  | family at_ used => exact dead_of_revokeRecords used at_

-- Once an operation ended a family, nothing of it is usable in any state the run
-- reaches from there, calls that had already read its records included.
theorem family_stays_dead {w : State} {pool next later : TokenPool} (empty : w.tokens = .empty)
    (path : TokenRuns d (.start w) pool) {thread : Nat} {op : TokenOp}
    (moved : Step exec Fresh (TokenCall d) Drift pool (.act thread (.token op)) next)
    (ends : Ends pool.hist.now.tokens family op) (more : TokenRuns d next later) :
    (∀ (key : TokenDigest) (record : AccessTokenRecord),
      later.hist.now.tokens.access[key]? = some record → record.family = family → ∀ at_,record.usableAt at_ = false) ∧
    ∀ (key : TokenDigest) (record : RefreshTokenRecord),
      later.hist.now.tokens.refresh[key]? = some record → record.family = family →
        ∀ at_,record.usableAt at_ = false := by
  have apart : Apart pool.hist.now.tokens :=
    invariant stable_apart empty (by simpa [empty] using apart_empty) path
  have ended : Dead next.hist.now.tokens family := by
    cases moved with
    | act waiting admitted => exact ends.dead apart
  have dead : Dead later.hist.now.tokens family :=
    (grows empty (path.step moved) more).keep (stable_dead family) ended
  constructor
  · intro key record stored member
    exact AccessTokenRecord.not_usableAt_of_revoked (dead.access key record stored member)
  · intro key record stored member
    exact RefreshTokenRecord.not_usableAt_of_revoked (dead.refresh key record stored member)

def revokedBy : Op → Option (TokenDigest × Instant)
  | .token (.revokeToken digest now) => some (digest,now)
  | _ => none

theorem revokedBy_some {digest : TokenDigest} {now : Instant} (revoked : revokedBy op = some (digest,now)) : op = .token (.revokeToken digest now) := by
  unfold revokedBy at revoked
  split at revoked
  · cases revoked
    rfl
  · cases revoked

theorem family_stays_dead_inflight : ∃ pool next later : TokenPool,
      TokenRuns demoDeployment (.start (demoState ["f","a0","r0","a1","r1"])) pool ∧
      TokenRuns demoDeployment next later ∧
      (pool.hist.now.tokens.refresh.elements.map fun record => (record.family,record.state)) = [(⟨"f"⟩,.active)] ∧
      ∀ (key : TokenDigest) (record : RefreshTokenRecord),
        later.hist.now.tokens.refresh[key]? = some record → record.family = ⟨"f"⟩ →
          ∀ at_,record.usableAt at_ = false := by
  have played : playThrough exec (fun op h => decide (Fresh op h))
      (demoIssue ++ demoRefresh 1 3 "opr_r0" ++ [.enter _ (.revoke "opr_r0"),.act 2] :
        List (TokenMove demoDeployment)) 2 (List.replicate 4 (.act 1))
      (.start (demoState ["f","a0","r0","a1","r1"])) (fun pool op _ _ =>
        (pool.hist.now.tokens.refresh.elements.map fun record => (record.family,record.state)) ==
          [(⟨"f"⟩,.active)] &&
        (revokedBy op).any fun revoked =>
          pool.hist.now.tokens.refresh[revoked.1]?.any fun record => record.family == ⟨"f"⟩) = true := by
    decide
  obtain ⟨pool,op,next,later,path,moved,more,checked⟩ :=
    playThrough_reaches permitted_fresh played
  simp only [Bool.and_eq_true,beq_iff_eq] at checked
  obtain ⟨shown,named⟩ := checked
  obtain ⟨⟨digest,at_⟩,revoked,named⟩ := (Option.any_eq_true ..).mp named
  obtain ⟨record,stored,member⟩ := (Option.any_eq_true ..).mp named
  cases revokedBy_some revoked
  have ends : Ends pool.hist.now.tokens ⟨"f"⟩ (.revokeToken digest at_) :=
    .token digest record at_ stored (by simpa using member)
  exact ⟨pool,next,later,path,more,shown,(family_stays_dead rfl path moved ends more).2⟩

def Single (store : TokenStore) : Prop :=
  ∀ family,∃ client,
    (∀ (key : TokenDigest) (record : AccessTokenRecord),store.access[key]? = some record →
      record.family = family → record.context.client = client) ∧
    ∀ (key : TokenDigest) (record : RefreshTokenRecord),store.refresh[key]? = some record →
      record.family = family → record.context.client = client

-- What every store built through the token service satisfies.
structure WellFormed (store : TokenStore) : Prop where
  apart : Apart store
  single : Single store

theorem single_act_used (acted : Act d born h store) (used : InUse h.now.tokens family)
    (access : ∀ (key : TokenDigest) (record : AccessTokenRecord),h.now.tokens.access[key]? = some record →
      record.family = family → record.context.client = client)
    (refresh : ∀ (key : TokenDigest) (record : RefreshTokenRecord),h.now.tokens.refresh[key]? = some record →
      record.family = family → record.context.client = client) :
    (∀ (key : TokenDigest) (record : AccessTokenRecord),store.access[key]? = some record →
      record.family = family → record.context.client = client) ∧
    ∀ (key : TokenDigest) (record : RefreshTokenRecord),store.refresh[key]? = some record →
      record.family = family → record.context.client = client := by
  constructor
  · intro key record stored member
    cases acted.access_from stored with
    | kept _ present => exact access key record present member
    | revoked before at_ present =>
      rw [before.revoke_context]
      exact access key before present (before.revoke_family at_ ▸ member)
    | initial context _ at_ new => exact absurd (member ▸ new) used.not_new
    | machine context _ at_ source new timed => exact absurd (member ▸ new) used.not_new
    | rotated presented found at_ present usable => exact refresh presented found present member
  · intro key record stored member
    cases acted.refresh_from stored with
    | kept _ present => exact refresh key record present member
    | revoked before at_ present =>
      rw [(before.revoke_same at_).context]
      exact refresh key before present ((before.revoke_same at_).family ▸ member)
    | used before at_ present usable =>
      rw [(before.markUsed_same at_).context]
      exact refresh key before present ((before.markUsed_same at_).family ▸ member)
    | initial context _ at_ new => exact absurd (member ▸ new) used.not_new
    | rotated presented found at_ present usable => exact refresh presented found present member

theorem not_new_access {store : TokenStore} {key : TokenDigest} (stored : store.access[key]? = some record) : ¬NewFamily store record.family := fun new => new.1 key record stored rfl

theorem not_new_refresh {store : TokenStore} {key : TokenDigest} (stored : store.refresh[key]? = some record) : ¬NewFamily store record.family := fun new => new.2 key record stored rfl

theorem opened_client (acted : Act d born h store) : ∃ client,
    (∀ (key : TokenDigest) (record : AccessTokenRecord),store.access[key]? = some record →
      NewFamily h.now.tokens record.family → record.context.client = client) ∧
    ∀ (key : TokenDigest) (record : RefreshTokenRecord),store.refresh[key]? = some record →
      NewFamily h.now.tokens record.family → record.context.client = client := by
  cases acted with
  | keep =>
    exact ⟨⟨[]⟩,fun key record stored new => absurd new (not_new_access stored),
      fun key record stored new => absurd new (not_new_refresh stored)⟩
  | initial context family at_ accessDigest refreshDigest =>
    refine ⟨context.client,?_,?_⟩
    · intro key record stored new
      rcases Map.insert_cases stored with ⟨-,rfl⟩ | old
      · rfl
      · exact absurd new (not_new_access old)
    · intro key record stored new
      rcases Map.insert_cases stored with ⟨-,rfl⟩ | old
      · rfl
      · exact absurd new (not_new_refresh old)
  | machine context family at_ digest =>
    refine ⟨context.client,?_,fun key record stored new => absurd new (not_new_refresh stored)⟩
    intro key record stored new
    rcases Map.insert_cases stored with ⟨-,rfl⟩ | old
    · rfl
    · exact absurd new (not_new_access old)
  | rotate presented found at_ accessDigest refreshDigest present =>
    refine ⟨found.context.client,?_,?_⟩
    · intro key record stored new
      rcases Map.insert_cases stored with ⟨-,rfl⟩ | old
      · rfl
      · exact absurd new (not_new_access old)
    · intro key record stored new
      rcases Map.insert_cases stored with ⟨-,rfl⟩ | before
      · rfl
      · rcases Map.insert_cases before with ⟨-,rfl⟩ | old
        · rw [(found.markUsed_same at_).context]
        · exact absurd new (not_new_refresh old)
  | retire family at_ =>
    refine ⟨⟨[]⟩,?_,?_⟩
    · intro key record stored new
      obtain ⟨before,present,rfl⟩ := revokeRecords_access stored
      split at new
      · exact absurd (before.revoke_family at_ ▸ new) (not_new_access present)
      · exact absurd new (not_new_access present)
    · intro key record stored new
      obtain ⟨before,present,rfl⟩ := revokeRecords_refresh stored
      split at new
      · exact absurd (before.revoke_family at_ ▸ new) (not_new_refresh present)
      · exact absurd new (not_new_refresh present)
  | retireAccess digest before at_ present =>
    refine ⟨⟨[]⟩,?_,fun key record stored new => absurd new (not_new_refresh stored)⟩
    intro key record stored new
    rcases Map.insert_cases stored with ⟨-,rfl⟩ | old
    · exact absurd (before.revoke_family at_ ▸ new) (not_new_access present)
    · exact absurd new (not_new_access old)

theorem not_inUse (unused : ¬ InUse store family) : NewFamily store family :=
  ⟨fun key record stored member => unused (.inl ⟨key,record,stored,member⟩),
    fun key record stored member => unused (.inr ⟨key,record,stored,member⟩)⟩

theorem single_act (acted : Act d born h store) (single : Single h.now.tokens) : Single store := by
  intro family
  by_cases used : InUse h.now.tokens family
  · obtain ⟨client,access,refresh⟩ := single family
    exact ⟨client,single_act_used acted used access refresh⟩
  · obtain ⟨client,access,refresh⟩ := opened_client acted
    have new := not_inUse used
    exact ⟨client,fun key record stored member => access key record stored (member ▸ new),
      fun key record stored member => refresh key record stored (member ▸ new)⟩

theorem wellFormed_empty : WellFormed .empty where
  apart := apart_empty
  single _ := ⟨⟨[]⟩,by simp [TokenStore.empty],by simp [TokenStore.empty]⟩

theorem wellFormed_reached (empty : w.tokens = .empty) (path : TokenRuns d (.start w) pool) : WellFormed pool.hist.now.tokens :=
  invariant (φ:=fun h => WellFormed h.now.tokens)
    (fun _ _ ⟨_,acted⟩ formed => ⟨apart_act acted formed.apart,single_act acted formed.single⟩) empty
    (by simpa [empty] using wellFormed_empty) path

def owns (store : TokenStore) (clientId : ClientId) (key : TokenDigest) : Bool :=
  (store.access[key]?.any fun record => record.context.client = clientId)
    || store.refresh[key]?.any fun record => record.context.client = clientId

theorem findAccess_any : (store.findAccess key).toOption.any test = store.access[key]?.any test := by
  unfold TokenStore.findAccess
  cases store.access[key]? <;> rfl

theorem findRefresh_any : (store.findRefresh key).toOption.any test = store.refresh[key]?.any test := by
  unfold TokenStore.findRefresh
  cases store.refresh[key]? <;> rfl

theorem run_revokeDigest (key : TokenDigest) (w : State) :
    ((revokeDigest key).run exec w).2.tokens = (w.tokens.revokeToken key w.clock).2 := by
  simp only [revokeDigest,now,Prog.bind_eq,run_ask_bind,Prog.run_check,exec,TokenOp.exec]

theorem run_revokeForClient : ((revokeForClient d clientId token).run exec w).2.tokens = match digest d token with
      | .error _ => w.tokens
      | .ok key => if owns w.tokens clientId key then (w.tokens.revokeToken key w.clock).2 else w.tokens := by
  unfold revokeForClient
  cases digest d token with
  | error e => rfl
  | ok key =>
    simp only [Prog.bind_eq,run_ask_bind,exec,TokenOp.exec,findAccess_any,owns,Bool.or_eq_true]
    by_cases access : (w.tokens.access[key]?.any fun record => record.context.client = clientId) = true
    · simp only [access,if_true,true_or]
      exact run_revokeDigest key w
    · simp only [access,Bool.false_eq_true,if_false,false_or,run_ask_bind,exec,TokenOp.exec,findRefresh_any]
      by_cases refresh : (w.tokens.refresh[key]?.any fun record => record.context.client = clientId) = true
      · simp only [refresh,if_true]
        exact run_revokeDigest key w
      · simp only [refresh,Bool.false_eq_true,if_false,Prog.run_ret]

theorem revoked_access (hashed : digest d token = .ok presented) (stored : w.tokens.access[presented]? = some owned)
    (client : owned.context.client = clientId) : ((revokeForClient d clientId token).run exec w).2.tokens =
      ⟨w.tokens.access.insert presented (owned.revoke w.clock),w.tokens.refresh⟩ := by
  rw [run_revokeForClient,hashed]
  simp only [owns,stored,Option.any_some,client,decide_true,Bool.true_or,if_true,TokenStore.revokeToken]

theorem revoked_refresh (apart : Apart w.tokens) (hashed : digest d token = .ok presented)
    (stored : w.tokens.refresh[presented]? = some owned) (client : owned.context.client = clientId) :
    ((revokeForClient d clientId token).run exec w).2.tokens = w.tokens.revokeRecords owned.family w.clock := by
  have free : w.tokens.access[presented]? = none := by
    rcases apart presented with none_ | none_
    · exact none_
    · rw [stored] at none_
      cases none_
  rw [run_revokeForClient,hashed]
  simp only [owns,stored,free,Option.any_some,Option.any_none,client,decide_true,Bool.or_true,if_true,
    TokenStore.revokeToken]

theorem revoked_nothing (foreign : ∀ presented : TokenDigest,digest d token = .ok presented →
      (∀ record,w.tokens.access[presented]? = some record → record.context.client ≠ clientId) ∧
      ∀ record,w.tokens.refresh[presented]? = some record → record.context.client ≠ clientId) :
    ((revokeForClient d clientId token).run exec w).2.tokens = w.tokens := by
  rw [run_revokeForClient]
  cases hashed : digest d token with
  | error e => rfl
  | ok presented =>
    obtain ⟨access,refresh⟩ := foreign presented hashed
    have nobody : owns w.tokens clientId presented = false := by
      simp only [owns,Bool.or_eq_false_iff,Option.any_eq_false,decide_eq_false_iff_not]
      exact ⟨access,refresh⟩
    simp only [nobody,Bool.false_eq_true,if_false]

theorem revokeForClient_cases (d : Deployment) (clientId : ClientId) (token : Text) (w : State) :
    (∃ (presented : TokenDigest) (owned : AccessTokenRecord),digest d token = .ok presented ∧
      w.tokens.access[presented]? = some owned ∧ owned.context.client = clientId) ∨
    (∃ (presented : TokenDigest) (owned : RefreshTokenRecord),digest d token = .ok presented ∧
      w.tokens.refresh[presented]? = some owned ∧ owned.context.client = clientId) ∨
    ∀ presented : TokenDigest,digest d token = .ok presented →
      (∀ record,w.tokens.access[presented]? = some record → record.context.client ≠ clientId) ∧
      ∀ record,w.tokens.refresh[presented]? = some record → record.context.client ≠ clientId := by
  by_cases access : ∃ (presented : TokenDigest) (owned : AccessTokenRecord),digest d token = .ok presented ∧
      w.tokens.access[presented]? = some owned ∧ owned.context.client = clientId
  · exact .inl access
  · by_cases refresh : ∃ (presented : TokenDigest) (owned : RefreshTokenRecord),
        digest d token = .ok presented ∧ w.tokens.refresh[presented]? = some owned ∧
          owned.context.client = clientId
    · exact .inr (.inl refresh)
    · refine .inr (.inr fun presented hashed => ⟨?_,?_⟩)
      · exact fun record stored client => access ⟨presented,record,hashed,stored,client⟩
      · exact fun record stored client => refresh ⟨presented,record,hashed,stored,client⟩

theorem WellFormed.foreign_access {store : TokenStore} (formed : WellFormed store) {presented key : TokenDigest}
    (present : store.refresh[presented]? = some owned) (stored : store.access[key]? = some record)
    (foreign : record.context.client ≠ owned.context.client) : record.family ≠ owned.family := by
  obtain ⟨client,access,refresh⟩ := formed.single owned.family
  intro same
  exact foreign ((access key record stored same).trans (refresh presented owned present rfl).symm)

theorem WellFormed.foreign_refresh {store : TokenStore} (formed : WellFormed store) {presented key : TokenDigest}
    (present : store.refresh[presented]? = some owned) (stored : store.refresh[key]? = some record)
    (foreign : record.context.client ≠ owned.context.client) : record.family ≠ owned.family := by
  obtain ⟨client,access,refresh⟩ := formed.single owned.family
  intro same
  exact foreign ((refresh key record stored same).trans (refresh presented owned present rfl).symm)

theorem foreign_access_kept (formed : WellFormed w.tokens) {key : TokenDigest}
    (stored : w.tokens.access[key]? = some record) (foreign : record.context.client ≠ clientId) :
    ((revokeForClient d clientId token).run exec w).2.tokens.access[key]? = some record := by
  rcases revokeForClient_cases d clientId token w with
    ⟨presented,owned,hashed,present,client⟩ | ⟨presented,owned,hashed,present,client⟩ | nobody
  · have other : presented ≠ key := by
      rintro rfl
      rw [present] at stored
      cases stored
      exact foreign client
    rw [revoked_access hashed present client]
    simp only [Map.find_insert,other,if_false,stored]
  · have other := formed.foreign_access present stored (client ▸ foreign)
    rw [revoked_refresh formed.apart hashed present client]
    simp only [TokenStore.revokeRecords,Map.find_map,stored,Option.map_some,other,if_false]
  · rw [revoked_nothing nobody]
    exact stored

theorem foreign_refresh_kept (formed : WellFormed w.tokens) {key : TokenDigest}
    (stored : w.tokens.refresh[key]? = some record) (foreign : record.context.client ≠ clientId) :
    ((revokeForClient d clientId token).run exec w).2.tokens.refresh[key]? = some record := by
  rcases revokeForClient_cases d clientId token w with
    ⟨presented,owned,hashed,present,client⟩ | ⟨presented,owned,hashed,present,client⟩ | nobody
  · rw [revoked_access hashed present client]
    exact stored
  · have other := formed.foreign_refresh present stored (client ▸ foreign)
    rw [revoked_refresh formed.apart hashed present client]
    simp only [TokenStore.revokeRecords,Map.find_map,stored,Option.map_some,other,if_false]
  · rw [revoked_nothing nobody]
    exact stored

-- The whole effect of one call on a well-formed store.
theorem revokeForClient_frame (clientId : ClientId) (token : Text) (w : State) (formed : WellFormed w.tokens) :
    (∀ (key : TokenDigest) (record : AccessTokenRecord),w.tokens.access[key]? = some record →
      record.context.client ≠ clientId →
        ((revokeForClient d clientId token).run exec w).2.tokens.access[key]? = some record) ∧
    (∀ (key : TokenDigest) (record : RefreshTokenRecord),w.tokens.refresh[key]? = some record →
      record.context.client ≠ clientId →
        ((revokeForClient d clientId token).run exec w).2.tokens.refresh[key]? = some record) ∧
    (∀ (presented : TokenDigest) (owned : AccessTokenRecord),digest d token = .ok presented →
      w.tokens.access[presented]? = some owned → owned.context.client = clientId →
        ((revokeForClient d clientId token).run exec w).2.tokens.access[presented]? = some (owned.revoke w.clock) ∧
          (∀ key,key ≠ presented → ((revokeForClient d clientId token).run exec w).2.tokens.access[key]? =
            w.tokens.access[key]?) ∧
          ∀ key : TokenDigest,((revokeForClient d clientId token).run exec w).2.tokens.refresh[key]? =
            w.tokens.refresh[key]?) ∧
    (∀ (presented : TokenDigest) (owned : RefreshTokenRecord),digest d token = .ok presented →
      w.tokens.refresh[presented]? = some owned → owned.context.client = clientId →
        (∀ key : TokenDigest,((revokeForClient d clientId token).run exec w).2.tokens.access[key]? =
          w.tokens.access[key]?.map fun record =>
            if record.family = owned.family then record.revoke w.clock else record) ∧
        ∀ key : TokenDigest,((revokeForClient d clientId token).run exec w).2.tokens.refresh[key]? =
          w.tokens.refresh[key]?.map fun record =>
            if record.family = owned.family then record.revoke w.clock else record) ∧
    ((∀ presented : TokenDigest,digest d token = .ok presented →
        (∀ record,w.tokens.access[presented]? = some record → record.context.client ≠ clientId) ∧
        ∀ record,w.tokens.refresh[presented]? = some record → record.context.client ≠ clientId) →
      ((revokeForClient d clientId token).run exec w).2.tokens = w.tokens) := by
  refine ⟨fun _ _ => foreign_access_kept formed,fun _ _ => foreign_refresh_kept formed,?_,?_,revoked_nothing⟩
  · intro presented owned hashed stored client
    rw [revoked_access hashed stored client]
    refine ⟨by simp only [Map.find_insert,if_true],?_,fun _ => rfl⟩
    intro key other
    simp only [Map.find_insert,other.symm,if_false]
  · intro presented owned hashed stored client
    rw [revoked_refresh formed.apart hashed stored client]
    exact ⟨fun key => by simp [TokenStore.revokeRecords],fun key => by simp [TokenStore.revokeRecords]⟩

theorem revokeForClient_frame_issued :
    ∃ pool : TokenPool,TokenRuns demoDeployment (.start (demoState ["f","a0","r0"])) pool ∧
      ∃ (presented : TokenDigest) (owned : RefreshTokenRecord), digest demoDeployment "opr_r0" = .ok presented ∧
        pool.hist.now.tokens.refresh[presented]? = some owned ∧ owned.context.client = ⟨"web"⟩ ∧ ∀ key : TokenDigest,
          ((revokeForClient demoDeployment ⟨"web"⟩ "opr_r0").run exec pool.hist.now).2.tokens.refresh[key]? =
            pool.hist.now.tokens.refresh[key]?.map fun record =>
              if record.family = owned.family then record.revoke pool.hist.now.clock else record := by
  have hashed : digest demoDeployment "opr_r0" = .ok 0x6f70725f7230 := by decide
  have played : (playTokens demoIssue (demoState ["f","a0","r0"])).any (fun pool =>
      pool.hist.now.tokens.refresh[(0x6f70725f7230 : TokenDigest)]?.any fun record =>
        record.context.client == ⟨"web"⟩) = true := by decide
  obtain ⟨pool,path,checked⟩ := playTokens_reaches played
  obtain ⟨owned,stored,client⟩ := (Option.any_eq_true ..).mp checked
  have formed := wellFormed_reached rfl path
  have effect := (revokeForClient_frame ⟨"web"⟩ "opr_r0" pool.hist.now formed).2.2.2.1 _ owned hashed stored
    (by simpa using client)
  exact ⟨pool,path,_,owned,hashed,stored,by simpa using client,effect.2⟩

def demoContext (client : Text) : TokenContext :=
  { contextOfCode demoCode none with client := ⟨client⟩ }

-- One digest (that of the token `t`) names an access record of `bob` and a refresh record of `web`.
def collidingStore : TokenStore where
  access := (∅ : Map TokenDigest AccessTokenRecord).insert 116 (.fresh 116 ⟨"g"⟩ (demoContext "bob") 0 100)
  refresh := (∅ : Map TokenDigest RefreshTokenRecord).insert 116 (.fresh 116 ⟨"f"⟩ 0 (demoContext "web") 0 1000)

-- On such a store the client `web` revokes the token of `bob`.
theorem revokeForClient_reaches_foreign :
    ¬ ∀ (d : Deployment) (clientId : ClientId) (token : Text) (w : State) (key : TokenDigest)
      (record : AccessTokenRecord),w.tokens.access[key]? = some record → record.context.client ≠ clientId →
        ((revokeForClient d clientId token).run exec w).2.tokens.access[key]? = some record := by
  intro framed
  have kept := framed demoDeployment ⟨"web"⟩ "t" { demoState [] with tokens := collidingStore } 116
    (.fresh 116 ⟨"g"⟩ (demoContext "bob") 0 100) (by decide) (by decide)
  exact absurd kept (by decide)

end OpenProof.TokenRevocation
