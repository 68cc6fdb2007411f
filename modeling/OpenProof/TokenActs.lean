import OpenProof.TokenService

namespace OpenProof.TokenActs
open AtomicPrograms Foundation World Services TokenService AtomicPrograms.Prog Identities Applications Clients
open Resources Authorizations
open Tokens

def NewFamily (store : TokenStore) (family : TokenFamilyId) : Prop :=
  (∀ (key : TokenDigest) (record : AccessTokenRecord),store.access[key]? = some record → record.family ≠ family) ∧
    ∀ (key : TokenDigest) (record : RefreshTokenRecord),store.refresh[key]? = some record → record.family ≠ family

def Unseen (store : TokenStore) (digest : TokenDigest) : Prop :=
  store.access[digest]? = none ∧ store.refresh[digest]? = none

def Fresh : Op → History State → Prop
  | .token (.storeInitial access refresh),h =>
    NewFamily h.now.tokens access.family ∧ Unseen h.now.tokens access.digest ∧
      Unseen h.now.tokens refresh.digest ∧ access.digest ≠ refresh.digest
  | .token (.storeAccessOnly access),h =>
    NewFamily h.now.tokens access.family ∧ Unseen h.now.tokens access.digest
  | .token (.rotateRefresh _ _ access refresh),h =>
    Unseen h.now.tokens access.digest ∧ Unseen h.now.tokens refresh.digest ∧
      access.digest ≠ refresh.digest
  | _,_ => True

instance (store : TokenStore) (family : TokenFamilyId) : Decidable (NewFamily store family) :=
  decidable_of_iff ((∀ record ∈ store.access.elements,record.family ≠ family) ∧
      ∀ record ∈ store.refresh.elements,record.family ≠ family) (by
    simp only [NewFamily,Map.mem_elements,forall_exists_index]
    exact ⟨fun new => ⟨fun key record => new.1 record key,fun key record => new.2 record key⟩,
      fun new => ⟨fun record key => new.1 key record,fun record key => new.2 key record⟩⟩)

instance (store : TokenStore) (digest : TokenDigest) : Decidable (Unseen store digest) :=
  inferInstanceAs (Decidable (_ ∧ _))

instance : (op : Op) → (h : History State) → Decidable (Fresh op h)
  | .token (.storeInitial ..),_ => inferInstanceAs (Decidable (_ ∧ _))
  | .token (.storeAccessOnly _),_ => inferInstanceAs (Decidable (_ ∧ _))
  | .token (.rotateRefresh ..),_ => inferInstanceAs (Decidable (_ ∧ _))
  | .token (.findAccess _),_ | .token (.findRefresh _),_ => .isTrue trivial
  | .token (.revokeFamily ..),_ | .token (.revokeToken ..),_ => .isTrue trivial
  | .now,_ | .random _,_ | .surrounding _,_ | .identity _,_ | .application _,_ | .client _,_
  | .resource _,_ | .consent _,_ | .code _,_ | .pushed _,_ | .device _,_ | .jar _,_ => .isTrue trivial

-- Where the context of an access-only token comes from.
inductive Source (born : Nat) (h : History State) : TokenContext → Prop where
  | credentials (service : ServiceIdentity) (audience : Text) (scopes : List Text)
      (senderConstraint : Option SenderConstraint) (at_ : Instant)
      (audienceHeld : audience ∈ service.audiences.items)
      (scopesHeld : ∀ scope ∈ scopes,scope ∈ service.scopes.items) :
      Source born h (machineContext service audience scopes senderConstraint at_)
  | exchange (key : TokenDigest) (record : AccessTokenRecord) (clientId : ClientId) (audience : Text)
      (scopes : List Text) (senderConstraint : Option SenderConstraint)
      (stored : Witnessed born (fun w => w.tokens.access[key]? = some record) h)
      (usable : Witnessed born (fun w => record.usableAt w.clock = true) h)
      (accepted : Exchangeable record.context clientId audience scopes senderConstraint) :
      Source born h (exchangeContext clientId record.context audience scopes senderConstraint)

-- Everything one step of a token call can do to the token store.
inductive Act (d : Deployment) (born : Nat) (h : History State) : TokenStore → Prop where
  | keep : Act d born h h.now.tokens
  | initial (context : TokenContext) (family : TokenFamilyId) (at_ : Instant)
      (accessDigest refreshDigest : TokenDigest) (new : NewFamily h.now.tokens family)
      (accessUnseen : Unseen h.now.tokens accessDigest)
      (refreshUnseen : Unseen h.now.tokens refreshDigest) (apart : accessDigest ≠ refreshDigest) :
      Act d born h
        { access := h.now.tokens.access.insert accessDigest
            (.fresh accessDigest family context at_ (at_+d.accessLifetime))
          refresh := h.now.tokens.refresh.insert refreshDigest
            (.fresh refreshDigest family 0 context at_ (at_+d.refreshLifetime)) }
  | machine (context : TokenContext) (family : TokenFamilyId) (at_ : Instant) (digest : TokenDigest)
      (source : Source born h context) (new : NewFamily h.now.tokens family)
      (unseen : Unseen h.now.tokens digest) (timed : Witnessed born (fun w => w.clock = at_) h) :
      Act d born h
        { access := h.now.tokens.access.insert digest
            (.fresh digest family context at_ (at_+d.accessLifetime))
          refresh := h.now.tokens.refresh }
  | rotate (presented : TokenDigest) (found : RefreshTokenRecord) (at_ : Instant)
      (accessDigest refreshDigest : TokenDigest)
      (stored : h.now.tokens.refresh[presented]? = some found) (usable : found.usableAt at_ = true)
      (accessUnseen : Unseen h.now.tokens accessDigest)
      (refreshUnseen : Unseen h.now.tokens refreshDigest) (apart : accessDigest ≠ refreshDigest) :
      Act d born h
        { access := h.now.tokens.access.insert accessDigest
            (.fresh accessDigest found.family found.context at_ (at_+d.accessLifetime))
          refresh := (h.now.tokens.refresh.insert presented (found.markUsed at_)).insert refreshDigest
            (.fresh refreshDigest found.family (found.sequence+1) found.context at_ found.expiresAt) }
  | retire (family : TokenFamilyId) (at_ : Instant) :
      Act d born h (h.now.tokens.revokeRecords family at_)
  | retireAccess (digest : TokenDigest) (record : AccessTokenRecord) (at_ : Instant)
      (stored : h.now.tokens.access[digest]? = some record) :
      Act d born h
        { access := h.now.tokens.access.insert digest (record.revoke at_)
          refresh := h.now.tokens.refresh }

def guar (d : Deployment) (born : Nat) (h : History State) (w : State) : Prop := Act d born h w.tokens
def rely (d : Deployment) (h : History State) (w : State) : Prop := ∃ born,Act d born h w.tokens

-- The contract every token call is written against.
abbrev contract (d : Deployment) : Contract Op Op.Ret State := Shared Fresh (rely d) (guar d)

theorem honest (d : Deployment) : (contract d).Honest := fun born _ _ acted => ⟨born,acted⟩

theorem guar_of_same (same : w.tokens = h.now.tokens) : guar d born h w := by
  unfold guar
  rw [same]
  exact .keep

theorem quiet (op : Op) (later : History State) (reading : op.reads = true) (_ : Fresh op later) :
    guar d born later (exec op later.now).2 := guar_of_same (exec_reads reading later.now).tokens

theorem Act.refresh_kept (acted : Act d born h store) {key : TokenDigest}
    (stored : h.now.tokens.refresh[key]? = some record) :
    ∃ after,store.refresh[key]? = some after ∧ RefreshTokenRecord.SameGrant record after := by
  cases acted with
  | keep => exact ⟨record,stored,.refl record⟩
  | initial context family at_ accessDigest refreshDigest new accessUnseen refreshUnseen apart =>
    have other : refreshDigest ≠ key := by
      rintro rfl
      rw [refreshUnseen.2] at stored
      cases stored
    exact ⟨record,by simp only [Map.find_insert,other,if_false,stored],.refl record⟩
  | machine => exact ⟨record,stored,.refl record⟩
  | rotate presented found at_ accessDigest refreshDigest present usable accessUnseen refreshUnseen apart =>
    have other : refreshDigest ≠ key := by
      rintro rfl
      rw [refreshUnseen.2] at stored
      cases stored
    by_cases same : presented = key
    · subst same
      rw [present] at stored
      cases stored
      refine ⟨record.markUsed at_,?_,record.markUsed_same at_⟩
      simp only [Map.find_insert,other,if_false,if_true]
    · exact ⟨record,by simp only [Map.find_insert,other,same,if_false,stored],.refl record⟩
  | retire family at_ =>
    refine ⟨if record.family = family then record.revoke at_ else record,?_,?_⟩
    · simp [TokenStore.revokeRecords,stored]
    · split
      · exact record.revoke_same at_
      · exact .refl record
  | retireAccess => exact ⟨record,stored,.refl record⟩

theorem Act.access_kept (acted : Act d born h store) {key : TokenDigest}
    (stored : h.now.tokens.access[key]? = some record) :
    ∃ after,store.access[key]? = some after ∧ (after = record ∨ ∃ at_,after = record.revoke at_) := by
  have unchanged : ∀ {digest : TokenDigest} {new : AccessTokenRecord},
      h.now.tokens.access[digest]? = none → (h.now.tokens.access.insert digest new)[key]? = some record := by
    intro digest new unseen
    have other : digest ≠ key := by
      rintro rfl
      rw [unseen] at stored
      cases stored
    simp only [Map.find_insert,other,if_false,stored]
  cases acted with
  | keep => exact ⟨record,stored,.inl rfl⟩
  | initial context family at_ accessDigest refreshDigest new accessUnseen =>
    exact ⟨record,unchanged accessUnseen.1,.inl rfl⟩
  | machine context family at_ digest source new unseen => exact ⟨record,unchanged unseen.1,.inl rfl⟩
  | rotate presented found at_ accessDigest refreshDigest present usable accessUnseen =>
    exact ⟨record,unchanged accessUnseen.1,.inl rfl⟩
  | retire family at_ =>
    refine ⟨if record.family = family then record.revoke at_ else record,?_,?_⟩
    · simp [TokenStore.revokeRecords,stored]
    · split
      · exact .inr ⟨at_,rfl⟩
      · exact .inl rfl
  | retireAccess digest before at_ present =>
    by_cases same : digest = key
    · subst same
      rw [present] at stored
      cases stored
      exact ⟨record.revoke at_,by simp only [Map.find_insert,if_true],.inr ⟨at_,rfl⟩⟩
    · exact ⟨record,by simp only [Map.find_insert,same,if_false,stored],.inl rfl⟩

def Keyed (store : TokenStore) : Prop :=
  (∀ (key : TokenDigest) (record : AccessTokenRecord),store.access[key]? = some record → record.digest = key) ∧
    ∀ (key : TokenDigest) (record : RefreshTokenRecord),store.refresh[key]? = some record → record.digest = key

theorem revokeRecords_refresh {store : TokenStore} {key : TokenDigest}
    (stored : (store.revokeRecords family at_).refresh[key]? = some after) :
    ∃ before,store.refresh[key]? = some before ∧
      after = if before.family = family then before.revoke at_ else before := by
  simp only [TokenStore.revokeRecords,Map.find_map,Option.map_eq_some_iff] at stored
  obtain ⟨before,present,rfl⟩ := stored
  exact ⟨before,present,rfl⟩

theorem revokeRecords_access {store : TokenStore} {key : TokenDigest}
    (stored : (store.revokeRecords family at_).access[key]? = some after) :
    ∃ before,store.access[key]? = some before ∧
      after = if before.family = family then before.revoke at_ else before := by
  simp only [TokenStore.revokeRecords,Map.find_map,Option.map_eq_some_iff] at stored
  obtain ⟨before,present,rfl⟩ := stored
  exact ⟨before,present,rfl⟩

-- Where a stored access record comes from, seen one step later.
inductive AccessOrigin (d : Deployment) (born : Nat) (h : History State) (key : TokenDigest) :
    AccessTokenRecord → Prop where
  | kept (record : AccessTokenRecord) (stored : h.now.tokens.access[key]? = some record) :
      AccessOrigin d born h key record
  | revoked (before : AccessTokenRecord) (at_ : Instant) (stored : h.now.tokens.access[key]? = some before) :
      AccessOrigin d born h key (before.revoke at_)
  | initial (context : TokenContext) (family : TokenFamilyId) (at_ : Instant)
      (new : NewFamily h.now.tokens family) :
      AccessOrigin d born h key (.fresh key family context at_ (at_+d.accessLifetime))
  | machine (context : TokenContext) (family : TokenFamilyId) (at_ : Instant) (source : Source born h context)
      (new : NewFamily h.now.tokens family) (timed : Witnessed born (fun w => w.clock = at_) h) :
      AccessOrigin d born h key (.fresh key family context at_ (at_+d.accessLifetime))
  | rotated (presented : TokenDigest) (found : RefreshTokenRecord) (at_ : Instant)
      (stored : h.now.tokens.refresh[presented]? = some found) (usable : found.usableAt at_ = true) :
      AccessOrigin d born h key (.fresh key found.family found.context at_ (at_+d.accessLifetime))

theorem Act.access_from {store : TokenStore} (acted : Act d born h store) {key : TokenDigest}
    (stored : store.access[key]? = some record) : AccessOrigin d born h key record := by
  cases acted with
  | keep => exact .kept record stored
  | initial context family at_ accessDigest refreshDigest new =>
    obtain ⟨rfl,rfl⟩ | stored := Map.insert_cases stored
    · exact .initial context family at_ new
    · exact .kept record stored
  | machine context family at_ digest source new unseen timed =>
    obtain ⟨rfl,rfl⟩ | stored := Map.insert_cases stored
    · exact .machine context family at_ source new timed
    · exact .kept record stored
  | rotate presented found at_ accessDigest refreshDigest present usable =>
    obtain ⟨rfl,rfl⟩ | stored := Map.insert_cases stored
    · exact .rotated presented found at_ present usable
    · exact .kept record stored
  | retire family at_ =>
    obtain ⟨before,present,rfl⟩ := revokeRecords_access stored
    split
    · exact .revoked before at_ present
    · exact .kept before present
  | retireAccess digest before at_ present =>
    obtain ⟨rfl,rfl⟩ | stored := Map.insert_cases stored
    · exact .revoked before at_ present
    · exact .kept record stored

inductive RefreshOrigin (d : Deployment) (h : History State) (key : TokenDigest) :
    RefreshTokenRecord → Prop where
  | kept (record : RefreshTokenRecord) (stored : h.now.tokens.refresh[key]? = some record) :
      RefreshOrigin d h key record
  | revoked (before : RefreshTokenRecord) (at_ : Instant) (stored : h.now.tokens.refresh[key]? = some before) :
      RefreshOrigin d h key (before.revoke at_)
  | used (before : RefreshTokenRecord) (at_ : Instant) (stored : h.now.tokens.refresh[key]? = some before)
      (usable : before.usableAt at_ = true) :
      RefreshOrigin d h key (before.markUsed at_)
  | initial (context : TokenContext) (family : TokenFamilyId) (at_ : Instant)
      (new : NewFamily h.now.tokens family) :
      RefreshOrigin d h key (.fresh key family 0 context at_ (at_+d.refreshLifetime))
  | rotated (presented : TokenDigest) (found : RefreshTokenRecord) (at_ : Instant)
      (stored : h.now.tokens.refresh[presented]? = some found) (usable : found.usableAt at_ = true) :
      RefreshOrigin d h key (.fresh key found.family (found.sequence+1) found.context at_ found.expiresAt)

theorem Act.refresh_from {store : TokenStore} (acted : Act d born h store) {key : TokenDigest}
    (stored : store.refresh[key]? = some record) : RefreshOrigin d h key record := by
  cases acted with
  | keep => exact .kept record stored
  | initial context family at_ accessDigest refreshDigest new =>
    obtain ⟨rfl,rfl⟩ | stored := Map.insert_cases stored
    · exact .initial context family at_ new
    · exact .kept record stored
  | machine => exact .kept record stored
  | rotate presented found at_ accessDigest refreshDigest present usable =>
    obtain ⟨rfl,rfl⟩ | stored := Map.insert_cases stored
    · exact .rotated presented found at_ present usable
    · obtain ⟨rfl,rfl⟩ | stored := Map.insert_cases stored
      · exact .used found at_ present usable
      · exact .kept record stored
  | retire family at_ =>
    obtain ⟨before,present,rfl⟩ := revokeRecords_refresh stored
    split
    · exact .revoked before at_ present
    · exact .kept before present
  | retireAccess => exact .kept record stored

theorem Act.keyed (acted : Act d born h store) (keyed : Keyed h.now.tokens) : Keyed store := by
  constructor
  · intro key record stored
    cases acted.access_from stored with
    | kept _ present => exact keyed.1 key record present
    | revoked before at_ present => exact (before.revoke_digest at_).trans (keyed.1 key before present)
    | initial | machine | rotated => rfl
  · intro key record stored
    cases acted.refresh_from stored with
    | kept _ present => exact keyed.2 key record present
    | revoked before at_ present => exact (before.revoke_same at_).digest.trans (keyed.2 key before present)
    | used before at_ present => exact (before.markUsed_same at_).digest.trans (keyed.2 key before present)
    | initial | rotated => rfl

theorem stable_keyed : Stable (rely d) fun h => Keyed h.now.tokens :=
  fun _ _ ⟨_,acted⟩ keyed => acted.keyed keyed

def Current (current : RefreshTokenRecord) (h : History State) : Prop :=
  ∃ found,h.now.tokens.refresh[current.digest]? = some found ∧
    RefreshTokenRecord.SameGrant current found

theorem stable_current (current : RefreshTokenRecord) : Stable (rely d) (Current current) := by
  rintro h w ⟨born,acted⟩ ⟨found,stored,same⟩
  obtain ⟨after,present,kept⟩ := acted.refresh_kept stored
  exact ⟨after,present,same.trans kept⟩

theorem storeInitial_act (context : TokenContext) (family : TokenFamilyId) (at_ : Instant)
    (accessDigest refreshDigest : TokenDigest)
    (fresh : Fresh (.token (.storeInitial (.fresh accessDigest family context at_ (at_+d.accessLifetime))
      (.fresh refreshDigest family 0 context at_ (at_+d.refreshLifetime)))) h) :
    Act d born h (h.now.tokens.storeInitial (.fresh accessDigest family context at_ (at_+d.accessLifetime))
      (.fresh refreshDigest family 0 context at_ (at_+d.refreshLifetime))).2 := by
  obtain ⟨new,accessUnseen,refreshUnseen,apart⟩ := fresh
  unfold TokenStore.storeInitial
  split
  · exact .keep
  · exact .initial context family at_ accessDigest refreshDigest new accessUnseen refreshUnseen apart

theorem storeAccessOnly_act (context : TokenContext) (family : TokenFamilyId) (at_ : Instant)
    (digest : TokenDigest) (source : Source born h context) (timed : Witnessed born (fun w => w.clock = at_) h)
    (fresh : Fresh (.token (.storeAccessOnly (.fresh digest family context at_ (at_+d.accessLifetime)))) h) :
    Act d born h (h.now.tokens.storeAccessOnly (.fresh digest family context at_ (at_+d.accessLifetime))).2 := by
  obtain ⟨new,unseen⟩ := fresh
  unfold TokenStore.storeAccessOnly
  split
  · exact .keep
  · exact .machine context family at_ digest source new unseen timed

theorem rotateRefresh_act (current : RefreshTokenRecord) (at_ : Instant)
    (accessDigest refreshDigest : TokenDigest) (known : Current current h)
    (fresh : Fresh (.token (.rotateRefresh current.digest at_
      (.fresh accessDigest current.family current.context at_ (at_+d.accessLifetime))
      (.fresh refreshDigest current.family (current.sequence+1) current.context at_ current.expiresAt))) h) :
    Act d born h (h.now.tokens.rotateRefresh current.digest at_
      (.fresh accessDigest current.family current.context at_ (at_+d.accessLifetime))
      (.fresh refreshDigest current.family (current.sequence+1) current.context at_ current.expiresAt)).2 := by
  obtain ⟨accessUnseen,refreshUnseen,apart⟩ := fresh
  obtain ⟨found,stored,same⟩ := known
  unfold TokenStore.rotateRefresh
  rw [stored]
  dsimp only
  split
  · exact .retire found.family at_
  · rename_i alive
    split
    · exact .keep
    · split
      · exact .keep
      · rw [← same.family,← same.context,← same.sequence,← same.expiresAt]
        exact .rotate current.digest found at_ accessDigest refreshDigest stored (by simpa using alive)
          accessUnseen refreshUnseen apart

theorem revokeToken_act (digest : TokenDigest) (at_ : Instant) :
    Act d born h (h.now.tokens.revokeToken digest at_).2 := by
  unfold TokenStore.revokeToken
  split
  · rename_i record stored
    exact .retireAccess digest record at_ stored
  · split
    · rename_i record stored
      exact .retire record.family at_
    · exact .keep

-- `TokenRepository::revokeFamily`, which no `TokenService` method calls.
def revokeFamily (family : TokenFamilyId) : Call Unit := do
  let at_ ← now
  check (← ask (.token (.revokeFamily family at_)))

abbrev TokenThread := Prog Op Op.Ret Unit Unit

-- The calls that may run side by side on one token repository.
inductive TokenCall (d : Deployment) : TokenThread → Prop where
  | issue (code : AuthorizationCode) (senderConstraint : Option SenderConstraint) :
      TokenCall d (issue d code senderConstraint).discard
  | issueDeviceAuthorization (authorization : DeviceAuthorization)
      (senderConstraint : Option SenderConstraint) :
      TokenCall d (issueDeviceAuthorization d authorization senderConstraint).discard
  | issueClientCredentials (service : ServiceIdentity) (audience : Text) (scopes : List Text)
      (senderConstraint : Option SenderConstraint) :
      TokenCall d (issueClientCredentials d service audience scopes senderConstraint).discard
  | issueTokenExchange (clientId : ClientId) (subjectToken audience : Text) (scopes : List Text)
      (senderConstraint : Option SenderConstraint) :
      TokenCall d (issueTokenExchange d clientId subjectToken audience scopes senderConstraint).discard
  | refresh (clientId : ClientId) (refreshToken : Text) (senderConstraint : Option SenderConstraint) :
      TokenCall d (refresh d clientId refreshToken senderConstraint).discard
  | introspect (accessToken : Text) : TokenCall d (introspect d accessToken).discard
  | revoke (token : Text) : TokenCall d (revoke d token).discard
  | revokeForClient (clientId : ClientId) (token : Text) :
      TokenCall d (revokeForClient d clientId token).discard
  | revokeFamily (family : TokenFamilyId) : TokenCall d (revokeFamily family).discard

def Drift (before after : State) : Prop := after.tokens = before.tokens

abbrev TokenPool := Pool Op Op.Ret Unit Unit State

abbrev TokenRuns (d : Deployment) : TokenPool → TokenPool → Prop := Runs exec Fresh (TokenCall d) Drift

theorem lenient (d : Deployment) (born : Nat) : Lenient Fresh (rely d) (guar d) born :=
  ⟨honest d,quiet⟩

theorem revokes (later : History State) (fingerprint : TokenDigest) (at_ : Instant)
    (_ : Fresh (.token (.revokeToken fingerprint at_)) later) :
    guar d born later (exec (.token (.revokeToken fingerprint at_)) later.now).2 :=
  revokeToken_act fingerprint at_

theorem revokeFamily_safe (family : TokenFamilyId) :
    Safe (contract d) born (returns fun _ _ => True) (revokeFamily family) h := by
  have nothing := stable_true (rely d)
  refine (lenient d born).past nothing looks_now trivial fun at_ _ known => ?_
  refine (lenient d born).write nothing known (fun later _ _ => .retire family at_) fun _ _ _ => ?_
  exact (lenient d born).looks (.check _ _)

theorem makeInitial_act (keyed : Keyed h.now.tokens) (context : TokenContext) :
    Safe (contract d) born (returns fun _ _ => True) (makeInitial d context) h :=
  makeInitial_safe d (lenient d born) stable_keyed keyed context
    fun _ family at_ accessDigest refreshDigest _ fresh =>
      storeInitial_act context family at_ accessDigest refreshDigest fresh

theorem TokenCall.safe (call : TokenCall d p) (begun : born ≤ h.past.length) (keyed : Keyed h.now.tokens) : Safe (contract d) born (fun _ _ => True) p h := by
  have rules := lenient d born
  cases call with
  | issue code senderConstraint => exact (makeInitial_act keyed _).discard
  | issueDeviceAuthorization authorization senderConstraint =>
    have issued : Safe (contract d) born (returns fun _ _ => True)
        (TokenService.issueDeviceAuthorization d authorization senderConstraint) h := by
      unfold TokenService.issueDeviceAuthorization
      split
      · exact fun _ _ => trivial
      · exact makeInitial_act keyed _
    exact issued.discard
  | issueClientCredentials service audience scopes senderConstraint =>
    refine (issueClientCredentials_safe d rules stable_keyed keyed begun service audience scopes
      senderConstraint ?_).discard
    intro later family at_ digest _ timed audienceHeld scopesHeld fresh
    exact storeAccessOnly_act _ family at_ digest
      (.credentials service audience scopes senderConstraint at_ audienceHeld scopesHeld) timed fresh
  | issueTokenExchange clientId subjectToken audience scopes senderConstraint =>
    refine (issueTokenExchange_safe d rules stable_keyed keyed begun clientId subjectToken audience scopes
      senderConstraint ?_).discard
    intro later family at_ digest key record _ timed stored usable accepted fresh
    exact storeAccessOnly_act _ family at_ digest
      (.exchange key record clientId audience _ senderConstraint stored usable accepted) timed fresh
  | refresh clientId refreshToken senderConstraint =>
    refine (refresh_safe d rules stable_keyed stable_current keyed clientId refreshToken senderConstraint
      ?_ ?_).discard
    · intro before key current keyed stored
      refine ⟨current,?_,.refl current⟩
      rw [keyed.2 key current stored]
      exact stored
    · intro later current at_ accessDigest refreshDigest known fresh
      exact rotateRefresh_act current at_ accessDigest refreshDigest known fresh
  | introspect accessToken => exact (introspect_safe d rules begun accessToken).discard
  | revoke token => exact (revoke_safe d rules token revokes).discard
  | revokeForClient clientId token => exact (revokeForClient_safe d rules clientId token revokes).discard
  | revokeFamily family => exact (revokeFamily_safe family).discard

theorem disciplined (d : Deployment) :
    Disciplined (contract d) (TokenCall d) Drift (fun h => Keyed h.now.tokens) fun _ _ _ => True where
  honest := honest d
  drifts _ _ moved := ⟨0,guar_of_same moved⟩
  stable := stable_keyed
  entries _ call _ keyed := call.safe (Nat.le_refl _) keyed

theorem keyed_empty : Keyed .empty := by
  constructor <;> intro key record stored <;> simp [TokenStore.empty] at stored

theorem sound (empty : w.tokens = .empty) (path : TokenRuns d (Pool.start w) pool) :
    Pool.Sound (contract d) (fun h => Keyed h.now.tokens) (fun _ _ _ => True) pool :=
  (disciplined d).start w (by simpa [empty] using keyed_empty) path

theorem grows (empty : w.tokens = .empty) (path : TokenRuns d (Pool.start w) pool) (more : TokenRuns d pool later) :
    Grows (rely d) pool.hist later.hist := (disciplined d).grows (sound empty path) more

theorem invariant (stable : Stable (rely d) φ) (empty : w.tokens = .empty) (initial : φ ⟨w,[]⟩)
    (path : TokenRuns d (Pool.start w) pool) : φ pool.hist := (grows empty .nil path).keep stable initial

-- Schedules over the token calls; generated identifiers are checked as they are used.
abbrev TokenMove (d : Deployment) := Move Op Op.Ret State (TokenCall d) Drift

def playTokens (moves : List (TokenMove d)) (w : State) : Option TokenPool :=
  play exec (fun op h => decide (Fresh op h)) moves (.start w)

theorem permitted_fresh (op : Op) (h : History State) (permitted : decide (Fresh op h) = true) : Fresh op h :=
  of_decide_eq_true permitted

theorem playTokens_reaches {moves : List (TokenMove d)} (played : (playTokens moves w).any goal = true) :
    ∃ pool,TokenRuns d (.start w) pool ∧ goal pool = true :=
  play_reaches permitted_fresh played

def TokenMove.wait (d : Deployment) (passed : Duration) : TokenMove d :=
  .drift (fun w => { w with clock := w.clock+passed }) fun _ => rfl

def demoDeployment : Deployment where
  organization := ⟨"org"⟩
  issuer := "https://id.example"
  clientSecretKey := "s"
  codeKey := "c"
  deviceKey := "d"
  tokenKey := "t"
  codeLifetime := 60
  pushedLifetime := 60
  deviceLifetime := 600
  devicePollInterval := 5
  accessLifetime := 100
  refreshLifetime := 1000
  hmacSha256 _ message := .ok (message.foldl (fun value byte => value*256+byte.toNat) 0)
  sha256 message := .ok (message.foldl (fun value byte => value*256+byte.toNat) 0)
  toBase64Url _ := "E9Melhoa2OwvFrEMTJguCHaoeK1t8URWbuGJSstw-cM"
  validateRs256PublicKey _ := .ok ()
  verifyRs256Jwt _ _ := .error (.plain .authenticationFailed)
  parseJson _ := none

def demoSurroundings : Surroundings where
  sessions _ := .error (.plain .authenticationRequired)
  memberships _ _ := .ok none
  allows _ := true
  senderProof _ := .ok none
  issueIdToken _ := .error (.plain .notImplemented)
  issueAuthorizationResponse _ _ _ _ := .error (.plain .notImplemented)

def demoApplication : Application where
  id := ⟨"app"⟩
  owner := ⟨"org"⟩
  identifier := "shop"
  displayName := "Shop"
  environment := .production
  status := .active
  createdAt := 0
  updatedAt := 0
  named := by decide

def demoClient : Client where
  id := ⟨"web"⟩
  applicationId := ⟨"app"⟩
  displayName := "Shop"
  kind := .browser
  status := .active
  redirectUris := [⟨"https://shop.example/cb"⟩]
  scopes := [⟨"read",by decide⟩]
  secretDigest := none
  createdAt := 0
  updatedAt := 0

def demoState (entropy : List Text) : State :=
  { State.empty demoSurroundings with
    entropy := entropy.map .ok
    applications := ((ApplicationStore.add demoApplication (State.empty demoSurroundings).applications)).2
    clients := (ClientStore.add demoClient ∅).2 }

def demoCode : AuthorizationCode where
  digest := 1
  clientId := ⟨"web"⟩
  identity := ⟨"ann"⟩
  redirectUri := "https://shop.example/cb"
  scopes := [⟨"read",by decide⟩]
  codeChallenge := ⟨"E9Melhoa2OwvFrEMTJguCHaoeK1t8URWbuGJSstw-cM",by decide⟩
  nonce := none
  provider := ⟨"passkey"⟩
  assurance := .ial2
  strength := ⟨AuthenticationFactor.knowledge,false⟩
  authenticatedAt := 0
  issuedAt := 0
  expiresAt := 60
  resource := some "https://api.example"

def demoIssue : List (TokenMove demoDeployment) :=
  .enter _ (.issue demoCode none) :: List.replicate 7 (.act 0)

def demoRefresh (thread steps : Nat) (token : Text) : List (TokenMove demoDeployment) :=
  .enter _ (.refresh ⟨"web"⟩ token none) :: List.replicate steps (.act thread)

def demoExchange (thread : Nat) (token : Text) : List (TokenMove demoDeployment) :=
  .enter _ (.issueTokenExchange ⟨"web"⟩ token "https://api.example" [] none) ::
    List.replicate 8 (.act thread)

end OpenProof.TokenActs
