import OpenProof.DeviceFlows
import OpenProof.PostgresCodes

namespace OpenProof.PostgresDevices
open Foundation DeviceFlows Identities Clients
open Authorizations PostgresCodes

-- `oauth_device_authorizations`, its key apart.
structure DeviceRow where
  userCode : Sha256Digest
  clientId : Text
  resource : Option Text
  status : Int
  issuedAt : Instant
  expiresAt : Instant
  pollInterval : Duration
  identityId : Option Text
  provider : Option Text
  assurance : Option Int
  factors : Option Int
  phishingResistant : Option Bool
  authenticatedAt : Option Instant
  lastPollAt : Option Instant

-- `identities` holds what the foreign key of an approval may name.
structure DeviceTables where
  devices : Map Sha256Digest DeviceRow
  scopes : List (Sha256Digest × Text)
  identities : List Text

def statusOf : Int → Option DeviceAuthorizationStatus
  | 0 => some .pending
  | 1 => some .approved
  | 2 => some .denied
  | 3 => some .consumed
  | _ => none

def claimsOf (row : DeviceRow) : Result (Option AuthenticatedSession) :=
  match row.identityId with
  | none => .ok none
  | some identity =>
    match row.provider,row.assurance,row.factors,row.phishingResistant,row.authenticatedAt with
    | some provider,some assurance,some factors,some resistant,some authenticatedAt =>
      if assurance < 0 || factors < 0 || assurance > 4 || factors > 7 then
        fail .internal "PostgreSQL returned malformed device authorization claims."
      else .ok (some ⟨⟨identity⟩,⟨provider⟩,assuranceLevel assurance.toNat,⟨UInt8.ofNat factors.toNat,resistant⟩,
        authenticatedAt⟩)
    | _,_,_,_,_ => fail .internal "PostgreSQL returned incomplete device authorization claims."

def deviceAuthorizationFromRow (device : Sha256Digest) (row : DeviceRow) (scopeRows : List Text) :
    Result DeviceAuthorization :=
  match statusOf row.status with
  | none => fail .internal "PostgreSQL returned malformed device authorization data."
  | some status =>
    if row.pollInterval ≤ 0 then fail .internal "PostgreSQL returned malformed device authorization data."
    else do
      let scopes ← scopeRows.mapM Scope.create
      let claims ← claimsOf row
      DeviceAuthorization.restore device row.userCode ⟨row.clientId⟩ scopes row.resource row.issuedAt row.expiresAt
        row.pollInterval status (claims.map (·.identity)) (claims.map (·.provider)) (claims.map (·.assurance))
        (claims.map (·.strength)) (claims.map (·.authenticatedAt)) row.lastPollAt

namespace DeviceTables
variable (collate : List Text → List Text)

def loadDeviceScopes (device : Sha256Digest) (tables : DeviceTables) : List Text :=
  collate ((tables.scopes.filter fun row => row.1 == device).map Prod.snd)

def read (device : Sha256Digest) (row : DeviceRow) (tables : DeviceTables) : Result DeviceAuthorization :=
  deviceAuthorizationFromRow device row (tables.loadDeviceScopes collate device)

def selectByUserCode (userCode : Sha256Digest) (tables : DeviceTables) : List (Sha256Digest × DeviceRow) :=
  tables.devices.toList.filter fun row => row.2.userCode == userCode

-- `UPDATE ... SET change WHERE chosen`.
def update (chosen : Sha256Digest → DeviceRow → Bool) (change : DeviceRow → DeviceRow) (tables : DeviceTables) :
    DeviceTables :=
  { tables with devices := tables.devices.map fun device row => if chosen device row then change row else row }

def approve (userCode : Sha256Digest) (authenticated : AuthenticatedSession) (now : Instant) (tables : DeviceTables) :
    Result DeviceAuthorization × DeviceTables :=
  match tables.selectByUserCode userCode with
  | [(device,row)] =>
    match tables.read collate device row with
    | .error e => (.error e,tables)
    | .ok authorization =>
      match authorization.approve authenticated now with
      | .error e => (.error e,tables)
      | .ok approved =>
        if !tables.identities.contains authenticated.identity.value then
          (.error (databaseError .failedPrecondition "approve device authorization"),tables)
        else (.ok approved,tables.update (fun _ row => row.userCode == userCode && row.status == 0) fun row => { row with
          status := 1
          identityId := some authenticated.identity.value
          provider := some authenticated.provider.value
          assurance := some authenticated.assurance.rank
          factors := some authenticated.strength.factors.toNat
          phishingResistant := some authenticated.strength.phishingResistant
          authenticatedAt := some authenticated.authenticatedAt })
  | _ => (.error (.plain .notFound),tables)

def deny (userCode : Sha256Digest) (now : Instant) (tables : DeviceTables) : Result Unit × DeviceTables :=
  match tables.selectByUserCode userCode with
  | [(device,row)] =>
    match tables.read collate device row with
    | .error e => (.error e,tables)
    | .ok authorization =>
      match authorization.deny now with
      | .error e => (.error e,tables)
      | .ok _ => (.ok (),
          tables.update (fun _ row => row.userCode == userCode && row.status == 0) fun row => { row with status := 2 })
  | _ => (.error (.plain .notFound),tables)

def poll (deviceCode : Sha256Digest) (expectedClient : ClientId) (now : Instant) (tables : DeviceTables) :
    Result DevicePollResult × DeviceTables :=
  match tables.devices[deviceCode]? with
  | none => (.error (authenticationFailure "Unknown device code."),tables)
  | some row =>
    match tables.read collate deviceCode row with
    | .error e => (.error e,tables)
    | .ok value =>
      if value.clientId ≠ expectedClient then
        (.error (authenticationFailure "The device code is not bound to this client."),tables)
      else if value.expiredAt now then (.ok ⟨.expired,none,value.pollInterval⟩,tables)
      else if value.status = .denied then (.ok ⟨.denied,none,value.pollInterval⟩,tables)
      else if value.status = .consumed then
        (.error (authenticationFailure "The device code has already been consumed."),tables)
      else if value.lastPollAt.any (fun last => now < last+value.pollInterval) then
        match value.slowDown now with
        | .error e => (.error e,tables)
        | .ok slowed => (.ok ⟨.slowDown,none,slowed.pollInterval⟩,
            tables.update (fun device _ => device == deviceCode) fun row => { row with
              pollInterval := slowed.pollInterval
              lastPollAt := some now })
      else if value.status = .approved then
        match value.consume now with
        | .error e => (.error e,tables)
        | .ok consumed => (.ok ⟨.approved,some consumed,consumed.pollInterval⟩,
            tables.update (fun device row => device == deviceCode && row.status == 1) fun row => { row with
              status := 3
              lastPollAt := some now })
      else
        match value.markPolled now with
        | .error e => (.error e,tables)
        | .ok polled => (.ok ⟨.pending,none,polled.pollInterval⟩,
            tables.update (fun device row => device == deviceCode && row.status == 0) fun row => { row with
              lastPollAt := some now })

end DeviceTables

section
variable {collate : List Text → List Text} {tables : DeviceTables} {store : DeviceStore}
  {device user : Sha256Digest} {now : Instant} {authenticated : AuthenticatedSession}

def recordOf (device : Sha256Digest) (row : DeviceRow) (scopes : List Scope) (status : DeviceAuthorizationStatus)
    (claims : Option AuthenticatedSession) : DeviceAuthorization where
  deviceCode := device
  userCode := row.userCode
  clientId := ⟨row.clientId⟩
  scopes := scopes
  resource := row.resource
  issuedAt := row.issuedAt
  expiresAt := row.expiresAt
  pollInterval := row.pollInterval
  status := status
  identity := claims.map (·.identity)
  provider := claims.map (·.provider)
  assurance := claims.map (·.assurance)
  strength := claims.map (·.strength)
  authenticatedAt := claims.map (·.authenticatedAt)
  lastPollAt := row.lastPollAt

def Consistent (status : DeviceAuthorizationStatus) (claims : Option AuthenticatedSession) : Prop :=
  (status = .approved ∨ status = .consumed → claims.isSome = true) ∧ (status = .pending → claims.isNone = true)

structure Standing (row : DeviceRow) (scopeRows : List Text) (scopes : List Scope) : Prop where
  scopes : ∃ parsed,scopeRows.mapM Scope.create = .ok parsed ∧ normalizeDeviceScopes parsed = .ok scopes
  client : row.clientId.isEmpty = false
  lasts : row.issuedAt < row.expiresAt
  resource : row.resource.any (fun value => value.isEmpty || value.length > 2048) = false

structure Reads (device : Sha256Digest) (row : DeviceRow) (scopeRows : List Text) (record : DeviceAuthorization)
    (scopes : List Scope) (status : DeviceAuthorizationStatus) (claims : Option AuthenticatedSession) : Prop where
  standing : Standing row scopeRows scopes
  known : statusOf row.status = some status
  positive : 0 < row.pollInterval
  claimed : claimsOf row = .ok claims
  consistent : Consistent status claims
  same : record = recordOf device row scopes status claims

theorem read_iff : deviceAuthorizationFromRow device row scopeRows = .ok record ↔
    ∃ scopes status claims,Reads device row scopeRows record scopes status claims := by
  constructor
  · intro done
    unfold deviceAuthorizationFromRow at done
    split at done
    · cases done
    · rename_i status known
      obtain ⟨positive,done⟩ := passed done
      obtain ⟨parsed,parses,done⟩ := bind_ok done
      obtain ⟨claims,claimed,done⟩ := bind_ok done
      unfold DeviceAuthorization.restore at done
      dsimp only at done
      split at done
      · cases done
      · rename_i scopes normalized
        obtain ⟨allowed,done⟩ := passed done
        simp only [StrongId.empty,Bool.or_eq_true,not_or,Bool.not_eq_true,decide_eq_true_eq,not_le] at allowed
        obtain ⟨⟨⟨⟨⟨client,lasts⟩,-⟩,resource⟩,approved⟩,pending⟩ := allowed
        refine ⟨scopes,status,claims,⟨⟨parsed,parses,normalized⟩,client,lasts,resource⟩,known,Int.not_le.mp positive,claimed,
          ⟨?_,?_⟩,(Except.ok.inj done).symm⟩
        · intro settled
          cases claims with
          | none => rcases settled with rfl | rfl <;> simp at approved
          | some _ => rfl
        · rintro rfl
          cases claims with
          | none => rfl
          | some _ => simp at pending
  · rintro ⟨scopes,status,claims,⟨⟨⟨parsed,parses,normalized⟩,client,lasts,resource⟩,known,positive,claimed,
      ⟨settled,open_⟩,rfl⟩⟩
    unfold deviceAuthorizationFromRow DeviceAuthorization.restore
    rw [known]
    dsimp only
    rw [if_neg (Int.not_le.mpr positive),parses,claimed]
    simp only [bind,Except.bind]
    rw [normalized]
    dsimp only
    rw [if_neg]
    · rfl
    · have late := Int.not_le.mpr lasts
      cases claims <;> cases status <;> simp_all [StrongId.empty]

-- The same records in the tables and in memory. The last is the UNIQUE of the user code.
structure Mirrors (collate : List Text → List Text) (tables : DeviceTables) (store : DeviceStore) : Prop where
  records : ∀ (device : Sha256Digest) (record : DeviceAuthorization),store.byDevice[device]? = some record ↔
    ∃ row,tables.devices[device]? = some row ∧ tables.read collate device row = .ok record
  users : ∀ (user device : Sha256Digest) (record : DeviceAuthorization),store.byDevice[device]? = some record →
    (store.userToDevice[user]? = some device ↔ record.userCode = user)
  unique : ∀ (device other : Sha256Digest) (row row' : DeviceRow),tables.devices[device]? = some row →
    tables.devices[other]? = some row' → row.userCode = row'.userCode → device = other

theorem read_userCode (reads : tables.read collate device row = .ok record) : record.userCode = row.userCode := by
  obtain ⟨scopes,status,claims,reads⟩ := read_iff.mp reads
  rw [reads.same]
  rfl

theorem select_mem : found ∈ tables.selectByUserCode user ↔
    tables.devices[found.1]? = some found.2 ∧ found.2.userCode = user := by
  obtain ⟨device,row⟩ := found
  simp [DeviceTables.selectByUserCode,Std.ExtTreeMap.mem_toList_iff_getElem?_eq_some]

theorem select_stored (unique : ∀ (device other : Sha256Digest) (row row' : DeviceRow),tables.devices[device]? = some row →
    tables.devices[other]? = some row' → row.userCode = row'.userCode → device = other)
    (stored : tables.devices[device]? = some row) (named : row.userCode = user) :
    tables.selectByUserCode user = [(device,row)] := by
  change KeyedTables.rowsWhere (fun _ row => decide (row.userCode = user)) tables.devices = [(device,row)]
  apply KeyedTables.rowsWhere_one stored (decide_eq_true named)
  intro other row' there also
  exact (unique device other row row' stored there (named.trans (of_decide_eq_true also).symm)).symm

theorem lookup_mirrors (mirrors : Mirrors collate tables store) (user : Sha256Digest) :
    (∃ device row record,tables.selectByUserCode user = [(device,row)] ∧ tables.devices[device]? = some row ∧
      row.userCode = user ∧ tables.read collate device row = .ok record ∧
        store.byUserCode user = some (device,record)) ∨ store.byUserCode user = none ∧
      ∀ device row,tables.selectByUserCode user = [(device,row)] → ∃ e,tables.read collate device row = .error e := by
  have onto : ∀ device record,store.byUserCode user = some (device,record) → ∃ row,tables.devices[device]? = some row ∧
      row.userCode = user ∧ tables.read collate device row = .ok record := by
    intro device record leads
    obtain ⟨mapped,stored⟩ := byUserCode_stored leads
    obtain ⟨row,there,reads⟩ := (mirrors.records device record).mp stored
    exact ⟨row,there,(read_userCode reads).symm.trans ((mirrors.users user device record stored).mp mapped),reads⟩
  cases leads : store.byUserCode user with
  | some known =>
    left
    obtain ⟨device,record⟩ := known
    obtain ⟨row,there,named,reads⟩ := onto device record leads
    exact ⟨device,row,record,select_stored mirrors.unique there named,there,named,reads,rfl⟩
  | none =>
    right
    refine ⟨rfl,?_⟩
    intro device row selected
    cases reads : tables.read collate device row with
    | error e => exact ⟨e,rfl⟩
    | ok record =>
      obtain ⟨there,named⟩ := select_mem.mp (by rw [selected]; exact List.mem_singleton_self (device,row))
      have stored := (mirrors.records device record).mpr ⟨row,there,reads⟩
      have mapped := (mirrors.users user device record stored).mpr ((read_userCode reads).trans named)
      simp [DeviceStore.byUserCode,mapped,stored] at leads

theorem update_mirrors (mirrors : Mirrors collate tables store) (stored : tables.devices[device]? = some row)
    (reads : tables.read collate device row = .ok record)
    (mine : ∀ other row',tables.devices[other]? = some row' → (chosen other row' = true ↔ other = device))
    (same : (change row).userCode = row.userCode) (changed : tables.read collate device (change row) = .ok after) :
    Mirrors collate (tables.update chosen change) { store with byDevice := store.byDevice.insert device after } := by
  have here : (tables.update chosen change).devices[device]? = some (change row) := by
    simp [DeviceTables.update,stored,(mine device row stored).mpr rfl]
  have there : ∀ {other : Sha256Digest},other ≠ device →
      (tables.update chosen change).devices[other]? = tables.devices[other]? := by
    intro other apart
    simp only [DeviceTables.update,Map.find_map]
    cases known : tables.devices[other]? with
    | none => rfl
    | some row' =>
      have spared : chosen other row' = false := Bool.eq_false_iff.mpr fun taken => apart ((mine other row' known).mp taken)
      simp [spared]
  have named : after.userCode = record.userCode := by rw [read_userCode changed,read_userCode reads,same]
  have held := (mirrors.records device record).mpr ⟨row,stored,reads⟩
  constructor
  · intro other record'
    by_cases apart : other = device
    · subst apart
      rw [here,insert_here]
      constructor
      · intro told
        cases told
        exact ⟨_,rfl,changed⟩
      · rintro ⟨_,told,again⟩
        cases told
        have both : (Except.ok after : Result DeviceAuthorization) = .ok record' := changed.symm.trans again
        rw [Except.ok.inj both]
    · rw [there apart,Map.find_insert,if_neg (Ne.symm apart)]
      exact mirrors.records other record'
  · intro user other record' known
    rcases Map.insert_cases known with ⟨rfl,rfl⟩ | before
    · rw [named]
      exact mirrors.users user device record held
    · exact mirrors.users user other record' before
  · have codes : ∀ (other : Sha256Digest) (row' : DeviceRow),(tables.update chosen change).devices[other]? = some row' →
        ∃ old,tables.devices[other]? = some old ∧ old.userCode = row'.userCode := by
      intro other row' known
      by_cases apart : other = device
      · subst apart
        rw [here] at known
        cases known
        exact ⟨row,stored,same.symm⟩
      · rw [there apart] at known
        exact ⟨row',known,rfl⟩
    intro one two row' row'' first second equal
    obtain ⟨old,known,code⟩ := codes one row' first
    obtain ⟨old',known',code'⟩ := codes two row'' second
    exact mirrors.unique one two old old' known known' (code.trans (equal.trans code'.symm))

def memoryOf (collate : List Text → List Text) (tables : DeviceTables) : DeviceStore where
  byDevice := tables.devices.filterMap fun device row => (tables.read collate device row).toOption
  userToDevice := .ofList (tables.devices.toList.map fun row => (row.2.userCode,row.1)) compare

theorem memory_mirrors (unique : ∀ (device other : Sha256Digest) (row row' : DeviceRow),tables.devices[device]? = some row →
    tables.devices[other]? = some row' → row.userCode = row'.userCode → device = other) :
    Mirrors collate tables (memoryOf collate tables) := by
  have inside : ∀ (device : Sha256Digest) (row : DeviceRow),(device,row) ∈ tables.devices.toList ↔
      tables.devices[device]? = some row := fun device row => Std.ExtTreeMap.mem_toList_iff_getElem?_eq_some
  have apart : (tables.devices.toList.map fun row => (row.2.userCode,row.1)).Pairwise
      fun one two => ¬compare one.1 two.1 = .eq := by
    rw [List.pairwise_map]
    refine Std.ExtTreeMap.distinct_keys_toList.imp_of_mem ?_
    rintro ⟨device,row⟩ ⟨other,row'⟩ one two different same
    apply different
    have code : row.userCode = row'.userCode := Std.LawfulEqCmp.compare_eq_iff_eq.mp same
    rw [unique device other row row' ((inside device row).mp one) ((inside other row').mp two) code]
    exact Std.ReflCmp.compare_self
  have mapped : ∀ user device : Sha256Digest,(memoryOf collate tables).userToDevice[user]? = some device ↔
      ∃ row,tables.devices[device]? = some row ∧ row.userCode = user := by
    intro user device
    constructor
    · intro known
      by_cases named : ((tables.devices.toList.map fun row => (row.2.userCode,row.1)).map Prod.fst).contains user = true
      · simp only [List.map_map,List.contains_iff_mem,List.mem_map,Function.comp_apply] at named
        obtain ⟨⟨other,row⟩,present,rfl⟩ := named
        have there := Std.ExtTreeMap.getElem?_ofList_of_mem Std.ReflCmp.compare_self apart
          (List.mem_map_of_mem present)
        have same : some device = some other := known.symm.trans there
        cases same
        exact ⟨row,(inside device row).mp present,rfl⟩
      · have absent : (memoryOf collate tables).userToDevice[user]? = none :=
          Std.ExtTreeMap.getElem?_ofList_of_contains_eq_false (Bool.eq_false_iff.mpr named)
        cases absent.symm.trans known
    · rintro ⟨row,stored,rfl⟩
      exact Std.ExtTreeMap.getElem?_ofList_of_mem Std.ReflCmp.compare_self apart
        (List.mem_map_of_mem ((inside device row).mpr stored))
  have records : ∀ (device : Sha256Digest) (record : DeviceAuthorization),
      (memoryOf collate tables).byDevice[device]? = some record ↔
        ∃ row,tables.devices[device]? = some row ∧ tables.read collate device row = .ok record := by
    intro device record
    simp only [memoryOf]
    rw [Std.ExtTreeMap.getElem?_filterMap',Option.bind_eq_some_iff]
    constructor
    · rintro ⟨row,stored,told⟩
      refine ⟨row,stored,?_⟩
      cases reads : tables.read collate device row with
      | error e =>
        rw [reads] at told
        cases told
      | ok other =>
        rw [reads] at told
        cases told
        rfl
    · rintro ⟨row,stored,reads⟩
      exact ⟨row,stored,by rw [reads]; rfl⟩
  refine ⟨records,?_,unique⟩
  intro user device record held
  obtain ⟨row,stored,reads⟩ := (records device record).mp held
  rw [mapped,read_userCode reads]
  constructor
  · rintro ⟨other,there,code⟩
    rw [stored] at there
    cases there
    exact code
  · exact fun code => ⟨row,stored,code⟩

def Storable (tables : DeviceTables) (authenticated : AuthenticatedSession) : Prop :=
  authenticated.identity.value ∈ tables.identities ∧ authenticated.strength.factors ≤ 7

section
variable (reads : tables.read collate device row = .ok record)
include reads

theorem approved_reads (pending : record.status = .pending) (flagged : authenticated.strength.factors ≤ 7) : tables.read collate device { row with
      status := 1
      identityId := some authenticated.identity.value
      provider := some authenticated.provider.value
      assurance := some authenticated.assurance.rank
      factors := some authenticated.strength.factors.toNat
      phishingResistant := some authenticated.strength.phishingResistant
      authenticatedAt := some authenticated.authenticatedAt } = .ok (granted record authenticated) := by
  obtain ⟨scopes,status,claims,⟨⟨parses,client,lasts,resource⟩,known,positive,claimed,consistent,rfl⟩⟩ := read_iff.mp reads
  have few : authenticated.strength.factors.toNat ≤ 7 := by simpa using UInt8.le_iff_toNat_le.mp flagged
  have low : authenticated.assurance.rank ≤ 4 := by cases authenticated.assurance <;> decide
  refine read_iff.mpr ⟨scopes,.approved,some authenticated,⟨⟨parses,client,lasts,resource⟩,rfl,positive,?_,
    ⟨fun _ => rfl,nofun⟩,rfl⟩⟩
  simp only [claimsOf]
  rw [if_neg]
  · simp [assuranceLevel_rank]
  · simp
    omega

theorem denied_reads :
    tables.read collate device { row with status := 2 } = .ok { record with status := .denied } := by
  obtain ⟨scopes,status,claims,⟨⟨parses,client,lasts,resource⟩,known,positive,claimed,consistent,rfl⟩⟩ := read_iff.mp reads
  refine read_iff.mpr ⟨scopes,.denied,claims,⟨⟨parses,client,lasts,resource⟩,rfl,positive,claimed,⟨?_,nofun⟩,rfl⟩⟩
  intro impossible
  rcases impossible with same | same <;> cases same

theorem waited_reads (positive : 0 < interval) :
    tables.read collate device { row with pollInterval := interval,lastPollAt := some now } =
      .ok { record with pollInterval := interval,lastPollAt := some now } := by
  obtain ⟨scopes,status,claims,⟨⟨parses,client,lasts,resource⟩,known,-,claimed,consistent,rfl⟩⟩ := read_iff.mp reads
  exact read_iff.mpr ⟨scopes,status,claims,⟨⟨parses,client,lasts,resource⟩,known,positive,claimed,consistent,rfl⟩⟩

theorem polled_reads :
    tables.read collate device { row with lastPollAt := some now } = .ok { record with lastPollAt := some now } := by
  obtain ⟨scopes,status,claims,⟨⟨parses,client,lasts,resource⟩,known,positive,claimed,consistent,rfl⟩⟩ := read_iff.mp reads
  exact read_iff.mpr ⟨scopes,status,claims,⟨⟨parses,client,lasts,resource⟩,known,positive,claimed,consistent,rfl⟩⟩

theorem consumed_reads (approved : record.status = .approved) :
    tables.read collate device { row with status := 3,lastPollAt := some now } =
      .ok { record with status := .consumed,lastPollAt := some now } := by
  obtain ⟨scopes,status,claims,⟨⟨parses,client,lasts,resource⟩,known,positive,claimed,consistent,rfl⟩⟩ := read_iff.mp reads
  refine read_iff.mpr ⟨scopes,.consumed,claims,⟨⟨parses,client,lasts,resource⟩,rfl,positive,claimed,⟨?_,nofun⟩,rfl⟩⟩
  intro _
  exact consistent.1 (.inl approved)

theorem read_interval : record.pollInterval = row.pollInterval ∧ 0 < row.pollInterval := by
  obtain ⟨scopes,status,claims,reads⟩ := read_iff.mp reads
  rw [reads.same]
  exact ⟨rfl,reads.positive⟩

theorem read_status : statusOf row.status = some record.status := by
  obtain ⟨scopes,status,claims,reads⟩ := read_iff.mp reads
  rw [reads.same]
  exact reads.known

theorem pending_column (pending : record.status = .pending) : row.status = 0 := by
  have known := read_status reads
  rw [pending] at known
  unfold statusOf at known
  split at known <;> simp_all

theorem approved_column (approved : record.status = .approved) : row.status = 1 := by
  have known := read_status reads
  rw [approved] at known
  unfold statusOf at known
  split at known <;> simp_all

end

end

inductive DeviceCall where
  | approve (userCode : Sha256Digest) (authenticated : AuthenticatedSession) (now : Instant)
  | deny (userCode : Sha256Digest) (now : Instant)
  | poll (deviceCode : Sha256Digest) (expectedClient : ClientId) (now : Instant)

-- What a caller is told, error codes aside.
inductive DeviceAnswer where
  | approved (authorization : Option DeviceAuthorization)
  | denied (done : Option Unit)
  | polled (result : Option DevicePollResult)
  deriving DecidableEq

def inMemory : DeviceCall → DeviceStore → DeviceAnswer × DeviceStore
  | .approve userCode authenticated now,store =>
    let r := store.approve userCode authenticated now
    (.approved r.1.toOption,r.2)
  | .deny userCode now,store =>
    let r := store.deny userCode now
    (.denied r.1.toOption,r.2)
  | .poll deviceCode expectedClient now,store =>
    let r := store.poll deviceCode expectedClient now
    (.polled r.1.toOption,r.2)

def inPostgres (collate : List Text → List Text) : DeviceCall → DeviceTables → DeviceAnswer × DeviceTables
  | .approve userCode authenticated now,tables =>
    let r := tables.approve collate userCode authenticated now
    (.approved r.1.toOption,r.2)
  | .deny userCode now,tables =>
    let r := tables.deny collate userCode now
    (.denied r.1.toOption,r.2)
  | .poll deviceCode expectedClient now,tables =>
    let r := tables.poll collate deviceCode expectedClient now
    (.polled r.1.toOption,r.2)

def runAll {S : Type} (step : DeviceCall → S → DeviceAnswer × S) : List DeviceCall → S → List DeviceAnswer × S
  | [],s => ([],s)
  | call :: rest,s => ((step call s).1 :: (runAll step rest (step call s).2).1,(runAll step rest (step call s).2).2)

def Admits (tables : DeviceTables) : DeviceCall → Prop
  | .approve _ authenticated _ => Storable tables authenticated
  | _ => True

section
variable {collate : List Text → List Text} {tables : DeviceTables} {store : DeviceStore}
  {device user : Sha256Digest} {now : Instant} {authenticated : AuthenticatedSession}

-- Both answer the same, and both keep the same.
structure Agrees (collate : List Text → List Text) (postgres : DeviceAnswer × DeviceTables)
    (memory : DeviceAnswer × DeviceStore) : Prop where
  answer : postgres.1 = memory.1
  mirrors : Mirrors collate postgres.2 memory.2

section
variable (mirrors : Mirrors collate tables store)
include mirrors

theorem pending_mine (stored : tables.devices[device]? = some row) (named : row.userCode = user)
    (pending : row.status = 0) : ∀ (other : Sha256Digest) (row' : DeviceRow),tables.devices[other]? = some row' →
      ((row'.userCode == user && row'.status == 0) = true ↔ other = device) := by
  intro other row' there
  constructor
  · intro chosen
    simp only [Bool.and_eq_true,beq_iff_eq] at chosen
    exact mirrors.unique other device row' row there stored (chosen.1.trans named.symm)
  · rintro rfl
    rw [stored] at there
    cases there
    simp [named,pending]

theorem approve_agrees (storable : Storable tables authenticated) :
    Agrees collate (inPostgres collate (.approve user authenticated now) tables)
      (inMemory (.approve user authenticated now) store) := by
  simp only [inPostgres,inMemory,DeviceTables.approve,DeviceStore.approve]
  rcases lookup_mirrors mirrors user with ⟨device,row,record,selected,stored,named,reads,leads⟩ | ⟨absent,unread⟩
  · rw [selected,leads]
    dsimp only
    rw [reads]
    dsimp only
    cases moved : record.approve authenticated now with
    | error e => exact ⟨rfl,mirrors⟩
    | ok approved =>
      obtain ⟨allowed,moved⟩ := passed moved
      cases moved
      simp only [not_or,ne_eq,not_not] at allowed
      have known : tables.identities.contains authenticated.identity.value = true := by simpa using storable.1
      rw [known]
      have mine := pending_mine mirrors stored named (pending_column reads allowed.1)
      exact ⟨rfl,update_mirrors mirrors stored reads mine rfl (approved_reads reads allowed.1 storable.2)⟩
  · rw [absent]
    split
    · rename_i device row selected
      obtain ⟨e,failed⟩ := unread device row selected
      rw [failed]
      exact ⟨rfl,mirrors⟩
    · exact ⟨rfl,mirrors⟩

theorem deny_agrees :
    Agrees collate (inPostgres collate (.deny user now) tables) (inMemory (.deny user now) store) := by
  simp only [inPostgres,inMemory,DeviceTables.deny,DeviceStore.deny]
  rcases lookup_mirrors mirrors user with ⟨device,row,record,selected,stored,named,reads,leads⟩ | ⟨absent,unread⟩
  · rw [selected,leads]
    dsimp only
    rw [reads]
    dsimp only
    cases moved : record.deny now with
    | error e => exact ⟨rfl,mirrors⟩
    | ok denied =>
      obtain ⟨allowed,moved⟩ := passed moved
      cases moved
      simp only [not_or,ne_eq,not_not] at allowed
      have mine := pending_mine mirrors stored named (pending_column reads allowed.1)
      exact ⟨rfl,update_mirrors mirrors stored reads mine rfl (denied_reads reads)⟩
  · rw [absent]
    split
    · rename_i device row selected
      obtain ⟨e,failed⟩ := unread device row selected
      rw [failed]
      exact ⟨rfl,mirrors⟩
    · exact ⟨rfl,mirrors⟩

end

theorem mine_of {P : DeviceRow → Bool} (stored : tables.devices[device]? = some row) (holds : P row = true) :
    ∀ (other : Sha256Digest) (row' : DeviceRow),tables.devices[other]? = some row' →
      ((other == device && P row') = true ↔ other = device) := by
  intro other row' there
  simp only [Bool.and_eq_true,beq_iff_eq]
  constructor
  · exact fun chosen => chosen.1
  · rintro rfl
    rw [stored] at there
    cases there
    exact ⟨rfl,holds⟩

theorem poll_agrees (mirrors : Mirrors collate tables store) :
    Agrees collate (inPostgres collate (.poll device client now) tables) (inMemory (.poll device client now) store) := by
  simp only [inPostgres,inMemory,DeviceTables.poll,DeviceStore.poll]
  cases known : store.byDevice[device]? with
  | none =>
    cases stored : tables.devices[device]? with
    | none => exact ⟨rfl,mirrors⟩
    | some row =>
      cases reads : tables.read collate device row with
      | error e =>
        dsimp only
        rw [reads]
        exact ⟨rfl,mirrors⟩
      | ok record =>
        have held := (mirrors.records device record).mpr ⟨row,stored,reads⟩
        rw [known] at held
        cases held
  | some record =>
    obtain ⟨row,stored,reads⟩ := (mirrors.records device record).mp known
    rw [stored]
    dsimp only
    rw [reads]
    dsimp only
    split_ifs with foreign late denied consumed hasty approved
    · exact ⟨rfl,mirrors⟩
    · exact ⟨rfl,mirrors⟩
    · exact ⟨rfl,mirrors⟩
    · exact ⟨rfl,mirrors⟩
    · cases moved : record.slowDown now with
      | error e => exact ⟨rfl,mirrors⟩
      | ok slowed =>
        obtain ⟨-,moved⟩ := passed moved
        cases moved
        have positive : 0 < record.pollInterval+5000 := by
          obtain ⟨same,positive⟩ := read_interval reads
          rw [same]
          exact Int.add_pos positive (by decide)
        refine ⟨rfl,update_mirrors mirrors stored reads ?_ rfl (waited_reads reads positive)⟩
        intro other row' there
        exact beq_iff_eq
    · cases moved : record.consume now with
      | error e => exact ⟨rfl,mirrors⟩
      | ok consumed =>
        obtain ⟨-,moved⟩ := passed moved
        cases moved
        have column := approved_column reads approved
        exact ⟨rfl,update_mirrors mirrors stored reads (mine_of (P:=fun row => row.status == 1) stored (by simp [column]))
          rfl (consumed_reads reads approved)⟩
    · cases moved : record.markPolled now with
      | error e => exact ⟨rfl,mirrors⟩
      | ok polled =>
        obtain ⟨-,moved⟩ := passed moved
        cases moved
        have status : record.status = .pending := by
          cases status : record.status <;> simp_all
        have column := pending_column reads status
        exact ⟨rfl,update_mirrors mirrors stored reads (mine_of (P:=fun row => row.status == 0) stored (by simp [column]))
          rfl (polled_reads reads)⟩

theorem call_agrees (mirrors : Mirrors collate tables store) (call : DeviceCall) (admits : Admits tables call) :
    Agrees collate (inPostgres collate call tables) (inMemory call store) := by
  cases call with
  | approve user authenticated now => exact approve_agrees mirrors admits
  | deny user now => exact deny_agrees mirrors
  | poll device client now => exact poll_agrees mirrors

theorem call_identities : (inPostgres collate call tables).2.identities = tables.identities := by
  cases call with
  | approve user authenticated now =>
    simp only [inPostgres,DeviceTables.approve]
    split
    · split
      · rfl
      · split
        · rfl
        · split <;> rfl
    · rfl
  | deny user now =>
    simp only [inPostgres,DeviceTables.deny]
    split
    · split
      · rfl
      · split <;> rfl
    · rfl
  | poll device client now =>
    simp only [inPostgres,DeviceTables.poll]
    split
    · rfl
    · split
      · rfl
      · split_ifs
        · rfl
        · rfl
        · rfl
        · rfl
        · split <;> rfl
        · split <;> rfl
        · split <;> rfl

-- Induction on the calls: the mirror carries over from each to the next.
theorem postgres_refines_memory (calls : List DeviceCall) (mirrors : Mirrors collate tables store)
    (admits : ∀ call ∈ calls,Admits tables call) :
    (runAll (inPostgres collate) calls tables).1 = (runAll inMemory calls store).1 ∧
      Mirrors collate (runAll (inPostgres collate) calls tables).2 (runAll inMemory calls store).2 := by
  induction calls generalizing tables store with
  | nil => exact ⟨rfl,mirrors⟩
  | cons call rest ih =>
    have agrees := call_agrees mirrors call (admits call List.mem_cons_self)
    have onward : ∀ later ∈ rest,Admits (inPostgres collate call tables).2 later := by
      intro later inside
      have known := admits later (List.mem_cons_of_mem _ inside)
      cases later with
      | approve user authenticated now =>
        refine ⟨?_,known.2⟩
        rw [call_identities]
        exact known.1
      | deny | poll => trivial
    obtain ⟨answers,after⟩ := ih agrees.mirrors onward
    simp only [runAll]
    exact ⟨by rw [agrees.answer,answers],after⟩

end

def demoRow : DeviceRow where
  userCode := 2
  clientId := "tv"
  resource := none
  status := 0
  issuedAt := 0
  expiresAt := 600000
  pollInterval := 5
  identityId := none
  provider := none
  assurance := none
  factors := none
  phishingResistant := none
  authenticatedAt := none
  lastPollAt := none

def demoTables : DeviceTables where
  devices := (∅ : Map Sha256Digest DeviceRow).insert 1 demoRow
  scopes := [(1,Text.of "read")]
  identities := [Text.of "ann"]

theorem demo_unique : ∀ (device other : Sha256Digest) (row row' : DeviceRow),demoTables.devices[device]? = some row →
    demoTables.devices[other]? = some row' → row.userCode = row'.userCode → device = other := by
  have only : ∀ (device : Sha256Digest) (row : DeviceRow),demoTables.devices[device]? = some row → (1 : Sha256Digest) = device := by
    intro device row stored
    rcases Map.insert_cases stored with ⟨same,-⟩ | none
    · exact same
    · simp at none
  intro device other row row' one two _
  exact (only device row one).symm.trans (only other row' two)

def demoCalls : List DeviceCall :=
  [.poll 1 ⟨"tv"⟩ 1,.poll 1 ⟨"tv"⟩ 2,.approve 2 demoSession 3,.deny 2 4,.poll 1 ⟨"tv"⟩ 6000,.poll 1 ⟨"tv"⟩ 6001]

theorem demo_admits : ∀ call ∈ demoCalls,Admits demoTables call := by
  intro call inside
  simp only [demoCalls,List.mem_cons,List.not_mem_nil,or_false] at inside
  rcases inside with rfl | rfl | rfl | rfl | rfl | rfl
  · trivial
  · trivial
  · exact ⟨List.mem_cons_self,by decide⟩
  · trivial
  · trivial
  · trivial

-- The second poll comes too soon, and the last one after the code has been handed over.
theorem postgres_refines_memory_demo :
    (runAll (inPostgres id) demoCalls demoTables).1 = (runAll inMemory demoCalls (memoryOf id demoTables)).1 ∧
      (runAll (inPostgres id) demoCalls demoTables).1[1]? = some (.polled (some ⟨.slowDown,none,5005⟩)) ∧
        (runAll (inPostgres id) demoCalls demoTables).1[5]? = some (.polled none) := by
  refine ⟨(postgres_refines_memory demoCalls (memory_mirrors demo_unique) demo_admits).1,?_,?_⟩
  · decide
  · decide

end OpenProof.PostgresDevices
