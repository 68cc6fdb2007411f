import OpenProof.CodeRedemptions

namespace OpenProof.PostgresCodes
open CallTraces CallLogs CallHistories Foundation CodeRedemptions World Identities Clients
open Authorizations

-- `oauth_authorization_codes`, its key apart.
structure CodeRow where
  clientId : Text
  identityId : Text
  redirectUri : Text
  codeChallenge : Text
  nonce : Option Text
  provider : Text
  assurance : Nat
  factors : Nat
  phishingResistant : Bool
  authenticatedAt : Instant
  issuedAt : Instant
  expiresAt : Instant
  resource : Option Text

structure CodeTables where
  codes : Map CodeDigest CodeRow
  scopes : List (CodeDigest × Text)

-- What the schema decides besides its keys: the order of a text column, and which rows
-- its CHECKs and foreign keys let in.
structure Schema where
  collate : List Text → List Text
  permits : CodeRow → Bool

def assuranceLevel : Nat → AssuranceLevel
  | 0 => .ial0
  | 1 => .ial1
  | 2 => .ial2
  | 3 => .ial3
  | _ => .ial4

theorem assuranceLevel_rank (level : AssuranceLevel) : assuranceLevel level.rank = level := by
  cases level <;> rfl

def authenticationFailure (detail : Text) : Error :=
  .of .authenticationFailed (defaultErrorMessage .authenticationFailed) detail

def databaseError (code : ErrorCode) (operation : Text) : Error := .of code (defaultErrorMessage code) operation

def nullIfEmpty (value : Option Text) : Option Text := value.filter fun text => !text.isEmpty

def rowOf (value : AuthorizationCode) : CodeRow where
  clientId := value.clientId.value
  identityId := value.identity.value
  redirectUri := value.redirectUri
  codeChallenge := value.codeChallenge.value
  nonce := nullIfEmpty value.nonce
  provider := value.provider.value
  assurance := value.assurance.rank
  factors := value.strength.factors.toNat
  phishingResistant := value.strength.phishingResistant
  authenticatedAt := value.authenticatedAt
  issuedAt := value.issuedAt
  expiresAt := value.expiresAt
  resource := nullIfEmpty value.resource

namespace CodeTables

def add (schema : Schema) (value : AuthorizationCode) (tables : CodeTables) : Result Unit × CodeTables :=
  if tables.codes.holds value.digest then
    (.error (databaseError .alreadyExists "insert OAuth authorization code"),tables)
  else if !schema.permits (rowOf value) then
    (.error (databaseError .failedPrecondition "insert OAuth authorization code"),tables)
  else if !(value.scopes.map Scope.value).Nodup then
    (.error (databaseError .alreadyExists "insert authorization code scope"),tables)
  else (.ok (),⟨tables.codes.insert value.digest (rowOf value),
    tables.scopes ++ value.scopes.map fun scope => (value.digest,scope.value)⟩)

def scopeRows (schema : Schema) (digest : CodeDigest) (tables : CodeTables) : List Text :=
  schema.collate ((tables.scopes.filter fun row => row.1 == digest).map Prod.snd)

def load (schema : Schema) (digest : CodeDigest) (tables : CodeTables) : Result AuthorizationCode := do
  match tables.codes[digest]? with
  | none => .error (authenticationFailure "Authorization code was not found or was already consumed.")
  | some row =>
    let scopes ← (tables.scopeRows schema digest).mapM Scope.create
    if row.assurance > 4 || row.factors > 7 then .error (.plain .internal)
    let challenge ← PkceChallenge.create row.codeChallenge
    AuthorizationCode.restore digest ⟨row.clientId⟩ ⟨row.identityId⟩ row.redirectUri scopes challenge row.nonce
      ⟨row.provider⟩ (assuranceLevel row.assurance) ⟨UInt8.ofNat row.factors,row.phishingResistant⟩
      row.authenticatedAt row.issuedAt row.expiresAt row.resource

def delete (digest : CodeDigest) (tables : CodeTables) : CodeTables :=
  ⟨tables.codes.erase digest,tables.scopes.filter fun row => row.1 != digest⟩

def consumeBound (schema : Schema) (digest : CodeDigest) (now : Instant)
    (expectedClientId expectedRedirectUri expectedCodeChallenge : Text) (tables : CodeTables) :
    Result AuthorizationCode × CodeTables :=
  match tables.load schema digest with
  | .error e => (.error e,tables)
  | .ok code =>
    if code.expiredAt now then
      (.error (authenticationFailure "Authorization code was not found or was already consumed."),tables.delete digest)
    else if code.clientId.value ≠ expectedClientId ∨ code.redirectUri ≠ expectedRedirectUri
        ∨ code.codeChallenge.value ≠ expectedCodeChallenge then
      (.error (authenticationFailure "Authorization code was not found or was already consumed."),tables)
    else (.ok code,tables.delete digest)

end CodeTables

def exec (schema : Schema) : (op : CodeOp) → CodeTables → op.Ret × CodeTables
  | .add code,tables => tables.add schema code
  | .consumeBound digest now clientId redirectUri codeChallenge,tables =>
    tables.consumeBound schema digest now clientId redirectUri codeChallenge

def Fits (code : AuthorizationCode) (clientId redirectUri challenge : Text) : Prop :=
  code.clientId.value = clientId ∧ code.redirectUri = redirectUri ∧ code.codeChallenge.value = challenge

def Misses (digest : CodeDigest) (code : AuthorizationCode) (op : CodeOp) : Prop :=
  ∃ now clientId redirectUri challenge,op = .consumeBound digest now clientId redirectUri challenge ∧
    now < code.expiresAt ∧ ¬Fits code clientId redirectUri challenge

def Spends (digest : CodeDigest) (code : AuthorizationCode) (op : CodeOp) : Prop :=
  ∃ now clientId redirectUri challenge,op = .consumeBound digest now clientId redirectUri challenge ∧
    (code.expiresAt ≤ now ∨ Fits code clientId redirectUri challenge)

-- The contract of `AuthorizationCodeStore` on a code that it holds.
structure Honours {W : Type} (exec : (op : CodeOp) → W → op.Ret × W) (holds : W → CodeDigest → AuthorizationCode → Prop) :
    Prop where
  redeemed : ∀ w digest code now,holds w digest code → now < code.expiresAt →
    (exec (.consumeBound digest now code.clientId.value code.redirectUri code.codeChallenge.value) w).1 = .ok code
  refused : ∀ w digest code now clientId redirectUri challenge,holds w digest code →
    ¬(now < code.expiresAt ∧ Fits code clientId redirectUri challenge) →
      ∃ e,(exec (.consumeBound digest now clientId redirectUri challenge) w).1 = .error e
  missed : ∀ w digest code op,holds w digest code → Misses digest code op → (exec op w).2 = w
  kept : ∀ w digest code op,holds w digest code → ¬Spends digest code op → holds (exec op w).2 digest code

def SurvivesMismatch {W : Type} (S : Stage CodeOp CodeOp.Ret W) (holds : W → CodeDigest → AuthorizationCode → Prop) : Prop :=
  ∀ (α : Type) (initial : W) (floor : Floor CodeOp CodeOp.Ret Error α W),Plays S initial floor →
    ∀ digest code first (bad : Entry _ _ _) (between : List (Entry _ _ _)) (later : Entry _ _ _) after,floor.log = first ++ bad :: (between ++ later :: after) →
      holds bad.found digest code → Misses digest code bad.exchange.1 →
        (∀ entry ∈ between,¬Spends digest code entry.exchange.1) →
          (S.exec bad.exchange.1 bad.found).2 = bad.found ∧
            ∀ now clientId redirectUri challenge answer,
              later.exchange = ⟨.consumeBound digest now clientId redirectUri challenge,answer⟩ →
                (answer = .ok code ↔ now < code.expiresAt ∧ Fits code clientId redirectUri challenge) ∧
                  ∀ other,answer = .ok other → other = code

section
variable {W : Type} {holds : W → CodeDigest → AuthorizationCode → Prop} {digest : CodeDigest}
  {code : AuthorizationCode} {op : CodeOp} {schema : Schema} {tables : CodeTables}

theorem misses_spares (misses : Misses digest code op) : ¬Spends digest code op := by
  rintro ⟨now,clientId,redirectUri,challenge,rfl,spends⟩
  obtain ⟨_,_,_,_,same,early,foreign⟩ := misses
  cases same
  rcases spends with late | fits
  · exact absurd early (Int.not_lt.mpr late)
  · exact foreign fits

theorem Honours.survives (honours : Honours S.exec holds)
    (still : ∀ digest code w w',S.drift w w' → holds w digest code → holds w' digest code) : SurvivesMismatch S holds := by
  intro α initial floor played digest code first bad between later after split held misses spared
  refine ⟨honours.missed _ _ _ _ held misses,?_⟩
  have there : holds later.found digest code := by
    apply kept_until (φ:=fun w => holds w digest code) played (still digest code) split
    · exact honours.kept _ _ _ _ held (misses_spares misses)
    · intro entry inside known
      exact honours.kept _ _ _ _ known (spared entry inside)
  intro now clientId redirectUri challenge answer attempt
  obtain ⟨same,answered⟩ := executed_as ((Plays.exchanged played later (by simp [split])).trans attempt)
  by_cases good : now < code.expiresAt ∧ Fits code clientId redirectUri challenge
  · obtain ⟨early,rfl,rfl,rfl⟩ := good
    have taken := honours.redeemed _ _ _ _ there early
    rw [answered] at taken
    refine ⟨⟨fun _ => ⟨early,rfl,rfl,rfl⟩,fun _ => taken⟩,?_⟩
    rintro other rfl
    exact Except.ok.inj taken
  · obtain ⟨e,failed⟩ := honours.refused _ _ _ _ _ _ _ there good
    rw [answered] at failed
    subst failed
    exact ⟨⟨nofun,fun fits => absurd fits good⟩,nofun⟩

theorem memory_honours : Honours CodeOp.exec fun codes digest code => codes[digest]? = some code where
  redeemed := by
    intro codes digest code now stored early
    simp [CodeOp.exec,CodeStore.consumeBound,stored,AuthorizationCode.expiredAt,Int.not_le.mpr early]
  refused := by
    intro codes digest code now clientId redirectUri challenge stored bad
    rcases consumeBound_cases digest now clientId redirectUri challenge codes with
      ⟨other,found,early,client,redirect,bound,-⟩ | ⟨later,same,-⟩
    · rw [stored] at found
      cases found
      exact absurd ⟨early,client,redirect,bound⟩ bad
    · exact ⟨_,congrArg Prod.fst same⟩
  missed := by
    rintro codes digest code _ stored ⟨now,clientId,redirectUri,challenge,rfl,early,foreign⟩
    rcases consumeBound_cases digest now clientId redirectUri challenge codes with
      ⟨other,found,-,client,redirect,bound,-⟩ | ⟨later,same,rfl | ⟨-,other,found,late⟩⟩
    · rw [stored] at found
      cases found
      exact absurd ⟨client,redirect,bound⟩ foreign
    · exact congrArg Prod.snd same
    · rw [stored] at found
      cases found
      exact absurd early (Int.not_lt.mpr late)
  kept := by
    intro codes digest code op stored spared
    cases op with
    | add added =>
      rcases add_cases added codes with ⟨absent,same⟩ | ⟨e,same⟩
      · simp only [CodeOp.exec,same,Map.find_insert]
        split
        · rename_i here
          rw [here,stored] at absent
          cases absent
        · exact stored
      · simp only [CodeOp.exec,same,stored]
    | consumeBound other now clientId redirectUri challenge =>
      simp only [CodeOp.exec]
      by_cases here : other = digest
      · subst here
        rcases consumeBound_cases other now clientId redirectUri challenge codes with
          ⟨found,there,-,client,redirect,bound,-⟩ | ⟨later,same,rfl | ⟨-,found,there,late⟩⟩
        · rw [stored] at there
          cases there
          exact absurd ⟨now,_,_,_,rfl,.inr ⟨client,redirect,bound⟩⟩ spared
        · rw [same]
          exact stored
        · rw [stored] at there
          cases there
          exact absurd ⟨now,_,_,_,rfl,.inl late⟩ spared
      · rcases consumeBound_cases other now clientId redirectUri challenge codes with
          ⟨found,-,-,-,-,-,same⟩ | ⟨later,same,rfl | ⟨rfl,-⟩⟩
        · simpa [same,here] using stored
        · rw [same]
          exact stored
        · simpa [same,here] using stored

theorem load_frame {other : CodeTables} (row : other.codes[digest]? = tables.codes[digest]?)
    (scopes : (other.scopes.filter fun entry => entry.1 == digest) = tables.scopes.filter fun entry => entry.1 == digest) :
    other.load schema digest = tables.load schema digest := by
  simp only [CodeTables.load,CodeTables.scopeRows,row,scopes]

theorem load_stored (loaded : tables.load schema digest = .ok code) : ∃ row,tables.codes[digest]? = some row := by
  unfold CodeTables.load at loaded
  cases stored : tables.codes[digest]? with
  | none =>
    rw [stored] at loaded
    cases loaded
  | some row => exact ⟨row,rfl⟩

theorem load_delete {other : CodeDigest} (apart : other ≠ digest) :
    (tables.delete other).load schema digest = tables.load schema digest := by
  apply load_frame
  · simp [CodeTables.delete,apart]
  · simp only [CodeTables.delete,List.filter_filter]
    apply List.filter_congr
    intro entry _
    by_cases mine : entry.1 = digest
    · simp [mine,Ne.symm apart]
    · simp [mine]

theorem load_add (stored : tables.codes[digest]? = some row) :
    (tables.add schema added).2.load schema digest = tables.load schema digest := by
  unfold CodeTables.add Map.holds
  split_ifs with present
  · rfl
  · rfl
  · rfl
  · have apart : added.digest ≠ digest := by
      rintro rfl
      simp [stored] at present
    apply load_frame
    · simp [apart]
    · simp [List.filter_append,List.filter_map,Function.comp_def,apart]

theorem attempt_cases (loaded : tables.load schema digest = .ok code) (now : Instant) (clientId redirectUri challenge : Text) :
    (code.expiresAt ≤ now ∧ ∃ e,tables.consumeBound schema digest now clientId redirectUri challenge =
      (.error e,tables.delete digest)) ∨ (now < code.expiresAt ∧ ¬Fits code clientId redirectUri challenge ∧
      ∃ e,tables.consumeBound schema digest now clientId redirectUri challenge = (.error e,tables)) ∨
    now < code.expiresAt ∧ Fits code clientId redirectUri challenge ∧
      tables.consumeBound schema digest now clientId redirectUri challenge = (.ok code,tables.delete digest) := by
  unfold CodeTables.consumeBound
  rw [loaded]
  dsimp only
  by_cases late : code.expiresAt ≤ now
  · left
    exact ⟨late,_,by simp [AuthorizationCode.expiredAt,late]; rfl⟩
  · right
    have early := Int.not_le.mp late
    by_cases fits : Fits code clientId redirectUri challenge
    · right
      obtain ⟨client,redirect,bound⟩ := fits
      exact ⟨early,⟨client,redirect,bound⟩,by simp [AuthorizationCode.expiredAt,late,client,redirect,bound]⟩
    · left
      refine ⟨early,fits,authenticationFailure "Authorization code was not found or was already consumed.",?_⟩
      rw [if_neg (by simpa [AuthorizationCode.expiredAt] using early),if_pos]
      by_contra bound
      simp only [ne_eq,not_or,not_not] at bound
      exact fits ⟨bound.1,bound.2.1,bound.2.2⟩

theorem postgres_honours (schema : Schema) :
    Honours (exec schema) fun tables digest code => tables.load schema digest = .ok code where
  redeemed := by
    intro tables digest code now loaded early
    rcases attempt_cases loaded now code.clientId.value code.redirectUri code.codeChallenge.value with
      ⟨late,-⟩ | ⟨-,foreign,-⟩ | ⟨-,-,same⟩
    · exact absurd early (Int.not_lt.mpr late)
    · exact absurd ⟨rfl,rfl,rfl⟩ foreign
    · exact congrArg Prod.fst same
  refused := by
    intro tables digest code now clientId redirectUri challenge loaded bad
    rcases attempt_cases loaded now clientId redirectUri challenge with ⟨-,e,same⟩ | ⟨-,-,e,same⟩ | ⟨early,fits,-⟩
    · exact ⟨e,congrArg Prod.fst same⟩
    · exact ⟨e,congrArg Prod.fst same⟩
    · exact absurd ⟨early,fits⟩ bad
  missed := by
    rintro tables digest code _ loaded ⟨now,clientId,redirectUri,challenge,rfl,early,foreign⟩
    rcases attempt_cases loaded now clientId redirectUri challenge with ⟨late,-⟩ | ⟨-,-,e,same⟩ | ⟨-,fits,-⟩
    · exact absurd early (Int.not_lt.mpr late)
    · exact congrArg Prod.snd same
    · exact absurd fits foreign
  kept := by
    intro tables digest code op loaded spared
    cases op with
    | add added =>
      obtain ⟨row,stored⟩ := load_stored loaded
      exact (load_add stored).trans loaded
    | consumeBound other now clientId redirectUri challenge =>
      simp only [exec]
      by_cases here : other = digest
      · subst here
        rcases attempt_cases loaded now clientId redirectUri challenge with ⟨late,-⟩ | ⟨-,-,e,same⟩ | ⟨-,fits,-⟩
        · exact absurd ⟨now,_,_,_,rfl,.inl late⟩ spared
        · rw [same]
          exact loaded
        · exact absurd ⟨now,_,_,_,rfl,.inr fits⟩ spared
      · cases found : tables.load schema other with
        | error e =>
          simp only [CodeTables.consumeBound,found]
          exact loaded
        | ok stored =>
          have gone : (tables.delete other).load schema digest = .ok code := (load_delete here).trans loaded
          rcases attempt_cases found now clientId redirectUri challenge with ⟨-,e,same⟩ | ⟨-,-,e,same⟩ | ⟨-,-,same⟩
          · rw [same]
            exact gone
          · rw [same]
            exact loaded
          · rw [same]
            exact gone

end

def memoryStage : Stage CodeOp CodeOp.Ret CodeStore where
  exec := CodeOp.exec
  drift before after := ∀ (digest : CodeDigest) (code : AuthorizationCode),before[digest]? = some code →
    after[digest]? = some code

def postgresStage (schema : Schema) : Stage CodeOp CodeOp.Ret CodeTables where
  exec := exec schema
  drift before after := ∀ digest code,before.load schema digest = .ok code → after.load schema digest = .ok code

theorem codes_survive_mismatch (schema : Schema) :
    SurvivesMismatch memoryStage (fun codes digest code => codes[digest]? = some code) ∧
      SurvivesMismatch (postgresStage schema) fun tables digest code => tables.load schema digest = .ok code := by
  constructor
  · exact memory_honours.survives fun digest code _ _ moved => moved digest code
  · exact (postgres_honours schema).survives fun digest code _ _ moved => moved digest code

def redeemedOf : Except Error CodeReply → Option AuthorizationCode
  | .ok (.redeemed code) => some code
  | _ => none

def misses (code : AuthorizationCode) (entry : CodeEntry) : Bool :=
  match entry.exchange.1 with
  | .code (.consumeBound digest now _ redirectUri _) => decide (digest = code.digest) &&
      decide (entry.found.codes[digest]? = some code) && decide (now < code.expiresAt) &&
        decide (code.redirectUri ≠ redirectUri)
  | _ => false

theorem misses_attempt {code : AuthorizationCode} (missed : misses code entry = true) :
    ∃ op,entry.exchange.1 = .code op ∧ entry.found.codes[code.digest]? = some code ∧ Misses code.digest code op := by
  unfold misses at missed
  split at missed
  · rename_i digest now clientId redirectUri challenge same
    simp only [Bool.and_eq_true,decide_eq_true_eq] at missed
    obtain ⟨⟨⟨rfl,stored⟩,early⟩,foreign⟩ := missed
    exact ⟨_,same,stored,now,_,_,_,rfl,early,fun fits => foreign fits.2.1⟩
  · cases missed

theorem mismatched_then_redeemed : ∃ (floor : CodeFloor) (code : AuthorizationCode) (e : Error),
    Plays codeStage (TokenActs.demoState ["k1"]) floor ∧ Serves TokenActs.demoDeployment floor ∧
      (∃ bad ∈ floor.log,bad.caller = 1 ∧ ∃ op,bad.exchange.1 = .code op ∧
        bad.found.codes[code.digest]? = some code ∧ Misses code.digest code op) ∧
          floor.members[1]? = some ⟨demoRedeem "https://evil.example/cb",.fail e⟩ ∧
            floor.members[2]? = some ⟨demoRedeem "https://shop.example/cb",.ret (.redeemed code)⟩ := by
  let turns : List (Turn Op Op.Ret Error CodeReply State) := .enter demoAuthorize :: steps 0 5 ++
    .enter (demoRedeem "https://evil.example/cb") :: steps 1 4 ++ .enter (demoRedeem "https://shop.example/cb") :: steps 2 4
  have done : (takeTurns World.exec turns (⟨TokenActs.demoState ["k1"],[],[]⟩ : CodeFloor)).any (fun floor =>
      ((floor.members[1]?.bind fun m => ended m.rest).any fun r => !r.isOk) &&
        (floor.members[2]?.bind fun m => ended m.rest).any fun r => redeems r &&
          floor.log.any fun entry => entry.caller == 1 && (redeemedOf r).any fun code => misses code entry) = true := by
    decide
  obtain ⟨floor,taken,holds⟩ := (Option.any_eq_true _ _).mp done
  simp only [Bool.and_eq_true] at holds
  have played : Plays codeStage (TokenActs.demoState ["k1"]) floor :=
    Plays.start.turns (by simp [turns,steps,Turn.Allowed]) taken
  have serves := demo_serves taken (rfl : _ = demoAuthorize ::
    [Text.of "https://evil.example/cb",Text.of "https://shop.example/cb"].map demoRedeem)
  obtain ⟨r,refused,bad⟩ := takeTurns_ended taken rfl holds.1
  obtain ⟨r',member,good⟩ := takeTurns_ended taken rfl holds.2
  simp only [Bool.and_eq_true] at good
  obtain ⟨code,rfl⟩ := redeems_code good.1
  obtain ⟨entry,inside,missed⟩ := List.any_eq_true.mp good.2
  simp only [redeemedOf,Option.any_some,Bool.and_eq_true,beq_iff_eq] at missed
  cases r with
  | ok reply => cases bad
  | error e => exact ⟨floor,code,e,played,serves,⟨entry,inside,missed.1,misses_attempt missed.2⟩,refused,member⟩

end OpenProof.PostgresCodes
