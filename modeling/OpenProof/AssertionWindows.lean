import OpenProof.SignedAssertions

namespace OpenProof.AssertionWindows
open AuthenticationTransactions List
open EvidenceRecords (Evidence validEvidence validText)
open Foundation Http Identities IdTokens PasskeyProvider
open SignedAssertions

structure WellFormed (now : Instant) (expires : Int) (object : JsonObject) : Prop where
  kind : ∃ kind,stringClaim object "kind" = some kind ∧ validText kind 128 = true
  claim : ∃ claim,stringClaim object "claim" = some claim ∧ validText claim 128 = true
  value : ∃ value,stringClaim object "value" = some value ∧ validText value 4096 = true
  confidence : ∃ confidence,integerClaim object "confidence" = some confidence ∧ 0 ≤ confidence ∧ confidence ≤ 100
  expiry : ∀ itemExp,integerClaim object "exp" = some itemExp → now < itemExp * 1000 ∧ itemExp ≤ expires

section
variable (p : Platform) (v : SignedJwtVerifier) (identity : IdentityId) (now : Instant)

structure Presented (publicInputs secretInputs : AttributeMap) (payload : JsonObject) (issued expires : Int)
    (items : List JsonObject) : Prop where
  named : identity.empty = false
  signed : ∃ challenge assertion headerJson payloadJson header,publicInputs[Text.of "challenge"]? = some challenge ∧
    secretInputs[Text.of "assertion"]? = some assertion ∧ challenge.isEmpty = false ∧ challenge.length ≤ 256 ∧
    assertion.isEmpty = false ∧ assertion.length ≤ kMaximumAssertionBytes ∧
    p.verifyRs256Jwt v.publicKeyPem assertion = .ok (headerJson,payloadJson) ∧
    p.parseJson headerJson = some (.object header) ∧ p.parseJson payloadJson = some (.object payload) ∧
    stringClaim header "alg" = some (Text.of "RS256") ∧ stringClaim payload "nonce" = some challenge
  issuer : stringClaim payload "iss" = some v.issuer
  subject : stringClaim payload "sub" = some identity.value
  audience : audienceContains payload v.audience = true
  issuedAt : integerClaim payload "iat" = some issued
  expiresAt : integerClaim payload "exp" = some expires
  evidence : payload.find "evidence" = some (.array (items.map .object))
  some : items ≠ []
  few : items.length ≤ kMaximumEvidenceItems
  wellFormed : ∀ object ∈ items,WellFormed now expires object

-- The acceptance window: whole seconds, a minute of skew on either side.
structure Within (payload : JsonObject) (issued expires : Int) : Prop where
  order : issued < expires
  begun : issued ≤ unixSeconds now + kClockSkewSeconds
  recent : unixSeconds now - Int.tdiv v.maximumAge 1000 - kClockSkewSeconds ≤ issued
  running : unixSeconds now - kClockSkewSeconds < expires
  active : ∀ notBefore,integerClaim payload "nbf" = some notBefore → notBefore ≤ unixSeconds now + kClockSkewSeconds

structure Recordable (expires : Int) (items : List JsonObject) : Prop where
  issuer : validText v.issuer 4096 = true
  whole : now < fromUnixSeconds expires ∧ fromUnixSeconds expires ≤ expires * 1000
  each : ∀ object ∈ items,∀ itemExp,integerClaim object "exp" = some itemExp →
    unixSeconds now < itemExp ∧ now < fromUnixSeconds itemExp ∧ fromUnixSeconds itemExp ≤ expires * 1000

end

structure Lists (object : JsonObject) (record : Evidence) : Prop where
  kind : stringClaim object "kind" = some record.kind
  claim : stringClaim object "claim" = some record.claim
  value : stringClaim object "value" = some record.value
  confidence : integerClaim object "confidence" = some (record.confidence : Int)

def Complete (v : SignedJwtVerifier) (expires : Int) (items : List JsonObject) (output : List Evidence) : Prop :=
  ∃ summary records,output = summary :: records ∧
    (summary.kind = Text.of "jwt.attestation" ∧ summary.claim = Text.of "issuer" ∧ summary.value = v.issuer) ∧
    List.Forall₂ Lists items records ∧ ∀ record ∈ output,∃ expiry,record.expiresAt = some expiry ∧ expiry ≤ expires * 1000

section
variable {start seconds last : Int}

theorem tdiv_lt (era : 0 ≤ start) (later : start < seconds * 1000) : Int.tdiv start 1000 < seconds := by
  rw [Int.tdiv_eq_ediv_of_nonneg era]
  omega

theorem ahead_fits (era : 0 ≤ start) (later : start < seconds * 1000) (bound : seconds ≤ last)
    (fits : last * 1000 < 9223372036854775808) : Fits seconds := ⟨by omega,by omega⟩

end

section
variable {p : Platform} {v : SignedJwtVerifier} {identity : IdentityId} {now : Instant} {expires : Int}

theorem create_fields {id : EvidenceRecords.EvidenceId}
    (made : Evidence.create id identity provider kind claim value confidence now expiresAt = .ok record) :
    record.kind = kind ∧ record.claim = claim ∧ record.value = value ∧ record.confidence = confidence ∧
      record.expiresAt = expiresAt ∧ validEvidence id identity provider kind claim value confidence now expiresAt = true := by
  unfold Evidence.create Evidence.restore at made
  split at made
  · rename_i valid
    cases made
    exact ⟨rfl,rfl,rfl,rfl,rfl,valid⟩
  · cases made

theorem makeEvidence_fields
    (made : makeEvidence p draw identity provider kind claim value confidence now (some expiresAt) = .ok record) :
    (record.kind = kind ∧ record.claim = claim ∧ record.value = value ∧ record.confidence = confidence ∧
      record.expiresAt = some expiresAt) ∧ validText value 4096 = true ∧ now < expiresAt := by
  unfold makeEvidence at made
  split at made
  · cases made
  obtain ⟨one,two,three,four,five,valid⟩ := create_fields made
  simp only [validEvidence,Bool.and_eq_true,Option.all_some,decide_eq_true_eq] at valid
  exact ⟨⟨one,two,three,four,five⟩,valid.1.1.2,valid.2⟩

def Draws (p : Platform) : Prop := ∀ draw,∃ bytes,p.randomBytes draw = .ok bytes ∧ bytes.length = 24

variable (v draw) in
theorem makeEvidence_made (random : Draws p) (named : identity.empty = false)
    (kindValid : validText kind 128 = true) (claimValid : validText claim 128 = true)
    (valueValid : validText value 4096 = true) (sure : confidence ≤ 100) (later : now < expiresAt) :
    ∃ record,makeEvidence p draw identity v.provider kind claim value confidence now (some expiresAt) = .ok record := by
  obtain ⟨bytes,drawn,long⟩ := random draw
  have provider : v.provider.empty = false := by
    have valid := v.valid
    simp only [Bool.or_eq_false_iff] at valid
    exact valid.1.1.1.1.1
  have id : (⟨toBase64Url bytes⟩ : EvidenceRecords.EvidenceId).empty = false := by
    match bytes,long with
    | first :: second :: third :: rest,_ => rfl
  have valid : validEvidence ⟨toBase64Url bytes⟩ identity v.provider kind claim value confidence now (some expiresAt) = true := by
    simp [validEvidence,id,named,provider,kindValid,claimValid,valueValid,sure,later]
  exact ⟨_,by simp only [makeEvidence,evidenceId,drawn,Evidence.create,Evidence.restore,dif_pos valid]; rfl⟩

def expiryOf (expires : Int) (object : JsonObject) : Instant := fromUnixSeconds ((integerClaim object "exp").getD expires)

theorem listed_reads (made : listedEvidence p v identity now expires draw (.object object) = .ok record) :
    Lists object record ∧ record.expiresAt = some (expiryOf expires object) ∧
      ∀ itemExp,integerClaim object "exp" = some itemExp → unixSeconds now < itemExp ∧ now < fromUnixSeconds itemExp := by
  rw [listedEvidence] at made
  split at made
  · rename_i kind claim value confidence isKind isClaim isValue isConfidence
    obtain ⟨range,made⟩ := passed made
    simp only [Bool.or_eq_true,decide_eq_true_eq,not_or,Int.not_lt] at range
    have lists : ∀ {expiresAt : Instant},
        makeEvidence p draw identity v.provider kind claim value confidence.toNat now (some expiresAt) = .ok record →
        Lists object record ∧ record.expiresAt = some expiresAt ∧ now < expiresAt := by
      intro expiresAt made
      obtain ⟨⟨one,two,three,four,five⟩,-,later⟩ := makeEvidence_fields made
      refine ⟨⟨?_,?_,?_,?_⟩,five,later⟩
      · rw [isKind,one]
      · rw [isClaim,two]
      · rw [isValue,three]
      · rw [isConfidence,four,Int.toNat_of_nonneg range.1]
    unfold expiryOf
    split at made
    · rename_i none
      obtain ⟨said,expiry,-⟩ := lists made
      rw [none]
      refine ⟨said,expiry,fun itemExp own => ?_⟩
      cases own
    · rename_i itemExp own
      obtain ⟨inside,made⟩ := passed made
      simp only [Bool.or_eq_true,decide_eq_true_eq,not_or,Int.not_le] at inside
      obtain ⟨said,expiry,later⟩ := lists made
      rw [own]
      refine ⟨said,expiry,fun other same => ?_⟩
      cases same
      exact ⟨inside.1,later⟩
  · cases made

variable (v draw) in
theorem listed_made (random : Draws p) (named : identity.empty = false) (good : WellFormed now expires object)
    (whole : now < fromUnixSeconds expires)
    (own : ∀ itemExp,integerClaim object "exp" = some itemExp → unixSeconds now < itemExp ∧ now < fromUnixSeconds itemExp) :
    ∃ record,listedEvidence p v identity now expires draw (.object object) = .ok record := by
  obtain ⟨kind,isKind,kindValid⟩ := good.kind
  obtain ⟨claim,isClaim,claimValid⟩ := good.claim
  obtain ⟨value,isValue,valueValid⟩ := good.value
  obtain ⟨confidence,isConfidence,low,high⟩ := good.confidence
  have made : ∀ {expiresAt : Instant},now < expiresAt → ∃ record,
      makeEvidence p draw identity v.provider kind claim value confidence.toNat now (some expiresAt) = .ok record :=
    fun later => makeEvidence_made v draw random named kindValid claimValid valueValid (by omega) later
  have range : ¬(decide (confidence < 0) || decide (confidence > 100)) = true := by
    simp only [Bool.or_eq_true,decide_eq_true_eq]
    omega
  unfold listedEvidence
  simp only [isKind,isClaim,isValue,isConfidence,if_neg range]
  cases stated : integerClaim object "exp" with
  | none => exact made whole
  | some itemExp =>
    have inside := good.expiry itemExp stated
    have ahead := own itemExp stated
    have allowed : ¬(decide (itemExp ≤ unixSeconds now) || decide (itemExp > expires)) = true := by
      simp only [Bool.or_eq_true,decide_eq_true_eq,not_or,Int.not_le,Int.not_lt]
      exact ⟨ahead.1,inside.2⟩
    simp only [if_neg allowed]
    exact made ahead.2

structure Records (now : Instant) (expires : Int) (object : JsonObject) (record : Evidence) : Prop where
  lists : Lists object record
  expiry : record.expiresAt = some (expiryOf expires object)
  own : ∀ itemExp,integerClaim object "exp" = some itemExp → unixSeconds now < itemExp ∧ now < fromUnixSeconds itemExp

theorem listeds_read {items : List JsonObject}
    (made : listedEvidences p v identity now expires draw (items.map .object) = .ok records) :
    List.Forall₂ (Records now expires) items records := by
  induction items generalizing draw records with
  | nil =>
    cases made
    exact .nil
  | cons object rest ih =>
    rw [map_cons,listedEvidences] at made
    split at made
    · cases made
    rename_i first firstMade
    split at made
    · cases made
    rename_i others othersMade
    cases made
    obtain ⟨lists,expiry,own⟩ := listed_reads firstMade
    exact .cons ⟨lists,expiry,own⟩ (ih othersMade)

variable (v draw) in
theorem listeds_made (random : Draws p) (named : identity.empty = false) {items : List JsonObject}
    (good : ∀ object ∈ items,WellFormed now expires object) (whole : now < fromUnixSeconds expires)
    (own : ∀ object ∈ items,∀ itemExp,integerClaim object "exp" = some itemExp →
      unixSeconds now < itemExp ∧ now < fromUnixSeconds itemExp) :
    ∃ records,listedEvidences p v identity now expires draw (items.map .object) = .ok records := by
  induction items generalizing draw with
  | nil => exact ⟨[],rfl⟩
  | cons object rest ih =>
    obtain ⟨record,made⟩ := listed_made v draw random named (good object List.mem_cons_self) whole
      (own object List.mem_cons_self)
    obtain ⟨records,others⟩ := ih (draw + 1) (fun later inside => good later (List.mem_cons_of_mem _ inside))
      fun later inside => own later (List.mem_cons_of_mem _ inside)
    refine ⟨record :: records,?_⟩
    rw [List.map_cons,listedEvidences,made]
    simp only [others]

theorem forall₂_left {R : JsonObject → Evidence → Prop} {items : List JsonObject} {records : List Evidence}
    (each : List.Forall₂ R items records) {object : JsonObject} (inside : object ∈ items) : ∃ record ∈ records,R object record := by
  induction each with
  | nil => cases inside
  | cons related _ ih =>
    rcases mem_cons.mp inside with rfl | later
    · exact ⟨_,mem_cons_self,related⟩
    · obtain ⟨record,member,found⟩ := ih later
      exact ⟨record,mem_cons_of_mem _ member,found⟩

theorem forall₂_right {R : JsonObject → Evidence → Prop} {items : List JsonObject} {records : List Evidence}
    (each : List.Forall₂ R items records) {record : Evidence} (inside : record ∈ records) : ∃ object ∈ items,R object record := by
  induction each with
  | nil => cases inside
  | cons related _ ih =>
    rcases mem_cons.mp inside with rfl | later
    · exact ⟨_,mem_cons_self,related⟩
    · obtain ⟨object,member,found⟩ := ih later
      exact ⟨object,mem_cons_of_mem _ member,found⟩

variable {publicInputs secretInputs : AttributeMap} {payload : JsonObject} {issued : Int} {items : List JsonObject} {output : List Evidence}

theorem checked_window (issuer : stringClaim payload "iss" = some v.issuer)
    (subject : stringClaim payload "sub" = some identity.value)
    (nonce : stringClaim payload "nonce" = some challenge) (audience : audienceContains payload v.audience = true)
    (issuedAt : integerClaim payload "iat" = some issued) (expiresAt : integerClaim payload "exp" = some expires) :
    checkPayload p v identity now challenge payload = .ok output ↔
      Within v now payload issued expires ∧ evidenceOf p v identity now payload expires = .ok output := by
  have window : (¬expires ≤ issued ∧ outsideWindow v now issued expires = false ∧ notActiveYet now payload = false) ↔
      Within v now payload issued expires := by
    simp only [outsideWindow,notActiveYet,Bool.or_eq_false_iff,decide_eq_false_iff_not,Int.not_le,Int.not_lt,gt_iff_lt]
    constructor
    · rintro ⟨order,⟨⟨begun,recent⟩,running⟩,active⟩
      refine ⟨order,begun,recent,running,?_⟩
      intro notBefore stated
      rw [stated] at active
      simpa using active
    · intro within
      refine ⟨within.order,⟨⟨within.begun,within.recent⟩,within.running⟩,?_⟩
      cases stated : integerClaim payload "nbf" with
      | none => rfl
      | some notBefore => simpa using within.active notBefore stated
  rw [← window]
  unfold checkPayload
  simp only [issuer,subject,nonce,issuedAt,expiresAt,audience,bne_self_eq_false,Bool.not_true,Bool.false_or,decide_eq_true_eq]
  split_ifs with order outside early <;> simp_all

theorem verify_window (presented : Presented p v identity now publicInputs secretInputs payload issued expires items) :
    verify p v identity now publicInputs secretInputs = .ok output ↔
      Within v now payload issued expires ∧ evidenceOf p v identity now payload expires = .ok output := by
  obtain ⟨challenge,assertion,headerJson,payloadJson,header,isChallenge,isAssertion,challengeSome,challengeShort,assertionSome,
    assertionShort,signed,isHeader,isPayload,algorithm,nonce⟩ := presented.signed
  rw [← checked_window presented.issuer presented.subject nonce presented.audience presented.issuedAt presented.expiresAt]
  unfold verify
  simp [isChallenge,isAssertion,presented.named,challengeSome,assertionSome,Nat.not_lt.mpr challengeShort,
    Nat.not_lt.mpr assertionShort,signed,parseObject,isHeader,isPayload,algorithm]

theorem evidence_reads (evidence : payload.find "evidence" = some (.array (items.map .object)))
    (made : evidenceOf p v identity now payload expires = .ok output) :
    (validText v.issuer 4096 = true ∧ now < fromUnixSeconds expires) ∧ ∃ summary records,output = summary :: records ∧
      (summary.kind = Text.of "jwt.attestation" ∧ summary.claim = Text.of "issuer" ∧ summary.value = v.issuer ∧
        summary.expiresAt = some (fromUnixSeconds expires)) ∧ List.Forall₂ (Records now expires) items records := by
  unfold evidenceOf at made
  split at made
  · cases made
  rename_i summary summed
  rw [evidence] at made
  obtain ⟨-,made⟩ := passed made
  split at made
  · cases made
  rename_i records listed
  cases made
  obtain ⟨⟨kind,claim,value,-,expiry⟩,admits,later⟩ := makeEvidence_fields summed
  exact ⟨⟨admits,later⟩,summary,records,rfl,⟨kind,claim,value,expiry⟩,listeds_read listed⟩

theorem evidence_made (random : Draws p) (presented : Presented p v identity now publicInputs secretInputs payload issued expires items)
    (recordable : Recordable v now expires items) : ∃ output,evidenceOf p v identity now payload expires = .ok output := by
  obtain ⟨summary,summed⟩ := makeEvidence_made v 0 random presented.named
    (show validText (Text.of "jwt.attestation") 128 = true by decide) (show validText (Text.of "issuer") 128 = true by decide)
    recordable.issuer (show 95 ≤ 100 by decide) recordable.whole.1
  obtain ⟨records,listed⟩ := listeds_made v 1 random presented.named presented.wellFormed recordable.whole.1
    fun object inside itemExp stated => ⟨(recordable.each object inside itemExp stated).1,(recordable.each object inside itemExp stated).2.1⟩
  have allowed : ¬((items.map Json.object).isEmpty || decide ((items.map Json.object).length > kMaximumEvidenceItems)) = true := by
    simp [presented.some,Nat.not_lt.mpr presented.few]
  refine ⟨summary :: records,?_⟩
  unfold evidenceOf
  simp only [summed,presented.evidence,if_neg allowed,listed]

theorem complete_of (kind : summary.kind = Text.of "jwt.attestation") (claim : summary.claim = Text.of "issuer")
    (value : summary.value = v.issuer) (expiry : summary.expiresAt = some (fromUnixSeconds expires))
    (each : List.Forall₂ (Records now expires) items records) (recordable : Recordable v now expires items) : Complete v expires items (summary :: records) := by
  refine ⟨summary,records,rfl,⟨kind,claim,value⟩,each.imp fun _ _ made => made.lists,?_⟩
  intro record inside
  rcases mem_cons.mp inside with rfl | listed
  · exact ⟨_,expiry,recordable.whole.2⟩
  · obtain ⟨object,member,made⟩ := forall₂_right each listed
    refine ⟨_,made.expiry,?_⟩
    unfold expiryOf
    cases stated : integerClaim object "exp" with
    | none => exact recordable.whole.2
    | some itemExp => exact (recordable.each object member itemExp stated).2.2

theorem recordable_of (admits : validText v.issuer 4096 = true) (later : now < fromUnixSeconds expires)
    (expiry : summary.expiresAt = some (fromUnixSeconds expires))
    (each : List.Forall₂ (Records now expires) items records)
    (bounded : ∀ record ∈ summary :: records,∃ last,record.expiresAt = some last ∧ last ≤ expires * 1000) :
    Recordable v now expires items := by
  refine ⟨admits,⟨later,?_⟩,?_⟩
  · obtain ⟨last,found,bound⟩ := bounded summary mem_cons_self
    rw [expiry] at found
    cases found
    exact bound
  · intro object inside itemExp stated
    obtain ⟨record,member,made⟩ := forall₂_left each inside
    obtain ⟨last,found,bound⟩ := bounded record (mem_cons_of_mem _ member)
    rw [made.expiry,expiryOf,stated] at found
    cases found
    exact ⟨(made.own itemExp stated).1,(made.own itemExp stated).2,bound⟩

theorem recordable_iff (good : ∀ object ∈ items,WellFormed now expires object) (admits : validText v.issuer 4096 = true)
    (era : 0 ≤ now) (fits : expires * 1000 < 9223372036854775808) : Recordable v now expires items ↔ now < expires * 1000 := by
  constructor
  · exact fun recordable => Int.lt_of_lt_of_le recordable.whole.1 recordable.whole.2
  · intro ahead
    have turns : ∀ seconds : Int,now < seconds * 1000 → seconds ≤ expires → fromUnixSeconds seconds = seconds * 1000 := by
      intro seconds later bound
      exact fromUnixSeconds_eq.mpr (ahead_fits era later bound fits)
    refine ⟨admits,⟨?_,?_⟩,?_⟩
    · rw [turns expires ahead (Int.le_refl _)]
      exact ahead
    · exact (turns expires ahead (Int.le_refl _)).le
    · intro object inside itemExp stated
      obtain ⟨later,bound⟩ := (good object inside).expiry itemExp stated
      rw [turns itemExp later bound]
      exact ⟨tdiv_lt era later,later,Int.mul_le_mul_of_nonneg_right bound (by decide)⟩

end

-- The verifier does what it should exactly where the window lets in only what the records can hold;
-- ordinarily that is an `exp` that lies ahead, where the window also takes the last minute behind.
theorem window_exact_iff {p : Platform} {v : SignedJwtVerifier} {identity : IdentityId} {now : Instant}
    {publicInputs secretInputs : AttributeMap} {payload : JsonObject} {issued expires : Int} {items : List JsonObject}
    (presented : Presented p v identity now publicInputs secretInputs payload issued expires items) (random : Draws p) :
    ((((∃ output,verify p v identity now publicInputs secretInputs = .ok output) ↔ Within v now payload issued expires) ∧
        ∀ output,verify p v identity now publicInputs secretInputs = .ok output → Complete v expires items output) ↔
      (Within v now payload issued expires → Recordable v now expires items)) ∧
    (validText v.issuer 4096 = true → 0 ≤ now → expires * 1000 < 9223372036854775808 →
      (Recordable v now expires items ↔ now < expires * 1000)) := by
  have decided : ∀ output,verify p v identity now publicInputs secretInputs = .ok output ↔
      Within v now payload issued expires ∧ evidenceOf p v identity now payload expires = .ok output :=
    fun output => verify_window presented
  refine ⟨⟨?_,?_⟩,fun admits era fits => recordable_iff presented.wellFormed admits era fits⟩
  · rintro ⟨succeeds,complete⟩ within
    obtain ⟨output,done⟩ := succeeds.mpr within
    obtain ⟨⟨admits,later⟩,summary,records,rfl,⟨-,-,-,expiry⟩,each⟩ := evidence_reads presented.evidence ((decided output).mp done).2
    obtain ⟨-,-,-,-,-,bounded⟩ := complete _ done
    exact recordable_of admits later expiry each bounded
  · intro lasting
    constructor
    · constructor
      · rintro ⟨output,done⟩
        exact ((decided output).mp done).1
      · intro within
        obtain ⟨output,made⟩ := evidence_made random presented (lasting within)
        exact ⟨output,(decided output).mpr ⟨within,made⟩⟩
    · intro output done
      obtain ⟨within,made⟩ := (decided output).mp done
      obtain ⟨-,summary,records,rfl,⟨kind,claim,value,expiry⟩,each⟩ := evidence_reads presented.evidence made
      exact complete_of kind claim value expiry each (lasting within)

def ann : IdentityId := ⟨"ann"⟩

def registry : SignedJwtVerifier := ⟨⟨"registry"⟩,"https://registry.example","openproof","-----BEGIN PUBLIC KEY-----",300000,by decide⟩

def headerText : Text := "\x7b\"alg\":\"RS256\"\x7d"
def payloadText : Text := Text.of "\x7b\"iss\":\"https://registry.example\",\"sub\":\"ann\",\"aud\":\"openproof\",\"nonce\":\"c1\",\"iat\":40,\"exp\":70," ++
  Text.of "\"evidence\":[\x7b\"kind\":\"document\",\"claim\":\"passport\",\"value\":\"valid\",\"confidence\":90\x7d]\x7d"

def passport : JsonObject := [("kind",.string "document"),("claim",.string "passport"),("value",.string "valid"),("confidence",.int64 90)]
def payload : JsonObject := [("iss",.string "https://registry.example"),("sub",.string "ann"),("aud",.string "openproof"),
  ("nonce",.string "c1"),("iat",.int64 40),("exp",.int64 70),("evidence",.array [.object passport])]

def platform : Platform where
  verifyRs256Jwt _ _ := .ok (headerText,payloadText)
  parseJson text := if text = headerText then some (.object [("alg",.string "RS256")]) else if text = payloadText then some (.object payload)
    else none
  randomBytes draw := .ok (List.replicate 24 draw.toUInt8)

def publicInputs : AttributeMap := (∅ : AttributeMap).insert "challenge" "c1"
def secretInputs : AttributeMap := (∅ : AttributeMap).insert "assertion" "header.payload.signature"

theorem platform_draws : Draws platform := fun _ => ⟨_,rfl,length_replicate⟩

theorem texts_parsed : platform.parseJson headerText = some (.object [("alg",.string "RS256")]) ∧
    platform.parseJson payloadText = some (.object payload) := by
  have apart : payloadText ≠ headerText := by decide
  constructor
  · simp only [platform,if_true]
  · simp only [platform,if_neg apart,if_true]

theorem presented (now : Instant) : Presented platform registry ann now publicInputs secretInputs payload 40 70 [passport] where
  named := by decide
  signed := ⟨"c1","header.payload.signature",headerText,payloadText,[("alg",.string "RS256")],by decide,by decide,
    by decide,by decide,by decide,by decide,rfl,texts_parsed.1,texts_parsed.2,by decide,by decide⟩
  issuer := by decide
  subject := by decide
  audience := by decide
  issuedAt := by decide
  expiresAt := by decide
  evidence := rfl
  some := cons_ne_nil _ _
  few := by decide
  wellFormed object inside := by
    obtain rfl := mem_singleton.mp inside
    have lasting : integerClaim passport "exp" = none := by decide
    exact ⟨⟨"document",by decide,by decide⟩,⟨"passport",by decide,by decide⟩,⟨"valid",by decide,by decide⟩,
      ⟨90,by decide,by decide,by decide⟩,fun itemExp stated => nomatch lasting.symm.trans stated⟩

theorem within_window {now : Instant} (begun : 40 ≤ unixSeconds now + 60) (recent : unixSeconds now - 300 - 60 ≤ 40)
    (running : unixSeconds now - 60 < 70) : Within registry now payload 40 70 := by
  have always : integerClaim payload "nbf" = none := by decide
  exact ⟨by decide,begun,recent,running,fun notBefore stated => nomatch always.symm.trans stated⟩

theorem window_exact_iff_ahead :
    ∃ output,verify platform registry ann 50000 publicInputs secretInputs = .ok output ∧ Complete registry 70 [passport] output := by
  have lasting := (window_exact_iff (presented 50000) platform_draws).2 (by decide) (by decide) (by decide)
  obtain ⟨succeeds,complete⟩ := (window_exact_iff (presented 50000) platform_draws).1.mpr fun _ => lasting.mpr (by decide)
  obtain ⟨output,done⟩ := succeeds.mpr (within_window (by decide) (by decide) (by decide))
  exact ⟨output,done,complete output done⟩

-- Half a minute past `exp` the window is still open, and the first record already refuses.
theorem skewed_expiry_refused : Presented platform registry ann 100000 publicInputs secretInputs payload 40 70 [passport] ∧
    Within registry 100000 payload 40 70 ∧ verify platform registry ann 100000 publicInputs secretInputs =
      fail .invalidArgument "The verified evidence is invalid." := by
  refine ⟨presented 100000,within_window (by decide) (by decide) (by decide),?_⟩
  decide +kernel

end OpenProof.AssertionWindows
