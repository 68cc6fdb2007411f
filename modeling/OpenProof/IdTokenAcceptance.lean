import OpenProof.IdTokens

namespace OpenProof.IdTokenAcceptance
open Foundation Http
open IdTokens PasskeyProvider

def matchingKeys (kid : Text) (keys : List Json) : List JsonObject :=
  keys.filterMap fun value => match value with
    | .object key => if jwkPermitsRs256Verification key kid then some key else none
    | _ => none

def onlyMaterial : List JsonObject → Option Rs256VerificationKey
  | [key] => keyMaterial key
  | _ => none

theorem scanKeys_some :
    scanKeys kid (some selected) keys = if matchingKeys kid keys = [] then some selected else none := by
  induction keys with
  | nil => rfl
  | cons value rest ih =>
    cases value with
    | object key =>
      rw [scanKeys]
      cases permitted : jwkPermitsRs256Verification key kid with
      | false => simpa [matchingKeys,permitted] using ih
      | true => cases keyMaterial key <;> simp [matchingKeys,permitted]
    | _ => simpa [scanKeys,matchingKeys] using ih

theorem uniqueRs256VerificationKey_eq :
    uniqueRs256VerificationKey keys kid = onlyMaterial (matchingKeys kid keys) := by
  unfold uniqueRs256VerificationKey
  induction keys with
  | nil => rfl
  | cons value rest ih =>
    cases value with
    | object key =>
      rw [scanKeys]
      cases permitted : jwkPermitsRs256Verification key kid with
      | false => simpa [matchingKeys,permitted] using ih
      | true =>
        have first : matchingKeys kid (.object key :: rest) = key :: matchingKeys kid rest := by simp [matchingKeys,permitted]
        rw [first]
        cases material : keyMaterial key with
        | none => cases matchingKeys kid rest <;> simp [onlyMaterial,material]
        | some candidate =>
          simp only [Bool.not_true,Bool.false_eq_true,if_false,Option.isSome_none,scanKeys_some]
          cases matchingKeys kid rest <;> simp [onlyMaterial,material]
    | _ => simpa [scanKeys,matchingKeys] using ih

theorem onlyMaterial_perm (same : one.Perm two) : onlyMaterial one = onlyMaterial two := by
  match one,two,same.length_eq with
  | [],[],_ => rfl
  | [key],[other],_ => rw [List.singleton_perm_singleton.mp same]
  | _ :: _ :: _,_ :: _ :: _,_ => rfl

theorem unique_perm (same : one.Perm two) :
    uniqueRs256VerificationKey one kid = uniqueRs256VerificationKey two kid := by
  rw [uniqueRs256VerificationKey_eq,uniqueRs256VerificationKey_eq]
  exact onlyMaterial_perm (same.filterMap _)

section
variable (p : OidcPlatform) (config : OidcConfig) (r : Received) (payload : JsonObject)

def SignedByOnlyKey : Prop :=
  ∃ kid keys key material header text,tokenKeyId p r.idToken = .ok kid ∧ jwksKeys p r.jwks = .ok keys ∧
    matchingKeys kid keys = [key] ∧ keyMaterial key = some material ∧
    p.verifyRs256Jwk material.modulus material.exponent r.idToken = .ok (header,text) ∧
    p.parseJson text = some (.object payload)

structure Sound : Prop where
  signed : SignedByOnlyKey p r payload
  issuer : jsonString payload "iss" = some config.idTokenIssuer
  subject : ∃ subject,jsonString payload "sub" = some subject ∧ validSubjectIdentifier subject = true
  audience : payload.find "aud" = some (.string config.clientId) ∨ payload.find "aud" = some (.array [.string config.clientId])
  party : ∀ value,payload.find "azp" = some value → value = .string config.clientId
  nonce : ∀ expected,r.nonce = some expected → jsonString payload "nonce" = some expected
  accessHash : ∀ value,payload.find "at_hash" = some value →
    ∃ digest,p.sha256 r.accessToken = .ok digest ∧ value = .string (toBase64Url (digest.take (digest.length / 2)))
  issued : ∃ seconds,payload.find "iat" = some (.int64 seconds) ∧
    r.now - kTokenLifetime ≤ seconds * 1000 ∧ seconds * 1000 ≤ r.now + kClockSkew
  expires : ∃ seconds,payload.find "exp" = some (.int64 seconds) ∧
    r.now - kClockSkew < seconds * 1000 ∧ seconds * 1000 ≤ r.now + kTokenLifetime

-- What the code checks: `azp` where it is a string, the times as `fromUnixSeconds` turns them out.
structure Checked : Prop where
  signed : SignedByOnlyKey p r payload
  issuer : jsonString payload "iss" = some config.idTokenIssuer
  subject : ∃ subject,jsonString payload "sub" = some subject ∧ validSubjectIdentifier subject = true
  audience : audienceMatchesClientExclusively payload config.clientId = true
  party : authorizedPartyMatches (jsonString payload "azp") config.clientId = true
  nonce : nonceValid r payload = true
  accessHash : accessTokenHashMatches p payload r.accessToken = .ok true
  issued : ∃ seconds,payload.find "iat" = some (.int64 seconds) ∧
    r.now - kTokenLifetime ≤ fromUnixSeconds seconds ∧ fromUnixSeconds seconds ≤ r.now + kClockSkew
  expires : ∃ seconds,payload.find "exp" = some (.int64 seconds) ∧
    r.now - kClockSkew < fromUnixSeconds seconds ∧ fromUnixSeconds seconds ≤ r.now + kTokenLifetime

end

section
variable {p : OidcPlatform} {config : OidcConfig} {r : Received} {payload : JsonObject}

theorem integerValue_eq : integerValue payload name = some seconds ↔ payload.find name = some (.int64 seconds) := by
  unfold integerValue
  split
  · rename_i value found
    simp [found]
  · rename_i other
    constructor
    · exact nofun
    · exact fun found => absurd found (other seconds)

theorem parseJsonObject_eq : parseJsonObject p body = .ok object ↔ p.parseJson body = some (.object object) := by
  unfold parseJsonObject
  split
  · rename_i other found
    simp [found]
  · rename_i other
    constructor
    · exact nofun
    · exact fun found => absurd found (other object)

theorem checkClaims_iff : checkClaims p config r payload = .ok () ↔
    jsonString payload "iss" = some config.idTokenIssuer ∧
      (∃ subject,jsonString payload "sub" = some subject ∧ validSubjectIdentifier subject = true) ∧
      audienceMatchesClientExclusively payload config.clientId = true ∧
      authorizedPartyMatches (jsonString payload "azp") config.clientId = true ∧ nonceValid r payload = true ∧
      accessTokenHashMatches p payload r.accessToken = .ok true ∧
      (∃ seconds,payload.find "iat" = some (.int64 seconds) ∧
        r.now - kTokenLifetime ≤ fromUnixSeconds seconds ∧ fromUnixSeconds seconds ≤ r.now + kClockSkew) ∧
      ∃ seconds,payload.find "exp" = some (.int64 seconds) ∧
        r.now - kClockSkew < fromUnixSeconds seconds ∧ fromUnixSeconds seconds ≤ r.now + kTokenLifetime := by
  unfold checkClaims
  simp only [← integerValue_eq]
  cases accessTokenHashMatches p payload r.accessToken with
  | error e => simp
  | ok matched =>
    cases jsonString payload "iss" with
    | none => simp
    | some issuer =>
      cases jsonString payload "sub" with
      | none => simp
      | some subject =>
        cases integerValue payload "iat" with
        | none => simp
        | some issuedAt =>
          cases integerValue payload "exp" with
          | none => simp
          | some expiresAt =>
            simp [not_or,and_assoc,and_comm,and_left_comm]

theorem accepted_iff : verifyIdToken p config r = .ok payload ↔ Checked p config r payload := by
  constructor
  · intro accepted
    unfold verifyIdToken at accepted
    split at accepted
    · cases accepted
    rename_i kid named
    split at accepted
    · cases accepted
    rename_i keys listed
    split at accepted
    · cases accepted
    rename_i material selected
    split at accepted
    · cases accepted
    rename_i header text verified
    split at accepted
    · cases accepted
    rename_i object parsed
    split at accepted
    · cases accepted
    rename_i passes
    cases accepted
    rw [uniqueRs256VerificationKey_eq] at selected
    have one : ∃ key,matchingKeys kid keys = [key] ∧ keyMaterial key = some material := by
      unfold onlyMaterial at selected
      split at selected
      · rename_i key only
        exact ⟨key,only,selected⟩
      · cases selected
    obtain ⟨key,only,usable⟩ := one
    obtain ⟨issuer,subject,audience,party,nonce,accessHash,issued,expires⟩ := checkClaims_iff.mp passes
    exact ⟨⟨kid,keys,key,material,header,text,named,listed,only,usable,verified,parseJsonObject_eq.mp parsed⟩,
      issuer,subject,audience,party,nonce,accessHash,issued,expires⟩
  · rintro ⟨⟨kid,keys,key,material,header,text,named,listed,only,usable,verified,parsed⟩,
      issuer,subject,audience,party,nonce,accessHash,issued,expires⟩
    have selected : uniqueRs256VerificationKey keys kid = some material := by
      rw [uniqueRs256VerificationKey_eq,only]
      exact usable
    have passes : checkClaims p config r payload = .ok () :=
      checkClaims_iff.mpr ⟨issuer,subject,audience,party,nonce,accessHash,issued,expires⟩
    unfold verifyIdToken
    simp only [named,listed,selected,verified,parseJsonObject_eq.mpr parsed,passes]

theorem audience_iff : audienceMatchesClientExclusively payload config.clientId = true ↔
    payload.find "aud" = some (.string config.clientId) ∨ payload.find "aud" = some (.array [.string config.clientId]) := by
  unfold audienceMatchesClientExclusively
  split
  · rename_i value found
    simp [found]
  · rename_i value found
    simp [found]
  · rename_i plain single
    simp only [Bool.false_eq_true,false_iff,not_or]
    exact ⟨plain _,single _⟩

theorem party_iff (text : ∀ value,payload.find "azp" = some value → ∃ party,value = .string party) :
    authorizedPartyMatches (jsonString payload "azp") config.clientId = true ↔
      ∀ value,payload.find "azp" = some value → value = .string config.clientId := by
  unfold authorizedPartyMatches jsonString
  cases found : payload.find "azp" with
  | none => simp
  | some value =>
    obtain ⟨party,rfl⟩ := text value found
    simp

theorem nonce_iff : nonceValid r payload = true ↔ ∀ expected,r.nonce = some expected → jsonString payload "nonce" = some expected := by
  unfold nonceValid
  cases r.nonce <;> simp

theorem accessHash_reads (matched : accessTokenHashMatches p payload r.accessToken = .ok true) :
    ∀ value,payload.find "at_hash" = some value →
      ∃ digest,p.sha256 r.accessToken = .ok digest ∧ value = .string (toBase64Url (digest.take (digest.length / 2))) := by
  intro value found
  unfold accessTokenHashMatches at matched
  rw [found] at matched
  rw [Option.isNone_some,if_neg Bool.false_ne_true] at matched
  split at matched
  · cases matched
  rename_i digest hashed
  refine ⟨digest,hashed,?_⟩
  unfold accessTokenHashClaimMatches at matched
  rw [found] at matched
  cases value with
  | string claimed =>
    simp only [Except.ok.injEq,Bool.and_eq_true,beq_iff_eq] at matched
    rw [matched.2]
  | _ => cases matched

theorem same_in_window {n reading start : Int} (apart : 18446744073709551616 ∣ n - reading) (near : start ≤ reading)
    (below : reading ≤ start + 100000000) (least : start ≤ n) (most : n ≤ start + 100000000) : reading = n := by
  obtain ⟨turns,equal⟩ := apart
  omega

theorem fromUnixSeconds_apart {seconds : Int} : (18446744073709551616 : Int) ∣ seconds * 1000 - fromUnixSeconds seconds :=
  Int.dvd_self_sub_bmod

-- The tokens that the code judges as the claims stand: unless every check passes, `azp` is absent or
-- a string and both times fit.
def ReadExactly (p : OidcPlatform) (config : OidcConfig) (r : Received) : Prop :=
  ∀ payload,Checked p config r payload →
    (∀ value,payload.find "azp" = some value → ∃ party,value = .string party) ∧
      (∀ seconds,payload.find "iat" = some (.int64 seconds) → Fits seconds) ∧
      ∀ seconds,payload.find "exp" = some (.int64 seconds) → Fits seconds

theorem windows_narrow {now : Int} : now + 60000 ≤ now - 86400000 + 100000000 ∧ now + 86400000 ≤ now - 60000 + 100000000 := by
  omega

theorem sound_iff (checked : Checked p config r payload) : Sound p config r payload ↔
    (∀ value,payload.find "azp" = some value → ∃ party,value = .string party) ∧
      (∀ seconds,payload.find "iat" = some (.int64 seconds) → Fits seconds) ∧
      ∀ seconds,payload.find "exp" = some (.int64 seconds) → Fits seconds := by
  obtain ⟨issued,foundIssued,issuedLow,issuedHigh⟩ := checked.issued
  obtain ⟨expires,foundExpires,expiresLow,expiresHigh⟩ := checked.expires
  constructor
  · intro sound
    refine ⟨fun value found => ⟨_,sound.party value found⟩,?_,?_⟩
    · intro seconds found
      obtain ⟨other,also,low,high⟩ := sound.issued
      rw [found] at foundIssued also
      cases foundIssued
      cases also
      exact fromUnixSeconds_eq.mp (same_in_window fromUnixSeconds_apart issuedLow (Int.le_trans issuedHigh windows_narrow.1) low
        (Int.le_trans high windows_narrow.1))
    · intro seconds found
      obtain ⟨other,also,low,high⟩ := sound.expires
      rw [found] at foundExpires also
      cases foundExpires
      cases also
      exact fromUnixSeconds_eq.mp (same_in_window fromUnixSeconds_apart (Int.le_of_lt expiresLow)
        (Int.le_trans expiresHigh windows_narrow.2) (Int.le_of_lt low) (Int.le_trans high windows_narrow.2))
  · rintro ⟨text,early,late⟩
    have whenIssued := fromUnixSeconds_eq.mpr (early issued foundIssued)
    have whenExpires := fromUnixSeconds_eq.mpr (late expires foundExpires)
    rw [whenIssued] at issuedLow issuedHigh
    rw [whenExpires] at expiresLow expiresHigh
    exact ⟨checked.signed,checked.issuer,checked.subject,audience_iff.mp checked.audience,(party_iff text).mp checked.party,
      nonce_iff.mp checked.nonce,accessHash_reads checked.accessHash,⟨issued,foundIssued,issuedLow,issuedHigh⟩,
      ⟨expires,foundExpires,expiresLow,expiresHigh⟩⟩

end

-- What the JWKS document lists in another order is judged alike, and an accepted token is what it
-- should be exactly when the token is read exactly.
theorem accepted_sound_iff (p : OidcPlatform) (config : OidcConfig) (r : Received) :
    (∀ jwks keys others,jwksKeys p r.jwks = .ok keys → jwksKeys p jwks = .ok others → others.Perm keys →
      verifyIdToken p config { r with jwks := jwks } = verifyIdToken p config r) ∧
    ((∀ payload,verifyIdToken p config r = .ok payload → Sound p config r payload) ↔ ReadExactly p config r) := by
  constructor
  · intro jwks keys others listed relisted same
    unfold verifyIdToken
    simp only [listed,relisted,unique_perm same]
    rfl
  · constructor
    · intro sound payload checked
      exact (sound_iff checked).mp (sound payload (accepted_iff.mpr checked))
    · intro exactly payload accepted
      have checked := accepted_iff.mp accepted
      exact (sound_iff checked).mpr (exactly payload checked)

def modulus : Text := List.replicate 342 (ch 'w')

def header : JsonObject := [("alg",.string "RS256"),("kid",.string "k1")]
def key : JsonObject := [("kid",.string "k1"),("kty",.string "RSA"),("n",.string modulus),("e",.string "AQAB")]
def claims : JsonObject := [("iss",.string "https://issuer.example"),("sub",.string "ann"),("aud",.string "web"),
  ("azp",.array [.string "other"]),("iat",.int64 1000),("exp",.int64 2000)]

def headerText : Text := "\x7b\"alg\":\"RS256\",\"kid\":\"k1\"\x7d"
def claimsText : Text :=
  "\x7b\"iss\":\"https://issuer.example\",\"sub\":\"ann\",\"aud\":\"web\",\"azp\":[\"other\"],\"iat\":1000,\"exp\":2000\x7d"
def jwksText : Text := Text.of "\x7b\"keys\":[\x7b\"kid\":\"k1\",\"kty\":\"RSA\",\"n\":\"" ++ modulus ++
  Text.of "\",\"e\":\"AQAB\"\x7d]\x7d"

def platform : OidcPlatform where
  parseJson text := if text = headerText then some (.object header) else if text = claimsText then some (.object claims)
    else if text = jwksText then some (.object [("keys",.array [.object key])]) else none
  sha256 _ := .error (.plain .internal)
  verifyRs256Jwk _ _ _ := .ok (headerText,claimsText)

def received : Received := ⟨none,"access","eyJhbGciOiJSUzI1NiIsImtpZCI6ImsxIn0.eyJpc3MiOiJodHRwczovL2lzc3Vlci5leGFtcGxlIiwic3ViIjoiYW5uIiwiYXVkIjoid2ViIiwiYXpwIjpbIm90aGVyIl0sImlhdCI6MTAwMCwiZXhwIjoyMDAwfQ.c2ln",jwksText,1500000⟩

def listsParties (payload : JsonObject) : Bool :=
  match payload.find "azp" with
  | some (.array _) => true
  | _ => false

-- `azp` names another client, as a list of one: the token passes.
theorem foreign_party_accepted : ∃ payload,verifyIdToken platform ⟨"web","https://issuer.example"⟩ received = .ok payload ∧
    (∃ parties,payload.find "azp" = some (.array parties)) ∧ ¬Sound platform ⟨"web","https://issuer.example"⟩ received payload := by
  have passes : (verifyIdToken platform ⟨"web","https://issuer.example"⟩ received).toOption.any listsParties = true := by
    decide +kernel
  obtain ⟨payload,accepted,listed⟩ := made_some passes
  unfold listsParties at listed
  split at listed
  · rename_i parties found
    refine ⟨payload,accepted,⟨parties,found⟩,fun sound => ?_⟩
    cases sound.party _ found
  · cases listed

end OpenProof.IdTokenAcceptance
