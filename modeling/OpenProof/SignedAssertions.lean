import OpenProof.EvidenceRecords
import OpenProof.IdTokens

namespace OpenProof.SignedAssertions
open AuthenticationTransactions EvidenceRecords
open Foundation Http Identities IdTokens PasskeyProvider

def kMaximumAssertionBytes : Nat := 16*1024
def kMaximumEvidenceItems : Nat := 32
def kClockSkewSeconds : Int := 60

def authenticationError (message : Text) : Error := .because .authenticationFailed message

def stringClaim (object : JsonObject) (name : Text) : Option Text := jsonString object name
def integerClaim (object : JsonObject) (name : Text) : Option Int := integerValue object name

-- `duration_cast` to seconds cuts towards zero.
def unixSeconds (instant : Instant) : Int := Int.tdiv instant 1000

def audienceContains (object : JsonObject) (expected : Text) : Bool :=
  match object.find "aud" with
  | some (.string audience) => audience == expected
  | some (.array values) => values.any fun value => match value with
    | .string audience => audience == expected
    | _ => false
  | _ => false

-- The signature check, the JSON parser and what the generator yields draw by draw.
structure Platform where
  verifyRs256Jwt : Text → Text → Result (Text × Text)
  parseJson : Text → Option Json
  randomBytes : Nat → Result Text

structure SignedJwtVerifier where
  provider : ProviderId
  issuer : Text
  audience : Text
  publicKeyPem : Text
  maximumAge : Duration
  valid : (provider.empty || issuer.isEmpty || issuer.length > 512 || audience.isEmpty || audience.length > 512
    || maximumAge ≤ 0) = false

def SignedJwtVerifier.create (validateRs256PublicKey : Text → Result Unit) (provider : ProviderId)
    (issuer audience publicKeyPem : Text) (maximumAge : Duration) : Result SignedJwtVerifier :=
  if valid : (provider.empty || issuer.isEmpty || issuer.length > 512 || audience.isEmpty || audience.length > 512
      || maximumAge ≤ 0) = false then
    match validateRs256PublicKey publicKeyPem with
    | .error e => .error e
    | .ok () => .ok ⟨provider,issuer,audience,publicKeyPem,maximumAge,valid⟩
  else fail .invalidArgument "The signed evidence verifier configuration is invalid."

section
variable (p : Platform)

def parseObject (text : Text) : Result JsonObject :=
  match p.parseJson text with
  | some (.object object) => .ok object
  | _ => .error (authenticationError "The evidence assertion JSON is malformed.")

def evidenceId (draw : Nat) : Result EvidenceRecords.EvidenceId :=
  match p.randomBytes draw with
  | .error e => .error e
  | .ok bytes => .ok ⟨toBase64Url bytes⟩

def makeEvidence (draw : Nat) (identity : IdentityId) (provider : ProviderId) (kind claim value : Text) (confidence : Nat)
    (now : Instant) (expiresAt : Option Instant) : Result Evidence :=
  match evidenceId p draw with
  | .error e => .error e
  | .ok id => Evidence.create id identity provider kind claim value confidence now expiresAt

variable (v : SignedJwtVerifier) (identity : IdentityId) (now : Instant)

def listedEvidence (expires : Int) (draw : Nat) : Json → Result Evidence
  | .object object =>
    match stringClaim object "kind",stringClaim object "claim",stringClaim object "value",integerClaim object "confidence" with
    | some kind,some claim,some value,some confidence =>
      if confidence < 0 || confidence > 100 then .error (authenticationError "The evidence JWT item is invalid.")
      else match integerClaim object "exp" with
        | none => makeEvidence p draw identity v.provider kind claim value confidence.toNat now (some (fromUnixSeconds expires))
        | some itemExp =>
          if itemExp ≤ unixSeconds now || itemExp > expires then
            .error (authenticationError "The evidence JWT item expiry is invalid.")
          else makeEvidence p draw identity v.provider kind claim value confidence.toNat now (some (fromUnixSeconds itemExp))
    | _,_,_,_ => .error (authenticationError "The evidence JWT item is invalid.")
  | _ => .error (authenticationError "The evidence JWT item is malformed.")

def listedEvidences (expires : Int) (draw : Nat) : List Json → Result (List Evidence)
  | [] => .ok []
  | value :: rest => match listedEvidence p v identity now expires draw value with
    | .error e => .error e
    | .ok item => match listedEvidences expires (draw + 1) rest with
      | .error e => .error e
      | .ok items => .ok (item :: items)

def evidenceOf (payload : JsonObject) (expires : Int) : Result (List Evidence) :=
  match makeEvidence p 0 identity v.provider "jwt.attestation" "issuer" v.issuer 95 now (some (fromUnixSeconds expires)) with
  | .error e => .error e
  | .ok summary => match payload.find "evidence" with
    | some (.array values) =>
      if values.isEmpty || values.length > kMaximumEvidenceItems then
        .error (authenticationError "The evidence JWT contains no valid evidence set.")
      else match listedEvidences p v identity now expires 1 values with
        | .error e => .error e
        | .ok items => .ok (summary :: items)
    | _ => .error (authenticationError "The evidence JWT contains no valid evidence set.")

def outsideWindow (issued expires : Int) : Bool :=
  issued > unixSeconds now + kClockSkewSeconds
    || issued < unixSeconds now - Int.tdiv v.maximumAge 1000 - kClockSkewSeconds
    || expires ≤ unixSeconds now - kClockSkewSeconds

def notActiveYet (payload : JsonObject) : Bool :=
  (integerClaim payload "nbf").any fun notBefore => notBefore > unixSeconds now + kClockSkewSeconds

def checkPayload (challenge : Text) (payload : JsonObject) : Result (List Evidence) :=
  match stringClaim payload "iss",stringClaim payload "sub",stringClaim payload "nonce",integerClaim payload "iat",
      integerClaim payload "exp" with
  | some issuer,some subject,some nonce,some issued,some expires =>
    if issuer != v.issuer || subject != identity.value || nonce != challenge || !audienceContains payload v.audience
        || expires ≤ issued then
      .error (authenticationError "The evidence JWT claims are invalid.")
    else if outsideWindow v now issued expires then
      .error (authenticationError "The evidence JWT is outside its validity window.")
    else if notActiveYet now payload then .error (authenticationError "The evidence JWT is not active yet.")
    else evidenceOf p v identity now payload expires
  | _,_,_,_,_ => .error (authenticationError "The evidence JWT claims are invalid.")

-- `SignedJwtVerifier::verify`.
def verify (publicInputs secretInputs : AttributeMap) : Result (List Evidence) :=
  match publicInputs[Text.of "challenge"]?,secretInputs[Text.of "assertion"]? with
  | some challenge,some assertion =>
    if identity.empty || challenge.isEmpty || challenge.length > 256 || assertion.isEmpty
        || assertion.length > kMaximumAssertionBytes then
      .error (authenticationError "The signed evidence proof is incomplete.")
    else match p.verifyRs256Jwt v.publicKeyPem assertion with
      | .error e => .error e
      | .ok (headerJson,payloadJson) => match parseObject p headerJson,parseObject p payloadJson with
        | .ok header,.ok payload =>
          if stringClaim header "alg" ≠ some (Text.of "RS256") then
            .error (authenticationError "The evidence JWT algorithm is not allowed.")
          else checkPayload p v identity now challenge payload
        | _,_ => .error (authenticationError "The evidence JWT is malformed.")
  | _,_ => .error (authenticationError "The signed evidence proof is incomplete.")

end

end OpenProof.SignedAssertions
