import OpenProof.PasskeyProvider

namespace OpenProof.IdTokens
open Foundation Http PasskeyProvider SenderProofs

def kClockSkew : Duration := 60000
def kTokenLifetime : Duration := 86400000

def authFailure (detail : Text) : Error := .of .authenticationFailed (defaultErrorMessage .authenticationFailed) detail

def validSubjectIdentifier (subject : Text) : Bool :=
  !subject.isEmpty && subject.length ≤ 255 && subject.all fun byte => 0x20 ≤ byte && byte ≤ 0x7E

def authorizedPartyMatches (authorizedParty : Option Text) (clientId : Text) : Bool :=
  authorizedParty.all fun party => party == clientId

def audienceMatchesClientExclusively (payload : JsonObject) (clientId : Text) : Bool :=
  match payload.find "aud" with
  | some (.string value) => value == clientId
  | some (.array [.string value]) => value == clientId
  | _ => false

section
variable (key : JsonObject)

def requiredString (name expected : Text) : Bool := jsonString key name == some expected

def optionalStringMatches (name expected : Text) : Bool :=
  match key.find name with
  | none => true
  | some (.string value) => value == expected
  | some _ => false

end

-- The loop over `key_ops`.
def operationsPermit (seen : List Text) (permitsVerification : Bool) : List Json → Bool
  | [] => permitsVerification
  | .string value :: rest =>
    if value.isEmpty || value.length > 128 || seen.contains value then false
    else operationsPermit (seen ++ [value]) (permitsVerification || value == Text.of "verify") rest
  | _ :: _ => false

def jwkPermitsRs256Verification (key : JsonObject) (expectedKeyId : Text) : Bool :=
  requiredString key "kid" expectedKeyId && requiredString key "kty" "RSA" && optionalStringMatches key "alg" "RS256"
    && optionalStringMatches key "use" "sig" && match key.find "key_ops" with
      | none => true
      | some (.array operations) => operationsPermit [] false operations
      | some _ => false

structure Rs256VerificationKey where
  modulus : Text
  exponent : Text

def keyMaterial (key : JsonObject) : Option Rs256VerificationKey :=
  match key.find "n",key.find "e" with
  | some (.string modulus),some (.string exponent) =>
    if modulus.isEmpty || exponent.isEmpty || modulus.length > 2048 || exponent.length > 128 then none
    else some ⟨modulus,exponent⟩
  | _,_ => none

-- The scan of `uniqueRs256VerificationKey` with what it has selected so far.
def scanKeys (expectedKeyId : Text) (selected : Option Rs256VerificationKey) : List Json → Option Rs256VerificationKey
  | [] => selected
  | .object key :: rest =>
    if !jwkPermitsRs256Verification key expectedKeyId then scanKeys expectedKeyId selected rest
    else match keyMaterial key with
      | none => none
      | some candidate => if selected.isSome then none else scanKeys expectedKeyId (some candidate) rest
  | _ :: rest => scanKeys expectedKeyId selected rest

def uniqueRs256VerificationKey (keys : List Json) (expectedKeyId : Text) : Option Rs256VerificationKey :=
  scanKeys expectedKeyId none keys

-- The JSON parser, the digest and the signature check of the libraries underneath.
structure OidcPlatform where
  parseJson : Text → Option Json
  sha256 : Text → Result Text
  verifyRs256Jwk : Text → Text → Text → Result (Text × Text)

structure OidcConfig where
  clientId : Text
  idTokenIssuer : Text

structure Received where
  nonce : Option Text
  accessToken : Text
  idToken : Text
  jwks : Text
  now : Instant

section
variable (p : OidcPlatform) (config : OidcConfig) (r : Received)

def integerValue (object : JsonObject) (name : Text) : Option Int :=
  match object.find name with
  | some (.int64 value) => some value
  | _ => none

-- Seconds times 1000 in the 64 bits of `milliseconds`.
def fromUnixSeconds (seconds : Int) : Instant := (seconds * 1000).bmod 18446744073709551616

def Fits (seconds : Int) : Prop := -9223372036854775808 ≤ seconds * 1000 ∧ seconds * 1000 < 9223372036854775808

theorem fromUnixSeconds_eq : fromUnixSeconds seconds = seconds * 1000 ↔ Fits seconds := by
  unfold fromUnixSeconds Fits
  constructor
  · intro (same : (seconds * 1000).bmod 18446744073709551616 = seconds * 1000)
    have low := Int.le_bmod (x:=seconds * 1000) (m:=18446744073709551616) (by decide)
    have high := Int.bmod_lt (x:=seconds * 1000) (m:=18446744073709551616) (by decide)
    omega
  · rintro ⟨low,high⟩
    exact Int.bmod_eq_of_le (by omega) (by omega)

def parseJsonObject (body : Text) : Result JsonObject :=
  match p.parseJson body with
  | some (.object object) => .ok object
  | _ => .error (authFailure "The OIDC JSON response is malformed.")

def joseHeaderUsesSupportedExtensions (header : JsonObject) : Bool :=
  (header.find "crit").isNone && (header.find "b64").isNone

def headerKeyId (headerJson : Text) : Option Text :=
  match parseJsonObject p headerJson with
  | .error _ => none
  | .ok header => match jsonString header "kid",jsonString header "alg" with
    | some kid,some alg =>
      if alg != Text.of "RS256" || kid.isEmpty || kid.length > 256 || !joseHeaderUsesSupportedExtensions header then none
      else some kid
    | _,_ => none

def tokenKeyId (idToken : Text) : Result Text :=
  match splitAt (ch '.') idToken with
  | (_,none) => .error (authFailure "The OIDC ID Token is malformed.")
  | (encoded,some _) => match fromBase64Url encoded with
    | .error _ => .error (authFailure "The OIDC ID Token header is malformed.")
    | .ok headerBytes =>
      if headerBytes.length > 4096 then .error (authFailure "The OIDC ID Token header is malformed.")
      else match headerKeyId p headerBytes with
        | none => .error (authFailure "The OIDC ID Token JOSE header is invalid.")
        | some kid => .ok kid

def jwksKeys (jwks : Text) : Result (List Json) :=
  match parseJsonObject p jwks with
  | .error _ => .error (authFailure "The OIDC JWKS is malformed.")
  | .ok object => match object.find "keys" with
    | some (.array keys) => .ok keys
    | _ => .error (authFailure "The OIDC JWKS is malformed.")

def accessTokenHashClaimMatches (payload : JsonObject) (expected : Text) : Bool :=
  match payload.find "at_hash" with
  | none => true
  | some (.string claimed) => !claimed.isEmpty && claimed.length ≤ 128 && claimed == expected
  | some _ => false

def accessTokenHashMatches (payload : JsonObject) (accessToken : Text) : Result Bool :=
  if (payload.find "at_hash").isNone then .ok true
  else match p.sha256 accessToken with
    | .error e => .error e
    | .ok digest => .ok (accessTokenHashClaimMatches payload (toBase64Url (digest.take (digest.length / 2))))

def nonceValid (payload : JsonObject) : Bool := r.nonce.all fun nonce => jsonString payload "nonce" == some nonce

def checkClaims (payload : JsonObject) : Result Unit :=
  match accessTokenHashMatches p payload r.accessToken with
  | .error e => .error e
  | .ok accessHashMatches =>
    match jsonString payload "iss",jsonString payload "sub",integerValue payload "iat",integerValue payload "exp" with
    | some issuer,some subject,some issuedAt,some expiresAt =>
      if issuer != config.idTokenIssuer || !validSubjectIdentifier subject || !nonceValid r payload
          || !audienceMatchesClientExclusively payload config.clientId || !accessHashMatches
          || !authorizedPartyMatches (jsonString payload "azp") config.clientId
          || fromUnixSeconds issuedAt > r.now + kClockSkew || fromUnixSeconds issuedAt < r.now - kTokenLifetime
          || fromUnixSeconds expiresAt ≤ r.now - kClockSkew || fromUnixSeconds expiresAt > r.now + kTokenLifetime then
        .error (authFailure "The OIDC ID Token claims are invalid.")
      else .ok ()
    | _,_,_,_ => .error (authFailure "The OIDC ID Token claims are invalid.")

-- `OidcProvider::complete` from the ID Token's header to its claims.
def verifyIdToken : Result JsonObject :=
  match tokenKeyId p r.idToken with
  | .error e => .error e
  | .ok kid => match jwksKeys p r.jwks with
    | .error e => .error e
    | .ok keys => match uniqueRs256VerificationKey keys kid with
      | none => .error (authFailure "The OIDC signing key was not found or was ambiguous.")
      | some signingKey => match p.verifyRs256Jwk signingKey.modulus signingKey.exponent r.idToken with
        | .error _ => .error (authFailure "The OIDC ID Token signature is invalid.")
        | .ok (_,payloadJson) => match parseJsonObject p payloadJson with
          | .error e => .error e
          | .ok payload => match checkClaims p config r payload with
            | .error e => .error e
            | .ok () => .ok payload

end

end OpenProof.IdTokens
