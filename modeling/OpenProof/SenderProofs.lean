import OpenProof.GatewayWorld
import OpenProof.TokenActs

namespace OpenProof.SenderProofs
open AtomicPrograms Foundation Http GatewayWorld ReplayTables Authorizations Clients Tokens

abbrev Proc (Err α : Type) := Prog GatewayOp GatewayOp.Ret Err α

-- `std::from_chars` for `std::int64_t`, when it has to consume everything.
def digitsValue (digits : Text) : Option Int :=
  if digits.isEmpty || !digits.all isDigit then none
  else some (digits.foldl (fun value digit => value*10+(digit.toNat-48 : Nat)) 0)

def fromChars (text : Text) : Option Int :=
  let value := if text.head? == some (ch '-') then (digitsValue text.tail).map (- ·) else digitsValue text
  value.filter fun value => -9223372036854775808 ≤ value && value ≤ 9223372036854775807

def decimalInteger (text : Text) : Result Int :=
  (fromChars text).elim
    (fail .authenticationFailed "The authenticated mTLS forwarding timestamp is invalid.") .ok

def base64UrlValue (symbol : UInt8) : Option UInt32 :=
  if isUpper symbol then some (symbol.toUInt32-65)
  else if isLower symbol then some (symbol.toUInt32-71)
  else if isDigit symbol then some (symbol.toUInt32+4)
  else if symbol == ch '-' then some 62
  else if symbol == ch '_' then some 63
  else none

structure Decoder where
  accumulator : UInt32
  pendingBits : Nat
  out : Text

def Decoder.push (decoder : Decoder) (symbol : UInt8) : Result Decoder :=
  match base64UrlValue symbol with
  | none => fail .invalidArgument "Base64url input contains an invalid character."
  | some decoded =>
    let accumulator := decoder.accumulator <<< 6 ||| decoded
    let pendingBits := decoder.pendingBits+6
    if 8 ≤ pendingBits then
      .ok ⟨accumulator,pendingBits-8,
        decoder.out ++ [((accumulator >>> (pendingBits-8).toUInt32) &&& 0xFF).toUInt8]⟩
    else .ok ⟨accumulator,pendingBits,decoder.out⟩

def fromBase64Url (text : Text) : Result Text :=
  let trimmed := (text.reverse.dropWhile (· == ch '=')).reverse
  if trimmed.length % 4 = 1 then fail .invalidArgument "Base64url input has an impossible length."
  else match trimmed.foldlM Decoder.push ⟨0,0,[]⟩ with
    | .error e => .error e
    | .ok decoder =>
      if decoder.accumulator &&& ((1 <<< decoder.pendingBits.toUInt32) - 1) ≠ 0 then
        fail .invalidArgument "Base64url input is not canonically encoded."
      else .ok decoder.out

def safeThumbprint (value : Text) : Bool := value.length == 43 && value.all base64UrlCharacter

structure SenderProofVerifier where
  publicOrigin : Text
  mtlsForwardingKey : Option Text
  proofLifetime : Duration
  hmacSha256 : (key message : Text) → Result Sha256Digest
  sha256 : Text → Result Sha256Digest
  toBase64Url : Sha256Digest → Text
  parseJson : Text → Option Json
  verifyRs256Jwk : (modulus exponent compactJwt : Text) → Result (Text × Text)
  rsaJwkThumbprint : (modulus exponent : Text) → Result Text

namespace DpopService

def clockSkew : Duration := 60000

def consumeAt (proofLifetime : Duration) (jwkThumbprint jwtId : Text) (issuedAt now : Instant) :
    Proc Err (Result Unit) :=
  if proofLifetime ≤ 0 || proofLifetime > 600000 || jwkThumbprint.isEmpty || jwkThumbprint.length > 128
      || jwtId.isEmpty || jwtId.length > 256 || issuedAt > now+clockSkew || issuedAt+proofLifetime < now then
    return fail .authenticationFailed "The DPoP proof is outside the accepted time window."
  else ask (.consumeDpopReplay jwkThumbprint jwtId (issuedAt+proofLifetime+clockSkew) now)

def consume (proofLifetime : Duration) (jwkThumbprint jwtId : Text) (issuedAt : Instant) :
    Proc Err (Result Unit) :=
  (ask .now).bind (consumeAt proofLifetime jwkThumbprint jwtId issuedAt)

end DpopService

def stringClaim (object : JsonObject) (name : Text) : Option Text := jsonString object name

def integerClaim (object : JsonObject) (name : Text) : Result Int :=
  match object.find name with
  | some (.int64 value) => .ok value
  | _ => fail .authenticationFailed "The proof JWT temporal claim is invalid."

def joseProtectedHeaderUsesSupportedExtensions (header : JsonObject) : Bool :=
  (header.find "crit").isNone && (header.find "b64").isNone

def rsaJwk (header : JsonObject) : Result (Text × Text) := do
  if stringClaim header "alg" != some "RS256" || stringClaim header "typ" != some "dpop+jwt"
      || !joseProtectedHeaderUsesSupportedExtensions header then
    fail .authenticationFailed "The DPoP protected header is invalid."
  match header.find "jwk" with
  | some (.object jwk) =>
    if stringClaim jwk "kty" != some "RSA" then
      fail .authenticationFailed "The DPoP proof key is unsupported."
    if [Text.of "d",Text.of "p",Text.of "q",Text.of "dp",Text.of "dq",Text.of "qi",Text.of "oth",
        Text.of "k"].any fun privateName => (JsonObject.find jwk privateName).isSome then
      fail .authenticationFailed "A DPoP proof must contain only public key material."
    match stringClaim jwk "n",stringClaim jwk "e" with
    | some modulus,some exponent => return (modulus,exponent)
    | _,_ => fail .authenticationFailed "The DPoP proof key is incomplete."
  | _ => fail .authenticationFailed "The DPoP protected header is invalid."

structure DpopClaims where
  thumbprint : Text
  jwtId : Text
  issuedAt : Instant

structure Assertion where
  method : HttpMethod
  target : Text
  thumbprint : Text
  timestamp : Text
  nonce : Text
  deriving DecidableEq

def Assertion.payload (assertion : Assertion) : Text :=
  httpMethodName assertion.method ++ [ch '\n'] ++ assertion.target ++ [ch '\n'] ++ assertion.thumbprint
    ++ [ch '\n'] ++ assertion.timestamp ++ [ch '\n'] ++ assertion.nonce

def assertionOf (request : HttpRequest) : Option Assertion :=
  match request.header "x-forwarded-client-cert-sha256",request.header "x-forwarded-client-cert-timestamp",
      request.header "x-forwarded-client-cert-nonce" with
  | some thumbprint,some timestamp,some nonce => some ⟨request.method,request.target,thumbprint,timestamp,nonce⟩
  | _,_,_ => none

def forwardedHeaders : List Text :=
  [Text.of "x-forwarded-client-cert-sha256",Text.of "x-forwarded-client-cert-timestamp",
    Text.of "x-forwarded-client-cert-nonce",Text.of "x-forwarded-client-cert-signature"]

def eraseForwarded (request : HttpRequest) : HttpRequest :=
  forwardedHeaders.foldl HttpRequest.eraseHeader request

namespace SenderProofVerifier
variable (v : SenderProofVerifier)

def parseJsonObject (text : Text) : Result JsonObject :=
  match v.parseJson text with
  | some (.object object) => .ok object
  | _ => fail .authenticationFailed "The proof JWT is malformed."

def unverifiedProtectedHeader (compactJwt : Text) : Result JsonObject :=
  match splitAt (ch '.') compactJwt with
  | (encoded,some _) =>
    if encoded.isEmpty || encoded.length > 4096 then
      fail .authenticationFailed "The DPoP proof is malformed."
    else match fromBase64Url encoded with
      | .error _ => fail .authenticationFailed "The DPoP protected header is invalid."
      | .ok decoded =>
        if decoded.isEmpty || decoded.length > 4096 then
          fail .authenticationFailed "The DPoP protected header is invalid."
        else v.parseJsonObject decoded
  | (_,none) => fail .authenticationFailed "The DPoP proof is malformed."

def expectedHtu (request : HttpRequest) : Text :=
  let origin := (v.publicOrigin.reverse.dropWhile (· == ch '/')).reverse
  (if origin.isEmpty then v.publicOrigin.take 1 else origin) ++ request.path

-- Everything `verifyDpop` reads from the proof before it consumes it.
def dpopClaims (request : HttpRequest) (accessToken : Option Text) : Result DpopClaims :=
  match request.header "dpop" with
  | none => fail .authenticationFailed "A DPoP proof is required."
  | some proof => do
    if proof.isEmpty || proof.length > 16384 then
      fail .authenticationFailed "A DPoP proof is required."
    let header ← v.unverifiedProtectedHeader proof
    let key ← rsaJwk header
    let verified ← v.verifyRs256Jwk key.1 key.2 proof
    match v.parseJsonObject verified.1,v.parseJsonObject verified.2 with
    | .ok verifiedHeader,.ok payload =>
      if (rsaJwk verifiedHeader).toOption != some key then
        fail .authenticationFailed "The DPoP proof key is invalid."
      match stringClaim payload "jti",stringClaim payload "htm",stringClaim payload "htu",
          integerClaim payload "iat" with
      | some jwtId,some method,some target,.ok issuedSeconds =>
        if method != httpMethodName request.method || target != v.expectedHtu request then
          fail .authenticationFailed "The DPoP proof is not bound to this request."
        match accessToken with
        | none => pure ()
        | some token =>
          let accessHash ← v.sha256 token
          if stringClaim payload "ath" != some (v.toBase64Url accessHash) then
            fail .authenticationFailed "The DPoP proof is not bound to the access token."
        let thumbprint ← v.rsaJwkThumbprint key.1 key.2
        return ⟨thumbprint,jwtId,instantFromUnixSeconds issuedSeconds⟩
      | _,_,_,_ => fail .authenticationFailed "The DPoP proof is not bound to this request."
    | _,_ => fail .authenticationFailed "The DPoP proof is malformed."

def verifyDpop (request : HttpRequest) (accessToken : Option Text) :
    Proc Err (Result SenderConstraint × HttpRequest) :=
  match v.dpopClaims request accessToken with
  | .error e => return (.error e,request)
  | .ok claims => do
    match ← DpopService.consume v.proofLifetime claims.thumbprint claims.jwtId claims.issuedAt with
    | .error e => return (.error e,request)
    | .ok _ => return (SenderConstraint.create .dpop claims.thumbprint,request.eraseHeader "dpop")

def maximumAge : Duration := 60000

def refused (request : HttpRequest) (message : Text) : Result SenderConstraint × HttpRequest :=
  (fail .authenticationFailed message,eraseForwarded request)

-- The second half of `verifyMtlsForwarding`, from the clock on.
def consumeAssertion (request : HttpRequest) (assertion : Assertion) (key : Text) (assertedAt : Instant)
    (suppliedSignature : Text) (now : Instant) : Proc Err (Result SenderConstraint × HttpRequest) :=
  if assertedAt > now+maximumAge || assertedAt+maximumAge < now then
    return refused request "The authenticated mTLS forwarding assertion expired."
  else if (v.hmacSha256 key assertion.payload).toOption.map digestBytes != some suppliedSignature then
    return refused request "The authenticated mTLS forwarding assertion signature is invalid."
  else do
    match ← ask (.consumeMtlsForwardingReplay assertion.thumbprint assertion.nonce
      (assertedAt+maximumAge) now) with
    | .error e => return (.error e,eraseForwarded request)
    | .ok _ => return (SenderConstraint.create .mtls assertion.thumbprint,eraseForwarded request)

def verifyMtlsForwarding (request : HttpRequest) : Proc Err (Result SenderConstraint × HttpRequest) :=
  match assertionOf request,request.header "x-forwarded-client-cert-signature",v.mtlsForwardingKey with
  | some assertion,some signature,some key =>
    if !safeThumbprint assertion.thumbprint || assertion.nonce.isEmpty || assertion.nonce.length > 256
        || signature.isEmpty || signature.length > 128 then
      return refused request "Authenticated mTLS certificate forwarding is required."
    else match decimalInteger assertion.timestamp,fromBase64Url signature with
      | .ok assertedAt,.ok suppliedSignature =>
        if suppliedSignature.length ≠ 32 then
          return refused request "The authenticated mTLS forwarding assertion is invalid."
        else (ask .now).bind (v.consumeAssertion request assertion key assertedAt suppliedSignature)
      | _,_ => return refused request "The authenticated mTLS forwarding assertion is invalid."
  | _,_,_ => return refused request "Authenticated mTLS certificate forwarding is required."

def matched (message : Text) (kind : SenderConstraintKind) (constraint : SenderConstraint)
    (verified : Result SenderConstraint × HttpRequest) : Result Unit × HttpRequest :=
  if verified.1.toOption.any fun proven => proven.kind = kind && proven.value == constraint.value then
    (.ok (),verified.2)
  else (fail .authenticationFailed message,verified.2)

def verify (request : HttpRequest) (constraint : SenderConstraint) (accessToken : Text)
    (dpopAuthorizationScheme : Bool) : Proc Err (Result Unit × HttpRequest) :=
  match constraint.kind with
  | .dpop =>
    if !dpopAuthorizationScheme then
      return (fail .authenticationFailed
        "A DPoP-bound access token requires the DPoP authorization scheme.",request)
    else do
      return matched "The DPoP proof key does not match the access token binding." .dpop constraint
        (← v.verifyDpop request (some accessToken))
  | .mtls =>
    if dpopAuthorizationScheme then
      return (fail .authenticationFailed
        "An mTLS-bound access token uses the Bearer authorization scheme.",request)
    else do
      return matched "The mTLS certificate does not match the access token binding." .mtls constraint
        (← v.verifyMtlsForwarding request)

end SenderProofVerifier

def accepted : Except Error α → Bool
  | .ok _ => true
  | .error _ => false

def AssertionSpent (request : HttpRequest) (w after : GatewayState) (answer : Result SenderConstraint) : Prop :=
  (∃ assertion assertedAt,assertionOf request = some assertion ∧
    decimalInteger assertion.timestamp = .ok assertedAt ∧ w.clock ≤ assertedAt+60000 ∧
    after.mtlsReplays = (consume (assertion.thumbprint,assertion.nonce) (assertedAt+60000) w.clock
      w.mtlsReplays).2 ∧
    (accepted answer = true → (consume (assertion.thumbprint,assertion.nonce) (assertedAt+60000) w.clock
      w.mtlsReplays).1 = true)) ∨
  (after = w ∧ accepted answer = false)

section
variable {v : SenderProofVerifier} {breaker : CircuitBreaker} {request : HttpRequest} {w : GatewayState}

theorem consumeAssertion_run (shown : assertionOf request = some assertion)
    (parsed : decimalInteger assertion.timestamp = .ok assertedAt) :
    ∃ answer after,(v.consumeAssertion request assertion key assertedAt supplied w.clock : Proc Error _).run
        (exec breaker) w = (.ok (answer,eraseForwarded request),after) ∧ AssertionSpent request w after answer := by
  unfold SenderProofVerifier.consumeAssertion
  split
  · exact ⟨_,_,rfl,.inr ⟨rfl,rfl⟩⟩
  · rename_i window
    simp only [Bool.or_eq_true,decide_eq_true_eq,not_or,Int.not_lt] at window
    split
    · exact ⟨_,_,rfl,.inr ⟨rfl,rfl⟩⟩
    · simp only [bind,ask,Prog.run_perform_bind,exec]
      cases taken : (consume (assertion.thumbprint,assertion.nonce)
        (assertedAt+SenderProofVerifier.maximumAge) w.clock w.mtlsReplays).1 with
      | true => exact ⟨_,_,rfl,.inl ⟨assertion,assertedAt,shown,parsed,window.2,rfl,fun _ => taken⟩⟩
      | false =>
        refine ⟨_,_,rfl,.inl ⟨assertion,assertedAt,shown,parsed,window.2,rfl,fun counted => ?_⟩⟩
        cases counted

theorem verifyMtlsForwarding_run (v : SenderProofVerifier) (breaker : CircuitBreaker) (request : HttpRequest)
    (w : GatewayState) : ∃ answer after,(v.verifyMtlsForwarding request : Proc Error _).run (exec breaker) w =
        (.ok (answer,eraseForwarded request),after) ∧ AssertionSpent request w after answer := by
  unfold SenderProofVerifier.verifyMtlsForwarding
  split
  · rename_i assertion signature key shown _ _
    split
    · exact ⟨_,_,rfl,.inr ⟨rfl,rfl⟩⟩
    · split
      · rename_i assertedAt supplied parsed _
        split
        · exact ⟨_,_,rfl,.inr ⟨rfl,rfl⟩⟩
        · exact consumeAssertion_run shown parsed
      · exact ⟨_,_,rfl,.inr ⟨rfl,rfl⟩⟩
  · exact ⟨_,_,rfl,.inr ⟨rfl,rfl⟩⟩

end

def mtlsVerifier (v : SenderProofVerifier) (breaker : CircuitBreaker) :
    Verifier HttpRequest (Except Error (Result SenderConstraint × HttpRequest)) GatewayState (Text × Text) where
  step now request w := (v.verifyMtlsForwarding request).run (exec breaker) { w with clock := now }
  accepts answer := answer.toOption.any fun answer => accepted answer.1
  rows := GatewayState.mtlsReplays
  shows request key expiresAt := ∃ assertion assertedAt,assertionOf request = some assertion ∧
    decimalInteger assertion.timestamp = .ok assertedAt ∧ key = (assertion.thumbprint,assertion.nonce) ∧
      expiresAt = assertedAt+60000

theorem mtlsVerifier_spends (v : SenderProofVerifier) (breaker : CircuitBreaker) :
    (mtlsVerifier v breaker).Spends := by
  intro now request w
  obtain ⟨answer,after,ran,spent⟩ := verifyMtlsForwarding_run v breaker request { w with clock := now }
  have stepped : (mtlsVerifier v breaker).step now request w = (.ok (answer,eraseForwarded request),after) := ran
  rw [stepped]
  rcases spent with ⟨assertion,assertedAt,shown,parsed,_,left,taken⟩ | ⟨rfl,refused⟩
  · exact .inl ⟨_,_,⟨assertion,assertedAt,shown,parsed,rfl,rfl⟩,left,taken⟩
  · exact .inr ⟨rfl,refused⟩

theorem mtlsVerifier_window {v : SenderProofVerifier} {breaker : CircuitBreaker} {now : Instant}
    {request : HttpRequest} {w : GatewayState}
    (taken : (mtlsVerifier v breaker).accepts ((mtlsVerifier v breaker).step now request w).1 = true) :
    ∃ assertion assertedAt,assertionOf request = some assertion ∧
      decimalInteger assertion.timestamp = .ok assertedAt ∧ now ≤ assertedAt+60000 := by
  obtain ⟨answer,after,ran,spent⟩ := verifyMtlsForwarding_run v breaker request { w with clock := now }
  have stepped : (mtlsVerifier v breaker).step now request w = (.ok (answer,eraseForwarded request),after) := ran
  rw [stepped] at taken
  rcases spent with ⟨assertion,assertedAt,shown,parsed,window,_⟩ | ⟨_,refused⟩
  · exact ⟨assertion,assertedAt,shown,parsed,window⟩
  · cases refused.symm.trans taken

theorem mtls_assertion_once_off_the_boundary (v : SenderProofVerifier) (breaker : CircuitBreaker)
    (assertion : Assertion) (calls : List (Instant × HttpRequest)) (w : GatewayState)
    (ordered : calls.Pairwise fun a b => a.1 ≤ b.1) (off : ∀ call ∈ calls,assertionOf call.2 = some assertion →
      decimalInteger assertion.timestamp ≠ .ok (call.1-60000)) :
    (mtlsVerifier v breaker).acceptances (fun request => assertionOf request = some assertion) calls w ≤ 1 := by
  have spends := mtlsVerifier_spends v breaker
  cases parsed : decimalInteger assertion.timestamp with
  | error e =>
    -- no row stands for such an assertion, so any will do
    have names : (mtlsVerifier v breaker).Names (fun request => assertionOf request = some assertion)
        ⟨([],[]),0⟩ := by
      rintro request wanted key expiresAt ⟨other,assertedAt,shown,read,_⟩
      cases shown.symm.trans (of_decide_eq_true wanted)
      cases parsed.symm.trans read
    apply ReplayTables.Verifier.acceptances_le_one spends names ordered
    intro call _ wanted state taken
    obtain ⟨other,assertedAt,shown,read,_⟩ := mtlsVerifier_window taken
    cases shown.symm.trans (of_decide_eq_true wanted)
    cases parsed.symm.trans read
  | ok assertedAt =>
    have names : (mtlsVerifier v breaker).Names (fun request => assertionOf request = some assertion)
        ⟨(assertion.thumbprint,assertion.nonce),assertedAt+60000⟩ := by
      rintro request wanted key expiresAt ⟨other,read,shown,same,rfl,rfl⟩
      cases shown.symm.trans (of_decide_eq_true wanted)
      cases parsed.symm.trans same
      exact ⟨rfl,rfl⟩
    apply ReplayTables.Verifier.acceptances_le_one spends names ordered
    intro call member wanted state taken
    obtain ⟨other,read,shown,same,window⟩ := mtlsVerifier_window taken
    have here := of_decide_eq_true wanted
    cases shown.symm.trans here
    cases parsed.symm.trans same
    have apart : assertedAt ≠ call.1-60000 := by
      rintro rfl
      exact off call member here parsed
    refine Int.lt_iff_le_and_ne.mpr ⟨window,fun equal => apart ?_⟩
    rw [equal]
    exact (Int.add_sub_cancel _ _).symm

def demoVerifier : SenderProofVerifier where
  publicOrigin := "https://id.example"
  mtlsForwardingKey := some "k"
  proofLifetime := 300000
  hmacSha256 _ _ := .ok 0
  sha256 _ := .ok 0
  toBase64Url _ := []
  parseJson _ := none
  verifyRs256Jwk _ _ _ := .error (.plain .authenticationFailed)
  rsaJwkThumbprint _ _ := .error (.plain .authenticationFailed)

def demoBreaker : CircuitBreaker := ⟨3,30000,by decide⟩

def demoSurroundings : GatewaySurroundings where
  allowRate _ := true
  sessions _ := .error (.plain .authenticationRequired)
  delegated _ := .error (.plain .authenticationRequired)
  permits _ _ := true
  hmacSha256 _ := .ok 0
  upstream _ _ := .ok (.plain 200)

def demoGateway : GatewayState := ⟨0,demoSurroundings,∅,∅,∅,[],[]⟩

def demoThumbprint : Text := List.replicate 43 (ch 'A')

def demoAssertion : Assertion := ⟨.get,"/orders",demoThumbprint,"1000","n"⟩

def demoForwarded : HttpRequest where
  method := .get
  target := "/orders"
  headers := ((((∅ : Map Text Text).insert "x-forwarded-client-cert-sha256" demoThumbprint).insert
    "x-forwarded-client-cert-timestamp" "1000").insert "x-forwarded-client-cert-nonce" "n").insert
      "x-forwarded-client-cert-signature" demoThumbprint
  body := []
  remoteAddress := "192.0.2.1"
  correlation := "c"

-- Replayed in the last millisecond before the boundary the assertion is refused.
theorem mtls_assertion_once_early :
    (mtlsVerifier demoVerifier demoBreaker).acceptances (fun request => assertionOf request = some demoAssertion)
        [(2000,demoForwarded),(60999,demoForwarded)] demoGateway ≤ 1 ∧
      (mtlsVerifier demoVerifier demoBreaker).acceptances (fun request => assertionOf request = some demoAssertion)
        [(2000,demoForwarded)] demoGateway = 1 :=
  ⟨mtls_assertion_once_off_the_boundary demoVerifier demoBreaker demoAssertion _ demoGateway (by decide)
    (by decide +kernel),by decide +kernel⟩

-- Replayed at the boundary it is accepted again: its row has just been purged.
theorem mtls_assertion_twice :
    List.Pairwise (fun a b => a.1 ≤ b.1) [((2000 : Instant),demoForwarded),(61000,demoForwarded)] ∧
      ¬(mtlsVerifier demoVerifier demoBreaker).acceptances (fun request => assertionOf request = some demoAssertion)
        [(2000,demoForwarded),(61000,demoForwarded)] demoGateway ≤ 1 := by
  refine ⟨by decide,?_⟩
  decide +kernel

-- `DpopService::consume` and `JarService::consumeReplay` behind the same kind of table.
structure DpopProof where
  thumbprint : Text
  jwtId : Text
  issuedAt : Instant
  deriving DecidableEq

def dpopVerifier (proofLifetime : Duration) (breaker : CircuitBreaker) :
    Verifier DpopProof (Except Error (Result Unit)) GatewayState (Text × Text) where
  step now proof w := (DpopService.consume proofLifetime proof.thumbprint proof.jwtId proof.issuedAt).run
    (exec breaker) { w with clock := now }
  accepts answer := answer.toOption.any accepted
  rows := GatewayState.dpopReplays
  shows proof key expiresAt := key = (proof.thumbprint,proof.jwtId) ∧
    expiresAt = proof.issuedAt+proofLifetime+60000

structure JarObject where
  clientId : ClientId
  jwtId : Text
  issuedAt : Instant
  expiresAt : Instant
  deriving DecidableEq

def jarRow (replay : JarReplay) : Row (ClientId × Text) := ⟨(replay.clientId,replay.jwtId),replay.expiresAt⟩

def jarVerifier : Verifier JarObject (Result Unit) World.State (ClientId × Text) where
  step now object w := (Services.JarService.consumeReplay object.clientId object.jwtId object.issuedAt
    object.expiresAt).run World.exec { w with clock := now }
  accepts := accepted
  rows w := w.jar.replays.map jarRow
  shows object key expiresAt := key = (object.clientId,object.jwtId) ∧ expiresAt = object.expiresAt

theorem consumeJarReplay_rows (clientId : ClientId) (jwtId : Text) (expiresAt now : Instant)
    (replays : List JarReplay) : (consumeJarReplay clientId jwtId expiresAt now replays).2.map jarRow =
        (consume (clientId,jwtId) expiresAt now (replays.map jarRow)).2 ∧
      accepted (consumeJarReplay clientId jwtId expiresAt now replays).1 =
        (consume (clientId,jwtId) expiresAt now (replays.map jarRow)).1 := by
  have live : (replays.map jarRow).filter (fun row => decide (now < row.expiresAt)) =
      (replays.filter fun replay => decide (now < replay.expiresAt)).map jarRow := by
    rw [List.filter_map]
    rfl
  have found : ((replays.filter fun replay => decide (now < replay.expiresAt)).map jarRow).any
      (fun row => decide (row.key = (clientId,jwtId))) =
      (replays.filter fun replay => decide (now < replay.expiresAt)).any
        fun replay => decide (replay.clientId = clientId) && replay.jwtId == jwtId := by
    rw [List.any_map]
    congr 1
    funext replay
    simp [jarRow,beq_eq_decide]
  unfold consume consumeJarReplay
  dsimp only
  rw [live,found]
  split
  · exact ⟨rfl,rfl⟩
  · exact ⟨rfl,rfl⟩

section
variable {proofLifetime : Duration} {breaker : CircuitBreaker}

theorem dpopVerifier_step (proof : DpopProof) (w : GatewayState) :
    (∃ answer after,(dpopVerifier proofLifetime breaker).step now proof w = (.ok answer,after) ∧
      now ≤ proof.issuedAt+proofLifetime ∧
      after.dpopReplays = (consume (proof.thumbprint,proof.jwtId) (proof.issuedAt+proofLifetime+60000) now
        w.dpopReplays).2 ∧
      accepted answer = (consume (proof.thumbprint,proof.jwtId) (proof.issuedAt+proofLifetime+60000) now
        w.dpopReplays).1) ∨
    ∃ answer,(dpopVerifier proofLifetime breaker).step now proof w = (.ok answer,{ w with clock := now }) ∧
      accepted answer = false := by
  have stepped : (dpopVerifier proofLifetime breaker).step now proof w =
      (DpopService.consumeAt proofLifetime proof.thumbprint proof.jwtId proof.issuedAt now).run (exec breaker)
        { w with clock := now } := rfl
  rw [stepped]
  unfold DpopService.consumeAt
  split
  · exact .inr ⟨_,rfl,rfl⟩
  · rename_i window
    simp only [Bool.or_eq_true,decide_eq_true_eq,not_or,Int.not_lt] at window
    refine .inl ⟨_,_,rfl,window.2,rfl,?_⟩
    change accepted (replayed _ _) = _
    unfold replayed
    split
    · rename_i taken
      exact taken.symm
    · rename_i refused
      exact (Bool.eq_false_iff.mpr refused).symm

-- The tests of `JarService::consumeReplay`.
def jarClaimsInvalid (jwtId : Text) (issuedAt expiresAt now : Instant) : Bool :=
  jwtId.isEmpty || jwtId.length > 256 || expiresAt ≤ now || issuedAt > now+60000 || issuedAt < now-600000
    || expiresAt > issuedAt+600000

theorem consumeReplay_eq : Services.JarService.consumeReplay clientId jwtId issuedAt expiresAt =
      World.now.bind fun now => (Prog.refuseIf (jarClaimsInvalid jwtId issuedAt expiresAt now)
        (.because .authenticationFailed "The JAR temporal or replay claims are invalid.")).bind fun _ =>
          (World.ask (.jar (.consume clientId jwtId expiresAt now))).bind Prog.check := rfl

theorem jarVerifier_step (object : JarObject) (w : World.State) : (now < object.expiresAt ∧
      jarVerifier.rows (jarVerifier.step now object w).2 =
        (consume (object.clientId,object.jwtId) object.expiresAt now (jarVerifier.rows w)).2 ∧
      accepted (jarVerifier.step now object w).1 =
        (consume (object.clientId,object.jwtId) object.expiresAt now (jarVerifier.rows w)).1) ∨
    ((jarVerifier.step now object w).2 = { w with clock := now } ∧
      accepted (jarVerifier.step now object w).1 = false) := by
  simp only [jarVerifier,consumeReplay_eq,World.now,World.run_ask_bind,World.exec]
  cases invalid : jarClaimsInvalid object.jwtId object.issuedAt object.expiresAt now with
  | true => exact .inr ⟨rfl,rfl⟩
  | false =>
    simp only [jarClaimsInvalid,Bool.or_eq_false_iff,decide_eq_false_iff_not,Int.not_le] at invalid
    obtain ⟨rows,answer⟩ := consumeJarReplay_rows object.clientId object.jwtId object.expiresAt now w.jar.replays
    simp only [Prog.refuseIf_false,Prog.ret_bind,World.run_ask_bind,World.exec,World.JarOp.exec,Prog.run_check]
    exact .inl ⟨invalid.1.1.1.2,rows,answer⟩

end

theorem dpopVerifier_spends (proofLifetime : Duration) (breaker : CircuitBreaker) :
    (dpopVerifier proofLifetime breaker).Spends := by
  intro now proof w
  rcases @dpopVerifier_step proofLifetime breaker now proof w with
    ⟨answer,after,stepped,_,left,taken⟩ | ⟨answer,stepped,refused⟩
  · rw [stepped]
    refine .inl ⟨_,_,⟨rfl,rfl⟩,left,fun counted => ?_⟩
    exact taken.symm.trans counted
  · rw [stepped]
    exact .inr ⟨rfl,refused⟩

theorem jarVerifier_spends : jarVerifier.Spends := by
  intro now object w
  rcases @jarVerifier_step now object w with ⟨_,left,taken⟩ | ⟨left,refused⟩
  · exact .inl ⟨_,_,⟨rfl,rfl⟩,left,fun counted => taken.symm.trans counted⟩
  · refine .inr ⟨?_,refused⟩
    rw [left]
    rfl

theorem proofs_accepted_once (proofLifetime : Duration) (breaker : CircuitBreaker)
    (proofs : List (Instant × DpopProof)) (objects : List (Instant × JarObject)) (g : GatewayState)
    (w : World.State) (proofsOrdered : proofs.Pairwise fun a b => a.1 ≤ b.1)
    (objectsOrdered : objects.Pairwise fun a b => a.1 ≤ b.1) :
    (∀ proof,(dpopVerifier proofLifetime breaker).acceptances (fun shown => shown = proof) proofs g ≤ 1) ∧
      ∀ object,jarVerifier.acceptances (fun shown => shown = object) objects w ≤ 1 := by
  constructor
  · intro proof
    have names : (dpopVerifier proofLifetime breaker).Names (fun shown => shown = proof)
        ⟨(proof.thumbprint,proof.jwtId),proof.issuedAt+proofLifetime+60000⟩ := by
      rintro shown wanted key expiresAt ⟨rfl,rfl⟩
      cases of_decide_eq_true wanted
      exact ⟨rfl,rfl⟩
    apply ReplayTables.Verifier.acceptances_le_one (dpopVerifier_spends proofLifetime breaker) names proofsOrdered
    intro call _ wanted state counted
    cases of_decide_eq_true wanted
    rcases @dpopVerifier_step proofLifetime breaker call.1 call.2 state with
      ⟨_,_,_,window,_⟩ | ⟨answer,stepped,refused⟩
    · -- the row outlives the window by the clock skew
      exact Int.lt_of_le_of_lt window (Int.lt_add_of_pos_right _ (by decide))
    · rw [stepped] at counted
      cases refused.symm.trans counted
  · intro object
    have names : jarVerifier.Names (fun shown => shown = object) ⟨(object.clientId,object.jwtId),object.expiresAt⟩ := by
      rintro shown wanted key expiresAt ⟨rfl,rfl⟩
      cases of_decide_eq_true wanted
      exact ⟨rfl,rfl⟩
    apply ReplayTables.Verifier.acceptances_le_one jarVerifier_spends names objectsOrdered
    intro call _ wanted state counted
    cases of_decide_eq_true wanted
    rcases @jarVerifier_step call.1 call.2 state with ⟨window,_⟩ | ⟨_,refused⟩
    · exact window
    · cases refused.symm.trans counted

def demoProof : DpopProof := ⟨demoThumbprint,"j",1000⟩
def demoObject : JarObject := ⟨⟨"web"⟩,"j",1000,301000⟩

theorem proofs_accepted_once_shown_twice :
    (dpopVerifier 300000 demoBreaker).acceptances (fun shown => shown = demoProof)
        [(2000,demoProof),(300000,⟨"other","j",200000⟩),(301000,demoProof)] demoGateway = 1 ∧
      jarVerifier.acceptances (fun shown => shown = demoObject)
        [(2000,demoObject),(300000,⟨⟨"web"⟩,"k",200000,400000⟩),(300999,demoObject)]
        (World.State.empty TokenActs.demoSurroundings) = 1 := by
  have most := proofs_accepted_once 300000 demoBreaker
    [(2000,demoProof),(300000,⟨"other","j",200000⟩),(301000,demoProof)]
    [(2000,demoObject),(300000,⟨⟨"web"⟩,"k",200000,400000⟩),(300999,demoObject)] demoGateway
    (World.State.empty TokenActs.demoSurroundings) (by decide) (by decide)
  refine ⟨Nat.le_antisymm (most.1 demoProof) ?_,Nat.le_antisymm (most.2 demoObject) ?_⟩
  · decide
  · decide

end OpenProof.SenderProofs
