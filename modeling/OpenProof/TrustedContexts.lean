import OpenProof.AuditChains
import OpenProof.GatewayContexts

namespace OpenProof.TrustedContexts
open AtomicPrograms Foundation Http GatewayRequests GatewayWorld SenderProofs GatewayHandler AuditChains
open AuthenticationHandoffs GatewayContexts GatewayHeaders HandoffTexts

def fromHex (text : Text) : Result Text :=
  if text.length % 2 ≠ 0 then fail .invalidArgument "Hexadecimal input must have an even length."
  else match parseHex text with
    | none => fail .invalidArgument "Hexadecimal input contains a non-hexadecimal character."
    | some bytes => .ok bytes

structure TrustedContextSigner where
  maximumAge : Duration
  window : 0 < maximumAge ∧ maximumAge ≤ 300000

namespace TrustedContextSigner

def create (maximumAge : Duration) : Result TrustedContextSigner :=
  if invalid : maximumAge ≤ 0 ∨ maximumAge > 300000 then
    fail .invalidArgument "The trusted-context freshness window is invalid."
  else .ok ⟨maximumAge,by
    obtain ⟨positive,bounded⟩ := not_or.mp invalid
    exact ⟨Int.not_le.mp positive,Int.not_lt.mp bounded⟩⟩

variable (s : TrustedContextSigner)

def stale (now issued : Instant) : Bool := now + s.maximumAge < issued || issued + s.maximumAge < now

def invalidContext : Result Unit := fail .authenticationFailed "The trusted gateway context is invalid."

def compared (expected : Result Sha256Digest) (supplied : Result Text) : Result Unit :=
  match expected,supplied with
  | .ok expected,.ok supplied =>
    if supplied.length ≠ (digestBytes expected).length || digestBytes expected != supplied then invalidContext else .ok ()
  | _,_ => invalidContext

def verify (request : HttpRequest) : Proc Err (Result Unit) :=
  match request.header "x-openproof-context-issued-at",request.header "x-openproof-context-signature" with
  | some issuedHeader,some signature =>
    if signature.length ≠ 64 then .ret invalidContext
    else match fromChars issuedHeader with
      | none => .ret invalidContext
      | some issued =>
        (ask .now).bind fun now =>
          if s.stale now issued then .ret (fail .authenticationFailed "The trusted gateway context is stale.")
          else (ask (.hmacSha256 (trustedContextPayload request))).bind fun expected =>
            .ret (compared expected (fromHex signature))
  | _,_ => .ret invalidContext

end TrustedContextSigner

def InRange (value : Int) : Prop := -9223372036854775808 ≤ value ∧ value ≤ 9223372036854775807

instance inRange_decidable (value : Int) : Decidable (InRange value) := by
  unfold InRange
  infer_instance

def checkedAdd (one two : Int) : Option Int := if InRange (one + two) then some (one + two) else none

def TrustedContextSigner.checkedStale (s : TrustedContextSigner) (now issued : Int) : Option Bool := do
  let latest ← checkedAdd now s.maximumAge
  if latest < issued then return true
  let expiry ← checkedAdd issued s.maximumAge
  return expiry < now

section
variable {s : TrustedContextSigner} {breaker : CircuitBreaker} {request base : HttpRequest} {w : GatewayState}

theorem checkedStale_exact {now issued : Int} (room : now + 2*s.maximumAge ≤ 9223372036854775807) (clock : InRange now)
    (header : InRange issued) : s.checkedStale now issued = some (s.stale now issued) := by
  have positive : (0 : Int) < s.maximumAge := s.window.1
  unfold InRange at clock header
  have latest : checkedAdd now s.maximumAge = some (now + s.maximumAge) := if_pos (by unfold InRange; omega)
  unfold TrustedContextSigner.checkedStale TrustedContextSigner.stale
  rw [latest]
  by_cases early : now + s.maximumAge < issued
  · simp [early]
  · have expiry : checkedAdd issued s.maximumAge = some (issued + s.maximumAge) := if_pos (by unfold InRange; omega)
    simp [early,expiry]

theorem checkedStale_overflows {now : Int} (late : 9223372036854775807 < now + 2*s.maximumAge) :
    ∃ issued,InRange issued ∧ s.checkedStale now issued = none := by
  by_cases first : InRange (now + s.maximumAge)
  · refine ⟨now + s.maximumAge,first,?_⟩
    have latest : checkedAdd now s.maximumAge = some (now + s.maximumAge) := if_pos first
    have expiry : checkedAdd (now + s.maximumAge) s.maximumAge = none := if_neg (by unfold InRange; omega)
    simp [TrustedContextSigner.checkedStale,latest,expiry]
  · have latest : checkedAdd now s.maximumAge = none := if_neg first
    exact ⟨0,by decide,by simp [TrustedContextSigner.checkedStale,latest]⟩

theorem fromHex_toHex (bytes : Text) : fromHex (toHex bytes) = .ok bytes := by
  unfold fromHex
  rw [toHex_length,parseHex_toHex,if_neg (by omega)]

theorem compared_ok (same : TrustedContextSigner.compared expected supplied = .ok ()) :
    ∃ digest,expected = .ok digest ∧ supplied = .ok (digestBytes digest) := by
  unfold TrustedContextSigner.compared at same
  split at same
  · split at same
    · cases same
    · rename_i digest bytes fine
      simp only [ne_eq,bne_iff_ne,not_or,Decidable.not_not,Bool.or_eq_true,decide_eq_true_eq] at fine
      exact ⟨digest,rfl,congrArg _ fine.2.symm⟩
  · cases same

theorem verify_ok_iff : ((s.verify request : Handler (Result Unit)).run (exec breaker) w).1 = .ok (.ok ()) ↔
    ∃ issuedHeader signature issued digest,request.header "x-openproof-context-issued-at" = some issuedHeader ∧
      request.header "x-openproof-context-signature" = some signature ∧ signature.length = 64 ∧
      fromChars issuedHeader = some issued ∧ s.stale w.clock issued = false ∧
      w.surroundings.hmacSha256 (trustedContextPayload request) = .ok digest ∧ fromHex signature = .ok (digestBytes digest) := by
  unfold TrustedContextSigner.verify
  constructor
  · intro accepted
    split at accepted
    · rename_i issuedHeader signature dated signed
      split at accepted
      · cases accepted
      rename_i length
      split at accepted
      · cases accepted
      rename_i issued read
      rw [ask,Prog.run_perform_bind] at accepted
      split at accepted
      · cases accepted
      rename_i fresh
      rw [ask,Prog.run_perform_bind] at accepted
      obtain ⟨digest,hashed,decoded⟩ := compared_ok (Except.ok.inj accepted)
      exact ⟨issuedHeader,signature,issued,digest,dated,signed,not_not.mp length,read,Bool.not_eq_true _ ▸ fresh,hashed,decoded⟩
    · cases accepted
  · rintro ⟨issuedHeader,signature,issued,digest,dated,signed,length,read,fresh,hashed,decoded⟩
    simp only [dated,signed,read]
    rw [if_neg (not_not.mpr length),ask,Prog.run_perform_bind]
    simp only [exec,fresh,Bool.false_eq_true,if_false]
    rw [ask,Prog.run_perform_bind]
    simp only [exec,hashed,decoded]
    simp [TrustedContextSigner.compared]

theorem seal_ok_iff : ((seal_ base).run (exec breaker) w).1 = .ok out ↔
    ∃ digest,w.surroundings.hmacSha256 (trustedContextPayload
      (base.setHeader "x-openproof-context-issued-at" (decimal w.clock))) = .ok digest ∧ out = sealed base w.clock digest := by
  unfold seal_ sealAt
  rw [ask,Prog.run_perform_bind]
  simp only [exec]
  rw [ask,Prog.run_perform_bind]
  simp only [exec]
  cases w.surroundings.hmacSha256 (trustedContextPayload
      (base.setHeader "x-openproof-context-issued-at" (decimal w.clock))) with
  | error e => simp
  | ok digest =>
    simp only [Prog.run_ret,Except.ok.injEq,exists_eq_left']
    exact eq_comm

theorem payload_sealed : trustedContextPayload (sealed base now digest) =
      trustedContextPayload (base.setHeader "x-openproof-context-issued-at" (decimal now)) := payload_unsigned _ _

theorem sealed_verifies (made : ((seal_ base).run (exec breaker) w).1 = .ok out) (dated : InRange w.clock)
    (key : later.surroundings.hmacSha256 = w.surroundings.hmacSha256)
    (behind : w.clock ≤ later.clock + s.maximumAge) (ahead : later.clock ≤ w.clock + s.maximumAge) :
    ((s.verify out : Handler (Result Unit)).run (exec breaker) later).1 = .ok (.ok ()) := by
  obtain ⟨digest,hashed,rfl⟩ := seal_ok_iff.mp made
  have length : (toHex (digestBytes digest)).length = 64 := by
    rw [toHex_length,digestBytes,List.length_map,List.length_range]
  have read : fromChars (decimal w.clock) = some w.clock := by
    rw [fromChars_decimal]
    simpa [InRange,Option.filter] using dated
  refine verify_ok_iff.mpr ⟨decimal w.clock,toHex (digestBytes digest),w.clock,digest,?_,?_,length,read,?_,?_,fromHex_toHex _⟩
  · rw [sealed,header_setHeader,if_neg (by decide),header_setHeader,if_pos rfl]
  · rw [sealed,header_setHeader,if_pos rfl]
  · simp [TrustedContextSigner.stale,not_lt.mpr behind,not_lt.mpr ahead]
  · rw [key,payload_sealed,hashed]

structure Agrees (one two : HttpRequest) : Prop where
  method : one.method = two.method
  target : one.target = two.target
  headers : ∀ name ∈ signedNames,(one.header name).getD [] = (two.header name).getD []

def signedValues (request : HttpRequest) : List Text :=
  httpMethodName request.method :: request.target :: signedNames.map fun name => (request.header name).getD []

theorem payload_parts : trustedContextPayload request = Netstrings.parts counted (ch ':') (signedValues request) := by
  have one : ∀ value,signedPart value = Netstrings.part counted (ch ':') value := by
    intro value
    simp only [signedPart,Netstrings.part,counted,List.append_assoc]
    rfl
  simp only [trustedContextPayload,Netstrings.parts,signedValues,List.flatMap_cons,List.flatMap_map,one,List.append_assoc]

theorem httpMethodName_injective (same : httpMethodName one = httpMethodName two) : one = two := by
  cases one <;> cases two <;> first | rfl | exact absurd same (by decide)

theorem payload_agrees (same : trustedContextPayload one = trustedContextPayload two) : Agrees one two := by
  rw [payload_parts,payload_parts] at same
  have values := Netstrings.parts_injective counted_counts same
  obtain ⟨method,values⟩ := List.cons_eq_cons.mp values
  obtain ⟨target,headers⟩ := List.cons_eq_cons.mp values
  exact ⟨httpMethodName_injective method,target,List.map_inj_left.mp headers⟩

def Presents (request : HttpRequest) (digest : Sha256Digest) : Prop :=
  ∃ signature,request.header "x-openproof-context-signature" = some signature ∧ fromHex signature = .ok (digestBytes digest)

def Sealed (breaker : CircuitBreaker) (hmacSha256 : Text → Result Sha256Digest) (out : HttpRequest) : Prop :=
  ∃ base w,w.surroundings.hmacSha256 = hmacSha256 ∧ ((seal_ base).run (exec breaker) w).1 = .ok out

def Injective (hmacSha256 : Text → Result Sha256Digest) (payloads : Set Text) : Prop :=
  ∀ one ∈ payloads,∀ two ∈ payloads,∀ digest,hmacSha256 one = .ok digest → hmacSha256 two = .ok digest → one = two

def Unforged (hmacSha256 : Text → Result Sha256Digest) (issued : Set HttpRequest) (request : HttpRequest) : Prop :=
  ∀ digest,hmacSha256 (trustedContextPayload request) = .ok digest → Presents request digest →
    ∃ one ∈ issued,hmacSha256 (trustedContextPayload one) = .ok digest

theorem accepted_agrees
    (accepted : ((s.verify request : Handler (Result Unit)).run (exec breaker) w).1 = .ok (.ok ()))
    (injective : Injective w.surroundings.hmacSha256 (insert (trustedContextPayload request) (trustedContextPayload '' issued)))
    (unforged : Unforged w.surroundings.hmacSha256 issued request) : ∃ one ∈ issued,Agrees request one := by
  obtain ⟨issuedHeader,signature,issuedAt,digest,-,signed,-,-,-,hashed,decoded⟩ := verify_ok_iff.mp accepted
  obtain ⟨one,listed,same⟩ := unforged digest hashed ⟨signature,signed,decoded⟩
  exact ⟨one,listed,payload_agrees (injective _ (Set.mem_insert ..) _ (Set.mem_insert_of_mem _ (Set.mem_image_of_mem _ listed))
    digest hashed same)⟩

-- A sealed context holds as long as it is fresh, whatever is accepted was sealed with the same
-- content, and the freshness test is exact in 64 bits for every header while the clock has
-- twice the window left.
theorem contexts_verified (s : TrustedContextSigner) (breaker : CircuitBreaker) :
    (∀ (base out : HttpRequest) (w later : GatewayState),((seal_ base).run (exec breaker) w).1 = .ok out → InRange w.clock →
      later.surroundings.hmacSha256 = w.surroundings.hmacSha256 → w.clock ≤ later.clock + s.maximumAge →
      later.clock ≤ w.clock + s.maximumAge →
        ((s.verify out : Handler (Result Unit)).run (exec breaker) later).1 = .ok (.ok ())) ∧
    (∀ (request : HttpRequest) (w : GatewayState) (issued : Set HttpRequest),
      (∀ one ∈ issued,Sealed breaker w.surroundings.hmacSha256 one) →
      Injective w.surroundings.hmacSha256 (insert (trustedContextPayload request) (trustedContextPayload '' issued)) →
      Unforged w.surroundings.hmacSha256 issued request →
      ((s.verify request : Handler (Result Unit)).run (exec breaker) w).1 = .ok (.ok ()) →
        ∃ one ∈ issued,Sealed breaker w.surroundings.hmacSha256 one ∧ Agrees request one) ∧
    ∀ now : Int,(∀ issued,InRange issued → InRange now → s.checkedStale now issued = some (s.stale now issued)) ↔
      (InRange now → now + 2*s.maximumAge ≤ 9223372036854775807) := by
  refine ⟨fun base out w later made dated key behind ahead => sealed_verifies made dated key behind ahead,?_,?_⟩
  · intro request w issued genuine injective unforged accepted
    obtain ⟨one,listed,agrees⟩ := accepted_agrees accepted injective unforged
    exact ⟨one,listed,genuine one listed,agrees⟩
  · intro now
    constructor
    · intro exact_ clock
      by_contra late
      obtain ⟨issued,header,overflows⟩ := checkedStale_overflows (s := s) (not_le.mp late)
      rw [exact_ issued header clock] at overflows
      cases overflows
    · exact fun room issued header clock => checkedStale_exact (room clock) clock header

end

def demoSigner : TrustedContextSigner := ⟨30000,by decide⟩

def demoSealed : HttpRequest := sealed demoForwarded 0 0

def demoLater : GatewayState := { demoGateway with clock := 29999 }

theorem contexts_verified_later :
    ((demoSigner.verify demoSealed : Handler (Result Unit)).run (exec demoBreaker) demoLater).1 = .ok (.ok ()) ∧
      ∃ one ∈ ({demoSealed} : Set HttpRequest),Sealed demoBreaker demoSurroundings.hmacSha256 one ∧ Agrees demoSealed one := by
  have made : ((seal_ demoForwarded).run (exec demoBreaker) demoGateway).1 = .ok demoSealed := rfl
  have accepted := (contexts_verified demoSigner demoBreaker).1 demoForwarded demoSealed demoGateway demoLater made
    (by decide) rfl (by decide) (by decide)
  refine ⟨accepted,(contexts_verified demoSigner demoBreaker).2.1 demoSealed demoLater {demoSealed} ?_ ?_ ?_ accepted⟩
  · rintro one rfl
    exact ⟨demoForwarded,demoGateway,rfl,made⟩
  · intro one here two there digest _ _
    simp only [Set.image_singleton,Set.mem_insert_iff,Set.mem_singleton_iff,or_self] at here there
    rw [here,there]
  · exact fun digest hashed _ => ⟨demoSealed,rfl,hashed⟩

end OpenProof.TrustedContexts
