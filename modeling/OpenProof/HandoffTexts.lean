import OpenProof.AuthenticationHandoffs

namespace OpenProof.HandoffTexts
open Foundation AuthenticationHandoffs GatewayWorld Http SenderProofs Option

theorem text_ascii (ascii : ∀ c ∈ chars,c.utf8Size = 1) :
    Text.of (String.ofList chars) = chars.map fun c => c.val.toUInt8 := by
  have encoded : ∀ chars : List Char,(∀ c ∈ chars,c.utf8Size = 1) →
      chars.flatMap String.utf8EncodeChar = chars.map fun c => c.val.toUInt8 := by
    intro chars ascii
    induction chars with
    | nil => rfl
    | cons c rest ih =>
      rw [List.flatMap_cons,String.utf8EncodeChar_eq_singleton (ascii c List.mem_cons_self),
        ih fun later inside => ascii later (List.mem_cons_of_mem c inside)]
      rfl
  unfold Text.of
  rw [String.toByteArray_ofList,List.utf8Encode,encoded chars ascii]
  simp

def digits (value : Nat) : Text := (Nat.toDigits 10 value).map fun c => c.val.toUInt8

theorem digitChar_ascii (small : value < 10) : (Nat.digitChar value).utf8Size = 1 ∧
    (Nat.digitChar value).val.toUInt8 = value.toUInt8+48 := by
  rcases value with _ | _ | _ | _ | _ | _ | _ | _ | _ | _ | value
  all_goals first | exact ⟨rfl,rfl⟩ | omega

theorem digits_ascii (value : Nat) : ∀ c ∈ Nat.toDigits 10 value,c.utf8Size = 1 := by
  induction value using Nat.strongRecOn with
  | ind value ih =>
    intro c inside
    rw [Nat.toDigits_eq_if (by decide)] at inside
    split at inside
    · rename_i small
      cases List.mem_singleton.mp inside
      exact (digitChar_ascii small).1
    · rcases List.mem_append.mp inside with front | last
      · exact ih _ (Nat.div_lt_self (by omega) (by decide)) c front
      · cases List.mem_singleton.mp last
        exact (digitChar_ascii (Nat.mod_lt value (by decide))).1

theorem decimal_nat (value : Nat) : decimal (value : Int) = digits value := by
  have shown : toString (value : Int) = String.ofList (Nat.toDigits 10 value) := by
    simp [Nat.repr_eq_ofList_toDigits,Int.repr]
  unfold decimal digits
  rw [shown]
  exact text_ascii (digits_ascii value)

theorem decimal_negative (value : Nat) : decimal (.negSucc value) = ch '-' :: digits (value+1) := by
  have shown : toString (Int.negSucc value) = String.ofList ('-' :: Nat.toDigits 10 (value+1)) := by
    simp [Nat.repr_eq_ofList_toDigits,Int.repr]
  unfold decimal digits
  rw [shown]
  apply text_ascii
  intro c inside
  rcases List.mem_cons.mp inside with rfl | later
  · rfl
  · exact digits_ascii (value+1) c later

theorem digit_isDigit {value : Nat} (small : value < 10) : isDigit (value.toUInt8+48) = true ∧
    (value.toUInt8+48).toNat-48 = value := by
  rcases value with _ | _ | _ | _ | _ | _ | _ | _ | _ | _ | value
  all_goals first | exact ⟨rfl,rfl⟩ | omega

theorem digits_step (value : Nat) : digits value =
    if value < 10 then [value.toUInt8+48] else digits (value / 10) ++ [(value % 10).toUInt8+48] := by
  unfold digits
  rw [Nat.toDigits_eq_if (by decide)]
  split
  · rename_i small
    rw [List.map_singleton,(digitChar_ascii small).2]
  · rw [List.map_append,List.map_singleton,(digitChar_ascii (Nat.mod_lt value (by decide))).2]

theorem digits_read (value : Nat) : digits value ≠ [] ∧ (digits value).all isDigit = true ∧
    (digits value).foldl (fun (sofar : Int) digit => sofar*10+(digit.toNat-48 : Nat)) 0 = value := by
  induction value using Nat.strongRecOn with
  | ind value ih =>
    rw [digits_step]
    split
    · rename_i small
      obtain ⟨digit,back⟩ := digit_isDigit small
      refine ⟨List.cons_ne_nil _ _,by simp [digit],?_⟩
      rw [List.foldl_cons,List.foldl_nil,back]
      omega
    · rename_i large
      obtain ⟨-,front,read⟩ := ih (value / 10) (Nat.div_lt_self (by omega) (by decide))
      obtain ⟨digit,back⟩ := digit_isDigit (Nat.mod_lt value (show 0 < 10 by decide))
      refine ⟨by simp,by simp [front,digit],?_⟩
      rw [List.foldl_append,read,List.foldl_cons,List.foldl_nil,back]
      omega

theorem digitsValue_digits (value : Nat) : digitsValue (digits value) = some (value : Int) := by
  obtain ⟨some_digit,all,read⟩ := digits_read value
  unfold digitsValue
  rw [all,read]
  simp [some_digit]

theorem digits_unsigned (value : Nat) : (digits value).head? ≠ some (ch '-') := by
  obtain ⟨nonempty,all,-⟩ := digits_read value
  cases shape : digits value with
  | nil => exact absurd shape nonempty
  | cons byte rest =>
    rw [shape,List.all_cons,Bool.and_eq_true] at all
    rintro same
    cases same
    exact absurd all.1 (by decide)

theorem digits_injective (same : digits one = digits two) : one = two := by
  have read := digitsValue_digits one
  rw [same,digitsValue_digits] at read
  exact (Int.ofNat.inj (Option.some.inj read)).symm

theorem decimal_injective (same : decimal one = decimal two) : one = two := by
  cases one with
  | ofNat one =>
    have left : decimal (Int.ofNat one) = digits one := decimal_nat one
    cases two with
    | ofNat two =>
      have right : decimal (Int.ofNat two) = digits two := decimal_nat two
      rw [left,right] at same
      exact congrArg Int.ofNat (digits_injective same)
    | negSucc two =>
      rw [left,decimal_negative] at same
      exact absurd (by rw [same]; rfl) (digits_unsigned one)
  | negSucc one =>
    cases two with
    | ofNat two =>
      have right : decimal (Int.ofNat two) = digits two := decimal_nat two
      rw [right,decimal_negative] at same
      exact absurd (by rw [← same]; rfl) (digits_unsigned two)
    | negSucc two =>
      rw [decimal_negative,decimal_negative] at same
      exact congrArg Int.negSucc (Nat.succ.inj (digits_injective (List.cons.inj same).2))

theorem fromChars_decimal (value : Int) : fromChars (decimal value) =
    (some value).filter fun value => -9223372036854775808 ≤ value && value ≤ 9223372036854775807 := by
  cases value with
  | ofNat value =>
    have first := digits_unsigned value
    change fromChars (decimal (value : Int)) = Option.filter _ (some (value : Int))
    unfold fromChars
    rw [decimal_nat,digitsValue_digits,if_neg (by simpa using first)]
  | negSucc value =>
    unfold fromChars
    rw [decimal_negative]
    simp only [List.head?_cons,beq_self_eq_true,if_true,List.tail_cons,digitsValue_digits,map_some]
    rfl

theorem unsignedFromChars_decimal {value : Nat} (small : value < 4294967296) :
    unsignedFromChars (decimal (value : Int)) = some value := by
  have within : (value : Int) < 4294967296 := by omega
  unfold unsignedFromChars
  rw [decimal_nat,digitsValue_digits,bind_some,if_pos within]
  rfl

theorem hex_symbol (small : value < 16) : hexValue (hexDigitsLower.getD value 0) = some value := by
  rcases value with _ | _ | _ | _ | _ | _ | _ | _ | _ | _ | _ | _ | _ | _ | _ | _ | value
  all_goals first | decide | omega

theorem parseHex_toHex (bytes : Text) : parseHex (toHex bytes) = some bytes := by
  induction bytes with
  | nil => rfl
  | cons byte rest ih =>
    have high := hex_symbol (show byte.toNat / 16 < 16 by have := byte.toNat_lt; omega)
    have low := hex_symbol (Nat.mod_lt byte.toNat (show 0 < 16 by decide))
    have split : toHex (byte :: rest) = hexDigitsLower.getD (byte.toNat / 16) 0 ::
        hexDigitsLower.getD (byte.toNat % 16) 0 :: toHex rest := rfl
    have whole : byte.toNat / 16*16+byte.toNat % 16 = byte.toNat := by omega
    rw [split,parseHex,high,low]
    simp only [ih,map_some,whole,Nat.toUInt8_eq,UInt8.ofNat_toNat]

theorem toHex_length (bytes : Text) : (toHex bytes).length = 2*bytes.length := by
  induction bytes with
  | nil => rfl
  | cons byte rest ih =>
    have split : (toHex (byte :: rest)).length = (toHex rest).length+2 := rfl
    rw [split,ih,List.length_cons]
    omega

def bytesOf (count value : Nat) : Text := (List.range count).map fun i => (value >>> (8*(count-1-i)) % 256).toUInt8

def bound : Nat → Nat
  | 0 => 1
  | count+1 => bound count*256

theorem bytesOf_step : bytesOf (count+1) value = bytesOf count (value / 256) ++ [(value % 256).toUInt8] := by
  unfold bytesOf
  rw [List.range_succ,List.map_append,List.map_singleton]
  congr 1
  · apply List.map_congr_left
    intro i inside
    have before := List.mem_range.mp inside
    have further : 8*(count+1-1-i) = 8+8*(count-1-i) := by omega
    have byte : value >>> 8 = value / 256 := Nat.shiftRight_eq_div_pow value 8
    rw [further,Nat.shiftRight_add,byte]
  · have none : 8*(count+1-1-count) = 0 := by omega
    rw [none,Nat.shiftRight_zero]

theorem bytesOf_read (count value : Nat) (small : value < bound count) :
    (bytesOf count value).foldl (fun sofar byte => sofar*256+byte.toNat) 0 = value := by
  induction count generalizing value with
  | zero =>
    have zero : value = 0 := Nat.lt_one_iff.mp small
    rw [zero]
    rfl
  | succ count ih =>
    have front := ih (value / 256) (Nat.div_lt_of_lt_mul (Nat.mul_comm _ _ ▸ small))
    rw [bytesOf_step,List.foldl_append,front,List.foldl_cons,List.foldl_nil]
    simp only [Nat.toUInt8_eq,UInt8.toNat_ofNat']
    omega

theorem digestOf_digestBytes (digest : Sha256Digest) : digestOf (digestBytes digest) = digest := by
  have same : digestBytes digest = bytesOf 32 digest.toNat := by
    apply List.map_congr_left
    intro i _
    rw [BitVec.toNat_ushiftRight]
  have small : digest.toNat < bound 32 := digest.isLt
  unfold digestOf
  rw [same,bytesOf_read 32 digest.toNat small,BitVec.ofNat_toNat,BitVec.setWidth_eq]

theorem parseDigestHex_digestHex (digest : Sha256Digest) : parseDigestHex (digestHex digest) = some digest := by
  have length : (digestHex digest).length = 64 := by
    unfold digestHex
    rw [toHex_length,digestBytes,List.length_map,List.length_range]
  unfold parseDigestHex
  rw [if_neg (not_not.mpr length),digestHex,parseHex_toHex,map_some,digestOf_digestBytes]

section
open AuthenticationService

def carried (authentication : VerifiedAuthentication) : HandoffResult where
  identity := authentication.identity
  provider := authentication.outcome.provider
  subject := authentication.outcome.subject
  assurance := authentication.outcome.claimedAssurance
  strength := authentication.outcome.strength
  verifiedAt := authentication.outcome.verifiedAt

def legible (authentication : VerifiedAuthentication) : Bool :=
  authentication.outcome.strength.factors.toNat ≤ 7 && 0 ≤ authentication.outcome.verifiedAt &&
    authentication.outcome.verifiedAt ≤ 9223372036854775807

theorem readStrength_written :
    readStrength (decimal strength.factors.toNat) (if strength.phishingResistant then "1" else "0") =
      if strength.factors.toNat ≤ 7 then some strength else none := by
  obtain ⟨factors,phishingResistant⟩ := strength
  have small := factors.toNat_lt
  unfold readStrength
  rw [unsignedFromChars_decimal (show factors.toNat < 4294967296 by omega)]
  by_cases known : factors.toNat ≤ 7
  · have few : ¬factors.toNat > 7 := Nat.not_lt.mpr known
    cases phishingResistant <;> simp +decide [known,few]
  · have many : factors.toNat > 7 := Nat.lt_of_not_le known
    simp [known,many]

theorem readVerifiedAt_written : ((fromChars (decimal value)).filter fun value => 0 ≤ value) =
    if 0 ≤ value ∧ value ≤ 9223372036854775807 then some value else none := by
  rw [fromChars_decimal]
  by_cases epoch : 0 ≤ value
  · have low : -9223372036854775808 ≤ value := by omega
    by_cases high : value ≤ 9223372036854775807 <;> simp [epoch,high,low]
  · rw [if_neg fun both => epoch both.1]
    by_cases within : (-9223372036854775808 ≤ value && value ≤ 9223372036854775807 : Bool) = true
    · rw [filter_some,if_pos within,filter_some,if_neg (by simpa using epoch)]
    · rw [filter_some,if_neg within]
      rfl

theorem readResult_written (authentication : VerifiedAuthentication) : readResult (resultMetadata authentication) =
    if legible authentication then .ok (carried authentication)
    else .error (authenticationFailure "Browser authentication handoff redemption refused: result is invalid.") := by
  unfold readResult resultMetadata
  simp +decide only [Map.find_insert,if_true,if_false]
  rw [parseAssurance_name,readStrength_written,readVerifiedAt_written]
  by_cases factors : authentication.outcome.strength.factors.toNat ≤ 7 <;>
    by_cases window : 0 ≤ authentication.outcome.verifiedAt ∧ authentication.outcome.verifiedAt ≤ 9223372036854775807
  · simp only [factors,window,and_self,if_true,legible,decide_true,Bool.and_self]
    rfl
  · have refused : legible authentication = false := by simpa [legible,factors] using window
    simp only [factors,window,if_true,if_false,refused]
    rfl
  · have refused : legible authentication = false := by simp [legible,factors]
    simp only [factors,if_false,refused]
    rfl
  · have refused : legible authentication = false := by simp [legible,factors]
    simp only [factors,if_false,refused]
    rfl

end

end OpenProof.HandoffTexts
