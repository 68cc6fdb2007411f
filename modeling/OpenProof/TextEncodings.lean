import OpenProof.Base64Url
import OpenProof.TotpWorld
import OpenProof.TrustedContexts

namespace OpenProof.TextEncodings
open Foundation BitStrings AuthenticationHandoffs Base64Url GatewayWorld Http IdentityProfiles TotpWorld
open TrustedContexts

-- The 32 symbols of RFC 4648, for digits of five bits.
def base32Alphabet (digit : Nat) : UInt8 := ((Text.of "ABCDEFGHIJKLMNOPQRSTUVWXYZ234567")[digit]?).getD 0

-- The digits spell the bits of the bytes and fewer than five zeros behind them; nothing else is written.
def Rfc4648Base32 (bytes text : Text) : Prop :=
  ∃ digits p,text = digits.map base32Alphabet ∧ p < 5 ∧ Regroups 5 8 digits (octets bytes) 0 p

def base32Value (symbol : UInt8) : Option Nat := (List.range 32).find? fun digit => base32Alphabet digit == symbol

def fromBase32 (text : Text) : Option Text :=
  (text.mapM base32Value).map fun digits => (regroup 5 8 digits).map UInt8.ofNat

theorem small_tables : (∀ n < 256,(hexValue (UInt8.ofNat n)).all fun v =>
      toLower [UInt8.ofNat n] == [hexDigitsLower.getD v 0] && decide (v < 16)) ∧
    (∀ d < 32,base32Value (base32Alphabet d) = some d) ∧ ∀ d < 32,base32Symbol (UInt32.ofNat d) = base32Alphabet d := by
  decide +kernel

theorem hexValue_lower (read : hexValue symbol = some v) : toLower [symbol] = [hexDigitsLower.getD v 0] ∧ v < 16 := by
  have fits := small_tables.1 symbol.toNat symbol.toNat_lt
  rw [UInt8.ofNat_toNat,read] at fits
  simpa using fits

theorem toHex_parsed : ∀ text bytes : Text,parseHex text = some bytes → toHex bytes = toLower text := by
  intro text
  induction text using AuthenticationHandoffs.parseHex.induct with
  | case1 high low rest upper lower one two ih =>
    intro bytes read
    rw [parseHex,one,two] at read
    obtain ⟨later,parsed,rfl⟩ := Option.map_eq_some_iff.mp read
    obtain ⟨top,small⟩ := hexValue_lower one
    obtain ⟨bottom,little⟩ := hexValue_lower two
    have number : ((upper*16+lower).toUInt8).toNat = upper*16+lower := by
      rw [Nat.toUInt8_eq,UInt8.toNat_ofNat']
      omega
    have halves : (upper*16+lower) / 16 = upper ∧ (upper*16+lower) % 16 = lower := by omega
    have split : toHex ((upper*16+lower).toUInt8 :: later) = [hexDigitsLower.getD (((upper*16+lower).toUInt8).toNat / 16) 0] ++
        ([hexDigitsLower.getD (((upper*16+lower).toUInt8).toNat % 16) 0] ++ toHex later) := rfl
    rw [split,number,halves.1,halves.2,← top,← bottom,ih later parsed]
    rfl
  | case2 high low rest unread =>
    intro bytes read
    rw [parseHex] at read
    split at read
    · rename_i upper lower one two
      exact (unread upper lower one two).elim
    · cases read
  | case3 =>
    intro bytes read
    cases read
  | case4 =>
    intro bytes read
    cases read
    rfl

theorem base32Symbol_low : base32Symbol v = base32Alphabet (v.toNat % 32) := by
  have low : v &&& 0x1F = UInt32.ofNat (v.toNat % 32) &&& 0x1F := by
    apply UInt32.toNat_inj.mp
    have mask : (31 : Nat) = 2^5 - 1 := rfl
    simp only [UInt32.toNat_and,UInt32.toNat_ofNat',UInt32.reduceToNat,mask,Nat.and_two_pow_sub_one_eq_mod]
    omega
  rw [← small_tables.2.2 _ (Nat.mod_lt v.toNat (by decide)),base32Symbol,base32Symbol,low]

theorem drained (accumulator : UInt32) (bits : Nat) : ∀ digits out : List Nat,bits ≤ 12 →
    Regroups 8 5 digits out (accumulator.toNat % 2^bits) bits →
    ∃ more,(base32Drain accumulator bits).1 = more.map base32Alphabet ∧ (base32Drain accumulator bits).2 < 5 ∧
      Regroups 8 5 digits (out ++ more) (accumulator.toNat % 2^(base32Drain accumulator bits).2) (base32Drain accumulator bits).2 := by
  induction bits using TotpWorld.base32Drain.induct accumulator with
  | case1 bits written left drawn ih =>
    intro digits out few grouped
    have next := grouped.emit
    rw [Nat.mod_mod_of_dvd _ (pow_dvd_pow 2 (Nat.le_add_right bits 5))] at next
    obtain ⟨more,spelled,short,after⟩ := ih digits _ (by omega) next
    have digit : accumulator.toNat % 2^(bits+5) / 2^bits = accumulator.toNat / 2^bits % 32 := by
      rw [pow_add,Nat.mod_mul_right_div_self]
      rfl
    have shift : bits % 4294967296 % 32 = bits := by omega
    have symbol : base32Symbol (accumulator >>> UInt32.ofNat bits) =
        base32Alphabet (accumulator.toNat % 2^(bits+5) / 2^bits) := by
      rw [base32Symbol_low,UInt32.toNat_shiftRight,UInt32.toNat_ofNat',shift,Nat.shiftRight_eq_div_pow,digit]
    rw [base32Drain]
    exact ⟨_ :: more,by rw [List.map_cons,← symbol,← spelled],short,by simpa using after⟩
  | case2 bits short =>
    intro digits out few grouped
    have less : bits < 5 := Nat.lt_of_not_le fun enough => short (bits-5) (by omega)
    rw [base32Drain]
    · exact ⟨[],rfl,less,by simpa using grouped⟩
    · exact short

theorem base32From_digits (bytes : Text) : ∀ (accumulator : UInt32) (bits : Nat) (digits out : List Nat),bits < 5 →
    Regroups 8 5 digits out (accumulator.toNat % 2^bits) bits →
    ∃ more p,base32From accumulator bits bytes = more.map base32Alphabet ∧ p < 5 ∧
      Regroups 5 8 (out ++ more) (digits ++ octets bytes) 0 p := by
  induction bytes with
  | nil =>
    intro accumulator bits digits out few grouped
    rw [base32From]
    by_cases pending : 0 < bits
    · rw [if_pos pending]
      have shift : (5-bits) % 4294967296 % 32 = 5-bits := by omega
      have whole : (32 : Nat) = 2^bits*2^(5-bits) := by
        rw [← pow_add,Nat.add_sub_cancel' few.le]
        rfl
      have last : accumulator.toNat <<< (5-bits) % 4294967296 % 32 = accumulator.toNat % 2^bits*2^(5-bits) := by
        rw [Nat.shiftLeft_eq,Nat.mod_mod_of_dvd _ (by decide : (32 : Nat) ∣ 4294967296),whole,Nat.mul_mod_mul_right]
      refine ⟨[_],5-bits,?_,by omega,by simpa [octets] using grouped.pad few⟩
      rw [base32Symbol_low,UInt32.toNat_shiftLeft,UInt32.toNat_ofNat',shift,last]
      rfl
    · obtain rfl : bits = 0 := by omega
      rw [if_neg pending]
      rw [pow_zero,Nat.mod_one] at grouped
      exact ⟨[],0,rfl,by decide,by simpa [octets] using grouped.flip⟩
  | cons byte rest ih =>
    intro accumulator bits digits out few grouped
    have small := byte.toNat_lt
    have gathered : (accumulator <<< 8 ||| byte.toUInt32).toNat % 2^(bits+8) =
        accumulator.toNat % 2^bits*2^8 + byte.toNat := by
      have within : 2^(bits+8) ∣ 4294967296 := pow_dvd_pow 2 (show bits+8 ≤ 32 by omega)
      rw [show (8 : UInt32) = UInt32.ofNat 8 from rfl,shifted _ _ (by decide) (by simpa using small),
        Nat.mod_mod_of_dvd _ within,pow_add,appended_low _ _ _ _ (by simpa using small),UInt8.toNat_toUInt32]
    have read := grouped.read (show byte.toNat < 2^8 from small)
    rw [← gathered] at read
    obtain ⟨more,spelled,short,after⟩ := drained _ (bits+8) _ _ (by omega) read
    obtain ⟨last,p,written,less,final⟩ := ih _ _ _ _ short after
    rw [base32From]
    refine ⟨more ++ last,p,?_,less,by simpa [octets] using final⟩
    rw [List.map_append,← spelled,← written]

theorem enrollment_encoded (secret : TotpSecret) : Rfc4648Base32 secret.bytes secret.enrollmentBase32 := by
  obtain ⟨digits,p,written,few,grouped⟩ := base32From_digits secret.bytes 0 0 [] [] (by decide) (Regroups.nil 8 5)
  exact ⟨digits,p,written,few,grouped⟩

theorem fromBase32_encoded (encoded : Rfc4648Base32 bytes text) : fromBase32 text = some bytes := by
  obtain ⟨digits,p,rfl,few,grouped⟩ := encoded
  have read : (digits.map base32Alphabet).mapM base32Value = some digits := by
    rw [List.mapM_map]
    have each : ∀ d ∈ digits,(base32Value ∘ base32Alphabet) d = some d := fun d listed =>
      small_tables.2.1 d (grouped.digitsFit d listed)
    clear grouped
    induction digits with
    | nil => rfl
    | cons d rest ih =>
      rw [List.mapM_cons,each d List.mem_cons_self,ih fun e listed => each e (List.mem_cons_of_mem _ listed)]
      rfl
  have back : (octets bytes).map UInt8.ofNat = bytes := by
    simp [octets,Function.comp_def]
  rw [fromBase32,read,Option.map_some,grouped.regrouped (by omega),back]

-- Hex texts and bytes determine each other up to case, and so do secrets and their base32 texts.
theorem encodings_exact : (∀ bytes,fromHex (toHex bytes) = .ok bytes) ∧
    (∀ text bytes,fromHex text = .ok bytes → toHex bytes = toLower text) ∧
    ∀ secret : TotpSecret,(∀ text,Rfc4648Base32 secret.bytes text ↔ text = secret.enrollmentBase32) ∧
      fromBase32 secret.enrollmentBase32 = some secret.bytes := by
  refine ⟨fromHex_toHex,?_,fun secret => ⟨fun text => ⟨?_,?_⟩,fromBase32_encoded (enrollment_encoded secret)⟩⟩
  · intro text bytes read
    unfold fromHex at read
    split at read
    · cases read
    · split at read
      · cases read
      · rename_i parsed
        cases read
        exact toHex_parsed text _ parsed
  · rintro ⟨digits,p,rfl,few,grouped⟩
    obtain ⟨others,q,written,fewer,also⟩ := enrollment_encoded secret
    rw [written,grouped.digits_unique (by decide) also few fewer]
  · rintro rfl
    exact enrollment_encoded secret

end OpenProof.TextEncodings
