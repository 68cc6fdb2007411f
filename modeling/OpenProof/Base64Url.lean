import Mathlib.Data.List.DropRight
import OpenProof.BitStrings
import OpenProof.PasskeyProvider

namespace OpenProof.Base64Url
open Foundation BitStrings PasskeyProvider SenderProofs List

-- The decoder as it would be with an accumulator that never runs over.
structure Wide where
  accumulator : Nat
  pendingBits : Nat
  out : Text

def Wide.push (decoder : Wide) (symbol : UInt8) : Result Wide :=
  match base64UrlValue symbol with
  | none => fail .invalidArgument "Base64url input contains an invalid character."
  | some decoded =>
    let accumulator := decoder.accumulator*64 + decoded.toNat
    if 2 ≤ decoder.pendingBits then
      .ok ⟨accumulator,decoder.pendingBits-2,
        decoder.out ++ [UInt8.ofNat (accumulator / 2^(decoder.pendingBits-2))]⟩
    else .ok ⟨accumulator,decoder.pendingBits+6,decoder.out⟩

def unpadded (text : Text) : Text := text.rdropWhile (· == ch '=')

def wideFromBase64Url (text : Text) : Result Text :=
  if (unpadded text).length % 4 = 1 then fail .invalidArgument "Base64url input has an impossible length."
  else match (unpadded text).foldlM Wide.push ⟨0,0,[]⟩ with
    | .error e => .error e
    | .ok decoder =>
      if decoder.accumulator % 2^decoder.pendingBits ≠ 0 then
        fail .invalidArgument "Base64url input is not canonically encoded."
      else .ok decoder.out

def alphabet (digit : Nat) : UInt8 := base64UrlSymbol (UInt32.ofNat digit)

theorem alphabet_table : (∀ d < 64,base64UrlValue (alphabet d) = some (UInt32.ofNat d) ∧ (alphabet d == ch '=') = false) ∧
    ∀ n < 256,(base64UrlValue (UInt8.ofNat n)).all
      (fun decoded => decoded.toNat < 64 && alphabet decoded.toNat == UInt8.ofNat n) = true := by
  decide +kernel

theorem alphabet_value (small : d < 64) : base64UrlValue (alphabet d) = some (UInt32.ofNat d) :=
  (alphabet_table.1 d small).1

theorem alphabet_unpadded (small : d < 64) : (alphabet d == ch '=') = false := (alphabet_table.1 d small).2

theorem value_alphabet (known : base64UrlValue symbol = some decoded) :
    decoded.toNat < 64 ∧ alphabet decoded.toNat = symbol := by
  have fits := alphabet_table.2 symbol.toNat symbol.toNat_lt
  rw [UInt8.ofNat_toNat,known] at fits
  simpa using fits

theorem base64UrlSymbol_alphabet : base64UrlSymbol v = alphabet (v.toNat % 64) := by
  have low : v &&& 0x3F = (UInt32.ofNat (v.toNat % 64)) &&& 0x3F := by
    apply UInt32.toNat_inj.mp
    have mask : (63 : Nat) = 2^6 - 1 := rfl
    simp only [UInt32.toNat_and,UInt32.toNat_ofNat',UInt32.reduceToNat,mask,Nat.and_two_pow_sub_one_eq_mod]
    omega
  unfold alphabet base64UrlSymbol
  rw [low]

theorem appended_low (a m k d : Nat) (small : d < k) : (a*k + d) % (m*k) = a % m*k + d := by
  rcases Nat.eq_zero_or_pos m with zero | positive
  · simp [zero]
  have bound : (a % m + 1)*k ≤ m*k := Nat.mul_le_mul_right k (Nat.mod_lt a positive)
  rw [Nat.add_mul,Nat.one_mul] at bound
  calc (a*k + d) % (m*k) = ((m*(a / m) + a % m)*k + d) % (m*k) := by rw [Nat.div_add_mod]
    _ = (m*k*(a / m) + (a % m*k + d)) % (m*k) := by ring_nf
    _ = a % m*k + d := by rw [Nat.mul_add_mod,Nat.mod_eq_of_lt (by omega)]

theorem shifted (accumulator decoded : UInt32) (few : k < 32) (small : decoded.toNat < 2^k) :
    (accumulator <<< UInt32.ofNat k ||| decoded).toNat = (accumulator.toNat*2^k + decoded.toNat) % 4294967296 := by
  have whole : (4294967296 : Nat) = 2^(32 - k)*2^k := by
    rw [← pow_add,Nat.sub_add_cancel few.le]
    rfl
  have shift : k % 2^32 % 32 = k := by omega
  have moved : accumulator.toNat <<< k % 2^32 = (accumulator.toNat % 2^(32 - k)) <<< k := by
    rw [Nat.shiftLeft_eq,Nat.shiftLeft_eq,show (2 : Nat)^32 = 4294967296 from rfl,whole,Nat.mul_mod_mul_right]
  rw [UInt32.toNat_or,UInt32.toNat_shiftLeft,UInt32.toNat_ofNat',shift,moved,← Nat.shiftLeft_add_eq_or_of_lt small,
    Nat.shiftLeft_eq,whole,appended_low _ _ _ _ small]

theorem emitted (accumulator : UInt32) (p : Nat) (few : p < 8) :
    ((accumulator >>> p.toUInt32) &&& 0xFF).toUInt8 = UInt8.ofNat (accumulator.toNat / 2^p) := by
  apply UInt8.toNat_inj.mp
  have shift : p % 4294967296 % 32 = p := by omega
  have mask : (255 : Nat) = 2^8 - 1 := rfl
  simp only [UInt32.toNat_toUInt8,UInt32.toNat_and,UInt32.toNat_shiftRight,Nat.toUInt32_eq,UInt32.toNat_ofNat',
    UInt32.reduceToNat,UInt8.toNat_ofNat',Nat.shiftRight_eq_div_pow,shift,mask,Nat.and_two_pow_sub_one_eq_mod]
  norm_num

theorem leftover (accumulator : UInt32) (p : Nat) (few : p < 8) :
    (accumulator &&& ((1 <<< p.toUInt32) - 1)).toNat = accumulator.toNat % 2^p := by
  have mask : ∀ p < 8,((1 : UInt32) <<< p.toUInt32 - 1).toNat = 2^p - 1 := by decide
  rw [UInt32.toNat_and,mask p few,Nat.and_two_pow_sub_one_eq_mod]

theorem low_kept (n p k : Nat) (fits : p + k ≤ 32) : n % 4294967296 / 2^p % 2^k = n / 2^p % 2^k := by
  have whole : (4294967296 : Nat) = 2^p*2^(32 - p) := by
    rw [← pow_add,Nat.add_sub_cancel' (by omega)]
    rfl
  have within : 2^k ∣ 2^(32 - p) := pow_dvd_pow 2 (by omega)
  rw [whole,Nat.mod_mul_right_div_self,Nat.mod_mod_of_dvd _ within]

def Wide.narrow (wide : Wide) : Decoder := ⟨UInt32.ofNat wide.accumulator,wide.pendingBits,wide.out⟩

theorem Wide.push_few {wide next : Wide} (few : wide.pendingBits < 8) (pushed : wide.push symbol = .ok next) :
    next.pendingBits < 8 := by
  unfold Wide.push at pushed
  split at pushed
  · cases pushed
  · split at pushed <;> cases pushed <;> simp only <;> omega

theorem Wide.narrow_push (wide : Wide) (symbol : UInt8) (few : wide.pendingBits < 8) :
    wide.narrow.push symbol = (wide.push symbol).map Wide.narrow := by
  unfold Decoder.push Wide.push
  cases known : base64UrlValue symbol with
  | none => rfl
  | some decoded =>
    have accumulator : wide.narrow.accumulator <<< 6 ||| decoded = UInt32.ofNat (wide.accumulator*64 + decoded.toNat) := by
      apply UInt32.toNat_inj.mp
      rw [show (6 : UInt32) = UInt32.ofNat 6 from rfl,shifted _ _ (by decide) (value_alphabet known).1]
      simp only [Wide.narrow,UInt32.toNat_ofNat']
      omega
    simp only [accumulator]
    by_cases enough : 2 ≤ wide.pendingBits
    · have count : wide.pendingBits + 6 - 8 = wide.pendingBits - 2 := by omega
      have byte := emitted (UInt32.ofNat (wide.accumulator*64 + decoded.toNat)) (wide.pendingBits - 2) (by omega)
      have kept := low_kept (wide.accumulator*64 + decoded.toNat) (wide.pendingBits - 2) 8 (by omega)
      have same : UInt8.ofNat ((UInt32.ofNat (wide.accumulator*64 + decoded.toNat)).toNat / 2^(wide.pendingBits - 2)) =
          UInt8.ofNat ((wide.accumulator*64 + decoded.toNat) / 2^(wide.pendingBits - 2)) := by
        apply UInt8.toNat_inj.mp
        simpa [UInt8.toNat_ofNat',UInt32.toNat_ofNat'] using kept
      have reached : 8 ≤ wide.narrow.pendingBits + 6 := by
        simp only [Wide.narrow]
        omega
      rw [if_pos reached,if_pos enough]
      simp only [Wide.narrow,count,byte,same]
      rfl
    · have short : ¬8 ≤ wide.narrow.pendingBits + 6 := by
        simp only [Wide.narrow]
        omega
      rw [if_neg short,if_neg enough]
      rfl

theorem Wide.narrow_reads (symbols : Text) : ∀ (wide : Wide),wide.pendingBits < 8 →
    symbols.foldlM Decoder.push wide.narrow = (symbols.foldlM Wide.push wide).map Wide.narrow := by
  induction symbols with
  | nil => intro wide few; rfl
  | cons symbol rest ih =>
    intro wide few
    rw [foldlM_cons,foldlM_cons,Wide.narrow_push wide symbol few]
    cases pushed : wide.push symbol with
    | error e => rfl
    | ok next => exact ih next (Wide.push_few few pushed)

theorem Wide.reads_few (symbols : Text) : ∀ {wide last : Wide},wide.pendingBits < 8 →
    symbols.foldlM Wide.push wide = .ok last → last.pendingBits < 8 := by
  induction symbols with
  | nil =>
    intro wide last few read
    cases read
    exact few
  | cons symbol rest ih =>
    intro wide last few read
    rw [foldlM_cons] at read
    cases pushed : wide.push symbol with
    | error e =>
      rw [pushed] at read
      cases read
    | ok next =>
      rw [pushed] at read
      exact ih (Wide.push_few few pushed) read

theorem fromBase64Url_wide (text : Text) : fromBase64Url text = wideFromBase64Url text := by
  unfold fromBase64Url wideFromBase64Url
  have trimmed : (text.reverse.dropWhile (· == ch '=')).reverse = unpadded text := rfl
  have start : (⟨0,0,[]⟩ : Decoder) = Wide.narrow ⟨0,0,[]⟩ := rfl
  simp only [trimmed,start,Wide.narrow_reads (unpadded text) ⟨0,0,[]⟩ (by decide)]
  by_cases impossible : (unpadded text).length % 4 = 1
  · rw [if_pos impossible,if_pos impossible]
  rw [if_neg impossible,if_neg impossible]
  cases read : (unpadded text).foldlM Wide.push ⟨0,0,[]⟩ with
  | error e => rfl
  | ok last =>
    have few : last.pendingBits < 8 := Wide.reads_few _ (by decide) read
    have left : (UInt32.ofNat last.accumulator &&& ((1 <<< last.pendingBits.toUInt32) - 1)).toNat =
        last.accumulator % 2^last.pendingBits := by
      rw [leftover _ _ few,UInt32.toNat_ofNat']
      have kept := low_kept last.accumulator 0 last.pendingBits (by omega)
      simpa using kept
    have zero : UInt32.ofNat last.accumulator &&& ((1 <<< last.pendingBits.toUInt32) - 1) ≠ 0 ↔
        last.accumulator % 2^last.pendingBits ≠ 0 := by
      rw [← left]
      exact not_congr UInt32.toNat_inj.symm
    simp only [Except.map,Wide.narrow,zero]

def octets (bytes : Text) : List Nat := bytes.map UInt8.toNat

theorem octets_injective : Function.Injective octets :=
  map_injective_iff.mpr fun _ _ => UInt8.toNat_inj.mp

-- The decoder has read `digits`: the bytes it has put out and the pending low bits of its
-- accumulator spell the same bits.
structure Reads (wide : Wide) (digits : List Nat) : Prop where
  grouped : Regroups 6 8 digits (octets wide.out) (wide.accumulator % 2^wide.pendingBits) wide.pendingBits
  few : wide.pendingBits < 8

section
variable {wide last : Wide} {digits more : List Nat} {symbols text bytes : Text}

theorem Reads.push (reads : Reads wide digits) (small : d < 64) :
    ∃ next,wide.push (alphabet d) = .ok next ∧ Reads next (digits ++ [d]) := by
  have number : (UInt32.ofNat d).toNat = d := by
    rw [UInt32.toNat_ofNat']
    omega
  have low : wide.accumulator % 2^wide.pendingBits*2^6 + d = (wide.accumulator*64 + d) % 2^(wide.pendingBits + 6) := by
    rw [pow_add]
    exact (appended_low _ _ 64 _ small).symm
  have grouped := reads.grouped.read (show d < 2^6 from small)
  rw [low] at grouped
  have few := reads.few
  unfold Wide.push
  simp only [alphabet_value small,number]
  by_cases enough : 2 ≤ wide.pendingBits
  · obtain ⟨k,rest⟩ : ∃ k,wide.pendingBits = k + 2 := ⟨wide.pendingBits - 2,by omega⟩
    have split : k + 2 + 6 = k + 8 := rfl
    rw [if_pos enough]
    refine ⟨_,rfl,?_,by simp only; omega⟩
    rw [rest,split] at grouped
    have emitted := grouped.emit
    rw [pow_add,Nat.mod_mul_right_div_self,Nat.mod_mod_of_dvd _ (Dvd.intro _ rfl)] at emitted
    simpa [octets,rest,UInt8.toNat_ofNat'] using emitted
  · rw [if_neg enough]
    exact ⟨_,rfl,grouped,by simp only; omega⟩

theorem Reads.start : Reads ⟨0,0,[]⟩ [] := ⟨by simpa [octets] using Regroups.nil 6 8,by decide⟩

theorem Reads.all (more : List Nat) : ∀ {wide : Wide} {digits : List Nat},Reads wide digits → (∀ d ∈ more,d < 64) →
    ∃ last,(more.map alphabet).foldlM Wide.push wide = .ok last ∧ Reads last (digits ++ more) := by
  induction more with
  | nil =>
    intro wide digits reads small
    exact ⟨wide,rfl,by simpa using reads⟩
  | cons d rest ih =>
    intro wide digits reads small
    obtain ⟨next,pushed,after⟩ := reads.push (small d (mem_cons_self ..))
    obtain ⟨last,read,final⟩ := ih after fun e listed => small e (mem_cons_of_mem _ listed)
    refine ⟨last,?_,by simpa using final⟩
    rw [map_cons,foldlM_cons,pushed]
    exact read

theorem pushed_alphabet {next} (pushed : wide.push symbol = .ok next) : ∃ d,d < 64 ∧ symbol = alphabet d := by
  unfold Wide.push at pushed
  split at pushed
  · cases pushed
  · rename_i decoded known
    exact ⟨decoded.toNat,(value_alphabet known).1,(value_alphabet known).2.symm⟩

theorem read_alphabet : ∀ {wide last : Wide},symbols.foldlM Wide.push wide = .ok last →
    ∃ digits : List Nat,(∀ d ∈ digits,d < 64) ∧ symbols = digits.map alphabet := by
  induction symbols with
  | nil => exact fun _ => ⟨[],by simp,rfl⟩
  | cons symbol rest ih =>
    intro wide last read
    rw [foldlM_cons] at read
    cases pushed : wide.push symbol with
    | error e =>
      rw [pushed] at read
      cases read
    | ok next =>
      rw [pushed] at read
      obtain ⟨digits,small,spelled⟩ := ih read
      obtain ⟨d,fits,rfl⟩ := pushed_alphabet pushed
      exact ⟨d :: digits,by simpa [fits] using small,by simp [spelled]⟩

theorem fromBase64Url_iff : fromBase64Url text = .ok bytes ↔
    ∃ digits p,unpadded text = digits.map alphabet ∧ p < 6 ∧ Regroups 6 8 digits (octets bytes) 0 p := by
  rw [fromBase64Url_wide]
  unfold wideFromBase64Url
  constructor
  · intro decoded
    split at decoded
    · cases decoded
    rename_i possible
    split at decoded
    · cases decoded
    rename_i last read
    split at decoded
    · cases decoded
    rename_i zero
    cases decoded
    obtain ⟨digits,small,spelled⟩ := read_alphabet read
    rw [spelled] at read possible
    obtain ⟨found,same,reads⟩ := Reads.start.all digits small
    obtain rfl : found = last := by
      rw [same] at read
      exact Except.ok.inj read
    have grouped := reads.grouped
    rw [nil_append,Decidable.not_not.mp zero] at grouped
    refine ⟨digits,found.pendingBits,spelled,?_,grouped⟩
    have length := grouped.length
    have few := reads.few
    rw [length_map] at possible
    omega
  · rintro ⟨digits,p,spelled,few,grouped⟩
    obtain ⟨last,read,reads⟩ := Reads.start.all digits grouped.digitsFit
    rw [nil_append] at reads
    have length := grouped.length
    obtain ⟨same,left⟩ := reads.grouped.out_unique (by decide) grouped reads.few (by omega)
    have possible : ¬(digits.map alphabet).length % 4 = 1 := by
      rw [length_map]
      omega
    rw [spelled,if_neg possible,read]
    simp only [left,octets_injective same]
    rfl

end

section
variable (first second third : UInt8)

theorem group_three : Regroups 6 8 [first.toNat / 4,first.toNat % 4*16 + second.toNat / 16,second.toNat % 16*4 + third.toNat / 64,
    third.toNat % 64] [first.toNat,second.toNat,third.toNat] 0 0 := by
  have one := first.toNat_lt
  have two := second.toNat_lt
  have three := third.toNat_lt
  constructor <;> simp [value,Nat.ofDigits_cons] <;> omega

theorem group_two : Regroups 6 8 [first.toNat / 4,first.toNat % 4*16 + second.toNat / 16,second.toNat % 16*4]
    [first.toNat,second.toNat] 0 2 := by
  have one := first.toNat_lt
  have two := second.toNat_lt
  constructor <;> simp [value,Nat.ofDigits_cons] <;> omega

theorem group_one : Regroups 6 8 [first.toNat / 4,first.toNat % 4*16] [first.toNat] 0 4 := by
  have one := first.toNat_lt
  constructor <;> simp [value,Nat.ofDigits_cons] <;> omega

end

theorem shiftLeft_or (upper lower : UInt32) (k : Nat) (few : k < 32) (fits : upper.toNat*2^k < 4294967296)
    (small : lower.toNat < 2^k) : (upper <<< k.toUInt32 ||| lower).toNat = upper.toNat*2^k + lower.toNat := by
  have count : k % 4294967296 % 32 = k := by omega
  rw [UInt32.toNat_or,UInt32.toNat_shiftLeft,Nat.toUInt32_eq,UInt32.toNat_ofNat',count,
    Nat.mod_eq_of_lt (by rwa [Nat.shiftLeft_eq]),← Nat.shiftLeft_add_eq_or_of_lt small,Nat.shiftLeft_eq]

theorem triple_number (first second third : UInt8) :
    (first.toUInt32 <<< 16 ||| second.toUInt32 <<< 8 ||| third.toUInt32).toNat =
      first.toNat*65536 + second.toNat*256 + third.toNat := by
  have one := first.toNat_lt
  have two := second.toNat_lt
  have three := third.toNat_lt
  have lower : (second.toUInt32 <<< 8 ||| third.toUInt32).toNat = second.toNat*256 + third.toNat :=
    shiftLeft_or second.toUInt32 third.toUInt32 8 (by decide) (by simp only [UInt8.toNat_toUInt32]; omega) three
  have whole := shiftLeft_or first.toUInt32 (second.toUInt32 <<< 8 ||| third.toUInt32) 16 (by decide)
    (by simp only [UInt8.toNat_toUInt32]; omega) (by rw [lower]; omega)
  rw [UInt32.or_assoc]
  refine whole.trans ?_
  rw [lower]
  simp only [UInt8.toNat_toUInt32]
  omega

theorem pair_number (first second : UInt8) :
    (first.toUInt32 <<< 4 ||| second.toUInt32 >>> 4).toNat = first.toNat*16 + second.toNat / 16 := by
  have one := first.toNat_lt
  have two := second.toNat_lt
  have high : (second.toUInt32 >>> 4).toNat = second.toNat / 16 := by
    simp [UInt32.toNat_shiftRight,Nat.shiftRight_eq_div_pow]
  have whole := shiftLeft_or first.toUInt32 (second.toUInt32 >>> 4) 4 (by decide)
    (by simp only [UInt8.toNat_toUInt32]; omega) (by rw [high]; omega)
  refine whole.trans ?_
  rw [high]
  simp

theorem symbol_of (same : v.toNat % 64 = d) : base64UrlSymbol v = alphabet d := by
  rw [base64UrlSymbol_alphabet,same]

theorem toBase64Url_digits (bytes : Text) :
    ∃ digits p,toBase64Url bytes = digits.map alphabet ∧ p < 6 ∧ Regroups 6 8 digits (octets bytes) 0 p := by
  fun_induction toBase64Url bytes with
  | case1 first second third rest triple ih =>
    obtain ⟨digits,p,spelled,few,grouped⟩ := ih
    refine ⟨_,p,?_,few,(group_three first second third).append grouped⟩
    have number : triple.toNat = first.toNat*65536 + second.toNat*256 + third.toNat := triple_number first second third
    have one := first.toNat_lt
    have two := second.toNat_lt
    have three := third.toNat_lt
    have shifts : ∀ k : Nat,k < 32 → (triple >>> k.toUInt32).toNat = triple.toNat / 2^k := by
      intro k few
      have count : k % 4294967296 % 32 = k := by omega
      rw [UInt32.toNat_shiftRight,Nat.toUInt32_eq,UInt32.toNat_ofNat',count,Nat.shiftRight_eq_div_pow]
    have top : base64UrlSymbol (triple >>> 18) = alphabet (first.toNat / 4) :=
      symbol_of (by rw [show (18 : UInt32) = (18 : Nat).toUInt32 from rfl,shifts 18 (by decide)]; omega)
    have next : base64UrlSymbol (triple >>> 12) = alphabet (first.toNat % 4*16 + second.toNat / 16) :=
      symbol_of (by rw [show (12 : UInt32) = (12 : Nat).toUInt32 from rfl,shifts 12 (by decide)]; omega)
    have lower : base64UrlSymbol (triple >>> 6) = alphabet (second.toNat % 16*4 + third.toNat / 64) :=
      symbol_of (by rw [show (6 : UInt32) = (6 : Nat).toUInt32 from rfl,shifts 6 (by decide)]; omega)
    have bottom : base64UrlSymbol triple = alphabet (third.toNat % 64) := symbol_of (by omega)
    rw [top,next,lower,bottom,spelled]
    rfl
  | case2 first second =>
    refine ⟨_,2,?_,by decide,group_two first second⟩
    have one := first.toNat_lt
    have two := second.toNat_lt
    have top : base64UrlSymbol (first.toUInt32 >>> 2) = alphabet (first.toNat / 4) :=
      symbol_of (by simp [UInt32.toNat_shiftRight,Nat.shiftRight_eq_div_pow]; omega)
    have next : base64UrlSymbol (first.toUInt32 <<< 4 ||| second.toUInt32 >>> 4) =
        alphabet (first.toNat % 4*16 + second.toNat / 16) := symbol_of (by rw [pair_number]; omega)
    have bottom : base64UrlSymbol (second.toUInt32 <<< 2) = alphabet (second.toNat % 16*4) :=
      symbol_of (by simp [UInt32.toNat_shiftLeft,Nat.shiftLeft_eq]; omega)
    rw [top,next,bottom]
    rfl
  | case3 first =>
    refine ⟨_,4,?_,by decide,group_one first⟩
    have one := first.toNat_lt
    have top : base64UrlSymbol (first.toUInt32 >>> 2) = alphabet (first.toNat / 4) :=
      symbol_of (by simp [UInt32.toNat_shiftRight,Nat.shiftRight_eq_div_pow]; omega)
    have bottom : base64UrlSymbol (first.toUInt32 <<< 4) = alphabet (first.toNat % 4*16) :=
      symbol_of (by simp [UInt32.toNat_shiftLeft,Nat.shiftLeft_eq]; omega)
    rw [top,bottom]
    rfl
  | case4 => exact ⟨[],0,rfl,by decide,Regroups.nil 6 8⟩

theorem unpadded_spelled {digits : List Nat} (small : ∀ d ∈ digits,d < 64) :
    unpadded (digits.map alphabet) = digits.map alphabet := by
  refine rdropWhile_eq_self_iff.mpr fun some padded => ?_
  obtain ⟨d,listed,last⟩ := mem_map.mp (getLast_mem some)
  rw [← last,alphabet_unpadded (small d listed)] at padded
  cases padded

theorem decoded_toBase64Url (bytes : Text) : fromBase64Url (toBase64Url bytes) = .ok bytes := by
  obtain ⟨digits,p,spelled,few,grouped⟩ := toBase64Url_digits bytes
  exact fromBase64Url_iff.mpr ⟨digits,p,by rw [spelled,unpadded_spelled grouped.digitsFit],few,grouped⟩

theorem unpadded_canonical {text bytes : Text} (decoded : fromBase64Url text = .ok bytes) : unpadded text = toBase64Url bytes := by
  obtain ⟨digits,p,spelled,few,grouped⟩ := fromBase64Url_iff.mp decoded
  obtain ⟨others,q,encoded,fewer,also⟩ := toBase64Url_digits bytes
  rw [spelled,encoded,grouped.digits_unique (by decide) also few fewer]

-- Encoding and decoding undo each other up to padding, and a decoder whose accumulator is
-- not cut to 32 bits answers every text the same.
theorem encoding_inverted (bytes text : Text) : fromBase64Url (toBase64Url bytes) = .ok bytes ∧
      (∀ decoded,fromBase64Url text = .ok decoded → unpadded text = toBase64Url decoded) ∧
      fromBase64Url text = wideFromBase64Url text :=
  ⟨decoded_toBase64Url bytes,fun _ decoded => unpadded_canonical decoded,fromBase64Url_wide text⟩

theorem samples_decoded : fromBase64Url "Zg" = .ok "f" ∧ fromBase64Url "Zg==" = .ok "f" ∧
    fromBase64Url "Zm9vYg==" = .ok "foob" := by
  decide

theorem encoding_inverted_padded : unpadded "Zm9vYg==" = toBase64Url "foob" :=
  (encoding_inverted "foob" "Zm9vYg==").2.1 "foob" samples_decoded.2.2

theorem padding_respells : ¬∀ (one two first second : Text),one ≠ two →
    fromBase64Url one = .ok first → fromBase64Url two = .ok second → first ≠ second := by
  intro distinct
  obtain ⟨plain,padded,-⟩ := samples_decoded
  exact distinct "Zg" "Zg==" "f" "f" (by decide) plain padded rfl

theorem unpadded_idem : unpadded (unpadded text) = unpadded text := rdropWhile_idempotent _ _

theorem fromBase64Url_unpadded (text : Text) : fromBase64Url (unpadded text) = fromBase64Url text := by
  rw [fromBase64Url_wide,fromBase64Url_wide]
  unfold wideFromBase64Url
  rw [unpadded_idem]

theorem spelled_once {one two first second : Text} (decoded : fromBase64Url one = .ok first)
    (also : fromBase64Url two = .ok second) : first = second ↔ unpadded one = unpadded two := by
  constructor
  · rintro rfl
    rw [unpadded_canonical decoded,unpadded_canonical also]
  · intro same
    have again : fromBase64Url one = fromBase64Url two := by
      rw [← fromBase64Url_unpadded one,same,fromBase64Url_unpadded]
    rw [decoded,also] at again
    exact Except.ok.inj again

theorem spelled_once_padded : (Text.of "f" = Text.of "f" ↔ unpadded "Zg" = unpadded "Zg==") :=
  spelled_once samples_decoded.1 samples_decoded.2.1

end OpenProof.Base64Url
