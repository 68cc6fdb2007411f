import Mathlib.Data.List.Induction
import Mathlib.Tactic.IntervalCases
import Mathlib.Tactic.Ring

namespace OpenProof.CborGrammar

section BigEndian

def valueOf (bytes : List UInt8) : Nat := bytes.foldl (fun value byte => value*256+byte.toNat) 0

-- The last `count` base-256 digits of a number, the most significant first.
def bigEndian : (count : Nat) → Nat → List UInt8
  | 0,_ => []
  | count+1,value => bigEndian count (value/256) ++ [UInt8.ofNat value]

@[simp] theorem length_bigEndian (count value : Nat) : (bigEndian count value).length = count := by
  induction count generalizing value with
  | zero => rfl
  | succ count ih => simp [bigEndian,ih]

theorem valueOf_append {last : UInt8} : valueOf (bytes ++ [last]) = valueOf bytes*256 + last.toNat := by
  simp [valueOf,List.foldl_append]

theorem valueOf_bigEndian (count value : Nat) : valueOf (bigEndian count value) = value % 256^count := by
  induction count generalizing value with
  | zero => simp [bigEndian,valueOf,Nat.mod_one]
  | succ count ih =>
    have carried : value % (256*256^count) = value % 256 + 256*(value/256 % 256^count) := Nat.mod_mul
    rw [bigEndian,valueOf_append,ih,pow_succ',carried,UInt8.toNat_ofNat']
    omega

theorem bigEndian_valueOf (bytes : List UInt8) : bigEndian bytes.length (valueOf bytes) = bytes := by
  induction bytes using List.reverseRecOn with
  | nil => rfl
  | append_singleton bytes last ih =>
    have small := last.toNat_lt
    have upper : (valueOf bytes*256 + last.toNat) / 256 = valueOf bytes := by omega
    have lower : UInt8.ofNat (valueOf bytes*256 + last.toNat) = last := by
      rw [← UInt8.toNat_inj,UInt8.toNat_ofNat']
      omega
    rw [List.length_append,List.length_singleton,bigEndian,valueOf_append,upper,lower,ih]

theorem valueOf_lt (bytes : List UInt8) : valueOf bytes < 256^bytes.length := by
  have round := valueOf_bigEndian bytes.length (valueOf bytes)
  rw [bigEndian_valueOf] at round
  rw [round]
  exact Nat.mod_lt _ (by positivity)

end BigEndian

section Heads

inductive MajorType where
  | unsigned | negative | bytes | text | array | map | tag | simple

def MajorType.number : MajorType → Nat
  | .unsigned => 0
  | .negative => 1
  | .bytes => 2
  | .text => 3
  | .array => 4
  | .map => 5
  | .tag => 6
  | .simple => 7

def MajorType.ofNumber : Nat → MajorType
  | 0 => .unsigned
  | 1 => .negative
  | 2 => .bytes
  | 3 => .text
  | 4 => .array
  | 5 => .map
  | 6 => .tag
  | _ => .simple

theorem MajorType.number_lt (major : MajorType) : major.number < 8 := by
  cases major <;> decide

theorem MajorType.number_ofNumber {n : Nat} (small : n < 8) : (ofNumber n).number = n := by
  interval_cases n <;> rfl

def width (argument : Nat) : Nat :=
  if argument < 24 then 0
  else if argument ≤ 0xFF then 1
  else if argument ≤ 0xFFFF then 2
  else if argument ≤ 0xFFFFFFFF then 4
  else 8

def Holds (count argument : Nat) : Prop :=
  count = 0 ∧ argument < 24 ∨ (count = 1 ∨ count = 2 ∨ count = 4 ∨ count = 8) ∧ argument < 256^count

theorem width_holds {argument : Nat} (fits : argument < UInt64.size) : Holds (width argument) argument := by
  have bound : argument < 18446744073709551616 := fits
  unfold Holds width
  split_ifs <;> omega

theorem width_least {count argument : Nat} (held : Holds count argument) : width argument ≤ count := by
  unfold width
  rcases held with ⟨rfl,small⟩ | ⟨rfl | rfl | rfl | rfl,fits⟩ <;> split_ifs <;> omega

def additional (argument : Nat) : Nat :=
  if argument < 24 then argument
  else if argument ≤ 0xFF then 24
  else if argument ≤ 0xFFFF then 25
  else if argument ≤ 0xFFFFFFFF then 26
  else 27

def initial (major : MajorType) (additional : Nat) : UInt8 := UInt8.ofNat (major.number*32 + additional)

def encodeHead (major : MajorType) (argument : Nat) : List UInt8 :=
  initial major (additional argument) :: bigEndian (width argument) argument

theorem toNat_initial (small : n < 32) : (initial major n).toNat = major.number*32 + n := by
  have bound := major.number_lt
  rw [initial,UInt8.toNat_ofNat']
  omega

theorem initial_major (small : n < 32) : initial major n >>> 5 = UInt8.ofNat major.number := by
  have bound := major.number_lt
  rw [← UInt8.toNat_inj,UInt8.toNat_shiftRight,toNat_initial small,UInt8.toNat_ofNat']
  simp only [UInt8.reduceToNat,Nat.reduceMod,Nat.shiftRight_eq_div_pow,Nat.reducePow]
  omega

theorem initial_additional (small : n < 32) : initial major n &&& 0x1F = UInt8.ofNat n := by
  have mask : (0x1F : UInt8).toNat = 2^5 - 1 := rfl
  rw [← UInt8.toNat_inj,UInt8.toNat_and,toNat_initial small,mask,Nat.and_two_pow_sub_one_eq_mod,UInt8.toNat_ofNat']
  omega

theorem initial_parts (byte : UInt8) :
    byte = initial (.ofNumber (byte >>> 5).toNat) (byte &&& 0x1F).toNat ∧ (byte &&& 0x1F).toNat < 32 := by
  have mask : (0x1F : UInt8).toNat = 2^5 - 1 := rfl
  have low : (byte &&& 0x1F).toNat = byte.toNat % 32 := by
    rw [UInt8.toNat_and,mask,Nat.and_two_pow_sub_one_eq_mod]
  have high : (byte >>> 5).toNat = byte.toNat / 32 := by
    rw [UInt8.toNat_shiftRight]
    simp [Nat.shiftRight_eq_div_pow]
  have bound := byte.toNat_lt
  have small : (byte &&& 0x1F).toNat < 32 := by omega
  refine ⟨?_,small⟩
  rw [← UInt8.toNat_inj,toNat_initial small,MajorType.number_ofNumber (by omega),high,low]
  omega

theorem additional_lt (argument : Nat) : additional argument < 31 := by
  unfold additional
  split_ifs <;> omega

end Heads

section Items

-- A text holds any bytes: which of them are characters is no matter of the item's form.
inductive DataItem where
  | unsigned (value : UInt64)
  | negative (value : UInt64)
  | bytes (content : List UInt8)
  | text (content : List UInt8)
  | array (items : List DataItem)
  | map (entries : List (DataItem × DataItem))
  | tag (number : UInt64) (item : DataItem)
  -- A simple value or the bits of a float: the head is the item.
  | simple (value : UInt64)

mutual
def encode : DataItem → List UInt8
  | .unsigned value => encodeHead .unsigned value.toNat
  | .negative value => encodeHead .negative value.toNat
  | .bytes content => encodeHead .bytes content.length ++ content
  | .text content => encodeHead .text content.length ++ content
  | .array items => encodeHead .array items.length ++ encodeItems items
  | .map entries => encodeHead .map entries.length ++ encodeEntries entries
  | .tag number item => encodeHead .tag number.toNat ++ encode item
  | .simple value => encodeHead .simple value.toNat

def encodeItems : List DataItem → List UInt8
  | [] => []
  | item :: items => encode item ++ encodeItems items

def encodeEntries : List (DataItem × DataItem) → List UInt8
  | [] => []
  | (key,item) :: entries => encode key ++ encode item ++ encodeEntries entries
end

theorem encodeItems_eq (items : List DataItem) : encodeItems items = items.flatMap encode := by
  induction items with
  | nil => simp [encodeItems]
  | cons item items ih => simp [encodeItems,ih]

theorem encodeEntries_eq (entries : List (DataItem × DataItem)) :
    encodeEntries entries = entries.flatMap (fun entry => encode entry.1 ++ encode entry.2) := by
  induction entries with
  | nil => simp [encodeEntries]
  | cons entry entries ih => simp [encodeEntries,ih]

-- Nested `levels` deep at most, the item itself counted, with `limit` items or entries at
-- most in an array or a map, and strings of a length that an argument can say.
def Within (limit : Nat) : (levels : Nat) → DataItem → Prop
  | 0,_ => False
  | levels+1,item =>
    match item with
    | .unsigned _ => True
    | .negative _ => True
    | .bytes content => content.length < UInt64.size
    | .text content => content.length < UInt64.size
    | .array items => items.length ≤ limit ∧ ∀ item ∈ items,Within limit levels item
    | .map entries => entries.length ≤ limit ∧ ∀ entry ∈ entries,Within limit levels entry.1 ∧ Within limit levels entry.2
    | .tag _ item => Within limit levels item
    | .simple _ => True

end Items

end OpenProof.CborGrammar
