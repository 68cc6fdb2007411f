import Mathlib.Algebra.Group.Nat.Defs
import OpenProof.HandoffTexts
import OpenProof.Web3Texts

namespace OpenProof.UnsignedNumerals
open Foundation HandoffTexts Http SenderProofs Web3Texts List

theorem fromCharsUnsigned_decimal (below : value < limit) : fromCharsUnsigned limit (decimal value) = some value := by
  have held : decide ((value : Int) < (limit : Int)) = true := by simpa using below
  rw [fromCharsUnsigned,decimal_nat,digitsValue_digits,Option.filter_some,if_pos held,Option.map_some,Int.toNat_natCast]

theorem digit_written (digit : isDigit byte = true) : byte.toNat-48 < 10 ∧ (byte.toNat-48).toUInt8+48 = byte := by
  simp only [isDigit,Bool.and_eq_true,decide_eq_true_eq,UInt8.le_iff_toNat_le] at digit
  have zero : (ch '0').toNat = 48 := rfl
  have nine : (ch '9').toNat = 57 := rfl
  refine ⟨by omega,?_⟩
  rw [← UInt8.toNat_inj,UInt8.toNat_add,Nat.toUInt8_eq,UInt8.toNat_ofNat']
  simp only [UInt8.reduceToNat]
  omega

theorem digits_shortest (text : Text) (nonempty : text ≠ []) (all : text.all isDigit = true) :
    ∃ (zeros value : Nat),text.foldl (fun (value : Int) digit => value*10+(digit.toNat-48 : Nat)) 0 = value ∧
      text = List.replicate zeros (ch '0') ++ digits value := by
  induction text using reverseRecOn with
  | nil => exact absurd rfl nonempty
  | append_singleton front last ih =>
    rw [all_append,Bool.and_eq_true,all_cons,Bool.and_eq_true] at all
    obtain ⟨earlier,digit,_⟩ := all
    obtain ⟨small,written⟩ := digit_written digit
    rw [foldl_append,foldl_cons,foldl_nil]
    by_cases first : front = []
    · subst first
      refine ⟨0,last.toNat-48,by simp,?_⟩
      rw [digits_step,if_pos small,written]
      rfl
    · obtain ⟨zeros,value,read,form⟩ := ih first earlier
      rw [read]
      by_cases none : value = 0
      · refine ⟨zeros+1,last.toNat-48,by simp [none],?_⟩
        have zero : digits 0 = [ch '0'] := by
          rw [digits_step]
          rfl
        rw [form,none,zero,digits_step,if_pos small,written,replicate_succ']
      · have upper : (value*10+(last.toNat-48))/10 = value := by omega
        have lower : (value*10+(last.toNat-48)) % 10 = last.toNat-48 := by omega
        refine ⟨zeros,value*10+(last.toNat-48),by simp,?_⟩
        rw [digits_step (value*10+(last.toNat-48)),if_neg (by omega),upper,lower,written,form,append_assoc]

theorem fromCharsUnsigned_some (read : fromCharsUnsigned limit text = some value) :
    value < limit ∧ ∃ zeros,text = List.replicate zeros (ch '0') ++ decimal value := by
  obtain ⟨found,kept,rfl⟩ := Option.map_eq_some_iff.mp read
  obtain ⟨read,below⟩ := Option.filter_eq_some_iff.mp kept
  unfold digitsValue at read
  split at read
  · cases read
  · rename_i digital
    simp only [Bool.or_eq_true,not_or,Bool.not_eq_true,isEmpty_eq_false_iff] at digital
    obtain ⟨zeros,value,total,form⟩ := digits_shortest text digital.1 (by simpa using digital.2)
    rw [total] at read
    obtain rfl := Option.some.inj read
    refine ⟨?_,zeros,?_⟩
    · simpa using below
    · rw [Int.toNat_natCast,decimal_nat]
      exact form

theorem digits_length (below : value < 10^(k+1)) : (digits value).length ≤ k+1 := by
  induction k generalizing value with
  | zero =>
    rw [digits_step,if_pos (by simpa using below)]
    simp
  | succ k ih =>
    rw [digits_step]
    split
    · simp
    · have smaller : value/10 < 10^(k+1) := by
        rw [Nat.div_lt_iff_lt_mul (by decide)]
        exact below
      have front := ih smaller
      simp only [length_append,length_singleton]
      omega

theorem decimal_plain (mark : isDigit byte = false) (value : Nat) : byte ∉ decimal value := by
  intro inside
  rw [decimal_nat] at inside
  have digit := all_eq_true.mp (digits_read value).2.1 byte inside
  rw [mark] at digit
  exact Bool.false_ne_true digit

end OpenProof.UnsignedNumerals
