import Mathlib.Data.List.Induction
import Mathlib.Tactic.Ring
import OpenProof.CivilDates

namespace OpenProof.DateTimes
open CivilDates List

abbrev Bytes := List UInt8

section Numerals

def IsDigit (symbol : UInt8) : Prop := 48 ≤ symbol.toNat ∧ symbol.toNat ≤ 57

def numeral : Nat → Nat → Bytes
  | 0,_ => []
  | width+1,value => numeral width (value/10) ++ [(value % 10).toUInt8+48]

def numberOf (digits : Bytes) : Nat := digits.foldl (fun value digit => value*10+(digit.toNat-48)) 0

@[simp] theorem numeral_length (width value : Nat) : (numeral width value).length = width := by
  induction width generalizing value with
  | zero => rfl
  | succ width ih => simp [numeral,ih]

theorem digit_toNat : ((value % 10).toUInt8+48).toNat = value % 10+48 := by
  rw [UInt8.toNat_add,Nat.toUInt8_eq,UInt8.toNat_ofNat']
  simp only [UInt8.reduceToNat]
  omega

theorem numeral_digits (width value : Nat) : ∀ symbol ∈ numeral width value,IsDigit symbol := by
  induction width generalizing value with
  | zero => simp [numeral]
  | succ width ih =>
    intro symbol inside
    rcases mem_append.mp inside with front | last
    · exact ih _ symbol front
    · rw [mem_singleton.mp last,IsDigit,digit_toNat]
      omega

@[simp] theorem numberOf_snoc (front : Bytes) (digit : UInt8) :
    numberOf (front ++ [digit]) = numberOf front*10+(digit.toNat-48) := by
  simp [numberOf]

theorem numberOf_append : numberOf (front ++ back) = numberOf front*10^back.length+numberOf back := by
  induction back using reverseRecOn with
  | nil => simp [numberOf]
  | append_singleton back digit ih =>
    rw [← append_assoc,numberOf_snoc,ih,numberOf_snoc,length_append,length_singleton]
    ring

theorem numberOf_lt (all : ∀ symbol ∈ digits,IsDigit symbol) : numberOf digits < 10^digits.length := by
  induction digits using reverseRecOn with
  | nil => simp [numberOf]
  | append_singleton front digit ih =>
    have earlier := ih fun symbol inside => all symbol (mem_append_left _ inside)
    have last := all digit (mem_append_right _ (mem_singleton_self digit))
    rw [IsDigit] at last
    rw [numberOf_snoc,length_append,length_singleton,Nat.pow_succ]
    omega

theorem numberOf_numeral (small : value < 10^width) : numberOf (numeral width value) = value := by
  induction width generalizing value with
  | zero => simp_all [numeral,numberOf]
  | succ width ih =>
    have front : value/10 < 10^width := by
      rw [Nat.pow_succ] at small
      omega
    rw [numeral,numberOf_snoc,ih front,digit_toNat]
    omega

theorem numeral_numberOf (all : ∀ symbol ∈ digits,IsDigit symbol) :
    numeral digits.length (numberOf digits) = digits := by
  induction digits using reverseRecOn with
  | nil => rfl
  | append_singleton front digit ih =>
    have earlier := ih fun symbol inside => all symbol (mem_append_left _ inside)
    have last := all digit (mem_append_right _ (mem_singleton_self digit))
    rw [IsDigit] at last
    have whole : (numberOf front*10+(digit.toNat-48))/10 = numberOf front := by omega
    have rest : ((numberOf front*10+(digit.toNat-48)) % 10).toUInt8+48 = digit := by
      rw [← UInt8.toNat_inj,digit_toNat]
      omega
    rw [length_append,length_singleton,numeral,numberOf_snoc,whole,earlier,rest]

end Numerals

section Fractions

def thousandths (fraction : Bytes) : Nat := numberOf fraction*1000/10^fraction.length

theorem thousandths_long (three : front.length = 3) (all : ∀ symbol ∈ back,IsDigit symbol) :
    thousandths (front ++ back) = numberOf front := by
  have small := numberOf_lt all
  have positive : 0 < 10^back.length := Nat.pow_pos (by decide)
  have scale : 10^3 = 1000 := by decide
  rw [thousandths,length_append,three,Nat.add_comm,Nat.pow_add,scale,Nat.mul_div_mul_right _ _ (by decide),
    numberOf_append,Nat.mul_comm,Nat.mul_add_div positive,Nat.div_eq_of_lt small,Nat.add_zero]

theorem thousandths_short (few : fraction.length ≤ 3) :
    thousandths fraction = numberOf fraction*10^(3-fraction.length) := by
  have split : 1000 = 10^(3-fraction.length)*10^fraction.length := by
    rw [← Nat.pow_add,Nat.sub_add_cancel few]
  rw [thousandths,split,← Nat.mul_assoc,Nat.mul_div_cancel _ (Nat.pow_pos (by decide))]

end Fractions

section Forms

-- A UTC date and time with a four-digit year; second 60 is a leap second.
structure DateTime where
  date : Date
  hour : Nat
  minute : Nat
  second : Nat
  fraction : Bytes
  dated : date.ok = true
  fourDigits : 0 ≤ date.year ∧ date.year < 10000
  timed : hour ≤ 23 ∧ minute ≤ 59 ∧ second ≤ 60
  digital : ∀ symbol ∈ fraction,IsDigit symbol

def fractionText (fraction : Bytes) : Bytes := if fraction = [] then [] else '.'.toUInt8 :: fraction

def DateTime.text (time : DateTime) : Bytes :=
  numeral 4 time.date.year.toNat ++ '-'.toUInt8 :: (numeral 2 time.date.month ++ '-'.toUInt8 :: (numeral 2 time.date.day ++
    'T'.toUInt8 :: (numeral 2 time.hour ++ ':'.toUInt8 :: (numeral 2 time.minute ++ ':'.toUInt8 :: (numeral 2 time.second ++
      fractionText time.fraction ++ ['Z'.toUInt8])))))

def DateTime.instant (time : DateTime) : Int :=
  dayNumber time.date*86400000+time.hour*3600000+time.minute*60000+time.second*1000+thousandths time.fraction

end Forms

end OpenProof.DateTimes
