import Mathlib.Data.Nat.Digits.Lemmas

namespace OpenProof.BitStrings
open List

-- The number that `digits` of `width` bits each spell, the first digit the highest.
def value (width : Nat) (digits : List Nat) : Nat := Nat.ofDigits (2^width) digits.reverse

theorem value_append : value w (digits ++ more) = value w digits * 2^(w*more.length) + value w more := by
  simp only [value,reverse_append,Nat.ofDigits_append,length_reverse,← pow_mul]
  ring

theorem value_single : value w [d] = d := by simp [value]

theorem value_unique (positive : 0 < w) (small : ∀ d ∈ digits,d < 2^w) (little : ∀ d ∈ more,d < 2^w)
    (length : digits.length = more.length) (same : value w digits = value w more) : digits = more := by
  have base : 1 < 2^w := Nat.one_lt_two_pow (by omega)
  have reversed : digits.reverse = more.reverse :=
    Nat.ofDigits_inj_of_len_eq base (by simpa using length) (by simpa using small) (by simpa using little) same
  exact reverse_injective reversed

-- `digits` of `w` bits and `out` of `v` bits begin with the same bits; the `pending` last
-- bits of the digits are not in `out`, and spell `left`.
structure Regroups (w v : Nat) (digits out : List Nat) (left pending : Nat) : Prop where
  digitsFit : ∀ d ∈ digits,d < 2^w
  outFit : ∀ d ∈ out,d < 2^v
  length : w*digits.length = v*out.length + pending
  same : value w digits = value v out * 2^pending + left
  small : left < 2^pending

theorem Regroups.nil (w v : Nat) : Regroups w v [] [] 0 0 :=
  ⟨by simp,by simp,by simp,by simp [value],by simp⟩

theorem Regroups.read (grouped : Regroups w v digits out n p) (fits : d < 2^w) :
    Regroups w v (digits ++ [d]) out (n*2^w + d) (p+w) where
  digitsFit := by
    intro other listed
    rcases mem_append.mp listed with earlier | last
    · exact grouped.digitsFit other earlier
    · simpa [mem_singleton.mp last] using fits
  outFit := grouped.outFit
  length := by
    have length := grouped.length
    simp only [length_append,length_singleton]
    ring_nf at length ⊢
    omega
  same := by
    rw [value_append,value_single,grouped.same,length_singleton,pow_add]
    ring
  small := by
    have bound : (n+1)*2^w ≤ 2^p*2^w := Nat.mul_le_mul_right _ grouped.small
    rw [pow_add]
    calc n*2^w + d < n*2^w + 2^w := by omega
      _ = (n+1)*2^w := by ring
      _ ≤ 2^p*2^w := bound

theorem Regroups.emit (grouped : Regroups w v digits out n (p+v)) :
    Regroups w v digits (out ++ [n / 2^p]) (n % 2^p) p where
  digitsFit := grouped.digitsFit
  outFit := by
    intro other listed
    rcases mem_append.mp listed with earlier | last
    · exact grouped.outFit other earlier
    · rw [mem_singleton.mp last]
      exact Nat.div_lt_of_lt_mul (by simpa [pow_add] using grouped.small)
  length := by
    have length := grouped.length
    simp only [length_append,length_singleton]
    ring_nf at length ⊢
    omega
  same := by
    rw [value_append,value_single,grouped.same,length_singleton,pow_add]
    have whole := Nat.div_add_mod n (2^p)
    calc value v out * (2^p*2^v) + n = value v out * (2^p*2^v) + (2^p*(n / 2^p) + n % 2^p) := by rw [whole]
      _ = (value v out * 2^(v*1) + n / 2^p) * 2^p + n % 2^p := by ring
  small := Nat.mod_lt _ (by positivity)

theorem Regroups.append (first : Regroups w v digits out 0 0) (second : Regroups w v more rest n p) :
    Regroups w v (digits ++ more) (out ++ rest) n p where
  digitsFit d listed := (mem_append.mp listed).elim (first.digitsFit d) (second.digitsFit d)
  outFit d listed := (mem_append.mp listed).elim (first.outFit d) (second.outFit d)
  length := by
    have one := first.length
    have two := second.length
    simp only [length_append]
    ring_nf at one two ⊢
    omega
  same := by
    rw [value_append,value_append,first.same,second.same,second.length,pow_add]
    ring
  small := second.small

theorem Regroups.out_unique (positive : 0 < v) (one : Regroups w v digits out n p) (two : Regroups w v digits rest m q)
    (less : p < v) (fewer : q < v) : out = rest ∧ n = m := by
  have lengths : v*out.length + p = v*rest.length + q := one.length.symm.trans two.length
  have pending : p = q := by
    have left : (v*out.length + p) % v = p := by rw [Nat.mul_add_mod,Nat.mod_eq_of_lt less]
    have right : (v*rest.length + q) % v = q := by rw [Nat.mul_add_mod,Nat.mod_eq_of_lt fewer]
    rw [← left,lengths,right]
  subst pending
  have length : out.length = rest.length := Nat.eq_of_mul_eq_mul_left positive (by omega)
  have values : value v out * 2^p + n = value v rest * 2^p + m := one.same.symm.trans two.same
  have left : n = m := by
    have reduced := congrArg (· % 2^p) values
    simpa [Nat.mul_add_mod_of_lt,one.small,two.small,Nat.mod_eq_of_lt,Nat.add_mod,Nat.mul_mod] using reduced
  subst left
  have same : value v out = value v rest :=
    Nat.eq_of_mul_eq_mul_right (Nat.two_pow_pos p) (Nat.add_right_cancel values)
  exact ⟨value_unique positive one.outFit two.outFit length same,rfl⟩

theorem Regroups.digits_unique (positive : 0 < w) (one : Regroups w v digits out 0 p) (two : Regroups w v more out 0 q)
    (less : p < w) (fewer : q < w) : digits = more := by
  have one' := one.length
  have two' := two.length
  have lengths : w*digits.length + q = w*more.length + p := by omega
  have pending : p = q := by
    have left : (w*digits.length + q) % w = q := by rw [Nat.mul_add_mod,Nat.mod_eq_of_lt fewer]
    have right : (w*more.length + p) % w = p := by rw [Nat.mul_add_mod,Nat.mod_eq_of_lt less]
    rw [← right,← lengths,left]
  subst pending
  have length : digits.length = more.length := Nat.eq_of_mul_eq_mul_left positive (by omega)
  exact value_unique positive one.digitsFit two.digitsFit length (one.same.trans two.same.symm)

-- The last bits are padded with zeros to one more digit.
theorem Regroups.pad (grouped : Regroups w v digits out n p) (less : p < v) :
    Regroups v w (out ++ [n*2^(v-p)]) digits 0 (v-p) where
  digitsFit := by
    intro other listed
    rcases mem_append.mp listed with earlier | last
    · exact grouped.outFit other earlier
    · have whole : 2^v = 2^p*2^(v-p) := by rw [← pow_add,Nat.add_sub_cancel' less.le]
      rw [mem_singleton.mp last,whole]
      exact Nat.mul_lt_mul_of_pos_right grouped.small (Nat.two_pow_pos _)
  outFit := grouped.digitsFit
  length := by
    have length := grouped.length
    simp only [length_append,length_singleton]
    ring_nf at length ⊢
    omega
  same := by
    have whole : 2^v = 2^p*2^(v-p) := by rw [← pow_add,Nat.add_sub_cancel' less.le]
    rw [value_append,value_single,grouped.same,length_singleton,Nat.mul_one,whole]
    ring
  small := Nat.two_pow_pos _

theorem Regroups.flip (grouped : Regroups w v digits out 0 0) : Regroups v w out digits 0 0 :=
  ⟨grouped.outFit,grouped.digitsFit,grouped.length.symm,by simpa using grouped.same.symm,grouped.small⟩

-- So many digits of a number, the highest first.
def spelled (v : Nat) : Nat → Nat → List Nat
  | 0,_ => []
  | count+1,number => spelled v count (number / 2^v) ++ [number % 2^v]

theorem spelled_value (fits : ∀ d ∈ out,d < 2^v) : spelled v out.length (value v out) = out := by
  induction out using reverseRecOn with
  | nil => rfl
  | append_singleton out d ih =>
    have small : d < 2^v := fits d (by simp)
    have upper : (value v out*2^v + d) / 2^v = value v out := by
      rw [Nat.mul_comm,Nat.mul_add_div (Nat.two_pow_pos v),Nat.div_eq_of_lt small,Nat.add_zero]
    rw [value_append,value_single,length_singleton,Nat.mul_one,length_append,length_singleton,spelled,
      upper,ih fun e listed => fits e (mem_append_left _ listed),Nat.mul_comm,Nat.mul_add_mod,Nat.mod_eq_of_lt small]

-- The whole digits of `v` bits that digits of `w` bits spell; the bits left over are dropped.
def regroup (w v : Nat) (digits : List Nat) : List Nat :=
  spelled v (w*digits.length / v) (value w digits / 2^(w*digits.length % v))

theorem Regroups.regrouped (grouped : Regroups w v digits out 0 p) (less : p < v) : regroup w v digits = out := by
  have count : (v*out.length + p) / v = out.length := by
    rw [Nat.mul_add_div (by omega),Nat.div_eq_of_lt less,Nat.add_zero]
  have over_ : (v*out.length + p) % v = p := by rw [Nat.mul_add_mod,Nat.mod_eq_of_lt less]
  rw [regroup,grouped.length,grouped.same,count,over_,Nat.add_zero,Nat.mul_div_cancel _ (Nat.two_pow_pos p)]
  exact spelled_value grouped.outFit

end OpenProof.BitStrings
