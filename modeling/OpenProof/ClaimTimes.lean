import OpenProof.SenderProofs

namespace OpenProof.ClaimTimes
open Foundation

section Words

def Fits (n : Int) : Prop := -9223372036854775808 ≤ n ∧ n ≤ 9223372036854775807

theorem toInt_fits (word : Int64) : Fits word.toInt := by
  have low := word.le_toInt
  have high := word.toInt_lt
  unfold Fits
  omega

theorem wrapped (n : Int) : ∃ turns : Int,n.bmod 18446744073709551616 = n + turns*18446744073709551616 ∧
    Fits (n + turns*18446744073709551616) := by
  have same := Int.bmod_add_bdiv n 18446744073709551616
  have low := Int.le_bmod (x:=n) (m:=18446744073709551616) (by decide)
  have high := Int.bmod_lt (x:=n) (m:=18446744073709551616) (by decide)
  refine ⟨-n.bdiv 18446744073709551616,by omega,?_⟩
  unfold Fits
  omega

variable {a b : Int64}

theorem toInt_sum (a b : Int64) : ∃ turns : Int,(a+b).toInt = a.toInt+b.toInt + turns*18446744073709551616 := by
  obtain ⟨turns,same,_⟩ := wrapped (a.toInt+b.toInt)
  exact ⟨turns,by rw [Int64.toInt_add,← same]⟩

theorem toInt_difference (a b : Int64) : ∃ turns : Int,(a-b).toInt = a.toInt-b.toInt + turns*18446744073709551616 := by
  obtain ⟨turns,same,_⟩ := wrapped (a.toInt-b.toInt)
  exact ⟨turns,by rw [Int64.toInt_sub,← same]⟩

end Words

section Checks

-- The tests of `DpopService::consume`, its sums in 64 bits as the claims and the clock are.
def proofTimely (proofLifetime issuedAt now : Int64) : Bool :=
  !(proofLifetime ≤ 0 || proofLifetime > 600000 || issuedAt > now+60000 || issuedAt+proofLifetime < now)

def objectTimely (issuedAt expiresAt now : Int64) : Bool :=
  !(expiresAt ≤ now || issuedAt > now+60000 || issuedAt < now-600000 || expiresAt > issuedAt+600000)

def milliseconds (seconds : Int64) : Int64 := seconds*1000

def dpopAdmits (proofLifetime iat now : Int64) : Bool := proofTimely proofLifetime (milliseconds iat) now

def jarAdmits (iat exp now : Int64) : Bool :=
  !(iat < 0 || exp ≤ iat) && objectTimely (milliseconds iat) (milliseconds exp) now

end Checks

section Windows

def InDpopWindow (proofLifetime issuedAt now : Int) : Prop :=
  0 < proofLifetime ∧ proofLifetime ≤ 600000 ∧ now-proofLifetime ≤ issuedAt ∧ issuedAt ≤ now+60000

def InJarWindow (issuedAt expiresAt now : Int) : Prop :=
  now < expiresAt ∧ issuedAt ≤ now+60000 ∧ now-600000 ≤ issuedAt ∧ expiresAt ≤ issuedAt+600000

def DpopSumsFit (proofLifetime issuedAt now : Int) : Prop := Fits (now+60000) ∧ Fits (issuedAt+proofLifetime)
def JarSumsFit (issuedAt now : Int) : Prop := Fits (now+60000) ∧ Fits (now-600000) ∧ Fits (issuedAt+600000)

theorem proofTimely_iff (proofLifetime issuedAt now : Int64) : proofTimely proofLifetime issuedAt now = true ↔
    InDpopWindow proofLifetime.toInt issuedAt.toInt now.toInt ∧ DpopSumsFit proofLifetime.toInt issuedAt.toInt now.toInt := by
  obtain ⟨ahead,late⟩ := toInt_sum now 60000
  obtain ⟨behind,early⟩ := toInt_sum issuedAt proofLifetime
  have lateFits := toInt_fits (now+60000)
  have earlyFits := toInt_fits (issuedAt+proofLifetime)
  have issuedFits := toInt_fits issuedAt
  have nowFits := toInt_fits now
  have skew : (60000 : Int64).toInt = 60000 := by decide
  have limit : (600000 : Int64).toInt = 600000 := by decide
  have zero : (0 : Int64).toInt = 0 := by decide
  simp only [proofTimely,Bool.not_eq_true',Bool.or_eq_false_iff,decide_eq_false_iff_not,Int64.le_iff_toInt_le,
    gt_iff_lt,Int64.lt_iff_toInt_lt,skew,limit,zero] at *
  unfold InDpopWindow DpopSumsFit Fits at *
  omega

theorem objectTimely_iff (issuedAt expiresAt now : Int64) : objectTimely issuedAt expiresAt now = true ↔
    InJarWindow issuedAt.toInt expiresAt.toInt now.toInt ∧ JarSumsFit issuedAt.toInt now.toInt := by
  obtain ⟨ahead,late⟩ := toInt_sum now 60000
  obtain ⟨back,early⟩ := toInt_difference now 600000
  obtain ⟨further,last⟩ := toInt_sum issuedAt 600000
  have lateFits := toInt_fits (now+60000)
  have earlyFits := toInt_fits (now-600000)
  have lastFits := toInt_fits (issuedAt+600000)
  have issuedFits := toInt_fits issuedAt
  have expiresFits := toInt_fits expiresAt
  have nowFits := toInt_fits now
  have skew : (60000 : Int64).toInt = 60000 := by decide
  have limit : (600000 : Int64).toInt = 600000 := by decide
  simp only [objectTimely,Bool.not_eq_true',Bool.or_eq_false_iff,decide_eq_false_iff_not,Int64.le_iff_toInt_le,
    gt_iff_lt,Int64.lt_iff_toInt_lt,skew,limit] at *
  unfold InJarWindow JarSumsFit Fits at *
  omega

end Windows

section Model

theorem toInt_milliseconds : (milliseconds seconds).toInt = instantFromUnixSeconds seconds.toInt := by
  rw [milliseconds,Int64.toInt_mul]
  rfl

section

variable {proofLifetime issuedAt expiresAt now : Int64}

end

end Model

section Exactness

def DpopWindow (proofLifetime iat now : Int64) : Prop := InDpopWindow proofLifetime.toInt (iat.toInt*1000) now.toInt

def JarWindow (iat exp now : Int64) : Prop :=
  0 ≤ iat.toInt ∧ iat.toInt < exp.toInt ∧ InJarWindow (iat.toInt*1000) (exp.toInt*1000) now.toInt

def DpopExact (proofLifetime iat now : Int64) : Prop :=
  (DpopWindow proofLifetime iat now →
    Fits (iat.toInt*1000) ∧ DpopSumsFit proofLifetime.toInt (iat.toInt*1000) now.toInt) ∧
  ∀ turns : Int,turns ≠ 0 → Fits (iat.toInt*1000 + turns*18446744073709551616) →
    InDpopWindow proofLifetime.toInt (iat.toInt*1000 + turns*18446744073709551616) now.toInt →
      ¬DpopSumsFit proofLifetime.toInt (iat.toInt*1000 + turns*18446744073709551616) now.toInt

def JarExact (iat exp now : Int64) : Prop :=
  (JarWindow iat exp now → Fits (iat.toInt*1000) ∧ Fits (exp.toInt*1000) ∧ JarSumsFit (iat.toInt*1000) now.toInt) ∧
  (0 ≤ iat.toInt → iat.toInt < exp.toInt → ∀ turns more : Int,turns ≠ 0 ∨ more ≠ 0 →
    Fits (iat.toInt*1000 + turns*18446744073709551616) → Fits (exp.toInt*1000 + more*18446744073709551616) →
    InJarWindow (iat.toInt*1000 + turns*18446744073709551616) (exp.toInt*1000 + more*18446744073709551616) now.toInt →
      ¬JarSumsFit (iat.toInt*1000 + turns*18446744073709551616) now.toInt)

theorem dpop_exact_iff (proofLifetime iat now : Int64) :
    (dpopAdmits proofLifetime iat now = true ↔ DpopWindow proofLifetime iat now) ↔ DpopExact proofLifetime iat now := by
  obtain ⟨turned,same,fits⟩ := wrapped (iat.toInt*1000)
  have admits := proofTimely_iff proofLifetime (milliseconds iat) now
  rw [toInt_milliseconds,instantFromUnixSeconds,same] at admits
  unfold dpopAdmits DpopExact DpopWindow
  rw [admits]
  constructor
  · intro exact
    constructor
    · intro inside
      obtain ⟨window,sums⟩ := exact.mpr inside
      have unturned : iat.toInt*1000 + turned*18446744073709551616 = iat.toInt*1000 := by
        unfold InDpopWindow at window inside
        omega
      rw [unturned] at fits sums
      exact ⟨fits,sums⟩
    · intro turns moved other window sums
      have only : turns = turned := by
        unfold Fits at fits other
        omega
      subst only
      have inside := exact.mp ⟨window,sums⟩
      unfold InDpopWindow at window inside
      omega
  · intro exact
    obtain ⟨read,apart⟩ := exact
    constructor
    · intro admitted
      obtain ⟨window,sums⟩ := admitted
      by_cases unturned : turned = 0
      · simpa [unturned] using window
      · exact absurd sums (apart turned unturned fits window)
    · intro inside
      obtain ⟨whole,sums⟩ := read inside
      have unturned : iat.toInt*1000 + turned*18446744073709551616 = iat.toInt*1000 := by
        unfold Fits at fits whole
        omega
      rw [unturned]
      exact ⟨inside,sums⟩

theorem jar_exact_iff (iat exp now : Int64) :
    (jarAdmits iat exp now = true ↔ JarWindow iat exp now) ↔ JarExact iat exp now := by
  obtain ⟨turned,sameIssued,fitsIssued⟩ := wrapped (iat.toInt*1000)
  obtain ⟨rolled,sameExpires,fitsExpires⟩ := wrapped (exp.toInt*1000)
  have timely := objectTimely_iff (milliseconds iat) (milliseconds exp) now
  rw [toInt_milliseconds,toInt_milliseconds,instantFromUnixSeconds,instantFromUnixSeconds,sameIssued,sameExpires] at timely
  have zero : (0 : Int64).toInt = 0 := by decide
  have admits : jarAdmits iat exp now = true ↔ (0 ≤ iat.toInt ∧ iat.toInt < exp.toInt) ∧
      objectTimely (milliseconds iat) (milliseconds exp) now = true := by
    simp [jarAdmits,Int64.lt_iff_toInt_lt,Int64.le_iff_toInt_le,zero]
  rw [admits,timely]
  constructor
  · intro exact
    constructor
    · intro inside
      obtain ⟨_,window,sums⟩ := exact.mpr inside
      have near := inside.2.2
      have unturned : iat.toInt*1000 + turned*18446744073709551616 = iat.toInt*1000 := by
        unfold InJarWindow at window near
        omega
      have unrolled : exp.toInt*1000 + rolled*18446744073709551616 = exp.toInt*1000 := by
        unfold InJarWindow at window near
        omega
      rw [unturned] at fitsIssued sums
      rw [unrolled] at fitsExpires
      exact ⟨fitsIssued,fitsExpires,sums⟩
    · intro positive ordered turns more moved issued expires window sums
      have only : turns = turned := by
        unfold Fits at fitsIssued issued
        omega
      have alone : more = rolled := by
        unfold Fits at fitsExpires expires
        omega
      subst only alone
      have inside := (exact.mp ⟨⟨positive,ordered⟩,window,sums⟩).2.2
      unfold InJarWindow at window inside
      omega
  · intro exact
    obtain ⟨read,apart⟩ := exact
    constructor
    · intro admitted
      obtain ⟨⟨positive,ordered⟩,window,sums⟩ := admitted
      by_cases unmoved : turned = 0 ∧ rolled = 0
      · exact ⟨positive,ordered,by simpa [unmoved.1,unmoved.2] using window⟩
      · exact absurd sums (apart positive ordered turned rolled (by omega) fitsIssued fitsExpires window)
    · intro inside
      obtain ⟨wholeIssued,wholeExpires,sums⟩ := read inside
      have unturned : iat.toInt*1000 + turned*18446744073709551616 = iat.toInt*1000 := by
        unfold Fits at fitsIssued wholeIssued
        omega
      have unrolled : exp.toInt*1000 + rolled*18446744073709551616 = exp.toInt*1000 := by
        unfold Fits at fitsExpires wholeExpires
        omega
      rw [unturned,unrolled]
      exact ⟨⟨inside.1,inside.2.1⟩,inside.2.2,sums⟩

theorem claims_exact_iff (proofLifetime iat exp now : Int64) :
    ((dpopAdmits proofLifetime iat now = true ↔ DpopWindow proofLifetime iat now) ↔ DpopExact proofLifetime iat now) ∧
    ((jarAdmits iat exp now = true ↔ JarWindow iat exp now) ↔ JarExact iat exp now) :=
  ⟨dpop_exact_iff proofLifetime iat now,jar_exact_iff iat exp now⟩

-- 2^61 seconds are a whole number of turns: a proof and an object of some 73 billion years
-- from now pass.
theorem distant_claims_admitted :
    (dpopAdmits 300000 2305843010913693952 1700000000000 = true ∧ ¬DpopWindow 300000 2305843010913693952 1700000000000) ∧
    jarAdmits 2305843010913693952 2305843010913694252 1700000000000 = true ∧
      ¬JarWindow 2305843010913693952 2305843010913694252 1700000000000 := by
  unfold DpopWindow JarWindow InDpopWindow InJarWindow
  decide

end Exactness

end OpenProof.ClaimTimes
