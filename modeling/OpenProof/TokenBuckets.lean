import Mathlib.Algebra.Order.Field.Basic
import Mathlib.Tactic.Linarith
import Mathlib.Tactic.Ring

namespace OpenProof.TokenBuckets

variable {K : Type} [Field K] [LinearOrder K]

-- A bucket holds at most `capacity` tokens and gains `rate` of them with every tick.
structure Policy (K : Type) [Field K] [LinearOrder K] where
  capacity : K
  rate : K
  bounded : 0 ≤ capacity
  gaining : 0 ≤ rate

structure Bucket (K : Type) where
  tokens : K
  updatedAt : Int
  deriving DecidableEq

structure Draw (K : Type) where
  now : Int
  cost : K

namespace Policy

def refill (p : Policy K) (now : Int) (b : Bucket K) : Bucket K :=
  if b.updatedAt < now then ⟨min p.capacity (b.tokens + ((now - b.updatedAt : Int) : K)*p.rate),now⟩ else b

def draw (p : Policy K) (d : Draw K) (b : Bucket K) : Bool × Bucket K :=
  let b := p.refill d.now b
  if b.tokens < d.cost then (false,b) else (true,{ b with tokens := b.tokens - d.cost })

def admitted (p : Policy K) : List (Draw K) → Bucket K → K
  | [],_ => 0
  | d :: rest,b => (if (p.draw d b).1 then d.cost else 0) + p.admitted rest (p.draw d b).2

variable {p : Policy K} {b : Bucket K} {d : Draw K} {now t : Int}

theorem refill_twice : p.refill now (p.refill now b) = p.refill now b := by
  unfold Policy.refill
  split_ifs with later again
  · exact absurd again (lt_irrefl now)
  · rfl
  · rfl

theorem draw_refilled : p.draw d (p.refill d.now b) = p.draw d b := by
  unfold Policy.draw
  rw [refill_twice]

theorem refill_reaches (now : Int) (b : Bucket K) : now ≤ (p.refill now b).updatedAt := by
  unfold Policy.refill
  split_ifs with later
  · exact le_refl _
  · exact not_lt.mp later

structure Filled (p : Policy K) (b : Bucket K) : Prop where
  some : 0 ≤ b.tokens
  most : b.tokens ≤ p.capacity

variable [IsStrictOrderedRing K]

theorem Filled.refill (filled : p.Filled b) (now : Int) : p.Filled (p.refill now b) := by
  unfold Policy.refill
  split_ifs with later
  · have elapsed : (0 : K) ≤ ((now - b.updatedAt : Int) : K) := by exact_mod_cast (by omega : 0 ≤ now - b.updatedAt)
    have gain := mul_nonneg elapsed p.gaining
    exact ⟨le_min p.bounded (by linarith [filled.some]),min_le_left _ _⟩
  · exact filled

theorem Filled.draw (filled : p.Filled b) (positive : 0 ≤ d.cost) : p.Filled (p.draw d b).2 := by
  have refilled := filled.refill d.now
  unfold Policy.draw
  simp only
  split_ifs with short
  · exact refilled
  · have enough := not_lt.mp short
    have most := refilled.most
    exact ⟨by simp only; linarith,by simp only; linarith⟩

-- The tokens in the bucket and those that it can still gain until `t`.
def potential (p : Policy K) (t : Int) (b : Bucket K) : K := b.tokens + ((max 0 (t - b.updatedAt) : Int) : K)*p.rate

theorem potential_refill (early : now ≤ t) (b : Bucket K) : p.potential t (p.refill now b) ≤ p.potential t b := by
  unfold Policy.refill potential
  split_ifs with later
  · have ahead : max 0 (t - b.updatedAt) = (now - b.updatedAt) + max 0 (t - now) := by omega
    have less := min_le_right p.capacity (b.tokens + ((now - b.updatedAt : Int) : K)*p.rate)
    simp only [ahead,Int.cast_add,add_mul]
    linarith
  · exact le_refl _

theorem potential_draw (early : d.now ≤ t) (b : Bucket K) :
    (if (p.draw d b).1 then d.cost else 0) + p.potential t (p.draw d b).2 ≤ p.potential t b := by
  have refilled := potential_refill (p := p) early b
  by_cases short : (p.refill d.now b).tokens < d.cost
  · have kept : p.draw d b = (false,p.refill d.now b) := if_pos short
    rw [kept]
    simpa using refilled
  · have taken : p.draw d b = (true,{ p.refill d.now b with tokens := (p.refill d.now b).tokens - d.cost }) := if_neg short
    rw [taken,if_pos rfl]
    unfold potential at refilled ⊢
    linarith

theorem potential_nonneg (filled : p.Filled b) (t : Int) : 0 ≤ p.potential t b := by
  have ahead : (0 : K) ≤ ((max 0 (t - b.updatedAt) : Int) : K) := by exact_mod_cast le_max_left 0 _
  exact add_nonneg filled.some (mul_nonneg ahead p.gaining)

theorem admitted_le (draws : List (Draw K)) : ∀ {b : Bucket K},p.Filled b → (∀ d ∈ draws,0 ≤ d.cost ∧ d.now ≤ t) →
    p.admitted draws b ≤ p.potential t b := by
  induction draws with
  | nil => exact fun filled _ => potential_nonneg filled t
  | cons d rest ih =>
    intro b filled timely
    obtain ⟨positive,early⟩ := timely d (List.mem_cons_self ..)
    have step := potential_draw (p := p) early b
    have later := ih (filled.draw positive) fun e listed => timely e (List.mem_cons_of_mem _ listed)
    rw [admitted]
    linarith

theorem admitted_within (filled : p.Filled b) (nonneg : 0 ≤ t)
    (timely : ∀ d ∈ first :: draws,0 ≤ d.cost ∧ d.now ≤ first.now + t) :
    p.admitted (first :: draws) b ≤ p.capacity + (t : K)*p.rate := by
  have refilled := filled.refill first.now
  have same : p.admitted (first :: draws) b = p.admitted (first :: draws) (p.refill first.now b) := by
    rw [admitted,admitted,draw_refilled]
  have reached := refill_reaches (p := p) first.now b
  have ahead : max 0 (first.now + t - (p.refill first.now b).updatedAt) ≤ t := by omega
  have gain : ((max 0 (first.now + t - (p.refill first.now b).updatedAt) : Int) : K)*p.rate ≤ (t : K)*p.rate :=
    mul_le_mul_of_nonneg_right (by exact_mod_cast ahead) p.gaining
  have bound := admitted_le (p := p) (first :: draws) refilled timely
  rw [same]
  unfold potential at bound
  linarith [refilled.most]

end Policy

end OpenProof.TokenBuckets
