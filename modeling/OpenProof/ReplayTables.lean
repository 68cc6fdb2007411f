import Mathlib.Tactic.SplitIfs

namespace ReplayTables
open List

structure Row (K : Type) where
  key : K
  expiresAt : Int
  deriving DecidableEq

abbrev Table (K : Type) := List (Row K)

section
variable {K : Type} [DecidableEq K] {key other : K} {expiresAt now : Int} {table : Table K} {row : Row K}

-- One transaction: rows past their expiry are deleted, then the new row is inserted
-- under its primary key. A conflict rolls the deletion back.
def consume (key : K) (expiresAt now : Int) (table : Table K) : Bool × Table K :=
  let live := table.filter fun row => now < row.expiresAt
  if live.any fun row => row.key = key then (false,table) else (true,⟨key,expiresAt⟩ :: live)

theorem consume_adds (taken : (consume key expiresAt now table).1 = true) :
    (⟨key,expiresAt⟩ : Row K) ∈ (consume key expiresAt now table).2 := by
  unfold consume at taken ⊢
  dsimp only at taken ⊢
  split_ifs at taken ⊢
  exact mem_cons_self

theorem consume_keeps (present : row ∈ table) (live : now < row.expiresAt) :
    row ∈ (consume key expiresAt now table).2 := by
  unfold consume
  dsimp only
  split_ifs
  · exact present
  · refine mem_cons_of_mem _ (mem_filter.mpr ⟨present,?_⟩)
    simpa using live

theorem consume_refuses (present : row ∈ table) (live : now < row.expiresAt) :
    (consume row.key expiresAt now table).1 = false := by
  unfold consume
  dsimp only
  rw [if_pos]
  simp only [any_eq_true,decide_eq_true_eq]
  exact ⟨row,mem_filter.mpr ⟨present,by simpa using live⟩,rfl⟩

end

-- A verifier in front of such a table: `rows` is the table in its state, `shows` the
-- row a presented proof stands for.
structure Verifier (P R T K : Type) where
  step : Int → P → T → R × T
  accepts : R → Bool
  rows : T → Table K
  shows : P → K → Int → Prop

namespace Verifier
variable {P R T K : Type} {V : Verifier P R T K}

def Spends [DecidableEq K] (V : Verifier P R T K) : Prop :=
  ∀ now p state,
    (∃ key expiresAt,V.shows p key expiresAt ∧
      V.rows (V.step now p state).2 = (consume key expiresAt now (V.rows state)).2 ∧
      (V.accepts (V.step now p state).1 = true → (consume key expiresAt now (V.rows state)).1 = true)) ∨
    (V.rows (V.step now p state).2 = V.rows state ∧ V.accepts (V.step now p state).1 = false)

-- How often the proofs in `hit` are accepted in a sequence of presentations.
def acceptances (V : Verifier P R T K) (hit : P → Bool) : List (Int × P) → T → Nat
  | [],_ => 0
  | (now,p) :: rest,state =>
    (if hit p && V.accepts (V.step now p state).1 then 1 else 0) +
      V.acceptances hit rest (V.step now p state).2

variable {hit : P → Bool} {row : Row K} {calls : List (Int × P)} {state : T}

def Inside (V : Verifier P R T K) (hit : P → Bool) (row : Row K) (calls : List (Int × P)) : Prop :=
  ∀ call ∈ calls,hit call.2 = true → ∀ state,V.accepts (V.step call.1 call.2 state).1 = true →
    call.1 < row.expiresAt

-- All proofs in `hit` stand for one row.
def Names (V : Verifier P R T K) (hit : P → Bool) (row : Row K) : Prop :=
  ∀ p,hit p = true → ∀ key expiresAt,V.shows p key expiresAt → key = row.key ∧ expiresAt = row.expiresAt

theorem acceptances_late (inside : V.Inside hit row calls) (late : ∀ call ∈ calls,row.expiresAt ≤ call.1) :
    V.acceptances hit calls state = 0 := by
  induction calls generalizing state with
  | nil => rfl
  | cons call rest ih =>
    obtain ⟨now,p⟩ := call
    have head : ¬(hit p && V.accepts (V.step now p state).1) = true := by
      intro taken
      obtain ⟨wanted,accepted⟩ := Bool.and_eq_true_iff.mp taken
      have early := inside _ mem_cons_self wanted state accepted
      have reached := late _ mem_cons_self
      simp only at early reached
      omega
    rw [acceptances,if_neg head,Nat.zero_add]
    apply ih
    · intro c member
      exact inside c (mem_cons_of_mem _ member)
    · intro c member
      exact late c (mem_cons_of_mem _ member)

variable [DecidableEq K]

theorem acceptances_spent (spends : V.Spends) (names : V.Names hit row)
    (ordered : calls.Pairwise fun a b => a.1 ≤ b.1) (inside : V.Inside hit row calls)
    (present : row ∈ V.rows state) : V.acceptances hit calls state = 0 := by
  induction calls generalizing state with
  | nil => rfl
  | cons call rest ih =>
    obtain ⟨now,p⟩ := call
    obtain ⟨first,later⟩ := pairwise_cons.mp ordered
    have within : V.Inside hit row rest := fun c member => inside c (mem_cons_of_mem _ member)
    by_cases live : now < row.expiresAt
    · rcases spends now p state with ⟨key,expiresAt,shown,left,taken⟩ | ⟨left,refused⟩
      · have head : ¬(hit p && V.accepts (V.step now p state).1) = true := by
          intro counted
          obtain ⟨wanted,accepted⟩ := Bool.and_eq_true_iff.mp counted
          obtain ⟨rfl,rfl⟩ := names p wanted key expiresAt shown
          have twice := taken accepted
          rw [consume_refuses present live] at twice
          cases twice
        rw [acceptances,if_neg head,Nat.zero_add]
        apply ih later within
        rw [left]
        exact consume_keeps present live
      · rw [acceptances,refused,Bool.and_false,if_neg Bool.false_ne_true,Nat.zero_add]
        apply ih later within
        rw [left]
        exact present
    · apply acceptances_late inside
      intro c member
      rcases mem_cons.mp member with rfl | further
      · exact Int.not_lt.mp live
      · exact Int.le_trans (Int.not_lt.mp live) (first c further)

theorem acceptances_le_one (spends : V.Spends) (names : V.Names hit row)
    (ordered : calls.Pairwise fun a b => a.1 ≤ b.1) (inside : V.Inside hit row calls) :
    V.acceptances hit calls state ≤ 1 := by
  induction calls generalizing state with
  | nil => exact Nat.zero_le 1
  | cons call rest ih =>
    obtain ⟨now,p⟩ := call
    obtain ⟨first,later⟩ := pairwise_cons.mp ordered
    have within : V.Inside hit row rest := fun c member => inside c (mem_cons_of_mem _ member)
    by_cases counted : (hit p && V.accepts (V.step now p state).1) = true
    · obtain ⟨wanted,accepted⟩ := Bool.and_eq_true_iff.mp counted
      have none_more : V.acceptances hit rest (V.step now p state).2 = 0 := by
        apply acceptances_spent spends names later within
        rcases spends now p state with ⟨key,expiresAt,shown,left,taken⟩ | ⟨_,refused⟩
        · obtain ⟨rfl,rfl⟩ := names p wanted key expiresAt shown
          rw [left]
          exact consume_adds (taken accepted)
        · rw [accepted] at refused
          cases refused
      have one : V.acceptances hit ((now,p) :: rest) state = 1 := by rw [acceptances,if_pos counted,none_more]
      exact Nat.le_of_eq one
    · rw [acceptances,if_neg counted,Nat.zero_add]
      exact ih later within

end Verifier

end ReplayTables
