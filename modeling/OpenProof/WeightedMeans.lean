import Mathlib.Data.List.Basic

namespace WeightedMeans

variable {α : Type}

def total (f : α → Nat) : List α → Nat
  | [] => 0
  | item :: rest => f item + total f rest

def mean (sum weight : Nat) : Nat := if weight = 0 then 0 else sum / weight

section

@[simp] theorem total_nil : total f [] = 0 := rfl

@[simp] theorem total_cons : total f (item :: items) = f item + total f items := rfl

@[simp] theorem total_append : total f (one ++ two) = total f one + total f two := by
  induction one with
  | nil => simp
  | cons item rest ih => rw [List.cons_append,total_cons,total_cons,ih,Nat.add_assoc]

theorem total_perm (same : one.Perm two) : total f one = total f two := by
  induction same with
  | nil => rfl
  | cons item _ ih => rw [total_cons,total_cons,ih]
  | swap first second rest => simp only [total_cons,Nat.add_left_comm]
  | trans _ _ left right => exact left.trans right

theorem total_le {bound : Nat} (bounded : ∀ item ∈ items,f item ≤ bound * g item) : total f items ≤ bound * total g items := by
  induction items with
  | nil => simp
  | cons item rest ih =>
    have first := bounded item List.mem_cons_self
    have others := ih fun later inside => bounded later (List.mem_cons_of_mem _ inside)
    rw [total_cons,total_cons,Nat.mul_add]
    exact Nat.add_le_add first others

theorem total_le_length {bound : Nat} (bounded : ∀ item ∈ items,f item ≤ bound) : total f items ≤ bound * items.length := by
  induction items with
  | nil => simp
  | cons item rest ih =>
    have first := bounded item List.mem_cons_self
    have others := ih fun later inside => bounded later (List.mem_cons_of_mem _ inside)
    rw [total_cons,List.length_cons,Nat.mul_succ]
    omega

end

section

@[simp] theorem mean_zero : mean sum 0 = 0 := rfl

theorem mean_of_pos (some : 0 < weight) : mean sum weight = sum / weight := by
  rw [mean,if_neg (by omega)]

theorem mean_le (bounded : sum ≤ bound * weight) : mean sum weight ≤ bound := by
  unfold mean
  split
  · exact Nat.zero_le bound
  · rename_i some
    exact Nat.div_le_of_le_mul (Nat.mul_comm bound weight ▸ bounded)

theorem mean_eq_iff (some : 0 < weight) : mean sum weight = bound ↔ bound * weight ≤ sum ∧ sum < (bound + 1) * weight := by
  rw [mean_of_pos some,Nat.div_eq_iff some,Nat.add_one_mul]
  omega

theorem mean_mul_le : mean sum weight * weight ≤ sum := by
  unfold mean
  split
  · simp
  · exact Nat.div_mul_le_self sum weight

theorem lt_mean_mul (some : 0 < weight) : sum < (mean sum weight + 1) * weight := ((mean_eq_iff some).mp rfl).2

theorem le_mean (some : 0 < weight) (reached : bound * weight ≤ sum) : bound ≤ mean sum weight := by
  rw [mean_of_pos some]
  exact (Nat.le_div_iff_mul_le some).mpr reached

theorem min_le_mean : min (mean sum weight) (mean more extra) ≤ mean (sum + more) (weight + extra) := by
  rcases Nat.eq_zero_or_pos (weight + extra) with none | some
  · obtain ⟨rfl,rfl⟩ := Nat.add_eq_zero_iff.mp none
    simp
  · apply le_mean some
    rw [Nat.mul_add]
    have left := Nat.le_trans (Nat.mul_le_mul_right weight (Nat.min_le_left (mean sum weight) (mean more extra))) mean_mul_le
    have right := Nat.le_trans (Nat.mul_le_mul_right extra (Nat.min_le_right (mean sum weight) (mean more extra))) mean_mul_le
    exact Nat.add_le_add left right

theorem mean_le_max (empty : weight = 0 → sum = 0) (also : extra = 0 → more = 0) :
    mean (sum + more) (weight + extra) ≤ max (mean sum weight) (mean more extra) := by
  rcases Nat.eq_zero_or_pos weight with none | some
  · rw [none,empty none]
    simp
  rcases Nat.eq_zero_or_pos extra with no | any
  · rw [no,also no]
    simp
  have left : sum < (max (mean sum weight) (mean more extra) + 1) * weight :=
    Nat.lt_of_lt_of_le (lt_mean_mul some) (Nat.mul_le_mul_right weight (by omega))
  have right : more < (max (mean sum weight) (mean more extra) + 1) * extra :=
    Nat.lt_of_lt_of_le (lt_mean_mul any) (Nat.mul_le_mul_right extra (by omega))
  have together : sum + more < (max (mean sum weight) (mean more extra) + 1) * (weight + extra) := by
    rw [Nat.mul_add]
    omega
  rw [mean_of_pos (Nat.add_pos_left some extra)]
  exact Nat.lt_succ_iff.mp ((Nat.div_lt_iff_lt_mul (Nat.add_pos_left some extra)).mpr together)

theorem mean_steady_iff (some : 0 < weight) :
    (∀ count,mean (sum + count * more) (weight + count * extra) = mean sum weight) ↔
      mean sum weight * extra ≤ more ∧ more ≤ (mean sum weight + 1) * extra := by
  have same : mean sum weight = mean sum weight := rfl
  obtain ⟨least,most⟩ := (mean_eq_iff some).mp same
  generalize mean sum weight = bound at least most ⊢
  have each : ∀ count,mean (sum + count * more) (weight + count * extra) = bound ↔
      bound * weight + count * (bound * extra) ≤ sum + count * more ∧
        sum + count * more < (bound + 1) * weight + count * ((bound + 1) * extra) := by
    intro count
    rw [mean_eq_iff (Nat.add_pos_left some _),Nat.mul_add,Nat.mul_add,Nat.mul_left_comm,Nat.mul_left_comm (bound + 1)]
  constructor
  · intro steady
    constructor
    · by_contra low
      have gap := ((each (sum + 1)).mp (steady (sum + 1))).1
      have far : (sum + 1) * (more + 1) ≤ (sum + 1) * (bound * extra) := Nat.mul_le_mul_left _ (by omega)
      rw [Nat.mul_succ] at far
      omega
    · by_contra high
      have gap := ((each ((bound + 1) * weight)).mp (steady ((bound + 1) * weight))).2
      have far := Nat.mul_le_mul_left ((bound + 1) * weight) (show (bound + 1) * extra + 1 ≤ more by omega)
      rw [Nat.mul_succ] at far
      omega
  · rintro ⟨low,high⟩ count
    have below := Nat.mul_le_mul_left count low
    have above := Nat.mul_le_mul_left count high
    exact (each count).mpr ⟨by omega,by omega⟩

end

end WeightedMeans
