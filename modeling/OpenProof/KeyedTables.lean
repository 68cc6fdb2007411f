import Mathlib.Data.List.Basic
import Std.Data.ExtTreeMap

namespace KeyedTables
open Std List

variable {K V W : Type} {cmp : K → K → Ordering} [TransCmp cmp]

def rowsWhere (chosen : K → V → Bool) (table : ExtTreeMap K V cmp) : List (K × V) :=
  table.toList.filter fun entry => chosen entry.1 entry.2

-- `UPDATE ... SET change WHERE chosen`.
def updated (chosen : K → V → Bool) (change : V → V) (table : ExtTreeMap K V cmp) : ExtTreeMap K V cmp :=
  table.map fun key row => if chosen key row then change row else row

theorem rowsWhere_map {table : ExtTreeMap K V cmp} {chosen : K → W → Bool} (view : V → W) :
    rowsWhere chosen (table.map fun _ => view) =
      (rowsWhere (fun key row => chosen key (view row)) table).map fun entry => (entry.1,view entry.2) := by
  unfold rowsWhere
  rw [ExtTreeMap.toList_map,filter_map]
  rfl

section
variable [LawfulEqCmp cmp] {table : ExtTreeMap K V cmp} {chosen : K → V → Bool} {key : K} {row : V}

theorem mem_rowsWhere : (key,row) ∈ rowsWhere chosen table ↔ table[key]? = some row ∧ chosen key row = true := by
  unfold rowsWhere
  rw [mem_filter,ExtTreeMap.mem_toList_iff_getElem?_eq_some]

theorem rowsWhere_none (spared : ∀ key row,table[key]? = some row → chosen key row = false) :
    rowsWhere chosen table = [] := by
  apply eq_nil_iff_forall_not_mem.mpr
  rintro ⟨key,row⟩ inside
  obtain ⟨stored,picked⟩ := mem_rowsWhere.mp inside
  rw [spared key row stored] at picked
  cases picked

theorem toList_insert_free (free : table[key]? = none) : (table.insert key row).toList.Perm ((key,row) :: table.toList) := by
  have apart : ∀ listed : ExtTreeMap K V cmp,listed.toList.Nodup := by
    intro listed
    apply List.Pairwise.imp (R:=fun one two => ¬cmp one.1 two.1 = .eq) _ ExtTreeMap.distinct_keys_toList
    rintro one two differ rfl
    exact differ ReflCmp.compare_self
  have outside : (key,row) ∉ table.toList := by
    rw [ExtTreeMap.mem_toList_iff_getElem?_eq_some,free]
    exact nofun
  rw [perm_ext_iff_of_nodup (apart _) (nodup_cons.mpr ⟨outside,apart table⟩)]
  rintro ⟨other,found⟩
  rw [ExtTreeMap.mem_toList_iff_getElem?_eq_some,ExtTreeMap.getElem?_insert,mem_cons,ExtTreeMap.mem_toList_iff_getElem?_eq_some,
    Prod.mk.injEq]
  split
  · rename_i same
    obtain rfl := LawfulEqCmp.eq_of_compare same
    rw [free]
    simp [eq_comm]
  · rename_i differ
    have elsewhere : other ≠ key := fun same => differ (same ▸ ReflCmp.compare_self)
    simp [elsewhere]

theorem rowsWhere_congr {one two : ExtTreeMap K V cmp}
    (alike : ∀ key row,chosen key row = true → (one[key]? = some row ↔ two[key]? = some row)) :
    rowsWhere chosen one = rowsWhere chosen two := by
  have kept : one.filter chosen = two.filter chosen := by
    refine ExtTreeMap.ext_getElem? fun key => Option.ext fun row => ?_
    rw [ExtTreeMap.getElem?_filter',ExtTreeMap.getElem?_filter',Option.filter_eq_some_iff,Option.filter_eq_some_iff]
    exact and_congr_left (alike key row)
  unfold rowsWhere
  rw [← ExtTreeMap.toList_filter,← ExtTreeMap.toList_filter,kept]

theorem rowsWhere_one (stored : table[key]? = some row) (picked : chosen key row = true)
    (only : ∀ other found,table[other]? = some found → chosen other found = true → other = key) :
    rowsWhere chosen table = [(key,row)] := by
  have apart : (rowsWhere chosen table).Pairwise fun one two => ¬cmp one.1 two.1 = .eq :=
    ExtTreeMap.distinct_keys_toList.sublist filter_sublist
  have inside : (key,row) ∈ rowsWhere chosen table := mem_rowsWhere.mpr ⟨stored,picked⟩
  have same : ∀ entry ∈ rowsWhere chosen table,entry = (key,row) := by
    rintro ⟨other,found⟩ member
    obtain ⟨there,also⟩ := mem_rowsWhere.mp member
    obtain rfl := only other found there also
    rw [stored] at there
    cases there
    rfl
  cases listed : rowsWhere chosen table with
  | nil =>
    rw [listed] at inside
    cases inside
  | cons first rest =>
    rw [listed] at apart same
    cases rest with
    | nil => rw [same first mem_cons_self]
    | cons second rest =>
      have one := same first mem_cons_self
      have two := same second (mem_cons_of_mem _ mem_cons_self)
      have differ := (pairwise_cons.mp apart).1 second mem_cons_self
      rw [one,two] at differ
      exact absurd ReflCmp.compare_self differ

theorem updated_none (spared : ∀ key row,table[key]? = some row → chosen key row = false) :
    updated chosen change table = table := by
  apply ExtTreeMap.ext_getElem?
  intro key
  unfold updated
  rw [ExtTreeMap.getElem?_map]
  cases stored : table[key]? with
  | none => rfl
  | some row => simp [spared key row stored]

theorem updated_one (stored : table[key]? = some row) (picked : chosen key row = true)
    (only : ∀ other found,table[other]? = some found → chosen other found = true → other = key) :
    updated chosen change table = table.insert key (change row) := by
  apply ExtTreeMap.ext_getElem?
  intro other
  unfold updated
  rw [ExtTreeMap.getElem?_map,ExtTreeMap.getElem?_insert]
  split
  · rename_i same
    obtain rfl := LawfulEqCmp.eq_of_compare same
    simp [stored,picked]
  · rename_i apart
    cases there : table[other]? with
    | none => rfl
    | some found =>
      have spared : chosen other found = false := by
        apply Bool.eq_false_iff.mpr
        intro also
        obtain rfl := only other found there also
        exact apart ReflCmp.compare_self
      simp [spared]

theorem updated_map {chosen : K → W → Bool} {change : W → W}
    (follows : ∀ key row,table[key]? = some row → chosen key (view row) = true → change (view row) = view (turn row)) :
    updated chosen change (table.map fun _ => view) =
      (updated (fun key row => chosen key (view row)) turn table).map fun _ => view := by
  apply ExtTreeMap.ext_getElem?
  intro key
  unfold updated
  simp only [ExtTreeMap.getElem?_map,Option.map_map]
  cases stored : table[key]? with
  | none => rfl
  | some row =>
    by_cases picked : chosen key (view row) = true
    · simp [picked,follows key row stored picked]
    · simp [picked]

end

end KeyedTables
