import Mathlib.Data.List.Sort
import Mathlib.Data.List.Destutter

namespace SortedList
open List

variable {α : Type} [LinearOrder α]

def sortUnique (items : List α) : List α := (items.insertionSort (· ≤ ·)).destutter (· ≠ ·)

-- First position in the window whose item is not below `x`; the window halves
-- each time, so its width also bounds the number of rounds.
def lowerBound (items : List α) (x : α) : (rounds first count : Nat) → Nat
  | 0,first,_ => first
  | rounds+1,first,count =>
    if count = 0 then first else
    let half := count / 2
    match items[first+half]? with
    | none => first
    | some y =>
      if y < x then lowerBound items x rounds (first+half+1) (count-(half+1))
      else lowerBound items x rounds first half

def binarySearch (items : List α) (x : α) : Bool :=
  match items[lowerBound items x items.length 0 items.length]? with
  | none => false
  | some y => !decide (x < y)

theorem mem_destutter' (x a : α) (items : List α) : x ∈ items.destutter' (· ≠ ·) a ↔ x = a ∨ x ∈ items := by
  induction items generalizing a with
  | nil => simp
  | cons b rest ih =>
    by_cases same : a = b
    · subst b
      rw [destutter'_cons_neg _ (by simp),ih,mem_cons,← or_assoc,or_self]
    · rw [destutter'_cons_pos _ same,mem_cons,ih,mem_cons]

theorem mem_destutter (x : α) (items : List α) : x ∈ items.destutter (· ≠ ·) ↔ x ∈ items := by
  cases items with
  | nil => simp
  | cons a rest => rw [destutter_cons',mem_destutter',mem_cons]

@[simp] theorem mem_sortUnique (x : α) (items : List α) : x ∈ sortUnique items ↔ x ∈ items := by
  rw [sortUnique,mem_destutter,mem_insertionSort]

theorem sortUnique_sorted (items : List α) : (sortUnique items).Pairwise (· ≤ ·) :=
  (pairwise_insertionSort (· ≤ ·) items).sublist (destutter_sublist _ _)

@[simp] theorem sortUnique_eq_nil (items : List α) : sortUnique items = [] ↔ items = [] := by
  constructor
  · intro empty
    rw [eq_nil_iff_forall_not_mem]
    intro x member
    have kept := (mem_sortUnique x items).mpr member
    rw [empty] at kept
    cases kept
  · rintro rfl
    rfl

theorem sortUnique_idem (items : List α) : sortUnique (sortUnique items) = sortUnique items := by
  have still : (sortUnique items).insertionSort (· ≤ ·) = sortUnique items := (sortUnique_sorted items).insertionSort_eq
  rw [sortUnique,still,sortUnique,destutter_idem]

theorem sortUnique_length (items : List α) : (sortUnique items).length ≤ items.length :=
  calc (sortUnique items).length
    _ ≤ (items.insertionSort (· ≤ ·)).length := (destutter_sublist _ _).length_le
    _ = items.length := length_insertionSort _ _

def Splits (items : List α) (x : α) (r : Nat) : Prop :=
  (∀ i y, items[i]? = some y → i < r → y < x) ∧ ∀ i y, items[i]? = some y → r ≤ i → x ≤ y

theorem sorted_le {items : List α} (sorted : items.Pairwise (· ≤ ·)) {i j : Nat} (atI : items[i]? = some y)
    (atJ : items[j]? = some z) (order : i ≤ j) : y ≤ z := by
  obtain ⟨boundI,rfl⟩ := List.getElem?_eq_some_iff.mp atI
  obtain ⟨boundJ,rfl⟩ := List.getElem?_eq_some_iff.mp atJ
  rcases Nat.lt_or_eq_of_le order with less | rfl
  · exact List.pairwise_iff_getElem.mp sorted i j boundI boundJ less
  · exact le_refl _

theorem lowerBound_splits {items : List α} {x : α} (sorted : items.Pairwise (· ≤ ·))
    (rounds first count : Nat) (enough : count ≤ rounds) (inside : first+count ≤ items.length)
    (below : ∀ i y, items[i]? = some y → i < first → y < x)
    (above : ∀ i y, items[i]? = some y → first+count ≤ i → x ≤ y) :
    Splits items x (lowerBound items x rounds first count) := by
  induction rounds generalizing first count with
  | zero =>
    obtain rfl : count = 0 := by omega
    exact ⟨below,above⟩
  | succ rounds ih =>
    by_cases done : count = 0
    · subst done
      simp only [lowerBound,↓reduceIte]
      exact ⟨below,above⟩
    · have bound : first+count/2 < items.length := by omega
      have here := getElem?_eq_getElem bound
      simp only [lowerBound,done,↓reduceIte,here]
      split
      · rename_i less
        refine ih _ _ (by omega) (by omega) ?_ ?_
        · intro i y atI order
          exact lt_of_le_of_lt (sorted_le sorted atI here (by omega)) less
        · intro i y atI order
          exact above i y atI (by omega)
      · rename_i notLess
        refine ih _ _ (by omega) (by omega) below ?_
        intro i y atI order
        exact le_trans (le_of_not_gt notLess) (sorted_le sorted here atI order)

theorem binarySearch_eq_true {items : List α} (sorted : items.Pairwise (· ≤ ·)) (x : α) :
    binarySearch items x = true ↔ x ∈ items := by
  have split := lowerBound_splits (x:=x) sorted items.length 0 items.length (Nat.le_refl _) (by simp)
    (by intro i y _ order; omega) (by
      intro i y atI order
      obtain ⟨bound,_⟩ := List.getElem?_eq_some_iff.mp atI
      omega)
  unfold binarySearch
  constructor
  · intro found
    split at found
    · cases found
    · rename_i y here
      have order := split.2 _ _ here (Nat.le_refl _)
      have equal : x = y := le_antisymm order (by simpa using found)
      exact equal ▸ List.mem_of_getElem? here
  · intro member
    obtain ⟨i,atI⟩ := List.getElem?_of_mem member
    have reach : lowerBound items x items.length 0 items.length ≤ i := by
      by_contra before
      exact lt_irrefl x (split.1 i x atI (by omega))
    obtain ⟨bound,_⟩ := List.getElem?_eq_some_iff.mp atI
    have here := List.getElem?_eq_getElem (Nat.lt_of_le_of_lt reach bound)
    rw [here]
    simpa using sorted_le sorted here atI reach

-- A list kept sorted, so that `binarySearch` may be asked about it.
structure SortedSet (α : Type) [LinearOrder α] where
  items : List α
  sorted : items.Pairwise (· ≤ ·)
  deriving DecidableEq

namespace SortedSet

def ofList (items : List α) : SortedSet α := ⟨sortUnique items,sortUnique_sorted items⟩

@[simp] theorem ofList_items_ofList (items : List α) : ofList (ofList items).items = ofList items := by
  simp only [ofList,sortUnique_idem]

def contains (set : SortedSet α) (x : α) : Bool := binarySearch set.items x

def containsAll (set : SortedSet α) (xs : List α) : Bool := xs.all set.contains

@[simp] theorem mem_ofList (x : α) (items : List α) : x ∈ (ofList items).items ↔ x ∈ items :=
  mem_sortUnique x items

@[simp] theorem ofList_items_eq_nil (items : List α) : (ofList items).items = [] ↔ items = [] :=
  sortUnique_eq_nil items

@[simp] theorem contains_eq_true (set : SortedSet α) (x : α) :
    set.contains x = true ↔ x ∈ set.items := binarySearch_eq_true set.sorted x

@[simp] theorem containsAll_eq_true (set : SortedSet α) (xs : List α) :
    set.containsAll xs = true ↔ ∀ x ∈ xs,x ∈ set.items := by
  simp [containsAll]

end SortedSet

end SortedList
