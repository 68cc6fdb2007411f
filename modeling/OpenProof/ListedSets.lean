import Mathlib.Data.List.Nodup
import Mathlib.Data.Set.Insert

namespace ListedSets
open List

-- A change to a set that is kept as a list.
inductive Edit (α : Type) where
  | add (items : List α)
  | remove (item : α)
  | replace (items : List α)

variable {α : Type}

def listed (items : List α) : Set α := { item | item ∈ items }

@[simp] theorem mem_listed {item : α} {items : List α} : item ∈ listed items ↔ item ∈ items := Iff.rfl

namespace Edit

def onSet : Edit α → Set α → Set α
  | .add items,held => held ∪ listed items
  | .remove item,held => held \ {item}
  | .replace items,_ => listed items

def onList [DecidableEq α] : Edit α → List α → List α
  | .add items,held => held ++ items
  | .remove item,held => held.filter fun other => other != item
  | .replace items,_ => items

def brings : Edit α → List α
  | .add items => items
  | .remove _ => []
  | .replace items => items

def Clears (item : α) : Edit α → Prop
  | .add _ => False
  | .remove other => other = item
  | .replace _ => True

def Once [DecidableEq α] (item : α) (held : Set α) : Edit α → Prop
  | .add items => items.count item ≤ 1 ∧ (item ∈ items → item ∉ held)
  | .remove _ => True
  | .replace items => items.count item ≤ 1

end Edit

def setEdited (edits : List (Edit α)) (held : Set α) : Set α := edits.foldl (fun held edit => edit.onSet held) held

def Fresh [DecidableEq α] (item : α) (held : Set α) (edits : List (Edit α)) : Prop :=
  ∀ first edit rest,edits = first ++ edit :: rest → (∀ later ∈ rest,¬later.Clears item) →
    edit.Once item (setEdited first held)

section
variable [DecidableEq α] {item : α} {held : Set α} {edit : Edit α} {edits : List (Edit α)} {items : List α}

def listEdited (edits : List (Edit α)) (items : List α) : List α :=
  edits.foldl (fun items edit => edit.onList items) items

theorem onList_listed (edit : Edit α) (items : List α) : listed (edit.onList items) = edit.onSet (listed items) := by
  ext other
  cases edit with
  | add | remove => simp [Edit.onList,Edit.onSet]
  | replace more => rfl

theorem listEdited_listed (edits : List (Edit α)) (items : List α) :
    listed (listEdited edits items) = setEdited edits (listed items) := by
  induction edits generalizing items with
  | nil => rfl
  | cons edit rest ih => exact (ih (edit.onList items)).trans (congrArg (setEdited rest) (onList_listed edit items))

theorem mem_listEdited (inside : item ∈ listEdited edits items) : item ∈ items ∨ ∃ edit ∈ edits,item ∈ edit.brings := by
  induction edits generalizing items with
  | nil => exact .inl inside
  | cons edit rest ih =>
    rcases ih inside with here | ⟨later,among,brought⟩
    · cases edit with
      | add more =>
        rcases mem_append.mp here with old | new
        · exact .inl old
        · exact .inr ⟨_,mem_cons_self,new⟩
      | remove gone => exact .inl (mem_filter.mp here).1
      | replace more => exact .inr ⟨_,mem_cons_self,here⟩
    · exact .inr ⟨later,mem_cons_of_mem edit among,brought⟩

theorem fresh_nil : Fresh item held [] := by
  intro first edit rest split
  simp at split

theorem fresh_cons : Fresh item held (edit :: edits) ↔
    ((∀ later ∈ edits,¬later.Clears item) → edit.Once item held) ∧ Fresh item (edit.onSet held) edits := by
  constructor
  · intro fresh
    exact ⟨fresh [] edit edits rfl,fun first other rest split => fresh (edit :: first) other rest (congrArg _ split)⟩
  · rintro ⟨now,afterwards⟩ first other rest split
    cases first with
    | nil =>
      cases split
      exact now
    | cons one first =>
      cases split
      exact afterwards first other rest rfl

theorem onList_count : (edit.onList items).count item ≤ 1 ↔
    (¬edit.Clears item → items.count item ≤ 1) ∧ edit.Once item (listed items) := by
  cases edit with
  | add more =>
    have here : item ∈ items ↔ 0 < items.count item := count_pos_iff.symm
    have there : item ∈ more ↔ 0 < more.count item := count_pos_iff.symm
    simp only [Edit.onList,Edit.Clears,Edit.Once,mem_listed,count_append,here,there,not_false_eq_true,forall_const]
    omega
  | remove gone =>
    by_cases same : gone = item
    · subst same
      have none : ((items.filter fun other => other != gone).count gone) = 0 := count_eq_zero.mpr (by simp)
      simp [Edit.onList,Edit.Clears,Edit.Once,none]
    · have kept : ((items.filter fun other => other != gone).count item) = items.count item :=
        count_filter (by simpa using Ne.symm same)
      simp [Edit.onList,Edit.Clears,Edit.Once,kept,same]
  | replace more => simp [Edit.onList,Edit.Clears,Edit.Once]

theorem listEdited_count : (listEdited edits items).count item ≤ 1 ↔
    ((∀ edit ∈ edits,¬edit.Clears item) → items.count item ≤ 1) ∧ Fresh item (listed items) edits := by
  induction edits generalizing items with
  | nil => simp [listEdited,fresh_nil]
  | cons edit rest ih =>
    have onward : listEdited (edit :: rest) items = listEdited rest (edit.onList items) := rfl
    rw [onward,ih,onList_count,onList_listed,fresh_cons,forall_mem_cons]
    by_cases quiet : ∀ later ∈ rest,¬later.Clears item
    · rw [and_iff_left quiet,imp_iff_right quiet,imp_iff_right quiet,and_assoc]
    · simp only [quiet,and_false,false_implies,true_and]

theorem listEdited_nodup (edits : List (Edit α)) (distinct : items.Nodup) :
    (listEdited edits items).Nodup ↔ ∀ item,Fresh item (listed items) edits := by
  rw [nodup_iff_count_le_one]
  refine forall_congr' fun item => ?_
  rw [listEdited_count]
  exact and_iff_right fun _ => nodup_iff_count_le_one.mp distinct item

end

end ListedSets
