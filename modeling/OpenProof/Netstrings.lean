import Mathlib.Data.List.Basic

namespace Netstrings

variable {α : Type} (count : Nat → List α) (mark : α)

def part (value : List α) : List α := count value.length ++ mark :: value

def parts (values : List (List α)) : List α := values.flatMap (part count mark)

-- A way to write lengths that can be told from what follows it.
structure Counts : Prop where
  injective : ∀ m n,count m = count n → m = n
  unmarked : ∀ n,mark ∉ count n

section
variable {count mark}

theorem split_mark (clear : mark ∉ one) (clear' : mark ∉ two) (same : one ++ mark :: rest = two ++ mark :: further) : one = two ∧ rest = further := by
  induction one generalizing two with
  | nil =>
    cases two with
    | nil => exact ⟨rfl,(List.cons.inj same).2⟩
    | cons head tail =>
      obtain ⟨rfl,-⟩ := List.cons.inj same
      exact absurd List.mem_cons_self clear'
  | cons head tail ih =>
    cases two with
    | nil =>
      obtain ⟨rfl,-⟩ := List.cons.inj same
      exact absurd List.mem_cons_self clear
    | cons head' tail' =>
      obtain ⟨first,others⟩ := List.cons.inj same
      obtain ⟨tails,onward⟩ := ih (fun inside => clear (List.mem_cons_of_mem _ inside))
        (fun inside => clear' (List.mem_cons_of_mem _ inside)) others
      exact ⟨by rw [first,tails],onward⟩

theorem part_cancel (counts : Counts count mark) (same : part count mark value ++ rest = part count mark other ++ further) :
    value = other ∧ rest = further := by
  unfold part at same
  rw [List.append_assoc,List.append_assoc,List.cons_append,List.cons_append] at same
  obtain ⟨length,same⟩ := split_mark (counts.unmarked _) (counts.unmarked _) same
  exact List.append_inj same (counts.injective _ _ length)

theorem parts_injective (counts : Counts count mark) (same : parts count mark values = parts count mark others) : values = others := by
  induction values generalizing others with
  | nil =>
    cases others with
    | nil => rfl
    | cons other others => simp [parts,part] at same
  | cons value values ih =>
    cases others with
    | nil => simp [parts,part] at same
    | cons other others =>
      obtain ⟨rfl,onward⟩ := part_cancel counts same
      rw [ih onward]

end

end Netstrings
