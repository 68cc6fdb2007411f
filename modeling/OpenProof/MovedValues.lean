import Mathlib.Data.List.Perm.Basic

namespace MovedValues

-- What each object owns, in the order the objects were made: moving from one, or destroying it,
-- leaves nothing. An object that was never made owns nothing either.
abbrev Places (α : Type) := List (Option α)

variable {α : Type}

def owner (places : Places α) (i : Nat) : Option α := places[i]?.join

def owned (places : Places α) : List α := places.filterMap id

def empty (places : Places α) (i : Nat) : Places α := places.set i none

-- Assignment from another object: what the target owned is for the caller to dispose of.
def moved (places : Places α) (target source : Nat) : Places α :=
  (empty (empty places target) source).set target (owner places source)

@[simp] theorem owned_made : owned (places ++ [value]) = owned places ++ value.toList := by
  cases value <;> simp [owned]

@[simp] theorem owned_all (values : List α) : owned (places ++ values.map some) = owned places ++ values := by
  simp [owned]

theorem owned_put (places : Places α) (inside : i < places.length) (value : Option α) :
    (owned (places.set i value) ++ (owner places i).toList).Perm (owned places ++ value.toList) := by
  have put := (List.set_perm_cons_eraseIdx inside value).filterMap id
  have held := (List.getElem_cons_eraseIdx_perm inside).filterMap id
  have found : owner places i = places[i] := by simp [owner,inside]
  have part (kept : Option α) (rest : Places α) : (kept :: rest).filterMap id = kept.toList ++ rest.filterMap id := by
    cases kept <;> rfl
  rw [part] at put held
  rw [found]
  refine (put.append_right _).trans ?_
  rw [List.append_assoc]
  exact List.perm_append_comm.trans ((List.perm_append_comm.trans held).append_right _)

theorem owned_empty (places : Places α) (i : Nat) :
    (owned (empty places i) ++ (owner places i).toList).Perm (owned places) := by
  by_cases inside : i < places.length
  · simpa [empty] using owned_put places inside none
  · have nothing : owner places i = none := by simp [owner,Nat.not_lt.mp inside]
    rw [empty,List.set_eq_of_length_le (Nat.not_lt.mp inside),nothing]
    simp

theorem owned_moved {places : Places α} (apart : target ≠ source) (inside : target < places.length) :
    (owned (moved places target source) ++ (owner places target).toList).Perm (owned places) := by
  have left : owner (empty (empty places target) source) target = none := by
    simp [owner,empty,apart.symm,inside]
  have kept : owner (empty places target) source = owner places source := by simp [owner,empty,apart]
  have put := owned_put (empty (empty places target) source) (i:=target) (by simpa [empty] using inside) (owner places source)
  have source := owned_empty (empty places target) source
  rw [left,Option.toList_none,List.append_nil] at put
  rw [kept] at source
  exact ((put.trans source).append_right _).trans (owned_empty places target)

end MovedValues
