import Mathlib.Data.List.Basic

namespace SavedStates

variable {S C E : Type}

def stepOf (make : C → S → Except E S) (call : C) (s : S) : S :=
  match make call s with
  | .ok changed => changed
  | .error _ => s

def visited (step : C → S → S) : List C → S → List S
  | [],s => [s]
  | call :: later,s => s :: visited step later (step call s)

def Throughout (step : C → S → S) (meets : C → S → Prop) : List C → S → Prop
  | [],_ => True
  | call :: later,s => meets call s ∧ Throughout step meets later (step call s)

theorem start_visited (calls : List C) (s : S) : s ∈ visited step calls s := by
  cases calls <;> simp [visited]

theorem visited_iff {holds : S → Prop} (one : ∀ call s,holds s → (holds (step call s) ↔ meets call s))
    (start : holds s) : (∀ later ∈ visited step calls s,holds later) ↔ Throughout step meets calls s := by
  induction calls generalizing s with
  | nil => simpa [visited,Throughout] using start
  | cons call rest ih =>
    simp only [visited,List.forall_mem_cons,Throughout]
    constructor
    · intro ⟨_,onward⟩
      have next := onward _ (start_visited rest _)
      exact ⟨(one call s start).mp next,(ih next).mp onward⟩
    · intro ⟨met,rest⟩
      exact ⟨start,(ih ((one call s start).mpr met)).mpr rest⟩

theorem throughout_iff {holds : S → Prop} (one : ∀ call s,holds s → (acts call s ↔ meets call s))
    (kept : ∀ call s,holds s → acts call s → holds (step call s)) (start : holds s) :
    Throughout step acts calls s ↔ Throughout step meets calls s := by
  induction calls generalizing s with
  | nil => rfl
  | cons call rest ih =>
    rw [Throughout,Throughout,← one call s start]
    exact and_congr_right fun acted => ih (kept call s start acted)

theorem visited_all {holds : S → Prop} (one : ∀ call s,holds s → holds (step call s)) (start : holds s) : ∀ later ∈ visited step calls s,holds later := by
  induction calls generalizing s with
  | nil => simpa [visited] using start
  | cons call rest ih =>
    rw [visited,List.forall_mem_cons]
    exact ⟨start,ih (one call s start)⟩

end SavedStates
