import Mathlib.Data.List.Forall2
import Mathlib.Data.List.Induction

namespace HashChains

-- Records that name the hash of the one before.
structure Linkage (R H : Type) where
  previous : R → Option H
  hash : R → H

namespace Linkage
variable {R H : Type} (link : Linkage R H)

def last (records : List R) : Option H := records.getLast?.map link.hash

def Chained (sealed_ : R → Prop) : Option H → List R → Prop
  | _,[] => True
  | before,r :: rest => link.previous r = before ∧ sealed_ r ∧ Chained sealed_ (some (link.hash r)) rest

variable {link}

theorem last_concat : link.last (records ++ [r]) = some (link.hash r) := by simp [last]

theorem chained_append : link.Chained sealed_ before (records ++ more) ↔
    link.Chained sealed_ before records ∧ link.Chained sealed_ ((link.last records).or before) more := by
  induction records generalizing before with
  | nil => simp [Chained,last]
  | cons r rest ih =>
    have onward : (link.last rest).or (some (link.hash r)) = (link.last (r :: rest)).or before := by
      rcases List.eq_nil_or_concat rest with rfl | ⟨init,final,rfl⟩
      · rfl
      · rw [List.concat_eq_append,← List.cons_append,last_concat,last_concat]
        rfl
    simp only [List.cons_append,Chained,ih,onward,and_assoc]

theorem chained_concat : link.Chained sealed_ none (records ++ [r]) ↔
    link.Chained sealed_ none records ∧ link.previous r = link.last records ∧ sealed_ r := by
  rw [chained_append,Option.or_none]
  simp [Chained]

theorem like_histories (chained : link.Chained sealed_ none one) (chained' : link.Chained sealed_ none two)
    (links : ∀ r s,Like r s → link.previous r = link.previous s)
    (determined : ∀ r ∈ one,∀ s ∈ two,sealed_ r → sealed_ s → link.hash r = link.hash s → Like r s)
    (same : link.last one = link.last two) : List.Forall₂ Like one two := by
  induction one using List.reverseRecOn generalizing two with
  | nil =>
    rcases List.eq_nil_or_concat two with rfl | ⟨front,final,rfl⟩
    · exact .nil
    · rw [List.concat_eq_append,last_concat] at same
      cases same
  | append_singleton rest r ih =>
    rcases List.eq_nil_or_concat two with rfl | ⟨front,final,rfl⟩
    · rw [last_concat] at same
      cases same
    · rw [List.concat_eq_append] at same chained' determined ⊢
      rw [last_concat,last_concat] at same
      obtain ⟨chained,named,whole⟩ := chained_concat.mp chained
      obtain ⟨chained',named',whole'⟩ := chained_concat.mp chained'
      have like := determined r (by simp) final (by simp) whole whole' (Option.some.inj same)
      have earlier : link.last rest = link.last front := by
        rw [← named,← named']
        exact links r final like
      have onward := ih chained chained'
        (fun r inside s inside' => determined r (by simp [inside]) s (by simp [inside'])) earlier
      exact List.rel_append onward (.cons like .nil)

end Linkage

end HashChains
