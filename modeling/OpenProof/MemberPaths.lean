import OpenProof.ScimHttp

namespace OpenProof.MemberPaths
open Foundation Http List
open ScimHttp ScimService

def opening : Text := "members[value eq \""
def closing : Text := "\"]"

-- `remove_prefix` and `remove_suffix` of a `string_view`; taking more than there is has no meaning.
def removePrefix (count : Nat) (text : Text) : Option Text := if count ≤ text.length then some (text.drop count) else none
def removeSuffix (count : Nat) (text : Text) : Option Text :=
  if count ≤ text.length then some (text.take (text.length - count)) else none

def strippedMember (path : Text) : Option Text := (removePrefix opening.length path).bind (removeSuffix 2)

def removalPath : Json → Option Text
  | .object operation => match requiredString operation "op" 16,optionalString operation "path" 256 with
    | .ok op,.ok (some path) => if removes op && opening.isPrefixOf path && closing.isSuffixOf path then some path else none
    | _,_ => none
  | _ => none

def Exact (path : Text) : Prop := ∃ member,strippedMember path = some member ∧ path = opening ++ member ++ closing

def overlapping : Text := opening ++ Text.of "]"

theorem stripped_between : strippedMember (opening ++ member ++ closing) = some member := by
  have two : closing.length = 2 := by decide
  simp [strippedMember,removePrefix,removeSuffix,two]

theorem stripped_overlapping : strippedMember overlapping = none := by decide

theorem closing_split : closing = [ch '\"'] ++ [ch ']'] := by decide

theorem quoted_cases (starts : opening.isPrefixOf path = true) (ends : closing.isSuffixOf path = true) :
    path = overlapping ∨ ∃ member,path = opening ++ member ++ closing := by
  obtain ⟨rest,rfl⟩ := isPrefixOf_iff_prefix.mp starts
  have ends := isSuffixOf_iff_suffix.mp ends
  match rest with
  | [] =>
    rw [append_nil] at ends
    exact absurd ends (by decide)
  | [last] =>
    obtain ⟨before,whole⟩ := ends
    have lasts := congrArg getLast? whole
    rw [getLast?_concat,closing_split,← append_assoc,getLast?_concat] at lasts
    cases lasts
    exact .inl rfl
  | first :: second :: rest =>
    obtain ⟨member,whole⟩ := suffix_of_suffix_length_le ends (suffix_append opening (first :: second :: rest)) (by
      rw [closing_split]
      simp)
    exact .inr ⟨member,by rw [← whole,append_assoc]⟩

theorem exact_iff (starts : opening.isPrefixOf path = true) (ends : closing.isSuffixOf path = true) :
    Exact path ↔ path ≠ overlapping := by
  constructor
  · rintro ⟨member,stripped,-⟩ rfl
    rw [stripped_overlapping] at stripped
    cases stripped
  · intro apart
    rcases quoted_cases starts ends with same | ⟨member,rfl⟩
    · exact absurd same apart
    · exact ⟨member,stripped_between,rfl⟩

theorem removalPath_quoted (comes : removalPath operation = some path) :
    opening.isPrefixOf path = true ∧ closing.isSuffixOf path = true := by
  unfold removalPath at comes
  split at comes
  · split at comes
    · split_ifs at comes with quoted
      cases comes
      simp only [Bool.and_eq_true] at quoted
      exact ⟨quoted.1.2,quoted.2⟩
    · cases comes
  · cases comes

theorem removes_only (removing : removes op = true) : replaces op = false ∧ adds op = false := by
  simp only [removes,Bool.or_eq_true,beq_iff_eq] at removing
  rcases removing with rfl | rfl
  · decide
  · decide

theorem removedMember_between : removedMember (opening ++ member ++ closing) = some ⟨member⟩ := by
  have starts : opening.isPrefixOf (opening ++ member ++ closing) = true :=
    isPrefixOf_iff_prefix.mpr ((prefix_append opening member).trans (prefix_append _ closing))
  have ends : closing.isSuffixOf (opening ++ member ++ closing) = true :=
    isSuffixOf_iff_suffix.mpr (suffix_append _ closing)
  have stripped : ((opening ++ member ++ closing).drop opening.length).dropLast.dropLast = member := by
    rw [append_assoc,drop_left,closing_split,← append_assoc,dropLast_concat,dropLast_concat]
  unfold opening closing at starts ends stripped ⊢
  simp only [removedMember,starts,ends,Bool.and_self,if_true,stripped]

theorem patchGroupPath_between (given : GroupAttributes) (removing : removes op = true) :
    patchGroupPath given op (opening ++ member ++ closing) value =
      .ok { given with members := given.members.filter fun other => other != ⟨member⟩ } := by
  obtain ⟨noReplace,noAdd⟩ := removes_only removing
  have erased : patchRemoval given op (opening ++ member ++ closing) =
      .ok { given with members := given.members.filter fun other => other != ⟨member⟩ } := by
    simp only [patchRemoval,removedMember_between,removing,if_true]
  simp only [patchGroupPath,noReplace,noAdd,Bool.false_and,Bool.or_self,Bool.false_eq_true,if_false]
  split <;> exact erased

theorem removal_erases (given : GroupAttributes) (comes : removalPath operation = some path)
    (between : path = opening ++ member ++ closing) :
    patchGroupOperation given operation = .ok { given with members := given.members.filter fun other => other != ⟨member⟩ } := by
  unfold removalPath at comes
  split at comes
  · split at comes
    · rename_i isOp isPath
      split_ifs at comes with quoted
      cases comes
      simp only [Bool.and_eq_true] at quoted
      simp only [patchGroupOperation,isOp,isPath]
      rw [between]
      exact patchGroupPath_between given quoted.1.1
    · cases comes
  · cases comes

-- The operations of a body strip their paths exactly as long as no path has one quote for two.
theorem removals_exact_iff (operations : List Json) :
    ((∀ operation ∈ operations,∀ path,removalPath operation = some path → Exact path) ↔
      ∀ operation ∈ operations,removalPath operation ≠ some overlapping) ∧
    ∀ operation ∈ operations,∀ path member,removalPath operation = some path → path = opening ++ member ++ closing →
      ∀ given,patchGroupOperation given operation = .ok { given with members := given.members.filter fun other => other != ⟨member⟩ } := by
  refine ⟨⟨?_,?_⟩,fun operation _ path member comes between given => removal_erases given comes between⟩
  · intro exactly operation inside comes
    obtain ⟨starts,ends⟩ := removalPath_quoted comes
    exact (exact_iff starts ends).mp (exactly operation inside overlapping comes) rfl
  · intro apart operation inside path comes
    obtain ⟨starts,ends⟩ := removalPath_quoted comes
    refine (exact_iff starts ends).mpr ?_
    rintro rfl
    exact apart operation inside comes

theorem overlapping_overdrawn :
    removalPath (.object [("op",.string "remove"),("path",.string "members[value eq \"]")]) = some overlapping ∧
      removePrefix opening.length overlapping = some (Text.of "]") ∧ removeSuffix 2 (Text.of "]") = none := by
  decide

end OpenProof.MemberPaths
