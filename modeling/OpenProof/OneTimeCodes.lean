import Mathlib.Data.List.Nodup
import Mathlib.Data.List.Induction

namespace OneTimeCodes
open List

inductive Event (I C : Type) where
  | issued (owner : I) (batch : List C)
  | consumed (owner : I) (code : C)
  | revoked (owner : I)

variable {I C : Type}

def Event.Closes (owner : I) : Event I C → Prop
  | .issued other _ => other = owner
  | .consumed .. => False
  | .revoked other => other = owner

def Event.codes : Event I C → List C
  | .issued _ batch => batch
  | .consumed .. => []
  | .revoked _ => []

def issuedCodes (events : List (Event I C)) : List C := events.flatMap Event.codes

variable [DecidableEq I] [DecidableEq C]

def Event.consumes (owner : I) : Event I C → Bool
  | .issued .. => false
  | .consumed other _ => other = owner
  | .revoked _ => false

def Event.uses (code : C) : Event I C → Bool
  | .issued .. => false
  | .consumed _ other => other = code
  | .revoked _ => false

def Event.leave (owner : I) (left : List C) : Event I C → List C
  | .issued other batch => if other = owner then batch else left
  | .consumed other code => if other = owner then left.erase code else left
  | .revoked other => if other = owner then [] else left

def held (owner : I) (events : List (Event I C)) : List C := events.foldl (Event.leave owner) []

def Lawful (events : List (Event I C)) : Prop :=
  ∀ before owner code after,events = before ++ .consumed owner code :: after → code ∈ held owner before

def Latest (owner : I) (code : C) (events : List (Event I C)) : Prop :=
  ∃ earlier batch later,events = earlier ++ .issued owner batch :: later ∧ code ∈ batch ∧
    ∀ event ∈ later,¬event.Closes owner ∧ event ≠ .consumed owner code

-- How many codes an owner should have left: those of the last batch but for what was consumed since,
-- and none before the first batch or after a revocation.
def Standing (owner : I) (events : List (Event I C)) (left : Nat) : Prop :=
  (∃ earlier batch later,events = earlier ++ .issued owner batch :: later ∧ (∀ event ∈ later,¬event.Closes owner) ∧
    left + later.countP (Event.consumes owner) = batch.length) ∨
  left = 0 ∧ ((∀ event ∈ events,¬event.Closes owner) ∨
    ∃ earlier later,events = earlier ++ .revoked owner :: later ∧ ∀ event ∈ later,¬event.Closes owner)

section
variable {owner : I} {code : C} {events : List (Event I C)} {event : Event I C}

theorem held_concat : held owner (events ++ [event]) = event.leave owner (held owner events) := by
  simp [held]

theorem consumed_sublist (owner other : I) (code : C) (left : List C) : ((Event.consumed owner code).leave other left).Sublist left := by
  rw [Event.leave]
  split
  · exact erase_sublist
  · exact .refl _

theorem consumed_perm (owner : I) {left : List C} (there : code ∈ left) :
    left.Perm (code :: (Event.consumed owner code).leave owner left) := by
  rw [Event.leave,if_pos rfl]
  exact perm_cons_erase there

omit [DecidableEq I] [DecidableEq C] in
theorem issuedCodes_concat : issuedCodes (events ++ [event]) = issuedCodes events ++ event.codes := by
  simp [issuedCodes]

theorem Lawful.nil : Lawful ([] : List (Event I C)) := by
  intro before owner code after split
  simp at split

theorem Lawful.start (lawful : Lawful (events ++ more)) : Lawful events := by
  intro before owner code after split
  exact lawful before owner code (after ++ more) (by simp [split])

theorem Lawful.last (lawful : Lawful (events ++ [.consumed owner code])) : code ∈ held owner events :=
  lawful events owner code [] rfl

theorem Lawful.concat (lawful : Lawful events)
    (permitted : ∀ owner code,event = .consumed owner code → code ∈ held owner events) : Lawful (events ++ [event]) := by
  intro before owner code after split
  rcases eq_nil_or_concat after with rfl | ⟨rest,last,rfl⟩
  · obtain ⟨rfl,same⟩ := append_inj' split rfl
    exact permitted owner code (singleton_inj.mp same)
  · rw [concat_eq_append,← cons_append,← append_assoc] at split
    obtain ⟨rfl,-⟩ := append_inj' split rfl
    exact lawful before owner code rest rfl

omit [DecidableEq I] [DecidableEq C] in
theorem Latest.concat (latest : Latest owner code events) (open_ : ¬event.Closes owner)
    (unused : event ≠ .consumed owner code) : Latest owner code (events ++ [event]) := by
  obtain ⟨earlier,batch,later,rfl,inside,since⟩ := latest
  refine ⟨earlier,batch,later ++ [event],by simp,inside,?_⟩
  intro other among
  rcases mem_append.mp among with before | now
  · exact since other before
  · cases mem_singleton.mp now
    exact ⟨open_,unused⟩

omit [DecidableEq C] in
theorem Standing.concat {next} (standing : Standing owner events left) (open_ : ¬event.Closes owner)
    (spent : next + (if event.consumes owner then 1 else 0) = left) : Standing owner (events ++ [event]) next := by
  have still : ∀ {later : List (Event I C)},(∀ other ∈ later,¬other.Closes owner) →
      ∀ other ∈ later ++ [event],¬other.Closes owner := by
    intro later before other among
    rcases mem_append.mp among with inside | now
    · exact before other inside
    · cases mem_singleton.mp now
      exact open_
  rcases standing with ⟨earlier,batch,later,rfl,since,count⟩ | ⟨rfl,never | ⟨earlier,later,rfl,since⟩⟩
  · refine .inl ⟨earlier,batch,later ++ [event],by simp,still since,?_⟩
    rw [countP_append,countP_singleton]
    omega
  · exact .inr ⟨by omega,.inl (still never)⟩
  · exact .inr ⟨by omega,.inr ⟨earlier,later ++ [event],by simp,still since⟩⟩

theorem held_standing (lawful : Lawful events) (owner : I) : Standing owner events (held owner events).length := by
  induction events using reverseRecOn with
  | nil => exact .inr ⟨rfl,.inl (by simp)⟩
  | append_singleton events event ih =>
    have before := ih lawful.start
    rw [held_concat]
    cases event with
    | issued other batch =>
      by_cases same : other = owner
      · subst same
        exact .inl ⟨events,batch,[],rfl,by simp,by simp [Event.leave]⟩
      · exact before.concat (by simpa [Event.Closes] using same) (by simp [Event.leave,Event.consumes,same])
    | revoked other =>
      by_cases same : other = owner
      · subst same
        exact .inr ⟨by simp [Event.leave],.inr ⟨events,[],rfl,by simp⟩⟩
      · exact before.concat (by simpa [Event.Closes] using same) (by simp [Event.leave,Event.consumes,same])
    | consumed other code =>
      apply before.concat (by simp [Event.Closes])
      by_cases same : other = owner
      · subst same
        have there := lawful.last
        have some_ := length_pos_of_mem there
        rw [Event.leave,if_pos rfl,length_erase_of_mem there,Event.consumes,decide_eq_true rfl,if_pos rfl]
        omega
      · simp [Event.leave,Event.consumes,same]

-- What is held was issued to this owner alone and not consumed yet; what was consumed had been issued.
structure Tidy (events : List (Event I C)) : Prop where
  distinct : ∀ owner,(held owner events).Nodup
  issued : ∀ owner,∀ code ∈ held owner events,code ∈ issuedCodes events
  unused : ∀ owner,∀ code ∈ held owner events,∀ event ∈ events,event.uses code = false
  own : ∀ owner other code,code ∈ held owner events → code ∈ held other events → owner = other
  used : ∀ code,∀ event ∈ events,event.uses code = true → code ∈ issuedCodes events
  latest : ∀ owner,∀ code ∈ held owner events,Latest owner code events

theorem Tidy.nil : Tidy ([] : List (Event I C)) := by
  constructor <;> simp [held]

theorem Tidy.shrink (tidy : Tidy events) (bare : event.codes = []) (open_ : ∀ owner,
    held owner (events ++ [event]) ≠ [] → ¬event.Closes owner)
    (less : ∀ owner,(held owner (events ++ [event])).Sublist (held owner events))
    (spent : ∀ owner,∀ code ∈ held owner (events ++ [event]),event.uses code = false)
    (paid : ∀ code,event.uses code = true → ∃ owner,code ∈ held owner events) : Tidy (events ++ [event]) := by
  have listed : issuedCodes (events ++ [event]) = issuedCodes events := by
    rw [issuedCodes_concat,bare,append_nil]
  constructor
  · exact fun owner => (tidy.distinct owner).sublist (less owner)
  · intro owner code inside
    rw [listed]
    exact tidy.issued owner code ((less owner).subset inside)
  · intro owner code inside other among
    rcases mem_append.mp among with before | now
    · exact tidy.unused owner code ((less owner).subset inside) other before
    · cases mem_singleton.mp now
      exact spent owner code inside
  · intro owner other code inside inside'
    exact tidy.own owner other code ((less owner).subset inside) ((less other).subset inside')
  · intro code other among uses
    rw [listed]
    rcases mem_append.mp among with before | now
    · exact tidy.used code other before uses
    · cases mem_singleton.mp now
      obtain ⟨owner,inside⟩ := paid code uses
      exact tidy.issued owner code inside
  · intro owner code inside
    apply (tidy.latest owner code ((less owner).subset inside)).concat (open_ owner (ne_nil_of_mem inside))
    rintro rfl
    have fresh := spent owner code inside
    simp [Event.uses] at fresh

theorem Tidy.issue {batch : List C} (tidy : Tidy events) (distinct : batch.Nodup) (fresh : ∀ code ∈ batch,code ∉ issuedCodes events) : Tidy (events ++ [.issued owner batch]) := by
  have listed : issuedCodes (events ++ [.issued owner batch]) = issuedCodes events ++ batch := issuedCodes_concat
  have kept : ∀ other,held other (events ++ [.issued owner batch]) = if owner = other then batch else held other events :=
    fun other => held_concat
  have cases_ : ∀ other code,code ∈ held other (events ++ [.issued owner batch]) →
      owner = other ∧ code ∈ batch ∨ owner ≠ other ∧ code ∈ held other events := by
    intro other code inside
    rw [kept] at inside
    split_ifs at inside with same
    · exact .inl ⟨same,inside⟩
    · exact .inr ⟨same,inside⟩
  constructor
  · intro other
    rw [kept]
    split
    · exact distinct
    · exact tidy.distinct other
  · intro other code inside
    rw [listed,mem_append]
    rcases cases_ other code inside with ⟨-,new⟩ | ⟨-,old⟩
    · exact .inr new
    · exact .inl (tidy.issued other code old)
  · intro other code inside event among
    rcases mem_append.mp among with before | now
    · rcases cases_ other code inside with ⟨-,new⟩ | ⟨-,old⟩
      · rw [← Bool.not_eq_true]
        intro uses
        exact fresh code new (tidy.used code event before uses)
      · exact tidy.unused other code old event before
    · cases mem_singleton.mp now
      rfl
  · intro one two code first second
    rcases cases_ one code first with ⟨rfl,new⟩ | ⟨apart,old⟩
    · rcases cases_ two code second with ⟨same,-⟩ | ⟨-,old⟩
      · exact same
      · exact absurd (tidy.issued two code old) (fresh code new)
    · rcases cases_ two code second with ⟨-,new⟩ | ⟨-,old'⟩
      · exact absurd (tidy.issued one code old) (fresh code new)
      · exact tidy.own one two code old old'
  · intro code event among uses
    rw [listed,mem_append]
    rcases mem_append.mp among with before | now
    · exact .inl (tidy.used code event before uses)
    · cases mem_singleton.mp now
      cases uses
  · intro other code inside
    rcases cases_ other code inside with ⟨rfl,new⟩ | ⟨apart,old⟩
    · exact ⟨events,batch,[],rfl,new,by simp⟩
    · exact (tidy.latest other code old).concat apart (by simp)

theorem tidy (lawful : Lawful events) (distinct : (issuedCodes events).Nodup) : Tidy events := by
  induction events using reverseRecOn with
  | nil => exact .nil
  | append_singleton events event ih =>
    rw [issuedCodes_concat] at distinct
    obtain ⟨earlier,batch,apart⟩ := nodup_append.mp distinct
    have before := ih lawful.start earlier
    cases event with
    | issued owner batch_ =>
      refine before.issue batch ?_
      intro code new old
      exact apart code old code new rfl
    | revoked owner =>
      have kept : ∀ other,held other (events ++ [.revoked owner]) = if owner = other then [] else held other events :=
        fun other => held_concat
      refine before.shrink rfl ?_ ?_ (fun _ _ _ => rfl) (fun _ uses => by cases uses)
      · intro other left closes
        have same : owner = other := closes
        exact left (by rw [kept,if_pos same])
      · intro other
        rw [kept]
        split
        · exact nil_sublist _
        · exact .refl _
    | consumed owner code =>
      have there := lawful.last
      have kept : ∀ other,held other (events ++ [.consumed owner code]) =
          if owner = other then (held other events).erase code else held other events := fun other => held_concat
      refine before.shrink rfl (fun _ _ => id) ?_ ?_ ?_
      · intro other
        rw [held_concat]
        exact consumed_sublist _ _ _ _
      · intro other code' inside
        rw [kept] at inside
        apply decide_eq_false
        rintro rfl
        split_ifs at inside with same
        · exact ((before.distinct other).not_mem_erase inside)
        · exact same (before.own owner other code there inside)
      · intro code' uses
        cases of_decide_eq_true uses
        exact ⟨owner,there⟩

theorem used_once (lawful : Lawful events) (distinct : (issuedCodes events).Nodup) (code : C) :
    events.countP (Event.uses code) ≤ 1 := by
  induction events using reverseRecOn with
  | nil => simp
  | append_singleton events event ih =>
    rw [issuedCodes_concat] at distinct
    have earlier := (nodup_append.mp distinct).1
    have before := ih lawful.start earlier
    rw [countP_append,countP_singleton]
    by_cases uses : event.uses code = true
    · have none_ : events.countP (Event.uses code) = 0 := by
        rw [countP_eq_zero]
        cases event with
        | issued | revoked => cases uses
        | consumed owner other =>
          cases of_decide_eq_true uses
          intro event among
          rw [(tidy lawful.start earlier).unused owner code lawful.last event among]
          simp
      simp [none_,uses]
    · rw [if_neg uses]
      exact before

end

end OneTimeCodes
