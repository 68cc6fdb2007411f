import OpenProof.CallLogs
import OpenProof.CallProtocols

namespace CallHistories
open AtomicPrograms CallTraces CallLogs CallProtocols

variable {Op : Type} {Ret : Op → Type} {Err α β W : Type}

def remembering (asks : List (Exchange Op Ret) → Op → Prop) : Protocol Op Ret (List (Exchange Op Ret)) where
  asks := asks
  after past op answer := past ++ [⟨op,answer⟩]

@[simp] theorem remembering_after (asks : List (Exchange Op Ret) → Op → Prop) (past : List (Exchange Op Ret)) (op : Op)
    (answer : Ret op) : (remembering asks).after past op answer = past ++ [⟨op,answer⟩] := rfl

section
variable {p rest : Prog Op Ret Err α}

theorem follows_trace (only : p.Only P) (asked : ∀ past op,P op → asks past op) :
    Follows (remembering asks) (fun later r => ∃ more,later = past ++ more ∧ Trace p more r) past p := by
  induction p generalizing past with
  | ret a => exact ⟨[],(List.append_nil past).symm,.ret a⟩
  | fail e => exact ⟨[],(List.append_nil past).symm,.fail e⟩
  | call op next ih =>
    refine ⟨asked past op only.1,fun answer => ?_⟩
    refine (ih answer (only.2 answer)).mono ?_
    rintro later r ⟨more,rfl,path⟩
    exact ⟨⟨op,answer⟩ :: more,List.append_assoc past _ more,.call answer path⟩

theorem follows_went (follows : Follows (remembering asks) ends [] p) (went : Went p past rest) :
    Follows (remembering asks) ends past rest := by
  induction went with
  | begun => exact follows
  | answered answer _ ih => exact ih.2 answer

end

def GoesOn (kind : Exchange Op Ret → Prop) (past later : List (Exchange Op Ret)) : Prop :=
  ∃ more,later = past ++ more ∧ ∀ exchange ∈ more,kind exchange

section

theorem GoesOn.same : GoesOn kind past past := ⟨[],(List.append_nil past).symm,List.forall_mem_nil _⟩

theorem GoesOn.trans (one : GoesOn kind past later) (two : GoesOn kind later last) : GoesOn kind past last := by
  obtain ⟨more,rfl,first⟩ := one
  obtain ⟨further,rfl,second⟩ := two
  refine ⟨more ++ further,List.append_assoc past more further,?_⟩
  intro exchange inside
  rcases List.mem_append.mp inside with old | new
  · exact first exchange old
  · exact second exchange new

theorem GoesOn.step (goes : GoesOn kind past later) (next : kind exchange) :
    GoesOn kind past (later ++ [exchange]) := goes.trans ⟨[exchange],rfl,List.forall_mem_singleton.mpr next⟩

theorem GoesOn.sublist (goes : GoesOn kind past later) : past.Sublist later := by
  obtain ⟨more,rfl,-⟩ := goes
  exact List.sublist_append_left past more

end

theorem pair_split {X : Type} {one two : X} {items : List X} (inside : [one,two].Sublist items) :
    ∃ first between after,items = first ++ one :: (between ++ two :: after) := by
  obtain ⟨early,late,rfl,before,rest⟩ := List.cons_sublist_iff.mp inside
  obtain ⟨first,middle,rfl⟩ := List.append_of_mem before
  obtain ⟨further,after,rfl⟩ := List.append_of_mem (List.singleton_sublist.mp rest)
  exact ⟨first,middle ++ further,after,by simp⟩

theorem triple_split {X : Type} {one two three : X} {items : List X} (inside : [one,two,three].Sublist items) :
    ∃ first between then_ after,items = first ++ one :: (between ++ two :: (then_ ++ three :: after)) := by
  obtain ⟨early,late,rfl,before,rest⟩ := List.cons_sublist_iff.mp inside
  obtain ⟨first,middle,rfl⟩ := List.append_of_mem before
  obtain ⟨further,then_,after,rfl⟩ := pair_split rest
  exact ⟨first,middle ++ further,then_,after,by simp⟩

theorem last_such {X : Type} (kind : X → Prop) {items : List X} (some_ : ∃ item ∈ items,kind item) :
    ∃ before item after,items = before ++ item :: after ∧ kind item ∧ ∀ later ∈ after,¬kind later := by
  induction items with
  | nil =>
    obtain ⟨_,impossible,_⟩ := some_
    cases impossible
  | cons head tail ih =>
    by_cases further : ∃ item ∈ tail,kind item
    · obtain ⟨before,item,after,rfl,here,last⟩ := ih further
      exact ⟨head :: before,item,after,rfl,here,last⟩
    · obtain ⟨item,member,here⟩ := some_
      rcases List.mem_cons.mp member with rfl | inside
      · exact ⟨[],item,tail,rfl,here,fun later present renewed => further ⟨later,present,renewed⟩⟩
      · exact absurd ⟨item,inside,here⟩ further

def Latest (tells kind : Exchange Op Ret → Prop) (log : List (Entry Op Ret W)) : Prop :=
  ∃ first,∃ entry : Entry Op Ret W,∃ rest,log = first ++ entry :: rest ∧ tells entry.exchange ∧ ∀ later ∈ rest,¬kind later.exchange

theorem Latest.here {tells kind : Exchange Op Ret → Prop} (log : List (Entry Op Ret W)) {entry : Entry Op Ret W}
    (holds : tells entry.exchange) : Latest tells kind (log ++ [entry]) := ⟨log,entry,[],rfl,holds,List.forall_mem_nil _⟩

theorem Latest.past {tells kind : Exchange Op Ret → Prop} {entry : Entry Op Ret W} (latest : Latest tells kind log)
    (other : ¬kind entry.exchange) : Latest tells kind (log ++ [entry]) := by
  obtain ⟨first,found,rest,rfl,holds,none_⟩ := latest
  refine ⟨first,found,rest ++ [entry],by simp,holds,?_⟩
  intro later inside
  rcases List.mem_append.mp inside with old | new
  · exact none_ later old
  · cases List.mem_singleton.mp new
    exact other

theorem split_order {X : Type} {one two : X} {first between before since : List X}
    (same : first ++ one :: between = before ++ two :: since) : two ∈ between ∨ two = one ∨ one ∈ since := by
  rcases List.append_eq_append_iff.mp same with ⟨more,rfl,rest⟩ | ⟨more,rfl,rest⟩
  · cases more with
    | nil => exact .inr (.inl (List.cons.inj rest).1.symm)
    | cons head tail =>
      obtain ⟨-,rfl⟩ := List.cons.inj rest
      exact .inl (List.mem_append_right _ List.mem_cons_self)
  · cases more with
    | nil => exact .inr (.inl (List.cons.inj rest).1)
    | cons head tail =>
      obtain ⟨-,rfl⟩ := List.cons.inj rest
      exact .inr (.inr (List.mem_append_right _ List.mem_cons_self))

theorem own_split {i : Nat} {log : List (Entry Op Ret W)} (mine : own i log = early ++ exchange :: late) : ∃ before entry after,log = before ++ entry :: after ∧
      entry.caller = i ∧ entry.exchange = exchange ∧ own i before = early ∧ own i after = late := by
  obtain ⟨front,back,rfl,first,rest⟩ := List.filterMap_eq_append_iff.mp mine
  obtain ⟨between,entry,after,rfl,none,told,last⟩ := List.filterMap_eq_cons_iff.mp rest
  have here : entry.caller = i ∧ entry.exchange = exchange := by
    split at told
    · rename_i caller
      exact ⟨caller,Option.some.inj told⟩
    · cases told
  refine ⟨front ++ between,entry,after,(List.append_assoc ..).symm,here.1,here.2,?_,last⟩
  have empty : own i between = [] := List.filterMap_eq_nil_iff.mpr none
  rw [own_append,empty,List.append_nil]
  exact first

section
variable {S : Stage Op Ret W} {initial : W} {floor : Floor Op Ret Err α W} {p rest : Prog Op Ret Err α} {i : Nat}

section
variable (played : Plays S initial floor)
include played

theorem Plays.exchanged (entry : Entry Op Ret W) (inside : entry ∈ floor.log) :
    (⟨entry.exchange.1,(S.exec entry.exchange.1 entry.found).1⟩ : Exchange Op Ret) = entry.exchange := by
  rw [← played.answered entry inside]

theorem Plays.before : ∀ before (entry : Entry _ _ _) after,floor.log = before ++ entry :: after →
    ∃ earlier : Floor Op Ret Err α W,Plays S initial earlier ∧ earlier.log = before ∧ earlier.world = entry.found ∧
      (∀ p rest,floor.members[entry.caller]? = some ⟨p,rest⟩ → ∃ next,
        earlier.members[entry.caller]? = some ⟨p,.call entry.exchange.1 next⟩) ∧
      ∀ m ∈ earlier.members,∃ later ∈ floor.members,later.begun = m.begun := by
  induction played with
  | start =>
    intro before entry after impossible
    simp at impossible
  | @move middle later played moved ih =>
    cases moved with
    | drift moved => exact ih
    | enter q =>
      intro before entry after shape
      obtain ⟨earlier,reached,same,found,member,begun⟩ := ih before entry after shape
      refine ⟨earlier,reached,same,found,?_,?_⟩
      · intro p rest known
        have logged : middle.log = before ++ entry :: after := shape
        have inside : entry.caller < middle.members.length := played.accounted.entered entry (by simp [logged])
        rw [List.getElem?_append_left inside] at known
        exact member p rest known
      · intro m inside
        obtain ⟨later,present,same⟩ := begun m inside
        exact ⟨later,List.mem_append_left _ present,same⟩
    | @act j q op next waiting =>
      have onward : ∀ m ∈ middle.members,∃ later ∈ middle.members.set j ⟨q,next (S.exec op middle.world).1⟩,
          later.begun = m.begun := by
        intro m inside
        obtain ⟨k,bound,rfl⟩ := List.getElem_of_mem inside
        refine ⟨_,List.getElem_mem (n := k) (by rwa [List.length_set]),?_⟩
        rw [List.getElem_set]
        split
        · rename_i here
          subst here
          rw [(List.getElem?_eq_some_iff.mp waiting).2]
        · rfl
      intro before entry after shape
      rcases List.eq_nil_or_concat after with rfl | ⟨after,last,rfl⟩
      · obtain ⟨rfl,same⟩ := List.append_inj' shape rfl
        cases same
        refine ⟨middle,played,rfl,rfl,?_,onward⟩
        intro p rest known
        have inside := (List.getElem?_eq_some_iff.mp waiting).1
        rw [List.getElem?_set_self inside] at known
        cases known
        exact ⟨next,waiting⟩
      · have split : before ++ entry :: after.concat last = (before ++ entry :: after) ++ [last] := by simp
        obtain ⟨earlier,-⟩ := List.append_inj' (shape.trans split) rfl
        obtain ⟨floor,reached,same,found,member,begun⟩ := ih before entry after earlier
        refine ⟨floor,reached,same,found,?_,?_⟩
        · intro p rest known
          by_cases mine : j = entry.caller
          · subst mine
            have inside := (List.getElem?_eq_some_iff.mp waiting).1
            rw [List.getElem?_set_self inside] at known
            cases known
            exact member _ _ waiting
          · rw [List.getElem?_set_ne mine] at known
            exact member p rest known
        · intro m inside
          obtain ⟨later,present,same⟩ := begun m inside
          obtain ⟨last,there,begun⟩ := onward later present
          exact ⟨last,there,begun.trans same⟩

theorem asked_then {entry : Entry _ _ _} (split : floor.log = before ++ entry :: after)
    (member : floor.members[entry.caller]? = some ⟨p,rest⟩) (follows : Follows (remembering asks) ends [] p) : asks (own entry.caller before) entry.exchange.1 := by
  obtain ⟨earlier,reached,rfl,-,known,-⟩ := Plays.before played before entry after split
  obtain ⟨next,waiting⟩ := known p rest member
  exact (follows_went follows (reached.accounted.went _ _ waiting)).1

theorem ended_then (finished : floor.members[i]? = some ⟨p,settled r⟩) : Trace p (own i floor.log) r := by
  have went := played.accounted.went _ _ finished
  have stopped : Trace (settled r : Prog Op Ret Err α) [] r := by
    cases r with
    | ok a => exact .ret a
    | error e => exact .fail e
  simpa using went.trace stopped

theorem kept_until (still : ∀ w w',S.drift w w' → φ w → φ w') {first between after : List (Entry Op Ret W)}
    (split : floor.log = first ++ one :: (between ++ two :: after)) (holds : φ (S.exec one.exchange.1 one.found).2)
    (kept : ∀ entry ∈ between,Keeping S φ entry) : φ two.found := by
  have shape : floor.log = (first ++ one :: between) ++ two :: after := by rw [split,List.append_assoc,List.cons_append]
  obtain ⟨earlier,reached,same,found,-⟩ := Plays.before played _ _ _ shape
  rw [← found]
  exact reached.since still first one between same holds kept

end

end

theorem takeTurns_all {later : Floor Op Ret Err α W} {P : Prog Op Ret Err α → Prop}
    (taken : takeTurns exec turns ⟨w,[],[]⟩ = some later) (entered : ∀ p ∈ turns.filterMap Turn.entered,P p) : ∀ m ∈ later.members,P m.begun := by
  intro m inside
  apply entered
  rw [← List.nil_append (turns.filterMap Turn.entered)]
  exact (takeTurns_begun taken) ▸ List.mem_map_of_mem inside

end CallHistories
