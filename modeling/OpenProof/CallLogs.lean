import Mathlib.Data.List.Induction
import OpenProof.CallTraces

namespace CallLogs
open AtomicPrograms CallTraces List Option

variable {Op : Type} {Ret : Op → Type} {Err α W : Type}

structure Entry (Op : Type) (Ret : Op → Type) (W : Type) where
  caller : Nat
  found : W
  exchange : Exchange Op Ret

structure Member (Op : Type) (Ret : Op → Type) (Err α : Type) where
  begun : Prog Op Ret Err α
  rest : Prog Op Ret Err α

structure Floor (Op : Type) (Ret : Op → Type) (Err α W : Type) where
  world : W
  members : List (Member Op Ret Err α)
  log : List (Entry Op Ret W)

structure Stage (Op : Type) (Ret : Op → Type) (W : Type) where
  exec : (op : Op) → W → Ret op × W
  drift : W → W → Prop

inductive Moves (S : Stage Op Ret W) : Floor Op Ret Err α W → Floor Op Ret Err α W → Prop where
  | enter {floor : Floor Op Ret Err α W} (p : Prog Op Ret Err α) :
      Moves S floor { floor with members := floor.members ++ [⟨p,p⟩] }
  | act {floor : Floor Op Ret Err α W} {i : Nat} {p : Prog Op Ret Err α} {op : Op} {next : Ret op → Prog Op Ret Err α}
      (waiting : floor.members[i]? = some ⟨p,.call op next⟩) :
      Moves S floor ⟨(S.exec op floor.world).2,floor.members.set i ⟨p,next (S.exec op floor.world).1⟩,
        floor.log ++ [⟨i,floor.world,⟨op,(S.exec op floor.world).1⟩⟩]⟩
  | drift {floor : Floor Op Ret Err α W} {w : W} (moved : S.drift floor.world w) :
      Moves S floor { floor with world := w }

inductive Plays (S : Stage Op Ret W) (initial : W) : Floor Op Ret Err α W → Prop where
  | start : Plays S initial ⟨initial,[],[]⟩
  | move {next} : Plays S initial floor → Moves S floor next → Plays S initial next

inductive Went (p : Prog Op Ret Err α) : List (Exchange Op Ret) → Prog Op Ret Err α → Prop where
  | begun : Went p [] p
  | answered {done : List (Exchange Op Ret)} {op : Op} {next : Ret op → Prog Op Ret Err α} (answer : Ret op) :
      Went p done (.call op next) → Went p (done ++ [⟨op,answer⟩]) (next answer)

def own (i : Nat) (log : List (Entry Op Ret W)) : List (Exchange Op Ret) :=
  log.filterMap fun entry => if entry.caller = i then some entry.exchange else none

section
variable {S : Stage Op Ret W} {initial : W} {floor next : Floor Op Ret Err α W} {p rest : Prog Op Ret Err α}

theorem Went.trace (went : Went p done rest) (path : Trace rest more r) : Trace p (done ++ more) r := by
  induction went generalizing more with
  | begun => exact path
  | answered answer _ ih =>
    rw [append_assoc]
    exact ih (.call answer path)

theorem Went.only (went : Went p done rest) (only : p.Only P) : rest.Only P ∧ ∀ exchange ∈ done,P exchange.1 := by
  induction went with
  | begun => exact ⟨only,forall_mem_nil _⟩
  | answered answer _ ih =>
    refine ⟨ih.1.2 answer,?_⟩
    intro exchange member
    rcases mem_append.mp member with old | new
    · exact ih.2 exchange old
    · cases mem_singleton.mp new
      exact ih.1.1

theorem own_filter (i : Nat) (log : List (Entry Op Ret W)) :
    own i log = (log.filter fun entry => entry.caller = i).map Entry.exchange := by
  induction log with
  | nil => rfl
  | cons entry log ih => by_cases mine : entry.caller = i <;> simp_all [own]

theorem sublist_own (inside : steps.Sublist (own i log)) :
    ∃ entries : List (Entry Op Ret W),entries.Sublist log ∧ (∀ entry ∈ entries,entry.caller = i) ∧
      entries.map Entry.exchange = steps := by
  rw [own_filter] at inside
  obtain ⟨entries,chosen,rfl⟩ := sublist_map_iff.mp inside
  refine ⟨entries,chosen.trans filter_sublist,?_,rfl⟩
  intro entry member
  simpa using (mem_filter.mp (chosen.subset member)).2

theorem mem_own {i : Nat} {log : List (Entry Op Ret W)} {exchange : Exchange Op Ret} :
    exchange ∈ own i log ↔ ∃ entry ∈ log,entry.caller = i ∧ entry.exchange = exchange := by
  rw [own_filter]
  simp [and_assoc]

theorem own_append (i : Nat) (log more : List (Entry Op Ret W)) : own i (log ++ more) = own i log ++ own i more :=
  filterMap_append

theorem own_mine (i : Nat) (w : W) (exchange : Exchange Op Ret) : own i [⟨i,w,exchange⟩] = [exchange] := by
  simp [own]

theorem own_other (other : j ≠ i) (w : W) (exchange : Exchange Op Ret) : own i [⟨j,w,exchange⟩] = [] := by
  simp [own,other]

theorem Plays.answered (played : Plays S initial floor) :
    ∀ entry ∈ floor.log,entry.exchange.2 = (S.exec entry.exchange.1 entry.found).1 := by
  induction played with
  | start => exact forall_mem_nil _
  | move _ moved ih =>
    cases moved with
    | enter | drift => exact ih
    | act waiting =>
      intro entry member
      rcases mem_append.mp member with old | new
      · exact ih entry old
      · cases mem_singleton.mp new
        rfl

-- What a call has done is in the log, and nobody has done anything who has not entered.
structure Accounted (floor : Floor Op Ret Err α W) : Prop where
  entered : ∀ entry ∈ floor.log,entry.caller < floor.members.length
  went : ∀ i m,floor.members[i]? = some m → Went m.begun (own i floor.log) m.rest

theorem Accounted.move (accounted : Accounted floor) (moved : Moves S floor next) : Accounted next := by
  cases moved with
  | drift moved => exact ⟨accounted.entered,accounted.went⟩
  | enter p =>
    constructor
    · intro entry member
      rw [List.length_append]
      exact Nat.lt_add_right _ (accounted.entered entry member)
    · intro i m found
      rcases Nat.lt_or_ge i floor.members.length with old | new
      · rw [List.getElem?_append_left old] at found
        exact accounted.went i m found
      · have here : i - floor.members.length = 0 := by
          have known := (List.getElem?_eq_some_iff.mp found).1
          rw [List.length_append,List.length_singleton] at known
          omega
        rw [List.getElem?_append_right new,here] at found
        cases found
        have silent : own i floor.log = [] := by
          apply List.filterMap_eq_nil_iff.mpr
          intro entry member
          apply if_neg
          rintro rfl
          exact absurd (accounted.entered entry member) (Nat.not_lt.mpr new)
        rw [silent]
        exact .begun
  | @act j p op rest waiting =>
    have inside := (List.getElem?_eq_some_iff.mp waiting).1
    constructor
    · intro entry member
      rw [List.length_set]
      rcases List.mem_append.mp member with old | new
      · exact accounted.entered entry old
      · cases List.mem_singleton.mp new
        exact inside
    · intro i m found
      dsimp only at found ⊢
      rw [own_append]
      by_cases here : j = i
      · subst here
        rw [List.getElem?_set_self inside] at found
        cases found
        rw [own_mine]
        exact .answered _ (accounted.went j _ waiting)
      · rw [List.getElem?_set_ne here] at found
        rw [own_other here,List.append_nil]
        exact accounted.went i m found

theorem Plays.accounted (played : Plays S initial floor) : Accounted floor := by
  induction played with
  | start => exact ⟨forall_mem_nil _,nofun⟩
  | move _ moved ih => exact ih.move moved

theorem Plays.returned (played : Plays S initial floor) (finished : floor.members[i]? = some ⟨p,.ret a⟩) : Trace p (own i floor.log) (.ok a) := by
  have path := (played.accounted.went i _ finished).trace (.ret a)
  rwa [append_nil] at path

theorem Plays.only (played : Plays S initial floor) (member : floor.members[i]? = some ⟨p,rest⟩) (only : p.Only P) :
    ∀ entry ∈ floor.log,entry.caller = i → P entry.exchange.1 := by
  intro entry inside mine
  apply ((played.accounted.went i _ member).only only).2
  exact mem_filterMap.mpr ⟨entry,inside,if_pos mine⟩

end

-- Something that can be taken only while it is there: who takes it leaves a world
-- without it, and only a renewal brings it back.
structure Once (S : Stage Op Ret W) (taken renewed : Exchange Op Ret → Prop) (spent : W → Prop) : Prop where
  spends : ∀ op w,taken ⟨op,(S.exec op w).1⟩ → ¬spent w ∧ spent (S.exec op w).2
  lasts : ∀ op w,spent w → ¬renewed ⟨op,(S.exec op w).1⟩ → spent (S.exec op w).2
  still : ∀ w w',S.drift w w' → spent w → spent w'

section
variable {S : Stage Op Ret W} {initial : W} {floor : Floor Op Ret Err α W}

def Spent (taken renewed : Exchange Op Ret → Prop) (log : List (Entry Op Ret W)) : Prop :=
  ∃ before,∃ entry : Entry Op Ret W,∃ after,log = before ++ entry :: after ∧ taken entry.exchange ∧
    ∀ later ∈ after,¬renewed later.exchange

theorem Once.spent (once : Once S taken renewed gone) (played : Plays S initial floor)
    (before : Spent taken renewed floor.log) : gone floor.world := by
  induction played with
  | start =>
    obtain ⟨_,_,_,impossible,_⟩ := before
    simp at impossible
  | @move middle next played moved ih =>
    cases moved with
    | enter p => exact ih before
    | drift moved => exact once.still _ _ moved (ih before)
    | @act i p op rest waiting =>
      obtain ⟨first,entry,after,shape,took,unrenewed⟩ := before
      rcases eq_nil_or_concat after with rfl | ⟨after,last,rfl⟩
      · obtain ⟨-,same⟩ := append_inj' shape rfl
        cases same
        exact (once.spends op _ took).2
      · rw [concat_eq_append,← cons_append,← append_assoc] at shape
        obtain ⟨earlier,same⟩ := append_inj' shape rfl
        cases same
        rw [concat_eq_append] at unrenewed
        have kept := ih ⟨first,entry,after,earlier,took,fun later member =>
          unrenewed later (mem_append_left _ member)⟩
        exact once.lasts op _ kept (unrenewed _ (mem_append_right _ mem_cons_self))

theorem Once.twice (once : Once S taken renewed gone) (played : Plays S initial floor) :
    ∀ before (one : Entry _ _ _) (between : List (Entry _ _ _)) (two : Entry _ _ _) after,floor.log = before ++ one :: (between ++ two :: after) →
      taken one.exchange → taken two.exchange → ∃ entry ∈ between,renewed entry.exchange := by
  induction played with
  | start =>
    intro before one between two after impossible
    simp at impossible
  | @move middle next played moved ih =>
    cases moved with
    | enter | drift => exact ih
    | @act i p op rest waiting =>
      intro before one between two after shape first second
      rcases eq_nil_or_concat after with rfl | ⟨after,last,rfl⟩
      · have split : before ++ one :: (between ++ [two]) = (before ++ one :: between) ++ [two] := by simp
        obtain ⟨earlier,same⟩ := append_inj' (shape.trans split) rfl
        cases same
        by_contra unrenewed
        have spent := once.spent played ⟨before,one,between,earlier,first,
          fun later member renewed => unrenewed ⟨later,member,renewed⟩⟩
        exact (once.spends op _ second).1 spent
      · have split : before ++ one :: (between ++ two :: (after.concat last)) =
            (before ++ one :: (between ++ two :: after)) ++ [last] := by simp
        obtain ⟨earlier,-⟩ := append_inj' (shape.trans split) rfl
        exact ih before one between two after earlier first second

end

structure Stocked {X : Type} (S : Stage Op Ret W) (put : Exchange Op Ret → X → Prop) (stocks : W → X → Prop) : Prop where
  brought : ∀ op w x,stocks (S.exec op w).2 x → stocks w x ∨ put ⟨op,(S.exec op w).1⟩ x
  still : ∀ w w' x,S.drift w w' → stocks w' x → stocks w x

section
variable {X : Type} {S : Stage Op Ret W} {initial : W} {floor : Floor Op Ret Err α W}

theorem Stocked.origin (stocked : Stocked S put stocks) (played : Plays S initial floor)
    (there : stocks floor.world x) : stocks initial x ∨ ∃ entry ∈ floor.log,put entry.exchange x := by
  induction played with
  | start => exact .inl there
  | move _ moved ih =>
    cases moved with
    | enter p => exact ih there
    | drift moved => exact ih (stocked.still _ _ _ moved there)
    | act waiting =>
      rcases stocked.brought _ _ _ there with before | here
      · rcases ih before with old | ⟨entry,member,brought⟩
        · exact .inl old
        · exact .inr ⟨entry,mem_append_left _ member,brought⟩
      · exact .inr ⟨_,mem_append_right _ mem_cons_self,here⟩

theorem Stocked.before (stocked : Stocked S put stocks) (played : Plays S initial floor) :
    ∀ (first : List (Entry _ _ _)) (entry : Entry _ _ _) rest,floor.log = first ++ entry :: rest → stocks entry.found x →
      stocks initial x ∨ ∃ earlier ∈ first,put earlier.exchange x := by
  induction played with
  | start =>
    intro first entry rest impossible
    simp at impossible
  | @move middle next played moved ih =>
    cases moved with
    | enter | drift => exact ih
    | @act i p op rest waiting =>
      intro first entry after shape there
      rcases eq_nil_or_concat after with rfl | ⟨after,last,rfl⟩
      · obtain ⟨earlier,same⟩ := append_inj' shape rfl
        cases same
        rw [← earlier]
        exact stocked.origin played there
      · have split : first ++ entry :: after.concat last = (first ++ entry :: after) ++ [last] := by simp
        obtain ⟨earlier,-⟩ := append_inj' (shape.trans split) rfl
        exact ih first entry after earlier there

end

section
variable {S : Stage Op Ret W} {initial : W} {floor : Floor Op Ret Err α W}

def Keeping (S : Stage Op Ret W) (φ : W → Prop) (entry : Entry Op Ret W) : Prop :=
  φ entry.found → φ (S.exec entry.exchange.1 entry.found).2

theorem Plays.always (played : Plays S initial floor) (still : ∀ w w',S.drift w w' → φ w → φ w') (holds : φ initial)
    (kept : ∀ entry ∈ floor.log,Keeping S φ entry) : φ floor.world ∧ ∀ entry ∈ floor.log,φ entry.found := by
  induction played with
  | start => exact ⟨holds,forall_mem_nil _⟩
  | move _ moved ih =>
    cases moved with
    | enter p => exact ih kept
    | drift moved =>
      obtain ⟨now,before⟩ := ih kept
      exact ⟨still _ _ moved now,before⟩
    | act waiting =>
      obtain ⟨now,before⟩ := ih fun entry member => kept entry (mem_append_left _ member)
      refine ⟨kept _ (mem_append_right _ mem_cons_self) now,?_⟩
      intro entry member
      rcases mem_append.mp member with old | new
      · exact before entry old
      · cases mem_singleton.mp new
        exact now

theorem Plays.since (played : Plays S initial floor) (still : ∀ w w',S.drift w w' → φ w → φ w') :
    ∀ first entry rest,floor.log = first ++ entry :: rest → φ (S.exec entry.exchange.1 entry.found).2 →
      (∀ later ∈ rest,Keeping S φ later) → φ floor.world := by
  induction played with
  | start =>
    intro first entry rest impossible
    simp at impossible
  | move played moved ih =>
    cases moved with
    | enter p => exact ih
    | drift moved =>
      intro first entry rest shape holds kept
      exact still _ _ moved (ih first entry rest shape holds kept)
    | act waiting =>
      intro first entry rest shape holds kept
      rcases eq_nil_or_concat rest with rfl | ⟨rest,last,rfl⟩
      · obtain ⟨-,same⟩ := append_inj' shape rfl
        cases same
        exact holds
      · have split : first ++ entry :: rest.concat last = (first ++ entry :: rest) ++ [last] := by simp
        obtain ⟨earlier,same⟩ := append_inj' (shape.trans split) rfl
        cases same
        rw [concat_eq_append] at kept
        have before := ih first entry rest earlier holds fun later member =>
          kept later (mem_append_left _ member)
        exact kept _ (mem_append_right _ mem_cons_self) before

end

def settled : Except Err α → Prog Op Ret Err α
  | .ok a => .ret a
  | .error e => .fail e

def ended : Prog Op Ret Err α → Option (Except Err α)
  | .ret a => some (.ok a)
  | .fail e => some (.error e)
  | .call .. => none

theorem ended_settled {p : Prog Op Ret Err α} (done : ended p = some r) : p = settled r := by
  cases p with
  | ret a =>
    cases done
    rfl
  | fail e =>
    cases done
    rfl
  | call op next => cases done

def alone (exec : (op : Op) → W → Ret op × W) (i : Nat) : Prog Op Ret Err α → W → List (Entry Op Ret W)
  | .ret _,_ => []
  | .fail _,_ => []
  | .call op next,w => ⟨i,w,⟨op,(exec op w).1⟩⟩ :: alone exec i (next (exec op w).1) (exec op w).2

section
variable {S : Stage Op Ret W} {initial : W}

theorem set_known {members : List (Member Op Ret Err α)} (known : members[i]? = some m) : members.set i m = members := by
  obtain ⟨inside,rfl⟩ := List.getElem?_eq_some_iff.mp known
  exact List.set_getElem_self inside

theorem Plays.finish {p : Prog Op Ret Err α} (rest : Prog Op Ret Err α) {members : List (Member Op Ret Err α)}
    (played : Plays S initial ⟨w,members,log⟩) (waiting : members[i]? = some ⟨p,rest⟩) :
    Plays S initial ⟨(rest.run S.exec w).2,members.set i ⟨p,settled (rest.run S.exec w).1⟩,
      log ++ alone S.exec i rest w⟩ := by
  induction rest generalizing w members log with
  | ret a =>
    have same : members.set i ⟨p,settled ((.ret a : Prog Op Ret Err α).run S.exec w).1⟩ = members :=
      set_known waiting
    rw [same]
    simpa [alone,Prog.run] using played
  | fail e =>
    have same : members.set i ⟨p,settled ((.fail e : Prog Op Ret Err α).run S.exec w).1⟩ = members :=
      set_known waiting
    rw [same]
    simpa [alone,Prog.run] using played
  | call op next ih =>
    have inside := (List.getElem?_eq_some_iff.mp waiting).1
    have onward := ih (S.exec op w).1 (played.move (.act waiting)) (List.getElem?_set_self inside)
    simpa [alone,Prog.run] using onward

end

inductive Turn (Op : Type) (Ret : Op → Type) (Err α W : Type) where
  | enter (p : Prog Op Ret Err α)
  | act (i : Nat)
  | drift (change : W → W)

def Turn.take (exec : (op : Op) → W → Ret op × W) (floor : Floor Op Ret Err α W) :
    Turn Op Ret Err α W → Option (Floor Op Ret Err α W)
  | .enter p => some { floor with members := floor.members ++ [⟨p,p⟩] }
  | .act i =>
    match floor.members[i]? with
    | some ⟨p,.call op next⟩ => some ⟨(exec op floor.world).2,floor.members.set i ⟨p,next (exec op floor.world).1⟩,
        floor.log ++ [⟨i,floor.world,⟨op,(exec op floor.world).1⟩⟩]⟩
    | _ => none
  | .drift change => some { floor with world := change floor.world }

def takeTurns (exec : (op : Op) → W → Ret op × W) (turns : List (Turn Op Ret Err α W)) (floor : Floor Op Ret Err α W) :
    Option (Floor Op Ret Err α W) := turns.foldlM (Turn.take exec) floor

def steps (i count : Nat) : List (Turn Op Ret Err α W) := List.replicate count (.act i)

def Turn.Allowed (S : Stage Op Ret W) : Turn Op Ret Err α W → Prop
  | .drift change => ∀ w,S.drift w (change w)
  | _ => True

section
variable {S : Stage Op Ret W} {initial : W} {floor later : Floor Op Ret Err α W}

theorem Turn.take_moves {turn : Turn Op Ret Err α W} (allowed : turn.Allowed S)
    (taken : turn.take S.exec floor = some later) : Moves S floor later := by
  cases turn with
  | enter p =>
    cases taken
    exact .enter p
  | act i =>
    simp only [Turn.take] at taken
    split at taken
    · rename_i waiting
      cases taken
      exact .act waiting
    · cases taken
  | drift change =>
    cases taken
    exact .drift (allowed floor.world)

def Turn.entered : Turn Op Ret Err α W → Option (Prog Op Ret Err α)
  | .enter p => some p
  | _ => none

theorem Turn.take_begun {turn : Turn Op Ret Err α W} (taken : turn.take exec floor = some later) :
    later.members.map Member.begun = floor.members.map Member.begun ++ turn.entered.toList := by
  cases turn with
  | enter p =>
    cases taken
    exact List.map_append
  | act i =>
    simp only [Turn.take] at taken
    split at taken
    · rename_i p op next waiting
      cases taken
      obtain ⟨inside,known⟩ := List.getElem?_eq_some_iff.mp waiting
      have bound : i < (floor.members.map Member.begun).length := by rwa [List.length_map]
      have same : p = (floor.members.map Member.begun)[i] := by rw [List.getElem_map,known]
      simp only [List.map_set,Turn.entered,toList_none,List.append_nil]
      rw [same]
      exact List.set_getElem_self _
    · cases taken
  | drift change =>
    cases taken
    exact (List.append_nil _).symm

theorem takeTurns_begun (taken : takeTurns exec turns floor = some later) :
    later.members.map Member.begun = floor.members.map Member.begun ++ turns.filterMap Turn.entered := by
  induction turns generalizing floor with
  | nil =>
    cases taken
    exact (append_nil _).symm
  | cons turn rest ih =>
    simp only [takeTurns,foldlM_cons,bind_eq_bind,bind_eq_some_iff] at taken
    obtain ⟨next,first,further⟩ := taken
    rw [ih further,Turn.take_begun first,append_assoc]
    cases turn <;> rfl

theorem takeTurns_member {i : Nat} (taken : takeTurns exec turns ⟨w,[],[]⟩ = some later)
    (found : later.members[i]? = some m) : (turns.filterMap Turn.entered)[i]? = some m.begun := by
  have mapped := congrArg (Option.map Member.begun) found
  rwa [← getElem?_map,takeTurns_begun taken,map_nil,nil_append] at mapped

theorem takeTurns_ended {i : Nat} {p : Prog Op Ret Err α} (taken : takeTurns exec turns ⟨w,[],[]⟩ = some later)
    (mine : (turns.filterMap Turn.entered)[i]? = some p)
    (holds : (later.members[i]?.bind fun m => ended m.rest).any goal = true) :
    ∃ r,later.members[i]? = some ⟨p,settled r⟩ ∧ goal r = true := by
  obtain ⟨r,done,reached⟩ := (any_eq_true _ _).mp holds
  obtain ⟨m,found,same⟩ := bind_eq_some_iff.mp done
  have begun := (takeTurns_member taken found).symm.trans mine
  refine ⟨r,?_,reached⟩
  rw [found,← ended_settled same,← Option.some.inj begun]

theorem Plays.turns {turns : List (Turn Op Ret Err α W)} (played : Plays S initial floor)
    (allowed : ∀ turn ∈ turns,turn.Allowed S) (taken : takeTurns S.exec turns floor = some later) :
    Plays S initial later := by
  induction turns generalizing floor with
  | nil =>
    cases taken
    exact played
  | cons turn rest ih =>
    simp only [takeTurns,foldlM_cons,bind_eq_bind,bind_eq_some_iff] at taken
    obtain ⟨next,first,further⟩ := taken
    have moved := Turn.take_moves (allowed turn mem_cons_self) first
    exact ih (played.move moved) (fun later member => allowed later (mem_cons_of_mem turn member)) further

end

end CallLogs
