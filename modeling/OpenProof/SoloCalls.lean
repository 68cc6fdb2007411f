import OpenProof.CallLogs

namespace SoloCalls
open AtomicPrograms CallLogs

variable {Op : Type} {Ret : Op → Type} {Err α β W : Type}

-- A call with no other call beside it; what surrounds it may move before each operation.
inductive Solo (S : Stage Op Ret W) : Prog Op Ret Err α → W → Except Err α → W → Prop where
  | ret (a : α) (w : W) : Solo S (.ret a) w (.ok a) w
  | fail (e : Err) (w : W) : Solo S (.fail e) w (.error e) w
  | call {op : Op} {next : Ret op → Prog Op Ret Err α} {w v later : W} {r : Except Err α} (moved : S.drift w v) :
      Solo S (next (S.exec op v).1) (S.exec op v).2 r later → Solo S (.call op next) w r later

def Ends (S : Stage Op Ret W) (p : Prog Op Ret Err α) (w : W) (post : Except Err α → W → Prop) : Prop :=
  ∀ r later,Solo S p w r later → post r later

section
variable {S : Stage Op Ret W} {w later : W} {f : α → Prog Op Ret Err β} {ends : Except Err β → W → Prop}

theorem Ends.ret (holds : post (.ok a) w) : Ends S (.ret a : Prog Op Ret Err α) w post := by
  intro r later path
  cases path
  exact holds

theorem Ends.fail (holds : post (.error e) w) : Ends S (.fail e : Prog Op Ret Err α) w post := by
  intro r later path
  cases path
  exact holds

theorem Ends.ask {f : Ret op → Prog Op Ret Err β}
    (rest : ∀ v,S.drift w v → Ends S (f (S.exec op v).1) (S.exec op v).2 ends) :
    Ends S ((Prog.perform op).bind f) w ends := by
  intro r later path
  cases path with
  | call moved further => exact rest _ moved r later further

theorem Solo.bind_cases (path : Solo S (p.bind f) w r later) :
    (∃ a middle,Solo S p w (.ok a) middle ∧ Solo S (f a) middle r later) ∨
      ∃ e,r = .error e ∧ Solo S p w (.error e) later := by
  induction p generalizing w with
  | ret a => exact .inl ⟨a,w,.ret a w,path⟩
  | fail e =>
    cases path
    exact .inr ⟨e,rfl,.fail e _⟩
  | call op next ih =>
    cases path with
    | call moved further =>
      rcases ih _ further with ⟨a,middle,before,after⟩ | ⟨e,rfl,failed⟩
      · exact .inl ⟨a,middle,.call moved before,after⟩
      · exact .inr ⟨e,rfl,.call moved failed⟩

theorem Ends.bind (first : Ends S p w post) (rest : ∀ a middle,post (.ok a) middle → Ends S (f a) middle ends)
    (stops : ∀ e middle,post (.error e) middle → ends (.error e) middle) : Ends S (p.bind f) w ends := by
  intro r later path
  rcases path.bind_cases with ⟨a,middle,before,after⟩ | ⟨e,rfl,failed⟩
  · exact rest a middle (first _ _ before) r later after
  · exact stops e later (first _ _ failed)

theorem Ends.check {f : α → Prog Op Ret Err β} (rest : ∀ a,result = .ok a → Ends S (f a) w ends)
    (stops : ∀ e,result = .error e → ends (.error e) w) : Ends S ((Prog.check result).bind f) w ends := by
  cases result with
  | ok a => exact rest a rfl
  | error e => exact .fail (stops e rfl)

theorem Ends.refuseIf {f : Unit → Prog Op Ret Err β} (rest : condition = false → Ends S (f ()) w ends)
    (stops : condition = true → ends (.error error) w) : Ends S ((Prog.refuseIf condition error).bind f) w ends := by
  cases condition with
  | true => exact .fail (stops rfl)
  | false => exact rest rfl

theorem Ends.attempt {Err' : Type} (holds : Ends S p w post) :
    Ends S (p.attempt : Prog Op Ret Err' (Except Err α)) w fun r later => ∃ outcome,r = .ok outcome ∧ post outcome later := by
  induction p generalizing w with
  | ret a => exact .ret ⟨_,rfl,holds _ _ (.ret a w)⟩
  | fail e => exact .ret ⟨_,rfl,holds _ _ (.fail e w)⟩
  | call op next ih =>
    intro r later path
    cases path with
    | call moved further => exact ih _ (fun r later path => holds r later (.call moved path)) r later further

theorem Ends.mono (holds : Ends S p w post) (weaken : ∀ r later,post r later → weaker r later) : Ends S p w weaker :=
  fun r later path => weaken r later (holds r later path)

theorem solo_run (still : ∀ w,S.drift w w) : Solo S p w (p.run S.exec w).1 (p.run S.exec w).2 := by
  induction p generalizing w with
  | ret a => exact .ret a w
  | fail e => exact .fail e w
  | call op next ih => exact .call (still w) (ih _)

def through (exec : (op : Op) → W → Ret op × W) : Prog Op Ret Err α → List (W → W) → W → Except Err α × W
  | .ret a,_,w => (.ok a,w)
  | .fail e,_,w => (.error e,w)
  | .call op next,changes,w =>
    let v := changes.head?.elim w fun change => change w
    through exec (next (exec op v).1) changes.tail (exec op v).2

theorem solo_through (still : ∀ w,S.drift w w) (allowed : ∀ change ∈ changes,∀ w,S.drift w (change w)) :
    Solo S p w (through S.exec p changes w).1 (through S.exec p changes w).2 := by
  induction p generalizing w changes with
  | ret a => exact .ret a w
  | fail e => exact .fail e w
  | call op next ih =>
    have moved : S.drift w (changes.head?.elim w fun change => change w) := by
      cases changes with
      | nil => exact still w
      | cons change rest => exact allowed change List.mem_cons_self w
    exact .call moved (ih _ fun change inside => allowed change (List.mem_of_mem_tail inside))

end

end SoloCalls
