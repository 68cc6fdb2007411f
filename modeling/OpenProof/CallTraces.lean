import OpenProof.AtomicPrograms

namespace CallTraces
open AtomicPrograms

variable {Op : Type} {Ret : Op → Type} {Err α β W : Type}

-- One operation of a call and the answer it got.
abbrev Exchange (Op : Type) (Ret : Op → Type) := (op : Op) × Ret op

theorem executed_as {exec : (op : Op) → W → Ret op × W} {w : W} {op op' : Op} {answer : Ret op'}
    (same : (⟨op,(exec op w).1⟩ : Exchange Op Ret) = ⟨op',answer⟩) : op = op' ∧ (exec op' w).1 = answer := by
  obtain rfl : op = op' := congrArg Sigma.fst same
  cases same
  exact ⟨rfl,rfl⟩

-- What a call may do, whatever it is answered.
inductive Trace : Prog Op Ret Err α → List (Exchange Op Ret) → Except Err α → Prop where
  | ret (a : α) : Trace (.ret a) [] (.ok a)
  | fail (e : Err) : Trace (.fail e) [] (.error e)
  | call {op : Op} {next : Ret op → Prog Op Ret Err α} {rest : List (Exchange Op Ret)} {r : Except Err α}
      (answer : Ret op) : Trace (next answer) rest r → Trace (.call op next) (⟨op,answer⟩ :: rest) r

section
variable {p : Prog Op Ret Err α} {f : α → Prog Op Ret Err β} {trace : List (Exchange Op Ret)}

theorem Trace.bind (before : Trace p first (.ok a)) (after : Trace (f a) rest r) : Trace (p.bind f) (first ++ rest) r := by
  induction p generalizing first with
  | ret b =>
    cases before
    exact after
  | fail e => cases before
  | call op next ih =>
    cases before with
    | call answer further => exact .call answer (ih answer further)

theorem Trace.ask {op : Op} {f : Ret op → Prog Op Ret Err β} (answer : Ret op) (after : Trace (f answer) trace r) : Trace ((Prog.perform op).bind f) (⟨op,answer⟩ :: trace) r :=
  .call answer after

theorem Trace.bind_cases (path : Trace (p.bind f) trace r) :
    (∃ a first rest,trace = first ++ rest ∧ Trace p first (.ok a) ∧ Trace (f a) rest r) ∨
      ∃ e,r = .error e ∧ Trace p trace (.error e) := by
  induction p generalizing trace with
  | ret a => exact .inl ⟨a,[],trace,rfl,.ret a,path⟩
  | fail e =>
    cases path
    exact .inr ⟨e,rfl,.fail e⟩
  | call op next ih =>
    cases path with
    | call answer further =>
      rcases ih answer further with ⟨a,first,rest,rfl,before,after⟩ | ⟨e,rfl,failed⟩
      · exact .inl ⟨a,⟨op,answer⟩ :: first,rest,rfl,.call answer before,after⟩
      · exact .inr ⟨e,rfl,.call answer failed⟩

theorem Trace.ask_cases {op : Op} {f : Ret op → Prog Op Ret Err β} (path : Trace ((Prog.perform op).bind f) trace r) :
    ∃ answer rest,trace = ⟨op,answer⟩ :: rest ∧ Trace (f answer) rest r := by
  cases path with
  | call answer further => exact ⟨answer,_,rfl,further⟩

theorem Trace.ret_cases {a : α} {r : Except Err α} (path : Trace (.ret a) trace r) : trace = [] ∧ r = .ok a := by
  cases path
  exact ⟨rfl,rfl⟩

theorem Trace.only (only : p.Only P) (path : Trace p trace r) : ∀ exchange ∈ trace,P exchange.1 := by
  induction path with
  | ret | fail => exact nofun
  | call answer _ ih =>
    intro exchange member
    rcases List.mem_cons.mp member with rfl | later
    · exact only.1
    · exact ih (only.2 answer) exchange later

def exchanges (exec : (op : Op) → W → Ret op × W) : Prog Op Ret Err α → W → List (Exchange Op Ret)
  | .ret _,_ => []
  | .fail _,_ => []
  | .call op next,w => ⟨op,(exec op w).1⟩ :: exchanges exec (next (exec op w).1) (exec op w).2

theorem run_trace (exec : (op : Op) → W → Ret op × W) (p : Prog Op Ret Err α) (w : W) :
    Trace p (exchanges exec p w) (p.run exec w).1 := by
  induction p generalizing w with
  | ret a => exact .ret a
  | fail e => exact .fail e
  | call op next ih => exact .call _ (ih _ _)

end

def Alone (exec : (op : Op) → W → Ret op × W) (p : Prog Op Ret Err α) (w : W)
    (post : List (Exchange Op Ret) → Except Err α → W → Prop) : Prop :=
  post (exchanges exec p w) (p.run exec w).1 (p.run exec w).2

section
variable {exec : (op : Op) → W → Ret op × W} {w : W} {p : Prog Op Ret Err α} {f : α → Prog Op Ret Err β}
  {post : List (Exchange Op Ret) → Except Err β → W → Prop}

theorem Alone.ret (holds : post [] (.ok a) w) : Alone exec (.ret a : Prog Op Ret Err β) w post := holds

theorem Alone.fail (holds : post [] (.error e) w) : Alone exec (.fail e : Prog Op Ret Err β) w post := holds

theorem Alone.ask {op : Op} {f : Ret op → Prog Op Ret Err β}
    (rest : Alone exec (f (exec op w).1) (exec op w).2 fun trace => post (⟨op,(exec op w).1⟩ :: trace)) :
    Alone exec ((Prog.perform op).bind f) w post := rest

theorem Alone.bind (first : Alone exec p w between)
    (rest : ∀ done a middle,between done (.ok a) middle → Alone exec (f a) middle fun trace => post (done ++ trace))
    (stops : ∀ done e middle,between done (.error e) middle → post done (.error e) middle) :
    Alone exec (p.bind f) w post := by
  induction p generalizing w between post with
  | ret a => exact rest [] a w first
  | fail e => exact stops [] e w first
  | call op next ih =>
    have onward : Alone exec (next (exec op w).1) (exec op w).2 fun trace => between (⟨op,(exec op w).1⟩ :: trace) :=
      first
    exact ih _ onward (fun done => rest (⟨op,_⟩ :: done)) fun done => stops (⟨op,_⟩ :: done)

theorem Alone.check (rest : ∀ a,result = .ok a → Alone exec (f a) w post)
    (stops : ∀ e,result = .error e → post [] (.error e) w) : Alone exec ((Prog.check result).bind f) w post := by
  cases result with
  | ok a => exact rest a rfl
  | error e => exact stops e rfl

theorem Alone.checked (holds : post [] result w) : Alone exec (Prog.check result) w post := by
  cases result with
  | ok | error => exact holds

theorem Alone.refuseIf {f : Unit → Prog Op Ret Err β} (rest : condition = false → Alone exec (f ()) w post)
    (stops : condition = true → post [] (.error error) w) :
    Alone exec ((Prog.refuseIf condition error).bind f) w post := by
  cases condition with
  | true => exact stops rfl
  | false => exact rest rfl

theorem Alone.attempt {Err' : Type} (holds : Alone exec p w between) :
    Alone exec (p.attempt : Prog Op Ret Err' (Except Err α)) w fun trace r later =>
      ∃ outcome,r = .ok outcome ∧ between trace outcome later := by
  induction p generalizing w between with
  | ret | fail => exact ⟨_,rfl,holds⟩
  | call op next ih =>
    have onward : Alone exec (next (exec op w).1) (exec op w).2 fun trace => between (⟨op,(exec op w).1⟩ :: trace) :=
      holds
    exact ih _ onward

theorem Alone.mono (holds : Alone exec p w between)
    (weaken : ∀ trace r later,between trace r later → weaker trace r later) : Alone exec p w weaker :=
  weaken _ _ _ holds

end

def Yields (p : Prog Op Ret Err α) (post : List (Exchange Op Ret) → α → Prop) : Prop :=
  ∀ trace a,Trace p trace (.ok a) → post trace a

section
variable {p : Prog Op Ret Err α} {f : α → Prog Op Ret Err β} {post : List (Exchange Op Ret) → α → Prop}

theorem Yields.ret (holds : post [] a) : Yields (.ret a : Prog Op Ret Err α) post := by
  intro trace b path
  obtain ⟨rfl,same⟩ := path.ret_cases
  cases same
  exact holds

theorem Yields.fail : Yields (.fail e : Prog Op Ret Err α) post := by
  intro trace a path
  cases path

theorem Yields.ask {op : Op} {f : Ret op → Prog Op Ret Err β}
    (rest : ∀ answer,Yields (f answer) fun trace b => after (⟨op,answer⟩ :: trace) b) :
    Yields ((Prog.perform op).bind f) after := by
  intro trace b path
  obtain ⟨answer,further,rfl,onward⟩ := path.ask_cases
  exact rest answer further b onward

theorem Yields.bind (first : Yields p post)
    (rest : ∀ done a,post done a → Yields (f a) fun trace b => after (done ++ trace) b) :
    Yields (p.bind f) after := by
  intro trace b path
  rcases path.bind_cases with ⟨a,before,further,rfl,done,onward⟩ | ⟨e,failed,_⟩
  · exact rest before a (first before a done) further b onward
  · cases failed

theorem Yields.any : Yields p fun _ _ => True := fun _ _ _ => trivial

theorem Yields.refuseIf {f : Unit → Prog Op Ret Err β} (rest : condition = false → Yields (f ()) after) : Yields ((Prog.refuseIf condition error).bind f) after := by
  cases condition with
  | true => exact .fail
  | false => exact rest rfl

theorem Yields.check {f : α → Prog Op Ret Err β} (rest : ∀ a,result = .ok a → Yields (f a) after) : Yields ((Prog.check result).bind f) after := by
  cases result with
  | error e => exact .fail
  | ok a => exact rest a rfl

theorem Yields.checked {result : Except Err α} (holds : ∀ a,result = .ok a → post [] a) :
    Yields (Prog.check result) post := by
  cases result with
  | error e => exact .fail
  | ok a => exact .ret (holds a rfl)

theorem Yields.attempt {Err' : Type} (holds : Yields p post) :
    Yields (p.attempt : Prog Op Ret Err' (Except Err α)) fun trace outcome =>
      ∀ a,outcome = .ok a → post trace a := by
  induction p generalizing post with
  | ret b =>
    apply Yields.ret
    intro a same
    cases same
    exact holds [] _ (.ret _)
  | fail e => exact .ret nofun
  | call op next ih =>
    intro trace outcome path
    cases path with
    | call answer further =>
      exact ih answer (fun trace a path => holds _ a (.call answer path)) _ outcome further

theorem Yields.mapError {Err' : Type} {g : Err → Err'} (holds : Yields p post) : Yields (p.mapError g) post := by
  induction p generalizing post with
  | ret a => exact .ret (holds [] a (.ret a))
  | fail e => exact .fail
  | call op next ih =>
    intro trace a path
    cases path with
    | call answer further => exact ih answer (fun trace a path => holds _ a (.call answer path)) _ a further

theorem Yields.mono (holds : Yields p post) (weaken : ∀ trace a,post trace a → weaker trace a) : Yields p weaker :=
  fun trace a path => weaken trace a (holds trace a path)

end

def Leaves (p : Prog Op Ret Err α) (post : List (Exchange Op Ret) → Except Err α → Prop) : Prop :=
  ∀ trace r,Trace p trace r → post trace r

section
variable {p : Prog Op Ret Err α} {f : α → Prog Op Ret Err β} {post : List (Exchange Op Ret) → Except Err α → Prop}

theorem Leaves.ret (holds : post [] (.ok a)) : Leaves (.ret a : Prog Op Ret Err α) post := by
  intro trace r path
  cases path
  exact holds

theorem Leaves.fail (holds : post [] (.error e)) : Leaves (.fail e : Prog Op Ret Err α) post := by
  intro trace r path
  cases path
  exact holds

theorem Leaves.ask {op : Op} {f : Ret op → Prog Op Ret Err β}
    (rest : ∀ answer,Leaves (f answer) fun trace r => after (⟨op,answer⟩ :: trace) r) :
    Leaves ((Prog.perform op).bind f) after := by
  intro trace r path
  obtain ⟨answer,further,rfl,onward⟩ := path.ask_cases
  exact rest answer further r onward

theorem Leaves.bind (first : Leaves p post)
    (rest : ∀ done a,post done (.ok a) → Leaves (f a) fun trace r => after (done ++ trace) r)
    (stops : ∀ done e,post done (.error e) → after done (.error e)) : Leaves (p.bind f) after := by
  intro trace r path
  rcases path.bind_cases with ⟨a,before,further,rfl,done,onward⟩ | ⟨e,rfl,failed⟩
  · exact rest before a (first before _ done) further r onward
  · exact stops trace e (first trace _ failed)

theorem Leaves.check {f : α → Prog Op Ret Err β} (rest : ∀ a,result = .ok a → Leaves (f a) after)
    (stops : ∀ e,result = .error e → after [] (.error e)) : Leaves ((Prog.check result).bind f) after := by
  cases result with
  | ok a => exact rest a rfl
  | error e => exact .fail (stops e rfl)

theorem Leaves.checked (holds : post [] result) : Leaves (Prog.check result) post := by
  cases result with
  | ok a => exact .ret holds
  | error e => exact .fail holds

theorem Leaves.refuseIf {f : Unit → Prog Op Ret Err β} (rest : condition = false → Leaves (f ()) after)
    (stops : after [] (.error error)) : Leaves ((Prog.refuseIf condition error).bind f) after := by
  cases condition with
  | true => exact .fail stops
  | false => exact rest rfl

theorem Leaves.attempt {Err' : Type} (holds : Leaves p post) :
    Leaves (p.attempt : Prog Op Ret Err' (Except Err α)) fun trace r => ∃ outcome,r = .ok outcome ∧ post trace outcome := by
  induction p generalizing post with
  | ret a => exact .ret ⟨_,rfl,holds _ _ (.ret a)⟩
  | fail e => exact .ret ⟨_,rfl,holds _ _ (.fail e)⟩
  | call op next ih =>
    intro trace r path
    cases path with
    | call answer further =>
      exact ih answer (fun trace r path => holds _ r (.call answer path)) _ r further

theorem Leaves.mapError {Err' : Type} {g : Err → Err'} (holds : Leaves p post) :
    Leaves (p.mapError g) fun trace r => ∃ outcome,r = outcome.mapError g ∧ post trace outcome := by
  induction p generalizing post with
  | ret a => exact .ret ⟨.ok a,rfl,holds _ _ (.ret a)⟩
  | fail e => exact .fail ⟨.error e,rfl,holds _ _ (.fail e)⟩
  | call op next ih =>
    intro trace r path
    cases path with
    | call answer further =>
      exact ih answer (fun trace r path => holds _ r (.call answer path)) _ r further

theorem Leaves.mono (holds : Leaves p post) (weaken : ∀ trace r,post trace r → weaker trace r) : Leaves p weaker :=
  fun trace r path => weaken trace r (holds trace r path)

theorem Leaves.only (only : p.Only P) : Leaves p fun trace _ => ∀ exchange ∈ trace,P exchange.1 :=
  fun _ _ path => path.only only

theorem Leaves.and (one : Leaves p post) (two : Leaves p also) :
    Leaves p fun trace r => post trace r ∧ also trace r :=
  fun trace r path => ⟨one trace r path,two trace r path⟩

theorem Yields.leaves (yields : Yields p ok) : Leaves p fun trace r => ∀ a,r = .ok a → ok trace a := by
  intro trace r path a same
  cases same
  exact yields trace a path

end

end CallTraces
