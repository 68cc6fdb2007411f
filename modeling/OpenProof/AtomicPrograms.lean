import Mathlib.Data.List.Basic

namespace AtomicPrograms
open List

-- The body of one call, cut at its synchronisation points: it has returned,
-- it has failed, or it waits for one atomic operation and continues with the
-- answer. Code between two operations touches no shared state.
inductive Prog (Op : Type) (Ret : Op → Type) (Err α : Type) : Type where
  | ret (value : α)
  | fail (error : Err)
  | call (op : Op) (next : Ret op → Prog Op Ret Err α)

variable {Op : Type} {Ret : Op → Type} {Err Err' α β W : Type}

namespace Prog

protected def bind : Prog Op Ret Err α → (α → Prog Op Ret Err β) → Prog Op Ret Err β
  | .ret a,f => f a
  | .fail e,_ => .fail e
  | .call op next,f => .call op fun answer => (next answer).bind f

instance : Monad (Prog Op Ret Err) where
  pure := .ret
  bind := Prog.bind

def perform (op : Op) : Prog Op Ret Err (Ret op) := .call op .ret

def check : Except Err α → Prog Op Ret Err α
  | .ok a => .ret a
  | .error e => .fail e

-- `if (condition) return fail(error);`
def refuseIf (condition : Bool) (error : Err) : Prog Op Ret Err Unit :=
  if condition then .fail error else .ret ()

def attempt : Prog Op Ret Err α → Prog Op Ret Err' (Except Err α)
  | .ret a => .ret (.ok a)
  | .fail e => .ret (.error e)
  | .call op next => .call op fun answer => (next answer).attempt

-- `if (!result) return f(result.error());`
def mapError (f : Err → Err') : Prog Op Ret Err α → Prog Op Ret Err' α
  | .ret a => .ret a
  | .fail e => .fail (f e)
  | .call op next => .call op fun answer => (next answer).mapError f

def discard : Prog Op Ret Err α → Prog Op Ret Unit Unit
  | .ret _ => .ret ()
  | .fail _ => .ret ()
  | .call op next => .call op fun answer => (next answer).discard

def Only (P : Op → Prop) : Prog Op Ret Err α → Prop
  | .ret _ => True
  | .fail _ => True
  | .call op next => P op ∧ ∀ answer,(next answer).Only P

def run (exec : (op : Op) → W → Ret op × W) : Prog Op Ret Err α → W → Except Err α × W
  | .ret a,w => (.ok a,w)
  | .fail e,w => (.error e,w)
  | .call op next,w => (next (exec op w).1).run exec (exec op w).2

@[simp] theorem pure_eq (a : α) : (pure a : Prog Op Ret Err α) = .ret a := rfl
@[simp] theorem bind_eq (p : Prog Op Ret Err α) (f : α → Prog Op Ret Err β) : (p >>= f) = p.bind f := rfl
@[simp] theorem ret_bind (a : α) (f : α → Prog Op Ret Err β) : (ret a).bind f = f a := rfl
@[simp] theorem fail_bind (e : Err) (f : α → Prog Op Ret Err β) : (fail e).bind f = fail e := rfl
@[simp] theorem call_bind (op : Op) (next : Ret op → Prog Op Ret Err α) (f : α → Prog Op Ret Err β) :
    (call op next).bind f = call op fun answer => (next answer).bind f := rfl

theorem bind_assoc {γ : Type} (p : Prog Op Ret Err α) (f : α → Prog Op Ret Err β) (g : β → Prog Op Ret Err γ) :
    (p.bind f).bind g = p.bind fun a => (f a).bind g := by
  induction p with
  | ret | fail => rfl
  | call op next ih => exact congrArg (call op) (funext fun answer => ih answer)

theorem run_bind (exec : (op : Op) → W → Ret op × W) (p : Prog Op Ret Err α) (f : α → Prog Op Ret Err β) (w : W) :
    (p.bind f).run exec w = match p.run exec w with
      | (.ok a,w') => (f a).run exec w'
      | (.error e,w') => (.error e,w') := by
  induction p generalizing w with
  | ret | fail => rfl
  | call op next ih => exact ih _ _

theorem run_bind_ok {exec : (op : Op) → W → Ret op × W} {p : Prog Op Ret Err α} {f : α → Prog Op Ret Err β} {w : W}
    (done : (p.run exec w).1 = .ok a) : (p.bind f).run exec w = (f a).run exec (p.run exec w).2 := by
  rw [run_bind]
  generalize p.run exec w = outcome at done ⊢
  obtain ⟨answer,later⟩ := outcome
  cases done
  rfl

theorem run_bind_error {exec : (op : Op) → W → Ret op × W} {p : Prog Op Ret Err α} {f : α → Prog Op Ret Err β}
    {w : W} (failed : (p.run exec w).1 = .error e) : (p.bind f).run exec w = (.error e,(p.run exec w).2) := by
  rw [run_bind]
  generalize p.run exec w = outcome at failed ⊢
  obtain ⟨answer,later⟩ := outcome
  cases failed
  rfl

theorem run_attempt {exec : (op : Op) → W → Ret op × W} {p : Prog Op Ret Err' α} {w : W} :
    (p.attempt : Prog Op Ret Err _).run exec w = (.ok (p.run exec w).1,(p.run exec w).2) := by
  induction p generalizing w with
  | ret | fail => rfl
  | call op next ih => exact ih _

@[simp] theorem refuseIf_true (error : Err) : refuseIf true error = (.fail error : Prog Op Ret Err Unit) := rfl
@[simp] theorem refuseIf_false (error : Err) : refuseIf false error = (.ret () : Prog Op Ret Err Unit) := rfl

theorem Only.bind {p : Prog Op Ret Err α} {f : α → Prog Op Ret Err β} (first : p.Only P) (rest : ∀ a,(f a).Only P) : (p.bind f).Only P := by
  induction p with
  | ret a => exact rest a
  | fail e => trivial
  | call op next ih => exact ⟨first.1,fun answer => ih answer (first.2 answer)⟩

theorem Only.check (P : Op → Prop) (r : Except Err α) : (check r : Prog Op Ret Err α).Only P := by
  cases r <;> trivial

theorem Only.check_bind {f : α → Prog Op Ret Err β} (rest : ∀ a,r = .ok a → (f a).Only P) : ((Prog.check r).bind f).Only P := by
  cases r with
  | ok a => exact rest a rfl
  | error e => trivial

theorem Only.refuseIf (P : Op → Prop) (condition : Bool) (error : Err) :
    (refuseIf condition error : Prog Op Ret Err Unit).Only P := by
  cases condition <;> trivial

theorem Only.perform {op : Op} (allowed : P op) :
    (perform op : Prog Op Ret Err (Ret op)).Only P := ⟨allowed,fun _ => trivial⟩

theorem Only.attempt {p : Prog Op Ret Err α} (first : p.Only P) : (p.attempt : Prog Op Ret Err' _).Only P := by
  induction p with
  | ret | fail => trivial
  | call op next ih => exact ⟨first.1,fun answer => ih answer (first.2 answer)⟩

theorem Only.mapError {p : Prog Op Ret Err α} (f : Err → Err') (first : p.Only P) : (p.mapError f).Only P := by
  induction p with
  | ret | fail => trivial
  | call op next ih => exact ⟨first.1,fun answer => ih answer (first.2 answer)⟩

theorem Only.weaken {P Q : Op → Prop} {p : Prog Op Ret Err α} (first : p.Only P)
    (implies : ∀ op,P op → Q op) : p.Only Q := by
  induction p with
  | ret | fail => trivial
  | call op next ih => exact ⟨implies _ first.1,fun answer => ih answer (first.2 answer)⟩

@[simp] theorem run_ret (exec : (op : Op) → W → Ret op × W) (a : α) (w : W) :
    (ret a : Prog Op Ret Err α).run exec w = (.ok a,w) := rfl
@[simp] theorem run_fail (exec : (op : Op) → W → Ret op × W) (e : Err) (w : W) :
    (fail e : Prog Op Ret Err α).run exec w = (.error e,w) := rfl
@[simp] theorem run_perform_bind (exec : (op : Op) → W → Ret op × W) (op : Op)
    (f : Ret op → Prog Op Ret Err β) (w : W) :
    ((perform op).bind f).run exec w = (f (exec op w).1).run exec (exec op w).2 := rfl
theorem check_ok (a : α) : (check (.ok a) : Prog Op Ret Err α) = .ret a := rfl

@[simp] theorem run_check (exec : (op : Op) → W → Ret op × W) (r : Except Err α) (w : W) :
    (check r : Prog Op Ret Err α).run exec w = (r,w) := by cases r <;> rfl

end Prog

-- Every world of a run so far, the current one apart.
structure History (W : Type) where
  now : W
  past : List W

namespace History

def push (h : History W) (w : W) : History W := ⟨w,h.now :: h.past⟩

def worlds (h : History W) : List W := h.now :: h.past

def recent (h : History W) (since : Nat) : List W := h.worlds.take (h.past.length+1-since)

def steps (now : W) : List W → List (History W × W)
  | [] => []
  | prev :: past => (⟨prev,past⟩,now) :: steps prev past

def moments (h : History W) : List (History W × W) := steps h.now h.past

@[simp] theorem push_moments (h : History W) (w : W) : (h.push w).moments = (h,w) :: h.moments := rfl

@[simp] theorem push_now (h : History W) (w : W) : (h.push w).now = w := rfl
@[simp] theorem push_past (h : History W) (w : W) : (h.push w).past = h.now :: h.past := rfl
@[simp] theorem push_worlds (h : History W) (w : W) : (h.push w).worlds = w :: h.worlds := rfl

theorem now_mem_worlds (h : History W) : h.now ∈ h.worlds := mem_cons_self

theorem moment_worlds {h g : History W} {w v : W} (moment : (g,w) ∈ h.moments) (member : v ∈ g.worlds) :
    v ∈ h.worlds := by
  obtain ⟨now,past⟩ := h
  induction past generalizing now with
  | nil => cases moment
  | cons prev past ih =>
    rcases mem_cons.mp moment with here | earlier
    · cases here
      exact mem_cons_of_mem _ member
    · exact mem_cons_of_mem _ (ih prev earlier)

theorem recent_push (h : History W) (w : W) (since : Nat) (begun : since ≤ h.past.length) :
    (h.push w).recent since = w :: h.recent since := by
  have succ : (h.push w).past.length+1-since = (h.past.length+1-since)+1 := by
    simp only [push_past,length_cons]
    omega
  simp only [recent,succ,push_worlds,take_succ_cons]

theorem recent_subset (h : History W) (since : Nat) {w : W} (member : w ∈ h.recent since) : w ∈ h.worlds :=
  mem_of_mem_take member

theorem now_mem_recent (h : History W) (since : Nat) (begun : since ≤ h.past.length) : h.now ∈ h.recent since := by
  obtain ⟨k,eq⟩ : ∃ k, h.past.length+1-since = k+1 := ⟨h.past.length-since,by omega⟩
  simp [recent,worlds,eq]

theorem recent_mono (h : History W) (ordered : early ≤ late) {w : W} (member : w ∈ h.recent late) : w ∈ h.recent early :=
  (take_prefix_take_left (by omega)).mem member

end History

-- What a family of calls assumes of the steps around it and promises of its own.
-- `admits` narrows the runs considered; `guar` may mention when the acting call entered.
structure Contract (Op : Type) (Ret : Op → Type) (W : Type) where
  exec : (op : Op) → W → Ret op × W
  admits : Op → History W → Prop
  rely : History W → W → Prop
  guar : Nat → History W → W → Prop

inductive Grows (rely : History W → W → Prop) (h : History W) : History W → Prop where
  | refl : Grows rely h h
  | step : Grows rely h later → rely later w → Grows rely h (later.push w)

theorem Grows.trans {rely : History W → W → Prop} {a b c : History W}
    (one : Grows rely a b) (two : Grows rely b c) : Grows rely a c := by
  induction two with
  | refl => exact one
  | step _ related ih => exact .step ih related

theorem Grows.moment {w v : W} (grown : Grows rely ⟨w,[]⟩ h) (moment : (g,v) ∈ h.moments) : rely g v ∧ Grows rely (g.push v) h := by
  induction grown with
  | refl => cases moment
  | @step later u _ related ih =>
    rcases mem_cons.mp moment with here | earlier
    · cases here
      exact ⟨related,.refl⟩
    · exact ⟨(ih earlier).1,.step (ih earlier).2 related⟩

def Stable (rely : History W → W → Prop) (φ : History W → Prop) : Prop :=
  ∀ h w, rely h w → φ h → φ (h.push w)

theorem Grows.keep {rely : History W → W → Prop} {φ : History W → Prop} {h later : History W}
    (grown : Grows rely h later) (stable : Stable rely φ) (holds : φ h) : φ later := by
  induction grown with
  | refl => exact holds
  | step _ related ih => exact stable _ _ related ih

theorem Grows.world {P : W → Prop} {w seen : W} (stable : Stable rely fun h => P h.now)
    (grown : Grows rely ⟨w,[]⟩ h) (member : seen ∈ h.worlds) (holds : P seen) : P h.now := by
  induction grown with
  | refl =>
    cases mem_singleton.mp member
    exact holds
  | step _ related ih =>
    rcases mem_cons.mp member with rfl | earlier
    · exact holds
    · exact stable _ _ related (ih earlier)

theorem Grows.recent {P : W → Prop} (stable : Stable rely fun h => P h.now) (grown : Grows rely g h)
    (holds : P g.now) : g.past.length ≤ h.past.length ∧ ∀ w ∈ h.recent g.past.length,P w := by
  induction grown with
  | refl =>
    refine ⟨Nat.le_refl _,?_⟩
    intro w member
    simp only [History.recent,History.worlds,show g.past.length+1-g.past.length = 1 by omega,
      take_succ_cons,take_zero,mem_singleton] at member
    exact member ▸ holds
  | @step later u grown related ih =>
    refine ⟨Nat.le_succ_of_le ih.1,?_⟩
    intro w member
    rw [History.recent_push _ _ _ ih.1] at member
    rcases mem_cons.mp member with rfl | earlier
    · exact stable _ _ related (grown.keep stable holds)
    · exact ih.2 w earlier

theorem Grows.length {rely : History W → W → Prop} {h later : History W}
    (grown : Grows rely h later) : h.past.length ≤ later.past.length := by
  induction grown with
  | refl => exact Nat.le_refl _
  | step _ _ ih => exact Nat.le_succ_of_le ih

variable {C : Contract Op Ret W} {born : Nat}

-- Before each operation, and after the last one, other calls may have taken any
-- number of steps within `rely`.
def Safe (C : Contract Op Ret W) (born : Nat) (post : Except Err α → History W → Prop) :
    Prog Op Ret Err α → History W → Prop
  | .ret a,h => ∀ later, Grows C.rely h later → post (.ok a) later
  | .fail e,h => ∀ later, Grows C.rely h later → post (.error e) later
  | .call op next,h => ∀ later, Grows C.rely h later → C.admits op later →
      C.guar born later (C.exec op later.now).2 ∧
        Safe C born post (next (C.exec op later.now).1) (later.push (C.exec op later.now).2)

theorem Safe.grow {post : Except Err α → History W → Prop} {p : Prog Op Ret Err α} (safe : Safe C born post p h)
    (grown : Grows C.rely h later) : Safe C born post p later := by
  cases p with
  | ret | fail | call => exact fun further more => safe further (grown.trans more)

theorem Safe.mono {post weaker : Except Err α → History W → Prop} {p : Prog Op Ret Err α}
    (safe : Safe C born post p h) (implies : ∀ r later, post r later → weaker r later) : Safe C born weaker p h := by
  induction p generalizing h with
  | ret | fail => exact fun later grown => implies _ _ (safe later grown)
  | call op next ih =>
    intro later grown admitted
    obtain ⟨kept,rest⟩ := safe later grown admitted
    exact ⟨kept,ih _ rest⟩

theorem Safe.bind {post : Except Err β → History W → Prop} {p : Prog Op Ret Err α} {f : α → Prog Op Ret Err β}
    (safe : Safe C born (fun r later => match r with
      | .ok a => Safe C born post (f a) later
      | .error e => post (.error e) later) p h) : Safe C born post (p.bind f) h := by
  induction p generalizing h with
  | ret a => exact safe h .refl
  | fail e => exact safe
  | call op next ih =>
    intro later grown admitted
    obtain ⟨kept,rest⟩ := safe later grown admitted
    exact ⟨kept,ih _ rest⟩

theorem Safe.attempt {post : Except Err' (Except Err α) → History W → Prop} {p : Prog Op Ret Err α}
    (safe : Safe C born (fun r => post (.ok r)) p h) : Safe C born post p.attempt h := by
  induction p generalizing h with
  | ret | fail => exact safe
  | call op next ih =>
    intro later grown admitted
    obtain ⟨kept,rest⟩ := safe later grown admitted
    exact ⟨kept,ih _ rest⟩

theorem Safe.mapError {post : Except Err' α → History W → Prop} {p : Prog Op Ret Err α} {f : Err → Err'}
    (safe : Safe C born (fun r => post (r.mapError f)) p h) : Safe C born post (p.mapError f) h := by
  induction p generalizing h with
  | ret | fail => exact safe
  | call op next ih =>
    intro later grown admitted
    obtain ⟨kept,rest⟩ := safe later grown admitted
    exact ⟨kept,ih _ rest⟩

theorem Safe.discard {post : Except Err α → History W → Prop} {p : Prog Op Ret Err α} (safe : Safe C born post p h) : Safe C born (fun _ _ => True) p.discard h := by
  induction p generalizing h with
  | ret | fail => exact fun _ _ => trivial
  | call op next ih =>
    intro later grown admitted
    obtain ⟨kept,rest⟩ := safe later grown admitted
    exact ⟨kept,ih _ rest⟩

def returns (ensures : α → History W → Prop) : Except Err α → History W → Prop
  | .ok a,h => ensures a h
  | .error _,_ => True

-- A contract whose own steps are steps others may rely on: facts stable under
-- the rely then survive the whole call, the call's own operations included.
def Contract.Honest (C : Contract Op Ret W) : Prop :=
  ∀ born h w,C.guar born h w → C.rely h w

theorem Safe.grown (honest : C.Honest) {post : Except Err α → History W → Prop} {p : Prog Op Ret Err α}
    (safe : Safe C born post p h) : Safe C born (fun r later => post r later ∧ Grows C.rely h later) p h := by
  suffices general : ∀ start,Grows C.rely start h →
      Safe C born (fun r later => post r later ∧ Grows C.rely start later) p h from general h .refl
  intro start begun
  induction p generalizing h with
  | ret | fail => exact fun later grown => ⟨safe later grown,begun.trans grown⟩
  | call op next ih =>
    intro later grown admitted
    obtain ⟨kept,rest⟩ := safe later grown admitted
    exact ⟨kept,ih _ rest ((begun.trans grown).step (honest _ _ _ kept))⟩

theorem Safe.seq (honest : C.Honest) {p : Prog Op Ret Err α} {f : α → Prog Op Ret Err β}
    (safe : Safe C born (returns first) p h)
    (rest : ∀ a later,Grows C.rely h later → first a later → Safe C born (returns second) (f a) later) :
    Safe C born (returns second) (p.bind f) h := by
  refine Safe.bind ((safe.grown honest).mono ?_)
  intro r later holds
  cases r with
  | ok a => exact rest a later holds.2 holds.1
  | error e => trivial

theorem Safe.ret (stable : Stable C.rely (ensures a)) (holds : ensures a h) :
    Safe C born (returns ensures) (.ret a : Prog Op Ret Err α) h :=
  fun _ grown => grown.keep stable holds

theorem Safe.fail : Safe C born (returns ensures) (.fail e : Prog Op Ret Err α) h := fun _ _ => trivial

theorem Safe.check_bind {f : α → Prog Op Ret Err β} (rest : ∀ a,r = .ok a → Safe C born (returns second) (f a) h) :
    Safe C born (returns second) ((Prog.check r).bind f) h := by
  cases r with
  | ok a => exact rest a rfl
  | error e => exact fun _ _ => trivial

theorem Safe.recast {p : Prog Op Ret Err α} {f : Err → Err'} (safe : Safe C born (returns ensures) p h) :
    Safe C born (returns ensures) (p.mapError f) h := by
  refine Safe.mapError (safe.mono ?_)
  intro r later holds
  cases r <;> exact holds

theorem Safe.recheck_bind {e : Err → Err'} {f : α → Prog Op Ret Err' β}
    (rest : ∀ a,r = .ok a → Safe C born (returns second) (f a) h) :
    Safe C born (returns second) (((Prog.check r).mapError e).bind f) h := by
  cases r with
  | ok a => exact rest a rfl
  | error e => exact fun _ _ => trivial

theorem Safe.refuse_bind {f : Unit → Prog Op Ret Err β}
    (rest : condition = false → Safe C born (returns second) (f ()) h) :
    Safe C born (returns second) ((Prog.refuseIf condition e).bind f) h := by
  cases condition with
  | true => exact fun _ _ => trivial
  | false => exact rest rfl

theorem Safe.refuse (stable : Stable C.rely (ensures ())) (holds : condition = false → ensures () h) :
    Safe C born (returns ensures) (Prog.refuseIf condition e : Prog Op Ret Err Unit) h := by
  cases condition with
  | true => exact fun _ _ => trivial
  | false => exact .ret stable (holds rfl)

theorem Safe.only {p : Prog Op Ret Err α} (bound : p.Only P)
    (quiet : ∀ op later,P op → C.admits op later → C.guar born later (C.exec op later.now).2) :
    Safe C born (returns fun _ _ => True) p h := by
  induction p generalizing h with
  | ret | fail => exact fun _ _ => trivial
  | call op next ih =>
    exact fun later _ admitted => ⟨quiet op later bound.1 admitted,ih _ (bound.2 _)⟩

theorem Safe.past {p : Prog Op Ret Err α} {f : α → Prog Op Ret Err β} (honest : C.Honest)
    (quiet : ∀ op later,P op → C.admits op later → C.guar born later (C.exec op later.now).2)
    (stable : Stable C.rely φ) (bound : p.Only P) (known : φ h)
    (rest : ∀ a later,φ later → Safe C born (returns second) (f a) later) :
    Safe C born (returns second) (p.bind f) h :=
  .seq honest (.only bound quiet) fun a later grown _ => rest a later (grown.keep stable known)

theorem stable_true (rely : History W → W → Prop) : Stable rely fun _ => True := fun _ _ _ _ => trivial

theorem Stable.and {rely : History W → W → Prop} {φ ψ : History W → Prop} (one : Stable rely φ)
    (two : Stable rely ψ) : Stable rely fun h => φ h ∧ ψ h :=
  fun h w related holds => ⟨one h w related holds.1,two h w related holds.2⟩

def Witnessed (born : Nat) (P : W → Prop) (h : History W) : Prop :=
  born ≤ h.past.length ∧ ∃ w ∈ h.recent born,P w

theorem Witnessed.stable (rely : History W → W → Prop) (born : Nat) (P : W → Prop) :
    Stable rely (Witnessed born P) := by
  rintro h w - ⟨begun,seen,member,holds⟩
  refine ⟨Nat.le_succ_of_le begun,seen,?_,holds⟩
  rw [History.recent_push h w born begun]
  exact mem_cons_of_mem _ member

theorem Witnessed.here {P : W → Prop} {h : History W} (begun : born ≤ h.past.length) (holds : P h.now) :
    Witnessed born P h := ⟨begun,h.now,h.now_mem_recent born begun,holds⟩

theorem Witnessed.push (held : Witnessed born P h) (w : W) :
    Witnessed born P (h.push w) := Witnessed.stable (fun _ _ => True) born P h w trivial held

theorem Witnessed.mono {P Q : W → Prop} (held : Witnessed born P h) (implies : ∀ w,P w → Q w) : Witnessed born Q h :=
  ⟨held.1,held.2.imp fun w seen => ⟨seen.1,implies w seen.2⟩⟩

theorem Witnessed.carry {w : W} (held : Witnessed born P h) (stable : Stable rely fun h => P h.now)
    (grown : Grows rely ⟨w,[]⟩ h) : P h.now := by
  obtain ⟨_,seen,member,holds⟩ := held
  exact grown.world stable (h.recent_subset born member) holds

theorem stable_begun (rely : History W → W → Prop) (born : Nat) :
    Stable rely fun h => born ≤ h.past.length := fun _ _ _ => Nat.le_succ_of_le

structure Thread (Op : Type) (Ret : Op → Type) (Err α : Type) where
  born : Nat
  rest : Prog Op Ret Err α

structure Pool (Op : Type) (Ret : Op → Type) (Err α W : Type) where
  hist : History W
  threads : List (Thread Op Ret Err α)

inductive Event (Op : Type) where
  | enter
  | act (thread : Nat) (op : Op)
  | drift

inductive Step (exec : (op : Op) → W → Ret op × W) (admits : Op → History W → Prop)
    (entry : Prog Op Ret Err α → Prop) (drift : W → W → Prop) :
    Pool Op Ret Err α W → Event Op → Pool Op Ret Err α W → Prop where
  | enter {pool : Pool Op Ret Err α W} {p : Prog Op Ret Err α} (allowed : entry p) :
      Step exec admits entry drift pool .enter
        ⟨pool.hist,pool.threads ++ [⟨pool.hist.past.length,p⟩]⟩
  | act {pool : Pool Op Ret Err α W} {i : Nat} {born : Nat} {op : Op} {next : Ret op → Prog Op Ret Err α}
      (waiting : pool.threads[i]? = some ⟨born,.call op next⟩) (admitted : admits op pool.hist) :
      Step exec admits entry drift pool (.act i op)
        ⟨pool.hist.push (exec op pool.hist.now).2,
          pool.threads.set i ⟨born,next (exec op pool.hist.now).1⟩⟩
  | drift {pool : Pool Op Ret Err α W} {w : W} (moved : drift pool.hist.now w) :
      Step exec admits entry drift pool .drift ⟨pool.hist.push w,pool.threads⟩

inductive Runs (exec : (op : Op) → W → Ret op × W) (admits : Op → History W → Prop)
    (entry : Prog Op Ret Err α → Prop) (drift : W → W → Prop) (origin : Pool Op Ret Err α W) :
    Pool Op Ret Err α W → Prop where
  | nil : Runs exec admits entry drift origin origin
  | step {next} : Runs exec admits entry drift origin pool → Step exec admits entry drift pool event next →
      Runs exec admits entry drift origin next

theorem Runs.trans {exec : (op : Op) → W → Ret op × W} {entry : Prog Op Ret Err α → Prop} {drift : W → W → Prop}
    (one : Runs exec admits entry drift a b) (two : Runs exec admits entry drift b c) :
    Runs exec admits entry drift a c := by
  induction two with
  | nil => exact one
  | step _ moved ih => exact .step ih moved

def Pool.start (w : W) : Pool Op Ret Err α W := ⟨⟨w,[]⟩,[]⟩

structure Disciplined (C : Contract Op Ret W) (entry : Prog Op Ret Err α → Prop) (drift : W → W → Prop)
    (inv : History W → Prop) (post : Nat → Except Err α → History W → Prop) : Prop where
  honest : C.Honest
  drifts : ∀ h w, drift h.now w → C.rely h w
  stable : Stable C.rely inv
  entries : ∀ p, entry p → ∀ h, inv h → Safe C h.past.length (post h.past.length) p h

def Pool.Sound (C : Contract Op Ret W) (inv : History W → Prop)
    (post : Nat → Except Err α → History W → Prop) (pool : Pool Op Ret Err α W) : Prop :=
  inv pool.hist ∧ ∀ t ∈ pool.threads, t.born ≤ pool.hist.past.length ∧
    Safe C t.born (post t.born) t.rest pool.hist

variable {entry : Prog Op Ret Err α → Prop} {drift : W → W → Prop}

theorem Disciplined.step {next} (rules : Disciplined C entry drift inv post)
    (sound : Pool.Sound C inv post pool) (moved : Step C.exec C.admits entry drift pool event next) :
    Pool.Sound C inv post next := by
  obtain ⟨holds,safe⟩ := sound
  cases moved with
  | enter allowed =>
    refine ⟨holds,?_⟩
    intro t member
    rcases mem_append.mp member with old | new
    · exact safe t old
    · cases mem_singleton.mp new
      exact ⟨Nat.le_refl _,rules.entries _ allowed _ holds⟩
  | act waiting admitted =>
    have present := mem_of_getElem? waiting
    obtain ⟨kept,rest⟩ := (safe _ present).2 pool.hist .refl admitted
    have related := rules.honest _ _ _ kept
    refine ⟨rules.stable _ _ related holds,?_⟩
    intro t member
    rcases mem_or_eq_of_mem_set member with old | rfl
    · exact ⟨Nat.le_succ_of_le (safe t old).1,(safe t old).2.grow (.step .refl related)⟩
    · exact ⟨Nat.le_succ_of_le (safe _ present).1,rest⟩
  | drift moved =>
    have related := rules.drifts _ _ moved
    refine ⟨rules.stable _ _ related holds,?_⟩
    intro t member
    exact ⟨Nat.le_succ_of_le (safe t member).1,(safe t member).2.grow (.step .refl related)⟩

theorem Disciplined.runs (rules : Disciplined C entry drift inv post)
    (sound : Pool.Sound C inv post pool) (path : Runs C.exec C.admits entry drift pool later) :
    Pool.Sound C inv post later := by
  induction path with
  | nil => exact sound
  | step _ moved ih => exact rules.step ih moved

theorem Disciplined.start (rules : Disciplined C entry drift inv post) (w : W) (holds : inv ⟨w,[]⟩)
    (path : Runs C.exec C.admits entry drift (Pool.start w) pool) : Pool.Sound C inv post pool :=
  rules.runs ⟨holds,by simp [Pool.start]⟩ path

theorem Pool.Sound.acted {next} (sound : Pool.Sound C inv post pool) (moved : Step C.exec C.admits entry drift pool (.act i op) next) :
    ∃ t, pool.threads[i]? = some t ∧ t.born ≤ pool.hist.past.length ∧ C.guar t.born pool.hist next.hist.now := by
  cases moved with
  | act waiting admitted =>
    have present := mem_of_getElem? waiting
    exact ⟨_,waiting,(sound.2 _ present).1,((sound.2 _ present).2 _ .refl admitted).1⟩

theorem Disciplined.grows (rules : Disciplined C entry drift inv post)
    (sound : Pool.Sound C inv post pool) (path : Runs C.exec C.admits entry drift pool later) :
    Grows C.rely pool.hist later.hist := by
  induction path with
  | nil => exact .refl
  | @step middle _ _ prior moved ih =>
    have valid := rules.runs sound prior
    cases moved with
    | enter allowed => exact ih
    | act waiting admitted =>
      have present := mem_of_getElem? waiting
      exact .step ih (rules.honest _ _ _ ((valid.2 _ present).2 _ .refl admitted).1)
    | drift moved => exact .step ih (rules.drifts _ _ moved)

inductive Move (Op : Type) (Ret : Op → Type) (W : Type) (entry : Prog Op Ret Err α → Prop)
    (drift : W → W → Prop) where
  | enter (p : Prog Op Ret Err α) (allowed : entry p)
  | act (thread : Nat)
  | drift (change : W → W) (moved : ∀ w,drift w (change w))

def Move.apply (exec : (op : Op) → W → Ret op × W) (permits : Op → History W → Bool)
    (pool : Pool Op Ret Err α W) : Move Op Ret W entry drift → Option (Pool Op Ret Err α W)
  | .enter p _ => some ⟨pool.hist,pool.threads ++ [⟨pool.hist.past.length,p⟩]⟩
  | .act i =>
    match pool.threads[i]? with
    | some ⟨born,.call op next⟩ =>
      if permits op pool.hist then
        some ⟨pool.hist.push (exec op pool.hist.now).2,
          pool.threads.set i ⟨born,next (exec op pool.hist.now).1⟩⟩
      else none
    | _ => none
  | .drift change _ => some ⟨pool.hist.push (change pool.hist.now),pool.threads⟩

def play (exec : (op : Op) → W → Ret op × W) (permits : Op → History W → Bool)
    (moves : List (Move Op Ret W entry drift)) (pool : Pool Op Ret Err α W) :
    Option (Pool Op Ret Err α W) :=
  moves.foldlM (fun pool move => move.apply exec permits pool) pool

theorem Move.apply_step {next} {exec : (op : Op) → W → Ret op × W} (correct : ∀ op h,permits op h = true → admits op h)
    {move : Move Op Ret W entry drift} (moved : move.apply exec permits pool = some next) :
    ∃ event,Step exec admits entry drift pool event next := by
  cases move with
  | enter p allowed =>
    cases moved
    exact ⟨.enter,.enter allowed⟩
  | act i =>
    simp only [Move.apply] at moved
    split at moved
    · rename_i waiting
      split at moved
      · rename_i permitted
        cases moved
        exact ⟨_,.act waiting (correct _ _ permitted)⟩
      · cases moved
    · cases moved
  | drift change allowed =>
    cases moved
    exact ⟨.drift,.drift (allowed _)⟩

theorem play_runs {exec : (op : Op) → W → Ret op × W} (correct : ∀ op h,permits op h = true → admits op h)
    {moves : List (Move Op Ret W entry drift)} (played : play exec permits moves pool = some later) : Runs exec admits entry drift pool later := by
  induction moves generalizing pool with
  | nil =>
    cases played
    exact .nil
  | cons move rest ih =>
    simp only [play,foldlM_cons,Option.bind_eq_bind,Option.bind_eq_some_iff] at played
    obtain ⟨next,first,further⟩ := played
    obtain ⟨event,moved⟩ := Move.apply_step correct first
    exact (Runs.step .nil moved).trans (ih further)

theorem play_reaches {exec : (op : Op) → W → Ret op × W} (correct : ∀ op h,permits op h = true → admits op h)
    {moves : List (Move Op Ret W entry drift)} (played : (play exec permits moves pool).any goal = true) :
    ∃ later,Runs exec admits entry drift pool later ∧ goal later = true := by
  obtain ⟨later,reached,holds⟩ := Option.any_eq_true .. |>.mp played
  exact ⟨later,play_runs correct reached,holds⟩

def Pool.pending (pool : Pool Op Ret Err α W) (i : Nat) : Option Op :=
  match pool.threads[i]? with
  | some ⟨_,.call op _⟩ => some op
  | _ => none

def playThrough (exec : (op : Op) → W → Ret op × W) (permits : Op → History W → Bool)
    (moves : List (Move Op Ret W entry drift)) (i : Nat) (rest : List (Move Op Ret W entry drift))
    (pool : Pool Op Ret Err α W)
    (goal : Pool Op Ret Err α W → Op → Pool Op Ret Err α W → Pool Op Ret Err α W → Bool) : Bool :=
  (play exec permits moves pool).any fun middle => (middle.pending i).any fun op =>
    (Move.apply exec permits middle (.act i : Move Op Ret W entry drift)).any fun next =>
      (play exec permits rest next).any fun later => goal middle op next later

theorem playThrough_reaches {exec : (op : Op) → W → Ret op × W} (correct : ∀ op h,permits op h = true → admits op h)
    {moves rest : List (Move Op Ret W entry drift)}
    (played : playThrough exec permits moves i rest pool goal = true) :
    ∃ middle op next later,Runs exec admits entry drift pool middle ∧
      Step exec admits entry drift middle (.act i op) next ∧ Runs exec admits entry drift next later ∧
        goal middle op next later = true := by
  obtain ⟨middle,reached,played⟩ := Option.any_eq_true .. |>.mp played
  obtain ⟨op,pending,played⟩ := Option.any_eq_true .. |>.mp played
  obtain ⟨next,moved,played⟩ := Option.any_eq_true .. |>.mp played
  obtain ⟨later,further,holds⟩ := Option.any_eq_true .. |>.mp played
  refine ⟨middle,op,next,later,play_runs correct reached,?_,play_runs correct further,holds⟩
  simp only [Move.apply] at moved
  split at moved
  · rename_i waiting
    split at moved
    · rename_i permitted
      cases moved
      simp only [Pool.pending,waiting,Option.some.injEq] at pending
      subst pending
      exact .act waiting (correct _ _ permitted)
    · cases moved
  · cases moved

-- A call run alone in either of two related worlds gives one answer and leaves them
-- related; `Q` is what a returned value shows.
def Alike (exec : (op : Op) → W → Ret op × W) (R : W → W → Prop) (p : Prog Op Ret Err α)
    (Q : α → Prop) : Prop :=
  ∀ v w,R v w → (p.run exec w).1 = (p.run exec v).1 ∧ R (p.run exec v).2 (p.run exec w).2 ∧
    ∀ a,(p.run exec v).1 = .ok a → Q a

section
variable {exec : (op : Op) → W → Ret op × W} {p : Prog Op Ret Err α} {Q : α → Prop}

theorem Alike.ret (holds : Q a) : Alike exec R (.ret a : Prog Op Ret Err α) Q := by
  intro v w related
  refine ⟨rfl,related,?_⟩
  intro b returned
  cases returned
  exact holds

theorem Alike.fail : Alike exec R (.fail e : Prog Op Ret Err α) Q :=
  fun _ _ related => ⟨rfl,related,fun _ returned => nomatch returned⟩

theorem Alike.bind (first : Alike exec R p Q) (rest : ∀ a,Q a → Alike exec R (f a) S) :
    Alike exec R (p.bind f) S := by
  intro v w related
  obtain ⟨same,after,shows⟩ := first v w related
  rw [Prog.run_bind,Prog.run_bind]
  cases here : p.run exec v with
  | mk answer v' =>
    cases there : p.run exec w with
    | mk answer' w' =>
      rw [here,there] at same after
      rw [here] at shows
      dsimp only at same after shows ⊢
      subst same
      cases answer' with
      | ok a => exact rest a (shows a rfl) v' w' after
      | error e => exact ⟨rfl,after,fun _ returned => nomatch returned⟩

theorem Prog.run_mapError (g : Err → Err') (p : Prog Op Ret Err α) (w : W) :
    (p.mapError g).run exec w = ((p.run exec w).1.mapError g,(p.run exec w).2) := by
  induction p generalizing w with
  | ret | fail => rfl
  | call op next ih => exact ih _ _

theorem Alike.mapError {g : Err → Err'} (first : Alike exec R p Q) : Alike exec R (p.mapError g) Q := by
  intro v w related
  obtain ⟨same,after,shows⟩ := first v w related
  rw [Prog.run_mapError,Prog.run_mapError]
  refine ⟨congrArg (Except.mapError g) same,after,fun a returned => shows a ?_⟩
  cases answer : (p.run exec v).1 with
  | ok b =>
    rw [answer] at returned
    exact congrArg _ (Except.ok.inj returned)
  | error e =>
    rw [answer] at returned
    cases returned

theorem Alike.check : Alike exec R (Prog.check r : Prog Op Ret Err α) fun a => r = .ok a := by
  cases r with
  | ok a => exact .ret rfl
  | error e => exact .fail

theorem Alike.refuse :
    Alike exec R (Prog.refuseIf condition e : Prog Op Ret Err Unit) fun _ => condition = false := by
  cases condition with
  | true => exact .fail
  | false => exact .ret rfl

theorem Alike.perform {op : Op} {Q : Ret op → Prop}
    (same : ∀ v w,R v w → (exec op w).1 = (exec op v).1 ∧ R (exec op v).2 (exec op w).2 ∧ Q (exec op v).1) :
    Alike exec R (Prog.perform op : Prog Op Ret Err (Ret op)) Q := by
  intro v w related
  obtain ⟨answer,after,shows⟩ := same v w related
  refine ⟨congrArg Except.ok answer,after,?_⟩
  intro a returned
  cases returned
  exact shows

theorem Alike.turned (here : ∀ v w,R v w → p.run exec v = (.error e,v))
    (there : ∀ v w,R v w → p.run exec w = (.error e,w)) : Alike exec R p Q := by
  intro v w related
  rw [here v w related,there v w related]
  exact ⟨rfl,related,fun _ returned => nomatch returned⟩

def Throws (exec : (op : Op) → W → Ret op × W) (p : Prog Op Ret Err α) (w : W) (E : Err → Prop) : Prop :=
  ∀ e,(p.run exec w).1 = .error e → E e

theorem Throws.ret : Throws exec (.ret a : Prog Op Ret Err α) w E := by
  intro e failed
  cases failed

theorem Throws.fail (allowed : E e) : Throws exec (.fail e : Prog Op Ret Err α) w E := by
  intro e failed
  cases failed
  exact allowed

theorem Throws.bind (first : Throws exec p w E)
    (rest : ∀ a,(p.run exec w).1 = .ok a → Throws exec (f a) (p.run exec w).2 E) : Throws exec (p.bind f) w E := by
  intro e failed
  rw [Prog.run_bind] at failed
  cases answer : p.run exec w with
  | mk result w' =>
    rw [answer] at failed
    cases result with
    | ok a =>
      have later := rest a (by rw [answer])
      rw [answer] at later
      exact later e failed
    | error e' =>
      cases failed
      exact first e (by rw [answer])

theorem Throws.past (unmoved : (p.run exec w).2 = w) (first : Throws exec p w E)
    (rest : ∀ a,Throws exec (f a) w E) : Throws exec (p.bind f) w E := by
  refine .bind first fun a _ => ?_
  rw [unmoved]
  exact rest a

theorem Throws.check (allowed : ∀ e,r = .error e → E e) : Throws exec (Prog.check r : Prog Op Ret Err α) w E := by
  intro e failed
  rw [Prog.run_check] at failed
  exact allowed e failed

theorem Throws.past_refuse {f : Unit → Prog Op Ret Err β} (allowed : E e) (rest : Throws exec (f ()) w E) : Throws exec ((Prog.refuseIf condition e).bind f) w E := by
  cases condition with
  | true => exact .fail allowed
  | false => exact rest

theorem Throws.perform {op : Op} : Throws exec (Prog.perform op : Prog Op Ret Err (Ret op)) w E := by
  intro e failed
  cases failed

end

end AtomicPrograms
