import OpenProof.CallTraces

namespace CallEmbeddings
open AtomicPrograms AtomicPrograms.Prog

variable {Op Op' : Type} {Ret : Op → Type} {Ret' : Op' → Type} {Err Err' α β W V : Type}

def embed (send : Op → Op') (back : (op : Op) → Ret' (send op) → Ret op) : Prog Op Ret Err α → Prog Op' Ret' Err α
  | .ret a => .ret a
  | .fail e => .fail e
  | .call op next => .call (send op) fun answer => embed send back (next (back op answer))

section

@[simp] theorem embed_ret (a : α) : embed send back (.ret a : Prog Op Ret Err α) = .ret a := rfl
@[simp] theorem embed_fail (e : Err) : embed send back (.fail e : Prog Op Ret Err α) = .fail e := rfl

@[simp] theorem embed_check (r : Except Err α) : embed send back (check r : Prog Op Ret Err α) = check r := by
  cases r <;> rfl

@[simp] theorem embed_refuseIf (condition : Bool) (e : Err) :
    embed send back (refuseIf condition e : Prog Op Ret Err Unit) = refuseIf condition e := by
  cases condition <;> rfl

@[simp] theorem embed_bind : embed send back (p.bind f) = (embed send back p).bind fun a => embed send back (f a) := by
  induction p with
  | ret | fail => rfl
  | call op next ih => exact congrArg (Prog.call (send op)) (funext fun answer => ih _)

end

-- A world that holds another, and answers its operations as that one does.
structure Seats (exec : (op : Op) → W → Ret op × W) (exec' : (op : Op') → V → Ret' op × V) (send : Op → Op')
    (back : (op : Op) → Ret' (send op) → Ret op) (view : V → W) (put : W → V → V) : Prop where
  answered : ∀ op v,back op (exec' (send op) v).1 = (exec op (view v)).1
  left : ∀ op v,(exec' (send op) v).2 = put (exec op (view v)).2 v
  view_put : ∀ w v,view (put w v) = w
  put_put : ∀ w w' v,put w (put w' v) = put w v
  put_view : ∀ v,put (view v) v = v

section

theorem Seats.run (seats : Seats exec exec' send back view put) (p : Prog Op Ret Err α) (v : V) :
    (embed send back p).run exec' v = ((p.run exec (view v)).1,put (p.run exec (view v)).2 v) := by
  induction p generalizing v with
  | ret | fail => exact congrArg (Prod.mk _) (seats.put_view v).symm
  | call op next ih =>
    have onward := ih (back op (exec' (send op) v).1) (exec' (send op) v).2
    rw [seats.answered,seats.left,seats.view_put,seats.put_put] at onward
    simp only [embed,Prog.run]
    rw [seats.answered,seats.left]
    exact onward

end

end CallEmbeddings
