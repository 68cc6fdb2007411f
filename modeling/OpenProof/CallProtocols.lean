import OpenProof.AtomicPrograms

namespace CallProtocols
open AtomicPrograms

variable {Op : Type} {Ret : Op → Type} {Err α β W S : Type}

-- What the local variables of a call hold, as far as its operations and their answers
-- determine it, and what the call may ask for while they hold it.
structure Protocol (Op : Type) (Ret : Op → Type) (S : Type) where
  asks : S → Op → Prop
  after : S → (op : Op) → Ret op → S

def Follows (P : Protocol Op Ret S) (ends : S → Except Err α → Prop) : S → Prog Op Ret Err α → Prop
  | s,.ret a => ends s (.ok a)
  | s,.fail e => ends s (.error e)
  | s,.call op next => P.asks s op ∧ ∀ answer,Follows P ends (P.after s op answer) (next answer)

section
variable {P : Protocol Op Ret S} {s : S} {p : Prog Op Ret Err α} {f : α → Prog Op Ret Err β}
  {ends : S → Except Err β → Prop}

theorem Follows.bind (first : Follows P between s p) (rest : ∀ s' a,between s' (.ok a) → Follows P ends s' (f a))
    (stops : ∀ s' e,between s' (.error e) → ends s' (.error e)) : Follows P ends s (p.bind f) := by
  induction p generalizing s with
  | ret a => exact rest s a first
  | fail e => exact stops s e first
  | call op next ih => exact ⟨first.1,fun answer => ih answer (first.2 answer)⟩

theorem Follows.ask {f : Ret op → Prog Op Ret Err β} (asked : P.asks s op)
    (rest : ∀ answer,Follows P ends (P.after s op answer) (f answer)) :
    Follows P ends s ((Prog.perform op).bind f) := ⟨asked,rest⟩

theorem Follows.check {f : α → Prog Op Ret Err β} (rest : ∀ a,r = .ok a → Follows P ends s (f a))
    (stops : ∀ e,r = .error e → ends s (.error e)) : Follows P ends s ((Prog.check r).bind f) := by
  cases r with
  | ok a => exact rest a rfl
  | error e => exact stops e rfl

theorem Follows.refuse {f : Unit → Prog Op Ret Err β} (rest : condition = false → Follows P ends s (f ()))
    (stops : ends s (.error e)) : Follows P ends s ((Prog.refuseIf condition e).bind f) := by
  cases condition with
  | true => exact stops
  | false => exact rest rfl

theorem Follows.mono (follows : Follows P between s p) (weaken : ∀ s' r,between s' r → weaker s' r) : Follows P weaker s p := by
  induction p generalizing s with
  | ret | fail => exact weaken s _ follows
  | call op next ih => exact ⟨follows.1,fun answer => ih answer (follows.2 answer)⟩

theorem Follows.checked (holds : between s r) : Follows P between s (Prog.check r : Prog Op Ret Err α) := by
  cases r with
  | ok | error => exact holds

theorem Follows.mapError {Err' : Type} {f : Err → Err'} {post : S → Except Err' α → Prop}
    (follows : Follows P (fun s' r => post s' (r.mapError f)) s p) : Follows P post s (p.mapError f) := by
  induction p generalizing s with
  | ret | fail => exact follows
  | call op next ih => exact ⟨follows.1,fun answer => ih answer (follows.2 answer)⟩

theorem Follows.attempt {Err' : Type} (follows : Follows P between s p) :
    Follows P (fun s' r => ∃ outcome,r = .ok outcome ∧ between s' outcome) s
      (p.attempt : Prog Op Ret Err' (Except Err α)) := by
  induction p generalizing s with
  | ret | fail => exact ⟨_,rfl,follows⟩
  | call op next ih => exact ⟨follows.1,fun answer => ih answer (follows.2 answer)⟩

theorem Follows.past {quiet : Op → Prop} (only : p.Only quiet)
    (still : ∀ op,quiet op → P.asks s op ∧ ∀ answer,P.after s op answer = s)
    (rest : ∀ a,Follows P ends s (f a)) (stops : ∀ e,ends s (.error e)) : Follows P ends s (p.bind f) := by
  induction p with
  | ret a => exact rest a
  | fail e => exact stops e
  | call op next ih =>
    refine ⟨(still op only.1).1,fun answer => ?_⟩
    rw [(still op only.1).2 answer]
    exact ih answer (only.2 answer)

end

structure Member (Op : Type) (Ret : Op → Type) (Err α S : Type) where
  held : S
  rest : Prog Op Ret Err α

structure Crew (Op : Type) (Ret : Op → Type) (Err α W S : Type) where
  hist : History W
  members : List (Member Op Ret Err α S)

namespace Crew

def start (w : W) : Crew Op Ret Err α W S := ⟨⟨w,[]⟩,[]⟩

def held (crew : Crew Op Ret Err α W S) : List S := crew.members.map Member.held

end Crew

-- The system: what the calls are, what one of them may do in its turn, and what moves
-- the world besides them.
structure Setting (Op : Type) (Ret : Op → Type) (Err α W S : Type) where
  exec : (op : Op) → W → Ret op × W
  protocol : Protocol Op Ret S
  entry : S → Prog Op Ret Err α → Prop
  permits : S → Op → History W → Prop
  drift : W → W → Prop

inductive Step (G : Setting Op Ret Err α W S) :
    Crew Op Ret Err α W S → Event Op → Crew Op Ret Err α W S → Prop where
  | enter {crew : Crew Op Ret Err α W S} {s : S} {p : Prog Op Ret Err α} (allowed : G.entry s p) :
      Step G crew .enter ⟨crew.hist,crew.members ++ [⟨s,p⟩]⟩
  | act {crew : Crew Op Ret Err α W S} {i : Nat} {s : S} {op : Op} {next : Ret op → Prog Op Ret Err α}
      (waiting : crew.members[i]? = some ⟨s,.call op next⟩) (permitted : G.permits s op crew.hist) :
      Step G crew (.act i op)
        ⟨crew.hist.push (G.exec op crew.hist.now).2,
          crew.members.set i ⟨G.protocol.after s op (G.exec op crew.hist.now).1,
            next (G.exec op crew.hist.now).1⟩⟩
  | drift {crew : Crew Op Ret Err α W S} {w : W} (moved : G.drift crew.hist.now w) :
      Step G crew .drift ⟨crew.hist.push w,crew.members⟩

inductive Runs (G : Setting Op Ret Err α W S) (origin : Crew Op Ret Err α W S) :
    Crew Op Ret Err α W S → Prop where
  | nil : Runs G origin origin
  | step : Runs G origin crew → Step G crew event next → Runs G origin next

theorem Runs.trans {G : Setting Op Ret Err α W S} (one : Runs G a b) (two : Runs G b c) : Runs G a c := by
  induction two with
  | nil => exact one
  | step _ moved ih => exact .step ih moved

-- An invariant of the history and of what the calls hold, given that the calls keep
-- to their protocol.
structure Keeps (G : Setting Op Ret Err α W S) (ends : S → Except Err α → Prop)
    (inv : History W → List S → Prop) : Prop where
  follows : ∀ s p,G.entry s p → Follows G.protocol ends s p
  enters : ∀ h states s p,inv h states → G.entry s p → inv h (states ++ [s])
  acts : ∀ (h : History W) (states : List S) (i : Nat) (s : S) (op : Op),inv h states → states[i]? = some s →
    G.protocol.asks s op → G.permits s op h →
      inv (h.push (G.exec op h.now).2) (states.set i (G.protocol.after s op (G.exec op h.now).1))
  drifts : ∀ h states w,inv h states → G.drift h.now w → inv (h.push w) states

structure Crew.Sound (G : Setting Op Ret Err α W S) (ends : S → Except Err α → Prop)
    (inv : History W → List S → Prop) (crew : Crew Op Ret Err α W S) : Prop where
  holds : inv crew.hist crew.held
  follow : ∀ m ∈ crew.members,Follows G.protocol ends m.held m.rest

section
variable {G : Setting Op Ret Err α W S} {ends : S → Except Err α → Prop} {crew next later : Crew Op Ret Err α W S}

theorem Keeps.step (keeps : Keeps G ends inv) (sound : crew.Sound G ends inv) (moved : Step G crew event next) :
    next.Sound G ends inv := by
  cases moved with
  | @enter s p allowed =>
    constructor
    · simp only [Crew.held,List.map_append]
      exact keeps.enters _ _ s p sound.holds allowed
    · intro m present
      rcases List.mem_append.mp present with old | new
      · exact sound.follow m old
      · cases List.mem_singleton.mp new
        exact keeps.follows s p allowed
  | @act i s op rest waiting permitted =>
    have follows := sound.follow _ (List.mem_of_getElem? waiting)
    have known : crew.held[i]? = some s := by
      rw [Crew.held,List.getElem?_map,waiting]
      rfl
    constructor
    · simp only [Crew.held,List.map_set]
      exact keeps.acts _ _ i s op sound.holds known follows.1 permitted
    · intro m present
      rcases List.mem_or_eq_of_mem_set present with old | rfl
      · exact sound.follow m old
      · exact follows.2 _
  | drift moved => exact ⟨keeps.drifts _ _ _ sound.holds moved,sound.follow⟩

theorem Keeps.runs (keeps : Keeps G ends inv) (sound : crew.Sound G ends inv) (path : Runs G crew later) :
    later.Sound G ends inv := by
  induction path with
  | nil => exact sound
  | step _ moved ih => exact keeps.step ih moved

theorem Keeps.start (keeps : Keeps G ends inv) (holds : inv ⟨w,[]⟩ []) (path : Runs G (.start w) later) :
    later.Sound G ends inv := by
  refine keeps.runs ⟨holds,?_⟩ path
  intro m present
  cases present

theorem Runs.worlds (path : Runs G crew later) (member : w ∈ crew.hist.worlds) : w ∈ later.hist.worlds := by
  induction path with
  | nil => exact member
  | step _ moved ih =>
    cases moved with
    | enter allowed => exact ih
    | act | drift => exact List.mem_cons_of_mem _ ih

end

inductive Move (G : Setting Op Ret Err α W S) where
  | enter (s : S) (p : Prog Op Ret Err α) (allowed : G.entry s p)
  | act (member : Nat)
  | drift (change : W → W) (moved : ∀ w,G.drift w (change w))

section
variable {G : Setting Op Ret Err α W S} {crew next later : Crew Op Ret Err α W S}

def Move.apply (allows : S → Op → History W → Bool) (crew : Crew Op Ret Err α W S) :
    Move G → Option (Crew Op Ret Err α W S)
  | .enter s p _ => some ⟨crew.hist,crew.members ++ [⟨s,p⟩]⟩
  | .act i =>
    match crew.members[i]? with
    | some ⟨s,.call op rest⟩ =>
      if allows s op crew.hist then
        some ⟨crew.hist.push (G.exec op crew.hist.now).2,
          crew.members.set i ⟨G.protocol.after s op (G.exec op crew.hist.now).1,
            rest (G.exec op crew.hist.now).1⟩⟩
      else none
    | _ => none
  | .drift change _ => some ⟨crew.hist.push (change crew.hist.now),crew.members⟩

def play (allows : S → Op → History W → Bool) (moves : List (Move G)) (crew : Crew Op Ret Err α W S) :
    Option (Crew Op Ret Err α W S) :=
  moves.foldlM (fun crew move => move.apply allows crew) crew

variable {allows : S → Op → History W → Bool}

section
variable (correct : ∀ s op h,allows s op h = true → G.permits s op h)
include correct

theorem Move.apply_step {move : Move G} (moved : move.apply allows crew = some next) : ∃ event,Step G crew event next := by
  cases move with
  | enter s p allowed =>
    cases moved
    exact ⟨.enter,.enter allowed⟩
  | act i =>
    simp only [Move.apply] at moved
    split at moved
    · rename_i waiting
      split at moved
      · rename_i allowed
        cases moved
        exact ⟨_,.act waiting (correct _ _ _ allowed)⟩
      · cases moved
    · cases moved
  | drift change allowed =>
    cases moved
    exact ⟨.drift,.drift (allowed _)⟩

theorem play_runs {moves : List (Move G)} (played : play allows moves crew = some later) : Runs G crew later := by
  induction moves generalizing crew with
  | nil =>
    cases played
    exact .nil
  | cons move rest ih =>
    simp only [play,List.foldlM_cons,Option.bind_eq_bind,Option.bind_eq_some_iff] at played
    obtain ⟨next,first,further⟩ := played
    obtain ⟨event,moved⟩ := Move.apply_step correct first
    exact (Runs.step .nil moved).trans (ih further)

theorem play_reaches {moves : List (Move G)} (played : (play allows moves crew).any goal = true) :
    ∃ later,Runs G crew later ∧ goal later = true := by
  obtain ⟨later,reached,holds⟩ := Option.any_eq_true .. |>.mp played
  exact ⟨later,play_runs correct reached,holds⟩

end

def playThrough (allows : S → Op → History W → Bool) (moves : List (Move G)) (i : Nat) (rest : List (Move G))
    (crew : Crew Op Ret Err α W S)
    (goal : Crew Op Ret Err α W S → Crew Op Ret Err α W S → Crew Op Ret Err α W S → Bool) : Bool :=
  (play allows moves crew).any fun middle => ((Move.act i : Move G).apply allows middle).any fun next =>
    (play allows rest next).any fun later => goal middle next later

theorem playThrough_reaches (correct : ∀ s op h,allows s op h = true → G.permits s op h)
    {moves rest : List (Move G)} (played : playThrough allows moves i rest crew goal = true) :
    ∃ middle op next later,Runs G crew middle ∧ Step G middle (.act i op) next ∧ Runs G next later ∧
      goal middle next later = true := by
  obtain ⟨middle,reached,played⟩ := Option.any_eq_true .. |>.mp played
  obtain ⟨next,moved,played⟩ := Option.any_eq_true .. |>.mp played
  obtain ⟨later,further,holds⟩ := Option.any_eq_true .. |>.mp played
  simp only [Move.apply] at moved
  split at moved
  · rename_i waiting
    split at moved
    · rename_i allowed
      cases moved
      exact ⟨middle,_,_,later,play_runs correct reached,.act waiting (correct _ _ _ allowed),
        play_runs correct further,holds⟩
    · cases moved
  · cases moved

end

end CallProtocols
