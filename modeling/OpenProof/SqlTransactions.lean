import OpenProof.AtomicPrograms

namespace SqlTransactions
open AtomicPrograms Prog

variable {Stmt : Type} {R : Stmt → Type} {T E N Err α β : Type}

-- What a client asks of a server.
inductive SqlOp (Stmt : Type) where
  | start
  | run (statement : Stmt)
  | commit
  | rollback

abbrev SqlOp.Ret (R : Stmt → Type) (E : Type) : SqlOp Stmt → Type
  | .start => Except E Unit
  | .run statement => Except E (R statement)
  | .commit => Except E Unit
  | .rollback => Unit

-- What a server makes of a request besides what it says: it may turn it down, and what it
-- is left to choose it chooses.
structure Verdict (E N : Type) where
  refusal : Option E
  chosen : N

-- One connection: the committed tables, and those its open transaction sees.
structure Server (T E N : Type) where
  tables : T
  working : Option T
  verdicts : List (Verdict E N)

namespace Server
variable [Inhabited N] (server : Server T E N)

def verdict : Verdict E N := server.verdicts.headD ⟨none,default⟩
def next : Server T E N := { server with verdicts := server.verdicts.tail }

-- A commit that is turned down has rolled back. After a refused statement an open transaction
-- takes nothing but a rollback; whoever asks for more would have to be modelled further.
def exec (meaning : (statement : Stmt) → N → T → Except E (R statement × T)) :
    (op : SqlOp Stmt) → Server T E N → op.Ret R E × Server T E N
  | .start,server =>
    match server.verdict.refusal with
    | some e => (.error e,server.next)
    | none => (.ok (),{ server.next with working := some server.tables })
  | .run statement,server =>
    match server.verdict.refusal with
    | some e => (.error e,server.next)
    | none =>
      match meaning statement server.verdict.chosen (server.working.getD server.tables) with
      | .error e => (.error e,server.next)
      | .ok (answer,left) =>
        if server.working.isSome then (.ok answer,{ server.next with working := some left })
        else (.ok answer,{ server.next with tables := left })
  | .commit,server =>
    match server.verdict.refusal with
    | some e => (.error e,{ server.next with working := none })
    | none => (.ok (),{ server.next with tables := server.working.getD server.tables,working := none })
  | .rollback,server => ((),{ server.next with working := none })

end Server

abbrev Sql (R : Stmt → Type) (E Err α : Type) := Prog (SqlOp Stmt) (SqlOp.Ret R E) Err α

def named (name : E → Err) (answer : Except E α) : Sql R E Err α := check (answer.mapError name)

def statement (asked : Stmt) (name : E → Err) : Sql R E Err (R asked) := (perform (.run asked)).bind (named name)

-- `for (...) { status = run(...); if (!status) return failTransaction(status.error()); }`
def forEach {X : Type} (act : X → Sql R E Err Unit) : List X → Sql R E Err Unit
  | [] => .ret ()
  | x :: rest => (act x).bind fun _ => forEach act rest

def conclude (committing : E → Err) : Except Err α → Sql R E Err α
  | .error e => (perform .rollback).bind fun _ => .fail e
  | .ok a => (perform .commit).bind fun done => (named committing done).bind fun _ => .ret a

def transact (starting committing : E → Err) (body : Sql R E Err α) : Sql R E Err α :=
  (perform .start).bind fun started => (named starting started).bind fun _ => body.attempt.bind (conclude committing)

def rehearse (starting : E → Err) (body : Sql R E Err α) : Sql R E Err α :=
  (perform .start).bind fun started => (named starting started).bind fun _ =>
    body.attempt.bind fun outcome => (perform .rollback).bind fun _ => check outcome

section
variable [Inhabited N] {meaning : (statement : Stmt) → N → T → Except E (R statement × T)} {tables : T}
  {p : Sql R E Err α} {f : α → Sql R E Err β} {mid weaker : α → T → Prop} {post : β → T → Prop}

-- What part of a transaction does that finds the tables like that: the committed ones it leaves
-- alone, and of its own it tells where it has gone through.
def Within (meaning : (statement : Stmt) → N → T → Except E (R statement × T)) (p : Sql R E Err α) (tables : T)
    (post : α → T → Prop) : Prop :=
  ∀ server : Server T E N,server.working = some tables → (p.run (Server.exec meaning) server).2.tables = server.tables ∧
    ∃ left,(p.run (Server.exec meaning) server).2.working = some left ∧
      ∀ a,(p.run (Server.exec meaning) server).1 = .ok a → post a left

theorem Within.ret (holds : post a tables) : Within meaning (.ret a : Sql R E Err β) tables post := by
  intro server working
  refine ⟨rfl,tables,working,?_⟩
  rintro b same
  cases same
  exact holds

theorem Within.fail : Within meaning (.fail e : Sql R E Err β) tables post := by
  intro server working
  refine ⟨rfl,tables,working,?_⟩
  rintro b impossible
  cases impossible

theorem Within.bind (first : Within meaning p tables mid) (rest : ∀ a left,mid a left → Within meaning (f a) left post) :
    Within meaning (p.bind f) tables post := by
  intro server working
  obtain ⟨kept,left,there,holds⟩ := first server working
  cases done : (p.run (Server.exec meaning) server).1 with
  | error e =>
    rw [run_bind_error done]
    refine ⟨kept,left,there,?_⟩
    rintro b impossible
    cases impossible
  | ok a =>
    rw [run_bind_ok done]
    obtain ⟨kept',later⟩ := rest a left (holds a done) _ there
    exact ⟨kept'.trans kept,later⟩

theorem Within.mono (holds : Within meaning p tables mid) (weaken : ∀ a left,mid a left → weaker a left) :
    Within meaning p tables weaker := by
  intro server working
  obtain ⟨kept,left,there,done⟩ := holds server working
  exact ⟨kept,left,there,fun a same => weaken a left (done a same)⟩

theorem Within.check (rest : ∀ a,r = .ok a → Within meaning (f a) tables post) :
    Within meaning ((check r).bind f) tables post := by
  cases r with
  | error e => exact .fail
  | ok a => exact rest a rfl

theorem Within.refuseIf {f : Unit → Sql R E Err β} (rest : condition = false → Within meaning (f ()) tables post) :
    Within meaning ((refuseIf condition e).bind f) tables post := by
  cases condition with
  | true => exact .fail
  | false => exact rest rfl

theorem Within.statement
    (means : ∀ chosen answer left,meaning asked chosen tables = .ok (answer,left) → done answer left) :
    Within meaning (SqlTransactions.statement asked name : Sql R E Err (R asked)) tables done := by
  intro server working
  have found : server.working.getD server.tables = tables := by rw [working,Option.getD_some]
  unfold SqlTransactions.statement named
  rw [run_perform_bind,run_check]
  unfold Server.exec
  dsimp only
  cases server.verdict.refusal with
  | some e =>
    refine ⟨rfl,tables,working,?_⟩
    rintro b impossible
    cases impossible
  | none =>
    rw [found,working]
    cases said : meaning asked server.verdict.chosen tables with
    | error e =>
      refine ⟨rfl,tables,working,?_⟩
      rintro b impossible
      cases impossible
    | ok outcome =>
      obtain ⟨answer,left⟩ := outcome
      refine ⟨rfl,left,rfl,?_⟩
      rintro b same
      cases same
      exact means _ answer left said

theorem Within.reads (means : ∀ chosen,meaning asked chosen tables = .ok (said,tables)) :
    Within meaning (SqlTransactions.statement asked name : Sql R E Err (R asked)) tables fun answer left =>
      answer = said ∧ left = tables := by
  apply Within.statement
  intro chosen answer left done
  rw [means chosen] at done
  cases done
  exact ⟨rfl,rfl⟩

theorem statement_reads {server : Server T E N} (idle : server.working = none)
    (means : ∀ chosen,meaning asked chosen server.tables = .ok (said,server.tables)) :
    (SqlTransactions.statement asked name : Sql R E Err (R asked)).run (Server.exec meaning) server =
      (server.verdict.refusal.elim (.ok said) fun e => .error (name e),server.next) := by
  unfold SqlTransactions.statement named
  rw [run_perform_bind,run_check]
  unfold Server.exec
  dsimp only
  cases server.verdict.refusal with
  | some e => rfl
  | none =>
    rw [idle,Option.getD_none,means]
    rfl

theorem Within.attempt (holds : Within meaning p tables mid) :
    Within meaning (p.attempt : Sql R E Err (Except Err α)) tables fun r left => ∀ a,r = .ok a → mid a left := by
  intro server working
  rw [run_attempt]
  obtain ⟨kept,left,there,done⟩ := holds server working
  refine ⟨kept,left,there,?_⟩
  intro r same a found
  cases same
  exact done a found

theorem Within.forEach {X : Type} {act : X → Sql R E Err Unit} (goes : List X → T → Prop) {items : List X}
    (each : ∀ x rest left,goes (x :: rest) left → Within meaning (act x) left fun _ later => goes rest later)
    (holds : goes items tables) :
    Within meaning (SqlTransactions.forEach act items) tables fun _ left => goes [] left := by
  induction items generalizing tables with
  | nil => exact .ret holds
  | cons x rest ih => exact .bind (each x rest tables holds) fun _ left after => ih after

def Settled (tables : T) (post : β → T → Prop) (ran : Except Err β × Server T E N) : Prop :=
  ran.2.working = none ∧ ((∃ e,ran.1 = .error e ∧ ran.2.tables = tables) ∨ ∃ a,ran.1 = .ok a ∧ post a ran.2.tables)

theorem conclude_settled (meaning : (statement : Stmt) → N → T → Except E (R statement × T)) (committing : E → Err)
    {server : Server T E N} (there : server.working = some left) (holds : ∀ a,outcome = .ok a → mid a left) :
    Settled server.tables mid ((conclude committing outcome : Sql R E Err α).run (Server.exec meaning) server) := by
  cases outcome with
  | error e => exact ⟨rfl,.inl ⟨e,rfl,rfl⟩⟩
  | ok a =>
    unfold conclude
    rw [run_perform_bind]
    unfold Server.exec
    dsimp only
    cases server.verdict.refusal with
    | some e => exact ⟨rfl,.inl ⟨_,rfl,rfl⟩⟩
    | none =>
      refine ⟨rfl,.inr ⟨a,rfl,?_⟩⟩
      rw [there,Option.getD_some]
      exact holds a rfl

def Server.opened (server : Server T E N) : Server T E N := { server.next with working := some server.tables }

theorem start_opened (meaning : (statement : Stmt) → N → T → Except E (R statement × T)) {server : Server T E N}
    (started : server.verdict.refusal = none) : Server.exec meaning .start server = (.ok (),server.opened) := by
  unfold Server.exec
  dsimp only
  rw [started]
  rfl

theorem conclude_ok (meaning : (statement : Stmt) → N → T → Except E (R statement × T)) {server : Server T E N}
    (done : ((conclude committing outcome : Sql R E Err α).run (Server.exec meaning) server).1 = .ok a) :
    outcome = .ok a := by
  cases outcome with
  | error e => cases done
  | ok b =>
    unfold conclude at done
    rw [run_perform_bind] at done
    unfold Server.exec at done
    dsimp only at done
    cases refused : server.verdict.refusal with
    | some e =>
      rw [refused] at done
      cases done
    | none =>
      rw [refused] at done
      cases done
      rfl

theorem transact_refused (meaning : (statement : Stmt) → N → T → Except E (R statement × T))
    {starting committing : E → Err} {body : Sql R E Err α} {server : Server T E N} {e : E}
    (refused : server.verdict.refusal = some e) :
    (transact starting committing body).run (Server.exec meaning) server = (.error (starting e),server.next) := by
  unfold transact
  rw [run_perform_bind]
  unfold Server.exec
  dsimp only
  rw [refused]
  rfl

theorem transact_run (meaning : (statement : Stmt) → N → T → Except E (R statement × T)) {starting committing : E → Err}
    {body : Sql R E Err α} {server : Server T E N} (started : server.verdict.refusal = none) :
    (transact starting committing body).run (Server.exec meaning) server =
      (conclude committing (body.run (Server.exec meaning) server.opened).1).run (Server.exec meaning)
        (body.run (Server.exec meaning) server.opened).2 := by
  unfold transact
  rw [run_perform_bind,start_opened meaning started]
  change (body.attempt.bind (conclude committing)).run (Server.exec meaning) server.opened = _
  rw [run_bind,run_attempt]

theorem transact_settled {starting committing : E → Err} {body : Sql R E Err α} {server : Server T E N}
    (idle : server.working = none) (within : Within meaning body server.tables mid) :
    Settled server.tables mid ((transact starting committing body).run (Server.exec meaning) server) := by
  cases refused : server.verdict.refusal with
  | some e =>
    rw [transact_refused meaning refused]
    exact ⟨idle,.inl ⟨_,rfl,rfl⟩⟩
  | none =>
    rw [transact_run meaning refused]
    obtain ⟨kept,left,there,holds⟩ := within server.opened rfl
    have ending := conclude_settled meaning committing there holds
    exact kept ▸ ending

theorem rehearse_refused (meaning : (statement : Stmt) → N → T → Except E (R statement × T)) {starting : E → Err}
    {body : Sql R E Err α} {server : Server T E N} {e : E} (refused : server.verdict.refusal = some e) :
    (rehearse starting body).run (Server.exec meaning) server = (.error (starting e),server.next) := by
  unfold rehearse
  rw [run_perform_bind]
  unfold Server.exec
  dsimp only
  rw [refused]
  rfl

theorem rehearse_run (meaning : (statement : Stmt) → N → T → Except E (R statement × T)) {starting : E → Err}
    {body : Sql R E Err α} {server : Server T E N} (started : server.verdict.refusal = none) :
    (rehearse starting body).run (Server.exec meaning) server = ((body.run (Server.exec meaning) server.opened).1,
        { (body.run (Server.exec meaning) server.opened).2.next with working := none }) := by
  unfold rehearse
  rw [run_perform_bind,start_opened meaning started]
  change ((body.attempt.bind fun outcome => (perform .rollback).bind fun _ => check outcome).run (Server.exec meaning)
    server.opened) = _
  rw [run_bind,run_attempt]
  dsimp only
  rw [run_perform_bind,run_check]
  rfl

theorem rehearse_settled {starting : E → Err} {body : Sql R E Err α} {server : Server T E N}
    (idle : server.working = none) (within : Within meaning body server.tables mid) :
    ((rehearse starting body).run (Server.exec meaning) server).2.working = none ∧
      ((rehearse starting body).run (Server.exec meaning) server).2.tables = server.tables ∧
      ∀ a,((rehearse starting body).run (Server.exec meaning) server).1 = .ok a → ∃ left,mid a left := by
  cases refused : server.verdict.refusal with
  | some e =>
    rw [rehearse_refused meaning refused]
    refine ⟨idle,rfl,?_⟩
    rintro a impossible
    cases impossible
  | none =>
    rw [rehearse_run meaning refused]
    obtain ⟨kept,left,-,holds⟩ := within server.opened rfl
    exact ⟨rfl,kept,fun a done => ⟨left,holds a done⟩⟩

def Willing (server : Server T E N) : Prop := ∀ verdict ∈ server.verdicts,verdict.refusal = none

theorem Willing.verdict {server : Server T E N} (willing : Willing server) : server.verdict.refusal = none := by
  obtain ⟨committed,working,verdicts⟩ := server
  cases verdicts with
  | nil => rfl
  | cons verdict later => exact willing verdict List.mem_cons_self

theorem exec_verdicts : (Server.exec meaning op server).2.verdicts = server.verdicts.tail := by
  unfold Server.exec
  cases op with
  | run statement =>
    dsimp only
    split
    · rfl
    · split
      · rfl
      · split <;> rfl
  | start | commit => dsimp only; split <;> rfl
  | rollback => rfl

theorem Willing.run {server : Server T E N} (willing : Willing server) :
    Willing (p.run (Server.exec meaning) server).2 := by
  induction p generalizing server with
  | ret | fail => exact willing
  | call op next ih =>
    apply ih
    intro verdict inside
    rw [exec_verdicts] at inside
    exact willing verdict (List.mem_of_mem_tail inside)

theorem Willing.statement {server : Server T E N} (willing : Willing server) (working : server.working = some tables)
    (means : meaning asked server.verdict.chosen tables = .ok (answer,left)) :
    (SqlTransactions.statement asked name : Sql R E Err (R asked)).run (Server.exec meaning) server =
      (.ok answer,{ server.next with working := some left }) := by
  have found : server.working.getD server.tables = tables := by rw [working,Option.getD_some]
  unfold SqlTransactions.statement named
  rw [run_perform_bind,run_check]
  unfold Server.exec
  dsimp only
  rw [willing.verdict]
  rw [found,means,working]
  rfl

theorem Willing.conclude {server : Server T E N} (willing : Willing server) :
    ((SqlTransactions.conclude committing (.ok a) : Sql R E Err α).run (Server.exec meaning) server).1 = .ok a := by
  unfold SqlTransactions.conclude
  rw [run_perform_bind]
  unfold Server.exec
  dsimp only
  rw [willing.verdict]
  rfl

end

end SqlTransactions
