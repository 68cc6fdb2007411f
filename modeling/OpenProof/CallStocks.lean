import OpenProof.CallHistories

namespace CallStocks
open CallTraces CallLogs CallHistories

variable {Op : Type} {Ret : Op → Type} {Err α W K V : Type}

-- Things kept under keys, put in by some exchanges and taken out by others.
structure Stock (S : Stage Op Ret W) (K V : Type) where
  held : W → K → Option V
  key : V → K
  put : V → Exchange Op Ret → Prop
  take : K → V → Exchange Op Ret → Prop
  one : ∀ {v v' exchange},put v exchange → put v' exchange → v = v'
  puts : ∀ {op w v},put v ⟨op,(S.exec op w).1⟩ → held (S.exec op w).2 (key v) = some v
  takes : ∀ {op w k v},take k v ⟨op,(S.exec op w).1⟩ → held w k = some v ∧ held (S.exec op w).2 k = none
  brings : ∀ {op w k v},held (S.exec op w).2 k = some v → held w k = some v ∨ key v = k ∧ put v ⟨op,(S.exec op w).1⟩
  still : ∀ {w w'},S.drift w w' → ∀ k,held w' k = held w k

namespace Stock
variable {S : Stage Op Ret W} (stock : Stock S K V)

def Puts (k : K) (exchange : Exchange Op Ret) : Prop := ∃ v,stock.key v = k ∧ stock.put v exchange

def Takes (k : K) (exchange : Exchange Op Ret) : Prop := ∃ v,stock.take k v exchange

def Taken (log before : List (Entry Op Ret W)) (putting : Entry Op Ret W) (i : Nat) (v : V) : Prop :=
  ∃ between : List (Entry _ _ _),∃ taking : Entry _ _ _,∃ after,log = before ++ putting :: (between ++ taking :: after) ∧ stock.put v putting.exchange ∧
    (∀ entry ∈ between,¬stock.Puts (stock.key v) entry.exchange) ∧ taking.caller = i ∧
      stock.take (stock.key v) v taking.exchange

theorem once (k : K) : Once S (stock.Takes k) (stock.Puts k) fun w => stock.held w k = none where
  spends := by
    rintro op w ⟨v,taken⟩
    obtain ⟨there,gone⟩ := stock.takes taken
    exact ⟨by simp [there],gone⟩
  lasts := by
    intro op w absent unput
    apply Option.eq_none_iff_forall_not_mem.mpr
    intro v there
    rcases stock.brings there with before | ⟨mine,put⟩
    · simp [absent] at before
    · exact unput ⟨v,mine,put⟩
  still := by
    intro w w' moved absent
    rw [stock.still moved]
    exact absent

theorem stocked : Stocked (X:=K × V) S (fun exchange kept => stock.key kept.2 = kept.1 ∧ stock.put kept.2 exchange)
    fun w kept => stock.held w kept.1 = some kept.2 where
  brought _ _ _ there := stock.brings there
  still _ _ kept moved there := (stock.still moved kept.1).symm.trans there

variable {stock} {initial : W} {floor : Floor Op Ret Err α W} {before first after : List (Entry Op Ret W)}
  {putting taking : Entry Op Ret W} {i j : Nat} {k : K} {v one two : V}

theorem taken_once (played : Plays S initial floor) (mine : stock.Taken floor.log before putting i one)
    (yours : stock.Taken floor.log before putting j two) : i = j := by
  obtain ⟨between,taking,after,split,put,silent,rfl,taken⟩ := mine
  obtain ⟨between',taking',after',split',put',silent',rfl,taken'⟩ := yours
  obtain rfl := stock.one put put'
  have twice := (stock.once (stock.key one)).twice played
  have same : between ++ taking :: after = between' ++ taking' :: after' := by
    rw [split] at split'
    exact (List.cons.inj (List.append_cancel_left split')).2
  rcases List.append_eq_append_iff.mp same with ⟨more,rfl,rest⟩ | ⟨more,rfl,rest⟩
  · cases more with
    | nil => rw [(List.cons.inj rest).1]
    | cons head tail =>
      obtain ⟨rfl,rfl⟩ := List.cons.inj rest
      obtain ⟨entry,inside,renewed⟩ := twice (before ++ putting :: between) taking tail taking' after'
        (by simp [split]) ⟨_,taken⟩ ⟨_,taken'⟩
      exact absurd renewed (silent' entry (by simp [inside]))
  · cases more with
    | nil => rw [(List.cons.inj rest).1]
    | cons head tail =>
      obtain ⟨rfl,rfl⟩ := List.cons.inj rest
      obtain ⟨entry,inside,renewed⟩ := twice (before ++ putting :: between') taking' tail taking after
        (by simp [split']) ⟨_,taken'⟩ ⟨_,taken⟩
      exact absurd renewed (silent entry (by simp [inside]))

theorem held_since (played : Plays S initial floor)
    (split : floor.log = before ++ putting :: (between ++ taking :: after)) (put : stock.put one putting.exchange)
    (silent : ∀ entry ∈ between,¬stock.Puts (stock.key one) entry.exchange)
    (there : stock.held taking.found (stock.key one) = some two) : two = one := by
  have only : ∀ v,stock.held (S.exec putting.exchange.1 putting.found).2 (stock.key one) = some v → v = one := by
    intro v found
    rw [← Plays.exchanged played putting (by simp [split])] at put
    rw [stock.puts put] at found
    exact (Option.some.inj found).symm
  refine kept_until (φ:=fun w => ∀ v,stock.held w (stock.key one) = some v → v = one) played ?_ split only ?_ two there
  · intro w w' moved known v found
    exact known v ((stock.still moved _).symm.trans found)
  · intro entry inside known v found
    rcases stock.brings found with old | ⟨here,new⟩
    · exact known v old
    · rw [Plays.exchanged played entry (by simp [split,inside])] at new
      exact absurd ⟨v,here,new⟩ (silent entry inside)

variable (stock)

theorem found_put (fresh : stock.held initial k = none) (played : Plays S initial floor)
    (split : floor.log = first ++ taking :: after) (there : stock.held taking.found k = some v) :
    ∃ before,∃ putting : Entry _ _ _,∃ between : List (Entry _ _ _),first = before ++ putting :: between ∧ stock.key v = k ∧ stock.put v putting.exchange ∧
      ∀ entry ∈ between,¬stock.Puts k entry.exchange := by
  rcases stock.stocked.before (x:=(k,v)) played first taking after split there with impossible | ⟨earlier,inside,mine,put⟩
  · simp [fresh] at impossible
  · obtain ⟨before,putting,between,rfl,⟨other,rfl,brought⟩,silent⟩ :=
      last_such (fun entry : Entry Op Ret W => stock.Puts k entry.exchange) ⟨earlier,inside,v,mine,put⟩
    have shape : floor.log = before ++ putting :: (between ++ taking :: after) := by rw [split]; simp
    refine ⟨before,putting,between,rfl,mine,?_,silent⟩
    rw [held_since played shape brought silent there]
    exact brought

end Stock

end CallStocks
