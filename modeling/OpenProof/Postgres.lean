import OpenProof.Foundation

namespace OpenProof.Postgres
open Foundation

def uniqueViolation : Text := "23505"
def foreignKeyViolation : Text := "23503"
def checkViolation : Text := "23514"
def serializationFailure : Text := "40001"

-- `state` is the SQLSTATE of a result, where there is a result that has one.
def databaseError (state : Option Text) (operation : Text) : Error :=
  let detail := operation ++ Text.of " failed" ++
    state.elim (Text.of ".") fun state => Text.of " (SQLSTATE " ++ state ++ Text.of ")."
  let code :=
    if state = some uniqueViolation then ErrorCode.alreadyExists
    else if state = some foreignKeyViolation ∨ state = some checkViolation then .failedPrecondition
    else if state = some serializationFailure then .conflict
    else .unavailable
  .of code (defaultErrorMessage code) detail

-- What becomes of a statement besides what it says: no connection is had or the server turns
-- it down, or the server has carried it out and the answer is lost.
inductive Connection where
  | served
  | refused (e : Error)
  | lost (e : Error)

def Connection.run {T α : Type} (connection : Connection) (statement : T → Result α × T) (tables : T) : Result α × T :=
  match connection with
  | .served => statement tables
  | .refused e => (.error e,tables)
  | .lost e => (.error e,(statement tables).2)

theorem Connection.run_cases {T α : Type} (connection : Connection) (statement : T → Result α × T) (tables : T) :
    connection.run statement tables = statement tables ∨ ∃ e,connection.run statement tables = (.error e,tables) ∨
      connection.run statement tables = (.error e,(statement tables).2) := by
  cases connection with
  | served => exact .inl rfl
  | refused e => exact .inr ⟨e,.inl rfl⟩
  | lost e => exact .inr ⟨e,.inr rfl⟩

theorem Connection.run_ok {T α : Type} {connection : Connection} {statement : T → Result α × T} {tables : T} {a : α}
    (done : (connection.run statement tables).1 = .ok a) : connection.run statement tables = statement tables := by
  rcases connection.run_cases statement tables with same | ⟨e,same | same⟩
  · exact same
  · rw [same] at done
    cases done
  · rw [same] at done
    cases done

end OpenProof.Postgres
