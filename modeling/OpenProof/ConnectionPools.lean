import OpenProof.Foundation
import OpenProof.MovedValues

namespace OpenProof.ConnectionPools
open Foundation MovedValues

structure PoolConfig where
  connectionString : Text
  connections : Nat
  acquireTimeout : Duration

def PoolConfig.create (connectionString : Text) (connections : Nat) (acquireTimeout : Duration) : Result PoolConfig :=
  if connectionString.isEmpty || connections = 0 || connections > 256 || acquireTimeout ≤ 0 then
    fail .invalidArgument "The PostgreSQL pool configuration is invalid."
  else .ok ⟨connectionString,connections,acquireTimeout⟩

-- What `PQstatus` says of a connection that comes back, before and after the reset it may get.
structure Wire where
  status : Bool
  statusAfterReset : Bool

variable {Connection : Type}

-- `connect i` is the i-th connection asked for, when its status is fine.
def connectAll (connect : Nat → Option Connection) : Nat → Option (List Connection)
  | 0 => some []
  | index+1 => do
    let connections ← connectAll connect index
    let connection ← connect index
    return connections ++ [connection]

structure ConnectionPool (Connection : Type) where
  size : Nat
  connections : List Connection
  available : List Connection
  leases : Places Connection

namespace ConnectionPool

def create (config : PoolConfig) (connect : Nat → Option Connection) : Result (ConnectionPool Connection) :=
  match connectAll connect config.connections with
  | none => .error (.of .unavailable "The PostgreSQL database is unavailable."
      "A PostgreSQL pool connection could not be established.")
  | some connections => .ok ⟨config.connections,connections,connections,[]⟩

variable (pool : ConnectionPool Connection)

-- `wait_for` gives up only while nothing is available.
def acquire : Result (ConnectionPool Connection) :=
  match pool.available.getLast? with
  | none => fail .timeout "Timed out waiting for a database connection."
  | some connection =>
    .ok { pool with available := pool.available.dropLast, leases := pool.leases ++ [some connection] }

def release (wire : Wire) : Option Connection → ConnectionPool Connection
  | none => pool
  | some connection =>
    if !wire.status && !wire.statusAfterReset then pool
    else { pool with available := pool.available ++ [connection] }

end ConnectionPool

-- The steps of all clients, in the order the mutex gives them; a lease is named by when it was made.
inductive Call where
  | acquire
  | move (lease : Nat)
  | destroy (lease : Nat) (wire : Wire)

def step (pool : ConnectionPool Connection) : Call → ConnectionPool Connection
  | .acquire => pool.acquire.toOption.getD pool
  | .move lease => { pool with leases := empty pool.leases lease ++ [owner pool.leases lease] }
  | .destroy lease wire =>
    { pool with leases := empty pool.leases lease }.release wire (owner pool.leases lease)

def run (pool : ConnectionPool Connection) (calls : List Call) : ConnectionPool Connection := calls.foldl step pool

-- The connections whose lease ended while neither status was fine.
def dropped (pool : ConnectionPool Connection) : Call → List Connection
  | .acquire | .move _ => []
  | .destroy lease wire => if !wire.status && !wire.statusAfterReset then (owner pool.leases lease).toList else []

def lost (pool : ConnectionPool Connection) : List Call → List Connection
  | [] => []
  | call :: rest => dropped pool call ++ lost (step pool call) rest

def usable (pool : ConnectionPool Connection) : List Connection := pool.available ++ owned pool.leases

theorem acquired_usable {pool : ConnectionPool Connection} (done : pool.acquire = .ok later) :
    (usable later).Perm (usable pool) := by
  unfold ConnectionPool.acquire at done
  split at done
  · cases done
  rename_i connection last
  cases done
  obtain ⟨idle,split⟩ := List.getLast?_eq_some_iff.mp last
  simp only [usable,owned_made,Option.toList_some,split,List.dropLast_concat,List.append_assoc]
  exact (List.perm_append_comm).append_left idle

theorem step_accounts (pool : ConnectionPool Connection) (call : Call) :
    (usable (step pool call) ++ dropped pool call).Perm (usable pool) := by
  cases call with
  | acquire =>
    rw [dropped,List.append_nil,step]
    cases outcome : pool.acquire with
    | error e => exact .refl _
    | ok later => exact acquired_usable outcome
  | move lease =>
    simp only [step,dropped,usable,owned_made,List.append_nil]
    exact (owned_empty pool.leases lease).append_left _
  | destroy lease wire =>
    have left := (owned_empty pool.leases lease).append_left pool.available
    rw [← List.append_assoc] at left
    simp only [step,dropped]
    generalize owner pool.leases lease = ending at *
    cases ending with
    | none => simpa [ConnectionPool.release,usable] using left
    | some connection =>
      by_cases broken : (!wire.status && !wire.statusAfterReset) = true
      · simpa only [ConnectionPool.release,if_pos broken,usable] using left
      · simp only [ConnectionPool.release,if_neg broken,usable,List.append_nil]
        refine .trans ?_ left
        rw [List.append_assoc,List.append_assoc]
        exact (List.perm_append_comm).append_left _

theorem run_accounts (pool : ConnectionPool Connection) (calls : List Call) :
    (usable (run pool calls) ++ lost pool calls).Perm (usable pool) := by
  induction calls generalizing pool with
  | nil => simp [run,lost]
  | cons call rest ih =>
    have later := (ih (step pool call)).append_right (dropped pool call)
    refine .trans ?_ (later.trans (step_accounts pool call))
    rw [List.append_assoc]
    exact (List.perm_append_comm).append_left _

theorem connected_length (done : connectAll connect count = some connections) :
    (connections : List Connection).length = count := by
  induction count generalizing connections with
  | zero =>
    cases done
    rfl
  | succ count ih =>
    simp only [connectAll,Option.bind_eq_bind,Option.bind_eq_some_iff] at done
    obtain ⟨before,earlier,connection,made,same⟩ := done
    cases same
    rw [List.length_append,ih earlier]
    rfl

theorem acquire_fails_iff (pool : ConnectionPool Connection) : (∃ e,pool.acquire = .error e) ↔ pool.available = [] := by
  unfold ConnectionPool.acquire
  cases last : pool.available.getLast? with
  | none => simpa using List.getLast?_eq_none_iff.mp last
  | some connection =>
    simp only [reduceCtorEq,exists_false,false_iff]
    intro none
    simp [none] at last

-- Every connection is in one place: idle, in one lease, or given up for the life of the pool. So an
-- `acquire` fails exactly when the leases and the connections given up are all there are.
theorem leases_exclusive {connect : Nat → Option Connection}
    (configured : PoolConfig.create connectionString count acquireTimeout = .ok config)
    (created : ConnectionPool.create config connect = .ok fresh) (distinct : fresh.connections.Nodup) (calls : List Call) :
    (usable (run fresh calls) ++ lost fresh calls).Perm fresh.connections ∧
      (usable (run fresh calls) ++ lost fresh calls).Nodup ∧
      ((∃ e,(run fresh calls).acquire = .error e) ↔
        (owned (run fresh calls).leases).length+(lost fresh calls).length = count) ∧
      (owned (run fresh calls).leases).length ≤ count ∧ count ≤ 256 := by
  obtain ⟨allowed,configured⟩ := passed configured
  cases configured
  unfold ConnectionPool.create at created
  split at created
  · cases created
  rename_i connections made
  cases created
  have length := connected_length made
  have accounts := run_accounts ⟨count,connections,connections,[]⟩ calls
  have start : usable (⟨count,connections,connections,[]⟩ : ConnectionPool Connection) = connections := by
    simp [usable,owned]
  rw [start] at accounts
  have total := accounts.length_eq
  simp only [usable,List.length_append] at total
  simp only [Bool.or_eq_true,decide_eq_true_eq,not_or] at allowed
  dsimp only at length ⊢
  refine ⟨accounts,accounts.nodup_iff.mpr distinct,?_,by omega,by omega⟩
  rw [acquire_fails_iff,← List.length_eq_zero_iff]
  omega

-- Two leases of two connections, and one of them has come back broken: the next client waits in vain.
theorem leases_exclusive_broken :
    ∃ e,(run (⟨2,[10,11],[10,11],[]⟩ : ConnectionPool Nat) [.acquire,.acquire,.move 0,.destroy 2 ⟨false,false⟩]).acquire = .error e := by
  have configured : PoolConfig.create "host=db" 2 5000 = .ok ⟨"host=db",2,5000⟩ :=
    if_neg (by decide)
  have created : ConnectionPool.create ⟨"host=db",2,5000⟩ (fun i => some (10+i)) =
      .ok (⟨2,[10,11],[10,11],[]⟩ : ConnectionPool Nat) := rfl
  exact (leases_exclusive configured created (by decide) _).2.2.1.mpr rfl

end OpenProof.ConnectionPools
