import OpenProof.AccountService
import OpenProof.CallEmbeddings

namespace OpenProof.CeremonyWorld
open AtomicPrograms CallEmbeddings Foundation ExternalIdentities AccountWorld Identities

structure SessionIdTag
abbrev SessionId := StrongId SessionIdTag

inductive SessionState where
  | active
  | revoked
  | expired
  deriving DecidableEq

structure Session where
  identity : IdentityId
  state : SessionState
  revokedAt : Option Instant
  deriving DecidableEq

-- `InMemorySessionRepository`, without its index of tokens.
abbrev Sessions := Map SessionId Session

namespace Sessions

def active (identity : IdentityId) (session : Session) : Bool := session.identity = identity && session.state = .active

def revokeAll (identity : IdentityId) (now : Instant) (sessions : Sessions) : Result Nat × Sessions :=
  (.ok (sessions.elements.countP (active identity)),sessions.map fun _ session =>
    if active identity session then { session with state := .revoked, revokedAt := some now } else session)

end Sessions

inductive CeremonyOp where
  | account (op : AccountOp)
  | rebindSubject (identity : IdentityId) (previous replacement : ExternalSubject)
  | changePassword (subject : ExternalSubject) (password : Text)
  | revokeAll (identity : IdentityId) (now : Instant)

abbrev CeremonyOp.Ret : CeremonyOp → Type
  | .account op => op.Ret
  | .rebindSubject .. => Result Unit
  | .changePassword .. => Result Unit
  | .revokeAll .. => Result Nat

structure CeremonyState extends AccountState where
  sessions : Sessions

def execCeremony : (op : CeremonyOp) → CeremonyState → op.Ret × CeremonyState
  | .account op,w => ((exec op w.toAccountState).1,{ w with toAccountState := (exec op w.toAccountState).2 })
  | .rebindSubject identity previous replacement,w =>
    let r := w.accounts.rebindSubject identity previous replacement
    (r.1,{ w with accounts := r.2 })
  | .changePassword subject password,w =>
    let r := w.accounts.changePassword subject (w.hasher password)
    (r.1,{ w with accounts := r.2 })
  | .revokeAll identity now,w =>
    let r := w.sessions.revokeAll identity now
    (r.1,{ w with sessions := r.2 })

abbrev CeremonyCall (α : Type) := Prog CeremonyOp CeremonyOp.Ret Error α

def onward (p : AccountCall α) : CeremonyCall α := embed CeremonyOp.account (fun _ answer => answer) p

def perform (op : AccountOp) : CeremonyCall op.Ret := .perform (CeremonyOp.account op)

theorem seated : Seats exec execCeremony CeremonyOp.account (fun _ answer => answer) CeremonyState.toAccountState
    fun account w => { w with toAccountState := account } where
  answered _ _ := rfl
  left _ _ := rfl
  view_put _ _ := rfl
  put_put _ _ _ := rfl
  put_view _ := rfl

theorem onward_run (p : AccountCall α) (w : CeremonyState) : (onward p).run execCeremony w =
    ((p.run exec w.toAccountState).1,{ w with toAccountState := (p.run exec w.toAccountState).2 }) := seated.run p w

end OpenProof.CeremonyWorld
