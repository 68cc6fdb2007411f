import OpenProof.AuthenticationService

namespace OpenProof.IdentityMerges
open AtomicPrograms Foundation ExternalIdentities AuthenticationWorld AtomicPrograms.Prog Identities

inductive MergeState where
  | requested
  | verificationRequired
  | verified
  | applied
  | rejected
  | expired
  deriving DecidableEq

def isTerminalMergeState : MergeState → Bool
  | .requested | .verificationRequired | .verified => false
  | .applied | .rejected | .expired => true

-- Nobody is merged into himself.
structure IdentityMerge where
  organization : OrganizationId
  source : IdentityId
  target : IdentityId
  state : MergeState
  requestedAt : Instant
  expiresAt : Instant
  apart : source ≠ target

namespace IdentityMerge

def request (organization : OrganizationId) (source target : IdentityId) (now : Instant) (validFor : Duration) :
    Result IdentityMerge :=
  if organization.empty then fail .invalidArgument "A merge must name an organization."
  else if source.empty || target.empty then fail .invalidArgument "A merge must name both identities."
  else if same : source = target then
    .error (.of .invalidArgument "An identity cannot be merged into itself."
      "Source and target were the same key. Applying it would mark the surviving identity as merged and disable the account the operation was meant to keep.")
  else if validFor ≤ 0 then
    .error (.of .invalidArgument "A merge request must have a positive lifetime."
      "A non-positive lifetime yields a request that is already expired, which would either be unusable or, if expiry were ignored, never expire at all.")
  else .ok ⟨organization,source,target,.requested,now,now+validFor,same⟩

variable (merge : IdentityMerge)

def isExpiredAt (now : Instant) : Bool := merge.expiresAt ≤ now

def transitionTo (next : MergeState) (now : Instant) (honourExpiry : Bool) : Result Unit × IdentityMerge :=
  if isTerminalMergeState merge.state then
    (.error (.of .failedPrecondition "This merge request can no longer be changed."
      "Refused to transition out of a terminal merge state."),merge)
  else if honourExpiry && merge.isExpiredAt now then
    (fail .failedPrecondition "This merge request has expired.",{ merge with state := .expired })
  else (.ok (),{ merge with state := next })

def requireVerification (now : Instant) : Result Unit × IdentityMerge :=
  if merge.state ≠ .requested then
    (fail .failedPrecondition "This merge request is not awaiting verification.",merge)
  else merge.transitionTo .verificationRequired now true

def markVerified (now : Instant) : Result Unit × IdentityMerge :=
  if merge.state ≠ .verificationRequired then
    (.error (.of .failedPrecondition "This merge request cannot be marked verified."
      "Verification may only follow an explicit verification requirement. Allowing it from any other state would make the requirement optional."),
      merge)
  else merge.transitionTo .verified now true

def markApplied (now : Instant) : Result Unit × IdentityMerge :=
  if merge.state ≠ .verified then
    (.error (.of .failedPrecondition "This merge request has not been verified."
      "Refused to apply a merge that did not pass through the Verified state."),merge)
  else merge.transitionTo .applied now true

def expire (now : Instant) : Result Unit × IdentityMerge := merge.transitionTo .expired now false

end IdentityMerge

structure MergeRecord where
  organization : OrganizationId
  source : IdentityId
  target : IdentityId
  appliedAt : Instant
  movedAssociations : List ExternalIdentityRef

inductive MergeOp where
  | auth (op : AuthOp)
  | externalIdentitiesOf (owner : IdentityId)
  | reassign (external : ExternalIdentityRef) (expectedCurrentOwner newOwner : IdentityId)

abbrev MergeOp.Ret : MergeOp → Type
  | .auth op => op.Ret
  | .externalIdentitiesOf _ => Result (List ExternalIdentityRef)
  | .reassign .. => Result Unit

def execMerge (sha256 : Text → Result Sha256Digest) : (op : MergeOp) → AuthState → op.Ret × AuthState
  | .auth op,w => exec sha256 op w
  | .externalIdentitiesOf owner,w => (.ok (w.directory.externalIdentitiesOf owner),w)
  | .reassign external expectedCurrentOwner newOwner,w =>
    let r := w.directory.reassign external expectedCurrentOwner newOwner
    (r.1,{ w with directory := r.2 })

abbrev MergeCall (α : Type) := Prog MergeOp MergeOp.Ret Error α

def askMerge (op : MergeOp) : MergeCall op.Ret := .perform op

def isTerminalIdentityStatus (status : IdentityStatus) : Bool := status = .deleted || status = .merged

def moveAll (source target : IdentityId) : List ExternalIdentityRef → (moved : List ExternalIdentityRef) →
    MergeCall (List ExternalIdentityRef)
  | [],moved => .ret moved
  | external :: rest,moved => do
    check (← askMerge (.reassign external source target))
    moveAll source target rest (moved ++ [external])

def absorb (merge : IdentityMerge) : MergeCall (List ExternalIdentityRef) := do
  let sourceLookup ← check (← askMerge (.auth (.findById merge.organization merge.source)))
  let targetLookup ← check (← askMerge (.auth (.findById merge.organization merge.target)))
  match sourceLookup,targetLookup with
  | some source,some target =>
    refuseIf (isTerminalIdentityStatus source.status || isTerminalIdentityStatus target.status)
      (.of .failedPrecondition "One of the identities in this merge can no longer be modified."
        "Refused to merge into or out of a deleted or already-merged identity. Doing so would either resurrect a retired key or produce a chain of merges whose final owner is ambiguous.")
    let owned ← check (← askMerge (.externalIdentitiesOf merge.source))
    let moved ← moveAll merge.source merge.target owned []
    check (← askMerge (.auth (.changeStatus merge.organization merge.source .merged)))
    return moved
  | _,_ => .fail (.of .notFound "One of the identities in this merge was not found."
      "Either a key does not exist or it belongs to another organization; the two are deliberately indistinguishable here.")

def applyMerge (merge : IdentityMerge) (now : Instant) : MergeCall (Result MergeRecord × IdentityMerge) :=
  if merge.state ≠ .verified then
    .ret (.error (.of .failedPrecondition "This merge request has not been verified."
      "applyMerge refused a request that had not passed through the Verified state."),merge)
  else if merge.isExpiredAt now then
    .ret (fail .failedPrecondition "This merge request has expired.",(merge.expire now).2)
  else (absorb merge).attempt.bind fun outcome =>
    match outcome with
    | .error e => .ret (.error e,merge)
    | .ok moved =>
      let applied := merge.markApplied now
      .ret (applied.1.map fun _ => ⟨merge.organization,merge.source,merge.target,now,moved⟩,applied.2)

end OpenProof.IdentityMerges
