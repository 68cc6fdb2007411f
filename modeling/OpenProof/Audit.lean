import OpenProof.GatewayWorld

namespace OpenProof.Audit
open Foundation GatewayWorld Identities

abbrev AuditFields := Map Text Text

def validAtom (value : Text) (maximum : Nat) : Bool := !value.isEmpty && value.length ≤ maximum && !value.any isControl

def validateFields (fields : AuditFields) : Result Unit :=
  if 64 < fields.size then fail .invalidArgument "An audit event has too many fields."
  else if fields.toList.any fun field => !validAtom field.1 100 || 4096 < field.2.length then
    fail .invalidArgument "An audit event field is invalid."
  else .ok ()

structure AuditEvent where
  id : Text
  occurredAt : Instant
  correlation : Text
  organization : Option OrganizationId
  identity : Option IdentityId
  category : Text
  action : Text
  outcome : Text
  fields : AuditFields

def AuditEvent.create (id : Text) (occurredAt : Instant) (correlation : Text) (organization : Option OrganizationId)
    (identity : Option IdentityId) (category action outcome : Text) (fields : AuditFields) : Result AuditEvent :=
  if id.isEmpty || correlation.isEmpty || !validAtom category 100 || !validAtom action 200 || !validAtom outcome 100
      || !(validateFields fields).toBool then
    fail .invalidArgument "The audit event is invalid."
  else .ok ⟨id,occurredAt,correlation,organization,identity,category,action,outcome,fields⟩

def decimal (value : Int) : Text := Text.of (toString value)

def part (value : Text) : Text := decimal value.length ++ [ch ':'] ++ value

def canonical (event : AuditEvent) (sequence : Nat) (previous : Option Sha256Digest) : Text :=
  part (decimal sequence) ++ part event.id ++ part (decimal event.occurredAt) ++ part event.correlation
    ++ part (event.organization.elim [] StrongId.value) ++ part (event.identity.elim [] StrongId.value)
    ++ part event.category ++ part event.action ++ part event.outcome
    ++ part (previous.elim [] fun digest => toHex (digestBytes digest))
    ++ event.fields.toList.flatMap fun field => part field.1 ++ part field.2

def computeAuditRecordHash (hmacSha256 : (key message : Text) → Result Sha256Digest) (event : AuditEvent) (sequence : Nat)
    (previousHash : Option Sha256Digest) (key : Text) : Result Sha256Digest :=
  hmacSha256 key (canonical event sequence previousHash)

structure AuditRecord where
  sequence : Nat
  event : AuditEvent
  previousHash : Option Sha256Digest
  hash : Sha256Digest

-- `InMemoryAuditRepository`; each method holds the mutex for its whole body.
structure InMemoryAuditRepository where
  records : List AuditRecord

namespace InMemoryAuditRepository
variable (hmacSha256 : (key message : Text) → Result Sha256Digest) (key : Text)

def append (event : AuditEvent) (r : InMemoryAuditRepository) : Result AuditRecord × InMemoryAuditRepository :=
  if r.records.any fun existing => existing.event.id = event.id then
    (fail .alreadyExists "The audit event already exists.",r)
  else
    let sequence := r.records.length+1
    let previous := r.records.getLast?.map AuditRecord.hash
    match computeAuditRecordHash hmacSha256 event sequence previous key with
    | .error e => (.error e,r)
    | .ok hash => (.ok ⟨sequence,event,previous,hash⟩,⟨r.records ++ [⟨sequence,event,previous,hash⟩]⟩)

def broken : Error := .because .failedPrecondition "The audit chain is not intact."

-- The loop of `verify`, with the hash of the record before.
def verifyFrom : Option Sha256Digest → List AuditRecord → Result Unit
  | _,[] => .ok ()
  | previous,record :: rest =>
    if record.previousHash ≠ previous then .error broken
    else match computeAuditRecordHash hmacSha256 record.event record.sequence previous key with
      | .error e => .error e
      | .ok expected => if expected ≠ record.hash then .error broken else verifyFrom (some record.hash) rest

def verify (r : InMemoryAuditRepository) : Result Unit := verifyFrom hmacSha256 key none r.records

end InMemoryAuditRepository

end OpenProof.Audit
