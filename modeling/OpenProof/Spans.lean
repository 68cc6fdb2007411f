import OpenProof.GatewayWorld
import OpenProof.MovedValues
import OpenProof.Telemetry

namespace OpenProof.Spans
open Foundation GatewayWorld MovedValues Telemetry

structure TraceContext where
  traceId : Text
  spanId : Text
  sampled : Bool

-- `randomBytes bytes` is one call's answer.
def randomHex (random : Result Text) : Result Text := random.map toHex

def TraceContext.generate (sampled : Bool) (trace span : Result Text) : Result TraceContext := do
  let trace ← randomHex trace
  let span ← randomHex span
  return ⟨trace,span,sampled⟩

-- A `Span` whose clock and sink are set; one that has been moved from or finished owns nothing.
structure Span where
  context : TraceContext
  parentSpanId : Option Text
  name : Text
  startedAt : Instant
  attributes : Labels

structure SpanRecord where
  span : Span
  endedAt : Instant
  outcome : Text

-- The answers of the random source to the identifiers of a context and to that of a child.
structure Random where
  trace : Result Text
  span : Result Text
  child : Result Text

def start (name : Text) (parent : Option TraceContext) (attributes : Labels) (now : Instant) (random : Random) :
    Result Span :=
  if name.isEmpty || name.length > 200 || !(validateLabels attributes).isOk then fail .invalidArgument "The span is invalid."
  else do
    let context ← match parent with
      | none => TraceContext.generate false random.trace random.span
      | some parent => do
        let spanId ← randomHex random.child
        pure (⟨parent.traceId,spanId,parent.sampled⟩ : TraceContext)
    return ⟨context,parent.map (·.spanId),name,now,attributes⟩

structure Tracer where
  recorded : List SpanRecord
  spans : Places Span

-- What the program does with its spans; the destructor finishes with "abandoned".
inductive Call where
  | start (name : Text) (parent : Option TraceContext) (attributes : Labels) (now : Instant) (random : Random)
  | construct (source : Nat)
  | assign (target source : Nat) (now : Instant)
  | finish (span : Nat) (outcome : Text) (now : Instant)

def Call.started : Call → List Span
  | .start name parent attributes now random => (Spans.start name parent attributes now random).toOption.toList
  | .construct _ | .assign .. | .finish .. => []

namespace Tracer

def record (t : Tracer) (span : Nat) (outcome : Text) (now : Instant) : List SpanRecord :=
  t.recorded ++ (owner t.spans span).toList.map fun span => ⟨span,now,outcome⟩

def step (t : Tracer) (call : Call) : Tracer :=
  match call with
  | .start .. => { t with spans := t.spans ++ call.started.map some }
  | .construct source => { t with spans := empty t.spans source ++ [owner t.spans source] }
  | .assign target source now =>
    if target = source ∨ t.spans.length ≤ target then t
    else ⟨t.record target "abandoned" now,moved t.spans target source⟩
  | .finish span outcome now => ⟨t.record span outcome now,empty t.spans span⟩

def run (t : Tracer) (calls : List Call) : Tracer := calls.foldl step t

def all (t : Tracer) : List Span := t.recorded.map SpanRecord.span ++ owned t.spans

theorem step_all (t : Tracer) (call : Call) : (t.step call).all.Perm (t.all ++ call.started) := by
  have finished (left : Places Span) (span : Nat) (outcome : Text) (now : Instant)
      (disposed : (owned left ++ (owner t.spans span).toList).Perm (owned t.spans)) :
      (all ⟨t.record span outcome now,left⟩).Perm t.all := by
    simp only [all,record,List.map_append,List.map_map,Function.comp_def,List.map_id',List.append_assoc]
    exact (List.perm_append_comm.trans disposed).append_left _
  cases call with
  | start name parent attributes now random =>
    simp only [step,all,owned_all,List.append_assoc,List.Perm.refl]
  | construct source =>
    simp only [step,all,owned_made,Call.started,List.append_nil]
    exact (owned_empty t.spans source).append_left _
  | assign target source now =>
    rw [step,Call.started,List.append_nil]
    split
    · exact .refl _
    · rename_i apart
      exact finished _ target "abandoned" now (owned_moved (fun same => apart (.inl same)) (by omega))
  | finish span outcome now =>
    rw [Call.started,List.append_nil]
    exact finished _ span outcome now (owned_empty t.spans span)

-- However spans are moved, assigned over, ended and destroyed: each that was started is recorded once
-- or still open in one object, and once no object is left open the records are those that were started.
theorem spans_recorded_once (calls : List Call) :
    ((run ⟨[],[]⟩ calls).all.Perm (calls.flatMap Call.started)) ∧
      ((∀ place ∈ (run ⟨[],[]⟩ calls).spans,place = none) →
        ((run ⟨[],[]⟩ calls).recorded.map SpanRecord.span).Perm (calls.flatMap Call.started)) := by
  have onward (t : Tracer) : (t.run calls).all.Perm (t.all ++ calls.flatMap Call.started) := by
    induction calls generalizing t with
    | nil => simp [run]
    | cons call rest ih =>
      refine (ih (t.step call)).trans ?_
      rw [List.flatMap_cons,← List.append_assoc]
      exact (t.step_all call).append_right _
  refine ⟨onward ⟨[],[]⟩,fun closed => ?_⟩
  have none : owned (run ⟨[],[]⟩ calls).spans = [] := List.filterMap_eq_nil_iff.mpr closed
  have all_ := onward ⟨[],[]⟩
  rwa [all,none,List.append_nil] at all_

end Tracer

end OpenProof.Spans
