import OpenProof.Foundation

namespace OpenProof.Cbor
open Foundation

structure CborReader where
  input : Text
  offset : Nat

namespace CborReader

structure Head where
  major : UInt8
  value : Nat

def malformed : Error := .plain .invalidArgument

def argument (bytes : Text) : Nat := bytes.foldl (fun value byte => value*256+byte.toNat) 0

def argumentBytes (additional : UInt8) : Nat :=
  if additional = 24 then 1
  else if additional = 25 then 2
  else if additional = 26 then 4
  else if additional = 27 then 8
  else 0

def overlong (bytes value : Nat) : Bool :=
  (bytes == 1 && value < 24) || (bytes == 2 && value ≤ 0xFF) || (bytes == 4 && value ≤ 0xFFFF)
    || (bytes == 8 && value ≤ 0xFFFFFFFF)

def head (reader : CborReader) : Result (Head × CborReader) :=
  match reader.input[reader.offset]? with
  | none => .error malformed
  | some first =>
    let next := reader.offset+1
    let additional := first &&& 0x1F
    if additional = 31 then .error malformed
    else if additional < 24 then .ok (⟨first >>> 5,additional.toNat⟩,⟨reader.input,next⟩)
    else
      let bytes := argumentBytes additional
      if bytes = 0 ∨ next+bytes > reader.input.length then .error malformed
      else
        let value := argument ((reader.input.drop next).take bytes)
        if overlong bytes value then .error malformed
        else .ok (⟨first >>> 5,value⟩,⟨reader.input,next+bytes⟩)

def integer (reader : CborReader) : Result (Int × CborReader) :=
  match reader.head with
  | .error _ => .error malformed
  | .ok (head,reader) =>
    if (head.major ≠ 0 ∧ head.major ≠ 1) ∨ head.value > 9223372036854775807 then .error malformed
    else .ok (if head.major = 0 then head.value else -1 - head.value,reader)

def string (major : UInt8) (maximum : Nat) (reader : CborReader) : Result (Text × CborReader) :=
  match reader.head with
  | .error _ => .error malformed
  | .ok (head,reader) =>
    if head.major ≠ major ∨ head.value > maximum ∨ reader.offset+head.value > reader.input.length then .error malformed
    else .ok ((reader.input.drop reader.offset).take head.value,⟨reader.input,reader.offset+head.value⟩)

def text (maximum : Nat) (reader : CborReader) : Result (Text × CborReader) := string 3 maximum reader
def bytes (maximum : Nat) (reader : CborReader) : Result (Text × CborReader) := string 2 maximum reader

def times (step : CborReader → Result CborReader) : Nat → CborReader → Result CborReader
  | 0,reader => .ok reader
  | count+1,reader => (step reader).bind (times step count)

-- `levels` is how deep the items may still nest, this one counted.
def skipWithin : (levels : Nat) → CborReader → Result CborReader
  | 0,_ => .error malformed
  | levels+1,reader =>
    match reader.head with
    | .error e => .error e
    | .ok (head,reader) =>
      if head.major = 0 ∨ head.major = 1 ∨ head.major = 7 then .ok reader
      else if head.major = 2 ∨ head.major = 3 then
        if head.value > reader.input.length-reader.offset then .error malformed
        else .ok ⟨reader.input,reader.offset+head.value⟩
      else if head.major = 4 then
        if head.value > 256 then .error malformed
        else times (skipWithin levels) head.value reader
      else if head.major = 5 then
        if head.value > 256 then .error malformed
        else times (fun reader => (skipWithin levels reader).bind (skipWithin levels)) head.value reader
      else if head.major = 6 then skipWithin levels reader
      else .error malformed

def skip : CborReader → Result CborReader := skipWithin 13

def done (reader : CborReader) : Bool := reader.offset == reader.input.length

end CborReader

end OpenProof.Cbor
