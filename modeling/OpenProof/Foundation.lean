import Std.Data.ExtTreeMap
import Mathlib.Data.List.Lex
import OpenProof.AtomicPrograms

namespace OpenProof.Foundation
open Std

-- `std::string`: bytes, not characters, compared as unsigned bytes.
abbrev Text := List UInt8

def Text.of (literal : String) : Text := literal.toByteArray.data.toList

instance : Coe String Text := ⟨Text.of⟩

instance byteOrder : LinearOrder UInt8 where
  le_refl := UInt8.le_refl
  le_trans _ _ _ := UInt8.le_trans
  le_antisymm _ _ := UInt8.le_antisymm
  le_total := UInt8.le_total
  lt_iff_le_not_ge a b := by
    simp only [UInt8.lt_iff_toNat_lt,UInt8.le_iff_toNat_le]
    omega
  toDecidableLE := inferInstance

abbrev ch (symbol : Char) : UInt8 := symbol.toUInt8

def isControl (byte : UInt8) : Bool := byte < 0x20 || byte == 0x7F
def isBlankOrControl (byte : UInt8) : Bool := byte ≤ 0x20 || byte == 0x7F

def isUpper (byte : UInt8) : Bool := ch 'A' ≤ byte && byte ≤ ch 'Z'
def isLower (byte : UInt8) : Bool := ch 'a' ≤ byte && byte ≤ ch 'z'
def isDigit (byte : UInt8) : Bool := ch '0' ≤ byte && byte ≤ ch '9'

-- `find` and `substr` on the first occurrence of a byte: what stands before it,
-- and what stands after it when it occurs.
def splitAt (symbol : UInt8) (text : Text) : Text × Option Text :=
  match text with
  | [] => ([],none)
  | byte :: rest =>
    if byte == symbol then ([],some rest)
    else (byte :: (splitAt symbol rest).1,(splitAt symbol rest).2)

inductive ErrorCode where
  | unknown
  | invalidArgument
  | failedPrecondition
  | notFound
  | alreadyExists
  | conflict
  | authenticationRequired
  | authenticationFailed
  | permissionDenied
  | assuranceInsufficient
  | rateLimited
  | timeout
  | unavailable
  | notImplemented
  | internal
  deriving DecidableEq

def errorCodeName : ErrorCode → Text
  | .unknown => "UNKNOWN"
  | .invalidArgument => "INVALID_ARGUMENT"
  | .failedPrecondition => "FAILED_PRECONDITION"
  | .notFound => "NOT_FOUND"
  | .alreadyExists => "ALREADY_EXISTS"
  | .conflict => "CONFLICT"
  | .authenticationRequired => "AUTHENTICATION_REQUIRED"
  | .authenticationFailed => "AUTHENTICATION_FAILED"
  | .permissionDenied => "PERMISSION_DENIED"
  | .assuranceInsufficient => "ASSURANCE_INSUFFICIENT"
  | .rateLimited => "RATE_LIMITED"
  | .timeout => "TIMEOUT"
  | .unavailable => "UNAVAILABLE"
  | .notImplemented => "NOT_IMPLEMENTED"
  | .internal => "INTERNAL"

def defaultErrorMessage : ErrorCode → Text
  | .unknown => "An unexpected error occurred."
  | .invalidArgument => "The request was not valid."
  | .failedPrecondition => "The request cannot be performed in the current state."
  | .notFound => "The requested resource was not found."
  | .alreadyExists => "The resource already exists."
  | .conflict => "The request conflicts with the current state of the resource."
  | .authenticationRequired => "Authentication is required."
  | .authenticationFailed => "Authentication failed."
  | .permissionDenied => "The request was denied."
  | .assuranceInsufficient => "A stronger authentication is required for this operation."
  | .rateLimited => "Too many requests."
  | .timeout => "The request timed out."
  | .unavailable => "The service is temporarily unavailable."
  | .notImplemented => "The requested operation is not supported."
  | .internal => "An internal error occurred."

def errorHttpStatus : ErrorCode → Nat
  | .invalidArgument => 400
  | .authenticationRequired | .authenticationFailed => 401
  | .permissionDenied | .assuranceInsufficient => 403
  | .notFound => 404
  | .conflict | .alreadyExists => 409
  | .failedPrecondition => 412
  | .rateLimited => 429
  | .notImplemented => 501
  | .unavailable => 503
  | .timeout => 504
  | .unknown | .internal => 500

structure Error where
  code : ErrorCode
  message : Text
  internalDetail : Text
  deriving DecidableEq

def Error.of (code : ErrorCode) (message internalDetail : Text) : Error :=
  ⟨code,if message.isEmpty then defaultErrorMessage code else message,internalDetail⟩
def Error.plain (code : ErrorCode) : Error := .of code [] []
def Error.because (code : ErrorCode) (message : Text) : Error := .of code message []

abbrev Result (α : Type) := Except Error α

abbrev fail {α : Type} (code : ErrorCode) (message : Text) : Result α := .error (.because code message)

theorem bind_ok {f : α → Result β} (done : (x >>= f) = .ok b) : ∃ a,x = .ok a ∧ f a = .ok b := by
  cases x with
  | error e => cases done
  | ok a => exact ⟨a,rfl,done⟩

theorem made_some {α : Type} {result : Result α} {test : α → Bool} (made : result.toOption.any test = true) :
    ∃ a,result = .ok a ∧ test a = true := by
  cases result with
  | error e => cases made
  | ok a => exact ⟨a,rfl,made⟩

theorem passed {refused : Prop} [Decidable refused] {rest : Result α}
    (done : (if refused then .error e else rest) = .ok a) : ¬refused ∧ rest = .ok a := by
  split at done
  · cases done
  · rename_i allowed
    exact ⟨allowed,done⟩

-- Milliseconds, as in `sys_time<milliseconds>`.
abbrev Instant := Int
abbrev Duration := Int

-- `duration_cast` from seconds: the product wraps in 64 bits.
def instantFromUnixSeconds (seconds : Int) : Instant := (seconds*1000).bmod 18446744073709551616

structure StrongId (Tag : Type) where
  value : Text

instance {Tag : Type} : DecidableEq (StrongId Tag) := fun a b =>
  decidable_of_iff (a.value = b.value) ⟨fun equal => by cases a; cases b; exact congrArg _ equal,congrArg _⟩

instance {Tag : Type} : Ord (StrongId Tag) := ⟨compareOn StrongId.value⟩
instance {Tag : Type} : TransOrd (StrongId Tag) := inferInstanceAs (TransCmp (compareOn StrongId.value))
instance {Tag : Type} : LawfulEqOrd (StrongId Tag) where
  compare_self := compare_self (α:=Text)
  eq_of_compare {a b} equal := by
    cases a
    cases b
    exact congrArg StrongId.mk (LawfulEqOrd.eq_of_compare (α:=Text) equal)

def StrongId.empty {Tag : Type} (id : StrongId Tag) : Bool := id.value.isEmpty

-- `std::map`: iteration follows the key order.
abbrev Map (K V : Type) [Ord K] := ExtTreeMap K V compare

abbrev Sha256Digest := BitVec 256

instance digestTransOrd : TransOrd Sha256Digest := inferInstance
instance digestLawfulEqOrd : LawfulEqOrd Sha256Digest := inferInstance

-- `std::ranges::adjacent_find` finds something.
def adjacentEqual {α : Type} [DecidableEq α] : List α → Bool
  | a :: b :: rest => a == b || adjacentEqual (b :: rest)
  | _ => false

theorem adjacentEqual_sorted {α : Type} [DecidableEq α] [PartialOrder α] {items : List α} (sorted : items.Pairwise (· ≤ ·)) :
    adjacentEqual items = false ↔ items.Nodup := by
  induction items with
  | nil => simp [adjacentEqual]
  | cons a rest ih =>
    cases rest with
    | nil => simp [adjacentEqual]
    | cons b rest =>
      obtain ⟨least,onward⟩ := List.pairwise_cons.mp sorted
      obtain ⟨next,-⟩ := List.pairwise_cons.mp onward
      rw [adjacentEqual,Bool.or_eq_false_iff,ih onward,List.nodup_cons (a:=a)]
      apply and_congr_left
      intro distinct
      rw [beq_eq_false_iff_ne]
      constructor
      · intro apart inside
        rcases List.mem_cons.mp inside with same | later
        · exact apart same
        · exact apart ((least b (by simp)).antisymm (next a later))
      · intro outside same
        exact outside (by simp [same])

section
variable {K V : Type} [Ord K] [TransOrd K] [LawfulEqOrd K] {m : Map K V}

@[simp] theorem Map.find_insert [DecidableEq K] (k a : K) (v : V) :
    (m.insert k v)[a]? = if k = a then some v else m[a]? := by
  rw [ExtTreeMap.getElem?_insert]
  by_cases equal : k = a <;> simp [equal]

@[simp] theorem Map.find_erase [DecidableEq K] (k a : K) : (m.erase k)[a]? = if k = a then none else m[a]? := by
  rw [ExtTreeMap.getElem?_erase]
  by_cases equal : k = a <;> simp [equal]

theorem Map.insert_cases [DecidableEq K] (found : (m.insert k v)[a]? = some x) :
    (k = a ∧ x = v) ∨ m[a]? = some x := by
  rw [Map.find_insert] at found
  split_ifs at found with same
  · exact .inl ⟨same,(Option.some.inj found).symm⟩
  · exact .inr found

theorem Map.insert_keyed [DecidableEq K] {key : V → K} (keyed : ∀ (k : K) (v : V),m[k]? = some v → key v = k)
    (added : V) : ∀ (k : K) (v : V),(m.insert (key added) added)[k]? = some v → key v = k := by
  intro k v found
  rcases Map.insert_cases found with ⟨same,rfl⟩ | before
  · exact same
  · exact keyed k v before

theorem Map.erase_cases [DecidableEq K] {k a : K} (found : (m.erase k)[a]? = some x) : m[a]? = some x := by
  rw [Map.find_erase] at found
  split_ifs at found
  exact found

@[simp] theorem Map.find_map {V' : Type} (f : K → V → V') (a : K) :
    (m.map f)[a]? = m[a]?.map (f a) := ExtTreeMap.getElem?_map

end

-- `std::map::contains`.
def Map.holds {K V : Type} [Ord K] [TransOrd K] (m : Map K V) (k : K) : Bool := m[k]?.isSome

def Map.elements {K V : Type} [Ord K] [TransOrd K] (m : Map K V) : List V := m.toList.map Prod.snd

theorem Map.mem_elements {K V : Type} [Ord K] [TransOrd K] [LawfulEqOrd K] {m : Map K V} {v : V} :
    v ∈ m.elements ↔ ∃ k : K, m[k]? = some v := by
  simp [Map.elements,ExtTreeMap.mem_toList_iff_getElem?_eq_some]

-- A map and a copy of it without its hidden part; what is hidden is still as it was in `origin`.
structure Shadowed {K V : Type} [Ord K] [TransOrd K] (hidden : K → Bool) (origin whole shown : Map K V) :
    Prop where
  kept : ∀ k : K,hidden k = true → whole[k]? = origin[k]?
  gone : ∀ k : K,hidden k = true → shown[k]? = none
  same : ∀ k : K,hidden k = false → shown[k]? = whole[k]?

namespace Shadowed
variable {K V : Type} [Ord K] [TransOrd K] {hidden : K → Bool}

theorem holds_same (shadowed : Shadowed hidden origin whole shown) (visible : hidden k = false) :
    shown.holds k = whole.holds k := by
  simp only [Map.holds,shadowed.same k visible]

variable [LawfulEqOrd K]

theorem start (hidden : K → Bool) (m : Map K V) : Shadowed hidden m m (m.filter fun k _ => !hidden k) := by
  have found : ∀ k : K,(m.filter fun k _ => !hidden k)[k]? = if hidden k then none else m[k]? := by
    intro k
    rw [ExtTreeMap.getElem?_filter']
    cases stored : m[k]? with
    | none => simp
    | some v => cases hidden k <;> simp
  refine ⟨fun _ _ => rfl,fun k hide => ?_,fun k visible => ?_⟩
  · rw [found k,hide,if_pos rfl]
  · rw [found k,visible,if_neg Bool.false_ne_true]

theorem elements_filter (shadowed : Shadowed hidden origin whole shown)
    (drops : ∀ (k : K) (v : V),hidden k = true → origin[k]? = some v → keep v = false) :
    shown.elements.filter keep = whole.elements.filter keep := by
  have equal : shown.filter (fun _ v => keep v) = whole.filter fun _ v => keep v := by
    refine ExtTreeMap.ext_getElem? fun k => ?_
    rw [ExtTreeMap.getElem?_filter',ExtTreeMap.getElem?_filter']
    cases hide : hidden k with
    | false => rw [shadowed.same k hide]
    | true =>
      rw [shadowed.gone k hide,shadowed.kept k hide]
      cases stored : origin[k]? with
      | none => rfl
      | some v => simp [Option.filter_some,drops k v hide stored]
  have listed : ∀ m : Map K V,m.elements.filter keep = Map.elements (m.filter fun _ v => keep v) := by
    intro m
    simp only [Map.elements,ExtTreeMap.toList_filter,List.filter_map,Function.comp_def]
  rw [listed,listed,equal]

variable [DecidableEq K]

theorem insert (shadowed : Shadowed hidden origin whole shown) (visible : hidden k = false) (v : V) :
    Shadowed hidden origin (whole.insert k v) (shown.insert k v) := by
  have apart : ∀ {a : K},hidden a = true → k ≠ a := by
    rintro a hide rfl
    rw [visible] at hide
    cases hide
  refine ⟨fun a hide => ?_,fun a hide => ?_,fun a shows => ?_⟩
  · simp only [Map.find_insert,apart hide,if_false,shadowed.kept a hide]
  · simp only [Map.find_insert,apart hide,if_false,shadowed.gone a hide]
  · simp only [Map.find_insert,shadowed.same a shows]

theorem erase (shadowed : Shadowed hidden origin whole shown) (visible : hidden k = false) :
    Shadowed hidden origin (whole.erase k) (shown.erase k) := by
  have apart : ∀ {a : K},hidden a = true → k ≠ a := by
    rintro a hide rfl
    rw [visible] at hide
    cases hide
  refine ⟨fun a hide => ?_,fun a hide => ?_,fun a shows => ?_⟩
  · simp only [Map.find_erase,apart hide,if_false,shadowed.kept a hide]
  · simp only [Map.find_erase,apart hide,if_false,shadowed.gone a hide]
  · simp only [Map.find_erase,shadowed.same a shows]

end Shadowed

end OpenProof.Foundation
