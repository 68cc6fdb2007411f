import Mathlib.Data.List.TakeDrop

namespace OpenProof.JsonGrammar

inductive JsonValue where
  | null
  | bool (value : Bool)
  -- A mantissa times a power of ten.
  | number (mantissa exponent : Int)
  | string (value : List UInt8)
  | array (items : List JsonValue)
  | object (members : List (List UInt8 × JsonValue))

section Strings

def hexValue (byte : UInt8) : Option Nat :=
  if 0x30 ≤ byte ∧ byte ≤ 0x39 then some (byte.toNat - 48)
  else if 0x41 ≤ byte ∧ byte ≤ 0x46 then some (byte.toNat - 55)
  else if 0x61 ≤ byte ∧ byte ≤ 0x66 then some (byte.toNat - 87)
  else none

def codeUnit : List UInt8 → Option (Nat × List UInt8)
  | a :: b :: c :: d :: rest =>
    match hexValue a,hexValue b,hexValue c,hexValue d with
    | some a,some b,some c,some d => some (a*4096 + b*256 + c*16 + d,rest)
    | _,_,_,_ => none
  | _ => none

def spelled (codePoint : Nat) : List UInt8 := String.utf8EncodeChar (Char.ofNat codePoint)

-- What follows `\u`: two units where the first is the high half of a pair.
def codePoint (input : List UInt8) : Option (List UInt8 × List UInt8) :=
  match codeUnit input with
  | none => none
  | some (high,rest) =>
    if 0xDC00 ≤ high ∧ high < 0xE000 then none
    else if 0xD800 ≤ high ∧ high < 0xDC00 then
      match rest with
      | backslash :: u :: rest =>
        if backslash = 0x5C ∧ u = 0x75 then
          match codeUnit rest with
          | none => none
          | some (low,rest) =>
            if 0xDC00 ≤ low ∧ low < 0xE000 then some (spelled (0x10000 + (high-0xD800)*1024 + (low-0xDC00)),rest) else none
        else none
      | _ => none
    else some (spelled high,rest)

def escaped : List UInt8 → Option (List UInt8 × List UInt8)
  | [] => none
  | symbol :: rest =>
    if symbol = 0x22 ∨ symbol = 0x5C ∨ symbol = 0x2F then some ([symbol],rest)
    else if symbol = 0x62 then some ([0x08],rest)
    else if symbol = 0x66 then some ([0x0C],rest)
    else if symbol = 0x6E then some ([0x0A],rest)
    else if symbol = 0x72 then some ([0x0D],rest)
    else if symbol = 0x74 then some ([0x09],rest)
    else if symbol = 0x75 then codePoint rest
    else none

def readString : (fuel : Nat) → List UInt8 → Option (List UInt8 × List UInt8)
  | 0,_ => none
  | _,[] => none
  | fuel+1,byte :: rest =>
    if byte = 0x22 then some ([],rest)
    else if byte < 0x20 then none
    else
      match (if byte = 0x5C then escaped rest else some ([byte],rest)) with
      | none => none
      | some (character,rest) => (readString fuel rest).map fun read => (character ++ read.1,read.2)

theorem readString_end (fuel : Nat) (rest : List UInt8) : readString (fuel+1) (0x22 :: rest) = some ([],rest) := rfl

theorem readString_step (open_ : first ≠ 0x22) (printed : ¬first < 0x20)
    (read : (if first = 0x5C then escaped rest else some ([first],rest)) = some (character,more))
    (continued : readString fuel more = some (decoded,after)) :
    readString (fuel+1) (first :: rest) = some (character ++ decoded,after) := by
  rw [readString,if_neg open_,if_neg printed,read]
  simp only [continued,Option.map_some]

end Strings

section Numbers

def isDigit (byte : UInt8) : Bool := 0x30 ≤ byte && byte ≤ 0x39

def naturalOf (digits : List UInt8) : Int := digits.foldl (fun value digit => value*10 + (digit.toNat-48 : Nat)) 0

def wholePart : List UInt8 → Option (List UInt8 × List UInt8)
  | [] => none
  | first :: rest =>
    if first = 0x30 then some ([first],rest)
    else if isDigit first then some ((first :: rest).span isDigit)
    else none

def someDigits (input : List UInt8) : Option (List UInt8 × List UInt8) :=
  if (input.span isDigit).1 = [] then none else some (input.span isDigit)

def fractionPart : List UInt8 → Option (List UInt8 × List UInt8)
  | [] => some ([],[])
  | first :: rest => if first = 0x2E then someDigits rest else some ([],first :: rest)

def signed : List UInt8 → Int × List UInt8
  | [] => (1,[])
  | first :: rest => if first = 0x2D then (-1,rest) else if first = 0x2B then (1,rest) else (1,first :: rest)

def exponentPart : List UInt8 → Option (Int × List UInt8)
  | [] => some (0,[])
  | first :: rest =>
    if first = 0x65 ∨ first = 0x45 then
      (someDigits (signed rest).2).map fun read => ((signed rest).1*naturalOf read.1,read.2)
    else some (0,first :: rest)

def readMagnitude (sign : Int) (input : List UInt8) : Option (JsonValue × List UInt8) :=
  match wholePart input with
  | none => none
  | some (whole,rest) =>
    match fractionPart rest with
    | none => none
    | some (fraction,rest) => (exponentPart rest).map fun power =>
      (.number (sign*naturalOf (whole ++ fraction)) (power.1 - fraction.length),power.2)

def readNumber : List UInt8 → Option (JsonValue × List UInt8)
  | [] => none
  | first :: rest => if first = 0x2D then readMagnitude (-1) rest else readMagnitude 1 (first :: rest)

def EndsNumber (rest : List UInt8) : Prop :=
  ∀ first ∈ rest.head?,isDigit first = false ∧ first ≠ 0x2E ∧ first ≠ 0x65 ∧ first ≠ 0x45

theorem span_digits (every : digits.all isDigit = true) (ends : EndsNumber rest) :
    (digits ++ rest).span isDigit = (digits,rest) := by
  rw [List.span_eq_takeWhile_dropWhile]
  induction digits with
  | nil =>
    cases rest with
    | nil => rfl
    | cons first more =>
      obtain ⟨plain,_⟩ := ends first rfl
      simp [plain]
  | cons digit digits ih =>
    rw [List.all_cons,Bool.and_eq_true] at every
    simpa [every.1] using ih every.2

theorem readMagnitude_digits (sign : Int) (every : digits.all isDigit = true) (some_digit : digits ≠ [])
    (unpadded : digits.head? = some 0x30 → digits = [0x30]) (ends : EndsNumber rest) :
    readMagnitude sign (digits ++ rest) = some (.number (sign*naturalOf digits) 0,rest) := by
  have whole : wholePart (digits ++ rest) = some (digits,rest) := by
    cases digits with
    | nil => exact absurd rfl some_digit
    | cons digit digits =>
      rw [List.cons_append,wholePart]
      by_cases zero : digit = 0x30
      · subst zero
        rw [if_pos rfl,List.cons.inj (unpadded rfl) |>.2]
        rfl
      · have first := every
        rw [List.all_cons,Bool.and_eq_true] at first
        rw [if_neg zero,if_pos first.1,← List.cons_append,span_digits every ends]
  have noFraction : fractionPart rest = some ([],rest) := by
    cases rest with
    | nil => rfl
    | cons first more => exact if_neg (ends first rfl).2.1
  have noExponent : exponentPart rest = some (0,rest) := by
    cases rest with
    | nil => rfl
    | cons first more => exact if_neg (not_or.mpr (ends first rfl).2.2)
  simp [readMagnitude,whole,noFraction,noExponent]

end Numbers

section Values

def isBlank (byte : UInt8) : Bool := byte == 0x20 || byte == 0x09 || byte == 0x0A || byte == 0x0D

def skipBlank (input : List UInt8) : List UInt8 := input.dropWhile isBlank

def expect (symbol : UInt8) : List UInt8 → Option (List UInt8)
  | [] => none
  | first :: rest => if first = symbol then some rest else none

def readWord (word : List UInt8) (value : JsonValue) (input : List UInt8) : Option (JsonValue × List UInt8) :=
  if word.isPrefixOf input then some (value,input.drop word.length) else none

mutual
def readValue : (fuel : Nat) → List UInt8 → Option (JsonValue × List UInt8)
  | 0,_ => none
  | fuel+1,input =>
    match skipBlank input with
    | [] => none
    | first :: rest =>
      if first = 0x22 then (readString rest.length rest).map fun read => (.string read.1,read.2)
      else if first = 0x7B then
        match expect 0x7D (skipBlank rest) with
        | some rest => some (.object [],rest)
        | none => (readMembers fuel rest).map fun read => (.object read.1,read.2)
      else if first = 0x5B then
        match expect 0x5D (skipBlank rest) with
        | some rest => some (.array [],rest)
        | none => (readItems fuel rest).map fun read => (.array read.1,read.2)
      else if first = 0x74 then readWord [0x74,0x72,0x75,0x65] (.bool true) (first :: rest)
      else if first = 0x66 then readWord [0x66,0x61,0x6C,0x73,0x65] (.bool false) (first :: rest)
      else if first = 0x6E then readWord [0x6E,0x75,0x6C,0x6C] .null (first :: rest)
      else readNumber (first :: rest)

def readMembers : (fuel : Nat) → List UInt8 → Option (List (List UInt8 × JsonValue) × List UInt8)
  | 0,_ => none
  | fuel+1,input =>
    match (expect 0x22 (skipBlank input)).bind fun rest => readString rest.length rest with
    | none => none
    | some (key,rest) =>
      match (expect 0x3A (skipBlank rest)).bind (readValue fuel) with
      | none => none
      | some (value,rest) =>
        match expect 0x2C (skipBlank rest) with
        | some rest => (readMembers fuel rest).map fun read => ((key,value) :: read.1,read.2)
        | none => (expect 0x7D (skipBlank rest)).map fun rest => ([(key,value)],rest)

def readItems : (fuel : Nat) → List UInt8 → Option (List JsonValue × List UInt8)
  | 0,_ => none
  | fuel+1,input =>
    match readValue fuel input with
    | none => none
    | some (value,rest) =>
      match expect 0x2C (skipBlank rest) with
      | some rest => (readItems fuel rest).map fun read => (value :: read.1,read.2)
      | none => (expect 0x5D (skipBlank rest)).map fun rest => ([value],rest)
end

def parse (text : List UInt8) : Option JsonValue :=
  match readValue text.length text with
  | none => none
  | some (value,rest) => if skipBlank rest = [] then some value else none

theorem skipBlank_cons {first : UInt8} (plain : isBlank first = false) (rest : List UInt8) :
    skipBlank (first :: rest) = first :: rest := by
  simp [skipBlank,plain]

end Values

section Encoding

def Utf8 (text : List UInt8) : Prop := ∃ characters : List Char,text = characters.flatMap String.utf8EncodeChar

theorem Utf8.nil : Utf8 [] := ⟨[],rfl⟩

theorem Utf8.append {text more : List UInt8} (first : Utf8 text) (second : Utf8 more) : Utf8 (text ++ more) := by
  obtain ⟨characters,rfl⟩ := first
  obtain ⟨others,rfl⟩ := second
  exact ⟨characters ++ others,by rw [List.flatMap_append]⟩

theorem Utf8.ascii (plain : ∀ byte ∈ text,byte < 0x80) : Utf8 text := by
  induction text with
  | nil => exact .nil
  | cons byte text ih =>
    have rest := ih fun other listed => plain other (List.mem_cons_of_mem _ listed)
    have low : byte.toNat < 128 := by simpa [UInt8.lt_iff_toNat_lt] using plain byte List.mem_cons_self
    have valid : byte.toUInt32.isValidChar := .inl (by rw [UInt8.toNat_toUInt32]; omega)
    have single : String.utf8EncodeChar ⟨byte.toUInt32,valid⟩ = [byte] := by
      simp only [String.utf8EncodeChar,UInt8.toNat_toUInt32]
      rw [if_pos (by omega),UInt8.ofNat_toNat]
    obtain ⟨characters,rfl⟩ := rest
    exact ⟨⟨byte.toUInt32,valid⟩ :: characters,by rw [List.flatMap_cons,single]; rfl⟩

theorem utf8EncodeChar_cases (character : Char) :
    (∃ byte : UInt8,byte < 0x80 ∧ String.utf8EncodeChar character = [byte]) ∨
      ∀ byte ∈ String.utf8EncodeChar character,¬byte < 0x80 := by
  have bound := character.val.toNat_lt
  by_cases plain : character.val.toNat ≤ 0x7F
  · refine .inl ⟨.ofNat character.val.toNat,?_,by rw [String.utf8EncodeChar,if_pos plain]⟩
    rw [UInt8.lt_iff_toNat_lt,UInt8.toNat_ofNat']
    simp only [UInt8.reduceToNat]
    omega
  · refine .inr fun byte listed => ?_
    rw [String.utf8EncodeChar,if_neg plain] at listed
    rw [UInt8.lt_iff_toNat_lt]
    split_ifs at listed <;> simp only [List.mem_cons,List.not_mem_nil,or_false] at listed <;>
      rcases listed with rfl | rfl | rfl | rfl <;> simp only [UInt8.toNat_ofNat',UInt8.reduceToNat] <;> omega

end Encoding

end OpenProof.JsonGrammar
