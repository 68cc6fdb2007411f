import OpenProof.HandoffTexts
import OpenProof.JsonGrammar

namespace OpenProof.JsonWriters
open Foundation HandoffTexts
open Http (decimal)
open JsonGrammar hiding isDigit

def kHexDigits : Text := Text.of "0123456789abcdef"

def unicodeEscape (character : UInt8) : Text :=
  Text.of "\\u00" ++ [kHexDigits.getD ((character >>> 4) &&& 0x0F).toNat 0,kHexDigits.getD (character &&& 0x0F).toNat 0]

def escapeByte (character : UInt8) : Text :=
  if character = 0x22 then Text.of "\\\""
  else if character = ch '\\' then Text.of "\\\\"
  else if character = 0x08 then Text.of "\\b"
  else if character = 0x0C then Text.of "\\f"
  else if character = ch '\n' then Text.of "\\n"
  else if character = ch '\r' then Text.of "\\r"
  else if character = ch '\t' then Text.of "\\t"
  else if character < 0x20 then unicodeEscape character
  else [character]

def escapeJsonString (value : Text) : Text := value.flatMap escapeByte

def quoted (value : Text) : Text := Text.of "\"" ++ escapeJsonString value ++ Text.of "\""

structure JsonObjectWriter where
  body : Text

namespace JsonObjectWriter
variable (writer : JsonObjectWriter) (key : Text)

def beginEntry : Option JsonObjectWriter :=
  if key.isEmpty then none
  else some ⟨(if writer.body.isEmpty then writer.body else writer.body ++ Text.of ",") ++ Text.of "\"" ++ escapeJsonString key
    ++ Text.of "\":"⟩

def build : Text := Text.of "\x7b" ++ writer.body ++ Text.of "\x7d"

def append (text : Text) : JsonObjectWriter := ⟨writer.body ++ text⟩

def add (value : Text) : Option JsonObjectWriter := (writer.beginEntry key).map (append · (quoted value))

def addLiteral (value : Option Text) : Option JsonObjectWriter := writer.add key (value.getD [])

def addInteger (value : Int64) : Option JsonObjectWriter := (writer.beginEntry key).map (append · (decimal value.toInt))

def addBool (value : Bool) : Option JsonObjectWriter :=
  (writer.beginEntry key).map (append · (if value then Text.of "true" else Text.of "false"))

def addNested (nested : JsonObjectWriter) : Option JsonObjectWriter := (writer.beginEntry key).map (append · nested.build)

def addNull : Option JsonObjectWriter := (writer.beginEntry key).map (append · (Text.of "null"))

end JsonObjectWriter

section Calls

-- What one call adds, a double aside: a nested writer comes with the calls that were made on it.
inductive Argument where
  | text (value : Text)
  | literal (value : Option Text)
  | integer (value : Int64)
  | bool (value : Bool)
  | nested (calls : List (Text × Argument))
  | null

mutual
def Argument.addTo (writer : JsonObjectWriter) (key : Text) : Argument → Option JsonObjectWriter
  | .text value => writer.add key value
  | .literal value => writer.addLiteral key value
  | .integer value => writer.addInteger key value
  | .bool value => writer.addBool key value
  | .nested calls => (written ⟨[]⟩ calls).bind (writer.addNested key)
  | .null => writer.addNull key

def written (writer : JsonObjectWriter) : List (Text × Argument) → Option JsonObjectWriter
  | [] => some writer
  | (key,argument) :: calls => (argument.addTo writer key).bind fun writer => written writer calls
end

mutual
def Argument.value : Argument → JsonValue
  | .text value => .string value
  | .literal value => .string (value.getD [])
  | .integer value => .number value.toInt 0
  | .bool value => .bool value
  | .nested calls => .object (members calls)
  | .null => .null

def members : List (Text × Argument) → List (Text × JsonValue)
  | [] => []
  | (key,argument) :: calls => (key,argument.value) :: members calls
end

mutual
def Argument.named : Argument → Bool
  | .nested calls => namedCalls calls
  | _ => true

def namedCalls : List (Text × Argument) → Bool
  | [] => true
  | (key,argument) :: calls => !key.isEmpty && argument.named && namedCalls calls
end

mutual
def Argument.Encoded : Argument → Prop
  | .text value => Utf8 value
  | .literal value => Utf8 (value.getD [])
  | .nested calls => EncodedCalls calls
  | _ => True

def EncodedCalls : List (Text × Argument) → Prop
  | [] => True
  | (key,argument) :: calls => Utf8 key ∧ argument.Encoded ∧ EncodedCalls calls
end

end Calls

section Spelling

def joined (first more : Text) : Text :=
  if first.isEmpty then more else if more.isEmpty then first else first ++ Text.of "," ++ more

def entry (key value : Text) : Text := quoted key ++ Text.of ":" ++ value

mutual
def Argument.spelled : Argument → Text
  | .text value => quoted value
  | .literal value => quoted (value.getD [])
  | .integer value => decimal value.toInt
  | .bool value => if value then Text.of "true" else Text.of "false"
  | .nested calls => Text.of "\x7b" ++ spelledCalls calls ++ Text.of "\x7d"
  | .null => Text.of "null"

def spelledCalls : List (Text × Argument) → Text
  | [] => []
  | (key,argument) :: calls => joined (entry key argument.spelled) (spelledCalls calls)
end

variable {writer : JsonObjectWriter} {key value : Text}

theorem entry_ne (key value : Text) : (entry key value).isEmpty = false := rfl

theorem joined_assoc (nonempty : second.isEmpty = false) :
    joined (joined first second) third = joined first (joined second third) := by
  unfold joined
  cases first <;> cases second <;> cases third <;> simp at nonempty ⊢

theorem beginEntry_append : (writer.beginEntry key).map (JsonObjectWriter.append · text) =
    if key.isEmpty then none else some ⟨joined writer.body (entry key text)⟩ := by
  have close : Text.of "\":" = Text.of "\"" ++ Text.of ":" := rfl
  unfold JsonObjectWriter.beginEntry joined
  rw [entry_ne]
  cases key with
  | nil => rfl
  | cons byte key =>
    cases shape : writer.body <;> simp [JsonObjectWriter.append,entry,quoted,close]

mutual

theorem addTo_eq (writer : JsonObjectWriter) (key : Text) (argument : Argument) : argument.addTo writer key =
    if key.isEmpty || !argument.named then none else some ⟨joined writer.body (entry key argument.spelled)⟩ := by
  cases argument with
  | text value => simp [Argument.addTo,JsonObjectWriter.add,beginEntry_append,Argument.named,Argument.spelled]
  | literal value =>
      simp [Argument.addTo,JsonObjectWriter.addLiteral,JsonObjectWriter.add,beginEntry_append,Argument.named,Argument.spelled]
  | integer value => simp [Argument.addTo,JsonObjectWriter.addInteger,beginEntry_append,Argument.named,Argument.spelled]
  | bool value => simp [Argument.addTo,JsonObjectWriter.addBool,beginEntry_append,Argument.named,Argument.spelled]
  | nested calls =>
      rw [Argument.addTo,written_eq ⟨[]⟩ calls,Argument.named,Argument.spelled]
      cases named : namedCalls calls with
      | false => simp
      | true => simp [JsonObjectWriter.addNested,beginEntry_append,JsonObjectWriter.build,joined]
  | null => simp [Argument.addTo,JsonObjectWriter.addNull,beginEntry_append,Argument.named,Argument.spelled]

theorem written_eq (writer : JsonObjectWriter) (calls : List (Text × Argument)) : written writer calls =
    if namedCalls calls then some ⟨joined writer.body (spelledCalls calls)⟩ else none := by
  cases calls with
  | nil =>
    obtain ⟨body⟩ := writer
    cases body <;> simp [written,namedCalls,spelledCalls,joined]
  | cons call calls =>
    obtain ⟨key,argument⟩ := call
    rw [written,addTo_eq writer key argument,namedCalls,spelledCalls]
    cases bare : key.isEmpty with
    | true => simp
    | false =>
      cases named : argument.named with
      | false => simp
      | true =>
        have later := written_eq ⟨joined writer.body (entry key argument.spelled)⟩ calls
        simp [later,joined_assoc (entry_ne key argument.spelled)]
end

end Spelling

section Reading

theorem control_read : ∀ n < 32,hexValue (kHexDigits.getD ((UInt8.ofNat n >>> 4) &&& 0x0F).toNat 0) = some (n / 16) ∧
    hexValue (kHexDigits.getD (UInt8.ofNat n &&& 0x0F).toNat 0) = some (n % 16) ∧ spelled n = [UInt8.ofNat n] := by
  decide

theorem unicodeEscape_read (control : character < 0x20) (rest : Text) :
    ∃ more,unicodeEscape character = 0x5C :: more ∧ escaped (more ++ rest) = some ([character],rest) := by
  have small : character.toNat < 32 := by simpa [UInt8.lt_iff_toNat_lt] using control
  obtain ⟨high,low,single⟩ := control_read character.toNat small
  rw [UInt8.ofNat_toNat] at high low single
  have zero : hexValue 0x30 = some 0 := rfl
  have number : 0*4096 + 0*256 + character.toNat / 16*16 + character.toNat % 16 = character.toNat := by omega
  refine ⟨_,rfl,?_⟩
  have unit : codeUnit (0x30 :: 0x30 :: kHexDigits.getD ((character >>> 4) &&& 0x0F).toNat 0
      :: kHexDigits.getD (character &&& 0x0F).toNat 0 :: rest) = some (character.toNat,rest) := by
    simp only [codeUnit,zero,high,low,number]
  have spelledOut : codePoint (0x30 :: 0x30 :: kHexDigits.getD ((character >>> 4) &&& 0x0F).toNat 0
      :: kHexDigits.getD (character &&& 0x0F).toNat 0 :: rest) = some ([character],rest) := by
    rw [codePoint,unit]
    simp only
    rw [if_neg (by omega),if_neg (by omega),single]
  exact spelledOut

theorem escapeByte_read (character : UInt8) (rest : Text) : ∃ first more,escapeByte character = first :: more ∧
    first ≠ 0x22 ∧ ¬first < 0x20 ∧
      (if first = 0x5C then escaped (more ++ rest) else some ([first],more ++ rest)) = some ([character],rest) := by
  unfold escapeByte
  split_ifs with quote backslash backspace feed line carriage tab control
  · exact ⟨0x5C,_,rfl,by decide,by decide,by rw [quote]; rfl⟩
  · exact ⟨0x5C,_,rfl,by decide,by decide,by rw [backslash]; rfl⟩
  · exact ⟨0x5C,_,rfl,by decide,by decide,by rw [backspace]; rfl⟩
  · exact ⟨0x5C,_,rfl,by decide,by decide,by rw [feed]; rfl⟩
  · exact ⟨0x5C,_,rfl,by decide,by decide,by rw [line]; rfl⟩
  · exact ⟨0x5C,_,rfl,by decide,by decide,by rw [carriage]; rfl⟩
  · exact ⟨0x5C,_,rfl,by decide,by decide,by rw [tab]; rfl⟩
  · obtain ⟨more,shape,read⟩ := unicodeEscape_read control rest
    exact ⟨0x5C,more,shape,by decide,by decide,read⟩
  · exact ⟨character,[],rfl,quote,control,if_neg backslash⟩

theorem readString_escaped (enough : value.length < fuel) :
    readString fuel (escapeJsonString value ++ (0x22 :: rest)) = some (value,rest) := by
  induction value generalizing fuel with
  | nil =>
    cases fuel with
    | zero => cases enough
    | succ fuel => exact readString_end fuel rest
  | cons character value ih =>
    cases fuel with
    | zero => cases enough
    | succ fuel =>
      have continued := ih (Nat.lt_of_succ_lt_succ enough)
      obtain ⟨first,more,shape,opened,printed,read⟩ := escapeByte_read character (escapeJsonString value ++ (0x22 :: rest))
      have whole : escapeJsonString (character :: value) ++ (0x22 :: rest) =
          first :: (more ++ (escapeJsonString value ++ (0x22 :: rest))) := by
        simp only [escapeJsonString,List.flatMap_cons,shape,List.cons_append,List.append_assoc]
      rw [whole]
      exact readString_step opened printed read continued

theorem length_escaped (value : Text) : value.length ≤ (escapeJsonString value).length := by
  induction value with
  | nil => exact Nat.le_refl _
  | cons character value ih =>
    obtain ⟨first,more,shape,_⟩ := escapeByte_read character []
    have unfolded : escapeJsonString (character :: value) = escapeByte character ++ escapeJsonString value := rfl
    rw [unfolded,shape,List.length_cons,List.length_append,List.length_cons]
    omega

theorem readString_quoted :
    readString (escapeJsonString value ++ (0x22 :: rest)).length (escapeJsonString value ++ (0x22 :: rest)) = some (value,rest) := by
  have long := length_escaped value
  apply readString_escaped
  rw [List.length_append,List.length_cons]
  omega

theorem quoted_append : quoted value ++ rest = 0x22 :: (escapeJsonString value ++ (0x22 :: rest)) := by
  have quote : Text.of "\"" = [0x22] := rfl
  simp [quoted,quote]

theorem readValue_quoted (value rest : Text) (fuel : Nat) : readValue (fuel+1) (quoted value ++ rest) = some (.string value,rest) := by
  rw [quoted_append,readValue,skipBlank_cons rfl]
  simp only [if_true,readString_quoted,Option.map_some]

theorem digits_unpadded (n : Nat) : (digits n).head? = some 0x30 → digits n = [0x30] := by
  induction n using Nat.strongRecOn with
  | ind n ih =>
    rw [digits_step]
    split
    · rename_i small
      intro padded
      simpa using padded
    · rename_i large
      intro padded
      obtain ⟨nonempty,_,read⟩ := digits_read (n / 10)
      rw [List.head?_append_of_ne_nil _ nonempty] at padded
      have front := ih (n / 10) (Nat.div_lt_self (by omega) (by decide)) padded
      rw [front] at read
      have none : n / 10 = 0 := Int.ofNat.inj read.symm
      omega

theorem readMagnitude_numeral (sign : Int) (n : Nat) (ends : EndsNumber rest) :
    readMagnitude sign (digits n ++ rest) = some (.number (sign*n) 0,rest) := by
  obtain ⟨nonempty,every,read⟩ := digits_read n
  have value : naturalOf (digits n) = n := read
  rw [readMagnitude_digits sign every nonempty (digits_unpadded n) ends,value]

theorem readValue_number (starts : (isDigit first || first == 0x2D) = true) (rest : Text) (fuel : Nat) :
    readValue (fuel+1) (first :: rest) = readNumber (first :: rest) := by
  have apart (other : UInt8) (different : (isDigit other || other == 0x2D) = false) : first ≠ other := by
    intro same
    rw [same,different] at starts
    cases starts
  have plain : isBlank first = false := by
    simp [isBlank,apart 0x20 rfl,apart 0x09 rfl,apart 0x0A rfl,apart 0x0D rfl]
  rw [readValue,skipBlank_cons plain]
  simp only [if_neg (apart 0x22 rfl),if_neg (apart 0x7B rfl),if_neg (apart 0x5B rfl),if_neg (apart 0x74 rfl),if_neg (apart 0x66 rfl),
    if_neg (apart 0x6E rfl)]

theorem readNumber_decimal (value : Int) (ends : EndsNumber rest) :
    readNumber (decimal value ++ rest) = some (.number value 0,rest) := by
  cases value with
  | ofNat n =>
    have numeral : decimal (Int.ofNat n) = digits n := decimal_nat n
    obtain ⟨nonempty,every,_⟩ := digits_read n
    have magnitude := readMagnitude_numeral 1 n ends
    rw [numeral]
    cases shape : digits n with
    | nil => exact absurd shape nonempty
    | cons first more =>
      rw [shape,List.all_cons,Bool.and_eq_true] at every
      have unsigned : first ≠ 0x2D := by
        rintro rfl
        exact absurd every.1 (by decide)
      rw [shape,Int.one_mul] at magnitude
      rw [List.cons_append,readNumber,if_neg unsigned]
      exact magnitude
  | negSucc n =>
    have magnitude := readMagnitude_numeral (-1) (n+1) ends
    have minus : ch '-' = 0x2D := rfl
    rw [decimal_negative,List.cons_append,readNumber,if_pos minus,magnitude]
    simp [Int.negSucc_eq]

theorem decimal_starts (value : Int) :
    ∃ first more,decimal value = first :: more ∧ (isDigit first || first == 0x2D) = true := by
  cases value with
  | ofNat n =>
    obtain ⟨nonempty,every,_⟩ := digits_read n
    cases shape : digits n with
    | nil => exact absurd shape nonempty
    | cons first more =>
      rw [shape,List.all_cons,Bool.and_eq_true] at every
      exact ⟨first,more,(decimal_nat n).trans shape,by rw [every.1]; rfl⟩
  | negSucc n => exact ⟨ch '-',digits (n+1),decimal_negative n,rfl⟩

theorem readValue_decimal (value : Int) (ends : EndsNumber rest) (fuel : Nat) :
    readValue (fuel+1) (decimal value ++ rest) = some (.number value 0,rest) := by
  have read := readNumber_decimal value ends
  obtain ⟨first,more,shape,numeral⟩ := decimal_starts value
  rw [shape,List.cons_append] at read ⊢
  rw [readValue_number numeral,read]

theorem spelled_nonempty (argument : Argument) : argument.spelled.isEmpty = false := by
  cases argument with
  | text | literal => rfl
  | integer value =>
    obtain ⟨first,more,shape,_⟩ := decimal_starts value.toInt
    rw [Argument.spelled,shape]
    rfl
  | bool value => cases value <;> rfl
  | nested | null => rfl

theorem endsNumber_cons (closes : first = 0x2C ∨ first = 0x7D) (rest : Text) : EndsNumber (first :: rest) := by
  intro other same
  cases same
  rcases closes with rfl | rfl <;> decide

theorem readMembers_entry {key text : Text} {value : JsonValue}
    (read : readValue fuel (text ++ (first :: tail)) = some (value,first :: tail))
    (closes : first = 0x2C ∨ first = 0x7D) : readMembers (fuel+1) (entry key text ++ (first :: tail)) =
      if first = 0x2C then (readMembers fuel tail).map fun read => ((key,value) :: read.1,read.2) else some ([(key,value)],tail) := by
  have colon : Text.of ":" = [0x3A] := rfl
  have plain : isBlank first = false := by
    rcases closes with rfl | rfl <;> rfl
  rw [entry,List.append_assoc,List.append_assoc,quoted_append,readMembers,skipBlank_cons rfl]
  simp only [expect,if_true,Option.bind_some,readString_quoted,colon,List.cons_append,List.nil_append]
  rw [skipBlank_cons rfl]
  simp only [if_true,Option.bind_some,read]
  rw [skipBlank_cons plain]
  rcases closes with rfl | rfl <;> rfl

theorem spelledCalls_starts (call : Text × Argument) (calls : List (Text × Argument)) :
    ∃ more,spelledCalls (call :: calls) = 0x22 :: more := by
  obtain ⟨key,argument⟩ := call
  rw [spelledCalls,joined,entry_ne]
  cases (spelledCalls calls).isEmpty <;> exact ⟨_,rfl⟩

theorem spelledCalls_cons :
    spelledCalls ((key,argument) :: call :: calls) = entry key argument.spelled ++ (0x2C :: spelledCalls (call :: calls)) := by
  obtain ⟨more,shape⟩ := spelledCalls_starts call calls
  have comma : Text.of "," = [0x2C] := rfl
  rw [spelledCalls,joined,entry_ne,shape,comma]
  simp

theorem spelledCalls_one : spelledCalls [(key,argument)] = entry key argument.spelled := by
  rw [spelledCalls,spelledCalls,joined,entry_ne]
  rfl

theorem length_entry (key value : Text) : value.length < (entry key value).length := by
  have colon : Text.of ":" = [0x3A] := rfl
  simp only [entry,colon,List.length_append,List.length_singleton]
  omega

theorem reads (fuel : Nat) : (∀ (argument : Argument) (rest : Text),argument.spelled.length ≤ fuel → EndsNumber rest →
      readValue fuel (argument.spelled ++ rest) = some (argument.value,rest)) ∧
    ∀ (call : Text × Argument) (calls : List (Text × Argument)) (rest : Text),(spelledCalls (call :: calls)).length < fuel →
      readMembers fuel (spelledCalls (call :: calls) ++ (0x7D :: rest)) = some (members (call :: calls),rest) := by
  induction fuel with
  | zero =>
    refine ⟨fun argument rest short => ?_,fun call calls rest short => absurd short (Nat.not_lt_zero _)⟩
    have empty := List.length_eq_zero_iff.mp (Nat.le_zero.mp short)
    have nonempty := spelled_nonempty argument
    rw [empty] at nonempty
    cases nonempty
  | succ fuel ih =>
    obtain ⟨values,objects⟩ := ih
    constructor
    · intro argument rest short ends
      cases argument with
      | text value => exact readValue_quoted value rest fuel
      | literal value => exact readValue_quoted (value.getD []) rest fuel
      | integer value => exact readValue_decimal value.toInt ends fuel
      | bool value => cases value <;> rfl
      | nested calls =>
        cases calls with
        | nil => rfl
        | cons call calls =>
          obtain ⟨more,shape⟩ := spelledCalls_starts call calls
          have opening : Text.of "\x7b" = [0x7B] := rfl
          have closing : Text.of "\x7d" = [0x7D] := rfl
          rw [Argument.spelled,opening,closing] at short ⊢
          simp only [List.length_append,List.length_singleton] at short
          have inside := objects call calls rest (by omega)
          have apart : expect 0x7D (skipBlank (spelledCalls (call :: calls) ++ (0x7D :: rest))) = none := by
            rw [shape,List.cons_append,skipBlank_cons rfl]
            rfl
          simp only [List.cons_append,List.append_assoc,List.nil_append]
          rw [readValue,skipBlank_cons rfl]
          simp only [apart,inside,Option.map_some]
          rfl
      | null => rfl
    · intro call calls rest short
      obtain ⟨key,argument⟩ := call
      cases calls with
      | nil =>
        rw [spelledCalls_one] at short ⊢
        have smaller := length_entry key argument.spelled
        have value := values argument (0x7D :: rest) (by omega) (endsNumber_cons (.inr rfl) rest)
        rw [readMembers_entry value (.inr rfl)]
        rfl
      | cons next calls =>
        rw [spelledCalls_cons] at short ⊢
        rw [List.length_append,List.length_cons] at short
        have smaller := length_entry key argument.spelled
        have value := values argument (0x2C :: (spelledCalls (next :: calls) ++ (0x7D :: rest))) (by omega)
          (endsNumber_cons (.inl rfl) _)
        have later := objects next calls rest (by omega)
        rw [List.append_assoc,List.cons_append,readMembers_entry value (.inl rfl),if_pos rfl,later]
        rfl

end Reading

section Encoding

theorem escapeByte_ascii : ∀ n < 128,((escapeByte (UInt8.ofNat n)).all fun byte => byte.toNat < 128) = true := by
  decide

theorem escapeByte_high (high : ¬character < 0x80) : escapeByte character = [character] := by
  have apart (other : UInt8) (low : other < 0x80) : character ≠ other := by
    intro same
    exact high (same ▸ low)
  have printed : ¬character < 0x20 := by
    intro control
    simp only [UInt8.lt_iff_toNat_lt,UInt8.reduceToNat] at control high
    omega
  unfold escapeByte
  rw [if_neg (apart 0x22 (by decide)),if_neg (apart _ (by decide)),if_neg (apart 0x08 (by decide)),if_neg (apart 0x0C (by decide)),
    if_neg (apart _ (by decide)),if_neg (apart _ (by decide)),if_neg (apart _ (by decide)),if_neg printed]

theorem escapeJsonString_utf8 {value : Text} (encoded : Utf8 value) : Utf8 (escapeJsonString value) := by
  obtain ⟨characters,rfl⟩ := encoded
  induction characters with
  | nil => exact .nil
  | cons character characters ih =>
    have split : escapeJsonString ((character :: characters).flatMap String.utf8EncodeChar) =
        escapeJsonString (String.utf8EncodeChar character) ++ escapeJsonString (characters.flatMap String.utf8EncodeChar) := by
      simp [escapeJsonString]
    rw [split]
    refine .append ?_ ih
    rcases utf8EncodeChar_cases character with ⟨byte,low,single⟩ | high
    · rw [single]
      apply Utf8.ascii
      have small : byte.toNat < 128 := by simpa [UInt8.lt_iff_toNat_lt] using low
      have every := escapeByte_ascii byte.toNat small
      rw [UInt8.ofNat_toNat] at every
      simpa [escapeJsonString,UInt8.lt_iff_toNat_lt] using every
    · have same : escapeJsonString (String.utf8EncodeChar character) = String.utf8EncodeChar character := by
        unfold escapeJsonString
        rw [List.flatMap_congr fun byte listed => escapeByte_high (high byte listed)]
        simp
      rw [same]
      exact ⟨[character],by simp⟩

theorem literal_utf8 (literal : String) : Utf8 (Text.of literal) := by
  refine ⟨literal.toList,?_⟩
  have bytes : (String.ofList literal.toList).toByteArray.data.toList = literal.toList.flatMap String.utf8EncodeChar := by
    rw [String.toByteArray_ofList,List.utf8Encode]
    simp
  rwa [String.ofList_toList] at bytes

theorem quoted_utf8 {value : Text} (encoded : Utf8 value) : Utf8 (quoted value) :=
  .append (.append (literal_utf8 _) (escapeJsonString_utf8 encoded)) (literal_utf8 _)

theorem decimal_utf8 (value : Int) : Utf8 (decimal value) := literal_utf8 (toString value)

theorem joined_utf8 (encoded : Utf8 first) (rest : Utf8 more) : Utf8 (joined first more) := by
  unfold joined
  split_ifs
  · exact rest
  · exact encoded
  · exact .append (.append encoded (literal_utf8 _)) rest

mutual
theorem spelled_utf8 (argument : Argument) (encoded : argument.Encoded) : Utf8 argument.spelled := by
  cases argument with
  | text value =>
    rw [Argument.Encoded] at encoded
    exact quoted_utf8 encoded
  | literal value =>
    rw [Argument.Encoded] at encoded
    exact quoted_utf8 encoded
  | integer value => exact decimal_utf8 value.toInt
  | bool value => cases value <;> exact literal_utf8 _
  | nested calls =>
    rw [Argument.Encoded] at encoded
    exact .append (.append (literal_utf8 _) (spelledCalls_utf8 calls encoded)) (literal_utf8 _)
  | null => exact literal_utf8 _

theorem spelledCalls_utf8 (calls : List (Text × Argument)) (encoded : EncodedCalls calls) : Utf8 (spelledCalls calls) := by
  cases calls with
  | nil => exact .nil
  | cons call calls =>
      obtain ⟨key,argument⟩ := call
      rw [EncodedCalls] at encoded
      obtain ⟨name,value,rest⟩ := encoded
      rw [spelledCalls]
      exact joined_utf8 (.append (.append (quoted_utf8 name) (literal_utf8 _)) (spelled_utf8 argument value))
        (spelledCalls_utf8 calls rest)

end

end Encoding

theorem build_spelled (calls : List (Text × Argument)) (named : namedCalls calls = true) :
    ∃ writer,written ⟨[]⟩ calls = some writer ∧ writer.build = (Argument.nested calls).spelled := by
  have wrote := written_eq ⟨[]⟩ calls
  rw [if_pos named] at wrote
  refine ⟨_,wrote,?_⟩
  rw [Argument.spelled]
  rfl

theorem parse_spelled (argument : Argument) : parse argument.spelled = some argument.value := by
  have read := (reads argument.spelled.length).1 argument [] (Nat.le_refl _) (by intro first same; cases same)
  rw [List.append_nil] at read
  rw [parse,read]
  rfl

-- A writer's calls with a name each give a text that is UTF-8 where what was added is, and
-- that reads as the members in order; without a name the process ends.
theorem writers_parse : (∀ value : Text,parse (quoted value) = some (.string value)) ∧
    (∀ calls,namedCalls calls = true → ∃ writer,written ⟨[]⟩ calls = some writer ∧
      parse writer.build = some (.object (members calls)) ∧ (EncodedCalls calls → Utf8 writer.build)) ∧
    ∀ calls,namedCalls calls = false → written ⟨[]⟩ calls = none := by
  refine ⟨fun value => parse_spelled (.text value),?_,?_⟩
  · intro calls named
    obtain ⟨writer,wrote,built⟩ := build_spelled calls named
    refine ⟨writer,wrote,?_,?_⟩
    · rw [built,parse_spelled,Argument.value]
    · intro encoded
      rw [built]
      exact spelled_utf8 (.nested calls) (by rwa [Argument.Encoded])
  · intro calls unnamed
    rw [written_eq,unnamed]
    rfl

theorem unnamed_entry_ends : written ⟨[]⟩ [(Text.of "",.text (Text.of "value"))] = none := rfl

end OpenProof.JsonWriters
