import OpenProof.Cbor
import OpenProof.CborGrammar

namespace OpenProof.CborItems
open Foundation List
open Cbor
open Cbor.CborReader (Head malformed argumentBytes overlong times skipWithin)
open CborGrammar

def Consumes (reader : CborReader) (bytes : Text) (after : CborReader) : Prop :=
  ∃ rest,reader.input.drop reader.offset = bytes ++ rest ∧ after = ⟨reader.input,reader.offset+bytes.length⟩

section Consuming
variable {reader after : CborReader} {bytes more : Text}

theorem Consumes.here (reader : CborReader) : Consumes reader [] reader := ⟨_,rfl,rfl⟩

theorem consumes_append :
    Consumes reader (bytes ++ more) after ↔ ∃ between,Consumes reader bytes between ∧ Consumes between more after := by
  constructor
  · intro consumed
    obtain ⟨rest,begins,rfl⟩ := consumed
    refine ⟨_,⟨more ++ rest,by rw [begins,append_assoc],rfl⟩,rest,?_,?_⟩
    · rw [← drop_drop,begins,append_assoc,drop_left]
    · rw [length_append,Nat.add_assoc]
  · intro consumed
    obtain ⟨_,⟨rest,begins,rfl⟩,last,continues,rfl⟩ := consumed
    refine ⟨last,?_,by rw [length_append,Nat.add_assoc]⟩
    rw [← drop_drop,begins,drop_left] at continues
    rw [begins,continues,append_assoc]

theorem Consumes.inside (consumed : Consumes reader bytes after) (nonempty : bytes ≠ []) :
    after.offset ≤ after.input.length := by
  obtain ⟨rest,begins,rfl⟩ := consumed
  have lengths := congrArg List.length begins
  have positive := length_pos_iff.mpr nonempty
  simp only [length_drop,length_append] at lengths
  show reader.offset + bytes.length ≤ reader.input.length
  omega

end Consuming

section Heads
variable {reader after : CborReader} {n : Nat}

theorem argument_valueOf : CborReader.argument bytes = valueOf bytes := rfl

theorem argumentBytes_additional (wide : 24 ≤ n) : argumentBytes (UInt8.ofNat (additional n)) = width n := by
  unfold additional width
  split_ifs <;> first | omega | rfl

theorem overlong_width (wide : 24 ≤ n) : overlong (width n) n = false := by
  unfold width overlong
  split_ifs <;> simp <;> omega

theorem width_positive (wide : 24 ≤ n) : 0 < width n := by
  unfold width
  split_ifs <;> omega

theorem width_fits (wide : 24 ≤ n) (fits : n < UInt64.size) : n < 256^width n := by
  rcases width_holds fits with ⟨_,small⟩ | ⟨_,held⟩
  · omega
  · exact held

theorem additional_small (small : n < 24) : additional n = n := if_pos small

theorem additional_wide (wide : 24 ≤ n) : 24 ≤ additional n := by
  unfold additional
  split_ifs <;> omega

theorem toNat_low (small : n < 32) : (UInt8.ofNat n).toNat = n := by
  rw [UInt8.toNat_ofNat']
  omega

theorem head_encoded {major : MajorType} (fits : n < UInt64.size) (consumed : Consumes reader (encodeHead major n) after) :
    reader.head = .ok (⟨UInt8.ofNat major.number,n⟩,after) := by
  obtain ⟨rest,begins,rfl⟩ := consumed
  have low := additional_lt n
  have first : reader.input[reader.offset]? = some (initial major (additional n)) := by
    have found := congrArg (fun bytes : Text => bytes[0]?) begins
    simpa [getElem?_drop,encodeHead] using found
  have next : reader.input.drop (reader.offset+1) = bigEndian (width n) n ++ rest := by
    rw [← drop_drop,begins]
    rfl
  have lengths := congrArg List.length begins
  simp only [encodeHead,length_drop,length_append,length_cons,length_bigEndian] at lengths
  have escape : UInt8.ofNat (additional n) ≠ 31 := by
    intro same
    have equal := congrArg UInt8.toNat same
    rw [toNat_low (by omega)] at equal
    simp only [UInt8.reduceToNat] at equal
    omega
  unfold CborReader.head
  simp only [first,initial_major (by omega : additional n < 32),initial_additional (by omega : additional n < 32),if_neg escape]
  by_cases small : n < 24
  · have direct : UInt8.ofNat (additional n) < 24 := by
      rw [UInt8.lt_iff_toNat_lt,additional_small small,toNat_low (by omega)]
      exact small
    have short : width n = 0 := if_pos small
    rw [if_pos direct,additional_small small,toNat_low (by omega)]
    simp [encodeHead,short]
  · have wide : 24 ≤ n := by omega
    have indirect : ¬UInt8.ofNat (additional n) < 24 := by
      have large := additional_wide wide
      rw [UInt8.lt_iff_toNat_lt,toNat_low (by omega)]
      simp only [UInt8.reduceToNat]
      omega
    have positive := width_positive wide
    have inside : ¬(width n = 0 ∨ reader.offset+1+width n > reader.input.length) := by omega
    have taken : (bigEndian (width n) n ++ rest).take (width n) = bigEndian (width n) n := by
      simp
    have value : CborReader.argument (bigEndian (width n) n) = n := by
      rw [argument_valueOf,valueOf_bigEndian,Nat.mod_eq_of_lt (width_fits wide fits)]
    rw [if_neg indirect,argumentBytes_additional wide,if_neg inside,next,taken,value,if_neg (by simp [overlong_width wide])]
    have moved : reader.offset+(encodeHead major n).length = reader.offset+1+width n := by
      simp only [encodeHead,length_cons,length_bigEndian]
      omega
    rw [moved]

theorem argumentBytes_positive (counted : argumentBytes extra ≠ 0) :
    extra = 24 ∨ extra = 25 ∨ extra = 26 ∨ extra = 27 := by
  unfold argumentBytes at counted
  split_ifs at counted <;> simp_all

theorem wide_form (counted : argumentBytes extra ≠ 0) (fits : value < 256^argumentBytes extra)
    (shortest : overlong (argumentBytes extra) value = false) :
    24 ≤ value ∧ value < UInt64.size ∧ width value = argumentBytes extra ∧ UInt8.ofNat (additional value) = extra := by
  unfold width additional
  have size : UInt64.size = 18446744073709551616 := rfl
  rcases argumentBytes_positive counted with rfl | rfl | rfl | rfl
  all_goals
    simp [argumentBytes,overlong] at fits shortest
    refine ⟨by omega,by omega,?_,?_⟩
    · split_ifs <;> first | omega | rfl
    · split_ifs <;> first | omega | rfl

theorem head_reads (read : reader.head = .ok (found,after)) :
    ∃ major n,n < UInt64.size ∧ found = ⟨UInt8.ofNat major.number,n⟩ ∧ Consumes reader (encodeHead major n) after := by
  unfold CborReader.head at read
  split at read
  · cases read
  · rename_i first begins
    obtain ⟨parts,low⟩ := initial_parts first
    have major : first >>> 5 = UInt8.ofNat (MajorType.ofNumber (first >>> 5).toNat).number := by
      rw [← initial_major low,← parts]
    have remaining : reader.input.drop reader.offset = first :: reader.input.drop (reader.offset+1) := by
      obtain ⟨inside,at_offset⟩ := List.getElem?_eq_some_iff.mp begins
      rw [List.drop_eq_getElem_cons inside,at_offset]
    generalize MajorType.ofNumber (first >>> 5).toNat = kind at parts major
    simp only at read
    split_ifs at read with escape direct unheld overlong
    · cases read
      have small : (first &&& 0x1F).toNat < 24 := direct
      have form : encodeHead kind (first &&& 0x1F).toNat = [first] := by
        simp only [encodeHead,additional_small small,width,if_pos small,bigEndian,← parts]
      have size : UInt64.size = 18446744073709551616 := rfl
      refine ⟨kind,(first &&& 0x1F).toNat,by omega,by rw [major],reader.input.drop (reader.offset+1),?_,by rw [form]; rfl⟩
      rw [form,remaining]
      rfl
    · cases read
      have counted : argumentBytes (first &&& 0x1F) ≠ 0 := fun none => unheld (.inl none)
      have room : reader.offset+1+argumentBytes (first &&& 0x1F) ≤ reader.input.length :=
        Nat.not_lt.mp fun past => unheld (.inr past)
      generalize held : (reader.input.drop (reader.offset+1)).take (argumentBytes (first &&& 0x1F)) = bytes at *
      have length : bytes.length = argumentBytes (first &&& 0x1F) := by
        rw [← held,List.length_take,List.length_drop]
        omega
      have fits := valueOf_lt bytes
      rw [length] at fits
      obtain ⟨_,bounded,shortest,escaped⟩ := wide_form counted fits (by simpa [argument_valueOf] using overlong)
      have form : encodeHead kind (valueOf bytes) = first :: bytes := by
        have small : additional (valueOf bytes) < 32 := Nat.lt_of_lt_of_le (additional_lt _) (by omega)
        have extra : additional (valueOf bytes) = (first &&& 0x1F).toNat := by rw [← escaped,toNat_low small]
        rw [encodeHead,extra,← parts,shortest,← length,bigEndian_valueOf]
      refine ⟨kind,valueOf bytes,bounded,by rw [major]; rfl,(reader.input.drop (reader.offset+1)).drop (argumentBytes (first &&& 0x1F)),?_,?_⟩
      · rw [form,remaining,List.cons_append,← held,List.take_append_drop]
      · rw [form,List.length_cons,length]
        congr 1
        omega

theorem head_iff : reader.head = .ok (found,after) ↔
    ∃ major n,n < UInt64.size ∧ found = ⟨UInt8.ofNat major.number,n⟩ ∧ Consumes reader (encodeHead major n) after := by
  constructor
  · exact head_reads
  · intro encoded
    obtain ⟨major,n,fits,rfl,consumed⟩ := encoded
    exact head_encoded fits consumed

end Heads

section Skipping

theorem times_iff {α : Type} {P : α → Prop} {spelled : α → Text}
    (reads : ∀ reader after,step reader = .ok after ↔ ∃ item,P item ∧ Consumes reader (spelled item) after)
    (count : Nat) {reader after : CborReader} : times step count reader = .ok after ↔
      ∃ items : List α,items.length = count ∧ (∀ item ∈ items,P item) ∧ Consumes reader (items.flatMap spelled) after := by
  induction count generalizing reader with
  | zero =>
    constructor
    · intro done
      cases done
      exact ⟨[],rfl,by simp,.here _⟩
    · intro listed
      obtain ⟨items,length,_,_,begins,moved⟩ := listed
      rw [length_eq_zero_iff.mp length] at moved
      rw [moved]
      rfl
  | succ count ih =>
    constructor
    · intro done
      unfold times at done
      cases first : step reader with
      | error e =>
        rw [first] at done
        cases done
      | ok between =>
        rw [first] at done
        obtain ⟨item,formed,consumed⟩ := (reads reader between).mp first
        obtain ⟨items,length,every,continued⟩ := ih.mp done
        exact ⟨item :: items,by simp [length],by simpa using ⟨formed,every⟩,consumes_append.mpr ⟨between,consumed,continued⟩⟩
    · intro listed
      obtain ⟨items,length,every,consumed⟩ := listed
      cases items with
      | nil => cases length
      | cons item items =>
        obtain ⟨between,first,continued⟩ := consumes_append.mp consumed
        have begun := (reads reader between).mpr ⟨item,every item mem_cons_self,first⟩
        have remaining := ih.mpr ⟨items,by simpa using length,fun other listed => every other (mem_cons_of_mem _ listed),continued⟩
        rw [times,begun]
        exact remaining

variable {reader after between : CborReader} {n levels : Nat} {major : MajorType}

theorem content_iff :
    (if n > reader.input.length-reader.offset then .error malformed else .ok ⟨reader.input,reader.offset+n⟩ : Result CborReader)
      = .ok after ↔ ∃ content : Text,content.length = n ∧ Consumes reader content after := by
  constructor
  · intro moved
    split_ifs at moved with room
    cases moved
    have length : ((reader.input.drop reader.offset).take n).length = n := by
      rw [length_take,length_drop]
      omega
    exact ⟨(reader.input.drop reader.offset).take n,length,(reader.input.drop reader.offset).drop n,by rw [take_append_drop],
      by rw [length]⟩
  · intro taken
    obtain ⟨content,rfl,rest,begins,rfl⟩ := taken
    have lengths := congrArg List.length begins
    rw [length_drop,length_append] at lengths
    rw [if_neg (by omega)]

def skipBody (levels : Nat) (major : MajorType) (n : Nat) (reader : CborReader) : Result CborReader :=
  match major with
  | .unsigned | .negative | .simple => .ok reader
  | .bytes | .text => if n > reader.input.length-reader.offset then .error malformed else .ok ⟨reader.input,reader.offset+n⟩
  | .array => if n > 256 then .error malformed else times (skipWithin levels) n reader
  | .map => if n > 256 then .error malformed
      else times (fun reader => (skipWithin levels reader).bind (skipWithin levels)) n reader
  | .tag => skipWithin levels reader

theorem skip_headed (headed : reader.head = .ok (⟨UInt8.ofNat major.number,n⟩,between)) :
    skipWithin (levels+1) reader = skipBody levels major n between := by
  rw [skipWithin,headed]
  cases major <;> rfl

theorem encodeHead_ne : encodeHead major n ≠ [] := cons_ne_nil _ _

theorem skip_iff_body : skipWithin (levels+1) reader = .ok after ↔
    ∃ major n between,n < UInt64.size ∧ Consumes reader (encodeHead major n) between ∧ skipBody levels major n between = .ok after := by
  constructor
  · intro skipped
    cases headed : reader.head with
    | error e =>
      rw [skipWithin,headed] at skipped
      cases skipped
    | ok read =>
      obtain ⟨found,between⟩ := read
      obtain ⟨major,n,fits,rfl,consumed⟩ := head_reads headed
      exact ⟨major,n,between,fits,consumed,by rw [← skip_headed headed,skipped]⟩
  · intro encoded
    obtain ⟨major,n,between,fits,consumed,rest⟩ := encoded
    rw [skip_headed (head_encoded fits consumed),rest]

theorem paired {step : CborReader → Result CborReader} {P : DataItem → Prop}
    (reads : ∀ reader after,step reader = .ok after ↔ ∃ item,P item ∧ Consumes reader (encode item) after)
    (reader after : CborReader) : (step reader).bind step = .ok after ↔
      ∃ entry : DataItem × DataItem,(P entry.1 ∧ P entry.2) ∧ Consumes reader (encode entry.1 ++ encode entry.2) after := by
  constructor
  · intro done
    cases first : step reader with
    | error e =>
      rw [first] at done
      cases done
    | ok between =>
      rw [first] at done
      obtain ⟨key,formed,consumed⟩ := (reads reader between).mp first
      obtain ⟨item,whole,continued⟩ := (reads between after).mp done
      exact ⟨(key,item),⟨formed,whole⟩,consumes_append.mpr ⟨between,consumed,continued⟩⟩
  · intro listed
    obtain ⟨entry,formed,consumed⟩ := listed
    obtain ⟨between,first,continued⟩ := consumes_append.mp consumed
    rw [(reads reader between).mpr ⟨entry.1,formed.1,first⟩]
    exact (reads between after).mpr ⟨entry.2,formed.2,continued⟩

theorem encode_ne (item : DataItem) : encode item ≠ [] := by
  cases item <;> simp [encode,encodeHead]

theorem toNat_word (fits : n < UInt64.size) : (UInt64.ofNat n).toNat = n := UInt64.toNat_ofNat_of_lt' fits

theorem skip_iff : skipWithin levels reader = .ok after ↔
    ∃ item,Within 256 levels item ∧ Consumes reader (encode item) after := by
  induction levels generalizing reader after with
  | zero =>
    constructor
    · intro skipped
      cases skipped
    · intro shallow
      obtain ⟨_,none,_⟩ := shallow
      cases none
  | succ levels ih =>
    have single (reader after : CborReader) := @ih reader after
    rw [skip_iff_body]
    constructor
    · intro encoded
      obtain ⟨major,n,between,fits,consumed,body⟩ := encoded
      cases major with
      | unsigned =>
        cases body
        exact ⟨.unsigned (.ofNat n),trivial,by rwa [encode,toNat_word fits]⟩
      | negative =>
        cases body
        exact ⟨.negative (.ofNat n),trivial,by rwa [encode,toNat_word fits]⟩
      | bytes =>
        obtain ⟨content,rfl,read⟩ := content_iff.mp body
        exact ⟨.bytes content,fits,consumes_append.mpr ⟨between,consumed,read⟩⟩
      | text =>
        obtain ⟨content,rfl,read⟩ := content_iff.mp body
        exact ⟨.text content,fits,consumes_append.mpr ⟨between,consumed,read⟩⟩
      | array =>
        simp only [skipBody] at body
        split_ifs at body with large
        obtain ⟨items,rfl,every,read⟩ := (times_iff single n).mp body
        refine ⟨.array items,⟨by omega,every⟩,?_⟩
        rw [encode,encodeItems_eq]
        exact consumes_append.mpr ⟨between,consumed,read⟩
      | map =>
        simp only [skipBody] at body
        split_ifs at body with large
        obtain ⟨entries,rfl,every,read⟩ := (times_iff (paired single) n).mp body
        refine ⟨.map entries,⟨by omega,every⟩,?_⟩
        rw [encode,encodeEntries_eq]
        exact consumes_append.mpr ⟨between,consumed,read⟩
      | tag =>
        obtain ⟨item,formed,read⟩ := ih.mp body
        refine ⟨.tag (.ofNat n) item,formed,?_⟩
        rw [encode,toNat_word fits]
        exact consumes_append.mpr ⟨between,consumed,read⟩
      | simple =>
        cases body
        exact ⟨.simple (.ofNat n),trivial,by rwa [encode,toNat_word fits]⟩
    · intro formed
      obtain ⟨item,within,consumed⟩ := formed
      cases item with
      | unsigned value => exact ⟨.unsigned,value.toNat,after,value.toNat_lt_size,by rwa [encode] at consumed,rfl⟩
      | negative value => exact ⟨.negative,value.toNat,after,value.toNat_lt_size,by rwa [encode] at consumed,rfl⟩
      | bytes content =>
        rw [encode] at consumed
        obtain ⟨between,first,read⟩ := consumes_append.mp consumed
        exact ⟨.bytes,content.length,between,within,first,content_iff.mpr ⟨content,rfl,read⟩⟩
      | text content =>
        rw [encode] at consumed
        obtain ⟨between,first,read⟩ := consumes_append.mp consumed
        exact ⟨.text,content.length,between,within,first,content_iff.mpr ⟨content,rfl,read⟩⟩
      | array items =>
        rw [encode,encodeItems_eq] at consumed
        obtain ⟨between,first,read⟩ := consumes_append.mp consumed
        obtain ⟨short,every⟩ := within
        have size : UInt64.size = 18446744073709551616 := rfl
        refine ⟨.array,items.length,between,by omega,first,?_⟩
        rw [skipBody,if_neg (by omega)]
        exact (times_iff single _).mpr ⟨items,rfl,every,read⟩
      | map entries =>
        rw [encode,encodeEntries_eq] at consumed
        obtain ⟨between,first,read⟩ := consumes_append.mp consumed
        obtain ⟨short,every⟩ := within
        have size : UInt64.size = 18446744073709551616 := rfl
        refine ⟨.map,entries.length,between,by omega,first,?_⟩
        rw [skipBody,if_neg (by omega)]
        exact (times_iff (paired single) _).mpr ⟨entries,rfl,every,read⟩
      | tag number item =>
        rw [encode] at consumed
        obtain ⟨between,first,read⟩ := consumes_append.mp consumed
        exact ⟨.tag,number.toNat,between,number.toNat_lt_size,first,ih.mpr ⟨item,within,read⟩⟩
      | simple value => exact ⟨.simple,value.toNat,after,value.toNat_lt_size,by rwa [encode] at consumed,rfl⟩

end Skipping

section Indexing

def fetch (input : Text) : (count : Nat) → (offset : Nat) → (value : UInt64) → Option (UInt64 × Nat)
  | 0,offset,value => some (value,offset)
  | count+1,offset,value =>
    match input[offset]? with
    | none => none
    | some byte => fetch input count (offset+1) ((value <<< 8) ||| byte.toUInt64)

def headIndexed (reader : CborReader) : Option (Result (Head × CborReader)) :=
  if reader.offset ≥ reader.input.length then some (.error malformed)
  else
    match reader.input[reader.offset]? with
    | none => none
    | some first =>
      let next := reader.offset+1
      let additional := first &&& 0x1F
      if additional = 31 then some (.error malformed)
      else if additional < 24 then some (.ok (⟨first >>> 5,additional.toNat⟩,⟨reader.input,next⟩))
      else
        let bytes := argumentBytes additional
        if bytes = 0 ∨ next+bytes > reader.input.length then some (.error malformed)
        else
          match fetch reader.input bytes next 0 with
          | none => none
          | some (value,offset) =>
            if overlong bytes value.toNat then some (.error malformed)
            else some (.ok (⟨first >>> 5,value.toNat⟩,⟨reader.input,offset⟩))

def andThen (first : Option (Result CborReader)) (next : CborReader → Option (Result CborReader)) : Option (Result CborReader) :=
  match first with
  | none => none
  | some (.error e) => some (.error e)
  | some (.ok reader) => next reader

def timesIndexed (step : CborReader → Option (Result CborReader)) : Nat → CborReader → Option (Result CborReader)
  | 0,reader => some (.ok reader)
  | count+1,reader => andThen (step reader) (timesIndexed step count)

def skipIndexed : (levels : Nat) → CborReader → Option (Result CborReader)
  | 0,_ => some (.error malformed)
  | levels+1,reader =>
    match headIndexed reader with
    | none => none
    | some (.error e) => some (.error e)
    | some (.ok (head,reader)) =>
      if head.major = 0 ∨ head.major = 1 ∨ head.major = 7 then some (.ok reader)
      else if head.major = 2 ∨ head.major = 3 then
        if reader.offset > reader.input.length then none
        else if head.value > reader.input.length-reader.offset then some (.error malformed)
        else some (.ok ⟨reader.input,reader.offset+head.value⟩)
      else if head.major = 4 then
        if head.value > 256 then some (.error malformed)
        else timesIndexed (skipIndexed levels) head.value reader
      else if head.major = 5 then
        if head.value > 256 then some (.error malformed)
        else timesIndexed (fun reader => andThen (skipIndexed levels reader) (skipIndexed levels)) head.value reader
      else if head.major = 6 then skipIndexed levels reader
      else some (.error malformed)

theorem shifted_in {value : UInt64} (byte : UInt8) (fits : value.toNat*256 < UInt64.size) :
    ((value <<< 8) ||| byte.toUInt64).toNat = value.toNat*256 + byte.toNat := by
  have small := byte.toNat_lt
  have wide : value.toNat*256 < 2^64 := fits
  rw [UInt64.toNat_or,UInt64.toNat_shiftLeft,UInt8.toNat_toUInt64]
  simp only [UInt64.reduceToNat,Nat.reduceMod,Nat.shiftLeft_eq]
  rw [Nat.mod_eq_of_lt (by omega),Nat.mul_comm,Nat.two_pow_add_eq_or_of_lt small]

theorem fetch_inside {count offset k : Nat} {value : UInt64} (room : offset+count ≤ input.length)
    (held : value.toNat < 256^k) (few : k+count ≤ 8) :
    ∃ word : UInt64,fetch input count offset value = some (word,offset+count) ∧
      word.toNat = ((input.drop offset).take count).foldl (fun value byte => value*256+byte.toNat) value.toNat := by
  induction count generalizing offset k value with
  | zero => exact ⟨value,rfl,by simp⟩
  | succ count ih =>
    have inside : offset < input.length := by omega
    have found : input[offset]? = some input[offset] := getElem?_eq_getElem inside
    have small := input[offset].toNat_lt
    have fewer : k+1+count ≤ 8 := by omega
    have later : offset+1+count ≤ input.length := by omega
    have bound : value.toNat*256 + input[offset].toNat < 256^(k+1) := by
      rw [pow_succ]
      omega
    have carried : value.toNat*256 < UInt64.size := by
      calc value.toNat*256 ≤ value.toNat*256 + input[offset].toNat := Nat.le_add_right _ _
        _ < 256^(k+1) := bound
        _ ≤ 256^8 := Nat.pow_le_pow_right (by decide) (by omega)
        _ = UInt64.size := by norm_num [UInt64.size]
    have joined := shifted_in input[offset] carried
    obtain ⟨word,fetched,folded⟩ := @ih (offset+1) (k+1) ((value <<< 8) ||| input[offset].toUInt64) later
      (joined.trans_lt bound) fewer
    have moved : offset+(count+1) = offset+1+count := by omega
    refine ⟨word,?_,?_⟩
    · simp only [fetch,found,fetched,moved]
    · rw [folded,joined,drop_eq_getElem_cons inside,take_succ_cons,foldl_cons]

theorem headIndexed_eq (reader : CborReader) : headIndexed reader = some reader.head := by
  unfold headIndexed CborReader.head
  by_cases past : reader.offset ≥ reader.input.length
  · rw [if_pos past,getElem?_eq_none past]
  · have found : reader.input[reader.offset]? = some reader.input[reader.offset] := getElem?_eq_getElem (by omega)
    rw [if_neg past,found]
    generalize reader.input[reader.offset] = first
    by_cases unheld : argumentBytes (first &&& 0x1F) = 0 ∨ reader.offset+1+argumentBytes (first &&& 0x1F) > reader.input.length
    · simp only [if_pos unheld]
      split_ifs <;> rfl
    · have counted : argumentBytes (first &&& 0x1F) ≠ 0 := fun none => unheld (.inl none)
      have few : 0+argumentBytes (first &&& 0x1F) ≤ 8 := by
        rcases argumentBytes_positive counted with extra | extra | extra | extra <;> rw [extra] <;> decide
      obtain ⟨word,fetched,value⟩ := @fetch_inside reader.input _ _ 0 0 (Nat.not_lt.mp fun past => unheld (.inr past)) (by decide) few
      have same : CborReader.argument ((reader.input.drop (reader.offset+1)).take (argumentBytes (first &&& 0x1F))) = word.toNat := by
        rw [value]
        rfl
      simp only [if_neg unheld,fetched,same]
      split_ifs <;> rfl

theorem andThen_some (first : Result CborReader) (next : CborReader → Result CborReader) :
    andThen (some first) (fun reader => some (next reader)) = some (first.bind next) := by
  cases first <;> rfl

theorem timesIndexed_eq (same : step = fun reader => some (plain reader)) (count : Nat) :
    timesIndexed step count = fun reader => some (times plain count reader) := by
  subst same
  induction count with
  | zero => rfl
  | succ count ih =>
    funext reader
    rw [timesIndexed,ih,andThen_some,times]

theorem skipIndexed_eq : skipIndexed levels = fun reader => some (skipWithin levels reader) := by
  induction levels with
  | zero => rfl
  | succ levels ih =>
    funext reader
    rw [skipIndexed,skipWithin,headIndexed_eq,ih]
    cases headed : reader.head with
    | error e => rfl
    | ok read =>
      obtain ⟨found,between⟩ := read
      obtain ⟨major,n,fits,rfl,consumed⟩ := head_reads headed
      have inside := consumed.inside encodeHead_ne
      have pairs (reader : CborReader) := andThen_some (skipWithin levels reader) (skipWithin levels)
      simp only [pairs,timesIndexed_eq rfl,if_neg (Nat.not_lt.mpr inside)]
      split_ifs <;> rfl

end Indexing

-- Every head is its type and a 64-bit argument in the fewest bytes, and is read back; what
-- is skipped is one item, at most 13 deep with at most 256 items or entries in a container;
-- and no byte is read, nor a place reached, past the end.
theorem items_skipped :
    (∀ argument : UInt64,Holds (width argument.toNat) argument.toNat ∧ ∀ count,Holds count argument.toNat → width argument.toNat ≤ count) ∧
    (∀ (major : MajorType) (argument : UInt64) (rest : Text),
      CborReader.head ⟨encodeHead major argument.toNat ++ rest,0⟩ = .ok (⟨UInt8.ofNat major.number,argument.toNat⟩,
        ⟨encodeHead major argument.toNat ++ rest,(encodeHead major argument.toNat).length⟩)) ∧
    (∀ (reader after : CborReader) (found : Head),reader.head = .ok (found,after) ↔
      ∃ (major : MajorType) (argument : UInt64),found = ⟨UInt8.ofNat major.number,argument.toNat⟩ ∧
        Consumes reader (encodeHead major argument.toNat) after) ∧
    (∀ reader after : CborReader,reader.skip = .ok after ↔ ∃ item,Within 256 13 item ∧ Consumes reader (encode item) after) ∧
    (∀ reader : CborReader,headIndexed reader = some reader.head ∧ skipIndexed 13 reader = some reader.skip) ∧
    ∀ reader after : CborReader,reader.skip = .ok after → after.input = reader.input ∧ reader.offset < after.offset ∧
      after.offset ≤ reader.input.length := by
  refine ⟨fun argument => ⟨width_holds argument.toNat_lt_size,fun _ => width_least⟩,?_,?_,fun _ _ => skip_iff,fun reader => ⟨headIndexed_eq reader,by rw [skipIndexed_eq]; rfl⟩,?_⟩
  · intro major argument rest
    exact head_encoded argument.toNat_lt_size ⟨rest,rfl,by rw [Nat.zero_add]⟩
  · intro reader after found
    rw [head_iff]
    constructor
    · intro read
      obtain ⟨major,n,fits,same,consumed⟩ := read
      exact ⟨major,.ofNat n,by rw [toNat_word fits,same],by rwa [toNat_word fits]⟩
    · intro encoded
      obtain ⟨major,argument,same,consumed⟩ := encoded
      exact ⟨major,argument.toNat,argument.toNat_lt_size,same,consumed⟩
  · intro reader after skipped
    obtain ⟨item,within,consumed⟩ := skip_iff.mp skipped
    have inside := consumed.inside (encode_ne item)
    have positive := List.length_pos_iff.mpr (encode_ne item)
    obtain ⟨_,_,rfl⟩ := consumed
    exact ⟨rfl,Nat.lt_add_of_pos_right positive,inside⟩

example : CborReader.skip ⟨[0x82,0x01,0x61,0x61,0xF6],0⟩ = .ok ⟨[0x82,0x01,0x61,0x61,0xF6],4⟩ := rfl
example : CborReader.skip ⟨[0x82,0x01,0x61],0⟩ = .error malformed := rfl

end OpenProof.CborItems
