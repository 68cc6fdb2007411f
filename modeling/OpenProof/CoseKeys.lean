import OpenProof.CborItems
import OpenProof.PasskeyRegistration

namespace OpenProof.CoseKeys
open Foundation List
open Cbor
open CborGrammar
open CborItems PasskeyRegistration PasskeyProvider

def integerItem : Int → DataItem
  | .ofNat n => .unsigned (.ofNat n)
  | .negSucc n => .negative (.ofNat n)

abbrev Int64 (value : Int) : Prop := -9223372036854775808 ≤ value ∧ value ≤ 9223372036854775807

abbrev Entry := Int × DataItem

def spelled (entry : Entry) : Text := encode (integerItem entry.1) ++ encode entry.2

def Typed (entry : Entry) : Prop :=
  Int64 entry.1 ∧
    if entry.1 = 1 ∨ entry.1 = 3 ∨ entry.1 = -1 then ∃ value,Int64 value ∧ entry.2 = integerItem value
    else if entry.1 = -2 ∨ entry.1 = -3 then ∃ content : Text,content.length = 32 ∧ entry.2 = .bytes content
    else Within 256 13 entry.2

structure Spells (input : Text) (entries : List Entry) (consumed : Nat) : Prop where
  counted : entries.length < UInt64.size
  typed : ∀ entry ∈ entries,Typed entry
  begins : Consumes ⟨input,0⟩ (encodeHead .map entries.length ++ entries.flatMap spelled) ⟨input,consumed⟩

section Integers
variable {reader after : CborReader} {value : Int}

theorem encode_integerItem (fits : Int64 value) : encode (integerItem value) =
    if 0 ≤ value then encodeHead .unsigned value.toNat else encodeHead .negative (-1-value).toNat := by
  have size : UInt64.size = 18446744073709551616 := rfl
  obtain ⟨lower,upper⟩ := fits
  cases value with
  | ofNat n =>
    have bounded : (n : Int) ≤ 9223372036854775807 := upper
    have small : n < UInt64.size := by omega
    have positive : 0 ≤ Int.ofNat n := Int.natCast_nonneg n
    rw [if_pos positive,integerItem,encode,toNat_word small]
    rfl
  | negSucc n =>
    have small : n < UInt64.size := by omega
    have same : (-1-Int.negSucc n).toNat = n := by omega
    rw [if_neg (by omega),integerItem,encode,toNat_word small,same]

theorem integer_iff : reader.integer = .ok (value,after) ↔
    Int64 value ∧ Consumes reader (encode (integerItem value)) after := by
  have size : UInt64.size = 18446744073709551616 := rfl
  constructor
  · intro read
    unfold CborReader.integer at read
    cases headed : reader.head with
    | error e =>
      rw [headed] at read
      cases read
    | ok found =>
      obtain ⟨found,between⟩ := found
      obtain ⟨major,n,fits,rfl,consumed⟩ := head_reads headed
      rw [headed] at read
      simp only at read
      split_ifs at read with refused unsigned
      · cases read
        have small : ¬9223372036854775807 < n := fun large => refused (.inr large)
        have bounds : Int64 (n : Int) := ⟨by omega,by omega⟩
        refine ⟨bounds,?_⟩
        rw [encode_integerItem bounds,if_pos (Int.natCast_nonneg n),Int.toNat_natCast]
        cases major <;> first | exact consumed | exact absurd unsigned (by decide)
      · cases read
        have small : ¬9223372036854775807 < n := fun large => refused (.inr large)
        have bounds : Int64 (-1-(n : Int)) := ⟨by omega,by omega⟩
        have same : (-1-(-1-(n : Int))).toNat = n := by omega
        refine ⟨bounds,?_⟩
        rw [encode_integerItem bounds,if_neg (by omega),same]
        have kind : UInt8.ofNat major.number = 1 := by
          by_contra other
          exact refused (.inl ⟨unsigned,other⟩)
        cases major <;> first | exact consumed | exact absurd kind (by decide)
  · intro encoded
    obtain ⟨fits,consumed⟩ := encoded
    rw [encode_integerItem fits] at consumed
    obtain ⟨lower,upper⟩ := fits
    unfold CborReader.integer
    split_ifs at consumed with sign
    · rw [head_encoded (by omega) consumed]
      have small : ¬9223372036854775807 < value.toNat := by omega
      have same : (value.toNat : Int) = value := Int.toNat_of_nonneg sign
      simp [MajorType.number,small,same]
    · rw [head_encoded (by omega) consumed]
      have small : ¬9223372036854775807 < (-1-value).toNat := by omega
      have same : -1-max (-1-value) 0 = value := by omega
      simp [MajorType.number,small,same]

end Integers

theorem bytes_iff {reader after : CborReader} : reader.bytes 64 = .ok (content,after) ↔
    content.length ≤ 64 ∧ Consumes reader (encode (.bytes content)) after := by
  have size : UInt64.size = 18446744073709551616 := rfl
  unfold CborReader.bytes CborReader.string
  rw [encode,consumes_append]
  constructor
  · intro read
    cases headed : reader.head with
    | error e =>
      rw [headed] at read
      cases read
    | ok found =>
      obtain ⟨found,between⟩ := found
      obtain ⟨major,n,fits,rfl,consumed⟩ := head_reads headed
      rw [headed] at read
      simp only at read
      split_ifs at read with refused
      cases read
      simp only [not_or,not_lt,ne_eq,not_not] at refused
      obtain ⟨kind,short,room⟩ := refused
      have length : ((between.input.drop between.offset).take n).length = n := by
        rw [length_take,length_drop]
        omega
      refine ⟨by omega,between,?_,(between.input.drop between.offset).drop n,by rw [take_append_drop],by rw [length]⟩
      rw [length]
      cases major <;> first | exact consumed | exact absurd kind (by decide)
  · intro encoded
    obtain ⟨short,between,first,rest,begins,rfl⟩ := encoded
    have lengths := congrArg List.length begins
    have inside := first.inside encodeHead_ne
    rw [length_drop,length_append] at lengths
    have room : ¬between.offset+content.length > between.input.length := by omega
    rw [head_encoded (by omega) first]
    simp [MajorType.number,begins,room,Nat.not_lt.mpr short]

def integerOf : DataItem → Option Int
  | .unsigned n => some n.toNat
  | .negative n => some (-1-n.toNat)
  | _ => none

def contentOf : DataItem → Option Text
  | .bytes content => some content
  | _ => none

-- The last item read under each label: a later one takes the place of an earlier one.
abbrev Found := Int → Option DataItem

def learn (found : Found) (entry : Entry) : Found := Function.update found entry.1 (some entry.2)

def readOf (found : Found) : CoseParameters :=
  ⟨(found 1).bind integerOf,(found 3).bind integerOf,(found (-1)).bind integerOf,(found (-2)).bind contentOf,
    (found (-3)).bind contentOf⟩

theorem integerOf_integerItem {value : Int} (fits : Int64 value) : integerOf (integerItem value) = some value := by
  have size : UInt64.size = 18446744073709551616 := rfl
  obtain ⟨lower,upper⟩ := fits
  cases value with
  | ofNat n =>
    have bounded : (n : Int) ≤ 9223372036854775807 := upper
    rw [integerItem,integerOf,toNat_word (by omega)]
    rfl
  | negSucc n =>
    rw [integerItem,integerOf,toNat_word (by omega)]
    congr 1
    omega

section Loop
variable {reader after : CborReader} {read : CoseParameters} {found : Found}

theorem next_reads (done : (readOf found).next reader = .ok (read,after)) :
    ∃ entry,Typed entry ∧ Consumes reader (spelled entry) after ∧ read = readOf (learn found entry) := by
  unfold CoseParameters.next at done
  split at done
  · cases done
  · rename_i label between labelled
    obtain ⟨bounds,first⟩ := integer_iff.mp labelled
    by_cases parameter : label = 1 ∨ label = 3 ∨ label = -1
    · rw [if_pos parameter] at done
      split at done
      · cases done
      · rename_i value last valued
        obtain ⟨fits,second⟩ := integer_iff.mp valued
        refine ⟨(label,integerItem value),⟨bounds,?_⟩,?_,?_⟩
        · rw [if_pos parameter]
          exact ⟨value,fits,rfl⟩
        · split_ifs at done <;> cases done <;> exact consumes_append.mpr ⟨between,first,second⟩
        · rcases parameter with rfl | rfl | rfl <;> cases done <;> simp [readOf,learn,integerOf_integerItem fits]
    · rw [if_neg parameter] at done
      by_cases coordinate : label = -2 ∨ label = -3
      · rw [if_pos coordinate] at done
        split at done
        · cases done
        · rename_i value last valued
          obtain ⟨_,second⟩ := bytes_iff.mp valued
          by_cases sized : value.length = 32
          · rw [if_neg (not_not.mpr sized)] at done
            refine ⟨(label,.bytes value),⟨bounds,?_⟩,?_,?_⟩
            · rw [if_neg parameter,if_pos coordinate]
              exact ⟨value,sized,rfl⟩
            · split_ifs at done <;> cases done <;> exact consumes_append.mpr ⟨between,first,second⟩
            · rcases coordinate with rfl | rfl <;> cases done <;> simp [readOf,learn,contentOf]
          · rw [if_pos sized] at done
            cases done
      · rw [if_neg coordinate] at done
        split at done
        · cases done
        · rename_i last skipped
          cases done
          obtain ⟨item,within,second⟩ := skip_iff.mp skipped
          refine ⟨(label,item),⟨bounds,?_⟩,consumes_append.mpr ⟨between,first,second⟩,?_⟩
          · rw [if_neg parameter,if_neg coordinate]
            exact within
          · simp only [not_or] at parameter coordinate
            obtain ⟨kty,alg,crv⟩ := parameter
            obtain ⟨x,y⟩ := coordinate
            simp [readOf,learn,Function.update,Ne.symm kty,Ne.symm alg,Ne.symm crv,Ne.symm x,Ne.symm y]

theorem next_spelled (typed : Typed entry) (consumed : Consumes reader (spelled entry) after) :
    (readOf found).next reader = .ok (readOf (learn found entry),after) := by
  obtain ⟨label,item⟩ := entry
  obtain ⟨bounds,typed⟩ := typed
  obtain ⟨between,first,second⟩ := consumes_append.mp consumed
  unfold CoseParameters.next
  rw [integer_iff.mpr ⟨bounds,first⟩]
  simp only at typed second ⊢
  by_cases parameter : label = 1 ∨ label = 3 ∨ label = -1
  · rw [if_pos parameter] at typed ⊢
    obtain ⟨value,fits,rfl⟩ := typed
    rw [integer_iff.mpr ⟨fits,second⟩]
    rcases parameter with rfl | rfl | rfl <;> simp [readOf,learn,integerOf_integerItem fits]
  · rw [if_neg parameter] at typed ⊢
    by_cases coordinate : label = -2 ∨ label = -3
    · rw [if_pos coordinate] at typed ⊢
      obtain ⟨content,sized,rfl⟩ := typed
      rw [bytes_iff.mpr ⟨by omega,second⟩]
      rcases coordinate with rfl | rfl <;> simp [readOf,learn,contentOf,sized]
    · rw [if_neg coordinate] at typed ⊢
      have skipped : between.skip = .ok after := skip_iff.mpr ⟨item,typed,second⟩
      rw [skipped]
      simp only [not_or] at parameter coordinate
      obtain ⟨kty,alg,crv⟩ := parameter
      obtain ⟨x,y⟩ := coordinate
      simp [readOf,learn,Function.update,Ne.symm kty,Ne.symm alg,Ne.symm crv,Ne.symm x,Ne.symm y]

theorem all_iff (count : Nat) : CoseParameters.all count (readOf found) reader = .ok (read,after) ↔
    ∃ entries : List Entry,entries.length = count ∧ (∀ entry ∈ entries,Typed entry) ∧
      Consumes reader (entries.flatMap spelled) after ∧ read = readOf (entries.foldl learn found) := by
  induction count generalizing reader found with
  | zero =>
    constructor
    · intro done
      cases done
      exact ⟨[],rfl,by simp,.here _,rfl⟩
    · intro listed
      obtain ⟨entries,none,_,consumed,rfl⟩ := listed
      obtain rfl := length_eq_zero_iff.mp none
      obtain ⟨_,_,rfl⟩ := consumed
      rfl
  | succ count ih =>
    constructor
    · intro done
      obtain ⟨⟨one,between⟩,stepped,remaining⟩ := bind_ok done
      obtain ⟨entry,typed,consumed,rfl⟩ := next_reads stepped
      obtain ⟨entries,length,every,continued,rfl⟩ := ih.mp remaining
      exact ⟨entry :: entries,by simp [length],forall_mem_cons.mpr ⟨typed,every⟩,consumes_append.mpr ⟨between,consumed,continued⟩,rfl⟩
    · intro listed
      obtain ⟨entries,length,every,consumed,rfl⟩ := listed
      cases entries with
      | nil => cases length
      | cons entry entries =>
        obtain ⟨between,first,continued⟩ := consumes_append.mp consumed
        have stepped : (readOf found).next reader = _ := next_spelled (every entry mem_cons_self) first
        rw [CoseParameters.all,stepped]
        exact ih.mpr ⟨entries,by simpa using length,fun other listed => every other (mem_cons_of_mem _ listed),continued,rfl⟩

theorem labels_unique {entries others : List Entry} (same : entries.length = others.length)
    (typed : ∀ entry ∈ entries,Typed entry) (formed : ∀ entry ∈ others,Typed entry)
    (one : Consumes reader (entries.flatMap spelled) after) (two : Consumes reader (others.flatMap spelled) later) :
    entries.map Prod.fst = others.map Prod.fst := by
  induction entries generalizing reader others with
  | nil =>
    obtain rfl := length_eq_zero_iff.mp same.symm
    rfl
  | cons entry entries ih =>
    cases others with
    | nil => cases same
    | cons other others =>
      obtain ⟨between,first,rest⟩ := consumes_append.mp one
      obtain ⟨middle,second,remaining⟩ := consumes_append.mp two
      have stepped : (readOf fun _ => none).next reader = _ := next_spelled (typed entry mem_cons_self) first
      rw [next_spelled (formed other mem_cons_self) second] at stepped
      have meets : middle = between := congrArg Prod.snd (Except.ok.inj stepped)
      obtain ⟨_,label,_⟩ := consumes_append.mp first
      obtain ⟨_,mark,_⟩ := consumes_append.mp second
      have read := integer_iff.mpr ⟨(formed other mem_cons_self).1,mark⟩
      rw [integer_iff.mpr ⟨(typed entry mem_cons_self).1,label⟩] at read
      have equal : entry.1 = other.1 := (Prod.mk.inj (Except.ok.inj read)).1
      rw [map_cons,map_cons,equal,ih (Nat.succ.inj same) (fun one listed => typed one (mem_cons_of_mem _ listed))
        (fun one listed => formed one (mem_cons_of_mem _ listed)) rest (meets ▸ remaining)]

end Loop

def latest (entries : List Entry) : Found := entries.foldl learn fun _ => none

theorem latest_append : latest (entries ++ [last]) = learn (latest entries) last := by
  simp [latest]

structure Complete (entries : List Entry) (x y : Text) : Prop where
  counted : 5 ≤ entries.length ∧ entries.length ≤ 16
  kty : latest entries 1 = some (integerItem 2)
  alg : latest entries 3 = some (integerItem (-7))
  crv : latest entries (-1) = some (integerItem 1)
  x : latest entries (-2) = some (.bytes x)
  y : latest entries (-3) = some (.bytes y)

theorem integerOf_iff {item : DataItem} {value : Int} (fits : Int64 value) :
    integerOf item = some value ↔ item = integerItem value := by
  constructor
  · intro said
    cases item with
    | unsigned n =>
      obtain rfl := Option.some.inj said
      simp [integerItem]
    | negative n =>
      obtain rfl := Option.some.inj said
      have negated : -1-(n.toNat : Int) = .negSucc n.toNat := by omega
      rw [negated,integerItem,UInt64.ofNat_toNat]
    | bytes | text | array | map | tag | simple => cases said
  · intro written
    rw [written,integerOf_integerItem fits]

theorem contentOf_iff {item : DataItem} : contentOf item = some content ↔ item = .bytes content := by
  cases item <;> simp [contentOf]

theorem readOf_iff {found : Found} : readOf found = ⟨some 2,some (-7),some 1,some x,some y⟩ ↔
    found 1 = some (integerItem 2) ∧ found 3 = some (integerItem (-7)) ∧ found (-1) = some (integerItem 1) ∧
      found (-2) = some (.bytes x) ∧ found (-3) = some (.bytes y) := by
  have two : Int64 2 := by decide
  have seven : Int64 (-7) := by decide
  have one : Int64 1 := by decide
  simp [readOf,Option.bind_eq_some_iff,integerOf_iff two,integerOf_iff seven,integerOf_iff one,contentOf_iff]

theorem parse_iff : parseEs256Key input = .ok key ↔
    ∃ entries x y,Spells input entries key.consumed ∧ Complete entries x y ∧ key.x = toBase64Url x ∧ key.y = toBase64Url y := by
  have size : UInt64.size = 18446744073709551616 := rfl
  have start : (⟨none,none,none,none,none⟩ : CoseParameters) = readOf fun _ => none := rfl
  unfold parseEs256Key
  rw [start]
  constructor
  · intro parsed
    split at parsed
    · cases parsed
    · rename_i map between headed
      obtain ⟨major,n,fits,rfl,consumed⟩ := head_reads headed
      by_cases refused : UInt8.ofNat major.number ≠ 5 ∨ n < 5 ∨ n > 16
      · rw [if_pos refused] at parsed
        cases parsed
      · rw [if_neg refused] at parsed
        simp only [not_or,not_lt,ne_eq,not_not] at refused
        obtain ⟨kind,counted⟩ := refused
        obtain ⟨⟨read,after⟩,looped,made⟩ := bind_ok parsed
        obtain ⟨entries,rfl,typed,continued,rfl⟩ := (all_iff _).mp looped
        have whole := consumes_append.mpr ⟨between,consumed,continued⟩
        obtain rfl : major = .map := by
          cases major <;> first | rfl | exact absurd kind (by decide)
        have found : ∃ x y,readOf (latest entries) = ⟨some 2,some (-7),some 1,some x,some y⟩ ∧
            key = ⟨toBase64Url x,toBase64Url y,after.offset⟩ := by
          simp only at made
          split at made
          · rename_i x y same
            cases made
            exact ⟨x,y,same,rfl⟩
          · cases made
        obtain ⟨x,y,same,rfl⟩ := found
        obtain ⟨kty,alg,crv,abscissa,ordinate⟩ := readOf_iff.mp same
        have ends : after = ⟨input,after.offset⟩ := by
          obtain ⟨_,_,rfl⟩ := whole
          rfl
        exact ⟨entries,x,y,⟨fits,typed,ends ▸ whole⟩,⟨counted,kty,alg,crv,abscissa,ordinate⟩,rfl,rfl⟩
  · intro spelling
    obtain ⟨entries,x,y,⟨fits,typed,whole⟩,complete,abscissa,ordinate⟩ := spelling
    obtain ⟨between,consumed,continued⟩ := consumes_append.mp whole
    obtain ⟨counted,kty,alg,crv,first,second⟩ := complete
    have read : readOf (entries.foldl learn fun _ => none) = _ := readOf_iff.mpr ⟨kty,alg,crv,first,second⟩
    have looped : CoseParameters.all entries.length (readOf fun _ => none) _ = _ := (all_iff entries.length).mpr ⟨entries,rfl,typed,continued,rfl⟩
    rw [head_encoded fits consumed]
    simp only
    rw [if_neg (by simp [MajorType.number]; omega),looped]
    simp only [bind,Except.bind,read,← abscissa,← ordinate]

section Repetitions
variable {entries : List Entry} {label : Int} {item : DataItem}

theorem latest_mem (found : latest entries label = some item) : (label,item) ∈ entries := by
  induction entries using reverseRecOn with
  | nil => cases found
  | append_singleton entries last ih =>
    rw [latest_append,learn,Function.update_apply] at found
    split_ifs at found with same
    · obtain rfl := Option.some.inj found
      simp [same]
    · exact mem_append_left _ (ih found)

theorem latest_only (once : (entries.map Prod.fst).Nodup) (found : latest entries label = some item) (other : DataItem) :
    (label,other) ∈ entries ↔ other = item := by
  constructor
  · intro listed
    have same := inj_on_of_nodup_map once listed (latest_mem found) rfl
    exact congrArg Prod.snd same
  · rintro rfl
    exact latest_mem found

end Repetitions

-- What a decoder reads, whichever of the entries under a label it takes.
structure Says (entries : List Entry) (key : ParsedCoseKey) : Prop where
  kty : ∀ item,(1,item) ∈ entries ↔ item = integerItem 2
  alg : ∀ item,(3,item) ∈ entries ↔ item = integerItem (-7)
  crv : ∀ item,(-1,item) ∈ entries ↔ item = integerItem 1
  x : ∃ x,(∀ item,(-2,item) ∈ entries ↔ item = .bytes x) ∧ key.x = toBase64Url x
  y : ∃ y,(∀ item,(-3,item) ∈ entries ↔ item = .bytes y) ∧ key.y = toBase64Url y

theorem Spells.labels {entries others : List Entry} (one : Spells input entries consumed)
    (two : Spells input others final) : entries.map Prod.fst = others.map Prod.fst := by
  obtain ⟨between,first,rest⟩ := consumes_append.mp one.begins
  obtain ⟨middle,second,remaining⟩ := consumes_append.mp two.begins
  have headed := head_encoded one.counted first
  rw [head_encoded two.counted second] at headed
  obtain ⟨count,rfl⟩ := Prod.mk.inj (Except.ok.inj headed)
  exact labels_unique (congrArg CborReader.Head.value count).symm one.typed two.typed rest remaining

def Unambiguous (input : Text) : Prop :=
  ∀ key,parseEs256Key input = .ok key →
    ∃ entries,Spells input entries key.consumed ∧ (entries.map Prod.fst).Nodup ∧ Says entries key

def Repeats (input : Text) : Prop :=
  ∃ entries consumed x y,Spells input entries consumed ∧ Complete entries x y ∧ ¬(entries.map Prod.fst).Nodup

theorem unambiguous_iff (input : Text) : Unambiguous input ↔ ¬Repeats input := by
  constructor
  · intro unambiguous repeated
    obtain ⟨entries,consumed,x,y,spells,complete,twice⟩ := repeated
    obtain ⟨others,spelling,once,_⟩ :=
      unambiguous ⟨toBase64Url x,toBase64Url y,consumed⟩ (parse_iff.mpr ⟨entries,x,y,spells,complete,rfl,rfl⟩)
    rw [← spells.labels spelling] at once
    exact twice once
  · intro single key parsed
    obtain ⟨entries,x,y,spells,complete,abscissa,ordinate⟩ := parse_iff.mp parsed
    have once : (entries.map Prod.fst).Nodup := by
      by_contra twice
      exact single ⟨entries,_,x,y,spells,complete,twice⟩
    exact ⟨entries,spells,once,latest_only once complete.kty,latest_only once complete.alg,latest_only once complete.crv,
      ⟨x,latest_only once complete.x,abscissa⟩,⟨y,latest_only once complete.y,ordinate⟩⟩

def coordinate (byte : UInt8) : Text := List.replicate 32 byte

def demoEntries : List Entry :=
  [(1,.unsigned 2),(3,.negative 6),(-1,.unsigned 1),(-2,.bytes (coordinate 1)),(-3,.bytes (coordinate 2)),(-2,.bytes (coordinate 3))]

def demoKey : Text := encodeHead .map 6 ++ demoEntries.flatMap spelled

theorem demo_spells : Spells demoKey demoEntries demoKey.length := by
  refine ⟨by decide,?_,[],by simp [demoKey,demoEntries],by simp [demoKey,demoEntries]⟩
  intro entry listed
  simp only [demoEntries,mem_cons,not_mem_nil,or_false] at listed
  rcases listed with rfl | rfl | rfl | rfl | rfl | rfl
  · exact ⟨by decide,2,by decide,rfl⟩
  · exact ⟨by decide,-7,by decide,rfl⟩
  · exact ⟨by decide,1,by decide,rfl⟩
  · exact ⟨by decide,coordinate 1,rfl,rfl⟩
  · exact ⟨by decide,coordinate 2,rfl,rfl⟩
  · exact ⟨by decide,coordinate 3,rfl,rfl⟩

theorem coordinate_read_twice : ¬∀ input,Unambiguous input := by
  intro unambiguous
  have parsed : parseEs256Key demoKey = .ok ⟨toBase64Url (coordinate 3),toBase64Url (coordinate 2),demoKey.length⟩ :=
    parse_iff.mpr ⟨demoEntries,coordinate 3,coordinate 2,demo_spells,⟨by decide,rfl,rfl,rfl,rfl,rfl⟩,rfl,rfl⟩
  obtain ⟨others,spelling,once,_⟩ := unambiguous demoKey _ parsed
  rw [← demo_spells.labels spelling] at once
  revert once
  decide

end OpenProof.CoseKeys
