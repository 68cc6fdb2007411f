import Mathlib.Data.List.Basic

namespace OpenProof.LdapFilters
open List

abbrev Bytes := List UInt8

section Values

def hexDigit (symbol : UInt8) : Option Nat :=
  if 48 ≤ symbol ∧ symbol ≤ 57 then some (symbol.toNat-48)
  else if 65 ≤ symbol ∧ symbol ≤ 70 then some (symbol.toNat-55)
  else if 97 ≤ symbol ∧ symbol ≤ 102 then some (symbol.toNat-87)
  else none

def special (byte : UInt8) : Bool :=
  byte == '*'.toUInt8 || byte == '('.toUInt8 || byte == ')'.toUInt8 || byte == '\\'.toUInt8 || byte == 0

inductive Symbol where
  | plain (byte : UInt8) (normal : special byte = false)
  | escaped (high low : UInt8) (value : Nat) (upper : hexDigit high = some (value/16)) (lower : hexDigit low = some (value % 16))

def Symbol.text : Symbol → Bytes
  | .plain byte _ => [byte]
  | .escaped high low _ _ _ => ['\\'.toUInt8,high,low]

def Symbol.value : Symbol → UInt8
  | .plain byte _ => byte
  | .escaped _ _ value _ _ => value.toUInt8

inductive Pending where
  | complete
  | backslash
  | high (upper : Nat)

def unescapeFrom : Pending → Bytes → Option Bytes
  | .complete,[] => some []
  | .complete,byte :: rest =>
    if byte = '\\'.toUInt8 then unescapeFrom .backslash rest
    else if special byte then none
    else (unescapeFrom .complete rest).map (byte :: ·)
  | .backslash,high :: rest => (hexDigit high).bind fun upper => unescapeFrom (.high upper) rest
  | .high upper,low :: rest =>
    (hexDigit low).bind fun lower => (unescapeFrom .complete rest).map ((upper*16+lower).toUInt8 :: ·)
  | _,[] => none

def unescape (raw : Bytes) : Option Bytes := unescapeFrom .complete raw

theorem unescape_symbol (symbol : Symbol) (rest : Bytes) :
    unescape (symbol.text ++ rest) = (unescape rest).map (symbol.value :: ·) := by
  cases symbol with
  | plain byte normal =>
    have unlike : byte ≠ '\\'.toUInt8 := by
      intro backslash
      subst backslash
      cases normal
    simp [Symbol.text,Symbol.value,unescape,unescapeFrom,unlike,normal]
  | escaped high low value upper lower =>
    have whole : value/16*16+value % 16 = value := Nat.div_add_mod' value 16
    simp only [Symbol.text,Symbol.value,unescape,unescapeFrom,cons_append,nil_append,upper,lower,Option.bind_some,
      whole,if_true]

theorem unescape_symbols (symbols : List Symbol) : unescape (symbols.flatMap Symbol.text) = some (symbols.map Symbol.value) := by
  induction symbols with
  | nil => rfl
  | cons symbol rest ih => rw [flatMap_cons,unescape_symbol,ih,Option.map_some,map_cons]

def ends (byte : UInt8) : Bool := byte == '*'.toUInt8 || byte == '('.toUInt8 || byte == ')'.toUInt8 || byte == 0

theorem digit_inside (digit : hexDigit symbol = some value) : ends symbol = false := by
  cases ending : ends symbol with
  | false => rfl
  | true =>
    simp only [ends,Bool.or_eq_true,beq_iff_eq,or_assoc] at ending
    rcases ending with rfl | rfl | rfl | rfl
    all_goals cases digit

theorem plain_inside (normal : special byte = false) : ends byte = false := by
  simp only [special,ends,Bool.or_eq_false_iff] at normal ⊢
  exact ⟨normal.1.1,normal.2⟩

theorem spelled_from (reads : unescapeFrom pending raw = some value) : ∀ byte ∈ raw,ends byte = false := by
  induction raw generalizing pending value with
  | nil => simp
  | cons byte rest ih =>
    refine forall_mem_cons.mpr ?_
    cases pending with
    | complete =>
      rw [unescapeFrom] at reads
      by_cases backslash : byte = '\\'.toUInt8
      · rw [if_pos backslash] at reads
        subst backslash
        exact ⟨rfl,ih reads⟩
      · rw [if_neg backslash] at reads
        cases normal : special byte with
        | true => simp [normal] at reads
        | false =>
          rw [normal,if_neg Bool.false_ne_true] at reads
          obtain ⟨_,later,_⟩ := Option.map_eq_some_iff.mp reads
          exact ⟨plain_inside normal,ih later⟩
    | backslash =>
      obtain ⟨_,digit,later⟩ := Option.bind_eq_some_iff.mp reads
      exact ⟨digit_inside digit,ih later⟩
    | high upper =>
      obtain ⟨_,digit,read⟩ := Option.bind_eq_some_iff.mp reads
      obtain ⟨_,later,_⟩ := Option.map_eq_some_iff.mp read
      exact ⟨digit_inside digit,ih later⟩

theorem spelled_inside (reads : unescape raw = some value) : ∀ byte ∈ raw,ends byte = false :=
  spelled_from reads

end Values

section Syntax

def nameByte (byte : UInt8) : Bool :=
  (48 ≤ byte && byte ≤ 57) || (65 ≤ byte && byte ≤ 90) || (97 ≤ byte && byte ≤ 122) ||
    byte == '-'.toUInt8 || byte == '.'.toUInt8 || byte == ';'.toUInt8 || byte == '_'.toUInt8

structure Name where
  text : Bytes
  nonempty : text ≠ []
  spelled : text.all nameByte = true
  deriving DecidableEq

def isDn (name : Name) : Bool :=
  (name.text.map fun byte => if 65 ≤ byte && byte ≤ 90 then byte+32 else byte) == ['d'.toUInt8,'n'.toUInt8]

-- The names that may stand between the colons of an extensible match: `dn`, a matching rule, or both.
def matchedBy (described : Bool) : List Name → Bool
  | [] => described
  | [name] => described || !isDn name
  | [dn,_] => isDn dn
  | _ => false

-- What stands before the equals sign of an item that takes one value.
inductive Head where
  | approx (description : Name)
  | greater (description : Name)
  | less (description : Name)
  | extensible (description : Option Name) (names : List Name) (formed : matchedBy description.isSome names = true)
  deriving DecidableEq

def Head.text : Head → Bytes
  | .approx description => description.text ++ ['~'.toUInt8]
  | .greater description => description.text ++ ['>'.toUInt8]
  | .less description => description.text ++ ['<'.toUInt8]
  | .extensible description names _ =>
    description.elim [] Name.text ++ ':'.toUInt8 :: names.flatMap fun name => name.text ++ [':'.toUInt8]

inductive Sorted where
  | filter
  | filters

-- Filters over values of any kind; `filters` is a list of at least one.
-- A matching item has the pieces between the stars of its value: one for equality, two empty ones for presence.
inductive Node (V : Type) : Sorted → Type where
  | all (filters : Node V .filters) : Node V .filter
  | any (filters : Node V .filters) : Node V .filter
  | not (filter : Node V .filter) : Node V .filter
  | matching (description : Name) (first : V) (more : List V) : Node V .filter
  | asserting (head : Head) (value : V) : Node V .filter
  | last (filter : Node V .filter) : Node V .filters
  | next (filter : Node V .filter) (filters : Node V .filters) : Node V .filters
  deriving DecidableEq

abbrev Filter (V : Type) := Node V .filter

def Node.map (f : V → W) : Node V sort → Node W sort
  | .all filters => .all (filters.map f)
  | .any filters => .any (filters.map f)
  | .not filter => .not (filter.map f)
  | .matching description first more => .matching description (f first) (more.map f)
  | .asserting head value => .asserting head (f value)
  | .last filter => .last (filter.map f)
  | .next filter filters => .next (filter.map f) (filters.map f)

def Node.text : Node Bytes sort → Bytes
  | .all filters => '('.toUInt8 :: '&'.toUInt8 :: (filters.text ++ [')'.toUInt8])
  | .any filters => '('.toUInt8 :: '|'.toUInt8 :: (filters.text ++ [')'.toUInt8])
  | .not filter => '('.toUInt8 :: '!'.toUInt8 :: (filter.text ++ [')'.toUInt8])
  | .matching description first more =>
    '('.toUInt8 :: (description.text ++ '='.toUInt8 :: (['*'.toUInt8].intercalate (first :: more) ++ [')'.toUInt8]))
  | .asserting head value => '('.toUInt8 :: (head.text ++ '='.toUInt8 :: (value ++ [')'.toUInt8]))
  | .last filter => filter.text
  | .next filter filters => filter.text ++ filters.text

end Syntax

section Parsing

def symbol (expected : UInt8) : Bytes → Option Bytes
  | [] => none
  | byte :: rest => if byte = expected then some rest else none

def readName (bytes : Bytes) : Option (Name × Bytes) :=
  if nonempty : bytes.takeWhile nameByte ≠ [] then
    some (⟨bytes.takeWhile nameByte,nonempty,List.all_takeWhile⟩,bytes.dropWhile nameByte)
  else none

def readNames : Nat → Bytes → Option (List Name × Bytes)
  | 0,_ => none
  | count+1,bytes =>
    if bytes.head? = some '='.toUInt8 then some ([],bytes.tail)
    else (readName bytes).bind fun read => (symbol ':'.toUInt8 read.2).bind fun rest =>
      (readNames count rest).map fun later => (read.1 :: later.1,later.2)

def readExtensible (description : Option Name) (bytes : Bytes) : Option (Head × Bytes) :=
  (readNames 3 bytes).bind fun read =>
    if formed : matchedBy description.isSome read.1 = true then some (.extensible description read.1 formed,read.2) else none

def readHead (description : Option Name) (bytes : Bytes) : Option (Head × Bytes) :=
  match description,bytes with
  | some name,mark :: rest =>
    if mark = '~'.toUInt8 then (symbol '='.toUInt8 rest).map fun rest => (.approx name,rest)
    else if mark = '>'.toUInt8 then (symbol '='.toUInt8 rest).map fun rest => (.greater name,rest)
    else if mark = '<'.toUInt8 then (symbol '='.toUInt8 rest).map fun rest => (.less name,rest)
    else if mark = ':'.toUInt8 then readExtensible (some name) rest
    else none
  | none,mark :: rest => if mark = ':'.toUInt8 then readExtensible none rest else none
  | _,[] => none

def unescapeAll : List Bytes → Option (List Bytes)
  | [] => some []
  | raw :: rest => (unescape raw).bind fun value => (unescapeAll rest).map (value :: ·)

def beforeEnd (bytes : Bytes) : Bytes × Bytes :=
  (bytes.takeWhile fun byte => byte != ')'.toUInt8,bytes.dropWhile fun byte => byte != ')'.toUInt8)

def readItem (bytes : Bytes) : Option (Filter Bytes × Bytes) :=
  let described := readName bytes
  let rest := (described.map Prod.snd).getD bytes
  match described.map Prod.fst,symbol '='.toUInt8 rest with
  | some description,some rest =>
    let (raw,rest) := beforeEnd rest
    match unescapeAll (raw.splitOn '*'.toUInt8) with
    | some (first :: more) => some (.matching description first more,rest)
    | _ => none
  | description,_ => (readHead description rest).bind fun read =>
    let (raw,rest) := beforeEnd read.2
    (unescape raw).map fun value => (.asserting read.1 value,rest)

def readNode : (sort : Sorted) → Nat → Bytes → Option (Node Bytes sort × Bytes)
  | _,0,_ => none
  | .filter,fuel+1,bytes =>
    (symbol '('.toUInt8 bytes).bind fun bytes =>
      let inner : Option (Filter Bytes × Bytes) :=
        if bytes.head? = some '&'.toUInt8 then (readNode .filters fuel bytes.tail).map fun read => (.all read.1,read.2)
        else if bytes.head? = some '|'.toUInt8 then (readNode .filters fuel bytes.tail).map fun read => (.any read.1,read.2)
        else if bytes.head? = some '!'.toUInt8 then (readNode .filter fuel bytes.tail).map fun read => (.not read.1,read.2)
        else readItem bytes
      inner.bind fun read => (symbol ')'.toUInt8 read.2).map fun rest => (read.1,rest)
  | .filters,fuel+1,bytes =>
    (readNode .filter fuel bytes).bind fun first =>
      if first.2.head? = some '('.toUInt8 then
        (readNode .filters fuel first.2).map fun later => (.next first.1 later.1,later.2)
      else some (.last first.1,first.2)

def parse (bytes : Bytes) : Option (Filter Bytes) :=
  (readNode .filter (2*bytes.length+1) bytes).bind fun read => if read.2 = [] then some read.1 else none

end Parsing

section Reading

@[simp] theorem symbol_cons (expected : UInt8) (rest : Bytes) : symbol expected (expected :: rest) = some rest := by
  simp [symbol]

theorem symbol_other (other : byte ≠ expected) (rest : Bytes) : symbol expected (byte :: rest) = none :=
  if_neg other

theorem readName_text (name : Name) (stops : nameByte mark = false) (rest : Bytes) :
    readName (name.text ++ mark :: rest) = some (name,mark :: rest) := by
  have taken : (name.text ++ mark :: rest).takeWhile nameByte = name.text := by
    rw [takeWhile_append_of_pos (all_eq_true.mp name.spelled),takeWhile_cons_of_neg (by simp [stops]),
      append_nil]
  have dropped : (name.text ++ mark :: rest).dropWhile nameByte = mark :: rest := by
    rw [dropWhile_append_of_pos (all_eq_true.mp name.spelled),dropWhile_cons_of_neg (by simp [stops])]
  unfold readName
  simp only [taken,dropped,name.nonempty,ne_eq,not_false_eq_true,dite_true]

theorem readName_mark (stops : nameByte mark = false) (rest : Bytes) : readName (mark :: rest) = none := by
  simp [readName,takeWhile_cons_of_neg (show ¬nameByte mark = true by simp [stops])]

theorem name_head (name : Name) (rest : Bytes) : ∃ byte more,name.text ++ rest = byte :: more ∧ nameByte byte = true := by
  cases text : name.text with
  | nil => exact absurd text name.nonempty
  | cons byte more =>
    have spelled := name.spelled
    rw [text,all_cons,Bool.and_eq_true] at spelled
    exact ⟨byte,more ++ rest,rfl,spelled.1⟩

theorem readNames_text (names : List Name) (count : Nat) (few : names.length < count) (rest : Bytes) :
    readNames count ((names.flatMap fun name => name.text ++ [':'.toUInt8]) ++ '='.toUInt8 :: rest) = some (names,rest) := by
  induction names generalizing count with
  | nil =>
    cases count with
    | zero => simp at few
    | succ count => simp [readNames]
  | cons name names ih =>
    cases count with
    | zero => simp at few
    | succ count =>
      obtain ⟨byte,more,text,spelled⟩ := name_head name
        (':'.toUInt8 :: ((names.flatMap fun name => name.text ++ [':'.toUInt8]) ++ '='.toUInt8 :: rest))
      have unlike : byte ≠ '='.toUInt8 := by
        intro equals
        subst equals
        cases spelled
      have later := ih count (by simpa using few)
      rw [flatMap_cons,append_assoc,append_assoc,singleton_append,readNames,
        readName_text name (by decide),if_neg (by rw [text]; simpa using unlike)]
      simp only [Option.bind_some,symbol_cons,later,Option.map_some]

theorem matchedBy_few (formed : matchedBy described names = true) : names.length < 3 := by
  unfold matchedBy at formed
  split at formed
  · decide
  · simp
  · simp
  · cases formed

-- The spelling of a value with the value it spells.
structure Reading where
  raw : Bytes
  value : Bytes
  reads : unescape raw = some value

theorem Reading.inside (reading : Reading) : ∀ byte ∈ reading.raw,ends byte = false := spelled_inside reading.reads

theorem unescapeAll_readings (readings : List Reading) :
    unescapeAll (readings.map Reading.raw) = some (readings.map Reading.value) := by
  induction readings with
  | nil => rfl
  | cons reading rest ih => simp [unescapeAll,reading.reads,ih]

theorem beforeEnd_text (inside : ∀ byte ∈ raw,byte ≠ ')'.toUInt8) (rest : Bytes) :
    beforeEnd (raw ++ ')'.toUInt8 :: rest) = (raw,')'.toUInt8 :: rest) := by
  have all : ∀ byte ∈ raw,(byte != ')'.toUInt8) = true := fun byte held => bne_iff_ne.mpr (inside byte held)
  simp [beforeEnd,takeWhile_append_of_pos all,dropWhile_append_of_pos all]

theorem Reading.unended (reading : Reading) : ∀ byte ∈ reading.raw,byte ≠ ')'.toUInt8 ∧ byte ≠ '*'.toUInt8 := by
  intro byte held
  have inside := reading.inside byte held
  simp only [ends,Bool.or_eq_false_iff,beq_eq_false_iff_ne] at inside
  exact ⟨inside.1.2,inside.1.1.1⟩

theorem extensible_read (description : Option Name) (names : List Name)
    (formed : matchedBy description.isSome names = true) (rest : Bytes) :
    readExtensible description ((names.flatMap fun name => name.text ++ [':'.toUInt8]) ++ '='.toUInt8 :: rest) =
      some (.extensible description names formed,rest) := by
  simp only [readExtensible,readNames_text names 3 (matchedBy_few formed) rest,Option.bind_some,formed,dite_true]

theorem readHead_text (head : Head) (rest : Bytes) :
    ∃ (description : Option Name) (mark : UInt8) (more : Bytes),nameByte mark = false ∧ mark ≠ '='.toUInt8 ∧
      head.text ++ '='.toUInt8 :: rest = description.elim [] Name.text ++ mark :: more ∧
        readHead description (mark :: more) = some (head,rest) ∧ (description = none → mark = ':'.toUInt8) := by
  have marks : '>'.toUInt8 ≠ '~'.toUInt8 ∧ '<'.toUInt8 ≠ '~'.toUInt8 ∧ '<'.toUInt8 ≠ '>'.toUInt8 ∧ ':'.toUInt8 ≠ '~'.toUInt8 ∧
      ':'.toUInt8 ≠ '>'.toUInt8 ∧ ':'.toUInt8 ≠ '<'.toUInt8 := by decide
  cases head with
  | approx description =>
    exact ⟨some description,'~'.toUInt8,'='.toUInt8 :: rest,by decide,by decide,by simp [Head.text],by simp [readHead],by simp⟩
  | greater description =>
    exact ⟨some description,'>'.toUInt8,'='.toUInt8 :: rest,by decide,by decide,by simp [Head.text],by simp [readHead,marks],
      by simp⟩
  | less description =>
    exact ⟨some description,'<'.toUInt8,'='.toUInt8 :: rest,by decide,by decide,by simp [Head.text],by simp [readHead,marks],
      by simp⟩
  | extensible description names formed =>
    refine ⟨description,':'.toUInt8,(names.flatMap fun name => name.text ++ [':'.toUInt8]) ++ '='.toUInt8 :: rest,by decide,
      by decide,by simp [Head.text],?_,fun _ => rfl⟩
    have read := extensible_read description names formed rest
    cases description with
    | none => simpa [readHead] using read
    | some name => simpa [readHead,marks] using read

theorem readItem_asserting (head : Head) (reading : Reading) (rest : Bytes) :
    readItem (head.text ++ '='.toUInt8 :: (reading.raw ++ ')'.toUInt8 :: rest)) =
      some (.asserting head reading.value,')'.toUInt8 :: rest) := by
  obtain ⟨description,mark,more,stops,unlike,text,read,_⟩ := readHead_text head (reading.raw ++ ')'.toUInt8 :: rest)
  have ending := beforeEnd_text (fun byte held => (reading.unended byte held).1) rest
  rw [text]
  cases description with
  | none => simp [readItem,readName_mark stops,read,ending,reading.reads]
  | some name => simp [readItem,readName_text name stops,symbol_other unlike,read,ending,reading.reads]

theorem mem_pieces (inside : byte ∈ ['*'.toUInt8].intercalate pieces) :
    byte = '*'.toUInt8 ∨ ∃ piece ∈ pieces,byte ∈ piece := by
  induction pieces with
  | nil => cases inside
  | cons piece rest ih =>
    cases rest with
    | nil => exact .inr ⟨piece,mem_cons_self,by simpa using inside⟩
    | cons next rest =>
      rw [intercalate_cons_cons,append_assoc] at inside
      rcases mem_append.mp inside with front | back
      · exact .inr ⟨piece,mem_cons_self,front⟩
      · rcases mem_append.mp back with star | later
        · exact .inl (mem_singleton.mp star)
        · rcases ih later with star | found
          · exact .inl star
          · obtain ⟨other,held,inside⟩ := found
            exact .inr ⟨other,mem_cons_of_mem piece held,inside⟩

theorem readItem_matching (description : Name) (first : Reading) (more : List Reading) (rest : Bytes) :
    readItem (description.text ++ '='.toUInt8 ::
        (['*'.toUInt8].intercalate (first.raw :: more.map Reading.raw) ++ ')'.toUInt8 :: rest)) =
      some (.matching description first.value (more.map Reading.value),')'.toUInt8 :: rest) := by
  have pieces : first.raw :: more.map Reading.raw = (first :: more).map Reading.raw := rfl
  have held : ∀ piece ∈ (first :: more).map Reading.raw,∀ byte ∈ piece,byte ≠ ')'.toUInt8 ∧ byte ≠ '*'.toUInt8 := by
    intro piece inside
    obtain ⟨reading,_,rfl⟩ := mem_map.mp inside
    exact reading.unended
  have unended : ∀ byte ∈ ['*'.toUInt8].intercalate ((first :: more).map Reading.raw),byte ≠ ')'.toUInt8 := by
    intro byte inside
    rcases mem_pieces inside with rfl | found
    · decide
    · obtain ⟨piece,listed,inside⟩ := found
      exact (held piece listed byte inside).1
  have split := splitOn_intercalate '*'.toUInt8 (fun piece listed star => (held piece listed _ star).2 rfl)
    (cons_ne_nil first.raw (more.map Reading.raw))
  have values := unescapeAll_readings (first :: more)
  rw [pieces]
  simp only [readItem,readName_text description (show nameByte '='.toUInt8 = false by decide),Option.map_some,Option.getD_some,
    symbol_cons,beforeEnd_text unended rest,split,values]
  rfl

theorem text_opens (node : Node Bytes sort) : ∃ more,node.text = '('.toUInt8 :: more := by
  induction node with
  | all filters | any filters | not filter | matching description first more | asserting head value => exact ⟨_,rfl⟩
  | last filter ih => exact ih
  | next filter filters first later =>
    obtain ⟨more,text⟩ := first
    exact ⟨more ++ filters.text,by rw [Node.text,text,cons_append]⟩

theorem name_unmarked (spelled : nameByte byte = true) :
    byte ≠ '&'.toUInt8 ∧ byte ≠ '|'.toUInt8 ∧ byte ≠ '!'.toUInt8 := by
  refine ⟨?_,?_,?_⟩
  all_goals
    intro same
    subst same
    cases spelled

theorem head_unmarked (head : Head) (rest : Bytes) : ∃ byte more,head.text ++ '='.toUInt8 :: rest = byte :: more ∧
    byte ≠ '&'.toUInt8 ∧ byte ≠ '|'.toUInt8 ∧ byte ≠ '!'.toUInt8 := by
  obtain ⟨description,mark,more,_,_,text,_,colon⟩ := readHead_text head rest
  cases description with
  | none =>
    refine ⟨mark,more,text,?_⟩
    rw [colon rfl]
    decide
  | some name =>
    obtain ⟨byte,after,whole,spelled⟩ := name_head name (mark :: more)
    exact ⟨byte,after,text.trans whole,name_unmarked spelled⟩

theorem readNode_item (fuel : Nat) (starts : bytes = byte :: more)
    (unmarked : byte ≠ '&'.toUInt8 ∧ byte ≠ '|'.toUInt8 ∧ byte ≠ '!'.toUInt8)
    (read : readItem bytes = some (item,')'.toUInt8 :: rest)) :
    readNode .filter (fuel+1) ('('.toUInt8 :: bytes) = some (item,rest) := by
  subst starts
  simp only [readNode,symbol_cons,Option.bind_some,head?_cons,Option.some.injEq,unmarked,if_false,read,Option.map_some]

def slack : Sorted → Nat
  | .filter => 0
  | .filters => 1

theorem readNode_text (node : Node Reading sort) (fuel : Nat) (rest : Bytes)
    (enough : 2*(node.map Reading.raw).text.length+slack sort ≤ fuel)
    (stops : sort = .filters → rest.head? ≠ some '('.toUInt8) :
    readNode sort fuel ((node.map Reading.raw).text ++ rest) = some (node.map Reading.value,rest) := by
  induction node generalizing fuel rest with
  | all filters ih =>
    cases fuel with
    | zero => simp [Node.map,Node.text] at enough
    | succ fuel =>
      have inner := ih fuel (')'.toUInt8 :: rest) (by simp [Node.map,Node.text,slack] at enough ⊢; omega) (by simp; decide)
      simp only [Node.map,Node.text,cons_append,append_assoc,nil_append,readNode,symbol_cons,Option.bind_some,
        head?_cons,tail_cons,if_true,inner,Option.map_some]
  | any filters ih =>
    cases fuel with
    | zero => simp [Node.map,Node.text] at enough
    | succ fuel =>
      have inner := ih fuel (')'.toUInt8 :: rest) (by simp [Node.map,Node.text,slack] at enough ⊢; omega) (by simp; decide)
      have other : some '|'.toUInt8 ≠ some '&'.toUInt8 := by decide
      simp only [Node.map,Node.text,cons_append,append_assoc,nil_append,readNode,symbol_cons,Option.bind_some,
        head?_cons,tail_cons,if_true,if_neg other,inner,Option.map_some]
  | not filter ih =>
    cases fuel with
    | zero => simp [Node.map,Node.text] at enough
    | succ fuel =>
      have inner := ih fuel (')'.toUInt8 :: rest) (by simp [Node.map,Node.text,slack] at enough ⊢; omega) (by simp)
      have others : some '!'.toUInt8 ≠ some '&'.toUInt8 ∧ some '!'.toUInt8 ≠ some '|'.toUInt8 := by decide
      simp only [Node.map,Node.text,cons_append,append_assoc,nil_append,readNode,symbol_cons,Option.bind_some,
        head?_cons,tail_cons,if_true,if_neg others.1,if_neg others.2,inner,Option.map_some]
  | matching description first more =>
    cases fuel with
    | zero => simp [Node.map,Node.text] at enough
    | succ fuel =>
      obtain ⟨byte,after,starts,spelled⟩ := name_head description
        ('='.toUInt8 :: (['*'.toUInt8].intercalate (first.raw :: more.map Reading.raw) ++ ')'.toUInt8 :: rest))
      have read := readNode_item fuel starts (name_unmarked spelled) (readItem_matching description first more rest)
      simpa [Node.map,Node.text] using read
  | asserting head value =>
    cases fuel with
    | zero => simp [Node.map,Node.text] at enough
    | succ fuel =>
      obtain ⟨byte,after,starts,unmarked⟩ := head_unmarked head (value.raw ++ ')'.toUInt8 :: rest)
      have read := readNode_item fuel starts unmarked (readItem_asserting head value rest)
      simpa [Node.map,Node.text] using read
  | last filter ih =>
    cases fuel with
    | zero => simp [slack] at enough
    | succ fuel =>
      have read := ih fuel rest (by simpa [Node.map,Node.text,slack] using enough) (by simp)
      simp only [Node.map,Node.text,readNode,read,Option.bind_some,if_neg (stops rfl)]
  | next filter filters first later =>
    cases fuel with
    | zero => simp [slack] at enough
    | succ fuel =>
      obtain ⟨opened,openText⟩ := text_opens (filter.map Reading.raw)
      obtain ⟨more,text⟩ := text_opens (filters.map Reading.raw)
      have longer := congrArg List.length openText
      have readFirst := first fuel ((filters.map Reading.raw).text ++ rest)
        (by simp [Node.map,Node.text,slack] at enough longer ⊢; omega) (by simp)
      have readLater := later fuel rest (by simp [Node.map,Node.text,slack] at enough longer ⊢; omega) stops
      have opens : ((filters.map Reading.raw).text ++ rest).head? = some '('.toUInt8 := by rw [text]; rfl
      simp only [Node.map,Node.text,append_assoc,readNode,readFirst,Option.bind_some,opens,if_true,readLater,
        Option.map_some]

theorem parse_text (filter : Filter Reading) : parse (filter.map Reading.raw).text = some (filter.map Reading.value) := by
  have read := readNode_text filter (2*(filter.map Reading.raw).text.length+1) [] (by simp [slack]) (by simp)
  rw [append_nil] at read
  simp only [parse,read,Option.bind_some,if_true]

end Reading

section Templates

theorem map_map (f : V → W) (g : W → X) (node : Node V sort) : (node.map f).map g = node.map (g ∘ f) := by
  induction node with
  | all filters ih | any filters ih => simp [Node.map,ih]
  | not filter ih | last filter ih => simp [Node.map,ih]
  | matching description first more | asserting head value => simp [Node.map]
  | next filter filters first later => simp [Node.map,first,later]

-- A filter with holes in the places of values.
abbrev Template := Filter (Option Reading)

def Template.substitute (template : Template) (raw : Bytes) : Bytes := (template.map fun slot => slot.elim raw Reading.raw).text

def Template.fill (template : Template) (value : Bytes) : Filter Bytes := template.map fun slot => slot.elim value Reading.value

def structureOf (filter : Filter V) : Filter Unit := filter.map fun _ => ()

theorem substituted (template : Template) (reads : unescape raw = some value) :
    parse (template.substitute raw) = some (template.fill value) := by
  have read := parse_text (template.map fun slot => slot.getD ⟨raw,value,reads⟩)
  rw [map_map,map_map] at read
  have raws : (Reading.raw ∘ fun slot : Option Reading => slot.getD ⟨raw,value,reads⟩) = fun slot => slot.elim raw Reading.raw := by
    funext slot
    cases slot with
    | none | some => rfl
  have values : (Reading.value ∘ fun slot : Option Reading => slot.getD ⟨raw,value,reads⟩) =
      fun slot => slot.elim value Reading.value := by
    funext slot
    cases slot with
    | none | some => rfl
  rw [raws,values] at read
  exact read

theorem fill_structure (template : Template) (value : Bytes) : structureOf (template.fill value) = structureOf template :=
  map_map _ _ template

end Templates

end OpenProof.LdapFilters
