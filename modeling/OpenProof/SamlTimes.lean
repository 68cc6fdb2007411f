import OpenProof.DateTimes
import OpenProof.SenderProofs

namespace OpenProof.SamlTimes
open Foundation CivilDates
open DateTimes SenderProofs

def authenticationFailure (detail : Text) : Error :=
  .of .authenticationFailed (defaultErrorMessage .authenticationFailed) detail

def invalidTimestamp : Result α := .error (authenticationFailure "A SAML timestamp is invalid.")

-- `std::from_chars` for an `int`, over exactly the symbols at an offset.
def number (value : Text) (offset length : Nat) : Option Int :=
  (fromChars ((value.drop offset).take length)).filter fun result => -2147483648 ≤ result && result ≤ 2147483647

-- `static_cast<unsigned>`, of which `std::chrono::month` and `std::chrono::day` keep one byte.
def unsignedByte (value : Int) : Nat := (value % 4294967296).toNat % 256

def fractionLoop (milliseconds digits : Nat) : Text → Nat × Nat × Text
  | [] => (milliseconds,digits,[])
  | symbol :: rest =>
    if isDigit symbol then
      fractionLoop (if digits < 3 then milliseconds*10+(symbol.toNat-48) else milliseconds) (digits+1) rest
    else (milliseconds,digits,symbol :: rest)

def scaled (loop : Nat × Nat × Text) : Option Nat :=
  if loop.2.1 = 0 ∨ loop.2.2 ≠ [] then none
  else if loop.2.1 = 1 then some (loop.1*100)
  else if loop.2.1 = 2 then some (loop.1*10)
  else some loop.1

-- What stands between the seconds and the final `Z`.
def parseFraction (body : Text) : Option Nat :=
  if body.head? = some (ch '.') then scaled (fractionLoop 0 0 body.tail)
  else if body ≠ [] then none
  else some 0

def parseSamlTime (value : Text) : Result Instant :=
  if value.length < 20 ∨ value[4]? ≠ some (ch '-') ∨ value[7]? ≠ some (ch '-') ∨ value[10]? ≠ some (ch 'T') ∨
      value[13]? ≠ some (ch ':') ∨ value[16]? ≠ some (ch ':') ∨ value.getLast? ≠ some (ch 'Z') then invalidTimestamp
  else match number value 0 4,number value 5 2,number value 8 2,number value 11 2,number value 14 2,number value 17 2 with
  | some year,some month,some day,some hour,some minute,some second =>
    if hour > 23 ∨ minute > 59 ∨ second > 60 then invalidTimestamp
    else
      let date : Date := ⟨year,unsignedByte month,unsignedByte day⟩
      if !date.ok then invalidTimestamp
      else match parseFraction (value.drop 19).dropLast with
      | none => invalidTimestamp
      | some fraction => .ok (dayNumber date*86400000+hour*3600000+minute*60000+second*1000+fraction)
  | _,_,_,_,_,_ => invalidTimestamp

section Fields

theorem isDigit_iff : isDigit symbol = true ↔ IsDigit symbol := by
  simp only [isDigit,IsDigit,Bool.and_eq_true,decide_eq_true_eq,UInt8.le_iff_toNat_le]
  exact Iff.rfl

theorem digits_total :
    digits.foldl (fun (value : Int) digit => value*10+(digit.toNat-48 : Nat)) 0 = numberOf digits := by
  induction digits using List.reverseRecOn with
  | nil => rfl
  | append_singleton front digit ih => simp [List.foldl_append,ih]

theorem digitsValue_iff :
    digitsValue text = some value ↔ text ≠ [] ∧ (∀ symbol ∈ text,IsDigit symbol) ∧ value = numberOf text := by
  simp only [digitsValue,digits_total,ite_eq_iff,Option.some.injEq,Bool.or_eq_true,
    Bool.not_eq_true',List.isEmpty_iff,← Bool.not_eq_true,List.all_eq_true,isDigit_iff]
  constructor
  · intro read
    rcases read with ⟨_,none⟩ | ⟨refused,total⟩
    · cases none
    · exact ⟨fun empty => refused (.inl empty),not_not.mp fun strange => refused (.inr strange),total.symm⟩
  · intro read
    exact .inr ⟨fun refused => refused.elim read.1 fun strange => strange read.2.1,read.2.2.symm⟩

-- A field as `std::from_chars` takes it: a minus sign may hold the first place.
structure Field (width : Nat) where
  negative : Bool
  magnitude : Nat
  fits : magnitude < 10^(width-negative.toNat)

def Field.text (field : Field width) : Text :=
  if field.negative then ch '-' :: numeral (width-1) field.magnitude else numeral width field.magnitude

def Field.value (field : Field width) : Int := if field.negative then -field.magnitude else field.magnitude

theorem Field.text_length (field : Field width) (positive : 0 < width) : field.text.length = width := by
  unfold Field.text
  split
  · simp only [List.length_cons,numeral_length]
    omega
  · exact numeral_length _ _

theorem Field.small (field : Field width) (four : width ≤ 4) : field.magnitude < 10000 :=
  Nat.lt_of_lt_of_le field.fits (Nat.pow_le_pow_right (Nat.succ_pos 9) (Nat.le_trans (Nat.sub_le _ _) four))

theorem Field.bounded (field : Field width) (four : width ≤ 4) : -10000 < field.value ∧ field.value < 10000 := by
  have small := field.small four
  unfold Field.value
  split
  · omega
  · omega

theorem numeral_value (positive : 0 < count) (fits : value < 10^count) :
    digitsValue (numeral count value) = some (value : Int) := by
  refine digitsValue_iff.mpr ⟨?_,numeral_digits count value,by rw [numberOf_numeral fits]⟩
  intro empty
  have none := congrArg List.length empty
  rw [numeral_length,List.length_nil] at none
  omega

theorem numeral_unsigned : (numeral count value).head? ≠ some (ch '-') := by
  intro sign
  have digit := numeral_digits count value (ch '-') (List.mem_of_mem_head? sign)
  exact absurd digit.1 (by decide)

theorem fromChars_text (field : Field width) (two : 2 ≤ width) (four : width ≤ 4) :
    fromChars field.text = some field.value := by
  have bounded := field.bounded four
  have fits := field.fits
  unfold Field.value at bounded
  unfold fromChars Field.text Field.value
  cases sign : field.negative with
  | true =>
    rw [sign,Bool.toNat_true] at fits
    rw [sign,if_pos rfl] at bounded
    simp only [if_true,List.head?_cons,beq_self_eq_true,List.tail_cons,numeral_value (by omega) fits,Option.map_some]
    exact Option.filter_some_pos (by simp; omega)
  | false =>
    rw [sign,Bool.toNat_false,Nat.sub_zero] at fits
    rw [sign] at bounded
    simp only [Bool.false_eq_true,if_false,beq_iff_eq,numeral_unsigned,numeral_value (by omega) fits]
    exact Option.filter_some_pos (by simp; omega)

theorem fromChars_field (size : text.length = width) (two : 2 ≤ width) (four : width ≤ 4) :
    fromChars text = some value ↔ ∃ field : Field width,text = field.text ∧ value = field.value := by
  constructor
  · intro read
    obtain ⟨read,_⟩ := Option.filter_eq_some_iff.mp read
    by_cases sign : text.head? = some (ch '-')
    · obtain ⟨rest,rfl⟩ := List.head?_eq_some_iff.mp sign
      rw [if_pos (by simp)] at read
      obtain ⟨total,behind,rfl⟩ := Option.map_eq_some_iff.mp read
      obtain ⟨_,digits,rfl⟩ := digitsValue_iff.mp behind
      rw [List.tail_cons] at digits ⊢
      subst size
      refine ⟨⟨true,numberOf rest,numberOf_lt digits⟩,?_,rfl⟩
      have same : numeral rest.length (numberOf rest) = rest := numeral_numberOf digits
      exact (congrArg (ch '-' :: ·) same).symm
    · rw [if_neg (by simpa using sign)] at read
      obtain ⟨_,digits,rfl⟩ := digitsValue_iff.mp read
      subst size
      refine ⟨⟨false,numberOf text,numberOf_lt digits⟩,?_,rfl⟩
      rw [Field.text,if_neg Bool.false_ne_true,numeral_numberOf digits]
  · intro written
    obtain ⟨field,rfl,rfl⟩ := written
    exact fromChars_text field two four

end Fields

section Fractions

theorem fractionLoop_digits (all : ∀ symbol ∈ text,IsDigit symbol) (milliseconds digits : Nat) :
    fractionLoop milliseconds digits text =
      ((text.take (3-digits)).foldl (fun value digit => value*10+(digit.toNat-48)) milliseconds,digits+text.length,[]) := by
  induction text generalizing milliseconds digits with
  | nil => simp [fractionLoop]
  | cons symbol rest ih =>
    have digit := isDigit_iff.mpr (all symbol List.mem_cons_self)
    have later := ih fun next inside => all next (List.mem_cons_of_mem symbol inside)
    rw [fractionLoop,if_pos digit,later,List.length_cons]
    by_cases early : digits < 3
    · have step : 3-digits = 3-(digits+1)+1 := by omega
      rw [if_pos early,step,List.take_succ_cons,List.foldl_cons,Nat.add_right_comm,Nat.add_assoc digits]
    · have none : 3-digits = 0 ∧ 3-(digits+1) = 0 := by omega
      rw [if_neg early,none.1,none.2,List.take_zero,List.take_zero,Nat.add_right_comm,Nat.add_assoc digits]

theorem fractionLoop_rest (all : (fractionLoop milliseconds digits text).2.2 = []) :
    ∀ symbol ∈ text,IsDigit symbol := by
  induction text generalizing milliseconds digits with
  | nil => simp
  | cons symbol rest ih =>
    rw [fractionLoop] at all
    by_cases digit : isDigit symbol = true
    · rw [if_pos digit] at all
      exact List.forall_mem_cons.mpr ⟨isDigit_iff.mp digit,ih all⟩
    · rw [if_neg digit] at all
      cases all

theorem parseFraction_digits (some_digit : digits ≠ []) (all : ∀ symbol ∈ digits,IsDigit symbol) :
    parseFraction (ch '.' :: digits) = some (thousandths digits) := by
  have positive : digits.length ≠ 0 := fun none => some_digit (List.length_eq_zero_iff.mp none)
  simp only [parseFraction,List.head?_cons,if_true,List.tail_cons,fractionLoop_digits all,scaled,Nat.zero_add,Nat.sub_zero,
    positive,ne_eq,not_true_eq_false,or_self,if_false]
  by_cases few : digits.length ≤ 3
  · rw [List.take_of_length_le few,thousandths_short few,numberOf]
    by_cases one : digits.length = 1
    · rw [if_pos one,one]
      rfl
    · rw [if_neg one]
      by_cases two : digits.length = 2
      · rw [if_pos two,two]
        rfl
      · have three : digits.length = 3 := by omega
        rw [if_neg two,three,Nat.sub_self,Nat.pow_zero,Nat.mul_one]
  · rw [if_neg (by omega),if_neg (by omega)]
    have three : (digits.take 3).length = 3 := List.length_take_of_le (by omega)
    have behind : ∀ symbol ∈ digits.drop 3,IsDigit symbol := fun symbol inside => all symbol (List.mem_of_mem_drop inside)
    have whole := thousandths_long three behind
    rw [List.take_append_drop] at whole
    rw [whole,numberOf]

theorem parseFraction_iff : parseFraction body = some milliseconds ↔
      ∃ fraction,(∀ symbol ∈ fraction,IsDigit symbol) ∧ body = fractionText fraction ∧ milliseconds = thousandths fraction := by
  constructor
  · intro read
    by_cases point : body.head? = some (ch '.')
    · obtain ⟨digits,rfl⟩ := List.head?_eq_some_iff.mp point
      have formed : digits ≠ [] ∧ ∀ symbol ∈ digits,IsDigit symbol := by
        rw [parseFraction,if_pos point,List.tail_cons,scaled] at read
        by_cases refused : (fractionLoop 0 0 digits).2.1 = 0 ∨ (fractionLoop 0 0 digits).2.2 ≠ []
        · rw [if_pos refused] at read
          cases read
        · rw [not_or,not_not] at refused
          refine ⟨?_,fractionLoop_rest refused.2⟩
          intro empty
          exact refused.1 (by rw [empty,fractionLoop])
      rw [parseFraction_digits formed.1 formed.2] at read
      refine ⟨digits,formed.2,?_,(Option.some.inj read).symm⟩
      rw [fractionText,if_neg formed.1]
    · simp only [parseFraction,point,if_false] at read
      split at read
      · cases read
      · rename_i empty
        exact ⟨[],by simp,not_not.mp empty,(Option.some.inj read).symm⟩
  · intro written
    obtain ⟨fraction,all,rfl,rfl⟩ := written
    by_cases empty : fraction = []
    · subst empty
      rfl
    · rw [fractionText,if_neg empty]
      exact parseFraction_digits empty all

end Fractions

section Layouts

structure Layout where
  year : Text
  month : Text
  day : Text
  hour : Text
  minute : Text
  second : Text
  body : Text
  fourSymbols : year.length = 4
  twoSymbols : month.length = 2 ∧ day.length = 2 ∧ hour.length = 2 ∧ minute.length = 2 ∧ second.length = 2

def Layout.text (layout : Layout) : Text :=
  layout.year ++ ch '-' :: (layout.month ++ ch '-' :: (layout.day ++ ch 'T' :: (layout.hour ++ ch ':' :: (layout.minute ++
    ch ':' :: (layout.second ++ layout.body ++ [ch 'Z'])))))

def Layout.parse (layout : Layout) : Result Instant :=
  match fromChars layout.year,fromChars layout.month,fromChars layout.day,fromChars layout.hour,fromChars layout.minute,
      fromChars layout.second with
  | some year,some month,some day,some hour,some minute,some second =>
    if hour > 23 ∨ minute > 59 ∨ second > 60 then invalidTimestamp
    else
      let date : Date := ⟨year,unsignedByte month,unsignedByte day⟩
      if !date.ok then invalidTimestamp
      else match parseFraction layout.body with
      | none => invalidTimestamp
      | some fraction => .ok (dayNumber date*86400000+hour*3600000+minute*60000+second*1000+fraction)
  | _,_,_,_,_,_ => invalidTimestamp

theorem drop_field {value : Text} (offset count : Nat) (here : value[offset+count]? = some symbol) :
    value.drop offset = (value.drop offset).take count ++ symbol :: value.drop (offset+count+1) := by
  obtain ⟨inside,rfl⟩ := List.getElem?_eq_some_iff.mp here
  rw [← List.drop_eq_getElem_cons inside,← List.drop_drop,List.take_append_drop]

theorem laid_out {value : Text} (long : 20 ≤ value.length) (yearEnd : value[4]? = some (ch '-')) (monthEnd : value[7]? = some (ch '-'))
    (dayEnd : value[10]? = some (ch 'T')) (hourEnd : value[13]? = some (ch ':')) (minuteEnd : value[16]? = some (ch ':'))
    (utc : value.getLast? = some (ch 'Z')) : ∃ layout : Layout,value = layout.text := by
  have slice : ∀ offset count,offset+count ≤ 19 → ((value.drop offset).take count).length = count := by
    intro offset count inside
    rw [List.length_take,List.length_drop]
    omega
  have ending : (value.drop 19).dropLast ++ [ch 'Z'] = value.drop 19 := by
    have last : ch 'Z' ∈ (value.drop 19).getLast? := by
      rw [List.getLast?_drop,if_neg (by omega),utc]
      rfl
    exact List.dropLast_append_getLast? _ last
  have second : (value.drop 17).take 2 ++ value.drop 19 = value.drop 17 := by
    rw [← List.drop_drop (i := 2) (j := 17),List.take_append_drop]
  refine ⟨⟨(value.drop 0).take 4,(value.drop 5).take 2,(value.drop 8).take 2,(value.drop 11).take 2,(value.drop 14).take 2,
    (value.drop 17).take 2,(value.drop 19).dropLast,slice 0 4 (by decide),slice 5 2 (by decide),slice 8 2 (by decide),
    slice 11 2 (by decide),slice 14 2 (by decide),slice 17 2 (by decide)⟩,?_⟩
  rw [Layout.text,List.append_assoc,ending,second,← drop_field 14 2 minuteEnd,← drop_field 11 2 hourEnd,
    ← drop_field 8 2 dayEnd,← drop_field 5 2 monthEnd]
  exact drop_field 0 4 yearEnd

theorem fromChars_int (two : 2 ≤ text.length) (four : text.length ≤ 4) :
    ((fromChars text).filter fun result => -2147483648 ≤ result && result ≤ 2147483647) = fromChars text := by
  cases read : fromChars text with
  | none => rfl
  | some value =>
    obtain ⟨field,_,rfl⟩ := (fromChars_field rfl two four).mp read
    have bounded := field.bounded four
    exact Option.filter_some_pos (by simp; omega)

theorem parse_layout (layout : Layout) : parseSamlTime layout.text = layout.parse := by
  cases layout with
  | mk year month day hour minute second body fourSymbols twoSymbols =>
    obtain ⟨twoMonth,twoDay,twoHour,twoMinute,twoSecond⟩ := twoSymbols
    obtain ⟨y0,y1,y2,y3,rfl⟩ := List.length_eq_four.mp fourSymbols
    obtain ⟨m0,m1,rfl⟩ := List.length_eq_two.mp twoMonth
    obtain ⟨d0,d1,rfl⟩ := List.length_eq_two.mp twoDay
    obtain ⟨h0,h1,rfl⟩ := List.length_eq_two.mp twoHour
    obtain ⟨n0,n1,rfl⟩ := List.length_eq_two.mp twoMinute
    obtain ⟨s0,s1,rfl⟩ := List.length_eq_two.mp twoSecond
    have four := @fromChars_int [y0,y1,y2,y3] (by simp) (by simp)
    have two : ∀ one other : UInt8,_ := fun one other => @fromChars_int [one,other] (by simp) (by simp)
    have ending : (s1 :: (body ++ [ch 'Z'])).getLast? = some (ch 'Z') := List.getLast?_concat (l := s1 :: body)
    simp only [parseSamlTime,Layout.text,Layout.parse,number,List.cons_append,List.nil_append]
    simp [four,two,ending]

end Layouts

section Timestamps

-- A text the code takes, signs included: the date is real and no field is above its limit.
structure Timestamp where
  year : Field 4
  month : Nat
  day : Nat
  hour : Field 2
  minute : Field 2
  second : Field 2
  fraction : Text
  dated : Date.ok ⟨year.value,month,day⟩ = true
  timed : hour.value ≤ 23 ∧ minute.value ≤ 59 ∧ second.value ≤ 60
  digital : ∀ symbol ∈ fraction,IsDigit symbol

def Timestamp.layout (time : Timestamp) : Layout where
  year := time.year.text
  month := numeral 2 time.month
  day := numeral 2 time.day
  hour := time.hour.text
  minute := time.minute.text
  second := time.second.text
  body := fractionText time.fraction
  fourSymbols := time.year.text_length (Nat.succ_pos 3)
  twoSymbols := ⟨numeral_length 2 _,numeral_length 2 _,time.hour.text_length (Nat.succ_pos 1),
    time.minute.text_length (Nat.succ_pos 1),time.second.text_length (Nat.succ_pos 1)⟩

def Timestamp.text (time : Timestamp) : Text := time.layout.text

def Timestamp.instant (time : Timestamp) : Instant :=
  dayNumber ⟨time.year.value,time.month,time.day⟩*86400000+time.hour.value*3600000+time.minute.value*60000+
    time.second.value*1000+thousandths time.fraction

def Timestamp.Unsigned (time : Timestamp) : Prop :=
  time.year.negative = false ∧ time.hour.negative = false ∧ time.minute.negative = false ∧ time.second.negative = false

theorem ok_bounds {date : Date} (ok : date.ok = true) : 1 ≤ date.month ∧ date.month ≤ 12 ∧ 1 ≤ date.day ∧ date.day ≤ 31 := by
  simp only [Date.ok,Bool.and_eq_true,decide_eq_true_eq] at ok
  obtain ⟨⟨⟨first,last⟩,early⟩,late⟩ := ok
  have longest : CivilDates.daysInMonth date.year date.month ≤ 31 := by
    unfold CivilDates.daysInMonth
    split
    · split
      · decide
      · decide
    · split
      · decide
      · decide
  exact ⟨first,last,early,Nat.le_trans late longest⟩

theorem unsigned_field {field : Field 2} (early : 1 ≤ unsignedByte field.value) (late : unsignedByte field.value ≤ 31) :
    field.text = numeral 2 (unsignedByte field.value) := by
  have small := field.fits
  unfold Field.text
  unfold unsignedByte Field.value at *
  cases sign : field.negative with
  | true =>
    simp only [sign,if_true,Bool.toNat_true] at small early late
    omega
  | false =>
    simp only [sign,Bool.false_eq_true,if_false,Bool.toNat_false] at small ⊢
    congr 1
    omega

theorem fromChars_numeral (small : value < 100) : fromChars (numeral 2 value) = some (value : Int) :=
  fromChars_text ⟨false,value,small⟩ (Nat.le_refl 2) (by decide)

theorem unsignedByte_nat {value : Nat} (small : value < 100) : unsignedByte (value : Int) = value := by
  unfold unsignedByte
  omega

theorem parse_timestamp (time : Timestamp) : parseSamlTime time.text = .ok time.instant := by
  have bounds := ok_bounds time.dated
  have month : time.month < 100 := by
    have upper : time.month ≤ 12 := bounds.2.1
    omega
  have day : time.day < 100 := by
    have upper : time.day ≤ 31 := bounds.2.2.2
    omega
  have fraction := parseFraction_iff.mpr ⟨time.fraction,time.digital,rfl,rfl⟩
  obtain ⟨hour,minute,second⟩ := time.timed
  rw [Timestamp.text,parse_layout,Layout.parse]
  simp only [Timestamp.layout,fromChars_text _ (show 2 ≤ 4 by decide) (Nat.le_refl 4),
    fromChars_text _ (Nat.le_refl 2) (show 2 ≤ 4 by decide),fromChars_numeral month,fromChars_numeral day,
    unsignedByte_nat month,unsignedByte_nat day,time.dated,fraction]
  rw [if_neg (by omega)]
  rfl

theorem layout_read {layout : Layout} (accepted : layout.parse = .ok instant) :
    ∃ time : Timestamp,layout.text = time.text ∧ instant = time.instant := by
  unfold Layout.parse at accepted
  split at accepted
  · rename_i year month day hour minute second readYear readMonth readDay readHour readMinute readSecond
    by_cases late : hour > 23 ∨ minute > 59 ∨ second > 60
    · rw [if_pos late] at accepted
      cases accepted
    · rw [if_neg late] at accepted
      by_cases dated : Date.ok ⟨year,unsignedByte month,unsignedByte day⟩ = true
      · simp only [dated,Bool.not_true,Bool.false_eq_true,if_false] at accepted
        split at accepted
        · cases accepted
        · rename_i milliseconds read
          obtain ⟨fraction,digital,body,rfl⟩ := parseFraction_iff.mp read
          have two := layout.twoSymbols
          obtain ⟨year,yearText,rfl⟩ := (fromChars_field layout.fourSymbols (by decide) (by decide)).mp readYear
          obtain ⟨month,monthText,rfl⟩ := (fromChars_field two.1 (by decide) (by decide)).mp readMonth
          obtain ⟨day,dayText,rfl⟩ := (fromChars_field two.2.1 (by decide) (by decide)).mp readDay
          obtain ⟨hour,hourText,rfl⟩ := (fromChars_field two.2.2.1 (by decide) (by decide)).mp readHour
          obtain ⟨minute,minuteText,rfl⟩ := (fromChars_field two.2.2.2.1 (by decide) (by decide)).mp readMinute
          obtain ⟨second,secondText,rfl⟩ := (fromChars_field two.2.2.2.2 (by decide) (by decide)).mp readSecond
          have bounds := ok_bounds dated
          refine ⟨⟨year,unsignedByte month.value,unsignedByte day.value,hour,minute,second,fraction,dated,by omega,digital⟩,?_,
            (Except.ok.inj accepted).symm⟩
          rw [Timestamp.text,Layout.text,Layout.text,yearText,monthText,dayText,hourText,minuteText,secondText,body,
            unsigned_field bounds.1 (Nat.le_trans bounds.2.1 (by decide)),unsigned_field bounds.2.2.1 bounds.2.2.2]
          rfl
      · simp only [dated] at accepted
        cases accepted
  · cases accepted

theorem parse_iff {value : Text} :
    parseSamlTime value = .ok instant ↔ ∃ time : Timestamp,value = time.text ∧ instant = time.instant := by
  constructor
  · intro accepted
    by_cases refused : value.length < 20 ∨ value[4]? ≠ some (ch '-') ∨ value[7]? ≠ some (ch '-') ∨ value[10]? ≠ some (ch 'T') ∨
        value[13]? ≠ some (ch ':') ∨ value[16]? ≠ some (ch ':') ∨ value.getLast? ≠ some (ch 'Z')
    · rw [parseSamlTime,if_pos refused] at accepted
      cases accepted
    · simp only [not_or,not_not,Nat.not_lt] at refused
      obtain ⟨long,yearEnd,monthEnd,dayEnd,hourEnd,minuteEnd,utc⟩ := refused
      obtain ⟨layout,rfl⟩ := laid_out long yearEnd monthEnd dayEnd hourEnd minuteEnd utc
      rw [parse_layout] at accepted
      exact layout_read accepted
  · intro written
    obtain ⟨time,rfl,rfl⟩ := written
    exact parse_timestamp time

end Timestamps

section Signs

theorem Field.sign (field : Field width) : field.negative = true ↔ field.text.head? = some (ch '-') := by
  unfold Field.text
  cases field.negative with
  | true => simp
  | false => simp [numeral_unsigned]

theorem Layout.slices (layout : Layout) : layout.text.take 4 = layout.year ∧ (layout.text.drop 11).take 2 = layout.hour ∧
    (layout.text.drop 14).take 2 = layout.minute ∧ (layout.text.drop 17).take 2 = layout.second := by
  cases layout with
  | mk year month day hour minute second body fourSymbols twoSymbols =>
    obtain ⟨twoMonth,twoDay,twoHour,twoMinute,twoSecond⟩ := twoSymbols
    obtain ⟨y0,y1,y2,y3,rfl⟩ := List.length_eq_four.mp fourSymbols
    obtain ⟨m0,m1,rfl⟩ := List.length_eq_two.mp twoMonth
    obtain ⟨d0,d1,rfl⟩ := List.length_eq_two.mp twoDay
    obtain ⟨h0,h1,rfl⟩ := List.length_eq_two.mp twoHour
    obtain ⟨n0,n1,rfl⟩ := List.length_eq_two.mp twoMinute
    obtain ⟨s0,s1,rfl⟩ := List.length_eq_two.mp twoSecond
    exact ⟨rfl,rfl,rfl,rfl⟩

theorem unsigned_text (time : Timestamp) : time.Unsigned ↔
    (time.text.take 4).head? ≠ some (ch '-') ∧ ((time.text.drop 11).take 2).head? ≠ some (ch '-') ∧
      ((time.text.drop 14).take 2).head? ≠ some (ch '-') ∧ ((time.text.drop 17).take 2).head? ≠ some (ch '-') := by
  have slices := time.layout.slices
  rw [Timestamp.text,slices.1,slices.2.1,slices.2.2.1,slices.2.2.2]
  simp only [Timestamp.Unsigned,← Bool.not_eq_true,Field.sign,ne_eq]
  exact Iff.rfl

theorem year_small (four : 0 ≤ year ∧ year < 10000) : year.toNat < 10000 ∧ (year.toNat : Int) = year := by omega

theorem dateTime_unsigned (time : DateTime) :
    ∃ stamp : Timestamp,stamp.Unsigned ∧ time.text = stamp.text ∧ time.instant = stamp.instant := by
  have year := year_small time.fourDigits
  have dated : Date.ok ⟨time.date.year.toNat,time.date.month,time.date.day⟩ = true := by
    rw [year.2]
    exact time.dated
  obtain ⟨hour,minute,second⟩ := time.timed
  have hourFits : time.hour < 100 := by omega
  have minuteFits : time.minute < 100 := by omega
  have secondFits : time.second < 100 := by omega
  refine ⟨⟨⟨false,time.date.year.toNat,year.1⟩,time.date.month,time.date.day,⟨false,time.hour,hourFits⟩,⟨false,time.minute,minuteFits⟩,
    ⟨false,time.second,secondFits⟩,time.fraction,dated,⟨Int.ofNat_le.mpr hour,Int.ofNat_le.mpr minute,Int.ofNat_le.mpr second⟩,
    time.digital⟩,⟨rfl,rfl,rfl,rfl⟩,?_,?_⟩
  · simp [DateTime.text,Timestamp.text,Timestamp.layout,Layout.text,Field.text]
  · simp [DateTime.instant,Timestamp.instant,Field.value,year.2]

theorem unsigned_dateTime {stamp : Timestamp} (unsigned : stamp.Unsigned) :
    ∃ time : DateTime,stamp.text = time.text ∧ stamp.instant = time.instant := by
  obtain ⟨year,hour,minute,second⟩ := unsigned
  have timed := stamp.timed
  have dated := stamp.dated
  have small := stamp.year.small (Nat.le_refl 4)
  unfold Field.value at timed dated
  simp only [year,hour,minute,second,Bool.false_eq_true,if_false] at timed dated
  refine ⟨⟨⟨stamp.year.magnitude,stamp.month,stamp.day⟩,stamp.hour.magnitude,stamp.minute.magnitude,stamp.second.magnitude,
    stamp.fraction,dated,⟨Int.natCast_nonneg _,Int.ofNat_lt.mpr small⟩,by omega,stamp.digital⟩,?_,?_⟩
  · simp [DateTime.text,Timestamp.text,Timestamp.layout,Layout.text,Field.text,year,hour,minute,second]
  · simp [DateTime.instant,Timestamp.instant,Field.value,year,hour,minute,second]

def SignedForm (value : Text) : Prop := ∃ stamp : Timestamp,¬stamp.Unsigned ∧ value = stamp.text

theorem signed_taken (signed : SignedForm value) :
    ¬∀ instant,parseSamlTime value = .ok instant ↔ ∃ time : DateTime,value = time.text ∧ instant = time.instant := by
  intro agrees
  obtain ⟨stamp,signed,rfl⟩ := signed
  obtain ⟨time,same,_⟩ := (agrees stamp.instant).mp (parse_timestamp stamp)
  obtain ⟨plain,unsigned,text,_⟩ := dateTime_unsigned time
  rw [unsigned_text,same,text,← unsigned_text] at signed
  exact signed unsigned

theorem saml_time_exact (value : Text) :
    (∀ instant,parseSamlTime value = .ok instant ↔ ∃ time : DateTime,value = time.text ∧ instant = time.instant) ↔
      ¬SignedForm value := by
  constructor
  · intro agrees signed
    exact signed_taken signed agrees
  · intro unsigned instant
    rw [parse_iff]
    constructor
    · intro read
      obtain ⟨stamp,rfl,rfl⟩ := read
      exact unsigned_dateTime (not_not.mp fun signed => unsigned ⟨stamp,signed,rfl⟩)
    · intro form
      obtain ⟨time,rfl,rfl⟩ := form
      obtain ⟨stamp,_,text,instant⟩ := dateTime_unsigned time
      exact ⟨stamp,text,instant⟩

-- Hour -1 of the first of January is taken as the last hour of December.
theorem minus_hour_taken : parseSamlTime "2024-01-01T-1:00:00Z" = .ok 1704063600000 ∧
    ¬∀ instant,parseSamlTime "2024-01-01T-1:00:00Z" = .ok instant ↔
      ∃ time : DateTime,Text.of "2024-01-01T-1:00:00Z" = time.text ∧ instant = time.instant := by
  let stamp : Timestamp := ⟨⟨false,2024,by decide⟩,1,1,⟨true,1,by decide⟩,⟨false,0,by decide⟩,⟨false,0,by decide⟩,[],
    by decide,by decide,by simp⟩
  have written : Text.of "2024-01-01T-1:00:00Z" = stamp.text := by decide
  refine ⟨?_,signed_taken ⟨stamp,by simp [stamp,Timestamp.Unsigned],written⟩⟩
  rw [written,parse_timestamp]
  decide

end Signs

end OpenProof.SamlTimes
