import OpenProof.Http

namespace OpenProof.RedirectParameters
open Foundation Http

-- `%HH` undone, as a client undoes it in a component of a query.
def unescaped : Text → Text
  | [] => []
  | first :: rest =>
    if first != ch '%' then first :: unescaped rest
    else match rest with
      | high :: low :: rest =>
        match hexValue high,hexValue low with
        | some high,some low => (high*16+low).toUInt8 :: unescaped rest
        | _,_ => first :: unescaped (high :: low :: rest)
      | rest => first :: unescaped rest

def pairText (parameter : Text × Text) : Text :=
  percentEncode parameter.1 ++ Text.of "=" ++ percentEncode parameter.2

def sending (uri : Text) (parameters : List (Text × Text)) : Text :=
  parameters.foldl (fun location parameter => appendRedirectParameter location parameter.1 parameter.2) uri

def readPair (pair : Text) : Text × Text :=
  (unescaped (splitAt (ch '=') pair).1,unescaped ((splitAt (ch '=') pair).2.getD []))

def sentBack (uri location : Text) : List (Text × Text) :=
  ((location.drop (uri.length+1)).splitOn (ch '&')).map readPair

theorem unescaped_plain (apart : byte ≠ ch '%') (rest : Text) :
    unescaped (byte :: rest) = byte :: unescaped rest := by
  rw [unescaped.eq_def]
  simp [apart]

theorem hexValue_hexDigit : ∀ value < 16,hexValue (hexDigit value) = some value := by decide

theorem percentEncode_cons (byte : UInt8) (rest : Text) : percentEncode (byte :: rest) =
      (if unreserved byte then [byte] else [ch '%',hexDigit (byte.toNat / 16),hexDigit (byte.toNat % 16)]) ++
        percentEncode rest := rfl

theorem unescaped_percentEncode : unescaped (percentEncode text) = text := by
  induction text with
  | nil => rfl
  | cons byte rest ih =>
    rw [percentEncode_cons]
    split
    · rename_i plain
      have apart : byte ≠ ch '%' := by
        rintro rfl
        revert plain
        decide
      rw [List.singleton_append,unescaped_plain apart,ih]
    · have bound : byte.toNat < 256 := byte.toNat_lt
      have whole : byte.toNat / 16 * 16 + byte.toNat % 16 = byte.toNat := by omega
      simp [unescaped,hexValue_hexDigit (byte.toNat / 16) (by omega),
        hexValue_hexDigit (byte.toNat % 16) (by omega),whole,ih]

theorem hexDigit_plain : ∀ value < 16,hexDigit value ≠ ch '&' ∧ hexDigit value ≠ ch '=' := by decide

theorem percentEncode_plain (inside : byte ∈ percentEncode text) : byte ≠ ch '&' ∧ byte ≠ ch '=' := by
  obtain ⟨origin,-,inside⟩ := List.mem_flatMap.mp inside
  split at inside
  · rename_i plain
    obtain rfl := List.mem_singleton.mp inside
    constructor
    · rintro rfl
      revert plain
      decide
    · rintro rfl
      revert plain
      decide
  · have bound : origin.toNat < 256 := origin.toNat_lt
    rcases List.mem_cons.mp inside with rfl | inside
    · decide
    · rcases List.mem_cons.mp inside with rfl | inside
      · exact hexDigit_plain _ (by omega)
      · obtain rfl := List.mem_singleton.mp inside
        exact hexDigit_plain _ (by omega)

theorem pairText_plain (parameter : Text × Text) : ch '&' ∉ pairText parameter := by
  intro inside
  simp only [pairText,List.mem_append] at inside
  rcases inside with (key | equal) | value
  · exact (percentEncode_plain key).1 rfl
  · revert equal
    decide
  · exact (percentEncode_plain value).1 rfl

theorem splitAt_append (absent : symbol ∉ before) :
    splitAt symbol (before ++ symbol :: after) = (before,some after) := by
  induction before with
  | nil => simp [splitAt]
  | cons byte rest ih =>
    have apart : byte ≠ symbol := by
      rintro rfl
      exact absent List.mem_cons_self
    simp [splitAt,apart,ih (fun inside => absent (List.mem_cons_of_mem _ inside))]

theorem readPair_pairText : readPair (pairText parameter) = parameter := by
  have equal : pairText parameter = percentEncode parameter.1 ++ ch '=' :: percentEncode parameter.2 := by
    simp only [pairText,show Text.of "=" = [ch '='] by decide,List.append_assoc,List.singleton_append]
  rw [readPair,equal,splitAt_append fun inside => (percentEncode_plain inside).2 rfl]
  simp [unescaped_percentEncode]

theorem append_pair : appendRedirectParameter uri parameter.1 parameter.2 =
      uri ++ (if uri.contains (ch '?') then ch '&' else ch '?') :: pairText parameter := by
  simp only [appendRedirectParameter,pairText,List.append_assoc,List.singleton_append]
  rfl

theorem sending_behind (query : uri.contains (ch '?') = true) (parameters : List (Text × Text)) :
    sending uri parameters = uri ++ parameters.flatMap fun parameter => ch '&' :: pairText parameter := by
  induction parameters generalizing uri with
  | nil => simp [sending]
  | cons parameter rest ih =>
    have still : (uri ++ ch '&' :: pairText parameter).contains (ch '?') = true := by
      simp only [List.contains_eq_mem,decide_eq_true_eq] at query ⊢
      exact List.mem_append_left _ query
    have onward := ih still
    simp only [sending,List.foldl_cons,append_pair,query,if_true] at onward ⊢
    rw [onward]
    simp

theorem splitOn_plain {text : Text} (plain : ch '&' ∉ text) : text.splitOn (ch '&') = [text] := by
  apply List.splitOnP_eq_singleton
  intro byte inside
  rw [beq_eq_false_iff_ne]
  rintro rfl
  exact plain inside

theorem splitOn_pairs (plain : ch '&' ∉ first) (parameters : List (Text × Text)) :
    (first ++ parameters.flatMap fun parameter => ch '&' :: pairText parameter).splitOn (ch '&') =
      first :: parameters.map pairText := by
  induction parameters generalizing first with
  | nil => simpa using splitOn_plain plain
  | cons parameter rest ih =>
    have cut : ∀ tail : Text,(first ++ ch '&' :: tail).splitOn (ch '&') =
        first.splitOn (ch '&') ++ tail.splitOn (ch '&') :=
      fun tail => List.splitOnP_append_cons first tail (by simp)
    rw [List.flatMap_cons,List.cons_append,cut,splitOn_plain plain,ih (pairText_plain parameter)]
    rfl

theorem sending_pairs (uri : Text) (first : Text × Text) (rest : List (Text × Text)) :
    sending uri (first :: rest) = uri ++ (if uri.contains (ch '?') then ch '&' else ch '?') ::
      (pairText first ++ rest.flatMap fun parameter => ch '&' :: pairText parameter) := by
  let mark := if uri.contains (ch '?') then ch '&' else ch '?'
  have query : (uri ++ mark :: pairText first).contains (ch '?') = true := by
    dsimp only [mark]
    split <;> simp_all
  have behind := sending_behind query rest
  rw [← List.cons_append,← List.append_assoc,← behind,← append_pair]
  rfl

theorem sentBack_sending (uri : Text) (first : Text × Text) (rest : List (Text × Text)) :
    sentBack uri (sending uri (first :: rest)) = first :: rest := by
  have skipped : uri.length+1 = (uri ++ [if uri.contains (ch '?') then ch '&' else ch '?']).length := by simp
  rw [sentBack,sending_pairs,← List.singleton_append,← List.append_assoc,skipped,List.drop_left,splitOn_pairs (pairText_plain first)]
  simp [readPair_pairText,Function.comp_def]

theorem sending_extends (uri : Text) (parameters : List (Text × Text)) : uri <+: sending uri parameters := by
  induction parameters generalizing uri with
  | nil => exact List.prefix_refl uri
  | cons parameter rest ih =>
    refine List.IsPrefix.trans ?_ (ih (appendRedirectParameter uri parameter.1 parameter.2))
    rw [append_pair]
    exact List.prefix_append _ _

end OpenProof.RedirectParameters
