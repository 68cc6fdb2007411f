import OpenProof.LdapFilters
import OpenProof.Web3Texts

namespace OpenProof.LdapLogins
open Foundation LdapFilters Web3Texts

def safeAttribute (value : Text) : Bool :=
  if value.isEmpty || value.length > 128 then false
  else value.all fun symbol => isAlnum symbol || symbol == ch '-' || symbol == ch '_' || symbol == ch '.'

def escaped (byte : UInt8) : Bool :=
  byte == ch '*' || byte == ch '(' || byte == ch ')' || byte == ch '\\' || byte == 0 || byte < 0x20 || byte == 0x7F

def hexSymbols : Text := "0123456789abcdef"

def escapeLdapFilter (value : Text) : Text :=
  value.flatMap fun byte =>
    if !escaped byte then [byte]
    else [ch '\\',hexSymbols.getD ((byte >>> 4) &&& 0x0F).toNat 0,hexSymbols.getD (byte &&& 0x0F).toNat 0]

def loginFilter (usernameAttribute username : Text) : Text :=
  Text.of "(" ++ usernameAttribute ++ Text.of "=" ++ escapeLdapFilter username ++ Text.of ")"

section Spelling

theorem hex_digit (small : value < 16) : hexDigit (hexSymbols.getD value 0) = some value := by
  rcases value with _ | _ | _ | _ | _ | _ | _ | _ | _ | _ | _ | _ | _ | _ | _ | _ | value
  all_goals first | decide | omega

theorem halves (byte : UInt8) : ((byte >>> 4) &&& 0x0F).toNat = byte.toNat/16 ∧ (byte &&& 0x0F).toNat = byte.toNat % 16 := by
  have mask : (0x0F : UInt8).toNat = 2^4-1 := rfl
  have shift : (byte >>> 4).toNat = byte.toNat/16 := by
    rw [UInt8.toNat_shiftRight,Nat.shiftRight_eq_div_pow]
    rfl
  have small := byte.toNat_lt
  refine ⟨?_,?_⟩
  · rw [UInt8.toNat_and,shift,mask,Nat.and_two_pow_sub_one_eq_mod]
    omega
  · rw [UInt8.toNat_and,mask,Nat.and_two_pow_sub_one_eq_mod]

theorem special_escaped (plain : escaped byte = false) : special byte = false := by
  simp only [escaped,special,Bool.or_eq_false_iff] at plain ⊢
  exact plain.1.1

theorem byte_symbol (byte : UInt8) : ∃ symbol : Symbol,symbol.value = byte ∧ (if !escaped byte then [byte]
      else [ch '\\',hexSymbols.getD ((byte >>> 4) &&& 0x0F).toNat 0,hexSymbols.getD (byte &&& 0x0F).toNat 0]) = symbol.text := by
  have small := byte.toNat_lt
  cases escape : escaped byte with
  | false => exact ⟨.plain byte (special_escaped escape),rfl,rfl⟩
  | true =>
    rw [(halves byte).1,(halves byte).2]
    exact ⟨.escaped _ _ byte.toNat (hex_digit (by omega)) (hex_digit (by omega)),by simp [Symbol.value],rfl⟩

theorem escape_symbols (value : Text) :
    ∃ symbols : List Symbol,escapeLdapFilter value = symbols.flatMap Symbol.text ∧ symbols.map Symbol.value = value := by
  induction value with
  | nil => exact ⟨[],rfl,rfl⟩
  | cons byte rest ih =>
    obtain ⟨symbol,worth,text⟩ := byte_symbol byte
    obtain ⟨symbols,spelled,values⟩ := ih
    refine ⟨symbol :: symbols,?_,by rw [List.map_cons,worth,values]⟩
    rw [List.flatMap_cons,← spelled,← text]
    rfl

theorem unescape_escape (value : Text) : unescape (escapeLdapFilter value) = some value := by
  obtain ⟨symbols,spelled,values⟩ := escape_symbols value
  rw [spelled,unescape_symbols,values]

end Spelling

section Filters

theorem escaped_exact (value : Text) : unescape (escapeLdapFilter value) = some value ∧
      (∃ symbols : List Symbol,escapeLdapFilter value = symbols.flatMap Symbol.text) ∧
      ∀ template : Template,parse (template.substitute (escapeLdapFilter value)) = some (template.fill value) ∧
        structureOf (template.fill value) = structureOf template := by
  obtain ⟨symbols,spelled,_⟩ := escape_symbols value
  refine ⟨unescape_escape value,⟨symbols,spelled⟩,?_⟩
  intro template
  exact ⟨substituted template (unescape_escape value),fill_structure template value⟩

theorem safe_name (safe : (isAlnum byte || byte == ch '-' || byte == ch '_' || byte == ch '.') = true) :
    nameByte byte = true := by
  simp only [isAlnum,Bool.or_eq_true] at safe
  simp only [nameByte,Bool.or_eq_true]
  rcases safe with ((((digit | upper) | lower) | dash) | low) | point
  · exact .inl (.inl (.inl (.inl (.inl (.inl digit)))))
  · exact .inl (.inl (.inl (.inl (.inl (.inr upper)))))
  · exact .inl (.inl (.inl (.inl (.inr lower))))
  · exact .inl (.inl (.inl (.inr dash)))
  · exact .inr low
  · exact .inl (.inl (.inr point))

theorem login_filter_read (safe : safeAttribute usernameAttribute = true) :
    ∃ description : Name,description.text = usernameAttribute ∧
      ∀ username,parse (loginFilter usernameAttribute username) = some (.matching description username []) := by
  unfold safeAttribute at safe
  split at safe
  · cases safe
  · rename_i sized
    simp only [Bool.or_eq_true,not_or,List.isEmpty_iff] at sized
    have spelled : usernameAttribute.all nameByte = true := by
      rw [List.all_eq_true] at safe ⊢
      exact fun byte inside => safe_name (safe byte inside)
    refine ⟨⟨usernameAttribute,sized.1,spelled⟩,rfl,?_⟩
    intro username
    have read := substituted (.matching ⟨usernameAttribute,sized.1,spelled⟩ none []) (unescape_escape username)
    have text : loginFilter usernameAttribute username =
        Template.substitute (.matching ⟨usernameAttribute,sized.1,spelled⟩ none []) (escapeLdapFilter username) := by
      have equals : Text.of "=" = [ch '='] := by decide
      have opened : Text.of "(" = [ch '('] := by decide
      have closed : Text.of ")" = [ch ')'] := by decide
      simp [loginFilter,Template.substitute,Node.map,Node.text,equals,opened,closed]
    rw [text,read]
    rfl

end Filters

end OpenProof.LdapLogins
