import OpenProof.CivilDates
import OpenProof.RedirectParameters
import OpenProof.UnsignedNumerals

namespace OpenProof.SiweMessages
open Foundation CivilDates GatewayWorld HandoffTexts Http IdentityProfiles RedirectParameters SenderProofs List
open UnsignedNumerals
open Web3Texts

-- `{:0width}` of `std::format`: the zeros stand behind the sign.
def padded (width : Nat) (value : Int) : Text :=
  let sign := if value < 0 then [ch '-'] else []
  let digits := decimal value.natAbs
  sign ++ List.replicate (width - sign.length - digits.length) (ch '0') ++ digits

def toIso8601 (instant : Instant) : Text :=
  let date := ofDayNumber (instant / 86400000)
  let timeOfDay := instant % 86400000
  padded 4 date.year ++ Text.of "-" ++ padded 2 date.month ++ Text.of "-" ++ padded 2 date.day ++ Text.of "T" ++
    padded 2 (timeOfDay / 3600000) ++ Text.of ":" ++ padded 2 (timeOfDay / 60000 % 60) ++ Text.of ":" ++
    padded 2 (timeOfDay / 1000 % 60) ++ Text.of "." ++ padded 3 (timeOfDay % 1000) ++ Text.of "Z"

def kWalletStatement : Text := "Sign in to OpenProof with your Ethereum account."

structure WalletProviderConfig where
  domain : Text
  uri : Text
  rpcEndpoints : Map Nat Text
  derivationKey : Text
  challengeLifetime : Duration
  boundDomain : validDomain domain = true
  boundUri : (parseHttpsUrl uri).toOption.isSome = true
  keyed : 32 ≤ derivationKey.length
  lasting : 30000 ≤ challengeLifetime ∧ challengeLifetime ≤ 900000

def WalletProviderConfig.create (domain uri : Text) (rpcEndpoints : Map Nat Text) (derivationKey : Text)
    (challengeLifetime : Duration) : Result WalletProviderConfig :=
  if valid : validDomain domain = true ∧ (parseHttpsUrl uri).toOption.isSome = true ∧ 32 ≤ derivationKey.length ∧
      30000 ≤ challengeLifetime ∧ challengeLifetime ≤ 900000 then
    if rpcEndpoints.toList.any fun endpoint => endpoint.1 == 0 || (parseHttpsUrl endpoint.2).toOption.isNone then
      fail .invalidArgument "An Ethereum smart-wallet RPC mapping is invalid."
    else .ok ⟨domain,uri,rpcEndpoints,derivationKey,challengeLifetime,valid.1,valid.2.1,valid.2.2.1,valid.2.2.2⟩
  else fail .invalidArgument "The Ethereum wallet provider configuration is invalid."

abbrev uint64Limit : Nat := 18446744073709551616

def parseDecimal (text : Text) (maximum : Nat) : Result Nat :=
  if text.isEmpty || text.length > 20 then .error (.plain .invalidArgument)
  else match fromCharsUnsigned uint64Limit text with
    | none => .error (.plain .invalidArgument)
    | some value => if value > maximum then .error (.plain .invalidArgument) else .ok value

def field (text : Text) : Option (Text × Text) :=
  match splitAt (ch '_') text with
  | (_,none) => none
  | (first,some rest) => some (first,rest)

def withoutPrefix (start text : Text) : Option Text := if start.isPrefixOf text then some (text.drop start.length) else none

def challengeTimestamp (challenge challengePrefix : Text) : Result Instant :=
  match withoutPrefix challengePrefix challenge with
  | none => .error (authenticationFailure "The Web3 challenge identifier is invalid.")
  | some value => match field value with
    | none => .error (authenticationFailure "The Web3 challenge identifier is invalid.")
    | some (timestamp,_) => match (fromChars timestamp).filter fun milliseconds => 0 ≤ milliseconds with
      | none => .error (authenticationFailure "The Web3 challenge timestamp is invalid.")
      | some milliseconds => .ok milliseconds

def walletChallengeChainId (challenge : Text) : Result Nat :=
  match withoutPrefix "siwe_" challenge with
  | none => .error (authenticationFailure "The SIWE challenge identifier is invalid.")
  | some value => match (field value).bind fun parts => field parts.2 with
    | none => .error (authenticationFailure "The SIWE challenge identifier is invalid.")
    | some (chainText,_) => match (fromCharsUnsigned uint64Limit chainText).filter fun chainId => chainId ≠ 0 with
      | none => .error (authenticationFailure "The SIWE challenge chain id is invalid.")
      | some chainId => .ok chainId

section Hashing
variable (hmacSha256 : (key message : Text) → Result Sha256Digest)

def challengeNonce (key challenge : Text) : Result Text :=
  (hmacSha256 key (Text.of "openproof/siwe/nonce/v1:" ++ challenge)).map fun digest => encodeHex ((digestBytes digest).take 16) false

end Hashing

def makeWalletChallengeId (random : Result Text) (now : Instant) (chainId : Nat) : Result Text :=
  random.map fun random => Text.of "siwe_" ++ decimal now ++ Text.of "_" ++ decimal chainId ++ Text.of "_" ++ random

def siweLines (domain address statement uri chainId nonce : Text) (issuedAt expiresAt : Instant) : List Text :=
  [domain ++ Text.of " wants you to sign in with your Ethereum account:",address,[],statement,[],Text.of "URI: " ++ uri,
    "Version: 1",Text.of "Chain ID: " ++ chainId,Text.of "Nonce: " ++ nonce,Text.of "Issued At: " ++ toIso8601 issuedAt,
    Text.of "Expiration Time: " ++ toIso8601 expiresAt]

def buildSiweMessage (domain address statement uri : Text) (chainId : Nat) (nonce : Text) (issuedAt expiresAt : Instant) : Text :=
  domain ++ Text.of " wants you to sign in with your Ethereum account:\n" ++ address ++ Text.of "\n\n" ++ statement ++
    Text.of "\n\nURI: " ++ uri ++ Text.of "\nVersion: 1\nChain ID: " ++ decimal chainId ++ Text.of "\nNonce: " ++ nonce ++
    Text.of "\nIssued At: " ++ toIso8601 issuedAt ++ Text.of "\nExpiration Time: " ++ toIso8601 expiresAt

structure ParsedSiwe where
  address : Text
  chainId : Nat

structure WalletChallenge where
  id : Text
  expiresAt : Instant
  message : Text
  address : Text
  chainId : Text

section Provider
variable (hmacSha256 : (key message : Text) → Result Sha256Digest)

def validateSiweMessage (message challenge challengePrefix domain uri statement derivationKey : Text) (lifetime : Duration)
    (now : Instant) : Result ParsedSiwe :=
  if message.isEmpty || message.length > 8192 || message.contains (ch '\r') then
    .error (authenticationFailure "The SIWE message encoding is invalid.")
  else match message.splitOn (ch '\n') with
  | [line0,line1,line2,line3,line4,line5,line6,line7,line8,line9,line10] =>
    if line0 ≠ domain ++ Text.of " wants you to sign in with your Ethereum account:" ∨ line2 ≠ [] ∨ line3 ≠ statement ∨ line4 ≠ [] ∨
        line5 ≠ Text.of "URI: " ++ uri ∨ line6 ≠ Text.of "Version: 1" then
      .error (authenticationFailure "The SIWE message is not bound to this relying party.")
    else match withoutPrefix "Chain ID: " line7 with
    | none => .error (authenticationFailure "The SIWE message is not bound to this relying party.")
    | some chainText => match (fromCharsUnsigned uint64Limit chainText).filter fun chainId => chainId ≠ 0 with
      | none => .error (authenticationFailure "The SIWE chain id is invalid.")
      | some chainId =>
        if (walletChallengeChainId challenge).toOption ≠ some chainId then
          .error (authenticationFailure "The SIWE chain id is not bound to this challenge.")
        else match normalizeAddress line1 with
        | none => .error (authenticationFailure "The SIWE address is invalid.")
        | some address => do
          let nonce ← challengeNonce hmacSha256 derivationKey challenge
          let issuedAt ← challengeTimestamp challenge challengePrefix
          if line8 ≠ Text.of "Nonce: " ++ nonce ∨ line9 ≠ Text.of "Issued At: " ++ toIso8601 issuedAt ∨
              line10 ≠ Text.of "Expiration Time: " ++ toIso8601 (issuedAt + lifetime) then
            .error (authenticationFailure "The SIWE challenge binding is invalid.")
          else if now ≥ issuedAt + lifetime then .error (authenticationFailure "The SIWE time window is expired.")
          else .ok ⟨address,chainId⟩
  | _ => .error (authenticationFailure "The SIWE message is not bound to this relying party.")

def beginAuthentication (config : WalletProviderConfig) (provider : Text) (addressValue chainValue : Option Text)
    (random : Result Text) (now : Instant) : Result WalletChallenge :=
  if provider ≠ Text.of "ethereum-wallet" then .error (.plain .invalidArgument) else
  let invalid : Error := .because .invalidArgument "Wallet authentication requires a valid Ethereum address and chain id."
  match addressValue.bind normalizeAddress,chainValue with
  | some address,some chainValue =>
    match (parseDecimal chainValue (uint64Limit-1)).toOption.filter fun chainId => chainId ≠ 0 with
    | none => .error invalid
    | some chainId => do
      let challengeId ← makeWalletChallengeId random now chainId
      let nonce ← challengeNonce hmacSha256 config.derivationKey challengeId
      .ok ⟨challengeId,now + config.challengeLifetime,
        buildSiweMessage config.domain address kWalletStatement config.uri chainId nonce now (now + config.challengeLifetime),
        address,decimal chainId⟩
  | _,_ => .error invalid

end Provider

section Validation
variable {hmacSha256 : (key message : Text) → Result Sha256Digest}
  {message challenge challengePrefix domain uri statement derivationKey : Text} {lifetime : Duration} {now : Instant} {parsed : ParsedSiwe}

-- What the validator finds in a message that it accepts.
structure Bound (hmacSha256 : (key message : Text) → Result Sha256Digest)
    (message challenge challengePrefix domain uri statement derivationKey : Text) (lifetime : Duration) (now : Instant)
    (parsed : ParsedSiwe) (address chainText nonce : Text) (issuedAt : Instant) : Prop where
  encoded : message ≠ [] ∧ message.length ≤ 8192 ∧ ch '\r' ∉ message
  lines : message.splitOn (ch '\n') = siweLines domain address statement uri chainText nonce issuedAt (issuedAt + lifetime)
  chain : fromCharsUnsigned uint64Limit chainText = some parsed.chainId ∧ parsed.chainId ≠ 0
  challenged : walletChallengeChainId challenge = .ok parsed.chainId
  normal : normalizeAddress address = some parsed.address
  derived : challengeNonce hmacSha256 derivationKey challenge = .ok nonce
  issued : challengeTimestamp challenge challengePrefix = .ok issuedAt
  within : now < issuedAt + lifetime

theorem withoutPrefix_iff : withoutPrefix start text = some rest ↔ text = start ++ rest := by
  unfold withoutPrefix
  split
  · rename_i begins
    obtain ⟨tail,rfl⟩ := isPrefixOf_iff_prefix.mp begins
    simp
  · rename_i apart
    constructor
    · intro found
      cases found
    · rintro rfl
      simp at apart

theorem toOption_ok {α : Type} {result : Result α} {a : α} : result.toOption = some a ↔ result = .ok a := by
  cases result <;> simp [Except.toOption]

theorem validate_bound
    (accepted : validateSiweMessage hmacSha256 message challenge challengePrefix domain uri statement derivationKey lifetime now = .ok parsed) :
    ∃ address chainText nonce issuedAt,
      Bound hmacSha256 message challenge challengePrefix domain uri statement derivationKey lifetime now parsed address chainText nonce issuedAt := by
  unfold validateSiweMessage at accepted
  split at accepted
  · cases accepted
  · rename_i encoded
    split at accepted
    · rename_i line0 line1 line2 line3 line4 line5 line6 line7 line8 line9 line10 split
      by_cases foreign : line0 ≠ domain ++ Text.of " wants you to sign in with your Ethereum account:" ∨ line2 ≠ [] ∨ line3 ≠ statement ∨
          line4 ≠ [] ∨ line5 ≠ Text.of "URI: " ++ uri ∨ line6 ≠ Text.of "Version: 1"
      · rw [if_pos foreign] at accepted
        cases accepted
      · rw [if_neg foreign] at accepted
        split at accepted
        · cases accepted
        · rename_i chainText labelled
          split at accepted
          · cases accepted
          · rename_i chainId counted
            split at accepted
            · cases accepted
            · rename_i challenged
              split at accepted
              · cases accepted
              · rename_i address normal
                obtain ⟨nonce,derived,accepted⟩ := bind_ok accepted
                obtain ⟨issuedAt,issued,accepted⟩ := bind_ok accepted
                split at accepted
                · cases accepted
                · rename_i fresh
                  split at accepted
                  · cases accepted
                  · rename_i before
                    cases accepted
                    simp only [not_or,not_not] at foreign fresh challenged
                    obtain ⟨rfl,rfl,rfl,rfl,rfl,rfl⟩ := foreign
                    obtain ⟨rfl,rfl,rfl⟩ := fresh
                    obtain ⟨chain,positive⟩ := Option.filter_eq_some_iff.mp counted
                    obtain rfl := withoutPrefix_iff.mp labelled
                    refine ⟨line1,chainText,nonce,issuedAt,?_,split,⟨chain,by simpa using positive⟩,toOption_ok.mp challenged,normal,
                      derived,issued,Int.not_le.mp before⟩
                    simpa [List.isEmpty_iff,not_or,and_assoc] using encoded
    · cases accepted

theorem bound_validates {address chainText nonce : Text} {issuedAt : Instant}
    (bound : Bound hmacSha256 message challenge challengePrefix domain uri statement derivationKey lifetime now parsed address chainText nonce issuedAt) :
    validateSiweMessage hmacSha256 message challenge challengePrefix domain uri statement derivationKey lifetime now = .ok parsed := by
  obtain ⟨encoded,lines,chain,challenged,normal,derived,issued,before⟩ := bound
  have whole : (message.isEmpty || message.length > 8192 || message.contains (ch '\r')) = false := by
    simpa [List.isEmpty_iff,and_assoc] using encoded
  have counted : (fromCharsUnsigned uint64Limit chainText).filter (fun chainId => chainId ≠ 0) = some parsed.chainId :=
    Option.filter_eq_some_iff.mpr ⟨chain.1,by simpa using chain.2⟩
  have labelled : withoutPrefix "Chain ID: " (Text.of "Chain ID: " ++ chainText) = some chainText := withoutPrefix_iff.mpr rfl
  have fresh : ¬now ≥ issuedAt + lifetime := Int.not_le.mpr before
  unfold validateSiweMessage
  rw [whole,if_neg Bool.false_ne_true,lines]
  simp only [siweLines,ne_eq,not_true,or_self,if_false,labelled,counted,toOption_ok.mpr challenged,normal,derived,issued,bind,
    Except.bind,if_neg fresh]

end Validation

section Texts

def Printable (text : Text) : Prop := ∀ byte ∈ text,isControl byte = false

@[simp] theorem printable_append : Printable (text ++ more) ↔ Printable text ∧ Printable more :=
  forall_mem_append

theorem Printable.oneLine {text : Text} (printable : Printable text) : ch '\n' ∉ text ∧ ch '\r' ∉ text := by
  constructor
  · intro inside
    exact absurd (printable _ inside) (by decide)
  · intro inside
    exact absurd (printable _ inside) (by decide)

theorem printable_of (checked : text.any isControl = false) : Printable text := by
  intro byte inside
  simpa using any_eq_false.mp checked byte inside

theorem between_printable (low : 48 ≤ byte.toNat) (high : byte.toNat < 127) : isControl byte = false := by
  have above : ¬byte < 0x20 := by
    rw [UInt8.lt_iff_toNat_lt]
    simp only [UInt8.reduceToNat]
    omega
  have apart : byte ≠ 0x7F := by
    rintro rfl
    revert high
    decide
  simp [isControl,above,apart]

theorem decimal_printable (value : Nat) : Printable (decimal value) := by
  intro byte inside
  rw [decimal_nat] at inside
  have digit := all_eq_true.mp (digits_read value).2.1 byte inside
  simp only [isDigit,Bool.and_eq_true,decide_eq_true_eq,UInt8.le_iff_toNat_le] at digit
  have zero : (ch '0').toNat = 48 := rfl
  have nine : (ch '9').toNat = 57 := rfl
  exact between_printable (by omega) (by omega)

theorem padded_printable : Printable (padded width value) := by
  simp only [padded,printable_append]
  refine ⟨⟨?_,?_⟩,decimal_printable _⟩
  · apply printable_of
    split <;> decide
  · intro byte inside
    rw [eq_of_mem_replicate inside]
    decide

def marks : List Text := ["-","T",":",".","Z"]

def labels : List Text :=
  [" wants you to sign in with your Ethereum account:","URI: ","Version: 1","Chain ID: ","Nonce: ","Issued At: ","Expiration Time: ",
    kWalletStatement]

theorem fixed_texts : (marks.all (fun text => !text.any isControl && text.length == 1) &&
    labels.all (fun text => !text.any isControl && text.length ≤ 50) &&
    (List.range 16).all (fun n => !isControl (hexAlphabet.getD n 0)) &&
    (List.range 256).all (fun n => !isHex n.toUInt8 || (isHex (if isUpper n.toUInt8 then n.toUInt8+32 else n.toUInt8) &&
      !isUpper (if isUpper n.toUInt8 then n.toUInt8+32 else n.toUInt8) &&
        !isControl (if isUpper n.toUInt8 then n.toUInt8+32 else n.toUInt8)))) = true := by decide +kernel

theorem mark_plain (mark : text ∈ marks) : Printable text ∧ text.length = 1 := by
  have all := fixed_texts
  simp only [Bool.and_eq_true] at all
  have here := all_eq_true.mp all.1.1.1 text mark
  simp only [Bool.and_eq_true,Bool.not_eq_eq_eq_not,Bool.not_true,beq_iff_eq] at here
  exact ⟨printable_of here.1,here.2⟩

theorem label_plain {text : Text} (label : text ∈ labels) : Printable text ∧ text.length ≤ 50 := by
  have all := fixed_texts
  simp only [Bool.and_eq_true] at all
  have here := all_eq_true.mp all.1.1.2 text label
  simp only [Bool.and_eq_true,Bool.not_eq_eq_eq_not,Bool.not_true,decide_eq_true_eq] at here
  exact ⟨printable_of here.1,here.2⟩

theorem iso_printable : Printable (toIso8601 instant) := by
  have plain : ∀ text ∈ marks,Printable text := fun text mark => (mark_plain mark).1
  simp only [marks,mem_cons,not_mem_nil,or_false,forall_eq_or_imp,forall_eq] at plain
  simp only [toIso8601,printable_append,padded_printable,plain,and_self]

theorem hexAlphabet_printable (small : n < 16) : isControl (hexAlphabet.getD n 0) = false := by
  have all := fixed_texts
  simp only [Bool.and_eq_true] at all
  simpa using all_eq_true.mp all.1.2 n (mem_range.mpr small)

theorem encodeHex_printable : Printable (encodeHex bytes false) := by
  intro byte inside
  obtain ⟨origin,_,nibble⟩ := mem_flatMap.mp inside
  have low : ∀ byte : UInt8,(byte &&& 0x0F).toNat < 16 := by
    intro byte
    rw [UInt8.toNat_and]
    exact Nat.lt_of_le_of_lt Nat.and_le_right (by decide)
  simp only [mem_cons,not_mem_nil,or_false] at nibble
  rcases nibble with rfl | rfl
  · exact hexAlphabet_printable (low _)
  · exact hexAlphabet_printable (low _)

end Texts

section Lines

theorem built_lines (domain address statement uri : Text) (chainId : Nat) (nonce : Text) (issuedAt expiresAt : Instant) :
    buildSiweMessage domain address statement uri chainId nonce issuedAt expiresAt =
      [ch '\n'].intercalate (siweLines domain address statement uri (decimal chainId) nonce issuedAt expiresAt) := by
  have account : Text.of " wants you to sign in with your Ethereum account:\n" =
      Text.of " wants you to sign in with your Ethereum account:" ++ [ch '\n'] := by decide
  have blank : Text.of "\n\n" = [ch '\n',ch '\n'] := by decide
  have uris : Text.of "\n\nURI: " = [ch '\n',ch '\n'] ++ Text.of "URI: " := by decide
  have chain : Text.of "\nVersion: 1\nChain ID: " = [ch '\n'] ++ Text.of "Version: 1" ++ [ch '\n'] ++ Text.of "Chain ID: " := by
    decide
  have nonces : Text.of "\nNonce: " = [ch '\n'] ++ Text.of "Nonce: " := by decide
  have issued : Text.of "\nIssued At: " = [ch '\n'] ++ Text.of "Issued At: " := by decide
  have expires : Text.of "\nExpiration Time: " = [ch '\n'] ++ Text.of "Expiration Time: " := by decide
  simp [buildSiweMessage,siweLines,intercalate,account,blank,uris,chain,nonces,issued,expires]

end Lines

section Sizes

theorem padded_length (width : Nat) (below : value.natAbs < 10000000000000) : (padded width value).length ≤ width+14 := by
  have front : (digits value.natAbs).length ≤ 13 := @digits_length _ 12 below
  have sign : (if value < 0 then [ch '-'] else []).length ≤ 1 := by split <;> simp
  simp only [padded,decimal_nat,length_append,length_replicate]
  omega

theorem ofDayNumber_crude (early : 0 ≤ number) (late : number < 1000000000000) :
    (ofDayNumber number).year.natAbs < 10000000000000 ∧ (ofDayNumber number).month < 10000000000000 ∧
      (ofDayNumber number).day < 10000000000000 := by
  unfold ofDayNumber
  simp only
  refine ⟨?_,?_,?_⟩
  · omega
  · omega
  · omega

theorem iso_length {instant : Int} (early : 0 ≤ instant) (late : instant < 10000000000000000000) :
    (toIso8601 instant).length ≤ 130 := by
  obtain ⟨year,month,day⟩ := ofDayNumber_crude (show 0 ≤ instant/86400000 by omega) (by omega)
  have year := padded_length 4 year
  have month := padded_length 2 (show ((ofDayNumber (instant/86400000)).month : Int).natAbs < 10000000000000 from month)
  have day := padded_length 2 (show ((ofDayNumber (instant/86400000)).day : Int).natAbs < 10000000000000 from day)
  have hour := padded_length 2 (show (instant % 86400000/3600000).natAbs < 10000000000000 by omega)
  have minute := padded_length 2 (show (instant % 86400000/60000 % 60).natAbs < 10000000000000 by omega)
  have second := padded_length 2 (show (instant % 86400000/1000 % 60).natAbs < 10000000000000 by omega)
  have fraction := padded_length 3 (show (instant % 86400000 % 1000).natAbs < 10000000000000 by omega)
  have single : ∀ text ∈ marks,text.length = 1 := fun text mark => (mark_plain mark).2
  simp only [marks,mem_cons,not_mem_nil,or_false,forall_eq_or_imp,forall_eq] at single
  simp only [toIso8601,length_append,single]
  omega

end Sizes

section Identifiers

theorem field_first (plain : ch '_' ∉ first) : field (first ++ Text.of "_" ++ rest) = some (first,rest) := by
  have mark : Text.of "_" = [ch '_'] := by decide
  rw [field,mark,append_assoc,singleton_append,splitAt_append plain]

theorem id_read {now chainId : Nat} {id : Text} (made : makeWalletChallengeId (.ok random) now chainId = .ok id)
    (within : (now : Int) ≤ 9223372036854775807) (positive : chainId ≠ 0) (below : chainId < uint64Limit) :
    challengeTimestamp id "siwe_" = .ok (now : Int) ∧ walletChallengeChainId id = .ok chainId := by
  have text : id = Text.of "siwe_" ++ (decimal now ++ Text.of "_" ++ (decimal chainId ++ Text.of "_" ++ random)) := by
    rw [← Except.ok.inj made]
    simp only [append_assoc]
  have cut : withoutPrefix "siwe_" id = some (decimal now ++ Text.of "_" ++ (decimal chainId ++ Text.of "_" ++ random)) :=
    withoutPrefix_iff.mpr text
  have whole : field (decimal now ++ Text.of "_" ++ (decimal chainId ++ Text.of "_" ++ random)) =
      some (decimal now,decimal chainId ++ Text.of "_" ++ random) := field_first (decimal_plain (by decide) now)
  have chain : field (decimal chainId ++ Text.of "_" ++ random) = some (decimal chainId,random) :=
    field_first (decimal_plain (by decide) chainId)
  have instant : (fromChars (decimal now)).filter (fun milliseconds => 0 ≤ milliseconds) = some (now : Int) := by
    have low : (-9223372036854775808 : Int) ≤ now := by omega
    rw [fromChars_decimal,Option.filter_some,if_pos (by simp [low,within]),Option.filter_some,if_pos (by simp)]
  have numbered : (fromCharsUnsigned uint64Limit (decimal chainId)).filter (fun chainId => chainId ≠ 0) = some chainId := by
    rw [fromCharsUnsigned_decimal below,Option.filter_some,if_pos (by simpa using positive)]
  constructor
  · simp only [challengeTimestamp,cut,whole,instant]
  · simp only [walletChallengeChainId,cut,whole,Option.bind_some,chain,numbered]

end Identifiers

section Addresses

theorem lowered_byte (byte : UInt8) (hex : isHex byte = true) :
    isHex (if isUpper byte then byte+32 else byte) = true ∧
      isUpper (if isUpper byte then byte+32 else byte) = false ∧ isControl (if isUpper byte then byte+32 else byte) = false := by
  have all := fixed_texts
  simp only [Bool.and_eq_true] at all
  have here := all_eq_true.mp all.2 byte.toNat (mem_range.mpr byte.toNat_lt)
  rw [Nat.toUInt8_eq,UInt8.ofNat_toNat,hex] at here
  simpa [and_assoc] using here

theorem normalized {address normal : Text} (read : normalizeAddress address = some normal) :
    normalizeAddress normal = some normal ∧ normal.length = 42 ∧ Printable normal := by
  unfold normalizeAddress at read
  split at read
  · cases read
  · rename_i form
    simp only [Bool.or_eq_true,not_or,decide_eq_true_eq,Bool.not_eq_true,Bool.not_eq_false',ne_eq,not_not] at form
    obtain ⟨⟨long,begins⟩,hex⟩ := form
    have start : Text.of "0x" = [ch '0',ch 'x'] := by decide
    obtain ⟨tail,rfl⟩ := isPrefixOf_iff_prefix.mp begins
    have cut : (Text.of "0x" ++ tail).drop 2 = tail := by rw [start]; rfl
    have hexes : ∀ byte ∈ tail,isHex byte = true := by
      rw [cut] at hex
      exact all_eq_true.mp hex
    have lower : ∀ rest,toLower (Text.of "0x" ++ rest) = Text.of "0x" ++ toLower rest := by
      intro rest
      rw [start]
      rfl
    have again : toLower (toLower tail) = toLower tail := by
      simp only [toLower,map_map]
      apply map_congr_left
      intro byte inside
      simp [(lowered_byte byte (hexes byte inside)).2.1]
    have lowered : ∀ byte ∈ toLower tail,isHex byte = true ∧ isControl byte = false := by
      intro byte inside
      obtain ⟨origin,from_tail,rfl⟩ := mem_map.mp inside
      exact ⟨(lowered_byte origin (hexes origin from_tail)).1,(lowered_byte origin (hexes origin from_tail)).2.2⟩
    have all : (toLower tail).all isHex = true := all_eq_true.mpr fun byte inside => (lowered byte inside).1
    have length : (toLower (Text.of "0x" ++ tail)).length = 42 := by rw [toLower,length_map,long]
    have plain : Printable (Text.of "0x") := printable_of (by decide)
    cases read
    rw [lower] at length ⊢
    refine ⟨?_,length,printable_append.mpr ⟨plain,fun byte inside => (lowered byte inside).2⟩⟩
    have dropped : (Text.of "0x" ++ toLower tail).drop 2 = toLower tail := by rw [start]; rfl
    have marked : (Text.of "0x").isPrefixOf (Text.of "0x" ++ toLower tail) = true := isPrefixOf_iff_prefix.mpr (prefix_append _ _)
    unfold normalizeAddress
    rw [length,marked,dropped,all,lower,again]
    rfl

end Addresses

section Building
variable {hmacSha256 : (key message : Text) → Result Sha256Digest}

theorem encodeHex_length : (encodeHex bytes false).length = 2*bytes.length := by
  induction bytes with
  | nil => rfl
  | cons byte rest ih =>
    simp only [encodeHex,Bool.false_eq_true,if_false,nil_append,flatMap_cons,length_append,length_cons,
      length_nil] at ih ⊢
    omega

theorem challengeNonce_plain {key challenge nonce : Text} (derived : challengeNonce hmacSha256 key challenge = .ok nonce) :
    Printable nonce ∧ nonce.length ≤ 32 := by
  unfold challengeNonce at derived
  cases hashed : hmacSha256 key (Text.of "openproof/siwe/nonce/v1:" ++ challenge) with
  | error e =>
    rw [hashed] at derived
    cases derived
  | ok digest =>
    rw [hashed] at derived
    cases derived
    refine ⟨encodeHex_printable,?_⟩
    rw [encodeHex_length,length_take]
    omega

theorem safeText_plain {maximum} (safe : safeText text maximum = true) : Printable text ∧ text.length ≤ maximum := by
  simp only [safeText,Bool.and_eq_true,Bool.not_eq_eq_eq_not,Bool.not_true,decide_eq_true_eq] at safe
  exact ⟨printable_of safe.2,safe.1.2⟩

theorem config_plain (config : WalletProviderConfig) : Printable config.domain ∧ config.domain.length ≤ 253 ∧
    Printable config.uri ∧ config.uri.length ≤ 4096 := by
  have domain := config.boundDomain
  have uri := config.boundUri
  simp only [validDomain,Bool.and_eq_true] at domain
  unfold parseHttpsUrl at uri
  split at uri
  · cases uri
  · rename_i form
    simp only [Bool.or_eq_true,not_or,decide_eq_true_eq,Bool.not_eq_true,any_eq_false] at form
    obtain ⟨printable,short⟩ := safeText_plain domain.1.1.1.1.1.1
    refine ⟨printable,short,?_,by omega⟩
    intro byte inside
    have visible := form.2 byte inside
    simp only [isBlankOrControl,isControl,Bool.or_eq_false_iff,decide_eq_false_iff_not,UInt8.not_le,UInt8.not_lt] at visible ⊢
    exact ⟨Nat.le_of_lt visible.1,visible.2⟩

theorem intercalate_plain {lines : List Text} (apart : byte ≠ mark) (plain : ∀ line ∈ lines,byte ∉ line) :
    byte ∉ [mark].intercalate lines := by
  induction lines with
  | nil => simp
  | cons line rest ih =>
    have behind := ih fun line inside => plain line (mem_cons_of_mem _ inside)
    have here := plain line mem_cons_self
    cases rest with
    | nil => simpa using here
    | cons next rest =>
      rw [intercalate_cons_cons]
      simp [here,behind,apart]

theorem lines_printable {domain address statement uri chainId nonce : Text} (issuedAt expiresAt : Instant)
    (printable : Printable domain ∧ Printable address ∧ Printable statement ∧ Printable uri ∧ Printable chainId ∧ Printable nonce) :
    ∀ line ∈ siweLines domain address statement uri chainId nonce issuedAt expiresAt,Printable line := by
  have plain : ∀ text ∈ labels,Printable text := fun text label => (label_plain label).1
  have blank : Printable [] := fun byte inside => absurd inside not_mem_nil
  simp only [labels,mem_cons,not_mem_nil,or_false,forall_eq_or_imp,forall_eq] at plain
  simp [siweLines,printable,blank,iso_printable,plain]

theorem message_length {domain address statement uri nonce : Text} {issuedAt expiresAt : Int}
    (short : domain.length ≤ 253 ∧ address.length = 42 ∧ statement.length ≤ 50 ∧ uri.length ≤ 4096 ∧ nonce.length ≤ 32)
    (below : chainId < uint64Limit) (issued : 0 ≤ issuedAt ∧ issuedAt < 10000000000000000000)
    (expires : 0 ≤ expiresAt ∧ expiresAt < 10000000000000000000) :
    (buildSiweMessage domain address statement uri chainId nonce issuedAt expiresAt).length ≤ 8192 := by
  obtain ⟨domains,addresses,statements,uris,nonces⟩ := short
  have fixed : ∀ text ∈ labels,text.length ≤ 50 := fun text label => (label_plain label).2
  have chain : (decimal chainId).length ≤ 20 := by
    rw [decimal_nat]
    exact @digits_length _ 19 (Nat.lt_trans below (by decide))
  have first := iso_length issued.1 issued.2
  have second := iso_length expires.1 expires.2
  simp only [labels,mem_cons,not_mem_nil,or_false,forall_eq_or_imp,forall_eq] at fixed
  rw [built_lines]
  simp [siweLines,intercalate]
  omega

theorem built_bound (config : WalletProviderConfig) {address challenge nonce : Text} {chainId : Nat} {issuedAt now : Int}
    (normal : normalizeAddress address = some address) (positive : chainId ≠ 0) (below : chainId < uint64Limit)
    (early : 0 ≤ issuedAt) (late : issuedAt ≤ 9223372036854775807)
    (issued : challengeTimestamp challenge "siwe_" = .ok issuedAt) (challenged : walletChallengeChainId challenge = .ok chainId)
    (derived : challengeNonce hmacSha256 config.derivationKey challenge = .ok nonce) (within : now < issuedAt + config.challengeLifetime) :
    Bound hmacSha256
      (buildSiweMessage config.domain address kWalletStatement config.uri chainId nonce issuedAt (issuedAt + config.challengeLifetime))
      challenge "siwe_" config.domain config.uri kWalletStatement config.derivationKey config.challengeLifetime now ⟨address,chainId⟩
      address (decimal chainId) nonce issuedAt := by
  obtain ⟨domain,domains,uri,uris⟩ := config_plain config
  obtain ⟨_,long,plain⟩ := normalized normal
  obtain ⟨noncePlain,nonces⟩ := challengeNonce_plain derived
  obtain ⟨statement,statements⟩ : Printable kWalletStatement ∧ kWalletStatement.length ≤ 50 := label_plain (by simp [labels])
  have lifetime : 0 ≤ (config.challengeLifetime : Int) ∧ (config.challengeLifetime : Int) ≤ 900000 :=
    ⟨Int.le_trans (by decide) config.lasting.1,config.lasting.2⟩
  have printable := lines_printable issuedAt (issuedAt + config.challengeLifetime)
    ⟨domain,plain,statement,uri,decimal_printable chainId,noncePlain⟩
  have split : (buildSiweMessage config.domain address kWalletStatement config.uri chainId nonce issuedAt
      (issuedAt + config.challengeLifetime)).splitOn (ch '\n') = siweLines config.domain address kWalletStatement config.uri
        (decimal chainId) nonce issuedAt (issuedAt + config.challengeLifetime) := by
    rw [built_lines]
    exact splitOn_intercalate _ (fun line inside => (printable line inside).oneLine.1) (cons_ne_nil _ _)
  refine ⟨⟨?_,?_,?_⟩,split,⟨fromCharsUnsigned_decimal below,positive⟩,challenged,normal,derived,issued,within⟩
  · intro empty
    rw [empty] at split
    exact absurd (congrArg List.length split) (by simp [siweLines])
  · have expires : ∀ later : Int,0 ≤ later → later ≤ 900000 → 0 ≤ issuedAt+later ∧ issuedAt+later < 10000000000000000000 := by omega
    exact message_length ⟨domains,long,statements,uris,nonces⟩ below ⟨early,by omega⟩ (expires _ lifetime.1 lifetime.2)
  · rw [built_lines]
    exact intercalate_plain (by decide) fun line inside => (printable line inside).oneLine.2

theorem parseDecimal_below (read : parseDecimal text (uint64Limit-1) = .ok value) : value < uint64Limit := by
  unfold parseDecimal at read
  split at read
  · cases read
  · split at read
    · cases read
    · rename_i found
      split at read
      · cases read
      · cases read
        exact (fromCharsUnsigned_some found).1

theorem beginAuthentication_built {now : Instant} {challenge : WalletChallenge}
    (begun : beginAuthentication hmacSha256 config provider addressValue chainValue random now = .ok challenge) :
    ∃ chainId nonce,addressValue.bind normalizeAddress = some challenge.address ∧ chainId ≠ 0 ∧ chainId < uint64Limit ∧
      challenge.chainId = decimal chainId ∧ makeWalletChallengeId random now chainId = .ok challenge.id ∧
      challengeNonce hmacSha256 config.derivationKey challenge.id = .ok nonce ∧
      challenge.expiresAt = now + config.challengeLifetime ∧
      challenge.message = buildSiweMessage config.domain challenge.address kWalletStatement config.uri chainId nonce now
        (now + config.challengeLifetime) := by
  unfold beginAuthentication at begun
  split at begun
  · cases begun
  · simp only at begun
    split at begun
    · rename_i address chainText normal
      split at begun
      · cases begun
      · rename_i chainId counted
        obtain ⟨numeral,positive⟩ := Option.filter_eq_some_iff.mp counted
        obtain ⟨id,made,begun⟩ := bind_ok begun
        obtain ⟨nonce,derived,begun⟩ := bind_ok begun
        cases begun
        exact ⟨chainId,nonce,normal,by simpa using positive,parseDecimal_below (toOption_ok.mp numeral),rfl,made,derived,rfl,rfl⟩
    · cases begun

def written (domain address statement uri chainText nonce : Text) (issuedAt expiresAt : Instant) : Text :=
  [ch '\n'].intercalate (siweLines domain address statement uri chainText nonce issuedAt expiresAt)

theorem siwe_round_trip (hmacSha256 : (key message : Text) → Result Sha256Digest) :
    (∀ (config : WalletProviderConfig) (provider : Text) (addressValue chainValue : Option Text) (random : Result Text) (now : Int)
      (challenge : WalletChallenge),0 ≤ now → now ≤ 9223372036854775807 →
      beginAuthentication hmacSha256 config provider addressValue chainValue random now = .ok challenge →
      addressValue.bind normalizeAddress = some challenge.address ∧ ∃ chainId : Nat,challenge.chainId = decimal chainId ∧
        ∀ later,later < challenge.expiresAt →
          validateSiweMessage hmacSha256 challenge.message challenge.id "siwe_" config.domain config.uri kWalletStatement
            config.derivationKey config.challengeLifetime later = .ok ⟨challenge.address,chainId⟩) ∧
    ∀ (message challenge challengePrefix domain uri statement derivationKey : Text) (lifetime : Duration) (now : Instant)
      (parsed : ParsedSiwe),
      validateSiweMessage hmacSha256 message challenge challengePrefix domain uri statement derivationKey lifetime now = .ok parsed →
      ∃ address zeros nonce issuedAt,normalizeAddress address = some parsed.address ∧
        challengeNonce hmacSha256 derivationKey challenge = .ok nonce ∧ challengeTimestamp challenge challengePrefix = .ok issuedAt ∧
        now < issuedAt + lifetime ∧
        message = written domain address statement uri (List.replicate zeros (ch '0') ++ decimal parsed.chainId) nonce issuedAt
          (issuedAt + lifetime) ∧
        buildSiweMessage domain parsed.address statement uri parsed.chainId nonce issuedAt (issuedAt + lifetime) =
          written domain parsed.address statement uri (decimal parsed.chainId) nonce issuedAt (issuedAt + lifetime) := by
  constructor
  · intro config provider addressValue chainValue random now challenge early late begun
    obtain ⟨chainId,nonce,normal,positive,below,numeral,made,derived,expires,message⟩ := beginAuthentication_built begun
    refine ⟨normal,chainId,numeral,?_⟩
    intro later within
    obtain ⟨value,_,normal⟩ := Option.bind_eq_some_iff.mp normal
    lift now to Nat using early
    cases random with
    | error e => cases made
    | ok random =>
      obtain ⟨issued,challenged⟩ := id_read made late positive below
      rw [message]
      rw [expires] at within
      exact bound_validates
        (built_bound config (normalized normal).1 positive below (Int.natCast_nonneg _) late issued challenged derived within)
  · intro message challenge challengePrefix domain uri statement derivationKey lifetime now parsed accepted
    obtain ⟨address,chainText,nonce,issuedAt,bound⟩ := validate_bound accepted
    obtain ⟨_,zeros,rfl⟩ := fromCharsUnsigned_some bound.chain.1
    refine ⟨address,zeros,nonce,issuedAt,bound.normal,bound.derived,bound.issued,bound.within,?_,built_lines ..⟩
    rw [written,← bound.lines]
    exact (List.intercalate_splitOn (ch '\n')).symm

end Building

section Demo

theorem demo_bound : (validDomain "id.example" = true ∧ (parseHttpsUrl "https://id.example/login").toOption.isSome = true) ∧
    32 ≤ (Text.of "a derivation key of 32 characters").length ∧ (30000 : Int) ≤ 30000 ∧ (30000 : Int) ≤ 900000 := by decide

def demoConfig : WalletProviderConfig where
  domain := "id.example"
  uri := "https://id.example/login"
  rpcEndpoints := ∅
  derivationKey := "a derivation key of 32 characters"
  challengeLifetime := 30000
  boundDomain := demo_bound.1.1
  boundUri := demo_bound.1.2
  keyed := demo_bound.2.1
  lasting := demo_bound.2.2

def demoDigest (_ _ : Text) : Result Sha256Digest := .ok 7

def demoBegin (now : Instant) : Result WalletChallenge :=
  beginAuthentication demoDigest demoConfig "ethereum-wallet" (some "0x00000000000000000000000000000000000000Ab") (some "1")
    (.ok "random") now

theorem demo_begins : ((demoBegin (-1)).toOption.any fun challenge =>
      decide (0 < challenge.expiresAt) && (challengeTimestamp challenge.id "siwe_").toOption.isNone) = true ∧
    ((demoBegin 1700000000000).toOption.any fun challenge => decide (1700000000000 < challenge.expiresAt)) = true := by decide

-- The window is open, and the clock stood before the epoch when it was opened.
theorem before_epoch_refused : ¬∀ (hmacSha256 : (key message : Text) → Result Sha256Digest) (config : WalletProviderConfig)
    (provider : Text) (addressValue chainValue : Option Text) (random : Result Text) (now later : Int) (challenge : WalletChallenge),
    beginAuthentication hmacSha256 config provider addressValue chainValue random now = .ok challenge →
    now ≤ later → later < challenge.expiresAt →
    ∃ parsed,validateSiweMessage hmacSha256 challenge.message challenge.id "siwe_" config.domain config.uri kWalletStatement
      config.derivationKey config.challengeLifetime later = .ok parsed := by
  intro always
  obtain ⟨challenge,begun,checked⟩ := made_some demo_begins.1
  simp only [Bool.and_eq_true,decide_eq_true_eq,Option.isNone_iff_eq_none] at checked
  obtain ⟨parsed,accepted⟩ := always demoDigest demoConfig _ _ _ _ (-1) 0 challenge begun (by decide) checked.1
  obtain ⟨_,_,_,_,bound⟩ := validate_bound accepted
  rw [bound.issued] at checked
  cases checked.2

theorem siwe_round_trip_demo : ∃ challenge parsed,demoBegin 1700000000000 = .ok challenge ∧
    validateSiweMessage demoDigest challenge.message challenge.id "siwe_" demoConfig.domain demoConfig.uri kWalletStatement
      demoConfig.derivationKey demoConfig.challengeLifetime 1700000000000 = .ok parsed ∧
    ∃ address,normalizeAddress address = some parsed.address := by
  obtain ⟨challenge,begun,within⟩ := made_some demo_begins.2
  obtain ⟨_,chainId,_,accepted⟩ :=
    (siwe_round_trip demoDigest).1 demoConfig _ _ _ _ 1700000000000 challenge (by decide) (by decide) begun
  have recovered := accepted 1700000000000 (of_decide_eq_true within)
  obtain ⟨address,_,_,_,normal,_⟩ := (siwe_round_trip demoDigest).2 _ _ _ _ _ _ _ _ _ _ recovered
  exact ⟨challenge,_,begun,recovered,address,normal⟩

end Demo

end OpenProof.SiweMessages
