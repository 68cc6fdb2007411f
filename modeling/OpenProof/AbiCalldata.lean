import OpenProof.AbiGrammar
import OpenProof.Keccak

namespace OpenProof.AbiCalldata
open AbiGrammar List
open Foundation IdentityProfiles Keccak
open Web3Texts

def kErc1271Magic : Text := "0x1626ba7e"
def kFarcasterAuthAddressKeyType : UInt64 := 2

def universalSignatureValidatorRows : List Nat := [
  0x608060405234801561001057600080fd5b5060405161069438038061069483398101604081905261002f9161051e565b600061003c848484610048565b905080,
  0x6000526001601ff35b60007f64926492649264926492649264926492649264926492649264926492649264926100748361040c565b036101e757600060608084,
  0x8060200190518101906100929190610577565b60405192955090935091506000906001600160a01b038516906100b69085906105dd565b600060405180830381,
  0x6000865af19150503d80600081146100f3576040519150601f19603f3d011682016040523d82523d6000602084013e6100f8565b606091505b50509050876001,
  0x600160a01b03163b60000361016057806101605760405162461bcd60e51b815260206004820152601e60248201527f5369676e617475726556616c696461746f,
  0x723a206465706c6f796d656e74000060448201526064015b60405180910390fd5b604051630b135d3f60e11b808252906001600160a01b038a1690631626ba7e,
  0x90610190908b9087906004016105f9565b602060405180830381865afa1580156101ad573d6000803e3d6000fd5b505050506040513d601f19601f8201168201,
  0x80604052508101906101d19190610633565b6001600160e01b03191614945050505050610405565b6001600160a01b0384163b1561027a57604051630b135d3f,
  0x60e11b808252906001600160a01b03861690631626ba7e9061022790879087906004016105f9565b602060405180830381865afa158015610244573d6000803e,
  0x3d6000fd5b505050506040513d601f19601f820116820180604052508101906102689190610633565b6001600160e01b031916149050610405565b8151604114,
  0x6102df5760405162461bcd60e51b815260206004820152603a602482015260008051602061067483398151915260448201527f3a20696e76616c696420736967,
  0x6e6174757265206c656e6774680000000000006064820152608401610157565b6102e7610425565b506020820151604080840151845185939260009185919081,
  0x1061030c5761030c61065d565b016020015160f81c9050601b811480159061032b57508060ff16601c14155b1561038c5760405162461bcd60e51b8152602060,
  0x04820152603b602482015260008051602061067483398151915260448201527f3a20696e76616c6964207369676e617475726520762076616c75650000000000,
  0x6064820152608401610157565b60408051600081526020810180835289905260ff83169181019190915260608101849052608081018390526001600160a01b03,
  0x89169060019060a0016020604051602081039080840390855afa1580156103ea573d6000803e3d6000fd5b505050602060405103516001600160a01b03161494,
  0x50505050505b9392505050565b600060208251101561041d57600080fd5b508051015190565b6040518060600160405280600390602082028036833750919291,
  0x5050565b6001600160a01b038116811461045857600080fd5b50565b634e487b7160e01b600052604160045260246000fd5b60005b8381101561048c57818101,
  0x5183820152602001610474565b50506000910152565b600082601f8301126104a657600080fd5b81516001600160401b038111156104bf576104bf61045b565b,
  0x604051601f8201601f19908116603f011681016001600160401b03811182821017156104ed576104ed61045b565b604052818152838201602001851015610505,
  0x57600080fd5b610516826020830160208701610471565b949350505050565b60008060006060848603121561053357600080fd5b835161053e81610443565b60,
  0x20850151604086015191945092506001600160401b0381111561056157600080fd5b61056d86828701610495565b9150509250925092565b6000806000606084,
  0x8603121561058c57600080fd5b835161059781610443565b60208501519093506001600160401b038111156105b357600080fd5b6105bf86828701610495565b,
  0x604086015190935090506001600160401b0381111561056157600080fd5b600082516105ef818460208701610471565b9190910192915050565b828152604060,
  0x208201526000825180604084015261061e816060850160208701610471565b601f01601f1916919091016060019392505050565b600060208284031215610645,
  0x57600080fd5b81516001600160e01b03198116811461040557600080fd5b634e487b7160e01b600052603260045260246000fdfe5369676e617475726556616c]

def kUniversalSignatureValidatorCode : Text :=
  universalSignatureValidatorRows.flatMap (bigEndian 64) ++ bigEndian 20 0x696461746f72237265636f7665725369676e6572

def kUniversalSignatureValidatorByteCode : Text := encodeHex kUniversalSignatureValidatorCode true

-- The callers pass what `normalizeAddress` lets through.
structure Address where
  value : Text
  formed : (normalizeAddress value).isSome = true

abbrev Digest : Type := {bytes : Text // bytes.length = 32}

inductive RpcCall where
  | code (address : Address)
  | call (target : Option Address) (data : Text)

section Writing

def uint256Hex (value : UInt64) : Text :=
  let bytes := (List.range 32).map fun position =>
    if position < 24 then (0 : UInt8) else ((value >>> (8*(31-position)).toUInt64) &&& 0xFF).toUInt8
  encodeHex bytes false

def functionSelector (signature : Text) : Result Text := (keccak256 signature).map fun digest => encodeHex (digest.take 4) false

def wordFilling (size : Nat) : Text :=
  let remainder := size % 32
  if remainder ≠ 0 then List.replicate ((32-remainder)*2) (ch '0') else []

def addressWord (address : Address) : Text := List.replicate 24 (ch '0') ++ address.value.drop 2

def signatureBytes (signature : Text) (maximum : Nat) (detail : Text) : Result Text :=
  match decodeHex signature with
  | none => .error (authenticationFailure detail)
  | some bytes => if bytes.isEmpty || bytes.length > maximum then .error (authenticationFailure detail) else .ok bytes

def universalData (address : Address) (digest : Digest) (signature : Text) : Result Text := do
  let signatureBytes ← signatureBytes signature 8192 "The universal signature encoding is invalid."
  .ok (kUniversalSignatureValidatorByteCode ++ addressWord address ++ encodeHex digest.val false ++ uint256Hex 96 ++
    uint256Hex signatureBytes.length.toUInt64 ++ encodeHex signatureBytes false ++ wordFilling signatureBytes.length)

def erc1271Data (digest : Digest) (signature : Text) : Result Text := do
  let signatureBytes ← signatureBytes signature 4096 "The ERC-1271 signature encoding is invalid."
  let selector ← functionSelector "isValidSignature(bytes32,bytes)"
  .ok (Text.of "0x" ++ selector ++ encodeHex digest.val false ++ uint256Hex 64 ++ uint256Hex signatureBytes.length.toUInt64 ++
    encodeHex signatureBytes false ++ wordFilling signatureBytes.length)

def idOfData (address : Address) : Result Text := do
  let selector ← functionSelector "idOf(address)"
  .ok (Text.of "0x" ++ selector ++ addressWord address)

def keyDataOfData (fid : UInt64) (address : Address) : Result Text := do
  let selector ← functionSelector "keyDataOf(uint256,bytes)"
  .ok (Text.of "0x" ++ selector ++ uint256Hex fid ++ uint256Hex 64 ++ uint256Hex 32 ++ addressWord address)

end Writing

section Reading

-- Zeros go from the front while more than `kept` symbols are left.
def stripZeros (kept : Nat) : Text → Text
  | [] => []
  | symbol :: rest => if rest.length+1 > kept && symbol == ch '0' then stripZeros kept rest else symbol :: rest

def hexNumber (text : Text) : Nat := text.foldl (fun value symbol => value*16+(hexNibble symbol).toNat) 0

-- `std::from_chars` in base 16 for an unsigned 64-bit integer, when it has to consume everything.
def fromCharsHex (text : Text) : Option UInt64 :=
  if text.isEmpty || !text.all isHex then none
  else if hexNumber text < UInt64.size then some (hexNumber text).toUInt64 else none

def narrowed (text : Text) (tooLarge : Error) : Result UInt64 :=
  let text := stripZeros 16 text
  if text.length > 16 then .error tooLarge
  else if text.isEmpty then .ok 0
  else match fromCharsHex text with
    | none => .error (.plain .unavailable)
    | some value => .ok value

def abiUint64 (result : Text) (word : Nat) : Result UInt64 :=
  if !(Text.of "0x").isPrefixOf result then .error (.plain .unavailable)
  else
    let result := result.drop 2
    let start := word*64
    if result.length < start+64 then .error (.plain .unavailable)
    else narrowed ((result.drop start).take 64) (.plain .invalidArgument)

end Reading

section Contracts
variable (rpcString : RpcCall → Result Text) (recoverAddress : (digest : Digest) → (signature : Text) → Result Text)

def universalSignatureValid (address : Address) (digest : Digest) (signature : Text) : Result Bool := do
  let data ← universalData address digest signature
  let result ← rpcString (.call none data)
  if !(Text.of "0x").isPrefixOf result || result.length > 66 then
    fail .unavailable "The universal signature verifier returned malformed data."
  else .ok (stripZeros 1 (result.drop 2) == Text.of "1")

def contractWalletValid (address : Address) (digest : Digest) (signature : Text) : Result Bool :=
  match universalSignatureValid rpcString address digest signature with
  | .ok valid => .ok valid
  | .error _ => do
    let code ← rpcString (.code address)
    if code == Text.of "0x" || code == Text.of "0x0" || code == Text.of "0x00" then
      let recovered ← recoverAddress digest signature
      .ok (recovered == address.value)
    else
      let data ← erc1271Data digest signature
      let result ← rpcString (.call (some address) data)
      .ok (kErc1271Magic.isPrefixOf (toLower result))

def farcasterIdOf (registry address : Address) : Result UInt64 := do
  let data ← idOfData address
  let result ← rpcString (.call (some registry) data)
  if !(Text.of "0x").isPrefixOf result || result.length > 66 then .error (.plain .unavailable)
  else narrowed (result.drop 2) (.because .invalidArgument "The Farcaster FID exceeds the supported 64-bit range.")

def farcasterAuthAddressValid (registry : Address) (fid : UInt64) (address : Address) : Result Bool := do
  let data ← keyDataOfData fid address
  let result ← rpcString (.call (some registry) data)
  let state ← abiUint64 result 0
  let keyType ← abiUint64 result 1
  .ok (state == 1 && keyType == kFarcasterAuthAddressKeyType)

end Contracts

section Spelling
variable {text more bytes others : Text}

structure Spells (text bytes : Text) : Prop where
  size : text.length = 2*bytes.length
  digits : ∀ symbol ∈ text,isHex symbol = true
  pairs : hexPairs text = bytes

theorem hexPairs_append (even : text.length % 2 = 0) : hexPairs (text ++ more) = hexPairs text ++ hexPairs more := by
  induction text using hexPairs.induct with
  | case1 high low rest ih =>
    have even : rest.length % 2 = 0 := by
      simp only [length_cons] at even
      omega
    simp only [cons_append,hexPairs,ih even]
  | case2 text apart =>
    cases text with
    | nil => rfl
    | cons high text =>
      cases text with
      | nil => cases even
      | cons low rest => exact absurd rfl (apart high low rest)

theorem Spells.append (first : Spells text bytes) (second : Spells more others) : Spells (text ++ more) (bytes ++ others) := by
  have even : text.length % 2 = 0 := by
    rw [first.size]
    omega
  refine ⟨?_,forall_mem_append.mpr ⟨first.digits,second.digits⟩,?_⟩
  · simp only [length_append,first.size,second.size]
    omega
  · rw [hexPairs_append even,first.pairs,second.pairs]

theorem Spells.decoded (spells : Spells text bytes) : decodeHex (Text.of "0x" ++ text) = some bytes := by
  have start : Text.of "0x" = [ch '0',ch 'x'] := by decide
  have marked : (Text.of "0x").isPrefixOf (Text.of "0x" ++ text) = true := isPrefixOf_iff_prefix.mpr (prefix_append _ _)
  have cut : (Text.of "0x" ++ text).drop 2 = text := by
    rw [start]
    rfl
  have even : text.length % 2 = 0 := by
    rw [spells.size]
    omega
  have all : text.all isHex = true := all_eq_true.mpr spells.digits
  simp [decodeHex,marked,cut,even,all,spells.pairs]

theorem tables : (List.range 256).all (fun n => isHex (hexAlphabet.getD ((n.toUInt8 >>> 4) &&& 0x0F).toNat 0) &&
      isHex (hexAlphabet.getD (n.toUInt8 &&& 0x0F).toNat 0) && (hexNibble (hexAlphabet.getD ((n.toUInt8 >>> 4) &&& 0x0F).toNat 0) <<< 4 |||
        hexNibble (hexAlphabet.getD (n.toUInt8 &&& 0x0F).toNat 0)) == n.toUInt8) = true ∧
    (List.range 256).all (fun n => !isHex n.toUInt8 ||
      (decide ((hexNibble n.toUInt8).toNat < 16) && ((hexNibble n.toUInt8).toNat != 0 || n.toUInt8 == ch '0'))) = true ∧
    (List.range 16).all (fun high => (List.range 16).all fun low =>
      ((high.toUInt8 <<< 4) ||| low.toUInt8).toNat == high*16+low) = true := by decide +kernel

theorem byte_spelled (byte : UInt8) : isHex (hexAlphabet.getD ((byte >>> 4) &&& 0x0F).toNat 0) = true ∧
    isHex (hexAlphabet.getD (byte &&& 0x0F).toNat 0) = true ∧
    (hexNibble (hexAlphabet.getD ((byte >>> 4) &&& 0x0F).toNat 0) <<< 4) ||| hexNibble (hexAlphabet.getD (byte &&& 0x0F).toNat 0) = byte := by
  have here := all_eq_true.mp tables.1 byte.toNat (mem_range.mpr byte.toNat_lt)
  rw [Nat.toUInt8_eq,UInt8.ofNat_toNat] at here
  simpa [and_assoc] using here

theorem spells_encodeHex (bytes : Text) : Spells (encodeHex bytes false) bytes := by
  induction bytes with
  | nil => exact ⟨rfl,fun symbol inside => absurd inside not_mem_nil,rfl⟩
  | cons byte rest ih =>
    obtain ⟨high,low,joined⟩ := byte_spelled byte
    have single : Spells (encodeHex [byte] false) [byte] := by
      refine ⟨rfl,?_,?_⟩
      · simp only [encodeHex,flatMap_cons,flatMap_nil,append_nil,Bool.false_eq_true,if_false,nil_append,
          mem_cons,not_mem_nil,or_false,forall_eq_or_imp,forall_eq]
        exact ⟨high,low⟩
      · exact congrArg (· :: []) joined
    have whole := single.append ih
    simpa [encodeHex] using whole

theorem encodeHex_marked : encodeHex bytes true = Text.of "0x" ++ encodeHex bytes false := by
  simp [encodeHex]

theorem spells_zeros (count : Nat) : Spells (List.replicate (2*count) (ch '0')) (zeros count) := by
  induction count with
  | zero => exact ⟨rfl,fun symbol inside => absurd inside not_mem_nil,rfl⟩
  | succ count ih =>
    have single : Spells [ch '0',ch '0'] [0] := ⟨rfl,by simp; decide,by decide⟩
    exact single.append ih

theorem hexPairs_length (even : text.length % 2 = 0) : text.length = 2*(hexPairs text).length := by
  induction text using hexPairs.induct with
  | case1 high low rest ih =>
    simp only [length_cons] at even
    have rest := ih (by omega)
    simp only [hexPairs,length_cons]
    omega
  | case2 text apart =>
    cases text with
    | nil => rfl
    | cons high text =>
      cases text with
      | nil => cases even
      | cons low rest => exact absurd rfl (apart high low rest)

theorem spells_pairs (even : text.length % 2 = 0) (digits : ∀ symbol ∈ text,isHex symbol = true) : Spells text (hexPairs text) :=
  ⟨hexPairs_length even,digits,rfl⟩

theorem Address.shape (address : Address) :
    (address.value.drop 2).length = 40 ∧ ∀ symbol ∈ address.value.drop 2,isHex symbol = true := by
  have formed := address.formed
  unfold normalizeAddress at formed
  split at formed
  · cases formed
  · rename_i form
    simp only [Bool.or_eq_true,not_or,decide_eq_true_eq,Bool.not_eq_true,Bool.not_eq_false',ne_eq,not_not] at form
    refine ⟨?_,all_eq_true.mp form.2⟩
    rw [length_drop,form.1.1]

def Address.account (address : Address) : {bytes : Text // bytes.length = 20} where
  val := hexPairs (address.value.drop 2)
  property := by
    have length := hexPairs_length (show (address.value.drop 2).length % 2 = 0 by rw [address.shape.1])
    rw [address.shape.1] at length
    omega

theorem spells_addressWord (address : Address) : Spells (addressWord address) (zeros 12 ++ address.account.val) :=
  (spells_zeros 12).append (spells_pairs (by rw [address.shape.1]) address.shape.2)

theorem bigEndian_range :
    bigEndian size n = (List.range size).map fun position => (n/256^(size-1-position) % 256).toUInt8 := by
  induction size generalizing n with
  | zero => rfl
  | succ size ih =>
    rw [bigEndian,ih,range_succ,map_append]
    congr 1
    · apply map_congr_left
      intro position inside
      have inside := mem_range.mp inside
      have power : size+1-1-position = size-1-position+1 := by omega
      rw [power,Nat.pow_succ',Nat.div_div_eq_div_mul]
    · simp

theorem uint256_byte (value : UInt64) (small : index < 8) :
    ((value >>> (8*index).toUInt64) &&& 0xFF).toUInt8 = (value.toNat/256^index % 256).toUInt8 := by
  have power : 256^index = 2^(8*index) := by rw [Nat.pow_mul]
  have mask : ∀ n : Nat,n &&& 255 = n % 256 := fun n => Nat.and_two_pow_sub_one_eq_mod n 8
  have shift : 8*index % 64 = 8*index := Nat.mod_eq_of_lt (by omega)
  rw [← UInt8.toNat_inj]
  simp [UInt64.toNat_shiftRight,shift,mask,power,Nat.shiftRight_eq_div_pow]

theorem spells_uint256Hex (value : UInt64) : Spells (uint256Hex value) (bigEndian 32 value.toNat) := by
  have bytes : ((List.range 32).map fun position =>
      if position < 24 then (0 : UInt8) else ((value >>> (8*(31-position)).toUInt64) &&& 0xFF).toUInt8) = bigEndian 32 value.toNat := by
    rw [bigEndian_range]
    apply map_congr_left
    intro position inside
    have inside := mem_range.mp inside
    by_cases high : position < 24
    · have large : value.toNat < 256^(32-1-position) :=
        Nat.lt_of_lt_of_le value.toNat_lt (Nat.pow_le_pow_right (Nat.succ_pos 255) (by omega : 8 ≤ 32-1-position))
      rw [if_pos high,Nat.div_eq_of_lt large]
      rfl
    · rw [if_neg high]
      exact uint256_byte value (by omega)
  unfold uint256Hex
  simp only
  rw [bytes]
  exact spells_encodeHex _

end Spelling

section Words
variable {text rest : Text}

theorem hexNumber_append : hexNumber (text ++ more) = hexNumber text*16^more.length+hexNumber more := by
  induction more using reverseRecOn with
  | nil => simp [hexNumber]
  | append_singleton front symbol ih =>
    have step : ∀ before : Text,hexNumber (before ++ [symbol]) = hexNumber before*16+(hexNibble symbol).toNat := by
      intro before
      simp [hexNumber]
    rw [← append_assoc,step,ih,step,length_append,length_singleton,Nat.pow_succ,Nat.add_mul,Nat.mul_assoc,
      Nat.add_assoc]

theorem hex_digit (hex : isHex symbol = true) :
    (hexNibble symbol).toNat < 16 ∧ ((hexNibble symbol).toNat = 0 → symbol = ch '0') := by
  have here := all_eq_true.mp tables.2.1 symbol.toNat (mem_range.mpr symbol.toNat_lt)
  rw [Nat.toUInt8_eq,UInt8.ofNat_toNat,hex] at here
  simp only [Bool.not_true,Bool.false_or,Bool.and_eq_true,decide_eq_true_eq,Bool.or_eq_true,bne_iff_ne,beq_iff_eq] at here
  exact ⟨here.1,fun zero => here.2.resolve_left fun apart => apart zero⟩

theorem stripZeros_same (kept : Nat) (text : Text) : hexNumber (stripZeros kept text) = hexNumber text ∧
    ((∀ symbol ∈ stripZeros kept text,isHex symbol = true) ↔ ∀ symbol ∈ text,isHex symbol = true) := by
  induction text with
  | nil => exact ⟨rfl,Iff.rfl⟩
  | cons symbol rest ih =>
    unfold stripZeros
    split
    · rename_i zero
      simp only [Bool.and_eq_true,beq_iff_eq] at zero
      obtain ⟨_,rfl⟩ := zero
      have nothing : hexNumber [ch '0'] = 0 := by decide
      have hex : isHex (ch '0') = true := by decide
      refine ⟨?_,?_⟩
      · rw [ih.1,← singleton_append,hexNumber_append,nothing]
        simp
      · simp [ih.2,hex]
    · exact ⟨rfl,Iff.rfl⟩

theorem stripZeros_ends (kept : Nat) (text : Text) : (stripZeros kept text).length ≤ kept ∨
    ∃ symbol rest,stripZeros kept text = symbol :: rest ∧ symbol ≠ ch '0' ∧ kept ≤ rest.length := by
  induction text with
  | nil => exact .inl (Nat.zero_le _)
  | cons symbol rest ih =>
    unfold stripZeros
    split
    · exact ih
    · rename_i stays
      simp only [Bool.and_eq_true,decide_eq_true_eq,beq_iff_eq,not_and] at stays
      by_cases long : rest.length+1 > kept
      · exact .inr ⟨symbol,rest,rfl,stays long,by omega⟩
      · exact .inl (by simpa using long)

theorem large_of_long (hex : ∀ other ∈ symbol :: rest,isHex other = true) (leading : symbol ≠ ch '0')
    (long : 16 ≤ rest.length) : UInt64.size ≤ hexNumber (symbol :: rest) := by
  have single : hexNumber [symbol] = (hexNibble symbol).toNat := by simp [hexNumber]
  have digit : (hexNibble symbol).toNat ≠ 0 := fun zero => leading ((hex_digit (hex symbol mem_cons_self)).2 zero)
  have power : UInt64.size ≤ 16^rest.length := Nat.pow_le_pow_right (Nat.succ_pos 15) long
  have scaled : 1*16^rest.length ≤ (hexNibble symbol).toNat*16^rest.length := Nat.mul_le_mul_right _ (by omega)
  rw [← singleton_append,hexNumber_append,single]
  omega

theorem fromCharsHex_iff : fromCharsHex text = some value ↔
    text ≠ [] ∧ (∀ symbol ∈ text,isHex symbol = true) ∧ hexNumber text = value.toNat := by
  unfold fromCharsHex
  by_cases apart : (text.isEmpty || !text.all isHex) = true
  · rw [if_pos apart]
    simp only [Bool.or_eq_true,List.isEmpty_iff,Bool.not_eq_eq_eq_not,Bool.not_true,Bool.eq_false_iff,ne_eq,List.all_eq_true] at apart
    constructor
    · intro read
      cases read
    · intro spelled
      exact absurd spelled.2.1 (apart.resolve_left spelled.1)
  · rw [if_neg apart]
    simp only [Bool.or_eq_true,not_or,List.isEmpty_iff,Bool.not_eq_eq_eq_not,Bool.not_true,Bool.not_eq_false,List.all_eq_true] at apart
    by_cases small : hexNumber text < UInt64.size
    · have back : ((hexNumber text).toUInt64).toNat = hexNumber text := UInt64.toNat_ofNat_of_lt' small
      rw [if_pos small,Option.some.injEq,← UInt64.toNat_inj,back]
      exact ⟨fun same => ⟨apart.1,apart.2,same⟩,fun spelled => spelled.2.2⟩
    · rw [if_neg small]
      constructor
      · intro read
        cases read
      · intro spelled
        exact absurd (Nat.lt_of_le_of_lt (Nat.le_of_eq spelled.2.2) value.toNat_lt) small

theorem narrowed_iff : narrowed text tooLarge = .ok value ↔
    (∀ symbol ∈ text,isHex symbol = true) ∧ hexNumber text = value.toNat := by
  obtain ⟨number,digits⟩ := stripZeros_same 16 text
  have ends := stripZeros_ends 16 text
  rw [← number,← digits]
  unfold narrowed
  simp only
  generalize stripZeros 16 text = stripped at ends ⊢
  by_cases long : stripped.length > 16
  · rw [if_pos long]
    obtain ⟨symbol,rest,shape,leading,size⟩ := ends.resolve_left (Nat.not_le.mpr long)
    constructor
    · intro read
      cases read
    · intro spelled
      rw [shape] at spelled
      have large := large_of_long spelled.1 leading size
      exact absurd (Nat.lt_of_le_of_lt (Nat.le_of_eq spelled.2) value.toNat_lt) (Nat.not_lt.mpr large)
  · rw [if_neg long]
    by_cases empty : stripped = []
    · have nothing : hexNumber [] = (0 : UInt64).toNat := rfl
      rw [empty,nothing,UInt64.toNat_inj]
      simp
    · rw [if_neg (by simpa using empty)]
      cases found : fromCharsHex stripped with
      | none =>
        have refused : ¬_ := fun spelled => Option.some_ne_none value ((fromCharsHex_iff.mpr spelled).symm.trans found)
        simp only [empty,ne_eq,not_false_eq_true,true_and] at refused
        simp [refused]
      | some other =>
        obtain ⟨_,hex,same⟩ := fromCharsHex_iff.mp found
        simp only [Except.ok.injEq,← UInt64.toNat_inj,same]
        exact ⟨fun read => ⟨hex,read⟩,fun spelled => spelled.2⟩

theorem pair_number (first : isHex high = true) (second : isHex low = true) :
    ((hexNibble high <<< 4) ||| hexNibble low).toNat = hexNumber [high,low] := by
  have rows := all_eq_true.mp tables.2.2 _ (mem_range.mpr (hex_digit first).1)
  have cell := all_eq_true.mp rows _ (mem_range.mpr (hex_digit second).1)
  simpa [Nat.toUInt8_eq,UInt8.ofNat_toNat,hexNumber] using cell

theorem Spells.number {bytes : Text} (spells : Spells text bytes) : AbiGrammar.number bytes = hexNumber text := by
  obtain ⟨size,digits,rfl⟩ := spells
  induction text using hexPairs.induct with
  | case1 high low rest ih =>
    have length : rest.length = 2*(hexPairs rest).length := by
      simp only [hexPairs,length_cons] at size
      omega
    have behind := ih (fun symbol inside => digits symbol (mem_cons_of_mem _ (mem_cons_of_mem _ inside))) length
    have pair := pair_number (digits high mem_cons_self) (digits low (mem_cons_of_mem _ mem_cons_self))
    have power : 16^rest.length = 256^(hexPairs rest).length := by rw [length,Nat.pow_mul]
    have single : ∀ byte : UInt8,AbiGrammar.number [byte] = byte.toNat := by simp [AbiGrammar.number]
    have front : high :: low :: rest = [high,low] ++ rest := rfl
    rw [hexPairs,← singleton_append,AbiGrammar.number_append,single,pair,behind,front,hexNumber_append,power]
  | case2 text apart =>
    cases text with
    | nil => rfl
    | cons high text =>
      cases text with
      | nil =>
        simp only [hexPairs,length_cons,length_nil] at size
        omega
      | cons low rest => exact absurd rfl (apart high low rest)

theorem abiUint64_iff : abiUint64 result word = .ok value ↔
    ∃ before text after bytes,result = Text.of "0x" ++ (before ++ (text ++ after)) ∧ before.length = 64*word ∧ text.length = 64 ∧
      Spells text bytes ∧ AbiGrammar.number bytes = value.toNat := by
  have start : Text.of "0x" = [ch '0',ch 'x'] := by decide
  unfold abiUint64
  constructor
  · intro read
    by_cases begins : (Text.of "0x").isPrefixOf result = true
    · obtain ⟨tail,rfl⟩ := isPrefixOf_iff_prefix.mp begins
      have cut : (Text.of "0x" ++ tail).drop 2 = tail := by
        rw [start]
        rfl
      rw [begins,if_neg (by decide)] at read
      simp only [cut] at read
      by_cases short : tail.length < word*64+64
      · rw [if_pos short] at read
        cases read
      · rw [if_neg short] at read
        obtain ⟨hex,number⟩ := narrowed_iff.mp read
        have length : ((tail.drop (word*64)).take 64).length = 64 := by
          rw [length_take,length_drop]
          omega
        have spelled := spells_pairs (by rw [length]) hex
        refine ⟨tail.take (word*64),_,(tail.drop (word*64)).drop 64,_,?_,?_,length,spelled,spelled.number.trans number⟩
        · rw [take_append_drop,take_append_drop]
        · rw [length_take]
          omega
    · rw [Bool.eq_false_iff.mpr begins] at read
      cases read
  · intro found
    obtain ⟨before,text,after,bytes,rfl,place,length,spelled,number⟩ := found
    have begins : (Text.of "0x").isPrefixOf (Text.of "0x" ++ (before ++ (text ++ after))) = true :=
      isPrefixOf_iff_prefix.mpr (prefix_append _ _)
    have cut : (Text.of "0x" ++ (before ++ (text ++ after))).drop 2 = before ++ (text ++ after) := by
      rw [start]
      rfl
    have long : ¬(before ++ (text ++ after)).length < word*64+64 := by
      simp only [length_append,place,length]
      omega
    have here : ((before ++ (text ++ after)).drop (word*64)).take 64 = text := by
      rw [drop_left' (by omega),take_left' length]
    rw [begins,if_neg (by decide)]
    simp only [cut]
    rw [if_neg long,here]
    exact narrowed_iff.mpr ⟨spelled.digits,spelled.number.symm.trans number⟩

end Words

section Calldata

structure Carries (data before : Text) (arguments : List Argument) : Prop where
  written : decodeHex data = some (before ++ AbiGrammar.encode arguments)
  read : AbiGrammar.decode (arguments.map Argument.type) (AbiGrammar.encode arguments) = some arguments

theorem spells_wordFilling (size : Nat) : Spells (wordFilling size) (zeros (AbiGrammar.padding size)) := by
  unfold wordFilling AbiGrammar.padding
  by_cases whole : size % 32 = 0
  · simp only [whole,ne_eq,not_true,if_false]
    exact ⟨rfl,fun symbol inside => absurd inside not_mem_nil,rfl⟩
  · have left : (32-size % 32) % 32 = 32-size % 32 := Nat.mod_eq_of_lt (by omega)
    simp only [ne_eq,whole,not_false_eq_true,if_true,left]
    rw [Nat.mul_comm]
    exact spells_zeros _

theorem signatureBytes_iff {maximum} {signature bytes detail : Text} : signatureBytes signature maximum detail = .ok bytes ↔
    decodeHex signature = some bytes ∧ bytes ≠ [] ∧ bytes.length ≤ maximum := by
  unfold signatureBytes
  cases decodeHex signature with
  | none => simp
  | some found =>
    by_cases refused : (found.isEmpty || decide (found.length > maximum)) = true
    · simp only [refused,if_true,Option.some.injEq]
      simp only [Bool.or_eq_true,List.isEmpty_iff,decide_eq_true_eq] at refused
      constructor
      · intro read
        cases read
      · rintro ⟨rfl,nonempty,short⟩
        exact absurd (refused.resolve_left nonempty) (Nat.not_lt.mpr short)
    · simp only [refused,Bool.false_eq_true,if_false,Except.ok.injEq,Option.some.injEq]
      simp only [Bool.or_eq_true,not_or,List.isEmpty_iff,decide_eq_true_eq,Nat.not_lt] at refused
      constructor
      · rintro rfl
        exact ⟨rfl,refused⟩
      · exact fun found => found.1

theorem functionSelector_ok : functionSelector signature = .ok (encodeHex ((keccak256Raw signature).take 4) false) := by
  rw [functionSelector,keccak256,Keccak.self_test]
  rfl

theorem spells_size (small : size < UInt64.size) : Spells (uint256Hex size.toUInt64) (bigEndian 32 size) := by
  have word := spells_uint256Hex size.toUInt64
  rw [show size.toUInt64.toNat = size from UInt64.toNat_ofNat_of_lt' small] at word
  exact word

theorem spells_content (small : content.length < UInt64.size) :
    Spells (uint256Hex content.length.toUInt64 ++ encodeHex content false ++ wordFilling content.length) (Argument.bytes content).tail :=
  ((spells_size small).append (spells_encodeHex content)).append (spells_wordFilling content.length)

theorem content_tail {maximum} (short : content.length ≤ maximum) : (Argument.bytes content).tail.length ≤ maximum+63 := by
  simp only [Argument.tail,AbiGrammar.padding,length_append,AbiGrammar.bigEndian_length,AbiGrammar.zeros_length]
  omega

theorem selector_spells (made : functionSelector signature = .ok selector) :
    Spells selector ((keccak256Raw signature).take 4) := by
  rw [functionSelector_ok] at made
  cases made
  exact spells_encodeHex _

theorem universal_carries {digest : Digest} {signature data : Text}
    (built : universalData address digest signature = .ok data) : ∃ content,decodeHex signature = some content ∧
      Carries data kUniversalSignatureValidatorCode [.address address.account,.bytes32 digest,.bytes content] := by
  obtain ⟨content,signed,built⟩ := bind_ok built
  obtain ⟨decoded,_,short⟩ := signatureBytes_iff.mp signed
  cases built
  have below : content.length < UInt64.size := Nat.lt_of_le_of_lt short (by decide)
  have code : kUniversalSignatureValidatorByteCode = Text.of "0x" ++ encodeHex kUniversalSignatureValidatorCode false := by
    rw [kUniversalSignatureValidatorByteCode,encodeHex_marked]
  have offset : Spells (uint256Hex 96) (bigEndian 32 96) := spells_uint256Hex 96
  have spelled := (spells_encodeHex kUniversalSignatureValidatorCode).append ((spells_addressWord address).append
    ((spells_encodeHex digest.val).append (offset.append (spells_content below))))
  have encoded : AbiGrammar.encode [.address address.account,.bytes32 digest,.bytes content] =
      (zeros 12 ++ address.account.val) ++ (digest.val ++ (bigEndian 32 96 ++ (Argument.bytes content).tail)) := by
    simp [AbiGrammar.encode,AbiGrammar.heads,AbiGrammar.tails,Argument.head,Argument.tail]
  refine ⟨content,decoded,?_,AbiGrammar.decode_encode _ ?_⟩
  · rw [encoded,code]
    have whole := spelled.decoded
    simpa only [append_assoc] using whole
  · have size := content_tail short
    rw [encoded]
    have limit : 10000 < wordLimit := by decide
    simp only [length_append,address.account.property,digest.property,AbiGrammar.zeros_length,AbiGrammar.bigEndian_length]
    omega

theorem erc1271_carries {digest : Digest} {signature data : Text} (built : erc1271Data digest signature = .ok data) :
    ∃ content,decodeHex signature = some content ∧
      Carries data ((keccak256Raw "isValidSignature(bytes32,bytes)").take 4) [.bytes32 digest,.bytes content] := by
  obtain ⟨content,signed,built⟩ := bind_ok built
  obtain ⟨selector,made,built⟩ := bind_ok built
  obtain ⟨decoded,_,short⟩ := signatureBytes_iff.mp signed
  cases built
  have below : content.length < UInt64.size := Nat.lt_of_le_of_lt short (by decide)
  have offset : Spells (uint256Hex 64) (bigEndian 32 64) := spells_uint256Hex 64
  have spelled := (selector_spells made).append ((spells_encodeHex digest.val).append (offset.append (spells_content below)))
  have encoded : AbiGrammar.encode [.bytes32 digest,.bytes content] =
      digest.val ++ (bigEndian 32 64 ++ (Argument.bytes content).tail) := by
    simp [AbiGrammar.encode,AbiGrammar.heads,AbiGrammar.tails,Argument.head,Argument.tail]
  refine ⟨content,decoded,?_,AbiGrammar.decode_encode _ ?_⟩
  · rw [encoded]
    have whole := spelled.decoded
    simpa only [append_assoc] using whole
  · have size := content_tail short
    rw [encoded]
    have limit : 10000 < wordLimit := by decide
    simp only [length_append,digest.property,AbiGrammar.bigEndian_length]
    omega

theorem universalData_ok (address : Address) (digest : Digest) {signature content : Text} (signed : decodeHex signature = some content)
    (nonempty : content ≠ []) (short : content.length ≤ 8192) : ∃ data,universalData address digest signature = .ok data := by
  have bytes : signatureBytes signature 8192 "The universal signature encoding is invalid." = .ok content :=
    signatureBytes_iff.mpr ⟨signed,nonempty,short⟩
  rw [universalData,bytes]
  exact ⟨_,rfl⟩

theorem erc1271Data_ok (digest : Digest) {signature content : Text} (signed : decodeHex signature = some content)
    (nonempty : content ≠ []) (short : content.length ≤ 4096) : ∃ data,erc1271Data digest signature = .ok data := by
  have bytes : signatureBytes signature 4096 "The ERC-1271 signature encoding is invalid." = .ok content :=
    signatureBytes_iff.mpr ⟨signed,nonempty,short⟩
  rw [erc1271Data,bytes]
  simp only [bind,Except.bind]
  rw [functionSelector_ok]
  exact ⟨_,rfl⟩

theorem calldata_exact :
    (∀ (address : Address) (digest : Digest) (signature content : Text),decodeHex signature = some content → content ≠ [] →
      (content.length ≤ 8192 → ∃ data,universalData address digest signature = .ok data ∧
        Carries data kUniversalSignatureValidatorCode [.address address.account,.bytes32 digest,.bytes content]) ∧
      (content.length ≤ 4096 → ∃ data,erc1271Data digest signature = .ok data ∧
        Carries data ((keccak256Raw "isValidSignature(bytes32,bytes)").take 4) [.bytes32 digest,.bytes content])) ∧
    (∀ (value : UInt64) (before after : Text) (word : Nat),before.length = 64*word →
      abiUint64 (Text.of "0x" ++ (before ++ (uint256Hex value ++ after))) word = .ok value) ∧
    ∀ (before text after bytes : Text) (word : Nat),before.length = 64*word → text.length = 64 → Spells text bytes →
      UInt64.size ≤ AbiGrammar.number bytes →
      ∀ value,abiUint64 (Text.of "0x" ++ (before ++ (text ++ after))) word ≠ .ok value := by
  refine ⟨?_,?_,?_⟩
  · intro address digest signature content signed nonempty
    constructor
    · intro short
      obtain ⟨data,built⟩ := universalData_ok address digest signed nonempty short
      obtain ⟨other,decoded,carries⟩ := universal_carries built
      obtain rfl := Option.some.inj (signed.symm.trans decoded)
      exact ⟨data,built,carries⟩
    · intro short
      obtain ⟨data,built⟩ := erc1271Data_ok digest signed nonempty short
      obtain ⟨other,decoded,carries⟩ := erc1271_carries built
      obtain rfl := Option.some.inj (signed.symm.trans decoded)
      exact ⟨data,built,carries⟩
  · intro value before after word place
    have spelled := spells_uint256Hex value
    have length : (uint256Hex value).length = 64 := by rw [spelled.size,AbiGrammar.bigEndian_length]
    have number := AbiGrammar.number_word (Nat.lt_trans value.toNat_lt (show UInt64.size < wordLimit by decide))
    exact abiUint64_iff.mpr ⟨before,_,after,_,rfl,place,length,spelled,number⟩
  · intro before text after bytes word place length spelled large value read
    obtain ⟨others,other,rest,numbered,same,there,size,found,number⟩ := abiUint64_iff.mp read
    have tail := List.append_cancel_left same
    obtain ⟨_,tail⟩ := List.append_inj tail (place.trans there.symm)
    obtain ⟨rfl,_⟩ := List.append_inj tail (length.trans size.symm)
    have below : AbiGrammar.number bytes < UInt64.size := by
      rw [spelled.number,← found.number,number]
      exact value.toNat_lt
    omega

theorem demo_texts : (normalizeAddress "0x00000000000000000000000000000000000000Ab").isSome = true ∧ decodeHex "0xAb" = some [0xAB] := by
  decide

def demoAddress : Address := ⟨"0x00000000000000000000000000000000000000Ab",demo_texts.1⟩
def demoDigest : Digest := ⟨zeros 32,AbiGrammar.zeros_length 32⟩

theorem calldata_exact_demo : (∃ data,universalData demoAddress demoDigest "0xAb" = .ok data ∧
      Carries data kUniversalSignatureValidatorCode [.address demoAddress.account,.bytes32 demoDigest,.bytes [0xAB]]) ∧
    abiUint64 (Text.of "0x" ++ ([] ++ (uint256Hex 7 ++ []))) 0 = .ok 7 ∧
    ∀ value,abiUint64 (Text.of "0x" ++ ([] ++ (encodeHex (bigEndian 32 UInt64.size) false ++ []))) 0 ≠ .ok value := by
  refine ⟨?_,?_,?_⟩
  · exact (calldata_exact.1 demoAddress demoDigest _ _ demo_texts.2 (List.cons_ne_nil _ _)).1 (by decide)
  · exact calldata_exact.2.1 7 [] [] 0 rfl
  · have spelled := spells_encodeHex (bigEndian 32 UInt64.size)
    have size : (encodeHex (bigEndian 32 UInt64.size) false).length = 64 := by
      rw [spelled.size,AbiGrammar.bigEndian_length]
    have large : UInt64.size ≤ AbiGrammar.number (bigEndian 32 UInt64.size) :=
      Nat.le_of_eq (AbiGrammar.number_word (show UInt64.size < wordLimit by decide)).symm
    exact calldata_exact.2.2 [] _ [] _ 0 rfl size spelled large

end Calldata

end OpenProof.AbiCalldata
