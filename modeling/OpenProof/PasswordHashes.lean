import OpenProof.Base64Url
import OpenProof.UnsignedNumerals

namespace OpenProof.PasswordHashes
open Foundation GatewayWorld HandoffTexts Http PasskeyProvider SenderProofs
open UnsignedNumerals Web3Texts

def kPasswordPrefix : Text := "scrypt$v1$"
def kArgon2Prefix : Text := "$argon2id$"
def kArgon2Iterations : Nat := 3
def kArgon2Memory : Nat := 67108864
def kMinimumPepperBytes : Nat := 32
def kMinimumPasswordBytes : Nat := 8
def kMaximumPasswordBytes : Nat := 1024
def kMaximumScryptCost : UInt64 := 1048576
def kMaximumScryptBlockSize : UInt64 := 32
def kMaximumScryptParallelism : UInt64 := 16
def kMaximumScryptMemoryBytes : UInt64 := 268435456

-- libsodium as far as it is called; `str` draws the salt itself.
-- `argon2id` is the function behind it, in base64, and `correct` tells the strings it reads back.
structure Sodium where
  ready : Bool
  argon2id : (material salt : Text) → Text
  str : (material : Text) → (iterations memory : Nat) → Option Text
  strVerify : (encoded material : Text) → Bool
  strNeedsRehash : (encoded : Text) → (iterations memory : Nat) → Int
  correct : Text → Prop

-- What comes from OpenSSL, and libsodium where the build has it.
structure Backend where
  hmacSha256 : (key message : Text) → Result Sha256Digest
  scrypt : (material salt : Text) → (cost blockSize parallelism maximumMemory : UInt64) → (size : Nat) → Option Text
  randBytes : Nat → Option Text
  sodium : Option Sodium

def isPowerOfTwo (value : UInt64) : Bool := value > 1 && value &&& (value-1) == 0

def parseUnsigned (value : Text) : Result UInt64 :=
  match fromCharsUnsigned 18446744073709551616 value with
  | none => fail .invalidArgument "The password hash is malformed."
  | some parsed => .ok parsed.toUInt64

def split (value : Text) (delimiter : UInt8) : List Text := value.splitOn delimiter

def validArgon2Encoding (encoded : Text) : Bool :=
  if !kArgon2Prefix.isPrefixOf encoded || encoded.length > 255 || encoded.contains 0 then false
  else match split encoded (ch '$') with
  | [part0,part1,part2,part3,part4,part5] =>
    if part0 ≠ Text.of "" ∨ part1 ≠ Text.of "argon2id" ∨ part2 ≠ Text.of "v=19" ∨ part4.length < 16 ∨ part4.length > 86 ∨
        part5.length < 22 ∨ part5.length > 86 then false
    else match split part3 (ch ',') with
    | [param0,param1,param2] =>
      if !(Text.of "m=").isPrefixOf param0 || !(Text.of "t=").isPrefixOf param1 || !(Text.of "p=").isPrefixOf param2 then false
      else match parseUnsigned (param0.drop 2),parseUnsigned (param1.drop 2),parseUnsigned (param2.drop 2) with
      | .ok mem,.ok iterations,.ok parallelism =>
        mem ≥ 8192 && mem ≤ 262144 && iterations ≥ 1 && iterations ≤ 10 && parallelism == 1
      | _,_,_ => false
    | _ => false
  | _ => false

def withinBounds (cost blockSize parallelism saltBytes derivedBytes : UInt64) : Bool :=
  isPowerOfTwo cost && cost ≤ kMaximumScryptCost && blockSize != 0 && blockSize ≤ kMaximumScryptBlockSize
    && parallelism != 0 && parallelism ≤ kMaximumScryptParallelism
    && saltBytes ≥ 16 && derivedBytes ≥ 32 && derivedBytes ≤ 64

structure PasswordPolicy where
  cost : UInt64
  blockSize : UInt64
  parallelism : UInt64
  saltBytes : UInt64
  derivedBytes : UInt64
  maximumMemoryBytes : UInt64
  bounded : withinBounds cost blockSize parallelism saltBytes derivedBytes = true
  representable : blockSize ≤ 18446744073709551615 / cost / 128
  affordable : 128*cost*blockSize ≤ maximumMemoryBytes ∧ maximumMemoryBytes ≤ kMaximumScryptMemoryBytes

def PasswordPolicy.create (cost blockSize parallelism saltBytes derivedBytes maximumMemoryBytes : UInt64) : Result PasswordPolicy :=
  if bounded : withinBounds cost blockSize parallelism saltBytes derivedBytes = true then
    if representable : blockSize ≤ 18446744073709551615 / cost / 128 then
      if affordable : 128*cost*blockSize ≤ maximumMemoryBytes ∧ maximumMemoryBytes ≤ kMaximumScryptMemoryBytes then
        .ok ⟨cost,blockSize,parallelism,saltBytes,derivedBytes,maximumMemoryBytes,bounded,representable,affordable⟩
      else fail .invalidArgument "The password memory ceiling is below its work factor."
    else fail .invalidArgument "The password policy memory cost overflows."
  else fail .invalidArgument "The password policy is outside secure bounds."

theorem recommended_affordable : (8 : UInt64) ≤ 18446744073709551615 / 32768 / 128 ∧ (128 : UInt64)*32768*8 ≤ 67108864 ∧
    67108864 ≤ kMaximumScryptMemoryBytes := by decide

def PasswordPolicy.recommended : PasswordPolicy :=
  ⟨32768,8,1,16,32,67108864,rfl,recommended_affordable.1,recommended_affordable.2⟩

structure PasswordHash where
  encoded : Text

def PasswordHash.parse (encoded : Text) : Result PasswordHash :=
  if validArgon2Encoding encoded then .ok ⟨encoded⟩
  else match split encoded (ch '$') with
  | [field0,field1,field2,field3,field4,field5,field6,field7] =>
    if field0 ≠ Text.of "scrypt" ∨ field1 ≠ Text.of "v1" ∨ field2 = [] ∨ field3 = [] ∨ field4 = [] ∨ field5 = [] ∨ field6 = [] ∨
        field7 = [] then
      fail .invalidArgument "The password hash is malformed."
    else .ok ⟨encoded⟩
  | _ => fail .invalidArgument "The password hash is malformed."

def scryptEncoding (policy : PasswordPolicy) (salt result : Text) : Text :=
  kPasswordPrefix ++ decimal policy.cost.toNat ++ Text.of "$" ++ decimal policy.blockSize.toNat ++ Text.of "$" ++
    decimal policy.parallelism.toNat ++ Text.of "$" ++ decimal policy.maximumMemoryBytes.toNat ++ Text.of "$" ++
    toBase64Url salt ++ Text.of "$" ++ toBase64Url result

section Hashing
variable (backend : Backend)

def randomBytes (count : Nat) : Result Text :=
  if count = 0 then .ok []
  else if count > 2147483647 then fail .invalidArgument "Requested random byte count is too large."
  else match backend.randBytes count with
  | none => .error (.of .internal (defaultErrorMessage .internal) "The cryptographic random number generator failed.")
  | some buffer => .ok buffer

def derive (pepper password salt : Text) (policy : PasswordPolicy) : Result Text :=
  if password.length < kMinimumPasswordBytes ∨ password.length > kMaximumPasswordBytes then
    fail .invalidArgument "The password length is outside the accepted range."
  else match backend.hmacSha256 pepper password with
  | .error error => .error error
  | .ok prehash =>
    match backend.scrypt (digestBytes prehash) salt policy.cost policy.blockSize policy.parallelism policy.maximumMemoryBytes
        policy.derivedBytes.toNat with
    | none => fail .internal "Password derivation failed."
    | some output => .ok output

def supportsArgon2id : Bool := backend.sodium.any Sodium.ready

structure PasswordHasher where
  pepper : Text
  policy : PasswordPolicy
  algorithm : Text
  peppered : kMinimumPepperBytes ≤ pepper.length
  known : algorithm = Text.of "scrypt" ∨ algorithm = Text.of "argon2id" ∧ supportsArgon2id backend = true

def PasswordHasher.create (pepper : Text) (policy : PasswordPolicy) (algorithm : Text) : Result (PasswordHasher backend) :=
  if peppered : kMinimumPepperBytes ≤ pepper.length then
    if scrypt : algorithm = Text.of "scrypt" then .ok ⟨pepper,policy,algorithm,peppered,.inl scrypt⟩
    else if argon2id : algorithm = Text.of "argon2id" then
      if supported : supportsArgon2id backend = true then .ok ⟨pepper,policy,algorithm,peppered,.inr ⟨argon2id,supported⟩⟩
      else fail .failedPrecondition "Argon2id requested but libsodium backend is unavailable."
    else fail .invalidArgument "Unknown password hashing algorithm."
  else fail .invalidArgument "A password pepper must contain at least 32 bytes."

variable {backend}

def PasswordHasher.hash (hasher : PasswordHasher backend) (password : Text) : Result PasswordHash :=
  if hasher.algorithm = Text.of "argon2id" then
    match backend.sodium with
    | none => fail .failedPrecondition "Argon2id backend unavailable."
    | some sodium =>
      if !sodium.ready then fail .internal "libsodium initialization failed."
      else if password.length < kMinimumPasswordBytes ∨ password.length > kMaximumPasswordBytes then
        fail .invalidArgument "The password length is outside the accepted range."
      else match backend.hmacSha256 hasher.pepper password with
      | .error error => .error error
      | .ok material =>
        match sodium.str (digestBytes material) kArgon2Iterations kArgon2Memory with
        | none => fail .internal "Argon2id password derivation failed."
        | some encoded => .ok ⟨encoded⟩
  else match randomBytes backend hasher.policy.saltBytes.toNat with
  | .error error => .error error
  | .ok salt =>
    match derive backend hasher.pepper password salt hasher.policy with
    | .error error => .error error
    | .ok result =>
      .ok ⟨scryptEncoding hasher.policy salt result⟩

def PasswordHasher.verify (hasher : PasswordHasher backend) (password : Text) (expected : PasswordHash) : Result Bool :=
  if kArgon2Prefix.isPrefixOf expected.encoded then
    match backend.sodium with
    | none => fail .failedPrecondition "Argon2id verifier is unavailable."
    | some sodium =>
      if !validArgon2Encoding expected.encoded || !sodium.ready then
        fail .invalidArgument "Invalid or unsupported Argon2id hash."
      else if password.length < kMinimumPasswordBytes ∨ password.length > kMaximumPasswordBytes then .ok false
      else match backend.hmacSha256 hasher.pepper password with
      | .error error => .error error
      | .ok material => .ok (sodium.strVerify expected.encoded (digestBytes material))
  else match split expected.encoded (ch '$') with
  | [field0,field1,field2,field3,field4,field5,field6,field7] =>
    if field0 ≠ Text.of "scrypt" ∨ field1 ≠ Text.of "v1" then fail .invalidArgument "The password hash is malformed."
    else match parseUnsigned field2,parseUnsigned field3,parseUnsigned field4,parseUnsigned field5,fromBase64Url field6,
        fromBase64Url field7 with
    | .ok cost,.ok blockSize,.ok parallelism,.ok maximumMemory,.ok salt,.ok wanted =>
      match PasswordPolicy.create cost blockSize parallelism salt.length.toUInt64 wanted.length.toUInt64 maximumMemory with
      | .error error => .error error
      | .ok policy =>
        match derive backend hasher.pepper password salt policy with
        | .error error => .error error
        | .ok actual => .ok (actual == wanted)
    | _,_,_,_,_,_ => fail .invalidArgument "The password hash is malformed."
  | _ => fail .invalidArgument "The password hash is malformed."

def PasswordHasher.needsRehash (hasher : PasswordHasher backend) (hash : PasswordHash) : Result Bool :=
  if hasher.algorithm = Text.of "argon2id" then
    if !kArgon2Prefix.isPrefixOf hash.encoded then .ok true
    else match backend.sodium with
    | none => fail .failedPrecondition "Argon2id verifier is unavailable."
    | some sodium =>
      if !validArgon2Encoding hash.encoded || !sodium.ready then fail .invalidArgument "Invalid Argon2id hash."
      else .ok (sodium.strNeedsRehash hash.encoded kArgon2Iterations kArgon2Memory != 0)
  else if !kPasswordPrefix.isPrefixOf hash.encoded then .ok true
  else match split hash.encoded (ch '$') with
  | [_,_,field2,field3,field4,field5,_,_] =>
    .ok (field2 != decimal hasher.policy.cost.toNat || field3 != decimal hasher.policy.blockSize.toNat
      || field4 != decimal hasher.policy.parallelism.toNat || field5 != decimal hasher.policy.maximumMemoryBytes.toNat)
  | _ => fail .invalidArgument "Malformed legacy scrypt hash."

end Hashing

section Parameters

-- What a hash was made with, and the sizes of its salt and its output in bytes.
inductive Parameters where
  | scrypt (cost blockSize parallelism maximumMemory : UInt64) (saltBytes derivedBytes : Nat)
  | argon2id (memory iterations parallelism : UInt64) (saltBytes outputBytes : Nat)
  deriving DecidableEq

def plainBytes (text : Text) : Option Nat :=
  if text.all fun symbol => isAlnum symbol || symbol == ch '+' || symbol == ch '/' then some (text.length*6/8) else none

def argonCosts (encoded : Text) : Option (UInt64 × UInt64 × UInt64) :=
  match split encoded (ch '$') with
  | [_,_,_,part3,_,_] =>
    match split part3 (ch ',') with
    | [param0,param1,param2] =>
      match parseUnsigned (param0.drop 2),parseUnsigned (param1.drop 2),parseUnsigned (param2.drop 2) with
      | .ok memory,.ok iterations,.ok parallelism => some (memory,iterations,parallelism)
      | _,_,_ => none
    | _ => none
  | _ => none

def argonSizes (encoded : Text) : Option (Nat × Nat) :=
  match split encoded (ch '$') with
  | [_,_,_,_,part4,part5] => (plainBytes part4).bind fun salt => (plainBytes part5).map fun output => (salt,output)
  | _ => none

def costFields (encoded : Text) : List Text := ((split encoded (ch '$')).drop 2).take 4

def scryptNumbers (encoded : Text) : List (Option UInt64) := (costFields encoded).map fun field => (parseUnsigned field).toOption

def scryptSizes (encoded : Text) : Option (Nat × Nat) :=
  match split encoded (ch '$') with
  | [_,_,_,_,_,_,field6,field7] =>
    (fromBase64Url field6).toOption.bind fun salt => (fromBase64Url field7).toOption.map fun output => (salt.length,output.length)
  | _ => none

def storedParameters (encoded : Text) : Option Parameters :=
  if kArgon2Prefix.isPrefixOf encoded then
    (argonCosts encoded).bind fun costs => (argonSizes encoded).map fun sizes =>
      .argon2id costs.1 costs.2.1 costs.2.2 sizes.1 sizes.2
  else match scryptNumbers encoded with
  | [some cost,some blockSize,some parallelism,some maximumMemory] =>
    (scryptSizes encoded).map fun sizes => .scrypt cost blockSize parallelism maximumMemory sizes.1 sizes.2
  | _ => none

end Parameters

section Texts

theorem fixed_texts :
    (kPasswordPrefix = Text.of "scrypt" ++ ch '$' :: (Text.of "v1" ++ [ch '$']) ∧ Text.of "$" = [ch '$'] ∧
      ch '$' ∉ Text.of "scrypt" ∧ ch '$' ∉ Text.of "v1") ∧
    (kArgon2Prefix.head? = some (ch '$') ∧ kPasswordPrefix.head? = some (ch 's')) ∧
    (Text.of "$argon2id$v=19$m=65536,t=3,p=1$" = Text.of "" ++ ch '$' :: (Text.of "argon2id" ++ ch '$' :: (Text.of "v=19" ++
      ch '$' :: (Text.of "m=65536,t=3,p=1" ++ [ch '$']))) ∧ Text.of "$" = [ch '$'] ∧ ch '$' ∉ Text.of "" ∧
      ch '$' ∉ Text.of "argon2id" ∧ ch '$' ∉ Text.of "v=19" ∧ ch '$' ∉ Text.of "m=65536,t=3,p=1") ∧
    kArgon2Prefix <+: Text.of "$argon2id$v=19$m=65536,t=3,p=1$" ∧
      (Text.of "$argon2id$v=19$m=65536,t=3,p=1$").length = 31 ∧ 0 ∉ Text.of "$argon2id$v=19$m=65536,t=3,p=1$" ∧
      (Text.of "$").length = 1 ∧ 0 ∉ Text.of "$" ∧
      split (Text.of "m=65536,t=3,p=1") (ch ',') = [Text.of "m=65536",Text.of "t=3",Text.of "p=1"] ∧
      (parseUnsigned ((Text.of "m=65536").drop 2)).toOption = some 65536 ∧ (parseUnsigned ((Text.of "t=3").drop 2)).toOption = some 3 ∧
      (parseUnsigned ((Text.of "p=1").drop 2)).toOption = some 1 ∧ (Text.of "m=").isPrefixOf (Text.of "m=65536") = true ∧
      (Text.of "t=").isPrefixOf (Text.of "t=3") = true ∧ (Text.of "p=").isPrefixOf (Text.of "p=1") = true := by
  decide

theorem parseUnsigned_decimal : parseUnsigned (decimal value.toNat) = .ok value := by
  rw [parseUnsigned,fromCharsUnsigned_decimal value.toNat_lt]
  simp

theorem parseUnsigned_some (read : parseUnsigned text = .ok value) :
    ∃ zeros,text = List.replicate zeros (ch '0') ++ decimal value.toNat := by
  unfold parseUnsigned at read
  split at read
  · cases read
  · rename_i parsed found
    obtain ⟨below,form⟩ := fromCharsUnsigned_some found
    obtain rfl := Except.ok.inj read
    rw [Nat.toUInt64_eq,UInt64.toNat_ofNat_of_lt' below]
    exact form

theorem digits_head (positive : 0 < value) : (digits value).head? ≠ some (ch '0') := by
  induction value using Nat.strongRecOn with
  | ind value ih =>
    rw [digits_step]
    split
    · rename_i small
      intro zero
      have same : value.toUInt8+48 = ch '0' := Option.some.inj zero
      rw [← UInt8.toNat_inj,UInt8.toNat_add,Nat.toUInt8_eq,UInt8.toNat_ofNat'] at same
      simp only [UInt8.reduceToNat] at same
      have code : (ch '0').toNat = 48 := rfl
      omega
    · rename_i large
      have front := ih (value/10) (by omega) (by omega)
      cases text : digits (value/10) with
      | nil => exact absurd text (digits_read (value/10)).1
      | cons first rest =>
        rw [text] at front
        exact front

theorem shortest_iff (positive : 0 < value.toNat) (read : parseUnsigned text = .ok value) :
    text = decimal value.toNat ↔ text.head? ≠ some (ch '0') := by
  obtain ⟨zeros,rfl⟩ := parseUnsigned_some read
  have head : (decimal value.toNat).head? ≠ some (ch '0') := by
    rw [decimal_nat]
    exact digits_head positive
  cases zeros with
  | zero => simpa using head
  | succ zeros =>
    constructor
    · intro same
      rw [same]
      exact head
    · intro shown
      exact absurd rfl shown

theorem decimal_dollar (value : Nat) : ch '$' ∉ decimal value := decimal_plain (by decide) value

theorem toBase64Url_dollar : ch '$' ∉ toBase64Url bytes := by
  obtain ⟨digits,p,spelled,_,grouped⟩ := Base64Url.toBase64Url_digits bytes
  intro inside
  rw [spelled] at inside
  obtain ⟨digit,listed,same⟩ := List.mem_map.mp inside
  have known := Base64Url.alphabet_value (grouped.digitsFit digit listed)
  rw [same] at known
  cases known

theorem toBase64Url_nonempty (nonempty : bytes ≠ []) : toBase64Url bytes ≠ [] := by
  intro empty
  have decoded := Base64Url.decoded_toBase64Url bytes
  rw [empty] at decoded
  exact nonempty (Except.ok.inj decoded).symm

theorem split_encoding (policy : PasswordPolicy) (salt result : Text) : split (scryptEncoding policy salt result) (ch '$') =
    [Text.of "scrypt",Text.of "v1",decimal policy.cost.toNat,decimal policy.blockSize.toNat,decimal policy.parallelism.toNat,
      decimal policy.maximumMemoryBytes.toNat,toBase64Url salt,toBase64Url result] := by
  have marks := fixed_texts.1
  have form : scryptEncoding policy salt result = [ch '$'].intercalate
      [Text.of "scrypt",Text.of "v1",decimal policy.cost.toNat,decimal policy.blockSize.toNat,decimal policy.parallelism.toNat,
        decimal policy.maximumMemoryBytes.toNat,toBase64Url salt,toBase64Url result] := by
    rw [scryptEncoding,marks.1,marks.2.1]
    simp [List.intercalate]
  rw [form,split,List.splitOn_intercalate]
  · intro field listed
    simp only [List.mem_cons,List.not_mem_nil,or_false] at listed
    rcases listed with rfl | rfl | rfl | rfl | rfl | rfl | rfl | rfl
    · exact marks.2.2.1
    · exact marks.2.2.2
    · exact decimal_dollar _
    · exact decimal_dollar _
    · exact decimal_dollar _
    · exact decimal_dollar _
    · exact toBase64Url_dollar
    · exact toBase64Url_dollar
  · exact List.cons_ne_nil _ _

end Texts

section Stored

theorem accepted_cases (accepted : PasswordHash.parse encoded = .ok stored) :
    stored = ⟨encoded⟩ ∧ (validArgon2Encoding encoded = true ∨ ∃ cost blockSize parallelism maximumMemory salt wanted,
      split encoded (ch '$') = [Text.of "scrypt",Text.of "v1",cost,blockSize,parallelism,maximumMemory,salt,wanted]) := by
  unfold PasswordHash.parse at accepted
  split at accepted
  · rename_i valid
    exact ⟨(Except.ok.inj accepted).symm,.inl valid⟩
  · split at accepted
    · rename_i field0 field1 cost blockSize parallelism maximumMemory salt wanted fields
      split at accepted
      · cases accepted
      · rename_i named
        simp only [not_or,not_not] at named
        refine ⟨(Except.ok.inj accepted).symm,.inr ⟨cost,blockSize,parallelism,maximumMemory,salt,wanted,?_⟩⟩
        rw [fields,named.1,named.2.1]
    · cases accepted

theorem argon_prefix {encoded : Text} (valid : validArgon2Encoding encoded = true) : kArgon2Prefix.isPrefixOf encoded = true := by
  unfold validArgon2Encoding at valid
  cases starts : kArgon2Prefix.isPrefixOf encoded with
  | true => rfl
  | false => simp [starts] at valid

theorem argon_costs {encoded : Text} (valid : validArgon2Encoding encoded = true) :
    ∃ memory iterations,argonCosts encoded = some (memory,iterations,1) := by
  unfold validArgon2Encoding at valid
  split at valid
  · cases valid
  · split at valid
    · rename_i part0 part1 part2 part3 part4 part5 parts
      split at valid
      · cases valid
      · split at valid
        · rename_i param0 param1 param2 params
          split at valid
          · cases valid
          · split at valid
            · rename_i memory iterations parallelism readMemory readIterations readParallelism
              simp only [Bool.and_eq_true,beq_iff_eq] at valid
              refine ⟨memory,iterations,?_⟩
              simp only [argonCosts,parts,params,readMemory,readIterations,readParallelism,valid.2]
            · cases valid
        · cases valid
    · cases valid

theorem prefixes_apart (argon : kArgon2Prefix.isPrefixOf encoded = true) : kPasswordPrefix.isPrefixOf encoded = false := by
  obtain ⟨rest,rfl⟩ := List.isPrefixOf_iff_prefix.mp argon
  have heads := fixed_texts.2.1
  obtain ⟨argonRest,argonForm⟩ := List.head?_eq_some_iff.mp heads.1
  obtain ⟨scryptRest,scryptForm⟩ := List.head?_eq_some_iff.mp heads.2
  rw [argonForm,scryptForm]
  rfl

theorem scrypt_prefix {fields : List Text}
    (split : split encoded (ch '$') = Text.of "scrypt" :: Text.of "v1" :: fields) (more : fields ≠ []) : kPasswordPrefix.isPrefixOf encoded = true := by
  have whole : [ch '$'].intercalate (encoded.splitOn (ch '$')) = encoded := List.intercalate_splitOn (ch '$')
  have form := fixed_texts.1.1
  obtain ⟨first,rest,rfl⟩ := List.exists_cons_of_ne_nil more
  have start : [ch '$'].intercalate (Text.of "scrypt" :: Text.of "v1" :: first :: rest) =
      kPasswordPrefix ++ [ch '$'].intercalate (first :: rest) := by
    rw [form,List.intercalate_cons_cons,List.intercalate_cons_cons]
    simp
  rw [← whole]
  exact List.isPrefixOf_iff_prefix.mpr ⟨_,by rw [PasswordHashes.split] at split; rw [split,start]⟩

theorem scrypt_plain {fields : List Text}
    (split : split encoded (ch '$') = Text.of "scrypt" :: Text.of "v1" :: fields) (more : fields ≠ []) : kArgon2Prefix.isPrefixOf encoded = false := by
  have starts := scrypt_prefix split more
  cases argon : kArgon2Prefix.isPrefixOf encoded with
  | false => rfl
  | true =>
    rw [prefixes_apart argon] at starts
    exact absurd starts Bool.false_ne_true

end Stored

section Documented

def BaseText (length : Nat) (text : Text) : Prop :=
  text.length = length ∧ ∀ symbol ∈ text,(isAlnum symbol || symbol == ch '+' || symbol == ch '/') = true

def argonText (salt output : Text) : Text := Text.of "$argon2id$v=19$m=65536,t=3,p=1$" ++ salt ++ Text.of "$" ++ output

-- What libsodium says of its strings: 16 bytes of salt, 32 bytes of output, and both limits.
structure Sodium.Documented (sodium : Sodium) : Prop where
  encodes : ∀ material,∃ salt,BaseText 22 salt ∧ BaseText 43 (sodium.argon2id material salt) ∧
    sodium.str material kArgon2Iterations kArgon2Memory = some (argonText salt (sodium.argon2id material salt))
  verifies : ∀ material salt output,BaseText 22 salt → BaseText 43 output →
    (sodium.strVerify (argonText salt output) material = true ↔ output = sodium.argon2id material salt)
  reads : ∀ salt output,BaseText 22 salt → BaseText 43 output → sodium.correct (argonText salt output)
  judges : ∀ encoded memory iterations parallelism,argonCosts encoded = some (memory,iterations,parallelism) →
    (sodium.strNeedsRehash encoded kArgon2Iterations kArgon2Memory = 0 ↔
      sodium.correct encoded ∧ iterations.toNat = kArgon2Iterations ∧ memory.toNat*1024 = kArgon2Memory)

-- The derivation of keys is a function, and random bytes are drawn.
structure Backend.Documented (backend : Backend) (pepper : Text) : Prop where
  prehashes : ∀ password,∃ digest,backend.hmacSha256 pepper password = .ok digest
  derives : ∀ material salt cost blockSize parallelism maximumMemory size,∃ output,
    backend.scrypt material salt cost blockSize parallelism maximumMemory size = some output ∧ output.length = size
  draws : ∀ count,∃ bytes,backend.randBytes count = some bytes ∧ bytes.length = count
  sodium : ∀ sodium,backend.sodium = some sodium → sodium.Documented

end Documented

section Conditions
variable {backend : Backend} (hasher : PasswordHasher backend)

def PasswordHasher.parameters : Parameters :=
  if hasher.algorithm = Text.of "argon2id" then .argon2id 65536 3 1 16 32
  else .scrypt hasher.policy.cost hasher.policy.blockSize hasher.policy.parallelism hasher.policy.maximumMemoryBytes
    hasher.policy.saltBytes.toNat hasher.policy.derivedBytes.toNat

def Hashes (password : Text) : Prop :=
  ∃ stored,hasher.hash password = .ok stored ∧ PasswordHash.parse stored.encoded = .ok stored ∧
    hasher.verify password stored = .ok true ∧ hasher.needsRehash stored = .ok false

def Judges (stored : PasswordHash) : Prop :=
  hasher.needsRehash stored = .ok (decide (storedParameters stored.encoded ≠ some hasher.parameters))

def Drawable : Prop := hasher.algorithm = Text.of "argon2id" ∨ hasher.policy.saltBytes.toNat ≤ 2147483647

def policyCosts (policy : PasswordPolicy) : List UInt64 :=
  [policy.cost,policy.blockSize,policy.parallelism,policy.maximumMemoryBytes]

def Readable (encoded : Text) : Prop := ∃ sodium,backend.sodium = some sodium ∧ sodium.correct encoded

def Resized (encoded : Text) : Prop :=
  if hasher.algorithm = Text.of "argon2id" then
    kArgon2Prefix.isPrefixOf encoded = true ∧ @Readable backend encoded ∧ argonCosts encoded = some (65536,3,1) ∧
      argonSizes encoded ≠ some (16,32)
  else
    kPasswordPrefix.isPrefixOf encoded = true ∧ costFields encoded = (policyCosts hasher.policy).map (fun cost => decimal cost.toNat) ∧
      scryptSizes encoded ≠ some (hasher.policy.saltBytes.toNat,hasher.policy.derivedBytes.toNat)

def Respelled (encoded : Text) : Prop :=
  storedParameters encoded = some hasher.parameters ∧
    if hasher.algorithm = Text.of "argon2id" then ¬@Readable backend encoded
    else ∃ field ∈ costFields encoded,field.head? = some (ch '0')

end Conditions

section Judgement

theorem costs_positive (policy : PasswordPolicy) : ∀ cost ∈ policyCosts policy,0 < cost.toNat := by
  have bounded := policy.bounded
  have affordable := UInt64.le_iff_toNat_le.mp policy.affordable.1
  simp only [withinBounds,isPowerOfTwo,kMaximumScryptCost,kMaximumScryptBlockSize,kMaximumScryptParallelism,Bool.and_eq_true,
    decide_eq_true_eq,bne_iff_ne,ne_eq,← UInt64.toNat_inj,UInt64.le_iff_toNat_le,UInt64.lt_iff_toNat_lt,gt_iff_lt,
    UInt64.reduceToNat] at bounded
  obtain ⟨⟨⟨⟨⟨⟨⟨⟨⟨costly,_⟩,cheap⟩,block⟩,narrow⟩,lanes⟩,_⟩,_⟩,_⟩,_⟩ := bounded
  have product : policy.cost.toNat*policy.blockSize.toNat ≤ 1048576*32 := Nat.mul_le_mul cheap narrow
  have least : 1*1 ≤ policy.cost.toNat*policy.blockSize.toNat := Nat.mul_le_mul (by omega) (by omega)
  have required : (128*policy.cost*policy.blockSize).toNat = 128*(policy.cost.toNat*policy.blockSize.toNat) := by
    have scale : (128 : UInt64).toNat = 128 := rfl
    rw [UInt64.toNat_mul,UInt64.toNat_mul,scale,Nat.mod_mul_mod,Nat.mul_assoc]
    exact Nat.mod_eq_of_lt (by omega)
  intro cost listed
  simp only [policyCosts,List.mem_cons,List.not_mem_nil,or_false] at listed
  rcases listed with rfl | rfl | rfl | rfl
  · omega
  · omega
  · omega
  · omega

theorem numerals_iff {costs : List UInt64} (positive : ∀ cost ∈ costs,0 < cost.toNat)
    (read : fields.map (fun field => (parseUnsigned field).toOption) = costs.map some) :
    fields = costs.map (fun cost => decimal cost.toNat) ↔ ∀ field ∈ fields,field.head? ≠ some (ch '0') := by
  induction fields generalizing costs with
  | nil =>
    cases costs with
    | nil => simp
    | cons cost costs => simp at read
  | cons field fields ih =>
    cases costs with
    | nil => simp at read
    | cons cost costs =>
      rw [List.map_cons,List.map_cons,List.cons_eq_cons] at read
      have number : parseUnsigned field = .ok cost := by
        cases parsed : parseUnsigned field with
        | error error => simp [parsed,Except.toOption] at read
        | ok value => simpa [parsed,Except.toOption] using read.1
      have later := ih (fun next listed => positive next (List.mem_cons_of_mem cost listed)) read.2
      rw [List.map_cons,List.cons_eq_cons,List.forall_mem_cons,later,
        shortest_iff (positive cost List.mem_cons_self) number]

theorem numerals_read (costs : List UInt64) :
    (costs.map fun cost => decimal cost.toNat).map (fun field => (parseUnsigned field).toOption) = costs.map some := by
  rw [List.map_map]
  refine List.map_congr_left fun cost _ => ?_
  simp [parseUnsigned_decimal,Except.toOption]

theorem stored_scrypt (plain : kArgon2Prefix.isPrefixOf encoded = false) {costs : PasswordPolicy}
    {salt output : Nat} :
    storedParameters encoded = some (.scrypt costs.cost costs.blockSize costs.parallelism costs.maximumMemoryBytes salt output) ↔
      scryptNumbers encoded = (policyCosts costs).map some ∧ scryptSizes encoded = some (salt,output) := by
  unfold storedParameters
  rw [plain,if_neg Bool.false_ne_true]
  constructor
  · intro same
    split at same
    · rename_i numbers
      obtain ⟨sizes,sized,made⟩ := Option.map_eq_some_iff.mp same
      injection made with cost block lanes memory first second
      subst cost block lanes memory first second
      exact ⟨numbers,sized⟩
    · cases same
  · intro same
    rw [same.1,same.2]
    rfl

variable {backend : Backend} (hasher : PasswordHasher backend)

theorem rehash_scrypt (scrypt : hasher.algorithm ≠ Text.of "argon2id") {encoded field2 field3 field4 field5 field6 field7 : Text}
    (fields : split encoded (ch '$') = [Text.of "scrypt",Text.of "v1",field2,field3,field4,field5,field6,field7]) :
    hasher.needsRehash ⟨encoded⟩ =
      .ok (decide (costFields encoded ≠ (policyCosts hasher.policy).map fun cost => decimal cost.toNat)) := by
  have starts := scrypt_prefix fields (List.cons_ne_nil _ _)
  rw [PasswordHasher.needsRehash,if_neg scrypt,starts,Bool.not_true,if_neg Bool.false_ne_true,fields,costFields,fields]
  simp only [List.drop_succ_cons,List.drop_zero,List.take_succ_cons,List.take_zero,policyCosts,List.map_cons,List.map_nil,
    Except.ok.injEq]
  rw [Bool.eq_iff_iff]
  simp only [Bool.or_eq_true,bne_iff_ne,decide_eq_true_eq,ne_eq,List.cons.injEq,and_true,Classical.not_and_iff_not_or_not,or_assoc]

theorem judges_scrypt (scrypt : hasher.algorithm ≠ Text.of "argon2id") {encoded field2 field3 field4 field5 field6 field7 : Text}
    (fields : split encoded (ch '$') = [Text.of "scrypt",Text.of "v1",field2,field3,field4,field5,field6,field7]) :
    Judges hasher ⟨encoded⟩ ↔ ¬Resized hasher encoded ∧ ¬Respelled hasher encoded := by
  have starts := scrypt_prefix fields (List.cons_ne_nil _ _)
  have plain := scrypt_plain fields (List.cons_ne_nil _ _)
  have same := @stored_scrypt encoded plain hasher.policy hasher.policy.saltBytes.toNat hasher.policy.derivedBytes.toNat
  have written : costFields encoded = (policyCosts hasher.policy).map (fun cost => decimal cost.toNat) →
      scryptNumbers encoded = (policyCosts hasher.policy).map some := by
    intro numerals
    rw [scryptNumbers,numerals,numerals_read]
  have shortest : scryptNumbers encoded = (policyCosts hasher.policy).map some →
      (costFields encoded = (policyCosts hasher.policy).map (fun cost => decimal cost.toNat) ↔
        ∀ field ∈ costFields encoded,field.head? ≠ some (ch '0')) := numerals_iff (costs_positive hasher.policy)
  rw [Judges,rehash_scrypt hasher scrypt fields,Except.ok.injEq,decide_eq_decide,PasswordHasher.parameters,Resized,Respelled,
    PasswordHasher.parameters,if_neg scrypt,if_neg scrypt,if_neg scrypt,ne_eq,ne_eq,not_iff_not,same]
  constructor
  · intro agrees
    refine ⟨?_,?_⟩
    · intro resized
      exact resized.2.2 (agrees.mp resized.2.1).2
    · intro respelled
      obtain ⟨field,listed,zero⟩ := respelled.2
      exact (shortest respelled.1.1).mp (agrees.mpr respelled.1) field listed zero
  · intro kept
    constructor
    · intro numerals
      exact ⟨written numerals,Classical.byContradiction fun other => kept.1 ⟨starts,numerals,other⟩⟩
    · intro equal
      refine (shortest equal.1).mpr fun field listed zero => kept.2 ⟨equal,field,listed,zero⟩

theorem created : PasswordHasher.create backend hasher.pepper hasher.policy hasher.algorithm = .ok hasher := by
  have apart : Text.of "argon2id" ≠ Text.of "scrypt" := by decide
  rw [PasswordHasher.create,dif_pos hasher.peppered]
  rcases hasher.known with scrypt | argon
  · rw [dif_pos scrypt]
  · rw [dif_neg (by rw [argon.1]; exact apart),dif_pos argon.1,dif_pos argon.2]

theorem ready_sodium (argon : hasher.algorithm = Text.of "argon2id") :
    ∃ sodium,backend.sodium = some sodium ∧ sodium.ready = true := by
  have apart : Text.of "argon2id" ≠ Text.of "scrypt" := by decide
  rcases hasher.known with scrypt | supported
  · exact absurd (argon.symm.trans scrypt) apart
  · have supports := supported.2
    unfold supportsArgon2id at supports
    cases linked : backend.sodium with
    | none => simp [linked] at supports
    | some sodium => exact ⟨sodium,rfl,by simpa [linked] using supports⟩

theorem stored_argon (argon : kArgon2Prefix.isPrefixOf encoded = true) {memory iterations parallelism : UInt64}
    {salt output : Nat} : storedParameters encoded = some (.argon2id memory iterations parallelism salt output) ↔
      argonCosts encoded = some (memory,iterations,parallelism) ∧ argonSizes encoded = some (salt,output) := by
  unfold storedParameters
  rw [if_pos argon]
  constructor
  · intro same
    obtain ⟨costs,read,made⟩ := Option.bind_eq_some_iff.mp same
    obtain ⟨sizes,sized,made⟩ := Option.map_eq_some_iff.mp made
    injection made with first second third fourth fifth
    subst first second third fourth fifth
    exact ⟨read,sized⟩
  · intro same
    rw [same.1,same.2]
    rfl

theorem judges_argon (documented : backend.Documented hasher.pepper) (argon : hasher.algorithm = Text.of "argon2id") {encoded : Text}
    (valid : validArgon2Encoding encoded = true) :
    Judges hasher ⟨encoded⟩ ↔ ¬Resized hasher encoded ∧ ¬Respelled hasher encoded := by
  obtain ⟨sodium,linked,ready⟩ := ready_sodium hasher argon
  obtain ⟨memory,iterations,costs⟩ := argon_costs valid
  have starts := argon_prefix valid
  have same := @stored_argon encoded starts 65536 3 1 16 32
  have readable : @Readable backend encoded ↔ sodium.correct encoded := by
    rw [Readable,linked]
    simp
  have limits : argonCosts encoded = some (65536,3,1) ↔ iterations.toNat = kArgon2Iterations ∧ memory.toNat*1024 = kArgon2Memory := by
    have three : (3 : UInt64).toNat = 3 := rfl
    have mebibytes : (65536 : UInt64).toNat = 65536 := rfl
    rw [costs,Option.some.injEq,Prod.mk.injEq,Prod.mk.injEq,← UInt64.toNat_inj,← UInt64.toNat_inj,three,mebibytes,kArgon2Iterations,
      kArgon2Memory,eq_self,and_true]
    omega
  have judged := (documented.sodium sodium linked).judges encoded memory iterations 1 costs
  rw [← limits] at judged
  have rehash : hasher.needsRehash ⟨encoded⟩ =
      .ok (decide (¬sodium.strNeedsRehash encoded kArgon2Iterations kArgon2Memory = 0)) := by
    rw [PasswordHasher.needsRehash,if_pos argon,starts,linked]
    simp only [valid,ready,Bool.not_true,Bool.or_false,Bool.false_eq_true,if_false,Except.ok.injEq]
    rw [Bool.eq_iff_iff]
    simp
  rw [Judges,rehash,Except.ok.injEq,decide_eq_decide,PasswordHasher.parameters,Resized,Respelled,PasswordHasher.parameters,
    if_pos argon,if_pos argon,if_pos argon,ne_eq,not_iff_not,judged,same,readable]
  constructor
  · intro agrees
    refine ⟨?_,?_⟩
    · intro resized
      exact resized.2.2.2 (agrees.mp ⟨resized.2.1,resized.2.2.1⟩).2
    · intro respelled
      exact respelled.2 (agrees.mpr respelled.1).1
  · intro kept
    constructor
    · intro matching
      exact ⟨matching.2,Classical.byContradiction fun other => kept.1 ⟨starts,matching.1,matching.2,other⟩⟩
    · intro equal
      exact ⟨Classical.byContradiction fun unread => kept.2 ⟨equal,unread⟩,equal.1⟩

theorem judges_other (other : hasher.needsRehash ⟨encoded⟩ = .ok true)
    (differs : storedParameters encoded ≠ some hasher.parameters) (apart : ¬Resized hasher encoded) :
    Judges hasher ⟨encoded⟩ ↔ ¬Resized hasher encoded ∧ ¬Respelled hasher encoded := by
  refine iff_of_true ?_ ⟨apart,fun respelled => differs respelled.1⟩
  rw [Judges,other,decide_eq_true differs]

theorem judges_iff (documented : backend.Documented hasher.pepper)
    (accepted : PasswordHash.parse encoded = .ok stored) :
    Judges hasher stored ↔ ¬Resized hasher stored.encoded ∧ ¬Respelled hasher stored.encoded := by
  obtain ⟨rfl,form⟩ := accepted_cases accepted
  by_cases argon : hasher.algorithm = Text.of "argon2id"
  · rcases form with valid | scrypt
    · exact judges_argon hasher documented argon valid
    · obtain ⟨field2,field3,field4,field5,field6,field7,fields⟩ := scrypt
      have plain := scrypt_plain fields (List.cons_ne_nil _ _)
      refine judges_other hasher ?_ ?_ ?_
      · rw [PasswordHasher.needsRehash,if_pos argon,plain]
        rfl
      · rw [storedParameters,plain,if_neg Bool.false_ne_true,PasswordHasher.parameters,if_pos argon]
        split
        · intro same
          obtain ⟨_,_,made⟩ := Option.map_eq_some_iff.mp same
          cases made
        · simp
      · rw [Resized,if_pos argon,plain]
        exact fun resized => Bool.false_ne_true resized.1
  · rcases form with valid | scrypt
    · have starts := argon_prefix valid
      have plain := prefixes_apart starts
      refine judges_other hasher ?_ ?_ ?_
      · rw [PasswordHasher.needsRehash,if_neg argon,plain]
        rfl
      · rw [storedParameters,if_pos starts,PasswordHasher.parameters,if_neg argon]
        intro same
        obtain ⟨_,_,made⟩ := Option.bind_eq_some_iff.mp same
        obtain ⟨_,_,made⟩ := Option.map_eq_some_iff.mp made
        cases made
      · rw [Resized,if_neg argon,plain]
        exact fun resized => Bool.false_ne_true resized.1
    · obtain ⟨field2,field3,field4,field5,field6,field7,fields⟩ := scrypt
      exact judges_scrypt hasher argon fields

end Judgement

section Encodings

theorem base_symbol (base : BaseText length text)
    (strange : (isAlnum mark || mark == ch '+' || mark == ch '/') = false) : mark ∉ text := by
  intro inside
  rw [base.2 mark inside] at strange
  cases strange

theorem split_argon (salted : BaseText 22 salt) (put : BaseText 43 output) : split (argonText salt output) (ch '$') =
      [Text.of "",Text.of "argon2id",Text.of "v=19",Text.of "m=65536,t=3,p=1",salt,output] := by
  have marks := fixed_texts.2.2.1
  have form : argonText salt output = [ch '$'].intercalate
      [Text.of "",Text.of "argon2id",Text.of "v=19",Text.of "m=65536,t=3,p=1",salt,output] := by
    rw [argonText,marks.1,marks.2.1]
    simp [List.intercalate]
  rw [form,split,List.splitOn_intercalate]
  · intro part listed
    simp only [List.mem_cons,List.not_mem_nil,or_false] at listed
    rcases listed with rfl | rfl | rfl | rfl | rfl | rfl
    · exact marks.2.2.1
    · exact marks.2.2.2.1
    · exact marks.2.2.2.2.1
    · exact marks.2.2.2.2.2
    · exact base_symbol salted (by decide)
    · exact base_symbol put (by decide)
  · exact List.cons_ne_nil _ _

theorem ok_of {result : Result α} (found : result.toOption = some value) : result = .ok value := by
  cases result with
  | error error => cases found
  | ok other => exact congrArg Except.ok (Option.some.inj found)

theorem argon_valid {salt output : Text} (salted : BaseText 22 salt) (put : BaseText 43 output) :
    validArgon2Encoding (argonText salt output) = true ∧ argonCosts (argonText salt output) = some (65536,3,1) := by
  have closed := fixed_texts.2.2.2
  obtain ⟨starts,long,bare,one,mark,params,memory,iterations,lanes,memoryMark,iterationsMark,lanesMark⟩ := closed
  have parts := split_argon salted put
  have prefixed : kArgon2Prefix.isPrefixOf (argonText salt output) = true := by
    refine List.isPrefixOf_iff_prefix.mpr (starts.trans ⟨salt ++ Text.of "$" ++ output,?_⟩)
    simp [argonText]
  have sized : (argonText salt output).length = 97 := by
    simp only [argonText,List.length_append,long,one,salted.1,put.1]
  have nul : (argonText salt output).contains 0 = false := by
    have held : 0 ∉ argonText salt output := by
      simp only [argonText,List.mem_append,not_or]
      exact ⟨⟨⟨bare,base_symbol salted (by decide)⟩,mark⟩,base_symbol put (by decide)⟩
    simpa using held
  have names : Text.of "" = [] := by decide
  refine ⟨?_,?_⟩
  · rw [validArgon2Encoding,prefixed,sized,nul,parts]
    simp only [salted.1,put.1,params,memoryMark,iterationsMark,lanesMark,ok_of memory,ok_of iterations,ok_of lanes]
    decide
  · simp only [argonCosts,parts,params,ok_of memory,ok_of iterations,ok_of lanes]

end Encodings

section Hashed
variable {backend : Backend} (hasher : PasswordHasher backend) {password : Text}

def Accepted (password : Text) : Prop := kMinimumPasswordBytes ≤ password.length ∧ password.length ≤ kMaximumPasswordBytes

theorem accepted_length (accepted : Accepted password) :
    ¬(password.length < kMinimumPasswordBytes ∨ password.length > kMaximumPasswordBytes) := by
  rw [not_or,Nat.not_lt,gt_iff_lt,Nat.not_lt]
  exact accepted

theorem hashes_argon (documented : backend.Documented hasher.pepper) (argon : hasher.algorithm = Text.of "argon2id")
    (accepted : Accepted password) : Hashes hasher password := by
  obtain ⟨sodium,linked,ready⟩ := ready_sodium hasher argon
  obtain ⟨digest,prehash⟩ := documented.prehashes password
  have promised := documented.sodium sodium linked
  obtain ⟨salt,salted,put,encoded⟩ := promised.encodes (digestBytes digest)
  obtain ⟨valid,costs⟩ := argon_valid salted put
  have starts := argon_prefix valid
  have length := accepted_length accepted
  have kept : sodium.strNeedsRehash (argonText salt (sodium.argon2id (digestBytes digest) salt)) kArgon2Iterations kArgon2Memory = 0 :=
    (promised.judges _ _ _ _ costs).mpr ⟨promised.reads _ _ salted put,rfl,rfl⟩
  refine ⟨⟨argonText salt (sodium.argon2id (digestBytes digest) salt)⟩,?_,?_,?_,?_⟩
  · simp only [PasswordHasher.hash,argon,if_true,linked,ready,Bool.not_true,Bool.false_eq_true,if_false,length,prehash,encoded]
  · rw [PasswordHash.parse,if_pos valid]
  · have matched := (promised.verifies (digestBytes digest) salt _ salted put).mpr rfl
    simp only [PasswordHasher.verify,starts,if_true,linked,valid,ready,Bool.not_true,Bool.or_self,Bool.false_eq_true,if_false,length,
      prehash,matched]
  · simp only [PasswordHasher.needsRehash,argon,if_true,starts,Bool.not_true,Bool.false_eq_true,if_false,linked,valid,ready,
      Bool.or_self,kept,bne_self_eq_false]

theorem create_again (policy : PasswordPolicy) {salt output : Text} (salted : salt.length = policy.saltBytes.toNat)
    (derived : output.length = policy.derivedBytes.toNat) :
    PasswordPolicy.create policy.cost policy.blockSize policy.parallelism salt.length.toUInt64 output.length.toUInt64
      policy.maximumMemoryBytes = .ok policy := by
  rw [salted,derived,Nat.toUInt64_eq,Nat.toUInt64_eq,UInt64.ofNat_toNat,UInt64.ofNat_toNat]
  simp only [PasswordPolicy.create,policy.bounded,policy.representable,policy.affordable,dite_true,and_self]

theorem policy_sizes (policy : PasswordPolicy) : 16 ≤ policy.saltBytes.toNat ∧ 32 ≤ policy.derivedBytes.toNat := by
  have bounded := policy.bounded
  simp only [withinBounds,Bool.and_eq_true,decide_eq_true_eq,ge_iff_le,UInt64.le_iff_toNat_le,UInt64.reduceToNat] at bounded
  exact ⟨bounded.1.1.2,bounded.1.2⟩

theorem derive_ok (documented : backend.Documented hasher.pepper) (accepted : Accepted password) (salt : Text) :
    ∃ output,derive backend hasher.pepper password salt hasher.policy = .ok output ∧
      output.length = hasher.policy.derivedBytes.toNat := by
  obtain ⟨digest,prehash⟩ := documented.prehashes password
  obtain ⟨output,derived,sized⟩ := documented.derives (digestBytes digest) salt hasher.policy.cost hasher.policy.blockSize
    hasher.policy.parallelism hasher.policy.maximumMemoryBytes hasher.policy.derivedBytes.toNat
  refine ⟨output,?_,sized⟩
  simp only [derive,accepted_length accepted,if_false,prehash,derived]

theorem parse_encoding (policy : PasswordPolicy) (salted : salt ≠ []) (put : output ≠ []) :
    PasswordHash.parse (scryptEncoding policy salt output) = .ok ⟨scryptEncoding policy salt output⟩ := by
  have numerals : ∀ value : Nat,decimal value ≠ [] := by
    intro value
    rw [decimal_nat]
    exact (digits_read value).1
  rw [PasswordHash.parse,split_encoding]
  simp [numerals,toBase64Url_nonempty salted,toBase64Url_nonempty put]

theorem hashes_scrypt (documented : backend.Documented hasher.pepper) (scrypt : hasher.algorithm ≠ Text.of "argon2id")
    (accepted : Accepted password) (drawable : hasher.policy.saltBytes.toNat ≤ 2147483647) : Hashes hasher password := by
  have sizes := policy_sizes hasher.policy
  obtain ⟨salt,drawn,salted⟩ := documented.draws hasher.policy.saltBytes.toNat
  have random : randomBytes backend hasher.policy.saltBytes.toNat = .ok salt := by
    rw [randomBytes,if_neg (by omega),if_neg (by omega),drawn]
  obtain ⟨output,derived,sized⟩ := derive_ok hasher documented accepted salt
  have fields := split_encoding hasher.policy salt output
  have plain := scrypt_plain fields (List.cons_ne_nil _ _)
  have some_salt : salt ≠ [] := by
    intro empty
    rw [empty,List.length_nil] at salted
    omega
  have some_output : output ≠ [] := by
    intro empty
    rw [empty,List.length_nil] at sized
    omega
  refine ⟨⟨scryptEncoding hasher.policy salt output⟩,?_,?_,?_,?_⟩
  · simp only [PasswordHasher.hash,scrypt,if_false,random,derived]
  · exact parse_encoding hasher.policy some_salt some_output
  · rw [PasswordHasher.verify,plain,if_neg Bool.false_ne_true,fields]
    simp [parseUnsigned_decimal,Base64Url.decoded_toBase64Url,create_again hasher.policy salted sized,derived]
  · rw [rehash_scrypt hasher scrypt fields,costFields,fields]
    simp [policyCosts]

theorem undrawable_fails (scrypt : hasher.algorithm ≠ Text.of "argon2id") (large : ¬hasher.policy.saltBytes.toNat ≤ 2147483647) :
    ¬Hashes hasher password := by
  intro hashes
  obtain ⟨stored,made,_⟩ := hashes
  have refused : randomBytes backend hasher.policy.saltBytes.toNat =
      fail .invalidArgument "Requested random byte count is too large." := by
    rw [randomBytes,if_neg (by omega),if_pos (by omega)]
  rw [PasswordHasher.hash,if_neg scrypt,refused] at made
  cases made

theorem hashing_iff {backend : Backend} (hasher : PasswordHasher backend) (documented : backend.Documented hasher.pepper) :
    (∀ password,Accepted password → (Hashes hasher password ↔ Drawable hasher)) ∧
      ∀ encoded stored,PasswordHash.parse encoded = .ok stored →
        (Judges hasher stored ↔ ¬Resized hasher stored.encoded ∧ ¬Respelled hasher stored.encoded) := by
  refine ⟨?_,fun encoded stored accepted => judges_iff hasher documented accepted⟩
  intro password accepted
  by_cases argon : hasher.algorithm = Text.of "argon2id"
  · exact iff_of_true (hashes_argon hasher documented argon accepted) (.inl argon)
  · rw [Drawable]
    by_cases drawable : hasher.policy.saltBytes.toNat ≤ 2147483647
    · exact iff_of_true (hashes_scrypt hasher documented argon accepted drawable) (.inr drawable)
    · exact iff_of_false (undrawable_fails hasher argon drawable) (not_or.mpr ⟨argon,drawable⟩)

end Hashed

section Demonstrations

def demoOutput (material salt : Text) : Text :=
  (List.range 43).map fun position => (65+(material.getD position 0+salt.getD position 0).toNat % 26).toUInt8

def demoSalt : Text := List.replicate 22 (ch 'S')

def demoSodium : Sodium where
  ready := true
  argon2id := demoOutput
  str := fun material _ _ => some (argonText demoSalt (demoOutput material demoSalt))
  strVerify := fun encoded material => encoded.drop 54 == demoOutput material ((encoded.drop 31).take 22)
  strNeedsRehash := fun encoded iterations memory =>
    match argonCosts encoded with
    | some (stored,passes,_) => if passes.toNat = iterations ∧ stored.toNat*1024 = memory then 0 else 1
    | none => -1
  correct := fun encoded => (argonCosts encoded).isSome = true

def demoBackend : Backend where
  hmacSha256 := fun _ _ => .ok 0
  scrypt := fun _ _ _ _ _ _ size => some (List.replicate size 0)
  randBytes := fun count => some (List.replicate count 0)
  sodium := some demoSodium

def saltedPolicy : PasswordPolicy :=
  ⟨32768,8,1,32,32,67108864,rfl,recommended_affordable.1,recommended_affordable.2⟩

def demoPepper : Text := List.replicate 32 (ch 'p')

theorem demo_peppered : kMinimumPepperBytes ≤ demoPepper.length := by decide

def demoHasher : PasswordHasher demoBackend := ⟨demoPepper,saltedPolicy,"scrypt",demo_peppered,.inl rfl⟩

theorem demoOutput_base (material salt : Text) : BaseText 43 (demoOutput material salt) := by
  refine ⟨by simp [demoOutput],?_⟩
  intro symbol inside
  obtain ⟨position,_,rfl⟩ := List.mem_map.mp inside
  have upper : isUpper ((65+(material.getD position 0+salt.getD position 0).toNat % 26).toUInt8) = true := by
    simp only [isUpper,Bool.and_eq_true,decide_eq_true_eq,UInt8.le_iff_toNat_le,Nat.toUInt8_eq,UInt8.toNat_ofNat']
    have first : (ch 'A').toNat = 65 := rfl
    have last : (ch 'Z').toNat = 90 := rfl
    omega
  simp only [isAlnum,upper,Bool.or_true,Bool.true_or]

theorem demo_documented : demoBackend.Documented demoPepper where
  prehashes := fun _ => ⟨0,rfl⟩
  derives := fun _ _ _ _ _ _ size => ⟨List.replicate size 0,rfl,List.length_replicate⟩
  draws := fun count => ⟨List.replicate count 0,rfl,List.length_replicate⟩
  sodium := by
    intro sodium linked
    obtain rfl := Option.some.inj linked
    have salted : BaseText 22 demoSalt := by
      refine ⟨rfl,?_⟩
      intro symbol inside
      rw [List.eq_of_mem_replicate inside]
      decide
    obtain ⟨_,long,_,one,_⟩ := fixed_texts.2.2.2
    refine ⟨?_,?_,?_,?_⟩
    · exact fun material => ⟨demoSalt,salted,demoOutput_base material demoSalt,rfl⟩
    · intro material salt output salted put
      have behind : (argonText salt output).drop 54 = output := by
        have front : (Text.of "$argon2id$v=19$m=65536,t=3,p=1$" ++ salt ++ Text.of "$").length = 54 := by
          simp only [List.length_append,long,one,salted.1]
        rw [argonText,← front,List.drop_left]
      have middle : ((argonText salt output).drop 31).take 22 = salt := by
        rw [argonText,List.append_assoc,List.append_assoc,← long,List.drop_left,← salted.1,List.take_left]
      simp [demoSodium,behind,middle]
    · intro salt output salted put
      simp [demoSodium,(argon_valid salted put).2]
    · intro encoded memory iterations parallelism costs
      simp [demoSodium,costs]

theorem hashing_iff_salted : (∀ password,Accepted password → (Hashes demoHasher password ↔ Drawable demoHasher)) ∧
    ∀ encoded stored,PasswordHash.parse encoded = .ok stored →
      (Judges demoHasher stored ↔ ¬Resized demoHasher stored.encoded ∧ ¬Respelled demoHasher stored.encoded) :=
  hashing_iff demoHasher demo_documented

def shortSalted : Text := scryptEncoding .recommended (List.replicate 16 0) (List.replicate 32 0)

-- A hash with the recommended 16 bytes of salt is kept under a policy that asks for 32.
theorem short_salt_kept : PasswordHash.parse shortSalted = .ok ⟨shortSalted⟩ ∧ demoHasher.needsRehash ⟨shortSalted⟩ = .ok false ∧
    ¬Judges demoHasher ⟨shortSalted⟩ := by
  have scrypt : demoHasher.algorithm ≠ Text.of "argon2id" := by decide
  have fields := split_encoding .recommended (List.replicate 16 0) (List.replicate 32 0)
  have kept : demoHasher.needsRehash ⟨shortSalted⟩ = .ok false := by
    rw [shortSalted,rehash_scrypt demoHasher scrypt fields,costFields,fields]
    simp [policyCosts,demoHasher,saltedPolicy,PasswordPolicy.recommended]
  refine ⟨parse_encoding _ (by decide) (by decide),kept,?_⟩
  intro judges
  rw [Judges,kept,Except.ok.injEq,eq_comm,decide_eq_false_iff_not,not_not,PasswordHasher.parameters,if_neg scrypt] at judges
  have sizes := ((stored_scrypt (scrypt_plain fields (List.cons_ne_nil _ _))).mp judges).2
  rw [scryptSizes,fields] at sizes
  simp only [Base64Url.decoded_toBase64Url,Except.toOption,Option.bind_some,Option.map_some,List.length_replicate] at sizes
  exact absurd sizes (by decide)

end Demonstrations

end OpenProof.PasswordHashes
