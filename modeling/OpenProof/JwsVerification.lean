import OpenProof.Base64Url

namespace OpenProof.JwsVerification
open Foundation Base64Url PasskeyProvider SenderProofs List

-- The calls of OpenSSL: a public key as `PEM_read_bio_PUBKEY` reads it, its kind and size, and
-- `EVP_DigestVerify` with SHA-256 over a message and a signature.
structure OpenSsl where
  Key : Type
  readPublicKey : Text → Option Key
  isRsa : Key → Bool
  bits : Key → Int
  digestVerify : Key → Text → Text → Bool

structure VerifiedCompactJws where
  headerJson : Text
  payloadJson : Text
  deriving DecidableEq

def find (text : Text) (symbol : UInt8) (start : Nat) : Option Nat :=
  ((text.drop start).idxOf? symbol).map (start + ·)

def substr (text : Text) (start count : Nat) : Text := (text.drop start).take count

variable (ssl : OpenSsl)

def verifyRs256WithKey (key : Option ssl.Key) (compactJwt : Text) : Result VerifiedCompactJws :=
  match key with
  | none => fail .invalidArgument "The compact JWS input is invalid."
  | some key =>
    if compactJwt.isEmpty || compactJwt.length > 16*1024 then
      fail .invalidArgument "The compact JWS input is invalid."
    else
      let firstDot := find compactJwt (ch '.') 0
      let secondDot := firstDot.bind fun firstDot => find compactJwt (ch '.') (firstDot+1)
      match firstDot,secondDot with
      | some firstDot,some secondDot =>
        if (find compactJwt (ch '.') (secondDot+1)).isSome || firstDot == 0 || secondDot == firstDot+1
            || secondDot+1 ≥ compactJwt.length then
          fail .authenticationFailed "The compact JWS is malformed."
        else
          match fromBase64Url (substr compactJwt 0 firstDot),
              fromBase64Url (substr compactJwt (firstDot+1) (secondDot-firstDot-1)),
              fromBase64Url (compactJwt.drop (secondDot+1)) with
          | .ok headerBytes,.ok payloadBytes,.ok signature =>
            if signature.isEmpty || headerBytes.length > 4096 || payloadBytes.length > 12*1024 then
              fail .authenticationFailed "The compact JWS encoding is invalid."
            else if !ssl.digestVerify key (substr compactJwt 0 secondDot) signature then
              fail .authenticationFailed "The compact JWS signature is invalid."
            else .ok ⟨headerBytes,payloadBytes⟩
          | _,_,_ => fail .authenticationFailed "The compact JWS encoding is invalid."
      | _,_ => fail .authenticationFailed "The compact JWS is malformed."

-- Here the key is read only after the segments have been decoded.
def verifyRs256Jwt (publicKeyPem compactJwt : Text) : Result VerifiedCompactJws :=
  if publicKeyPem.isEmpty || publicKeyPem.length > 2147483647 || compactJwt.isEmpty || compactJwt.length > 16*1024 then
    fail .invalidArgument "The compact JWS input is invalid."
  else
    let firstDot := find compactJwt (ch '.') 0
    let secondDot := firstDot.bind fun firstDot => find compactJwt (ch '.') (firstDot+1)
    match firstDot,secondDot with
    | some firstDot,some secondDot =>
      if (find compactJwt (ch '.') (secondDot+1)).isSome || firstDot == 0 || secondDot == firstDot+1
          || secondDot+1 ≥ compactJwt.length then
        fail .authenticationFailed "The compact JWS is malformed."
      else
        match fromBase64Url (substr compactJwt 0 firstDot),
            fromBase64Url (substr compactJwt (firstDot+1) (secondDot-firstDot-1)),
            fromBase64Url (compactJwt.drop (secondDot+1)) with
        | .ok headerBytes,.ok payloadBytes,.ok signature =>
          if signature.isEmpty || headerBytes.length > 4096 || payloadBytes.length > 12*1024 then
            fail .authenticationFailed "The compact JWS encoding is invalid."
          else
            match ssl.readPublicKey publicKeyPem with
            | none => fail .invalidArgument "The registered JWS verification key is invalid."
            | some key =>
              if !ssl.isRsa key || ssl.bits key < 2048 then
                fail .invalidArgument "The registered JWS verification key is invalid."
              else if !ssl.digestVerify key (substr compactJwt 0 secondDot) signature then
                fail .authenticationFailed "The compact JWS signature is invalid."
              else .ok ⟨headerBytes,payloadBytes⟩
        | _,_,_ => fail .authenticationFailed "The compact JWS encoding is invalid."
    | _,_ => fail .authenticationFailed "The compact JWS is malformed."

-- The key of a PEM text that `verifyRs256Jwt` does not refuse.
def registeredKey (publicKeyPem : Text) : Option ssl.Key :=
  if publicKeyPem.isEmpty || publicKeyPem.length > 2147483647 then none
  else (ssl.readPublicKey publicKeyPem).filter fun key => ssl.isRsa key && 2048 ≤ ssl.bits key

structure ThreeSegments (text header payload signature : Text) : Prop where
  joined : text = header ++ ch '.' :: (payload ++ ch '.' :: signature)
  headerDotless : ch '.' ∉ header
  payloadDotless : ch '.' ∉ payload
  signatureDotless : ch '.' ∉ signature
  headerNonempty : header ≠ []
  payloadNonempty : payload ≠ []
  signatureNonempty : signature ≠ []

structure Verified (key : ssl.Key) (text header payload signature : Text) (found : VerifiedCompactJws) : Prop where
  fits : text.length ≤ 16*1024
  segments : ThreeSegments text header payload signature
  headerDecoded : fromBase64Url header = .ok found.headerJson
  payloadDecoded : fromBase64Url payload = .ok found.payloadJson
  headerFits : found.headerJson.length ≤ 4096
  payloadFits : found.payloadJson.length ≤ 12*1024
  signed : ∃ bytes,fromBase64Url signature = .ok bytes ∧ bytes ≠ [] ∧
    ssl.digestVerify key (header ++ ch '.' :: payload) bytes = true

theorem first_index (before after : Text) (absent : symbol ∉ before) :
    (before ++ symbol :: after).idxOf? symbol = some before.length := by
  induction before with
  | nil => simp [idxOf?_cons]
  | cons byte before ih =>
    have other : byte ≠ symbol := (ne_of_not_mem_cons absent).symm
    simp [idxOf?_cons,other,ih (not_mem_of_not_mem_cons absent)]

theorem find_some : find text symbol start = some i ↔
    ∃ before after,text.drop start = before ++ symbol :: after ∧ symbol ∉ before ∧ i = start + before.length := by
  constructor
  · intro found
    obtain ⟨k,index,rfl⟩ := Option.map_eq_some_iff.mp found
    have listed : symbol ∈ text.drop start := isSome_idxOf?.mp (by rw [index]; rfl)
    obtain ⟨before,after,split,absent⟩ := eq_append_cons_of_mem listed
    rw [split,first_index before after absent] at index
    exact ⟨before,after,split,absent,by rw [Option.some.inj index]⟩
  · rintro ⟨before,after,split,absent,rfl⟩
    rw [find,split,first_index before after absent,Option.map_some]

theorem find_none : find text symbol start = none ↔ symbol ∉ text.drop start := by
  rw [find,Option.map_eq_none_iff,idxOf?_eq_none_iff]

-- What the checks on the positions of the dots establish.
structure Dots (text : Text) (firstDot secondDot : Nat) : Prop where
  first : find text (ch '.') 0 = some firstDot
  second : find text (ch '.') (firstDot+1) = some secondDot
  last : find text (ch '.') (secondDot+1) = none
  headerNonempty : firstDot ≠ 0
  payloadNonempty : secondDot ≠ firstDot+1
  signatureNonempty : secondDot+1 < text.length

theorem after_first (header rest : Text) : (header ++ ch '.' :: rest).drop (header.length+1) = rest := by
  rw [append_cons,drop_left' (by simp)]

theorem after_second (header payload rest : Text) :
    (header ++ ch '.' :: (payload ++ ch '.' :: rest)).drop (header.length+1+payload.length+1) = rest := by
  rw [Nat.add_assoc,← drop_drop,after_first,after_first]

theorem ThreeSegments.dots (segments : ThreeSegments text header payload signature) :
    Dots text header.length (header.length+1+payload.length) := by
  obtain ⟨rfl,headerDotless,payloadDotless,signatureDotless,headerNonempty,payloadNonempty,signatureNonempty⟩ := segments
  have headerSome := length_pos_iff.mpr headerNonempty
  have payloadSome := length_pos_iff.mpr payloadNonempty
  have signatureSome := length_pos_iff.mpr signatureNonempty
  refine ⟨?_,?_,?_,by omega,by omega,?_⟩
  · exact find_some.mpr ⟨header,_,drop_zero,headerDotless,by omega⟩
  · exact find_some.mpr ⟨payload,_,after_first header _,payloadDotless,rfl⟩
  · exact find_none.mpr (by rwa [after_second])
  · simp only [length_append,length_cons]
    omega

theorem ThreeSegments.pieces (segments : ThreeSegments text header payload signature) :
    substr text 0 header.length = header ∧
      substr text (header.length+1) (header.length+1+payload.length-header.length-1) = payload ∧
      text.drop (header.length+1+payload.length+1) = signature ∧
      substr text 0 (header.length+1+payload.length) = header ++ ch '.' :: payload := by
  obtain ⟨rfl⟩ := segments
  have count : header.length+1+payload.length-header.length-1 = payload.length := by omega
  have input : header ++ ch '.' :: (payload ++ ch '.' :: signature) = header ++ ch '.' :: payload ++ ch '.' :: signature := by
    simp
  refine ⟨?_,?_,after_second header payload signature,?_⟩
  · rw [substr,drop_zero,take_left]
  · rw [substr,after_first,count,take_left]
  · rw [substr,drop_zero,input,take_left' (by simp; omega)]

theorem Dots.split (dots : Dots text firstDot secondDot) : ∃ header payload signature,
    ThreeSegments text header payload signature ∧ firstDot = header.length ∧ secondDot = header.length+1+payload.length := by
  obtain ⟨first,second,last,headerNonempty,payloadNonempty,signatureNonempty⟩ := dots
  obtain ⟨header,after,split,headerDotless,rfl⟩ := find_some.mp first
  rw [drop_zero] at split
  subst split
  rw [Nat.zero_add] at *
  obtain ⟨payload,signature,again,payloadDotless,rfl⟩ := find_some.mp second
  rw [after_first] at again
  subst again
  have signatureDotless := find_none.mp last
  rw [after_second] at signatureDotless
  refine ⟨header,payload,signature,⟨rfl,headerDotless,payloadDotless,signatureDotless,?_,?_,?_⟩,rfl,rfl⟩
  · rintro rfl
    exact headerNonempty rfl
  · rintro rfl
    exact payloadNonempty rfl
  · rintro rfl
    simp only [length_append,length_cons,length_nil] at signatureNonempty
    omega

theorem verifyRs256WithKey_ok : verifyRs256WithKey ssl key compactJwt = .ok found ↔
      ∃ known header payload signature,key = some known ∧ Verified ssl known compactJwt header payload signature found := by
  constructor
  · intro accepted
    unfold verifyRs256WithKey at accepted
    split at accepted
    · cases accepted
    rename_i known
    split at accepted
    · cases accepted
    rename_i sized
    dsimp only at accepted
    split at accepted
    · rename_i firstDot secondDot first second
      rw [first,Option.bind_some] at second
      split at accepted
      · cases accepted
      rename_i shaped
      have checks : find compactJwt (ch '.') (secondDot+1) = none ∧ firstDot ≠ 0 ∧ secondDot ≠ firstDot+1 ∧
          secondDot+1 < compactJwt.length := by
        simpa [and_assoc] using shaped
      obtain ⟨last,headerNonempty,payloadNonempty,signatureNonempty⟩ := checks
      have dots : Dots compactJwt firstDot secondDot :=
        ⟨first,second,last,headerNonempty,payloadNonempty,signatureNonempty⟩
      obtain ⟨header,payload,signature,segments,rfl,rfl⟩ := dots.split
      obtain ⟨headerPiece,payloadPiece,signaturePiece,input⟩ := segments.pieces
      rw [headerPiece,payloadPiece,signaturePiece,input] at accepted
      split at accepted
      · rename_i headerBytes payloadBytes bytes headerDecoded payloadDecoded decoded
        split at accepted
        · cases accepted
        rename_i limits
        split at accepted
        · cases accepted
        rename_i passed
        cases accepted
        have bounds : bytes ≠ [] ∧ headerBytes.length ≤ 4096 ∧ payloadBytes.length ≤ 12*1024 := by
          simpa [and_assoc] using limits
        have size : compactJwt.length ≤ 16*1024 := by
          simp only [Bool.or_eq_true,decide_eq_true_eq,not_or,Nat.not_lt] at sized
          exact sized.2
        exact ⟨known,header,payload,signature,rfl,size,segments,headerDecoded,payloadDecoded,bounds.2.1,bounds.2.2,
          bytes,decoded,bounds.1,by simpa using passed⟩
      · cases accepted
    · cases accepted
  · rintro ⟨known,header,payload,signature,rfl,verified⟩
    obtain ⟨fits,segments,headerDecoded,payloadDecoded,headerFits,payloadFits,bytes,decoded,signed,passed⟩ := verified
    obtain ⟨headerPiece,payloadPiece,signaturePiece,input⟩ := segments.pieces
    obtain ⟨first,second,last,headerNonempty,payloadNonempty,signatureNonempty⟩ := segments.dots
    have some_ : compactJwt ≠ [] := by
      rintro rfl
      simp at signatureNonempty
    simp only [verifyRs256WithKey,first,Option.bind_some,second,last,headerPiece,payloadPiece,signaturePiece,input,
      headerDecoded,payloadDecoded,decoded,passed]
    simp [some_,headerNonempty,segments.payloadNonempty,signatureNonempty,signed,Nat.not_lt.mpr fits,Nat.not_lt.mpr headerFits,
      Nat.not_lt.mpr payloadFits]

-- Both paths read the same text alike: with a registered key they agree, errors included.
theorem verifyRs256Jwt_eq (registered : registeredKey ssl publicKeyPem = some key) :
    verifyRs256Jwt ssl publicKeyPem compactJwt = verifyRs256WithKey ssl (some key) compactJwt := by
  unfold registeredKey at registered
  split at registered
  · cases registered
  rename_i sized
  obtain ⟨read,strong⟩ := Option.filter_eq_some_iff.mp registered
  have weak : (!ssl.isRsa key || ssl.bits key < 2048) = false := by
    simpa [Int.not_lt] using strong
  simp only [Bool.not_eq_true] at sized
  simp only [verifyRs256Jwt,verifyRs256WithKey,sized,Bool.false_or,read,weak,Bool.false_eq_true,if_false]

theorem verifyRs256Jwt_unregistered (unregistered : registeredKey ssl publicKeyPem = none) :
    verifyRs256Jwt ssl publicKeyPem compactJwt ≠ .ok found := by
  intro accepted
  unfold verifyRs256Jwt at accepted
  split at accepted
  · cases accepted
  rename_i sized
  simp only [Bool.or_eq_true,not_or] at sized
  dsimp only at accepted
  split at accepted
  · split at accepted
    · cases accepted
    split at accepted
    · split at accepted
      · cases accepted
      split at accepted
      · cases accepted
      split at accepted
      · cases accepted
      rename_i key read weak
      have registered : registeredKey ssl publicKeyPem = some key := by
        rw [registeredKey,if_neg (by simpa using sized.1.1),read]
        simpa [Option.filter,Int.not_lt] using weak
      rw [unregistered] at registered
      cases registered
    · cases accepted
  · cases accepted

theorem ThreeSegments.header_eq (segments : ThreeSegments text header payload signature) :
    header = text.takeWhile (· != ch '.') := by
  obtain ⟨rfl,headerDotless⟩ := segments
  rw [takeWhile_append_of_pos]
  · simp
  · intro byte listed
    simpa using ne_of_mem_of_not_mem listed headerDotless

-- A segment is the base64url encoding of what it decodes to, up to `=` signs behind it.
def Canonical (segment : Text) : Prop := ∃ bytes,unpadded segment = toBase64Url bytes

theorem Verified.canonical (verified : Verified ssl key text header payload signature found) :
    ∀ segment ∈ [header,payload,signature],Canonical segment := by
  obtain ⟨bytes,decoded,_⟩ := verified.signed
  intro segment listed
  simp only [mem_cons,not_mem_nil,or_false] at listed
  rcases listed with rfl | rfl | rfl
  · exact ⟨_,unpadded_canonical verified.headerDecoded⟩
  · exact ⟨_,unpadded_canonical verified.payloadDecoded⟩
  · exact ⟨_,unpadded_canonical decoded⟩

-- The two paths of `security`: one key, one reading of every text.
theorem rs256_paths_agree (publicKeyPem compactJwt : Text) : (∀ key,registeredKey ssl publicKeyPem = some key →
      verifyRs256Jwt ssl publicKeyPem compactJwt = verifyRs256WithKey ssl (some key) compactJwt) ∧
    (∀ found,verifyRs256Jwt ssl publicKeyPem compactJwt = .ok found ↔ ∃ key header payload signature,
      registeredKey ssl publicKeyPem = some key ∧ Verified ssl key compactJwt header payload signature found) ∧
    (∀ key found,verifyRs256WithKey ssl key compactJwt = .ok found ↔ ∃ known header payload signature,
      key = some known ∧ Verified ssl known compactJwt header payload signature found) ∧
    ((¬∃ header payload signature,ThreeSegments compactJwt header payload signature ∧
        ∀ segment ∈ [header,payload,signature],Canonical segment) →
      (∃ e,verifyRs256Jwt ssl publicKeyPem compactJwt = .error e) ∧
        ∀ key,∃ e,verifyRs256WithKey ssl key compactJwt = .error e) := by
  have registered : ∀ found,verifyRs256Jwt ssl publicKeyPem compactJwt = .ok found ↔ ∃ key header payload signature,
      registeredKey ssl publicKeyPem = some key ∧ Verified ssl key compactJwt header payload signature found := by
    intro found
    cases known : registeredKey ssl publicKeyPem with
    | none => simp [verifyRs256Jwt_unregistered ssl known]
    | some key =>
      rw [verifyRs256Jwt_eq ssl known,verifyRs256WithKey_ok]
  refine ⟨fun key known => verifyRs256Jwt_eq ssl known,registered,fun key found => verifyRs256WithKey_ok ssl,?_⟩
  intro unsegmented
  constructor
  · cases outcome : verifyRs256Jwt ssl publicKeyPem compactJwt with
    | error e => exact ⟨e,rfl⟩
    | ok found =>
      obtain ⟨key,header,payload,signature,_,verified⟩ := (registered found).mp outcome
      exact (unsegmented ⟨header,payload,signature,verified.segments,verified.canonical ssl⟩).elim
  · intro key
    cases outcome : verifyRs256WithKey ssl key compactJwt with
    | error e => exact ⟨e,rfl⟩
    | ok found =>
      obtain ⟨known,header,payload,signature,_,verified⟩ := (verifyRs256WithKey_ok ssl).mp outcome
      exact (unsegmented ⟨header,payload,signature,verified.segments,verified.canonical ssl⟩).elim

def sampleSignature : Text := List.replicate 256 1

def sampleSsl : OpenSsl where
  Key := Unit
  readPublicKey pem := if pem == Text.of "-----BEGIN PUBLIC KEY-----" then some () else none
  isRsa _ := true
  bits _ := 2048
  digestVerify _ message signature := message == Text.of "e30=.e30" && signature == sampleSignature

theorem padded_header_verified : ¬∀ (ssl : OpenSsl) (publicKeyPem compactJwt : Text) (found : VerifiedCompactJws),
    verifyRs256Jwt ssl publicKeyPem compactJwt = .ok found →
    ∃ header payload signature,ThreeSegments compactJwt header payload signature ∧
      ∀ segment ∈ [header,payload,signature],∃ bytes,segment = toBase64Url bytes := by
  intro claimed
  have registered : registeredKey sampleSsl "-----BEGIN PUBLIC KEY-----" = some () := rfl
  have facts : fromBase64Url "e30=" = .ok "\x7b\x7d" ∧ fromBase64Url "e30" = .ok "\x7b\x7d" ∧
      ch '.' ∉ toBase64Url sampleSignature ∧ toBase64Url sampleSignature ≠ [] ∧ (toBase64Url sampleSignature).length < 16000 := by
    decide +kernel
  obtain ⟨padded,plain,dotless,nonempty,short⟩ := facts
  have passed : sampleSsl.digestVerify () (Text.of "e30=" ++ ch '.' :: Text.of "e30") sampleSignature = true := by
    simp only [sampleSsl,BEq.rfl,Bool.and_true]
    rfl
  have verified : Verified sampleSsl () (Text.of "e30=" ++ ch '.' :: (Text.of "e30" ++ ch '.' :: toBase64Url sampleSignature))
      "e30=" "e30" (toBase64Url sampleSignature) ⟨"\x7b\x7d","\x7b\x7d"⟩ :=
    { fits := by
        have four : (Text.of "e30=").length = 4 := rfl
        have three : (Text.of "e30").length = 3 := rfl
        simp only [List.length_append,List.length_cons]
        omega
      segments := ⟨rfl,by decide,by decide,dotless,by decide,by decide,nonempty⟩
      headerDecoded := padded
      payloadDecoded := plain
      headerFits := by decide
      payloadFits := by decide
      signed := ⟨sampleSignature,decoded_toBase64Url _,List.cons_ne_nil _ _,passed⟩ }
  have accepted := (verifyRs256WithKey_ok sampleSsl).mpr ⟨(),_,_,_,rfl,verified⟩
  rw [← verifyRs256Jwt_eq sampleSsl registered] at accepted
  obtain ⟨header,payload,signature,segments,canonical⟩ := claimed _ _ _ _ accepted
  obtain ⟨bytes,spelled⟩ := canonical header (by simp)
  have first := segments.header_eq
  rw [← verified.segments.header_eq,spelled] at first
  have unpads := unpadded_canonical (decoded_toBase64Url bytes)
  rw [first] at unpads
  exact absurd unpads (by decide)

end OpenProof.JwsVerification
