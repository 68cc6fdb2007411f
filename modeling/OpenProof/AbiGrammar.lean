import Mathlib.Algebra.Group.Nat.Defs
import Mathlib.Data.List.Induction

namespace OpenProof.AbiGrammar

-- The contract ABI of Solidity, for tuples of addresses, words, unsigned integers and byte strings.
abbrev Bytes := List UInt8

section Words

def bigEndian : Nat → Nat → Bytes
  | 0,_ => []
  | size+1,n => bigEndian size (n/256) ++ [(n % 256).toUInt8]

def number (bytes : Bytes) : Nat := bytes.foldl (fun n byte => n*256+byte.toNat) 0

abbrev wordLimit : Nat := 115792089237316195423570985008687907853269984665640564039457584007913129639936

def zeros (count : Nat) : Bytes := List.replicate count 0

@[simp] theorem zeros_length (count : Nat) : (zeros count).length = count := List.length_replicate

@[simp] theorem bigEndian_length (size n : Nat) : (bigEndian size n).length = size := by
  induction size generalizing n with
  | zero => rfl
  | succ size ih => rw [bigEndian,List.length_append,ih,List.length_singleton]

theorem number_snoc {byte : UInt8} : number (front ++ [byte]) = number front*256+byte.toNat := by
  simp [number]

theorem number_append (front back : Bytes) : number (front ++ back) = number front*256^back.length+number back := by
  induction back using List.reverseRecOn with
  | nil => simp [number]
  | append_singleton back byte ih =>
    rw [← List.append_assoc,number_snoc,ih,number_snoc,List.length_append,List.length_singleton,Nat.pow_succ,Nat.add_mul,
      Nat.mul_assoc,Nat.add_assoc]

theorem number_bigEndian : number (bigEndian size n) = n % 256^size := by
  induction size generalizing n with
  | zero => simp [bigEndian,number,Nat.mod_one]
  | succ size ih =>
    have byte : ((n % 256).toUInt8).toNat = n % 256 := by
      rw [Nat.toUInt8_eq,UInt8.toNat_ofNat']
      omega
    rw [bigEndian,number_snoc,ih,byte,Nat.pow_succ',Nat.mod_mul]
    omega

theorem number_word (small : n < wordLimit) : number (bigEndian 32 n) = n := by
  have limit : 256^32 = wordLimit := rfl
  rw [number_bigEndian,limit,Nat.mod_eq_of_lt small]

end Words

section Arguments

inductive AbiType where
  | address
  | bytes32
  | uint256
  | bytes
  deriving DecidableEq

-- An argument is one of its type by its shape.
inductive Argument where
  | address (account : {bytes : Bytes // bytes.length = 20})
  | bytes32 (word : {bytes : Bytes // bytes.length = 32})
  | uint256 (value : {n : Nat // n < wordLimit})
  | bytes (content : Bytes)

def Argument.type : Argument → AbiType
  | .address _ => .address
  | .bytes32 _ => .bytes32
  | .uint256 _ => .uint256
  | .bytes _ => .bytes

def padding (length : Nat) : Nat := (32-length % 32) % 32

def Argument.head : Argument → Nat → Bytes
  | .address account,_ => zeros 12 ++ account.val
  | .bytes32 word,_ => word.val
  | .uint256 value,_ => bigEndian 32 value.val
  | .bytes _,offset => bigEndian 32 offset

def Argument.tail : Argument → Bytes
  | .bytes content => bigEndian 32 content.length ++ content ++ zeros (padding content.length)
  | _ => []

def heads (offset : Nat) : List Argument → Bytes
  | [] => []
  | argument :: rest => argument.head offset ++ heads (offset+argument.tail.length) rest

def tails (arguments : List Argument) : Bytes := arguments.flatMap Argument.tail

def encode (arguments : List Argument) : Bytes := heads (32*arguments.length) arguments ++ tails arguments

def slice (data : Bytes) (start length : Nat) : Option Bytes :=
  if start+length ≤ data.length then some ((data.drop start).take length) else none

def readArgument (data word : Bytes) : AbiType → Option Argument
  | .address =>
    if shape : (word.drop 12).length = 20 ∧ word.take 12 = zeros 12 then some (.address ⟨word.drop 12,shape.1⟩) else none
  | .bytes32 => if shape : word.length = 32 then some (.bytes32 ⟨word,shape⟩) else none
  | .uint256 => if small : number word < wordLimit then some (.uint256 ⟨number word,small⟩) else none
  | .bytes => do
    let length ← slice data (number word) 32
    let content ← slice data (number word+32) (number length)
    let filling ← slice data (number word+32+number length) (padding (number length))
    if filling = zeros (padding (number length)) then some (.bytes content) else none

def decodeFrom (data : Bytes) (position : Nat) : List AbiType → Option (List Argument)
  | [] => some []
  | type :: rest => do
    let word ← slice data position 32
    let argument ← readArgument data word type
    let arguments ← decodeFrom data (position+32) rest
    some (argument :: arguments)

def decode (types : List AbiType) (data : Bytes) : Option (List Argument) := decodeFrom data 0 types

end Arguments

section RoundTrip

theorem head_length (argument : Argument) (offset : Nat) : (argument.head offset).length = 32 := by
  cases argument with
  | address account => simp [Argument.head,account.property]
  | bytes32 word => exact word.property
  | uint256 | bytes => exact bigEndian_length 32 _

theorem slice_middle (before : front.length = start) (size : middle.length = length) :
    slice (front ++ (middle ++ back)) start length = some middle := by
  subst before size
  simp [slice]

theorem readArgument_head (argument : Argument) (small : (front ++ (argument.tail ++ back)).length < wordLimit) :
    readArgument (front ++ (argument.tail ++ back)) (argument.head front.length) argument.type = some argument := by
  cases argument with
  | address account =>
    have shape : (((zeros 12 ++ account.val).drop 12).length = 20) ∧ (zeros 12 ++ account.val).take 12 = zeros 12 := by
      constructor
      · simp [account.property]
      · exact List.take_left' (zeros_length 12)
    have rest : (zeros 12 ++ account.val).drop 12 = account.val := List.drop_left' (zeros_length 12)
    simp only [readArgument,Argument.type,Argument.head,dif_pos shape,rest]
  | bytes32 word => simp [readArgument,Argument.type,Argument.head,word.property]
  | uint256 value =>
    have same := number_word value.property
    simp [readArgument,Argument.type,Argument.head,same,value.property]
  | bytes content =>
    have sizes := small
    simp only [Argument.tail,List.length_append,bigEndian_length,zeros_length] at sizes
    have offset : number (bigEndian 32 front.length) = front.length := number_word (by omega)
    have length : number (bigEndian 32 content.length) = content.length := number_word (by omega)
    let word := bigEndian 32 content.length
    let filling := zeros (padding content.length)
    have whole : front ++ ((Argument.bytes content).tail ++ back) = front ++ (word ++ (content ++ (filling ++ back))) := by
      simp [Argument.tail,word,filling]
    have first : slice (front ++ (word ++ (content ++ (filling ++ back)))) front.length 32 = some word :=
      slice_middle rfl (bigEndian_length 32 _)
    have second : slice (front ++ (word ++ (content ++ (filling ++ back)))) (front.length+32) content.length = some content := by
      rw [← List.append_assoc]
      exact slice_middle (by simp [word]) rfl
    have third : slice (front ++ (word ++ (content ++ (filling ++ back)))) (front.length+32+content.length)
        (padding content.length) = some filling := by
      rw [← List.append_assoc,← List.append_assoc]
      exact slice_middle (by simp [word,Nat.add_assoc]) (zeros_length _)
    rw [whole]
    simp only [readArgument,Argument.type,Argument.head,offset,bind,Option.bind,first,show number word = content.length from length,second,third,
      if_pos (show filling = zeros (padding content.length) from rfl)]

theorem heads_length : (heads offset arguments).length = 32*arguments.length := by
  induction arguments generalizing offset with
  | nil => rfl
  | cons argument rest ih =>
    rw [heads,List.length_append,head_length,ih,List.length_cons]
    omega

theorem decodeFrom_heads (arguments : List Argument) (before written : Bytes) (small : data.length < wordLimit)
    (whole : data = before ++ (heads offset arguments ++ (written ++ tails arguments)))
    (place : offset = before.length+32*arguments.length+written.length) :
    decodeFrom data before.length (arguments.map Argument.type) = some arguments := by
  induction arguments generalizing before written offset with
  | nil => rfl
  | cons argument rest ih =>
    let word := argument.head offset
    let others := heads (offset+argument.tail.length) rest
    have size : word.length = 32 := head_length argument offset
    have moved : data = (before ++ word) ++ (others ++ ((written ++ argument.tail) ++ tails rest)) := by
      rw [whole]
      simp [heads,tails,word,others]
    have later : offset+argument.tail.length = (before ++ word).length+32*rest.length+(written ++ argument.tail).length := by
      simp only [place,List.length_append,List.length_cons,size]
      omega
    have next := ih (before ++ word) (written ++ argument.tail) moved later
    have cut : slice data before.length 32 = some word := by
      rw [moved,List.append_assoc]
      exact slice_middle rfl size
    have pointed : data = (before ++ (word ++ (others ++ written))) ++ (argument.tail ++ tails rest) := by
      rw [moved]
      simp
    have front : (before ++ (word ++ (others ++ written))).length = offset := by
      simp only [place,List.length_append,List.length_cons,size,others,heads_length]
      omega
    have read : readArgument data word argument.type = some argument := by
      rw [pointed] at small ⊢
      have read := readArgument_head argument small
      rw [front] at read
      exact read
    rw [List.length_append,size] at next
    simp only [List.map_cons,decodeFrom,cut,read,next,bind,Option.bind]

theorem decode_encode (arguments : List Argument) (small : (encode arguments).length < wordLimit) :
    decode (arguments.map Argument.type) (encode arguments) = some arguments :=
  decodeFrom_heads arguments [] [] small rfl (by simp)

end RoundTrip

end OpenProof.AbiGrammar
