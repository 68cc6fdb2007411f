import Mathlib.Data.List.GetD
import Mathlib.Tactic.FinCases
import OpenProof.KeccakSponge
import OpenProof.Web3Texts

namespace OpenProof.Keccak
open Foundation KeccakSponge Web3Texts

structure Five (α : Type) where
  a0 : α
  a1 : α
  a2 : α
  a3 : α
  a4 : α

namespace Five
variable {α : Type}

def of (f : Fin 5 → α) : Five α := ⟨f 0,f 1,f 2,f 3,f 4⟩

def get (five : Five α) : Fin 5 → α
  | 0 => five.a0
  | 1 => five.a1
  | 2 => five.a2
  | 3 => five.a3
  | 4 => five.a4

def set (five : Five α) (x : Fin 5) (a : α) : Five α :=
  match x with
  | 0 => { five with a0 := a }
  | 1 => { five with a1 := a }
  | 2 => { five with a2 := a }
  | 3 => { five with a3 := a }
  | 4 => { five with a4 := a }

end Five

-- `std::array<std::uint64_t, 25>` in rows of five: the lane at `x + 5U * y` stands in row `y`.
abbrev Lanes := Five (Five UInt64)

namespace Lanes

def of (f : Fin 5 → Fin 5 → UInt64) : Lanes := Five.of fun y => Five.of fun x => f x y
def get (state : Lanes) (x y : Fin 5) : UInt64 := (Five.get state y).get x
def set (state : Lanes) (x y : Fin 5) (value : UInt64) : Lanes := Five.set state y ((Five.get state y).set x value)
def zero : Lanes := .of fun _ _ => 0

end Lanes

def rotateLeft64 (value : UInt64) (shift : Nat) : UInt64 :=
  if shift = 0 then value else .ofBitVec (value.toBitVec.rotateLeft shift)

def roundConstants : List UInt64 :=
  [0x0000000000000001,0x0000000000008082,
    0x800000000000808a,0x8000000080008000,
    0x000000000000808b,0x0000000080000001,
    0x8000000080008081,0x8000000000008009,
    0x000000000000008a,0x0000000000000088,
    0x0000000080008009,0x000000008000000a,
    0x000000008000808b,0x800000000000008b,
    0x8000000000008089,0x8000000000008003,
    0x8000000000008002,0x8000000000000080,
    0x000000000000800a,0x800000008000000a,
    0x8000000080008081,0x8000000000008080,
    0x0000000080000001,0x8000000080008008]

def rotation : Five (Five Nat) :=
  ⟨⟨ 0, 1,62,28,27⟩,
   ⟨36,44, 6,55,20⟩,
   ⟨ 3,10,43,25,39⟩,
   ⟨41,45,15,21, 8⟩,
   ⟨18, 2,61,56,14⟩⟩

def columns (state : Lanes) : Five UInt64 := .of fun x =>
  state.get x 0 ^^^ state.get x 1 ^^^ state.get x 2 ^^^ state.get x 3 ^^^ state.get x 4

def delta (columns : Five UInt64) : Five UInt64 := .of fun x =>
  columns.get (x+4) ^^^ rotateLeft64 (columns.get (x+1)) 1

def mixed (state : Lanes) (delta : Five UInt64) : Lanes := .of fun x y => state.get x y ^^^ delta.get x

def positions : List (Fin 5 × Fin 5) := (List.finRange 5).flatMap fun y => (List.finRange 5).map fun x => (x,y)

def permuted (state : Lanes) : Lanes :=
  positions.foldl (fun permuted (x,y) =>
    permuted.set y (2*x + 3*y) (rotateLeft64 (state.get x y) ((rotation.get y).get x))) .zero

def combined (permuted : Lanes) : Lanes := .of fun x y =>
  permuted.get x y ^^^ (~~~permuted.get (x+1) y &&& permuted.get (x+2) y)

def keccakRound (state : Lanes) (roundConstant : UInt64) : Lanes :=
  let state := combined (permuted (mixed state (delta (columns state))))
  state.set 0 0 (state.get 0 0 ^^^ roundConstant)

def keccakF1600 (state : Lanes) : Lanes := roundConstants.foldl keccakRound state

def loadLittleEndian64 (input : Text) : UInt64 :=
  (List.range 8).foldl (fun value index => value ||| ((input.getD index 0).toUInt64 <<< (index*8).toUInt64)) 0

abbrev rateBytes : Nat := 136

-- `state[lane]`, where the lanes are counted through.
def laneAt (lane : Nat) : Fin 5 × Fin 5 := (Fin.ofNat 5 lane,Fin.ofNat 5 (lane/5))

def absorb (state : Lanes) (block : Text) : Lanes :=
  keccakF1600 ((List.range (rateBytes/8)).foldl (fun state lane =>
    let (x,y) := laneAt lane
    state.set x y (state.get x y ^^^ loadLittleEndian64 ((block.drop (lane*8)).take 8))) state)

def absorbWhole (state : Lanes) (input : Text) : Lanes × Text :=
  if rateBytes ≤ input.length then absorbWhole (absorb state (input.take rateBytes)) (input.drop rateBytes)
  else (state,input)
termination_by input.length
decreasing_by
  have positive : 0 < rateBytes := by decide
  rw [List.length_drop]
  omega

def finalBlock (input : Text) : Text :=
  ((input ++ List.replicate (rateBytes-input.length) 0).modify input.length (· ^^^ 0x01)).modify (rateBytes-1) (· ^^^ 0x80)

def digestByte (state : Lanes) (index : Nat) : UInt8 :=
  let (x,y) := laneAt (index/8)
  ((state.get x y >>> (index % 8*8).toUInt64) &&& 0xff).toUInt8

def keccak256Raw (input : Text) : Text :=
  let (state,input) := absorbWhole .zero input
  (List.range 32).map (digestByte (absorb state (finalBlock input)))

def selfTestPassed : Bool :=
  encodeHex (keccak256Raw []) false == Text.of "c5d2460186f7233c927e7db2dcc703c0e500b653ca82273b7bfad8045d85a470" &&
    encodeHex (keccak256Raw (Text.of "hello")) false ==
      Text.of "1c8aff950685c2ed4bc3174f3472287b56d9517b9c948127319a09a7a36deac8"

def keccak256 (input : Text) : Result Text :=
  if !selfTestPassed then fail .internal "The built-in Keccak-256 self-test failed." else .ok (keccak256Raw input)

section Permutation

theorem Five.get_of {α : Type} (f : Fin 5 → α) (x : Fin 5) : (Five.of f).get x = f x := by
  fin_cases x <;> rfl

theorem Five.get_set {α : Type} (five : Five α) (x i : Fin 5) (a : α) :
    (five.set x a).get i = if i = x then a else five.get i := by
  fin_cases x <;> fin_cases i <;> rfl

variable (state : Lanes) (x y : Fin 5) (z : Fin 64)

@[simp] theorem Lanes.get_of (f : Fin 5 → Fin 5 → UInt64) : (Lanes.of f).get x y = f x y := by
  rw [Lanes.get,Lanes.of,Five.get_of,Five.get_of]

theorem Lanes.get_set (i j : Fin 5) (value : UInt64) :
    (state.set i j value).get x y = if x = i ∧ y = j then value else state.get x y := by
  rw [Lanes.get,Lanes.set,Five.get_set]
  by_cases row : y = j
  · subst row
    rw [if_pos rfl,Five.get_set]
    simp [Lanes.get]
  · simp [Lanes.get,row]

def bits (state : Lanes) : State := fun x y z => (state.get x y).toBitVec.getLsbD z

theorem rotateLeft64_bit :
    (rotateLeft64 value shift).toBitVec.getLsbD z = value.toBitVec.getLsbD (z - Fin.ofNat 64 shift : Fin 64) := by
  unfold rotateLeft64
  split
  · rename_i none
    simp [none]
  · have before := z.isLt
    have moved : (z - Fin.ofNat 64 shift : Fin 64).val = (64 - shift % 64 + z.val) % 64 := rfl
    rw [moved]
    rw [BitVec.getLsbD_rotateLeft]
    by_cases wrapped : z.val < shift % 64
    · simp only [wrapped,decide_true,cond_true]
      congr 1
      omega
    · simp only [wrapped,decide_false,cond_false,before,decide_true,Bool.true_and]
      congr 1
      omega

theorem columns_bit : ((columns state).get x).toBitVec.getLsbD z = parity (bits state) x z := by
  simp only [columns,Five.get_of,parity,bits,UInt64.toBitVec_xor,BitVec.getLsbD_xor]

theorem mixed_bits : bits (mixed state (delta (columns state))) = theta (bits state) := by
  funext x y z
  have before : x+4 = x-1 := by
    revert x
    decide
  have one : (z - Fin.ofNat 64 1 : Fin 64) = z - 1 := rfl
  simp only [bits,mixed,Lanes.get_of,delta,Five.get_of,UInt64.toBitVec_xor,BitVec.getLsbD_xor,rotateLeft64_bit,columns_bit,theta,
    before,one]

theorem moved_from : ∀ i j x y : Fin 5,(x = j ∧ y = 2*i+3*j) ↔ (i,j) = (x+3*y,x) := by decide

theorem scattered (values : Fin 5 → Fin 5 → UInt64) (sources : List (Fin 5 × Fin 5)) (start : Lanes) :
    (sources.foldl (fun (permuted : Lanes) (i,j) => permuted.set j (2*i+3*j) (values i j)) start).get x y =
      if (x+3*y,x) ∈ sources then values (x+3*y) x else start.get x y := by
  induction sources generalizing start with
  | nil => simp
  | cons source sources ih =>
    obtain ⟨i,j⟩ := source
    rw [List.foldl_cons,ih,Lanes.get_set]
    by_cases later : (x+3*y,x) ∈ sources
    · rw [if_pos later,if_pos (List.mem_cons_of_mem _ later)]
    · by_cases here : x = j ∧ y = 2*i+3*j
      · have same := (moved_from i j x y).mp here
        obtain ⟨rfl,rfl⟩ := Prod.mk.inj same
        rw [if_neg later,if_pos here,if_pos List.mem_cons_self]
      · have apart : (x+3*y,x) ≠ (i,j) := fun same => here ((moved_from i j x y).mpr same.symm)
        rw [if_neg later,if_neg here,if_neg (by simp [apart,later])]

theorem permuted_get : (permuted state).get x y =
    rotateLeft64 (state.get (x+3*y) x) ((rotation.get x).get (x+3*y)) := by
  have every : ∀ i j : Fin 5,(i,j) ∈ positions := by decide
  have placed := scattered x y (fun i j => rotateLeft64 (state.get i j) ((rotation.get j).get i)) positions .zero
  rw [if_pos (every _ _)] at placed
  exact placed

theorem rotation_offset : ∀ x y : Fin 5,Fin.ofNat 64 ((rotation.get y).get x) = Fin.ofNat 64 (offset x y) := by decide

theorem permuted_bits : bits (permuted state) = pi (rho (bits state)) := by
  funext x y z
  simp only [bits,permuted_get,rotateLeft64_bit,rotation_offset,pi,rho]

theorem combined_bits : bits (combined state) = chi (bits state) := by
  funext x y z
  have before := z.isLt
  simp only [bits,combined,Lanes.get_of,UInt64.toBitVec_xor,UInt64.toBitVec_and,UInt64.toBitVec_not,BitVec.getLsbD_xor,
    BitVec.getLsbD_and,BitVec.getLsbD_not,before,decide_true,Bool.true_and,chi]

theorem constant_bits : ∀ i < 24,∀ z : Fin 64,(roundConstants.getD i 0).toBitVec.getLsbD z = constantBit i z := by
  decide

theorem round_bits (early : i < 24) : bits (keccakRound state (roundConstants.getD i 0)) = KeccakSponge.round i (bits state) := by
  have inside : bits (combined (permuted (mixed state (delta (columns state))))) = chi (pi (rho (theta (bits state)))) := by
    rw [combined_bits,permuted_bits,mixed_bits]
  funext x y z
  rw [KeccakSponge.round,← inside,iota,bits,keccakRound,Lanes.get_set]
  split
  · rename_i first
    obtain ⟨rfl,rfl⟩ := first
    rw [UInt64.toBitVec_xor,BitVec.getLsbD_xor,constant_bits i early]
    rfl
  · rfl

theorem permutation_bits : bits (keccakF1600 state) = KeccakSponge.permutation (bits state) := by
  have counted : roundConstants = (List.range 24).map fun i => roundConstants.getD i 0 := by decide
  have rounds : ∀ (indices : List Nat) (state : Lanes),(∀ i ∈ indices,i < 24) →
      bits (indices.foldl (fun state i => keccakRound state (roundConstants.getD i 0)) state) =
        indices.foldl (fun a i => KeccakSponge.round i a) (bits state) := by
    intro indices
    induction indices with
    | nil => exact fun _ _ => rfl
    | cons i indices ih =>
      intro state early
      rw [List.foldl_cons,List.foldl_cons,ih _ fun j listed => early j (List.mem_cons_of_mem _ listed),
        round_bits state (early i List.mem_cons_self)]
  rw [keccakF1600,KeccakSponge.permutation,← rounds _ _ fun i => List.mem_range.mp]
  conv => lhs; rw [counted]
  rw [List.foldl_map]

end Permutation

section Bytes

def byteBits (byte : UInt8) : List Bool := (List.range 8).map byte.toBitVec.getLsbD

def bitsOf (text : Text) : List Bool := text.flatMap byteBits

theorem length_bitsOf : (bitsOf text).length = 8*text.length := by
  induction text with
  | nil => rfl
  | cons byte rest ih =>
    rw [bitsOf,List.flatMap_cons,List.length_append,← bitsOf,ih]
    simp only [byteBits,List.length_map,List.length_range,List.length_cons]
    omega

theorem bitsOf_append : bitsOf (text ++ more) = bitsOf text ++ bitsOf more := List.flatMap_append

theorem bitsOf_getD (text : Text) (i : Nat) : (bitsOf text).getD i false = (text.getD (i/8) 0).toBitVec.getLsbD (i % 8) := by
  induction text generalizing i with
  | nil => simp [bitsOf]
  | cons byte rest ih =>
    have parts : bitsOf (byte :: rest) = byteBits byte ++ bitsOf rest := rfl
    have eight : (byteBits byte).length = 8 := rfl
    rw [parts]
    by_cases here : i < 8
    · have first : i/8 = 0 := by omega
      have low : i % 8 = i := by omega
      rw [List.getD_append _ _ _ _ here,first,low,List.getD_cons_zero,byteBits,List.getD_eq_getElem _ _ (by simpa using here)]
      simp
    · have later : i/8 = (i-8)/8+1 := by omega
      have low : i % 8 = (i-8) % 8 := by omega
      rw [List.getD_append_right _ _ _ _ (by omega),eight,ih,later,low,List.getD_cons_succ]

theorem bitsOf_split (long : n ≤ text.length) :
    bitsOf text = bitsOf (text.take n) ++ bitsOf (text.drop n) ∧ (bitsOf (text.take n)).length = 8*n := by
  rw [← bitsOf_append,List.take_append_drop,length_bitsOf,List.length_take,Nat.min_eq_left long]
  exact ⟨rfl,rfl⟩

theorem byte_shifted (byte : UInt8) {index z : Nat} (eighth : index < 8) (inside : z < 64) :
    (byte.toUInt64 <<< (index*8).toUInt64).toBitVec.getLsbD z = (decide (z/8 = index) && byte.toBitVec.getLsbD (z % 8)) := by
  have amount : ((index*8).toUInt64.toBitVec % 64).toNat = index*8 := by
    have word : (64 : BitVec 64).toNat = 64 := rfl
    simp only [BitVec.toNat_umod,UInt64.toNat_toBitVec,Nat.toUInt64_eq,UInt64.toNat_ofNat',word]
    omega
  rw [UInt64.toBitVec_shiftLeft,BitVec.shiftLeft_eq',BitVec.getLsbD_shiftLeft,amount,UInt8.toBitVec_toUInt64,BitVec.getLsbD_setWidth]
  by_cases below : z < index*8
  · have apart : ¬z/8 = index := by omega
    simp [below,apart]
  · by_cases same : z/8 = index
    · have low : z - index*8 = z % 8 := by omega
      have small : z % 8 < 64 := by omega
      simp [below,same,low,inside,small]
    · have high : 8 ≤ z - index*8 := by omega
      simp [same,BitVec.getLsbD_of_ge _ _ high]

theorem load_bit {z : Nat} (inside : z < 64) :
    (loadLittleEndian64 input).toBitVec.getLsbD z = (input.getD (z/8) 0).toBitVec.getLsbD (z % 8) := by
  have partly : ∀ n ≤ 8,((List.range n).foldl (fun value index =>
      value ||| ((input.getD index 0).toUInt64 <<< (index*8).toUInt64)) 0).toBitVec.getLsbD z =
        (decide (z/8 < n) && (input.getD (z/8) 0).toBitVec.getLsbD (z % 8)) := by
    intro n
    induction n with
    | zero => simp
    | succ n ih =>
      intro few
      rw [List.range_succ,List.foldl_append,List.foldl_cons,List.foldl_nil,UInt64.toBitVec_or,BitVec.getLsbD_or,ih (by omega),
        byte_shifted _ (by omega) inside]
      by_cases same : z/8 = n
      · simp [same]
      · have split : z/8 < n+1 ↔ z/8 < n := by omega
        simp [same,split]
  have all : z/8 < 8 := by omega
  rw [loadLittleEndian64,partly 8 (Nat.le_refl 8)]
  simp [all]

theorem overlaid_get (block : Text) (x y : Fin 5) : ∀ n ≤ 25, ((List.range n).foldl (fun (state : Lanes) lane =>
      let (x,y) := laneAt lane
      state.set x y (state.get x y ^^^ loadLittleEndian64 ((block.drop (lane*8)).take 8))) state).get x y =
      if 5*y.val+x.val < n then state.get x y ^^^ loadLittleEndian64 ((block.drop ((5*y.val+x.val)*8)).take 8)
      else state.get x y := by
  intro n
  induction n with
  | zero => simp
  | succ n ih =>
    intro few
    rw [List.range_succ,List.foldl_append,List.foldl_cons,List.foldl_nil]
    simp only [Lanes.get_set]
    have here : (x = (laneAt n).1 ∧ y = (laneAt n).2) ↔ 5*y.val+x.val = n := by
      simp only [laneAt,Fin.ext_iff,Fin.val_ofNat]
      omega
    by_cases same : 5*y.val+x.val = n
    · obtain ⟨column,row⟩ := here.mpr same
      rw [if_pos (here.mpr same),← column,← row,ih (by omega),if_neg (by omega),if_pos (by omega),same]
    · have split : 5*y.val+x.val < n+1 ↔ 5*y.val+x.val < n := by omega
      rw [if_neg fun found => same (here.mp found),ih (by omega)]
      simp only [split]

theorem absorb_bits (whole : block.length = rateBytes) :
    bits (absorb state block) = KeccakSponge.permutation (absorbBlock (bits state) (bitsOf block)) := by
  rw [absorb,permutation_bits]
  congr 1
  funext x y z
  have across := x.isLt
  have down := y.isLt
  have inside := z.isLt
  have rate : rateBytes = 136 := rfl
  rw [bits,overlaid_get _ _ _ _ (by decide),absorbBlock,bitsOf_getD]
  have byte : place x y z/8 = (5*y.val+x.val)*8+z.val/8 := by
    rw [place]
    omega
  have low : place x y z % 8 = z.val % 8 := by
    rw [place]
    omega
  rw [byte,low]
  by_cases early : 5*y.val+x.val < rateBytes/8
  · have read : ((block.drop ((5*y.val+x.val)*8)).take 8).getD (z.val/8) 0 = block.getD ((5*y.val+x.val)*8+z.val/8) 0 := by
      have eighth : z.val/8 < 8 := by omega
      simp [List.getD_eq_getElem?_getD,List.getElem?_drop,eighth]
    rw [if_pos early,UInt64.toBitVec_xor,BitVec.getLsbD_xor,load_bit inside,read]
    rfl
  · have behind : block.getD ((5*y.val+x.val)*8+z.val/8) 0 = 0 := List.getD_eq_default _ _ (by omega)
    rw [if_neg early,behind]
    simp [bits]

end Bytes

section Padding

theorem modify_behind {α : Type} (before after : List α) (a : α) (f : α → α) :
    (before ++ a :: after).modify before.length f = before ++ f a :: after := by
  induction before with
  | nil => rfl
  | cons b before ih => simpa using ih

theorem finalBlock_last (last : input.length = rateBytes-1) : finalBlock input = input ++ [0x81] := by
  have rate : rateBytes = 136 := rfl
  have one : rateBytes - input.length = 1 := by omega
  rw [finalBlock,one,List.replicate_one,modify_behind,← last,modify_behind]
  rfl

theorem finalBlock_apart (filled : input.length+zeros = rateBytes-2) :
    finalBlock input = input ++ 0x01 :: (List.replicate zeros 0 ++ [0x80]) := by
  have rate : rateBytes = 136 := rfl
  have count : rateBytes - input.length = zeros+2 := by omega
  have spread : List.replicate (zeros+2) (0 : UInt8) = 0 :: (List.replicate zeros 0 ++ [0]) := by
    rw [← List.replicate_succ',List.replicate_succ]
  have place : rateBytes-1 = (input ++ 0x01 :: List.replicate zeros (0 : UInt8)).length := by
    simp only [List.length_append,List.length_cons,List.length_replicate]
    omega
  rw [finalBlock,count,spread,modify_behind]
  have regrouped : input ++ (0 ^^^ 0x01) :: (List.replicate zeros 0 ++ [0]) =
      (input ++ 0x01 :: List.replicate zeros 0) ++ (0 : UInt8) :: [] := by
    simp
  rw [regrouped,place,modify_behind]
  simp

theorem bitsOf_zeros : bitsOf (List.replicate n 0) = List.replicate (8*n) false := by
  induction n with
  | zero => rfl
  | succ n ih =>
    have more : 8*(n+1) = 8+8*n := by omega
    have first : byteBits 0 = List.replicate 8 false := by decide
    rw [List.replicate_succ,bitsOf,List.flatMap_cons,← bitsOf,ih,first,more,List.replicate_add]

theorem padded_final (short : input.length < rateBytes) :
    bitsOf input ++ KeccakSponge.pad 1088 (bitsOf input).length = bitsOf (finalBlock input) := by
  have rate : rateBytes = 136 := rfl
  rw [length_bitsOf]
  by_cases last : input.length = rateBytes-1
  · have bytes : 8*input.length = 1080 := by omega
    have form : KeccakSponge.pad 1088 1080 = bitsOf [0x81] := by decide
    rw [finalBlock_last last,bitsOf_append,bytes,form]
  · obtain ⟨zeros,filled⟩ : ∃ zeros,input.length+zeros = rateBytes-2 := ⟨rateBytes-2-input.length,by omega⟩
    have count : (1088 - (8*input.length+2) % 1088) % 1088 = 7+(8*zeros+7) := by omega
    have first : byteBits 0x01 = true :: List.replicate 7 false := by decide
    have final : bitsOf [0x80] = List.replicate 7 false ++ [true] := by decide
    have parts : bitsOf (0x01 :: (List.replicate zeros 0 ++ [0x80])) =
        true :: List.replicate 7 false ++ (List.replicate (8*zeros) false ++ (List.replicate 7 false ++ [true])) := by
      rw [bitsOf,List.flatMap_cons,← bitsOf,bitsOf_append,bitsOf_zeros,final,first]
    rw [finalBlock_apart filled,bitsOf_append,parts,KeccakSponge.pad,count,List.replicate_add,List.replicate_add]
    simp

theorem finalBlock_length (short : input.length < rateBytes) : (finalBlock input).length = rateBytes := by
  rw [finalBlock,List.length_modify,List.length_modify,List.length_append,List.length_replicate]
  omega

theorem pad_period : KeccakSponge.pad 1088 (1088+length) = KeccakSponge.pad 1088 length := by
  have same : (1088+length+2) % 1088 = (length+2) % 1088 := by omega
  rw [KeccakSponge.pad,KeccakSponge.pad,same]

end Padding

section Sponge

theorem absorbed (state : Lanes) (input : Text) :
    bits (absorb (absorbWhole state input).1 (finalBlock (absorbWhole state input).2)) =
      KeccakSponge.absorb KeccakSponge.permutation 1088 (input.length/136+1) (bits state)
        (bitsOf input ++ KeccakSponge.pad 1088 (bitsOf input).length) := by
  have rate : rateBytes = 136 := rfl
  induction state,input using absorbWhole.induct with
  | case1 state input long ih =>
    obtain ⟨parts,size⟩ := bitsOf_split long
    have length : (bitsOf (input.take rateBytes)).length = 1088 := size
    have count : input.length/136+1 = ((input.drop rateBytes).length/136+1)+1 := by
      rw [List.length_drop]
      omega
    have period : KeccakSponge.pad 1088 (bitsOf input).length = KeccakSponge.pad 1088 (bitsOf (input.drop rateBytes)).length := by
      rw [parts,List.length_append,length,pad_period]
    have whole : (input.take rateBytes).length = rateBytes := by
      rw [List.length_take]
      omega
    rw [absorbWhole,if_pos long,ih,count,absorb_bits whole,period,parts,List.append_assoc]
    conv =>
      rhs
      rw [KeccakSponge.absorb,List.take_left' length,List.drop_left' length]
  | case2 state input short =>
    have few : input.length < rateBytes := by omega
    have none : input.length/136 = 0 := by omega
    have full : (bitsOf (finalBlock input)).length = 1088 := by
      rw [length_bitsOf,finalBlock_length few]
      rfl
    rw [absorbWhole,if_neg short,none,padded_final few,absorb_bits (finalBlock_length few),KeccakSponge.absorb,
      List.take_of_length_le (by rw [full]),KeccakSponge.absorb]

theorem digest_bit (state : Lanes) (inside : index < 32) (low : bit < 8) :
    (digestByte state index).toBitVec.getLsbD bit = bitAt (bits state) (8*index+bit) := by
  have amount : ((index % 8*8).toUInt64.toBitVec % 64).toNat = index % 8*8 := by
    have word : (64 : BitVec 64).toNat = 64 := rfl
    simp only [BitVec.toNat_umod,UInt64.toNat_toBitVec,Nat.toUInt64_eq,UInt64.toNat_ofNat',word]
    omega
  have mask : ∀ bit < 8,(0xff : UInt64).toBitVec.getLsbD bit = true := by decide
  have column : (8*index+bit)/64 = index/8 := by omega
  have row : (8*index+bit)/320 = index/8/5 := by omega
  have place : (8*index+bit) % 64 = index % 8*8+bit := by omega
  have found : (Fin.ofNat 64 (8*index+bit)).val = index % 8*8+bit := place
  have small : bit < 64 := by omega
  simp only [digestByte,laneAt,bitAt,bits,column,row,found]
  rw [UInt64.toBitVec_toUInt8,BitVec.getLsbD_setWidth,UInt64.toBitVec_and,BitVec.getLsbD_and,mask bit low,UInt64.toBitVec_shiftRight,
    BitVec.ushiftRight_eq',BitVec.getLsbD_ushiftRight,amount]
  simp [low]

theorem digest_bits :
    bitsOf ((List.range 32).map (digestByte state)) = (List.range 256).map (bitAt (bits state)) := by
  apply List.ext_getElem
  · simp [length_bitsOf]
  · intro i inside _
    have early : i < 256 := by simpa [length_bitsOf] using inside
    have byte : i/8 < 32 := by omega
    have whole : 8*(i/8)+i % 8 = i := by omega
    have read := bitsOf_getD ((List.range 32).map (digestByte state)) i
    rw [List.getD_eq_getElem _ _ inside,List.getD_eq_getElem _ _ (by simpa using byte)] at read
    rw [read,List.getElem_map,List.getElem_map,List.getElem_range,List.getElem_range,digest_bit state byte (Nat.mod_lt i (by decide)),whole]

theorem keccak256Raw_bits (input : Text) : bitsOf (keccak256Raw input) = KeccakSponge.keccak 1088 (bitsOf input) 256 := by
  have rate : rateBytes = 136 := rfl
  have clear : bits .zero = fun _ _ _ => false := by
    funext x y z
    simp [bits,Lanes.zero]
  have blocks : (bitsOf input ++ KeccakSponge.pad 1088 (bitsOf input).length).length/1088 = input.length/136+1 := by
    rw [List.length_append,length_bitsOf,KeccakSponge.pad]
    simp only [List.length_cons,List.length_append,List.length_replicate,List.length_nil]
    omega
  have once (a : State) : (KeccakSponge.squeeze KeccakSponge.permutation 1088 (256/1088+1) a).take 256 = (List.range 256).map (bitAt a) := by
    simp [KeccakSponge.squeeze,← List.map_take,List.take_range]
  rw [KeccakSponge.keccak,KeccakSponge.sponge,blocks,once,← clear,← absorbed,← digest_bits]
  rfl

theorem short_digest (short : input.length < rateBytes) :
    keccak256Raw input = (List.range 32).map (digestByte (absorb .zero (finalBlock input))) := by
  rw [keccak256Raw,absorbWhole,if_neg (Nat.not_le.mpr short)]

theorem self_test : selfTestPassed = true := by
  have five : (Text.of "hello").length < rateBytes := by decide
  rw [selfTestPassed,short_digest (by decide : ([] : Text).length < rateBytes),short_digest five]
  decide +kernel

-- Every input has the digest of the sponge.
theorem keccak_reference (input : Text) :
    ∃ digest,keccak256 input = .ok digest ∧ digest.length = 32 ∧ bitsOf digest = KeccakSponge.keccak 1088 (bitsOf input) 256 := by
  refine ⟨keccak256Raw input,?_,?_,keccak256Raw_bits input⟩
  · rw [keccak256,self_test]
    rfl
  · simp [keccak256Raw]

end Sponge

end OpenProof.Keccak
