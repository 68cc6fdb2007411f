import Mathlib.Data.ZMod.Defs
import Mathlib.Tactic.IntervalCases

namespace OpenProof.KeccakSponge

section Permutation

instance neZero_five : NeZero 5 := ⟨by decide⟩

-- A[x,y,z], in lanes of 64 bits.
abbrev State := Fin 5 → Fin 5 → Fin 64 → Bool

def parity (a : State) (x : Fin 5) (z : Fin 64) : Bool := a x 0 z ^^ a x 1 z ^^ a x 2 z ^^ a x 3 z ^^ a x 4 z

def theta (a : State) : State := fun x y z => a x y z ^^ (parity a (x-1) z ^^ parity a (x+1) (z-1))

def walk : Nat → Fin 5 × Fin 5
  | 0 => (1,0)
  | t+1 => ((walk t).2,2*(walk t).1 + 3*(walk t).2)

def offset (x y : Fin 5) : Nat :=
  match (List.range 24).find? fun t => walk t = (x,y) with
  | some t => (t+1)*(t+2)/2
  | none => 0

def rho (a : State) : State := fun x y z => a x y (z - Fin.ofNat 64 (offset x y))

def pi (a : State) : State := fun x y z => a (x+3*y) x z

def chi (a : State) : State := fun x y z => a x y z ^^ (!a (x+1) y z && a (x+2) y z)

structure Register where
  r0 : Bool
  r1 : Bool
  r2 : Bool
  r3 : Bool
  r4 : Bool
  r5 : Bool
  r6 : Bool
  r7 : Bool

def Register.shift (r : Register) : Register :=
  ⟨r.r7,r.r0,r.r1,r.r2,r.r3 ^^ r.r7,r.r4 ^^ r.r7,r.r5 ^^ r.r7,r.r6⟩

def register : Nat → Register
  | 0 => ⟨true,false,false,false,false,false,false,false⟩
  | t+1 => (register t).shift

def constantBit (round : Nat) (z : Fin 64) : Bool :=
  (List.range 7).any fun j => z.val+1 == 2^j && (register ((j+7*round) % 255)).r0

def iota (round : Nat) (a : State) : State := fun x y z =>
  if x = 0 ∧ y = 0 then a x y z ^^ constantBit round z else a x y z

def round (i : Nat) (a : State) : State := iota i (chi (pi (rho (theta a))))

def permutation (a : State) : State := (List.range 24).foldl (fun a i => round i a) a

end Permutation

section Sponge

def place (x y : Fin 5) (z : Fin 64) : Nat := 64*(5*y.val+x.val)+z.val

def bitAt (a : State) (i : Nat) : Bool := a (Fin.ofNat 5 (i/64)) (Fin.ofNat 5 (i/320)) (Fin.ofNat 64 i)

def absorbBlock (a : State) (block : List Bool) : State := fun x y z => a x y z ^^ block.getD (place x y z) false

variable (f : State → State) (rate : Nat)

def absorb : (blocks : Nat) → State → List Bool → State
  | 0,a,_ => a
  | blocks+1,a,bits => absorb blocks (f (absorbBlock a (bits.take rate))) (bits.drop rate)

def squeeze : (blocks : Nat) → State → List Bool
  | 0,_ => []
  | blocks+1,a => (List.range rate).map (bitAt a) ++ squeeze blocks (f a)

def pad (length : Nat) : List Bool := true :: (List.replicate ((rate - (length+2) % rate) % rate) false ++ [true])

def sponge (message : List Bool) (size : Nat) : List Bool :=
  let padded := message ++ pad rate message.length
  (squeeze f rate (size/rate+1) (absorb f rate (padded.length/rate) (fun _ _ _ => false) padded)).take size

end Sponge

def keccak (rate : Nat) (message : List Bool) (size : Nat) : List Bool := sponge permutation rate message size

end OpenProof.KeccakSponge
