import SqlBinding.Number.Power

/-!
# Binary floating point numbers

The parts of a number in a binary interchange format: a sign and, unless it is infinite or no
number, a mantissa `m` and an exponent `q` that stand for `m * 2 ^ q`.
-/

namespace SqlBinding

/-- An interchange format: stored mantissa bits and exponent bits. -/
structure BinaryFormat where
  mantissaBits : Nat
  exponentBits : Nat

namespace BinaryFormat

def single : BinaryFormat := ⟨23, 8⟩

def double : BinaryFormat := ⟨52, 11⟩

/-- The exponent of the last mantissa bit in the smallest normal numbers. -/
def minExponent (f : BinaryFormat) : Int := 2 - twoPow (f.exponentBits - 1) - f.mantissaBits

end BinaryFormat

/-- A number read from its bits. `narrowBelow` marks the powers of two, whose neighbour below is
at half the distance of the one above. -/
inductive Binary where
  | nan
  | infinite (negative : Bool)
  | finite (negative : Bool) (m : Nat) (q : Int) (narrowBelow : Bool)
deriving DecidableEq, Repr

def BinaryFormat.read (f : BinaryFormat) (bits : Nat) : Binary :=
  let fraction := bits % twoPow f.mantissaBits
  let exponent := bits / twoPow f.mantissaBits % twoPow f.exponentBits
  let negative := bits / twoPow (f.mantissaBits + f.exponentBits) % 2 == 1
  if exponent = twoPow f.exponentBits - 1 then
    if fraction = 0 then .infinite negative else .nan
  else if exponent = 0 then .finite negative fraction f.minExponent false
  else
    .finite negative (fraction + twoPow f.mantissaBits) (f.minExponent + exponent - 1)
      (fraction == 0 && exponent > 1)

def Binary.ofFloat (x : Float) : Binary := BinaryFormat.double.read x.toBits.toNat

def Binary.ofFloat32 (x : Float32) : Binary := BinaryFormat.single.read x.toBits.toNat

end SqlBinding
