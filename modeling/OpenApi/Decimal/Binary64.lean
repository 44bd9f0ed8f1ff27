/-
Binary floating point numbers of 64 bits, held by their bit pattern.

Keeping the pattern rather than a machine float gives decidable equality and lets every step be
computed in exact natural number arithmetic: a decimal numeral is read as the quotient of two
naturals and rounded once, to the nearest representable value, a tie to the even one.
-/
set_option autoImplicit false

namespace OpenApi.Decimal

/-- A floating point number, by its 64 bits: sign, eleven bits of exponent, 52 of fraction. -/
structure Binary64 where
  bits : UInt64
deriving DecidableEq, Repr, Inhabited

namespace Binary64

/-- What a bit pattern stands for. A finite value is `mantissa · 2 ^ exponent`. -/
inductive Kind where
  | nan
  | infinite (negative : Bool)
  | finite (negative : Bool) (mantissa : Nat) (exponent : Int)
deriving DecidableEq, Repr

/-- The least exponent, that of the subnormal numbers. -/
def minExponent : Int := -1074

/-- The pattern of positive infinity; every finite positive number has a smaller one. -/
def infinityBits : Nat := 0x7FF0000000000000

/-- Reads a bit pattern. -/
def kind (x : Binary64) : Kind :=
  let negative := x.bits >>> 63 == 1
  let biased := ((x.bits >>> 52) &&& 0x7FF).toNat
  let fraction := (x.bits &&& 0xFFFFFFFFFFFFF).toNat
  if biased = 0x7FF then if fraction = 0 then .infinite negative else .nan
  else if biased = 0 then .finite negative fraction minExponent
  else .finite negative (fraction + 0x10000000000000) ((biased : Int) - 1075)

/-- Attaches a sign to the pattern of a number that is not negative. -/
def ofMagnitude (negative : Bool) (magnitude : Nat) : Binary64 :=
  ⟨UInt64.ofNat (magnitude + if negative then 0x8000000000000000 else 0)⟩

def zero (negative : Bool) : Binary64 := ofMagnitude negative 0

def infinity (negative : Bool) : Binary64 := ofMagnitude negative infinityBits

def nan : Binary64 := ⟨0x7FF8000000000000⟩

/-- A pattern of its own for each label, by which undefined numbers of different origins can be
told apart. It stands for no other number than `nan` does. -/
def labelledNan (label : Nat) : Binary64 := ⟨0x7FF8000000000001 + UInt64.ofNat label⟩

def isNan (x : Binary64) : Bool := x.kind == .nan

/-- Both zeros, and nothing else. -/
def isZero (x : Binary64) : Bool := x.bits &&& 0x7FFFFFFFFFFFFFFF == 0

def neg (x : Binary64) : Binary64 := ⟨x.bits ^^^ 0x8000000000000000⟩

/-! ## Rounding -/

/-- The quotient rounded to the nearest natural number, a tie to the even one. -/
def roundDiv (num den : Nat) : Nat :=
  let quotient := num / den
  let rest := 2 * (num % den)
  if den < rest || (rest = den && quotient % 2 = 1) then quotient + 1 else quotient

/-- The number nearest to a quotient of naturals. The exponent is chosen so that the mantissa
has 53 bits, or fewer at the least exponent; a mantissa rounded up to 54 bits carries into the
exponent field by itself. -/
def ofRatio (negative : Bool) (num den : Nat) : Binary64 :=
  if num = 0 || den = 0 then zero negative
  else
    let guess : Int := (Nat.log2 num : Int) - Nat.log2 den
    let reaches : Bool :=
      if 0 ≤ guess then den <<< guess.toNat ≤ num else den ≤ num <<< (-guess).toNat
    let exponent := max ((if reaches then guess else guess - 1) - 52) minExponent
    let mantissa :=
      if 0 ≤ exponent then roundDiv num (den <<< exponent.toNat)
      else roundDiv (num <<< (-exponent).toNat) den
    let magnitude := ((exponent - minExponent).toNat <<< 52) + mantissa
    if infinityBits ≤ magnitude then infinity negative else ofMagnitude negative magnitude

/-- The number nearest to `digits · 10 ^ exponent`. Numerals far beyond the range are decided by
their size, so that no huge power is computed. -/
def ofDecimal (negative : Bool) (digits : Nat) (exponent : Int) : Binary64 :=
  if digits = 0 then zero negative
  else if 400 < exponent then infinity negative
  else if exponent + (Nat.log2 digits : Int) / 3 + 1 < -400 then zero negative
  else if 0 ≤ exponent then ofRatio negative (digits * Nat.pow 10 exponent.toNat) 1
  else ofRatio negative digits (Nat.pow 10 (-exponent).toNat)

/-- The number nearest to an integer. -/
def ofInt (n : Int) : Binary64 :=
  ofRatio (n < 0) n.natAbs 1

/-! ## Arithmetic -/

/-- The sum, rounded once. -/
def add (x y : Binary64) : Binary64 :=
  ⟨(Float.ofBits x.bits + Float.ofBits y.bits).toBits⟩

/-- The product, rounded once. -/
def mul (x y : Binary64) : Binary64 :=
  ⟨(Float.ofBits x.bits * Float.ofBits y.bits).toBits⟩

/-- The integer a number equals, if it equals one. -/
def toInt? (x : Binary64) : Option Int :=
  match x.kind with
  | .finite negative mantissa exponent =>
    let size : Option Nat :=
      if 0 ≤ exponent then some (mantissa <<< exponent.toNat)
      else
        let unit := 1 <<< (-exponent).toNat
        if mantissa % unit = 0 then some (mantissa / unit) else none
    size.map fun n => if negative then -(n : Int) else n
  | _ => none

end Binary64

end OpenApi.Decimal
