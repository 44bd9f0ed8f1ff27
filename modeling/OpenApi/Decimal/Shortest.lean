/-
Shortest decimals: the fewest digits that read back as the same floating point number.

The reals that round to a number form an interval around it, closed when the mantissa is even.
For one digit, two digits and so on, the two points of that decimal grid next to the number are
tried; the first grid with a point inside the interval wins, and of two such points the nearer.
All comparisons are between natural numbers.
-/
import OpenApi.Decimal.Binary64

set_option autoImplicit false

namespace OpenApi.Decimal

/-- The decimal `digits · 10 ^ exponent`. -/
structure Numeral where
  digits : Nat
  exponent : Int
deriving DecidableEq, Repr

/-! ## The grid search -/

/-- The reals that round to one number, as the naturals `low`, `value` and `high` over a common
denominator. -/
structure Rounding where
  low : Nat
  value : Nat
  high : Nat
  den : Nat
  closed : Bool

/-- The interval of the finite positive number `mantissa · 2 ^ exponent`. Below a power of two
the neighbour is half as far away, except at the least exponent. -/
def Rounding.of (mantissa : Nat) (exponent : Int) : Rounding :=
  let below := if mantissa = 0x10000000000000 && Binary64.minExponent < exponent then 1 else 2
  let scale := if 0 ≤ exponent then 1 <<< exponent.toNat else 1
  let den := if 0 ≤ exponent then 4 else 4 <<< (-exponent).toNat
  { low := (4 * mantissa - below) * scale
    value := 4 * mantissa * scale
    high := (4 * mantissa + 2) * scale
    den := den
    closed := mantissa % 2 = 0 }

/-- Whether `point / (den * shrink)` lies in the interval, for a point given over the common
denominator. -/
def Rounding.holds (r : Rounding) (point : Nat) (shrink : Nat) : Bool :=
  if r.closed then r.low * shrink ≤ point && point ≤ r.high * shrink
  else r.low * shrink < point && point < r.high * shrink

/-- The point nearest to the number on the grid of multiples of `10 ^ grid`, if one of the two
neighbours lies in the interval. A tie goes to the even multiple. -/
def Rounding.onGrid? (r : Rounding) (grid : Int) : Option Numeral :=
  let unit := if 0 ≤ grid then r.den * Nat.pow 10 grid.toNat else r.den
  let shrink := if 0 ≤ grid then 1 else Nat.pow 10 (-grid).toNat
  let below := r.value * shrink / unit
  let above := below + 1
  let downFits := below != 0 && r.holds (below * unit) shrink
  let upFits := r.holds (above * unit) shrink
  let down := r.value * shrink - below * unit
  let up := above * unit - r.value * shrink
  if downFits && (!upFits || down < up || (down = up && below % 2 = 0)) then some ⟨below, grid⟩
  else if upFits then some ⟨above, grid⟩
  else none

/-- The exponent of the leading decimal digit: the largest `e` with `10 ^ e` at most `num/den`. -/
def leadingExponent (num den : Nat) : Int :=
  if den ≤ num then ((Nat.toDigits 10 (num / den)).length : Int) - 1
  else
    match (List.range 400).find? fun j => den ≤ num * Nat.pow 10 (j + 1) with
    | some j => -(j + 1 : Int)
    | none => -400

/-- Moves trailing zeros of the digits into the exponent. -/
def Numeral.trimZeros : (rounds : Nat) → Numeral → Numeral
  | 0, n => n
  | rounds + 1, n =>
    if n.digits ≠ 0 && n.digits % 10 = 0 then
      Numeral.trimZeros rounds ⟨n.digits / 10, n.exponent + 1⟩
    else n

/-- The shortest decimal that reads back as `mantissa · 2 ^ exponent`. Seventeen digits always
suffice. -/
def shortest (mantissa : Nat) (exponent : Int) : Numeral :=
  let r := Rounding.of mantissa exponent
  let lead := leadingExponent r.value r.den
  let found := (List.range 17).findSome? fun count => r.onGrid? (lead - (count : Nat))
  (found.getD ⟨0, 0⟩).trimZeros 20

/-! ## Layout -/

/-- How a floating point number is laid out. -/
structure Layout where
  /-- The least exponent of the leading digit that is still written positionally. -/
  minPositional : Int
  /-- The greatest such exponent. -/
  maxPositional : Int
  /-- The least number of digits of an exponent. -/
  exponentDigits : Nat
  nan : String
  infinity : String

/-- Positional from `0.0001` up to sixteen digits before the point; otherwise an exponent with
a sign and two digits at least. -/
def plainLayout : Layout :=
  { minPositional := -4, maxPositional := 15, exponentDigits := 2, nan := "nan", infinity := "inf" }

/-- A numeral written in a layout, always with a point or an exponent. -/
def Numeral.write (layout : Layout) (n : Numeral) : String :=
  let digits := Nat.toDigits 10 n.digits
  let lead : Int := n.exponent + digits.length - 1
  if layout.minPositional ≤ lead && lead ≤ layout.maxPositional then
    if lead < 0 then
      String.ofList ('0' :: '.' :: List.replicate (-lead - 1).toNat '0' ++ digits)
    else
      let whole := lead.toNat + 1
      let padded := digits ++ List.replicate (whole - digits.length) '0'
      let fraction := padded.drop whole
      String.ofList (padded.take whole ++ '.' :: if fraction.isEmpty then ['0'] else fraction)
  else
    let fraction := digits.drop 1
    let point := if fraction.isEmpty then [] else '.' :: fraction
    let size := Nat.toDigits 10 lead.natAbs
    let pad := List.replicate (layout.exponentDigits - size.length) '0'
    String.ofList
      (digits.take 1 ++ point ++ 'e' :: (if lead < 0 then '-' else '+') :: pad ++ size)

/-- A floating point number written in a layout. -/
def Binary64.write (layout : Layout) (x : Binary64) : String :=
  match x.kind with
  | .nan => layout.nan
  | .infinite negative => (if negative then "-" else "") ++ layout.infinity
  | .finite negative mantissa exponent =>
    let size := if mantissa = 0 then "0.0" else (shortest mantissa exponent).write layout
    (if negative then "-" else "") ++ size

end OpenApi.Decimal
