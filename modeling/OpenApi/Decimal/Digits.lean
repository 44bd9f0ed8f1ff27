/-
How many decimal digits an integer may have when it is read or written.

An integer itself has no bound; only its conversion from and to decimal digits has one. So an
integer that was written in another base, or as a sum of parts, can be held and compared although
there is no text to show it by.
-/
set_option autoImplicit false

namespace OpenApi.Decimal

/-- The number of digits up to which an integer is read or written. -/
def digitLimit : Nat := 4300

/-- An integer with more digits than are converted. Their number is known where the digits were
to be read. -/
structure LongInteger where
  count? : Option Nat
deriving DecidableEq, Repr

def LongInteger.message (e : LongInteger) : String :=
  let found := e.count?.elim "" fun count => s!": value has {count} digits"
  s!"Exceeds the limit ({digitLimit} digits) for integer string conversion{found}; "
    ++ "use sys.set_int_max_str_digits() to increase the limit"

/-- The least natural number that has too many digits to be written. -/
def leastUnwritable : Nat := Nat.pow 10 digitLimit

/-- Whether an integer can be written. -/
def isWritable (n : Int) : Bool := n.natAbs < leastUnwritable

/-- An integer in decimal digits. -/
def writeInt (n : Int) : Except LongInteger String :=
  if isWritable n then .ok (toString n) else .error ⟨none⟩

end OpenApi.Decimal
