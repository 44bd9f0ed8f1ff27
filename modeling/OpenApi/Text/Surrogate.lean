/-
Lone surrogates.

An escape may name one half of a pair of code units without the other. That half is no character
and has no encoding; yet a text that holds it can be read, compared, used as a key and shown, and
only fails where it has to be written as bytes. A text is a list of characters here, so half a pair
is held by a character that stands for it: the one with the same number in a plane that the texts
do not use otherwise (`Host.surrogatePlane`).
-/
import OpenApi.Host

set_option autoImplicit false

namespace OpenApi.Text

/-- Whether a number is that of a surrogate. -/
def isSurrogate (code : Nat) : Bool := 0xD800 ≤ code && code ≤ 0xDFFF

/-- By how much the number of a character is larger than that of the surrogate it stands for. -/
def surrogateShift [Host] : Nat := 0x10000 * Host.surrogatePlane

/-- The character with a number, or the one that stands for the surrogate with that number. -/
def charOf [Host] (code : Nat) : Char :=
  Char.ofNat (if isSurrogate code then surrogateShift + code else code)

/-- The surrogate that a character stands for, if it stands for one. -/
def surrogate? [Host] (c : Char) : Option Nat :=
  let code := c.toNat - surrogateShift
  if isSurrogate code then some code else none

theorem charOf_of_not [Host] {code : Nat} (h : isSurrogate code = false) :
    charOf code = Char.ofNat code := by
  rw [charOf, h]
  rfl

/-- **A surrogate is not lost.** The character that is read for it tells which one it was. -/
theorem surrogate?_charOf [Host] {code : Nat} (h : isSurrogate code = true) :
    surrogate? (charOf code) = some code := by
  have hbounds := h
  simp only [isSurrogate, Bool.and_eq_true, decide_eq_true_eq] at hbounds
  have hvalid : (surrogateShift + code).isValidChar := by
    have hupper := Host.surrogatePlane_upper
    right
    simp only [surrogateShift]
    omega
  have hcode : (charOf code).toNat = surrogateShift + code := by
    rw [charOf, if_pos h, Char.ofNat, dif_pos hvalid]
    rfl
  rw [surrogate?, hcode]
  simp only [Nat.add_sub_cancel_left]
  rw [if_pos h]

end OpenApi.Text
