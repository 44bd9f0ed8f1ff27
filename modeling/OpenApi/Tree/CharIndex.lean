/-
From bytes to characters.

A grammar counts bytes, readers count characters. The index of a text tells, for each byte of its
encoding, the number of the character the byte belongs to. A text that has as many bytes as
characters needs no table: each byte is a character.
-/
import OpenApi.Text.Position
import OpenApi.Text.Utf8
import OpenApi.Tree.Concrete

set_option autoImplicit false

namespace OpenApi.Tree

/-- For each byte the number of its character, and behind the last byte the number of characters;
or nothing if bytes and characters are the same. -/
structure CharIndex where
  table : Option (Array Nat)

namespace CharIndex

/-- The character number of every byte of a text that starts with character number `first`. -/
def numbers (first : Nat) : List Char → List Nat
  | [] => [first]
  | c :: cs => List.replicate c.utf8Size first ++ numbers (first + 1) cs

/-- The index of a text. -/
def ofText (text : List Char) : CharIndex :=
  if Text.byteLength text = text.length then ⟨none⟩ else ⟨some (numbers 0 text).toArray⟩

/-- The character that a byte belongs to. A byte past the end counts as the end. -/
def char (index : CharIndex) (byte : Nat) : Nat :=
  match index.table with
  | none => byte
  | some table => table.getD (min byte (table.size - 1)) 0

/-- The row and column, in characters, of a place. -/
def position (index : CharIndex) (p : Place) : Text.Position :=
  match index.table with
  | none => ⟨p.row, p.column⟩
  | some _ => ⟨p.row, (index.char p.byte : Int) - (index.char (p.byte - p.column) : Int)⟩

end CharIndex

end OpenApi.Tree
