/-
Blank characters, and the trimming of a text at both ends.

A document's format is decided by its first character that is not blank, and a source that
holds blanks only counts as empty. "Blank" here is the wide class: the Unicode separators and
the control characters that separate lines, fields or records. The zero-width space and the
byte-order mark are not blank.
-/
set_option autoImplicit false

namespace OpenApi.Text

/-- The code point ranges of blank characters, both ends included, in ascending order. -/
def blankRanges : List (Nat × Nat) :=
  [(0x09, 0x0D), (0x1C, 0x20), (0x85, 0x85), (0xA0, 0xA0), (0x1680, 0x1680), (0x2000, 0x200A),
    (0x2028, 0x2029), (0x202F, 0x202F), (0x205F, 0x205F), (0x3000, 0x3000)]

/-- Whether a character separates words, lines, fields or records. -/
def isBlank (c : Char) : Bool :=
  blankRanges.any fun r => r.1 ≤ c.toNat && c.toNat ≤ r.2

/-- Drops the longest run at the end whose members all satisfy `p`. -/
def dropTrailing (p : Char → Bool) (cs : List Char) : List Char :=
  (cs.reverse.dropWhile p).reverse

/-- Drops the blanks at both ends. -/
def trim (cs : List Char) : List Char :=
  dropTrailing isBlank (cs.dropWhile isBlank)

/-- The blanks that may stand around a number: those that separate words or lines, but not the
control characters that separate fields or records. -/
def isSpace (c : Char) : Bool := isBlank c && !(0x1C ≤ c.toNat && c.toNat ≤ 0x1F)

/-- Drops the space at both ends of a number. -/
def trimSpace (cs : List Char) : List Char :=
  dropTrailing isSpace (cs.dropWhile isSpace)

/-- The words of a text, behind the letters of one that has begun. -/
def wordsFrom (begun : List Char) : List Char → List (List Char)
  | [] => if begun.isEmpty then [] else [begun]
  | c :: rest =>
    if isBlank c then
      if begun.isEmpty then wordsFrom [] rest else begun :: wordsFrom [] rest
    else wordsFrom (begun ++ [c]) rest

/-- The words of a text: its longest runs without blanks. -/
def words (cs : List Char) : List (List Char) := wordsFrom [] cs

/-- A text with no character but blanks. -/
def isAllBlank (text : String) : Bool :=
  text.toList.all isBlank

end OpenApi.Text
