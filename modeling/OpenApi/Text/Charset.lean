/-
Texts in other encodings.

A response may name the encoding of its body behind its media type. Three are known: UTF-8, the
first 256 characters with a byte each, and the first 128 of these. A body without a known name is
UTF-8. Bytes that stand for no character become replacement characters.
-/
import OpenApi.Text.Blank
import OpenApi.Text.Case
import OpenApi.Text.Utf8

set_option autoImplicit false

namespace OpenApi.Text

/-- A way to write characters as bytes. -/
inductive Charset where
  | utf8
  | latin1
  | ascii
deriving DecidableEq, Repr

namespace Charset

/-- The names of the encodings with a byte for each character. -/
def names : List (String × Charset) :=
  [("latin_1", .latin1), ("latin1", .latin1), ("latin", .latin1), ("l1", .latin1),
    ("iso_8859_1", .latin1), ("iso8859_1", .latin1), ("iso8859", .latin1), ("8859", .latin1),
    ("cp819", .latin1), ("ibm819", .latin1), ("ascii", .ascii), ("us_ascii", .ascii),
    ("us", .ascii), ("646", .ascii)]

/-- The encoding of a name. Capitals do not matter, nor does it whether the parts of a name are
joined by hyphens, underscores or blanks. -/
def ofName (name : String) : Charset :=
  let joined := (lower name).toList.map fun c => if c == '-' || c == ' ' then '_' else c
  ((names.find? (·.1 == String.ofList joined)).map (·.2)).getD .utf8

/-- The character of a byte, for encodings with a byte for each character. -/
def charOf (limit : Nat) (b : UInt8) : Char :=
  if b.toNat < limit then Char.ofNat b.toNat else '\uFFFD'

/-- The text of bytes. -/
def decode : Charset → List UInt8 → String
  | .utf8, bytes => decodeLossy bytes
  | .latin1, bytes => String.ofList (bytes.map (charOf 256))
  | .ascii, bytes => String.ofList (bytes.map (charOf 128))

end Charset

/-! ## Media types -/

/-- The parts of a media type, between semicolons. -/
def mediaParts : List Char → List (List Char)
  | [] => [[]]
  | c :: rest =>
    if c = ';' then [] :: mediaParts rest
    else match mediaParts rest with
      | [] => [[c]]
      | part :: more => (c :: part) :: more

/-- A value without the quotes around it. -/
def unquoted (cs : List Char) : List Char :=
  if 2 ≤ cs.length && cs.head? == some '"' && cs.getLast? == some '"' then cs.tail.dropLast else cs

/-- The value of a parameter of that name. -/
def parameter? (name : String) (part : List Char) : Option String :=
  let key := lower (String.ofList (trim (part.takeWhile (· != '='))))
  match part.dropWhile (· != '=') with
  | _ :: value => if key = name then some (String.ofList (unquoted (trim value))) else none
  | [] => none

/-- The encoding that a media type names. -/
def Charset.ofMediaType (mediaType : String) : Charset :=
  ((mediaParts mediaType.toList).tail.findSome? (parameter? "charset")).elim .utf8 Charset.ofName

end OpenApi.Text
