/-
What the program leaves to the machinery it runs on.

Several of its readers call themselves for what is inside what they read, and so does the rendering
of a value as text. How deep such calls may go is no business of the program: it depends on the
interpreter and on how deep the call stands that starts them. Each limit is a number here, and
nothing is assumed of it, except that what the program itself writes is not too deep to be read
back. Neither does the program word what is wrong with the fields of a record: it passes on the
report of the library that checks them. And a text of the interpreter may hold half a character.
A character stands for it here, and which one that is is left open, too.
-/

set_option autoImplicit false

namespace OpenApi

/-- What a report says of a problem with a field: where it lies, its kind, and what was given there,
as text and by the name of its type. -/
structure Complaint where
  location : List String
  kind : String
  given : String
  type : String
deriving DecidableEq, Repr

/-- The machinery that the program runs on. -/
class Host where
  /-- The number of brackets of a JSON text that may be open at once. -/
  brackets : Nat
  /-- Tables and records have at most this many brackets inside one another. -/
  brackets_room : 4 ≤ brackets
  /-- The number of collections of a YAML text that may be open at once. -/
  nodes : Nat
  /-- The number of mappings that may be merged into one another. -/
  merges : Nat
  /-- The number of mappings behind which the text of a scalar may be looked for. -/
  valueKeys : Nat
  /-- The number of containers that may be inside one another in a value that is shown. -/
  containers : Nat
  /-- The plane of the characters that stand for lone surrogates. It is one of the upper planes, in
  which hardly a number belongs to a character. Where a text has characters of its own in this
  plane, another serves: nothing depends on which one it is. -/
  surrogatePlane : Nat
  surrogatePlane_upper : 4 ≤ surrogatePlane ∧ surrogatePlane ≤ 16
  /-- The report on the problems with the fields of a record that has a name. -/
  report : String → List Complaint → String

end OpenApi
