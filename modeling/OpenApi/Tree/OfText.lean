/-
The arena of a document text: the grammar of its format applied to the same text that is decoded.
-/
import OpenApi.Json.Tree
import OpenApi.Tree.Arena
import OpenApi.Yaml.Tree

set_option autoImplicit false

namespace OpenApi.Tree

/-- The concrete tree of a text in a format. -/
def Concrete.ofText [Host] (format : Format) (text : List Char) : Concrete :=
  match format with
  | .json => Json.tree text
  | .yaml => Yaml.tree text

/-- The arena of a text in a format, or in the one it is taken for. -/
def Arena.ofText [Host] (text : String) (format : Option Format) : Arena :=
  let format := format.getD (detectFormat text)
  .ofConcrete (.ofText format text.toList) text format

end OpenApi.Tree
