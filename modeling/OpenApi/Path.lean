/-
Paths: names with slashes between them.

A path is absolute if it starts with a slash. Exactly two slashes at the start are kept, any other
number of them counts as one. Empty names and single dots mean nothing; two dots are a step up,
which only the place that a path leads to can settle, unless it is settled by the names alone.
-/
set_option autoImplicit false

namespace OpenApi.Path

/-- The texts between the slashes of a text, behind the letters of one that has begun. -/
def betweenSlashes (begun : List Char) : List Char → List String
  | [] => [String.ofList begun]
  | c :: rest =>
    if c == '/' then String.ofList begun :: betweenSlashes [] rest
    else betweenSlashes (begun ++ [c]) rest

/-- The names along a path, without empty ones and without those that mean "here". -/
def parts (path : String) : List String :=
  (betweenSlashes [] path.toList).filter fun part => part != "" && part != "."

def isAbsolute (path : String) : Bool := path.startsWith "/"

/-- The slashes that a path is taken to start with. -/
def rootMark (path : String) : String :=
  match (path.toList.takeWhile (· == '/')).length with
  | 0 => ""
  | 2 => "//"
  | _ => "/"

/-- The shortest spelling of a path. Steps up are kept as they are. -/
def normal (path : String) : String :=
  let spelled := rootMark path ++ String.intercalate "/" (parts path)
  if spelled = "" then "." else spelled

/-- A path below another; one that starts with a slash stands for itself. -/
def join (base child : String) : String :=
  if isAbsolute child then normal child
  else if base = "" || base.endsWith "/" then normal (base ++ child)
  else normal (base ++ "/" ++ child)

/-- Names with the steps up among them settled; at the top a step up leads nowhere. -/
def settle (names : List String) : List String :=
  names.foldl (fun done name => if name = ".." then done.dropLast else done ++ [name]) []

/-- A path from the top on, taken from a directory, with steps up settled by the names alone. -/
def absolute (directory path : String) : String :=
  let full := if isAbsolute path then path else directory ++ "/" ++ path
  rootMark full ++ String.intercalate "/" (settle (parts full))

end OpenApi.Path
