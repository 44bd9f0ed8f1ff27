/-
Web addresses: their parts, and addresses that are given relative to others.

An address has a scheme, an authority, a path, a query and a fragment, of which a relative address
leaves out some at the front. What is left out is taken from the address it is relative to; a path
that does not start with a slash goes on from the last slash of the other path, and steps up and
dots in it are settled.
-/
import OpenApi.Text.Quoted

set_option autoImplicit false

namespace OpenApi

/-- The parts of an address. -/
structure Url where
  scheme : String
  authority : Option String
  path : String
  query : Option String
  fragment : Option String
deriving DecidableEq, Repr

namespace Url

/-- Splits at the first of a character: what comes before it, and what behind if it is there. -/
def splitFirst (mark : Char) (cs : List Char) : List Char × Option (List Char) :=
  match cs.dropWhile (· != mark) with
  | [] => (cs, none)
  | _ :: rest => (cs.takeWhile (· != mark), some rest)

/-- Whether characters make up the name of a scheme. -/
def isScheme (cs : List Char) : Bool :=
  (cs.head?.any Char.isAlpha) && cs.all fun c => c.isAlphanum || c == '+' || c == '-' || c == '.'

/-- The parts of an address, or of a relative one, which has no scheme. -/
def parse (text : String) : Url :=
  let (cs, fragment) := splitFirst '#' text.toList
  let (cs, query) := splitFirst '?' cs
  let (scheme, cs) :=
    match splitFirst ':' cs with
    | (name, some rest) => if isScheme name then (name, rest) else ([], cs)
    | (_, none) => ([], cs)
  let (authority, path) :=
    match cs with
    | '/' :: '/' :: rest => (some (rest.takeWhile (· != '/')), rest.dropWhile (· != '/'))
    | cs => (none, cs)
  { scheme := String.ofList scheme
    authority := authority.map String.ofList
    path := String.ofList path
    query := query.map String.ofList
    fragment := fragment.map String.ofList }

/-- The text of an address. -/
def text (u : Url) : String :=
  (if u.scheme = "" then "" else u.scheme ++ ":")
    ++ u.authority.elim "" ("//" ++ ·)
    ++ (if u.authority.isSome && u.path != "" && !u.path.startsWith "/" then "/" else "") ++ u.path
    ++ u.query.elim "" ("?" ++ ·) ++ u.fragment.elim "" ("#" ++ ·)

/-! ## Relative addresses -/

/-- Settles the dots and the steps up among the names of a path. -/
def settle (names : List String) : List String :=
  let settled := names.foldl
    (fun done name =>
      if name = ".." then done.dropLast else if name = "." then done else done ++ [name]) []
  if names.getLast? == some "." || names.getLast? == some ".." then settled ++ [""] else settled

/-- Drops empty names except at the ends. -/
def dropInnerEmpty : List String → List String
  | [] => []
  | first :: rest =>
    first :: (rest.dropLast.filter (· != "")) ++ rest.getLast?.toList

/-- The path that a relative one leads to. -/
def joinPath (base relative : String) : String :=
  let names := relative.splitOn "/"
  let names :=
    if relative.startsWith "/" then names
    else
      let before := base.splitOn "/"
      dropInnerEmpty ((if before.getLast? == some "" then before else before.dropLast) ++ names)
  let path := String.intercalate "/" (settle names)
  if path = "" then "/" else path

/-- The address that a relative one leads to. -/
def join (base relative : Url) : Url :=
  if relative.scheme != "" && relative.scheme != base.scheme then relative
  else if relative.authority.isSome then { relative with scheme := base.scheme }
  else if relative.path = "" then
    { relative with
      scheme := base.scheme
      authority := base.authority
      path := base.path
      query := relative.query.or base.query }
  else
    { relative with
      scheme := base.scheme
      authority := base.authority
      path := joinPath base.path relative.path }

/-- The address that another one points to. A fragment is handed on if the new address has none. -/
def follow (base location : Url) : Url :=
  let next := base.join location
  { next with fragment := next.fragment.or base.fragment }

/-! ## Invalid addresses -/

/-- The number of characters that an address may have. -/
def lengthLimit : Nat := 65536

/-- The port of an authority, behind a colon that is not part of a name in brackets. -/
def port (authority : String) : String :=
  let host := ((authority.splitOn "@").getLast?).getD ""
  let behindBrackets := ((host.splitOn "]").getLast?).getD ""
  String.intercalate ":" ((behindBrackets.splitOn ":").drop 1)

/-- Why a text is no address that can be requested. -/
def problem? [Host] (address : String) : Option String :=
  let cs := address.toList
  if lengthLimit < cs.length then some "URL too long"
  else
    match cs.findIdx? fun c => c.toNat < 0x20 || c.toNat == 0x7F with
    | some place =>
      let shown := Text.quoted (String.ofList (cs[place]?.toList))
      some s!"Invalid non-printable ASCII character in URL, {shown} at position {place}."
    | none =>
      let port := port ((parse address).authority.getD "")
      if port = "" || port.toList.all Char.isDigit then none
      else some s!"Invalid port: {Text.quoted port}"

end Url

end OpenApi
