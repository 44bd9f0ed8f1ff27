/-
The world around the program: files, variables, the terminal, standard input and web addresses.

Everything the program learns from outside is a field of this record, so that what it does is a
function of its arguments and a world. Paths that do not start with a slash are taken from the
working directory. Standard output may be unable to take a text that has no encoding there.
-/
import OpenApi.Failure
import OpenApi.Path
import OpenApi.Text.Charset
import OpenApi.Text.Quoted
import OpenApi.Transport

set_option autoImplicit false

namespace OpenApi

/-! ## What is out there -/

/-- What stands at a path. -/
inductive FileEntry where
  | file (bytes : List UInt8)
  | directory
deriving DecidableEq, Repr

/-- An error of the system: the name of its kind, its number and its reason. -/
structure SystemFault where
  kind : String
  number : Nat
  reason : String
deriving DecidableEq, Repr

/-- An error of the system about a path, as an accident. -/
def SystemFault.about [Host] (f : SystemFault) (path : String) : Accident :=
  ⟨f.kind, s!"[Errno {f.number}] {f.reason}: {Text.quoted path}"⟩

/-- A response to a request. -/
structure Response where
  status : Nat
  /-- The names and values of its headers. -/
  headers : List (String × String)
  body : List UInt8
deriving DecidableEq, Repr

namespace Response

/-- The value of a header. Capitals in its name do not matter. -/
def header? (r : Response) (name : String) : Option String :=
  (r.headers.find? fun h => Text.lower h.1 == name).map (·.2)

/-- The text of the body. -/
def text (r : Response) : String :=
  ((r.header? "content-type").elim .utf8 Text.Charset.ofMediaType).decode r.body

end Response

/-- What a web address gives: a response, or a failure to get one. Some failures are not of the
kind that a request is expected to end in. -/
inductive Reply where
  | response (r : Response)
  | unreachable (message : String)
  | broken (a : Accident)
deriving DecidableEq, Repr

/-- What an output in UTF-8 has against a text. -/
def encodingAccident? [Host] (text : String) : Option Accident :=
  (Text.encodeProblem? text).map fun problem => ⟨"UnicodeEncodeError", problem⟩

/-- The surroundings of the program. -/
structure World where
  /-- What stands at which path, by paths that start with a slash. -/
  entries : List (String × FileEntry)
  /-- What the system has against entering a directory, or against opening a file, by paths that
  start with a slash. -/
  faults : List (String × SystemFault) := []
  /-- The variables that are set, with their values. -/
  environment : List (String × String)
  /-- The name of the operating system. -/
  platform : String
  /-- The home directory that the system knows of for the user, if it knows of one. -/
  home : Option String
  /-- The working directory. -/
  directory : String
  /-- The bytes of standard input. -/
  input : List UInt8
  /-- Whether standard output is a terminal. -/
  terminal : Bool
  /-- What standard output has against a text, if it cannot take it. -/
  refusal : String → Option Accident
  /-- What a web address gives. -/
  request : String → Reply
  /-- How serving through a transport ends. -/
  serving : Transport → TransportEnd

namespace World

/-- The value of a variable. -/
def env? (w : World) (name : String) : Option String :=
  (w.environment.find? fun v => v.1 == name).map (·.2)

/-! ## Files -/

def entry? (w : World) (path : String) : Option FileEntry :=
  (w.entries.find? fun e => e.1 == path).map (·.2)

/-- Whether a path is that of a directory: it is listed as one, or something stands below it. -/
def isDirectory (w : World) (path : String) : Bool :=
  w.entry? path == some .directory || path == "/" ||
    w.entries.any fun e => e.1.startsWith (path ++ "/")

/-- The path of names from the top on. -/
def place (names : List String) : String := "/" ++ String.intercalate "/" names

/-- What stands behind names from the top on. -/
def standing? (w : World) (names : List String) : Option FileEntry :=
  if w.isDirectory (place names) then some .directory else w.entry? (place names)

/-- Where a way along names ends. -/
inductive Lookup where
  | found (names : List String) (entry : FileEntry)
  | missing
  /-- A file stands where a directory is needed. -/
  | blocked
  /-- A name is longer than names can be. -/
  | tooLong
  /-- A directory on the way cannot be entered. -/
  | failed (f : SystemFault)
deriving DecidableEq, Repr

/-- The number of bytes that a name can have, and that a path must stay below. -/
def nameLimit : Nat := 255

def pathLimit : Nat := 4096

/-- What the system has against what stands at a place. -/
def fault? (w : World) (names : List String) : Option SystemFault :=
  (w.faults.find? fun f => f.1 == place names).map (·.2)

/-- Follows names from a place on. Every step needs a directory to step from that can be
entered. -/
def follow (w : World) (here : List String) : List String → Lookup
  | [] =>
    match w.standing? here with
    | some entry => .found here entry
    | none => .missing
  | name :: rest =>
    match w.standing? here with
    | none => .missing
    | some (.file _) => .blocked
    | some .directory =>
      match w.fault? here with
      | some f => .failed f
      | none =>
        if name = ".." then w.follow here.dropLast rest
        else if nameLimit < name.utf8ByteSize then .tooLong
        else w.follow (here ++ [name]) rest

/-- Whether a character stands for a byte of a path that is no text. -/
def isStrayByte [Host] (c : Char) : Bool :=
  (Text.surrogate? c).any fun code => 0xDC80 ≤ code && code ≤ 0xDCFF

/-- Why no path can be written like this, apart from null characters. -/
def pathProblem? [Host] (path : String) : Option Accident :=
  encodingAccident? (String.ofList (path.toList.map fun c => if isStrayByte c then '?' else c))

/-- What a path leads to. No path has a null character in it, or a character without encoding. -/
def lookup [Host] (w : World) (path : String) : Lookup :=
  let start := if Path.isAbsolute path then [] else Path.parts w.directory
  if path.toList.contains '\x00' || (pathProblem? path).isSome then .missing
  else if pathLimit ≤ path.utf8ByteSize then .tooLong
  else w.follow start (Path.parts path)

def noSuchFile : SystemFault := ⟨"FileNotFoundError", 2, "No such file or directory"⟩

def notADirectory : SystemFault := ⟨"NotADirectoryError", 20, "Not a directory"⟩

def isADirectory : SystemFault := ⟨"IsADirectoryError", 21, "Is a directory"⟩

def nameTooLong : SystemFault := ⟨"OSError", 36, "File name too long"⟩

/-- The numbers of the errors that mean that there is no file. -/
def absenceNumbers : List Nat := [2, 9, 20, 40]

/-- Why it is not known what a file holds. -/
inductive FileError where
  /-- The file cannot be opened. -/
  | unopened (a : Accident)
  | accident (a : Accident)
deriving DecidableEq, Repr

/-- The bytes of the file that a path leads to, if it leads to one. A name that is too long is an
accident, and so is a directory that cannot be entered. -/
def fileBytes? [Host] (w : World) (path : String) : Except FileError (Option (List UInt8)) :=
  match w.lookup (Path.normal path) with
  | .found names (.file bytes) =>
    match w.fault? names with
    | some f => .error (.unopened (f.about (Path.normal path)))
    | none => .ok (some bytes)
  | .tooLong => .error (.accident (nameTooLong.about (Path.normal path)))
  | .failed f =>
    if absenceNumbers.contains f.number then .ok none
    else .error (.accident (f.about (Path.normal path)))
  | _ => .ok none

/-- Bytes as text with line feeds as the only line ends. -/
def bytesText (bytes : List UInt8) : Except Text.Utf8Fault String :=
  (Text.decodeUtf8 bytes).map fun text => String.ofList (Text.unifyLineEnds text.toList)

/-- Bytes that are no text, as an accident. -/
def undecodable (fault : Text.Utf8Fault) : Accident := ⟨"UnicodeDecodeError", fault.message⟩

/-- The text of the file that a path leads to, if it leads to one. Bytes that are no text are an
accident. -/
def fileText? [Host] (w : World) (path : String) : Except FileError (Option String) :=
  match w.fileBytes? path with
  | .error e => .error e
  | .ok none => .ok none
  | .ok (some bytes) =>
    match bytesText bytes with
    | .ok text => .ok (some text)
    | .error fault => .error (.accident (undecodable fault))

/-- The text of standard input. -/
def inputText (w : World) : Except Text.Utf8Fault String := bytesText w.input

end World

end OpenApi
