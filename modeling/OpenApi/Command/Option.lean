/-
Options among the arguments of a command.

An option has one or more names and may take a value, which is the next argument whatever it looks
like, or stands behind an equals sign. Names of one letter may be written together behind one
hyphen. Two hyphens end the options. Where a command has commands of its own, the first argument
that is no option ends them too.
-/
set_option autoImplicit false

namespace OpenApi.Command

/-- An option that a command knows. -/
structure OptionSpec (α : Type) where
  id : α
  names : List String
  takesValue : Bool := false

/-- An option that was given, with its value if it takes one. -/
structure GivenOption (α : Type) where
  id : α
  value : String := ""
deriving DecidableEq, Repr

/-- Arguments told apart: the options in the order they were given, and the rest. -/
structure Scanned (α : Type) where
  given : List (GivenOption α)
  rest : List String

variable {α : Type}

/-- Arguments with one more option in front. -/
def Scanned.give (s : Scanned α) (o : GivenOption α) : Scanned α :=
  { s with given := o :: s.given }

/-- The option of a name. -/
def findOption? (specs : List (OptionSpec α)) (name : String) : Option (OptionSpec α) :=
  specs.find? fun s => s.names.contains name

/-- Whether an argument is written like an option. -/
def looksLikeOption (arg : String) : Bool := arg.startsWith "-" && arg != "-"

/-- The options of letters behind one hyphen. Those that take a value cannot be written so. -/
def letterOptions? (specs : List (OptionSpec α)) (letters : List Char) :
    Option (List (GivenOption α)) :=
  letters.mapM fun c => do
    let spec ← findOption? specs (String.ofList ['-', c])
    if spec.takesValue then none else some { id := spec.id }

/-- An argument that is written like an option: its name, and the value behind an equals sign. -/
def splitOption (arg : String) : String × Option String :=
  let cs := arg.toList
  match cs.dropWhile (· != '=') with
  | [] => (arg, none)
  | _ :: value => (String.ofList (cs.takeWhile (· != '=')), some (String.ofList value))

/-- Tells options and other arguments apart. `mixed` says whether options may follow other
arguments. There is no result if an option is unknown, lacks its value or has one it does not
take. -/
def scanOptions? (specs : List (OptionSpec α)) (mixed : Bool) :
    List String → Option (Scanned α)
  | [] => some ⟨[], []⟩
  | arg :: args =>
    if arg = "--" then some ⟨[], args⟩
    else if !looksLikeOption arg then
      if mixed then (scanOptions? specs mixed args).map fun s => { s with rest := arg :: s.rest }
      else some ⟨[], arg :: args⟩
    else
      let (name, value) := splitOption arg
      match findOption? specs name, value with
      | none, _ =>
        if arg.startsWith "--" then none
        else do
          let given ← letterOptions? specs (arg.toList.drop 1)
          let s ← scanOptions? specs mixed args
          return { s with given := given ++ s.given }
      | some spec, some value =>
        if spec.takesValue then
          (scanOptions? specs mixed args).map (·.give ⟨spec.id, value⟩)
        else none
      | some spec, none =>
        if spec.takesValue then
          match args with
          | [] => none
          | value :: args =>
            (scanOptions? specs mixed args).map (·.give ⟨spec.id, value⟩)
        else
          (scanOptions? specs mixed args).map (·.give { id := spec.id })

/-- Whether an option was given. -/
def Scanned.has [DecidableEq α] (s : Scanned α) (id : α) : Bool := s.given.any (·.id == id)

/-- The value of an option; the last one given counts. -/
def Scanned.value? [DecidableEq α] (s : Scanned α) (id : α) : Option String :=
  (s.given.reverse.find? (·.id == id)).map (·.value)

end OpenApi.Command
