/-
A collector of diagnostics.

A collector keeps diagnostics in the order they come in. A diagnostic has an identity apart from
its content, and one and the same can be added more than once. Some are tagged with a category
when they are added; the tags are kept beside the list, by identity, so that all diagnostics of a
category can be dropped at once.
-/
import OpenApi.Diagnostic
import OpenApi.Text.Quoted

set_option autoImplicit false

namespace OpenApi

/-- The categories a diagnostic can be tagged with: it came from the structure of the document, or
from its grammar. -/
inductive Category where
  | ast
  | grammar
deriving DecidableEq, Repr

namespace Category

def name : Category → String
  | ast => "ast"
  | grammar => "syntax"

def all : List Category := [ast, grammar]

/-- The category of a name. -/
def ofName? (name : String) : Option Category := all.find? (·.name == name)

/-- What is said of a name that is no category's. -/
def unknownMessage [Host] (name : String) : String :=
  s!"{Text.quoted name} is not a valid DiagnosticCategory"

end Category

/-- A diagnostic with its identity. -/
structure Finding where
  identity : Nat
  diagnostic : Diagnostic
deriving DecidableEq, Repr

/-- Findings in order, and the identities tagged with each category, each once. -/
structure Collector where
  findings : List Finding
  members : Category → List Nat

namespace Collector

def empty : Collector := ⟨[], fun _ => []⟩

/-- Tags an identity. -/
def tag (members : Category → List Nat) (category : Category) (identity : Nat) :
    Category → List Nat :=
  fun c =>
    if c = category then
      if (members c).contains identity then members c else members c ++ [identity]
    else members c

/-- Adds a finding, with a tag if one is given. -/
def add (c : Collector) (f : Finding) (category : Option Category) : Collector :=
  { findings := c.findings ++ [f]
    members := match category with
      | none => c.members
      | some category => tag c.members category f.identity }

/-- The diagnostics collected so far. -/
def diagnostics (c : Collector) : List Diagnostic := c.findings.map (·.diagnostic)

def size (c : Collector) : Nat := c.findings.length

/-- The number of identities tagged with a category. -/
def categorySize (c : Collector) (category : Category) : Nat := (c.members category).length

/-- Drops everything. -/
def clearAll (_ : Collector) : Collector := empty

/-- Drops the findings tagged with a category, and their tags of that category. -/
def clearCategory (c : Collector) (category : Category) : Collector :=
  { findings := c.findings.filter fun f => !(c.members category).contains f.identity
    members := fun other => if other = category then [] else c.members other }

end Collector

end OpenApi
