/-
The text of a value, as titles, names, types and messages show it.

A text is shown as it is; inside a container it is quoted. A container that is met again inside
itself is shown by an ellipsis between its brackets, so the text of a cyclic document is finite:
the containers on the way down are all different, and there are only finitely many. A value has no
text if it holds an integer with too many digits to be written, or more containers inside one
another than the host can follow.
-/
import OpenApi.Document.Graph
import OpenApi.Failure
import OpenApi.Host
import OpenApi.Text.Quoted

set_option autoImplicit false

namespace OpenApi

open OpenApi.Decimal

/-- A scalar inside a container. -/
def Scalar.shown [Host] : Scalar → Except Unwritable String
  | .null => .ok "None"
  | .bool true => .ok "True"
  | .bool false => .ok "False"
  | .int n => (writeInt n).mapError .digits
  | .float x => .ok (x.write plainLayout)
  | .str s => .ok (Text.quoted s)
  | .bytes b => .ok (Text.quotedBytes b)
  | .date d => .ok d.shown
  | .timestamp t => .ok t.shown

/-- A scalar on its own. -/
def Scalar.text [Host] : Scalar → Except Unwritable String
  | .str s => .ok s
  | .date d => .ok d.text
  | .timestamp t => .ok (t.text " ")
  | s => s.shown

namespace Graph

/-- A value inside a container. `around` lists the containers that are being shown, and there is
`room` for so many more. -/
def shownWithin [Host] (g : Graph) :
    (room : Nat) → (around : List Nat) → Value → Except Unwritable String
  | _, _, .scalar s => s.shown
  | 0, _, .container _ => .error .depth
  | room + 1, around, .container id =>
    let inside := g.shownWithin room (id :: around)
    let parts : Except Unwritable (List String) :=
      if around.contains id then .ok ["..."]
      else match g.shape (.container id) with
        | .scalar s => [s].mapM Scalar.shown
        | .mapping entries =>
          entries.mapM fun e => do return (← e.1.shown) ++ ": " ++ (← inside e.2)
        | .sequence items => items.mapM inside
        | .pair first second => [first, second].mapM inside
        | .set members => members.mapM Scalar.shown
    parts.map fun parts =>
      let body := String.intercalate ", " parts
      match g.shape (.container id) with
      | .scalar _ => body
      | .mapping _ => "\x7b" ++ body ++ "\x7d"
      | .sequence _ => "[" ++ body ++ "]"
      | .pair _ _ => "(" ++ body ++ ")"
      | .set [] => "set()"
      | .set _ => "\x7b" ++ body ++ "\x7d"

/-- A value inside a container or a message. -/
def shown [Host] (g : Graph) (v : Value) : Except Unwritable String :=
  g.shownWithin Host.containers [] v

/-- A value on its own. -/
def text [Host] (g : Graph) : Value → Except Unwritable String
  | .scalar s => s.text
  | v => g.shown v

/-- A value in a report, which describes one that has no text. -/
def described [Host] (g : Graph) (v : Value) : String :=
  match g.shown v with
  | .ok text => text
  | .error _ => s!"<unprintable {(g.shape v).typeName} object>"

end Graph

end OpenApi
