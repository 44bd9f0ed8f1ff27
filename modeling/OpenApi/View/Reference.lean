/-
References: every `$ref` text of a document, depth first.

The walk keeps the values still to be visited on a stack and remembers the containers it has
been to, so that a shared container is walked once and a cycle ends. It terminates because each
visit either takes a value off the stack or marks a container that was not marked before.
-/
import OpenApi.Document.Graph

set_option autoImplicit false

namespace OpenApi

/-- The values a walk goes on to from a container: the values of a mapping, the items of a
sequence. -/
def Shape.children : Shape → List Value
  | .mapping entries => entries.map (·.2)
  | .sequence items => items
  | _ => []

/-- The reference of a mapping, if it has one that is not empty. -/
def Shape.reference? : Shape → Option String
  | .mapping entries =>
    match entries.read "$ref" with
    | .scalar (.str target) => if target == "" then none else some target
    | _ => none
  | _ => none

/-- Whether the walk enters a container: mappings and sequences only. -/
def Shape.isWalked : Shape → Bool
  | .mapping _ => true
  | .sequence _ => true
  | _ => false

namespace Graph

/-- How many containers have not been marked. -/
def unseen (g : Graph) (seen : List Nat) : Nat :=
  (List.range g.containers.size).countP fun id => !seen.contains id

theorem countP_lt_of_imp {p q : Nat → Bool} {l : List Nat} (hpq : ∀ a, p a = true → q a = true)
    {a : Nat} (ha : a ∈ l) (hq : q a = true) (hp : p a = false) : l.countP p < l.countP q := by
  induction l with
  | nil => cases ha
  | cons b l ih =>
    have mono : l.countP p ≤ l.countP q := List.countP_mono_left fun x _ => hpq x
    rcases List.mem_cons.1 ha with rfl | hmem
    · simp only [List.countP_cons, hp, hq, Bool.false_eq_true, if_false, if_true]
      omega
    · have := ih hmem
      simp only [List.countP_cons]
      by_cases hb : p b = true
      · simp only [hb, hpq b hb, if_true]
        omega
      · simp only [hb, Bool.false_eq_true, if_false]
        split <;> omega

/-- Marking a container that was not marked leaves fewer. -/
theorem unseen_cons_lt (g : Graph) {seen : List Nat} {id : Nat} (hid : id < g.containers.size)
    (hnew : seen.contains id = false) : g.unseen (id :: seen) < g.unseen seen := by
  refine countP_lt_of_imp (a := id) ?_ (List.mem_range.2 hid) (by rw [hnew]; rfl) (by simp)
  intro a h
  simp only [List.contains_cons, Bool.not_or, Bool.and_eq_true] at h
  exact h.2

/-- The references met by a walk over the values of a stack, the top one first. -/
def referencesFrom (g : Graph) (seen : List Nat) : List Value → List String
  | [] => []
  | .scalar _ :: rest => g.referencesFrom seen rest
  | .container id :: rest =>
    if _h : id < g.containers.size ∧ seen.contains id = false then
      let shape := g.shape (.container id)
      if shape.isWalked then
        shape.reference?.toList
          ++ g.referencesFrom (id :: seen) (shape.children ++ rest)
      else g.referencesFrom seen rest
    else g.referencesFrom seen rest
termination_by stack => (g.unseen seen, stack.length)
decreasing_by
  · exact Prod.Lex.right _ (by simp)
  · exact Prod.Lex.left _ _ (unseen_cons_lt g _h.1 _h.2)
  · exact Prod.Lex.right _ (by simp)
  · exact Prod.Lex.right _ (by simp)

end Graph

/-- Every reference of a document. -/
def Document.references (d : Document) : List String :=
  d.graph.referencesFrom [] [d.root]

end OpenApi
