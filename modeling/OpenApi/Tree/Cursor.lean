/-
A cursor in a concrete tree.

The cursor stands on a node and remembers, for every node above it, the siblings to the left and
to the right of the way down. It moves to the first child, to the next sibling and to the parent;
these three moves visit a whole tree in pre-order without any recursion on the tree.
-/
import OpenApi.Tree.Concrete

set_option autoImplicit false

namespace OpenApi.Tree

/-- A node above the cursor: its label, and its other children on either side of the way down.
Those on the left are kept nearest first. -/
structure Frame where
  label : Label
  left : List Concrete
  right : List Concrete

/-- A node of a tree together with the way to it, innermost first. -/
structure Cursor where
  focus : Concrete
  path : List Frame

namespace Cursor

/-- The cursor on the root of a tree. -/
def ofTree (t : Concrete) : Cursor := ⟨t, []⟩

/-- Moves to the first child, if there is one. -/
def firstChild? (c : Cursor) : Option Cursor :=
  match c.focus.children with
  | [] => none
  | child :: rest => some ⟨child, ⟨c.focus.label, [], rest⟩ :: c.path⟩

/-- Moves to the next sibling, if there is one. -/
def nextSibling? (c : Cursor) : Option Cursor :=
  match c.path with
  | [] => none
  | frame :: path =>
    match frame.right with
    | [] => none
    | next :: rest => some ⟨next, ⟨frame.label, c.focus :: frame.left, rest⟩ :: path⟩

/-- Moves to the parent, if there is one. -/
def parent? (c : Cursor) : Option Cursor :=
  match c.path with
  | [] => none
  | frame :: path =>
    some ⟨.node frame.label (frame.left.reverse ++ c.focus :: frame.right), path⟩

theorem path_parent {c up : Cursor} (h : c.parent? = some up) :
    up.path.length < c.path.length := by
  rcases c with ⟨focus, _ | ⟨frame, path⟩⟩
  · simp [parent?] at h
  · simp only [parent?, Option.some.injEq] at h
    subst h
    simp

/-- Moves up until there is a next sibling and on to that, and counts the steps up. -/
def climb? (c : Cursor) : Option (Cursor × Nat) :=
  match c.nextSibling? with
  | some next => some (next, 0)
  | none =>
    match h : c.parent? with
    | none => none
    | some up =>
      have := path_parent h
      up.climb?.map fun (next, steps) => (next, steps + 1)
termination_by c.path.length

/-! ## What lies ahead -/

/-- The number of nodes to the right of the way down. -/
def aside : List Frame → Nat
  | [] => 0
  | frame :: path => Concrete.sizes frame.right + aside path

/-- The number of nodes the cursor has not left behind: those of its focus and those to the right
of the way down to it. -/
def ahead (c : Cursor) : Nat := c.focus.size + aside c.path

theorem ahead_firstChild {c next : Cursor} (h : c.firstChild? = some next) :
    next.ahead < c.ahead := by
  rcases c with ⟨⟨label, _ | ⟨child, rest⟩⟩, path⟩
  · simp [firstChild?, Concrete.children] at h
  · simp only [firstChild?, Concrete.children, Option.some.injEq] at h
    subst h
    simp only [ahead, aside, Concrete.size, Concrete.sizes]
    omega

theorem ahead_nextSibling {c next : Cursor} (h : c.nextSibling? = some next) :
    next.ahead + c.focus.size = c.ahead := by
  rcases c with ⟨focus, _ | ⟨⟨label, left, _ | ⟨sibling, rest⟩⟩, path⟩⟩
  · simp [nextSibling?] at h
  · simp [nextSibling?] at h
  · simp only [nextSibling?, Option.some.injEq] at h
    subst h
    simp only [ahead, aside, Concrete.sizes]
    omega

theorem aside_climb {c next : Cursor} {steps : Nat} (h : c.climb? = some (next, steps)) :
    next.ahead ≤ aside c.path := by
  fun_induction climb? c generalizing next steps with
  | case1 c sibling found =>
    obtain ⟨rfl, _⟩ : sibling = next ∧ 0 = steps := by simpa using h
    have := ahead_nextSibling found
    simp only [ahead] at this ⊢
    omega
  | case2 c _ _ => simp at h
  | case3 c alone up moved _ ih =>
    cases found : up.climb? with
    | none => simp [found] at h
    | some result =>
      obtain ⟨after, more⟩ := result
      have same : after = next := by
        rw [found] at h
        simp at h
        exact h.1
      subst same
      have bound := ih found
      rcases c with ⟨focus, _ | ⟨frame, path⟩⟩
      · simp [parent?] at moved
      · simp only [parent?, Option.some.injEq] at moved
        subst moved
        simp only [aside]
        exact Nat.le_trans bound (Nat.le_add_left _ _)

theorem ahead_climb {c next : Cursor} {steps : Nat} (h : c.climb? = some (next, steps)) :
    next.ahead < c.ahead := by
  have bound := aside_climb h
  have := c.focus.size_pos
  simp only [ahead] at bound ⊢
  omega

end Cursor

end OpenApi.Tree
