/-
The pre-order of a concrete tree, with everything a node has to know of its surroundings.

`Concrete.placed` lists the nodes of a tree in pre-order, by recursion on the tree. Each entry
carries the subtree that stands at the node, and its number, parent and depth. Numbers count
through the pre-order, so those of a subtree fill an interval that starts with its root
(`placed_handles`), and the children of a node are the roots that follow one another from the
number behind its own, each as far from the one before as that one has nodes (`Placed.sprouts`).

Two facts tie the list to the tree and carry all else: the children of an entry are entries
(`sprouts_mem_placed`), and every entry but the first is the child of one (`mem_placed_cases`).
-/
import Mathlib.Data.List.Nodup
import OpenApi.Tree.Arena

set_option autoImplicit false

namespace OpenApi.Tree

/-- A place in the first row of a text without wide characters. -/
def Place.inFirstRow (column : Nat) : Place := ⟨column, 0, column⟩

/-- A node in its place in a pre-order: the tree that stands there, its number, the number of its
parent and its depth. -/
structure Placed where
  tree : Concrete
  handle : Nat
  parent : Option Handle
  depth : Nat

namespace Concrete

mutual

/-- The labels of a tree in pre-order. -/
def labels : Concrete → List Label
  | node label children => label :: labelsAll children

def labelsAll : List Concrete → List Label
  | [] => []
  | t :: rest => t.labels ++ labelsAll rest

end

/-- The roots of trees that follow one another, the first one at a number. -/
def roots (parent : Option Handle) (depth first : Nat) : List Concrete → List Placed
  | [] => []
  | t :: rest => ⟨t, first, parent, depth⟩ :: roots parent depth (first + t.size) rest

mutual

/-- The nodes of a tree in pre-order, the first one at a number. -/
def placed (parent : Option Handle) (depth first : Nat) : Concrete → List Placed
  | node label children =>
    ⟨node label children, first, parent, depth⟩
      :: placedAll (some first) (depth + 1) (first + 1) children

def placedAll (parent : Option Handle) (depth first : Nat) : List Concrete → List Placed
  | [] => []
  | t :: rest =>
    t.placed parent depth first ++ placedAll parent depth (first + t.size) rest

end

end Concrete

/-- The children of a node, from left to right. -/
def Placed.sprouts (x : Placed) : List Placed :=
  Concrete.roots (some x.handle) (x.depth + 1) (x.handle + 1) x.tree.children

namespace Concrete

/-! ## Roots -/

theorem roots_trees (parent : Option Handle) (depth first : Nat) (ts : List Concrete) :
    (roots parent depth first ts).map Placed.tree = ts := by
  induction ts generalizing first with
  | nil => rfl
  | cons t ts ih => rw [roots, List.map_cons, ih]

theorem parent_of_mem_roots {parent : Option Handle} {depth first : Nat} {ts : List Concrete}
    {x : Placed} (hx : x ∈ roots parent depth first ts) : x.parent = parent ∧ x.depth = depth := by
  induction ts generalizing first with
  | nil => cases hx
  | cons t ts ih =>
    rw [roots] at hx
    rcases List.mem_cons.mp hx with rfl | hx
    · exact ⟨rfl, rfl⟩
    · exact ih hx

/-- The nodes of a root lie within those of all the trees. -/
theorem bounds_of_mem_roots {parent : Option Handle} {depth first : Nat} {ts : List Concrete}
    {x : Placed} (hx : x ∈ roots parent depth first ts) :
    first ≤ x.handle ∧ x.handle + x.tree.size ≤ first + sizes ts := by
  induction ts generalizing first with
  | nil => cases hx
  | cons t ts ih =>
    rw [roots] at hx
    rw [sizes]
    rcases List.mem_cons.mp hx with rfl | hx
    · exact ⟨Nat.le_refl _, by dsimp only; omega⟩
    · have := ih hx
      omega

/-- The roots stand in ascending order. -/
theorem roots_pairwise (parent : Option Handle) (depth first : Nat) (ts : List Concrete) :
    (roots parent depth first ts).Pairwise fun x y => x.handle < y.handle := by
  induction ts generalizing first with
  | nil => exact List.Pairwise.nil
  | cons t ts ih =>
    refine List.Pairwise.cons ?_ (ih _)
    intro y hy
    -- the roots to the right start behind all nodes of this one, of which there is one at least
    have hbounds := bounds_of_mem_roots hy
    have hpos := t.size_pos
    dsimp only
    omega

/-- The intervals of the roots follow one another. -/
theorem roots_intervals (parent : Option Handle) (depth first : Nat) (ts : List Concrete) :
    (roots parent depth first ts).flatMap (fun x => List.range' x.handle x.tree.size)
      = List.range' first (sizes ts) := by
  induction ts generalizing first with
  | nil => rfl
  | cons t ts ih =>
    rw [roots, List.flatMap_cons, ih, sizes, List.range'_append_1]

/-! ## Numbers -/

mutual

/-- The numbers of a tree's nodes follow one another. -/
theorem placed_handles (parent : Option Handle) (depth first : Nat) : (t : Concrete) →
    (t.placed parent depth first).map Placed.handle = List.range' first t.size
  | node label children => by
    rw [placed, List.map_cons, placedAll_handles, size, Nat.add_comm 1, List.range'_succ]

theorem placedAll_handles (parent : Option Handle) (depth first : Nat) : (ts : List Concrete) →
    (placedAll parent depth first ts).map Placed.handle = List.range' first (sizes ts)
  | [] => rfl
  | t :: rest => by
    rw [placedAll, List.map_append, placed_handles, placedAll_handles, sizes, List.range'_append_1]

end

mutual

theorem placed_labels (parent : Option Handle) (depth first : Nat) : (t : Concrete) →
    (t.placed parent depth first).map (fun x => x.tree.label) = t.labels
  | node label children => by rw [placed, List.map_cons, placedAll_labels, labels]; rfl

theorem placedAll_labels (parent : Option Handle) (depth first : Nat) : (ts : List Concrete) →
    (placedAll parent depth first ts).map (fun x => x.tree.label) = labelsAll ts
  | [] => rfl
  | t :: rest => by
    rw [placedAll, List.map_append, placed_labels, placedAll_labels, labelsAll]

end

theorem length_placed (parent : Option Handle) (depth first : Nat) (t : Concrete) :
    (t.placed parent depth first).length = t.size := by
  have h := congrArg List.length (placed_handles parent depth first t)
  rwa [List.length_map, List.length_range'] at h

/-! ## Children -/

theorem root_mem_placed (parent : Option Handle) (depth first : Nat) (t : Concrete) :
    ⟨t, first, parent, depth⟩ ∈ t.placed parent depth first := by
  cases t with
  | node label children =>
    rw [placed]
    exact List.mem_cons_self

theorem roots_subset_placedAll (parent : Option Handle) (depth first : Nat) (ts : List Concrete) :
    roots parent depth first ts ⊆ placedAll parent depth first ts := by
  induction ts generalizing first with
  | nil => exact List.Subset.refl _
  | cons t ts ih =>
    intro x hx
    rw [roots] at hx
    rw [placedAll, List.mem_append]
    rcases List.mem_cons.mp hx with rfl | hx
    · exact .inl (root_mem_placed parent depth first t)
    · exact .inr (ih _ hx)

mutual

/-- The children of an entry are entries. -/
theorem sprouts_mem_placed {parent : Option Handle} {depth first : Nat} : (t : Concrete) →
    ∀ x ∈ t.placed parent depth first, ∀ y ∈ x.sprouts, y ∈ t.placed parent depth first
  | node label children => by
    intro x hx y hy
    rw [placed] at hx ⊢
    rcases List.mem_cons.mp hx with rfl | hx
    · exact List.mem_cons_of_mem _ (roots_subset_placedAll _ _ _ children hy)
    · exact List.mem_cons_of_mem _ (sprouts_mem_placedAll children x hx y hy)

theorem sprouts_mem_placedAll {parent : Option Handle} {depth first : Nat} :
    (ts : List Concrete) → ∀ x ∈ placedAll parent depth first ts, ∀ y ∈ x.sprouts,
      y ∈ placedAll parent depth first ts
  | [] => by
    intro x hx
    cases hx
  | t :: rest => by
    intro x hx y hy
    rw [placedAll, List.mem_append] at hx ⊢
    rcases hx with hx | hx
    · exact .inl (sprouts_mem_placed t x hx y hy)
    · exact .inr (sprouts_mem_placedAll rest x hx y hy)

end

mutual

/-- Every entry is the first one, or the child of an entry. -/
theorem mem_placed_cases {parent : Option Handle} {depth first : Nat} : (t : Concrete) →
    ∀ y ∈ t.placed parent depth first,
      y = ⟨t, first, parent, depth⟩ ∨ ∃ x ∈ t.placed parent depth first, y ∈ x.sprouts
  | node label children => by
    intro y hy
    rw [placed] at hy ⊢
    rcases List.mem_cons.mp hy with rfl | hy
    · exact .inl rfl
    · rcases mem_placedAll_cases children y hy with hroot | ⟨x, hx, hsprout⟩
      · exact .inr ⟨_, List.mem_cons_self, hroot⟩
      · exact .inr ⟨x, List.mem_cons_of_mem _ hx, hsprout⟩

theorem mem_placedAll_cases {parent : Option Handle} {depth first : Nat} :
    (ts : List Concrete) → ∀ y ∈ placedAll parent depth first ts,
      y ∈ roots parent depth first ts ∨ ∃ x ∈ placedAll parent depth first ts, y ∈ x.sprouts
  | [] => by
    intro y hy
    cases hy
  | t :: rest => by
    intro y hy
    rw [placedAll] at hy ⊢
    rw [roots]
    rcases List.mem_append.mp hy with hy | hy
    · rcases mem_placed_cases t y hy with rfl | ⟨x, hx, hsprout⟩
      · exact .inl List.mem_cons_self
      · exact .inr ⟨x, List.mem_append_left _ hx, hsprout⟩
    · rcases mem_placedAll_cases rest y hy with hroot | ⟨x, hx, hsprout⟩
      · exact .inl (List.mem_cons_of_mem _ hroot)
      · exact .inr ⟨x, List.mem_append_right _ hx, hsprout⟩

end

mutual

/-- The nodes of an entry's tree lie within those of the whole tree. -/
theorem bounds_of_mem_placed {parent : Option Handle} {depth first : Nat} : (t : Concrete) →
    ∀ x ∈ t.placed parent depth first,
      first ≤ x.handle ∧ x.handle + x.tree.size ≤ first + t.size
  | node label children => by
    intro x hx
    rw [placed] at hx
    rw [size]
    rcases List.mem_cons.mp hx with rfl | hx
    · exact ⟨Nat.le_refl _, by simp only [size, Nat.le_refl]⟩
    · have := bounds_of_mem_placedAll children x hx
      omega

theorem bounds_of_mem_placedAll {parent : Option Handle} {depth first : Nat} :
    (ts : List Concrete) → ∀ x ∈ placedAll parent depth first ts,
      first ≤ x.handle ∧ x.handle + x.tree.size ≤ first + sizes ts
  | [] => by
    intro x hx
    cases hx
  | t :: rest => by
    intro x hx
    rw [placedAll, List.mem_append] at hx
    rw [sizes]
    rcases hx with hx | hx
    · have := bounds_of_mem_placed t x hx
      omega
    · have := bounds_of_mem_placedAll rest x hx
      omega

end

/-- An entry is known by its number. -/
theorem placed_handle_inj {parent : Option Handle} {depth first : Nat} {t : Concrete}
    {x y : Placed} (hx : x ∈ t.placed parent depth first) (hy : y ∈ t.placed parent depth first)
    (h : x.handle = y.handle) : x = y := by
  have hnodup : ((t.placed parent depth first).map Placed.handle).Nodup := by
    rw [placed_handles]
    exact List.nodup_range'
  exact List.inj_on_of_nodup_map hnodup hx hy h

end Concrete

end OpenApi.Tree
