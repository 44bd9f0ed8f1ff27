/-
What the queries of an arena take for granted.

An arena may be put together from any nodes, and then its fields need not agree with each other.
`Arena.WellFormed` says what they have to do with each other where they come from a tree: children
and parents name each other, numbers count through the pre-order, depth counts the nodes above.
These are facts about one node and its children. What follows from them holds along the way up or
down: a node has one way up (`ancestors_linear`), which ends at the root (`root_reaches`), and
numbers grow on the way down (`le_of_reaches`), so that every loop that goes up or down ends.

Every arena that is built from a tree is well-formed (`wellFormed_ofConcrete`), whatever the tree:
it may have errors anywhere, and its extents need not fit a text.
-/
import OpenApi.Proofs.Tree.Preorder

set_option autoImplicit false

namespace OpenApi.Tree.Arena

open Relation (ReflTransGen TransGen)

/-- The nodes of an arena make up a tree and are listed in its pre-order. -/
structure WellFormed (a : Arena) : Prop where
  /-- A walk from the root meets all nodes in the order of their numbers. -/
  preorder : a.walk a.root = List.range a.size
  /-- The children of a node are the nodes that name it as their parent. -/
  mem_children : ∀ p c, c ∈ a.children p ↔ a.IsParent p c
  /-- They stand behind the node, in the order of their numbers. -/
  ascending : ∀ p, (p :: a.children p).Pairwise (· < ·)
  /-- Only the root has no parent. -/
  root : ∀ h, h < a.size → (a.parent? h = none ↔ h = 0)
  /-- Depth counts the nodes above. -/
  depth : ∀ p c m n, a.IsParent p c → a.node? p = some m → a.node? c = some n →
    n.depth = m.depth + 1

/-! ## Up and down -/

section Ways

variable {a : Arena}

theorem IsParent.lt_size {p c : Handle} (h : a.IsParent p c) : c < a.size :=
  lt_size_of_parent? h

theorem exists_node {h : Handle} (hh : h < a.size) : ∃ n, a.node? h = some n :=
  ⟨a.nodes[h], Array.getElem?_eq_getElem hh⟩

theorem lt_size_of_node? {h : Handle} {n : Node} (hn : a.node? h = some n) : h < a.size :=
  (Array.getElem?_eq_some_iff.mp hn).1

/-- What has a kind is a node. -/
theorem lt_size_of_kind {h : Handle} {kind : String} (hkind : a.kind h = kind) (hne : kind ≠ "") :
    h < a.size := by
  cases hn : a.node? h with
  | none =>
    rw [Arena.kind, hn] at hkind
    exact absurd hkind.symm hne
  | some n => exact lt_size_of_node? hn

/-- What is above a node and not the node is above its parent. -/
theorem reaches_parent {x p c : Handle} (habove : TransGen a.IsParent x c)
    (hparent : a.IsParent p c) : ReflTransGen a.IsParent x p := by
  obtain ⟨p', hreach, hp'⟩ := TransGen.tail'_iff.mp habove
  have heq : p' = p := Option.some.inj (hp'.symm.trans hparent)
  rwa [heq] at hreach

/-- **There is one way up.** Of two nodes above a third one is above the other. -/
theorem ancestors_linear {x y c : Handle} (hx : ReflTransGen a.IsParent x c)
    (hy : ReflTransGen a.IsParent y c) :
    ReflTransGen a.IsParent x y ∨ ReflTransGen a.IsParent y x := by
  induction hx with
  | refl => exact .inr hy
  | @tail p c hxp hpc ih =>
    rcases Relation.reflTransGen_iff_eq_or_transGen.mp hy with rfl | habove
    · exact .inl (hxp.tail hpc)
    · exact ih (reaches_parent habove hpc)

namespace WellFormed

theorem lt_of_isParent (ha : a.WellFormed) {p c : Nat} (h : a.IsParent p c) : p < c :=
  (List.pairwise_cons.mp (ha.ascending p)).1 c ((ha.mem_children p c).mpr h)

theorem le_of_reaches (ha : a.WellFormed) {p c : Nat} (h : ReflTransGen a.IsParent p c) :
    p ≤ c := by
  induction h with
  | refl => exact Nat.le_refl p
  | tail _ hpc ih => exact Nat.le_trans ih (Nat.le_of_lt (ha.lt_of_isParent hpc))

theorem lt_of_above (ha : a.WellFormed) {p c : Nat} (h : TransGen a.IsParent p c) : p < c := by
  obtain ⟨q, hpq, hqc⟩ := TransGen.tail'_iff.mp h
  exact Nat.lt_of_le_of_lt (ha.le_of_reaches hpq) (ha.lt_of_isParent hqc)

/-- Every node is below the root. -/
theorem root_reaches (ha : a.WellFormed) {h : Handle} (hh : h < a.size) :
    ReflTransGen a.IsParent a.root h := by
  induction h using Nat.strong_induction_on with
  | _ h ih =>
    cases hparent : a.parent? h with
    | none =>
      rw [(ha.root h hh).mp hparent]
      exact .refl
    | some p =>
      have hlt := ha.lt_of_isParent hparent
      exact (ih p hlt (Nat.lt_trans hlt hh)).tail hparent

theorem mem_walk_root (ha : a.WellFormed) {h : Handle} : h ∈ a.walk a.root ↔ h < a.size := by
  rw [ha.preorder, List.mem_range]

end WellFormed

end Ways

/-! ## Arenas of trees -/

theorem wellFormed_ofConcrete (t : Concrete) (text : String) (format : Format) :
    (ofConcrete t text format).WellFormed where
  preorder := by
    rw [size_ofConcrete, List.range_eq_range']
    exact walk_entry (Concrete.root_mem_placed none 0 0 t)
  mem_children := by
    intro p c
    constructor
    · intro hc
      by_cases hp : p < (ofConcrete t text format).size
      · rw [children_eq_filter hp, List.mem_filter, beq_iff_eq] at hc
        exact hc.2
      · -- A handle past the last node has no children.
        have hnone : (ofConcrete t text format).node? p = none :=
          Array.getElem?_eq_none (Nat.not_lt.mp hp)
        rw [children, hnone] at hc
        cases hc
    · intro hparent
      obtain ⟨y, hy, rfl⟩ := exists_entry hparent.lt_size
      rw [IsParent, parent?_entry hy] at hparent
      obtain ⟨x, hx, rfl, -⟩ := exists_parent_entry hy hparent
      rw [children_entry hx]
      exact (mem_children_iff hx hy).mpr hparent
  ascending := by
    intro p
    by_cases hp : p < (ofConcrete t text format).size
    · obtain ⟨x, hx, rfl⟩ := exists_entry hp
      rw [children_entry hx]
      exact .cons (fun c hc => lt_of_mem_children hc) (children_pairwise x)
    · have hnone : (ofConcrete t text format).node? p = none :=
        Array.getElem?_eq_none (Nat.not_lt.mp hp)
      rw [children, hnone]
      exact List.pairwise_singleton _ _
  root := fun h hh => parent?_eq_none_iff hh
  depth := by
    intro p c m n hparent hm hn
    obtain ⟨y, hy, rfl⟩ := exists_entry hparent.lt_size
    rw [IsParent, parent?_entry hy] at hparent
    obtain ⟨x, hx, rfl, hsprout⟩ := exists_parent_entry hy hparent
    rw [node?_entry hx, Option.some.injEq] at hm
    rw [node?_entry hy, Option.some.injEq] at hn
    subst hm hn
    rw [(Placed.node_label _ text x).2.2.2.2, (Placed.node_label _ text y).2.2.2.2]
    exact (Concrete.parent_of_mem_roots hsprout).2

end OpenApi.Tree.Arena
