/-
The arena of a tree.

The nodes of an arena that is built from a tree are the entries of the tree's pre-order, each
found under its own number (`node?_entry`). What an arena is expected to keep then follows from
the two facts that tie the pre-order to the tree: a node is among the children of another if and
only if it names that one as its parent (`mem_children_iff`), children stand in ascending order,
only the root has no parent.

Walking from a node gives the interval of numbers of its subtree. `Arena.walk` visits levels; the
same list comes out of a loop that keeps the nodes still to be visited on a stack and puts the
children of a node on top of it, which is `Arena.Pops`.
-/
import Mathlib.Data.List.Sort
import Mathlib.Logic.Relation
import OpenApi.Proofs.Tree.Flatten

set_option autoImplicit false

namespace OpenApi.Tree

/-- A subtree has the nodes of its children's subtrees, and its root. -/
theorem Placed.size_tree (x : Placed) :
    x.tree.size = Concrete.sizes x.tree.children + 1 := by
  cases x.tree with
  | node label children => rw [Concrete.size, Concrete.children, Nat.add_comm]

/-! ## Entries -/

namespace Arena

section Entries

variable {t : Concrete} {text : String} {format : Format}

theorem toList_nodes_ofConcrete (t : Concrete) (text : String) (format : Format) :
    (ofConcrete t text format).nodes.toList
      = (t.placed none 0 0).map (Placed.node (CharIndex.ofText text.toList) text) := by
  rw [← Concrete.flatten_eq_placed]
  rfl

theorem placed_nonempty (t : Concrete) (text : String) :
    0 < ((t.placed none 0 0).map
      (Placed.node (CharIndex.ofText text.toList) text)).toArray.size := by
  rw [List.size_toArray, List.length_map, Concrete.length_placed]
  exact t.size_pos

/-- The arena by the pre-order alone, without the walk that finds it. -/
theorem ofConcrete_eq_placed (t : Concrete) (text : String) (format : Format) :
    ofConcrete t text format = ⟨((t.placed none 0 0).map
      (Placed.node (CharIndex.ofText text.toList) text)).toArray, text, format,
      placed_nonempty t text⟩ := by
  unfold ofConcrete
  congr 1
  rw [Concrete.flatten_eq_placed]

theorem size_ofConcrete (t : Concrete) (text : String) (format : Format) :
    (ofConcrete t text format).size = t.size := by
  have h := congrArg List.length (toList_nodes_ofConcrete t text format)
  rwa [Array.length_toList, List.length_map, Concrete.length_placed] at h

/-- An entry of the pre-order is the node of its number. -/
theorem node?_entry {x : Placed} (hx : x ∈ t.placed none 0 0) :
    (ofConcrete t text format).node? x.handle
      = some (x.node (CharIndex.ofText text.toList) text) := by
  obtain ⟨i, hi⟩ := List.mem_iff_getElem?.mp hx
  -- numbers count through the list, so an entry has its index as its number
  have hhandle : x.handle = i := by
    have h := congrArg (·[i]?) (Concrete.placed_handles none 0 0 t)
    simp only [List.getElem?_map, hi, Option.map_some] at h
    obtain ⟨_, heq⟩ := List.getElem?_eq_some_iff.mp h.symm
    simpa using heq.symm
  rw [hhandle, node?, ← Array.getElem?_toList, toList_nodes_ofConcrete, List.getElem?_map, hi]
  rfl

/-- Every number below the size is that of an entry. -/
theorem exists_entry {h : Handle} (hh : h < (ofConcrete t text format).size) :
    ∃ x ∈ t.placed none 0 0, x.handle = h := by
  have hmem : h ∈ (t.placed none 0 0).map Placed.handle := by
    rw [Concrete.placed_handles, List.mem_range'_1]
    rw [size_ofConcrete] at hh
    exact ⟨Nat.zero_le _, by rwa [Nat.zero_add]⟩
  exact List.mem_map.mp hmem

theorem parent?_entry {x : Placed} (hx : x ∈ t.placed none 0 0) :
    (ofConcrete t text format).parent? x.handle = x.parent := by
  rw [parent?, node?_entry hx, Option.bind_some, Placed.node]
  split <;> rfl

theorem children_entry {x : Placed} (hx : x ∈ t.placed none 0 0) :
    (ofConcrete t text format).children x.handle = x.children := by
  rw [children, node?_entry hx, Option.bind_some, Placed.node]
  by_cases hempty : x.children.isEmpty = true
  · rw [if_pos hempty, List.isEmpty_iff.mp hempty]
    rfl
  · rw [if_neg hempty]
    rfl

/-! ## Parents and children -/

/-- The number that a node names as its parent is that of a node it is a child of. -/
theorem exists_parent_entry {y : Placed} (hy : y ∈ t.placed none 0 0) {p : Handle}
    (hparent : y.parent = some p) : ∃ x ∈ t.placed none 0 0, x.handle = p ∧ y ∈ x.sprouts := by
  rcases Concrete.mem_placed_cases t y hy with rfl | ⟨x, hx, hsprout⟩
  · cases hparent
  · have hxparent := (Concrete.parent_of_mem_roots hsprout).1
    rw [hparent, Option.some.injEq] at hxparent
    exact ⟨x, hx, hxparent.symm, hsprout⟩

/-- A node is a child of another if and only if it names that one as its parent. -/
theorem mem_children_iff {x y : Placed} (hx : x ∈ t.placed none 0 0)
    (hy : y ∈ t.placed none 0 0) : y.handle ∈ x.children ↔ y.parent = some x.handle := by
  constructor
  · intro hmem
    obtain ⟨z, hz, heq⟩ := List.mem_map.mp hmem
    have hzmem := Concrete.sprouts_mem_placed t x hx z hz
    rw [← Concrete.placed_handle_inj hzmem hy heq]
    exact (Concrete.parent_of_mem_roots hz).1
  · intro hparent
    obtain ⟨z, hz, heq, hsprout⟩ := exists_parent_entry hy hparent
    -- an entry is known by its number, so the parent that was found is `x`
    rw [Concrete.placed_handle_inj hx hz heq.symm]
    exact List.mem_map_of_mem hsprout

/-- Children come after their parent. -/
theorem lt_of_mem_children {x : Placed} {c : Nat} (hc : c ∈ x.children) : x.handle < c := by
  obtain ⟨y, hy, rfl⟩ := List.mem_map.mp hc
  exact (Concrete.bounds_of_mem_roots hy).1

theorem lt_size_of_mem_children {x : Placed} (hx : x ∈ t.placed none 0 0) {c : Nat}
    (hc : c ∈ x.children) : c < t.size := by
  obtain ⟨y, hy, rfl⟩ := List.mem_map.mp hc
  have hbounds := Concrete.bounds_of_mem_placed t y (Concrete.sprouts_mem_placed t x hx y hy)
  have hpos := y.tree.size_pos
  omega

theorem children_pairwise (x : Placed) : x.children.Pairwise (· < ·) := by
  rw [Placed.children, List.pairwise_map]
  exact Concrete.roots_pairwise _ _ _ _

/-- The children of a node are the nodes that name it as their parent, in ascending order. -/
theorem children_eq_filter {h : Handle} (hh : h < (ofConcrete t text format).size) :
    (ofConcrete t text format).children h
      = (List.range (ofConcrete t text format).size).filter
          fun c => (ofConcrete t text format).parent? c == some h := by
  obtain ⟨x, hx, rfl⟩ := exists_entry hh
  rw [children_entry hx]
  -- both lists ascend, so it is enough that they have the same members
  refine List.Pairwise.eq_of_mem_iff (r := (· < ·)) (children_pairwise x)
    (List.pairwise_lt_range.filter _) ?_
  intro c
  rw [List.mem_filter, List.mem_range, beq_iff_eq]
  constructor
  · intro hc
    have hsize : c < (ofConcrete t text format).size := by
      rw [size_ofConcrete]
      exact lt_size_of_mem_children hx hc
    obtain ⟨y, hy, rfl⟩ := exists_entry hsize
    exact ⟨hsize, by rw [parent?_entry hy, (mem_children_iff hx hy).mp hc]⟩
  · rintro ⟨hsize, hparent⟩
    obtain ⟨y, hy, rfl⟩ := exists_entry hsize
    rw [parent?_entry hy] at hparent
    exact (mem_children_iff hx hy).mpr hparent

/-- Only the root has no parent. -/
theorem parent?_eq_none_iff {h : Nat} (hh : h < (ofConcrete t text format).size) :
    (ofConcrete t text format).parent? h = none ↔ h = 0 := by
  obtain ⟨x, hx, rfl⟩ := exists_entry hh
  rw [parent?_entry hx]
  rcases Concrete.mem_placed_cases t x hx with rfl | ⟨z, hz, hsprout⟩
  · exact ⟨fun _ => rfl, fun _ => rfl⟩
  · have hparent := (Concrete.parent_of_mem_roots hsprout).1
    have hpos := (Concrete.bounds_of_mem_roots hsprout).1
    constructor
    · intro hnone
      rw [hparent] at hnone
      cases hnone
    · intro hzero
      omega

/-! ## Walking -/

/-- Visiting enough levels from a node gives the numbers of its subtree. -/
theorem visit_entry {levels : Nat} {x : Placed} (hx : x ∈ t.placed none 0 0)
    (hlevels : x.tree.size ≤ levels) :
    (ofConcrete t text format).visit levels x.handle = List.range' x.handle x.tree.size := by
  induction levels generalizing x with
  | zero =>
    have := x.tree.size_pos
    omega
  | succ levels ih =>
    have hsize := x.size_tree
    have hbelow : x.children.flatMap ((ofConcrete t text format).visit levels)
        = x.sprouts.flatMap fun y => List.range' y.handle y.tree.size := by
      rw [Placed.children, List.flatMap_map]
      refine List.flatMap_congr ?_
      intro y hy
      -- a child's tree is smaller, so one level less is enough for it
      have hbounds := Concrete.bounds_of_mem_roots hy
      exact ih (Concrete.sprouts_mem_placed t x hx y hy) (by omega)
    rw [visit, children_entry hx, hbelow, Placed.sprouts, Concrete.roots_intervals, hsize,
      List.range'_succ]

theorem walk_entry {x : Placed} (hx : x ∈ t.placed none 0 0) :
    (ofConcrete t text format).walk x.handle = List.range' x.handle x.tree.size := by
  refine visit_entry hx ?_
  rw [size_ofConcrete]
  have := Concrete.bounds_of_mem_placed t x hx
  omega

end Entries

/-- A node is the parent of another. -/
def IsParent (a : Arena) (p c : Handle) : Prop := a.parent? c = some p

/-- The loop over a stack of nodes, the top one first: a node is taken off the stack and listed,
and its children are put on top. The loop ends when the stack is empty. -/
inductive Pops (a : Arena) : List Handle → List Handle → Prop where
  | done : Pops a [] []
  | pop {h : Handle} {stack listed : List Handle} :
      Pops a (a.children h ++ stack) listed → Pops a (h :: stack) (h :: listed)

section Walks

variable {t : Concrete} {text : String} {format : Format}

/-- The loop deals with a subtree before it comes to the rest of the stack. -/
theorem pops_visit {levels : Nat} {x : Placed} (hx : x ∈ t.placed none 0 0)
    (hlevels : x.tree.size ≤ levels) {stack listed : List Handle}
    (hstack : (ofConcrete t text format).Pops stack listed) :
    (ofConcrete t text format).Pops (x.handle :: stack)
      ((ofConcrete t text format).visit levels x.handle ++ listed) := by
  induction levels generalizing x stack listed with
  | zero =>
    have := x.tree.size_pos
    omega
  | succ levels ih =>
    have hsize := x.size_tree
    -- the children are on top of the stack; they are dealt with one after another
    have hsprouts : ∀ ys : List Placed, ys ⊆ x.sprouts →
        (ofConcrete t text format).Pops (ys.map Placed.handle ++ stack)
          ((ys.map Placed.handle).flatMap ((ofConcrete t text format).visit levels) ++ listed) := by
      intro ys hys
      induction ys with
      | nil => exact hstack
      | cons y ys ihys =>
        have hy : y ∈ x.sprouts := hys List.mem_cons_self
        have hbounds := Concrete.bounds_of_mem_roots hy
        have hrest := ihys (fun z hz => hys (List.mem_cons_of_mem _ hz))
        rw [List.map_cons, List.flatMap_cons, List.append_assoc]
        exact ih (Concrete.sprouts_mem_placed t x hx y hy) (by omega) hrest
    rw [visit, children_entry hx]
    refine .pop ?_
    rw [children_entry hx]
    exact hsprouts x.sprouts (List.Subset.refl _)

theorem pops_walk {h : Handle} (hh : h < (ofConcrete t text format).size) :
    (ofConcrete t text format).Pops [h] ((ofConcrete t text format).walk h) := by
  obtain ⟨x, hx, rfl⟩ := exists_entry hh
  have hbounds := Concrete.bounds_of_mem_placed t x hx
  have hlevels : x.tree.size ≤ (ofConcrete t text format).size := by
    rw [size_ofConcrete]
    omega
  have hpops : (ofConcrete t text format).Pops [x.handle]
      ((ofConcrete t text format).visit (ofConcrete t text format).size x.handle ++ []) :=
    pops_visit hx hlevels .done
  rwa [List.append_nil] at hpops

/-- Only nodes have a parent. -/
theorem lt_size_of_parent? {a : Arena} {h p : Handle} (hparent : a.parent? h = some p) :
    h < a.size := by
  refine Nat.lt_of_not_le fun hge => ?_
  have hnone : a.node? h = none := Array.getElem?_eq_none hge
  rw [parent?, hnone] at hparent
  cases hparent

theorem reach_of_mem_visit {levels : Nat} {h k : Handle}
    (hh : h < (ofConcrete t text format).size)
    (hk : k ∈ (ofConcrete t text format).visit levels h) :
    Relation.ReflTransGen (ofConcrete t text format).IsParent h k := by
  induction levels generalizing h with
  | zero => cases hk
  | succ levels ih =>
    rw [visit, List.mem_cons, List.mem_flatMap] at hk
    rcases hk with rfl | ⟨c, hc, hk⟩
    · exact .refl
    · rw [children_eq_filter hh, List.mem_filter, List.mem_range, beq_iff_eq] at hc
      exact .head hc.2 (ih hc.1 hk)

/-- A walk from a node goes through whatever a walk from one of its children does. -/
theorem walk_subset_of_isParent {h c : Handle} (hparent : (ofConcrete t text format).IsParent h c)
    (hh : h < (ofConcrete t text format).size) :
    (ofConcrete t text format).walk c ⊆ (ofConcrete t text format).walk h := by
  obtain ⟨x, hx, rfl⟩ := exists_entry hh
  obtain ⟨y, hy, rfl⟩ := exists_entry (lt_size_of_parent? hparent)
  rw [IsParent, parent?_entry hy] at hparent
  obtain ⟨z, hz, heq⟩ := List.mem_map.mp ((mem_children_iff hx hy).mpr hparent)
  obtain rfl := Concrete.placed_handle_inj (Concrete.sprouts_mem_placed t x hx z hz) hy heq
  -- both walks are intervals, and the one from the child lies within the other
  have hbounds := Concrete.bounds_of_mem_roots hz
  have hsize := x.size_tree
  rw [walk_entry hx, walk_entry hy]
  intro k hk
  rw [List.mem_range'_1] at hk ⊢
  omega

/-- A walk lists the node it starts from and its descendants. -/
theorem mem_walk_iff {h k : Handle} (hh : h < (ofConcrete t text format).size) :
    k ∈ (ofConcrete t text format).walk h
      ↔ Relation.ReflTransGen (ofConcrete t text format).IsParent h k := by
  constructor
  · exact reach_of_mem_visit hh
  · intro hreach
    induction hreach using Relation.ReflTransGen.head_induction_on with
    | refl =>
      obtain ⟨x, hx, rfl⟩ := exists_entry hh
      have hpos := x.tree.size_pos
      rw [walk_entry hx, List.mem_range'_1]
      omega
    | head hparent _ ih =>
      exact walk_subset_of_isParent hparent hh (ih (lt_size_of_parent? hparent))

/-! ## Texts -/

/-- A node has children or, if it has none, the text that it covers. -/
theorem children_or_literal {h : Handle} {n : Node}
    (hn : (ofConcrete t text format).node? h = some n) :
    (n.children = some ((ofConcrete t text format).children h)
        ∧ (ofConcrete t text format).children h ≠ [] ∧ n.literal = none)
      ∨ (n.children = none ∧ (ofConcrete t text format).children h = []
        ∧ n.literal = some ((ofConcrete t text format).text h)) := by
  have hh : h < (ofConcrete t text format).size := (Array.getElem?_eq_some_iff.mp hn).1
  have htext : (ofConcrete t text format).text h = Text.span text n.startOffset n.stopOffset := by
    rw [Arena.text, hn]
    rfl
  obtain ⟨x, hx, rfl⟩ := exists_entry hh
  rw [htext, children_entry hx]
  rw [node?_entry hx, Option.some.injEq] at hn
  subst hn
  by_cases hempty : x.children.isEmpty = true
  · right
    rw [Placed.node, if_pos hempty]
    exact ⟨rfl, List.isEmpty_iff.mp hempty, rfl⟩
  · left
    rw [Placed.node, if_neg hempty]
    exact ⟨rfl, fun hnil => hempty (List.isEmpty_iff.mpr hnil), rfl⟩

end Walks

end Arena

/-! ## The result -/

/-- An arena is the pre-order of a tree. -/
structure IsPreorder (a : Arena) (t : Concrete) : Prop where
  /-- There is one node for each node of the tree, in the order of the tree. -/
  labels : a.nodes.toList.map (fun n => (n.kind, n.field, n.missing))
    = t.labels.map fun l => (l.kind, l.field, l.missing)
  /-- Numbers count through the pre-order. -/
  numbers : (t.placed none 0 0).map Placed.handle = List.range a.size
  /-- A node of the tree is found under its number. -/
  entries : ∀ x ∈ t.placed none 0 0, ∃ n, a.node? x.handle = some n
    ∧ n.kind = x.tree.label.kind ∧ n.field = x.tree.label.field ∧ n.missing = x.tree.label.missing
    ∧ n.parent = x.parent ∧ n.depth = x.depth
  /-- The children of a node are the numbers of its subtrees, from left to right. -/
  siblings : ∀ x ∈ t.placed none 0 0, ∃ ys, ys ⊆ t.placed none 0 0
    ∧ ys.map Placed.tree = x.tree.children ∧ a.children x.handle = ys.map Placed.handle
  /-- Only the root has no parent. -/
  root : ∀ h, h < a.size → (a.parent? h = none ↔ h = 0)
  /-- The children of a node are exactly those that name it as their parent. -/
  children : ∀ h, h < a.size →
    a.children h = (List.range a.size).filter fun c => a.parent? c == some h
  /-- Children have greater numbers. -/
  ascending : ∀ h, h < a.size → ∀ c ∈ a.children h, h < c
  /-- Depth counts the nodes above. -/
  depth_root : ∃ n, a.node? a.root = some n ∧ n.depth = 0
  depth_child : ∀ p c, a.parent? c = some p →
    ∃ m n, a.node? p = some m ∧ a.node? c = some n ∧ n.depth = m.depth + 1
  /-- A node has children, and then some, or it has the text that it covers. -/
  content : ∀ h n, a.node? h = some n →
    (n.children = some (a.children h) ∧ a.children h ≠ [] ∧ n.literal = none)
      ∨ (n.children = none ∧ a.children h = [] ∧ n.literal = some (a.text h))
  /-- A walk from the root lists all nodes in the order of their numbers. -/
  walk_root : a.walk a.root = List.range a.size
  /-- A walk from a node lists a block of numbers that starts with its own: those of the node and
  its descendants. -/
  walk_block : ∀ h, h < a.size → ∃ count, a.walk h = List.range' h count
  walk_descendants : ∀ h, h < a.size →
    ∀ k, k ∈ a.walk h ↔ Relation.ReflTransGen a.IsParent h k
  /-- The loop over a stack of nodes ends, and lists what the walk lists. -/
  walk_stack : ∀ h, h < a.size → a.Pops [h] (a.walk h)

/-- **A cursor's walk over a tree gives the pre-order of the tree.** -/
theorem ofConcrete_isPreorder (t : Concrete) (text : String) (format : Format) :
    IsPreorder (Arena.ofConcrete t text format) t where
  labels := by
    rw [Arena.toList_nodes_ofConcrete, ← Concrete.placed_labels none 0 0 t, List.map_map,
      List.map_map]
    refine List.map_congr_left fun x _ => ?_
    obtain ⟨hkind, hfield, hmissing, -, -⟩ :=
      Placed.node_label (CharIndex.ofText text.toList) text x
    simp only [Function.comp_apply, hkind, hfield, hmissing]
  numbers := by rw [Concrete.placed_handles, Arena.size_ofConcrete, List.range_eq_range']
  entries := fun x hx =>
    ⟨_, Arena.node?_entry hx, Placed.node_label (CharIndex.ofText text.toList) text x⟩
  siblings := fun x hx =>
    ⟨x.sprouts, fun y hy => Concrete.sprouts_mem_placed t x hx y hy,
      Concrete.roots_trees _ _ _ _, Arena.children_entry hx⟩
  root := fun h hh => Arena.parent?_eq_none_iff hh
  children := fun h hh => Arena.children_eq_filter hh
  ascending := by
    intro h hh c hc
    obtain ⟨x, hx, rfl⟩ := Arena.exists_entry hh
    rw [Arena.children_entry hx] at hc
    exact Arena.lt_of_mem_children hc
  depth_root := by
    -- The root is the placed node that is its own start: handle 0, no parent, depth 0.
    have hroot := Concrete.root_mem_placed none 0 0 t
    exact ⟨_, Arena.node?_entry hroot, (Placed.node_label _ text ⟨t, 0, none, 0⟩).2.2.2.2⟩
  depth_child := by
    intro p c hparent
    obtain ⟨y, hy, rfl⟩ := Arena.exists_entry (Arena.lt_size_of_parent? hparent)
    rw [Arena.parent?_entry hy] at hparent
    obtain ⟨x, hx, rfl, hsprout⟩ := Arena.exists_parent_entry hy hparent
    refine ⟨_, _, Arena.node?_entry hx, Arena.node?_entry hy, ?_⟩
    rw [(Placed.node_label _ text x).2.2.2.2, (Placed.node_label _ text y).2.2.2.2]
    exact (Concrete.parent_of_mem_roots hsprout).2
  content := fun h n hn => Arena.children_or_literal hn
  walk_root := by
    have hroot := Concrete.root_mem_placed none 0 0 t
    rw [Arena.size_ofConcrete, List.range_eq_range']
    exact Arena.walk_entry hroot
  walk_block := by
    intro h hh
    obtain ⟨x, hx, rfl⟩ := Arena.exists_entry hh
    exact ⟨_, Arena.walk_entry hx⟩
  walk_descendants := fun h hh k => Arena.mem_walk_iff hh
  walk_stack := fun h hh => Arena.pops_walk hh

end OpenApi.Tree
