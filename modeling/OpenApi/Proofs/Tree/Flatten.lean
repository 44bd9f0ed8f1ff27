/-
A cursor that walks a tree records its pre-order.

The walk is one loop with three moves and a way back up. `Draft.recordTree` is what it comes to on
a subtree, written as a recursion on the tree: record the root, go below it, record the children
one after another, come up again. `record_tree` and `record_trees` are the two halves of the loop
invariant, one for the tree under the cursor and one for it and its siblings to the right: from
there the loop does what the recursion does and goes on from where the cursor climbs to. The
frames of the cursor play no part in what is recorded; they matter only in that climbing out of
the last sibling restores the parent, which is why the invariant names it with all its children.

The second half reads the recursion off its arrays. A draft grows by the nodes of `placed` and by
their children, and the one list of children that was there before and changes is that of the
node the new trees hang under (`adopted`).
-/
import OpenApi.Proofs.Tree.Placed

set_option autoImplicit false

namespace OpenApi.Tree

/-! ## Drafts -/

namespace Draft

@[simp] theorem ascend_descend (d : Draft) : d.descend.ascend 1 = d := rfl

@[simp] theorem ascend_zero (d : Draft) : d.ascend 0 = d := rfl

theorem ascend_ascend (d : Draft) (m n : Nat) : (d.ascend m).ascend n = d.ascend (m + n) := by
  rw [ascend, ascend, List.drop_drop]
  rfl

mutual

/-- Records a tree, by recursion on it. -/
def recordTree (index : CharIndex) (d : Draft) : Concrete → Draft
  | .node label children =>
    (recordTrees index (d.record index label).descend children).ascend 1

def recordTrees (index : CharIndex) (d : Draft) : List Concrete → Draft
  | [] => d
  | t :: rest => recordTrees index (recordTree index d t) rest

end

end Draft

/-! ## The loop -/

namespace Cursor

/-- What becomes of a draft when the cursor is done with its focus and goes on. -/
def resume (index : CharIndex) (text : String) (d : Draft) (c : Cursor) : List Node :=
  match c.climb? with
  | some (next, steps) => (next.record index (d.ascend steps)).finish text
  | none => d.finish text

theorem climb?_nextSibling {c next : Cursor} (h : c.nextSibling? = some next) :
    c.climb? = some (next, 0) := by
  rw [climb?, h]

theorem climb?_parent {c up : Cursor} (hlast : c.nextSibling? = none)
    (hup : c.parent? = some up) :
    c.climb? = up.climb?.map fun (next, steps) => (next, steps + 1) := by
  rw [climb?, hlast]
  dsimp only
  split
  · rename_i hnone
    rw [hup] at hnone
    cases hnone
  · rename_i up' hsome
    rw [hup, Option.some.injEq] at hsome
    rw [hsome]

/-- Going on from the last of some siblings is going on from their parent. -/
theorem resume_parent (index : CharIndex) (text : String) (d : Draft) {c up : Cursor}
    (hlast : c.nextSibling? = none) (hup : c.parent? = some up) :
    c.resume index text d = up.resume index text (d.ascend 1) := by
  rw [resume, climb?_parent hlast hup, resume]
  cases up.climb? with
  | none => rfl
  | some result =>
    obtain ⟨next, steps⟩ := result
    dsimp only [Option.map_some]
    rw [Draft.ascend_ascend, Nat.add_comm 1]

mutual

/-- **The loop on the tree under the cursor.** -/
theorem record_tree (index : CharIndex) (text : String) : (t : Concrete) → (d : Draft) →
    (path : List Frame) →
    ((⟨t, path⟩ : Cursor).record index d).finish text
      = (⟨t, path⟩ : Cursor).resume index text (d.recordTree index t)
  | .node label [], d, path => by
    rw [Cursor.record]
    simp only [firstChild?, Concrete.children, Concrete.label]
    rw [Draft.recordTree, Draft.recordTrees, Draft.ascend_descend, resume]
    split
    · rename_i h
      rw [h]
    · rename_i h
      rw [h]
  | .node label (child :: rest), d, path => by
    -- the children are siblings under a new frame that has none on its left
    have hrest := record_trees index text (child :: rest) (d.record index label).descend child rest
      label [] path rfl
    rw [Cursor.record]
    simp only [firstChild?, Concrete.children, Concrete.label]
    rw [hrest, Draft.recordTree]
    rfl

/-- **The loop on the tree under the cursor and its siblings to the right.** -/
theorem record_trees (index : CharIndex) (text : String) : (ts : List Concrete) → (d : Draft) →
    (t : Concrete) → (rest : List Concrete) → (label : Label) → (left : List Concrete) →
    (path : List Frame) → ts = t :: rest →
    ((⟨t, ⟨label, left, rest⟩ :: path⟩ : Cursor).record index d).finish text
      = (⟨.node label (left.reverse ++ ts), path⟩ : Cursor).resume index text
          ((d.recordTrees index ts).ascend 1)
  | [t], d, _, _, label, left, path, rfl => by
    -- behind the last sibling the cursor climbs, which restores the parent with all its children
    rw [record_tree index text t d _, resume_parent index text _ rfl rfl]
    rfl
  | t :: next :: rest, d, _, _, label, left, path, rfl => by
    -- the next sibling is found without a step up, and `t` goes to the left of the frame
    rw [record_tree index text t d _, resume, climb?_nextSibling rfl]
    dsimp only
    rw [Draft.ascend_zero, record_trees index text (next :: rest) _ next rest label (t :: left)
      path rfl, Draft.recordTrees, List.reverse_cons, List.append_assoc]
    rfl

end

end Cursor

theorem Concrete.flatten_eq_recordTree (t : Concrete) (text : String) :
    t.flatten text
      = (Draft.empty.recordTree (CharIndex.ofText text.toList) t).finish text := by
  have hclimb : (⟨t, []⟩ : Cursor).climb? = none := by
    rw [Cursor.climb?]
    rfl
  rw [flatten, Cursor.ofTree, Cursor.record_tree, Cursor.resume, hclimb]

/-! ## Nodes -/

namespace Placed

/-- The numbers of a node's children, from left to right. -/
def children (x : Placed) : List Handle := x.sprouts.map handle

/-- A node without its children and its text. -/
def bare (index : CharIndex) (x : Placed) : Node where
  kind := x.tree.label.kind
  start := index.position x.tree.label.start
  stop := index.position x.tree.label.stop
  parent := x.parent
  field := x.tree.label.field
  depth := x.depth
  startOffset := index.char x.tree.label.start.byte
  stopOffset := index.char x.tree.label.stop.byte
  missing := x.tree.label.missing

/-- The node with its children or, if it has none, with its text. -/
def node (index : CharIndex) (text : String) (x : Placed) : Node :=
  let n := x.bare index
  if x.children.isEmpty then
    { n with literal := some (Text.span text n.startOffset n.stopOffset) }
  else { n with children := some x.children }

/-- What a node has from its label and its place, whether it has children or not. -/
theorem node_label (index : CharIndex) (text : String) (x : Placed) :
    (x.node index text).kind = x.tree.label.kind ∧ (x.node index text).field = x.tree.label.field
      ∧ (x.node index text).missing = x.tree.label.missing
      ∧ (x.node index text).parent = x.parent ∧ (x.node index text).depth = x.depth := by
  rw [node]
  split <;> exact ⟨rfl, rfl, rfl, rfl, rfl⟩

/-- The extent of a node is that of its label, counted in characters. -/
theorem node_extent (index : CharIndex) (text : String) (x : Placed) :
    (x.node index text).start = index.position x.tree.label.start
      ∧ (x.node index text).stop = index.position x.tree.label.stop
      ∧ (x.node index text).startOffset = index.char x.tree.label.start.byte
      ∧ (x.node index text).stopOffset = index.char x.tree.label.stop.byte := by
  rw [node]
  split <;> exact ⟨rfl, rfl, rfl, rfl⟩

end Placed

/-! ## The lists of a draft -/

/-- The lists of children after the node that is given, if one is, got more of them. Children are
collected last first. -/
def adopted (lists : List (List Handle)) (parent : Option Handle) (more : List Handle) :
    List (List Handle) :=
  match parent with
  | none => lists
  | some p => lists.modify p (more ++ ·)

@[simp] theorem adopted_nil (lists : List (List Handle)) (parent : Option Handle) :
    adopted lists parent [] = lists := by
  cases parent with
  | none => rfl
  | some p => exact List.modify_id p lists

@[simp] theorem length_adopted (lists : List (List Handle)) (parent : Option Handle)
    (more : List Handle) : (adopted lists parent more).length = lists.length := by
  cases parent with
  | none => rfl
  | some p => exact List.length_modify _ _ _

theorem adopted_adopted (lists : List (List Handle)) (parent : Option Handle)
    (first more : List Handle) :
    adopted (adopted lists parent first) parent more = adopted lists parent (more ++ first) := by
  cases parent with
  | none => rfl
  | some p =>
    simp only [adopted, List.modify_modify_eq, List.append_assoc]
    rfl

theorem adopted_append {lists : List (List Handle)} {parent : Option Handle}
    (hparent : ∀ p, parent = some p → p < lists.length) (behind : List (List Handle))
    (more : List Handle) :
    adopted (lists ++ behind) parent more = adopted lists parent more ++ behind := by
  cases parent with
  | none => rfl
  | some p =>
    have hp := hparent p rfl
    clear hparent
    simp only [adopted]
    induction lists generalizing p with
    | nil => simp at hp
    | cons list lists ih =>
      cases p with
      | zero => rfl
      | succ p =>
        rw [List.cons_append, List.modify_succ_cons, List.modify_succ_cons, List.cons_append,
          ih p (by simpa using hp)]

/-- The node that was added last gets its children. -/
theorem adopted_last (lists : List (List Handle)) (more : List Handle) :
    adopted (lists ++ [[]]) (some lists.length) more = lists ++ [more] := by
  simp only [adopted]
  induction lists with
  | nil => simp
  | cons list lists ih =>
    rw [List.length_cons, List.cons_append, List.modify_succ_cons, ih, List.cons_append]

namespace Draft

/-- There is a list of children for each node, and the node above the cursor is there. -/
structure Sound (d : Draft) : Prop where
  lists : d.children.size = d.nodes.size
  above : ∀ p, d.parents.head? = some p → p < d.nodes.size

/-- A draft has become another one by the nodes of a pre-order, of which some hang under the node
above the cursor. -/
structure Grown (index : CharIndex) (d d' : Draft) (hung : List Handle) (added : List Placed) :
    Prop where
  nodes : d'.nodes.toList = d.nodes.toList ++ added.map (Placed.bare index)
  children : d'.children.toList
    = adopted d.children.toList d.parents.head? hung.reverse
      ++ added.map fun x => x.children.reverse
  parents : d'.parents = d.parents

theorem Grown.size {index : CharIndex} {d d' : Draft} {hung : List Handle} {added : List Placed}
    (h : Grown index d d' hung added) : d'.nodes.size = d.nodes.size + added.length := by
  have := congrArg List.length h.nodes
  simpa using this

theorem Grown.sound {index : CharIndex} {d d' : Draft} {hung : List Handle} {added : List Placed}
    (h : Grown index d d' hung added) (hd : d.Sound) : d'.Sound where
  lists := by
    have hlength := congrArg List.length h.children
    rw [Array.length_toList, List.length_append, length_adopted, List.length_map,
      Array.length_toList, hd.lists] at hlength
    rw [hlength, h.size]
  above := by
    intro p hp
    rw [h.parents] at hp
    rw [h.size]
    exact Nat.lt_of_lt_of_le (hd.above p hp) (Nat.le_add_right _ _)

theorem Grown.refl (index : CharIndex) (d : Draft) : Grown index d d [] [] where
  nodes := by simp
  children := by simp
  parents := rfl

/-- One growth after another under the same node. -/
theorem Grown.trans {index : CharIndex} {d d' d'' : Draft} {hung hung' : List Handle}
    {added added' : List Placed} (hd : d.Sound) (h : Grown index d d' hung added)
    (h' : Grown index d' d'' hung' added') :
    Grown index d d'' (hung ++ hung') (added ++ added') where
  nodes := by rw [h'.nodes, h.nodes, List.map_append, List.append_assoc]
  children := by
    have habove : ∀ p, d.parents.head? = some p →
        p < (adopted d.children.toList d.parents.head? hung.reverse).length := by
      intro p hp
      rw [length_adopted, Array.length_toList, hd.lists]
      exact hd.above p hp
    rw [h'.children, h.parents, h.children, adopted_append habove, adopted_adopted,
      List.reverse_append, List.map_append, List.append_assoc]
  parents := by rw [h'.parents, h.parents]

theorem children_record (d : Draft) (index : CharIndex) (label : Label) :
    (d.record index label).children.toList
      = adopted d.children.toList d.parents.head? [d.nodes.size] ++ [[]] := by
  cases h : d.parents.head? with
  | none => simp [record, h, adopted]
  | some p => simp [record, h, adopted]

/-- The root of a tree and what grows below it. -/
theorem Grown.root {index : CharIndex} {d d' : Draft} {label : Label} {ts : List Concrete}
    {added : List Placed} (hd : d.Sound)
    (h : Grown index (d.record index label).descend d'
      ((Concrete.roots (some d.nodes.size) (d.parents.length + 1) (d.nodes.size + 1) ts).map
        Placed.handle) added) :
    Grown index d (d'.ascend 1) [d.nodes.size]
      (⟨.node label ts, d.nodes.size, d.parents.head?, d.parents.length⟩ :: added) where
  nodes := by
    have hnodes := h.nodes
    simpa [ascend, descend, record, Placed.bare, Concrete.label] using hnodes
  children := by
    -- the list of the root is the last one before its children come, and still empty
    have hlast : (d.record index label).descend.parents.head?
        = some (adopted d.children.toList d.parents.head? [d.nodes.size]).length := by
      simp [descend, record, hd.lists]
    have hchildren := h.children
    rw [hlast, show (d.record index label).descend.children.toList = _ from
      children_record d index label, adopted_last] at hchildren
    rw [show (d'.ascend 1).children.toList = d'.children.toList from rfl, hchildren,
      List.append_assoc]
    rfl
  parents := by
    rw [ascend, h.parents]
    rfl

theorem sound_descend {d : Draft} (hd : d.Sound) (index : CharIndex) (label : Label) :
    (d.record index label).descend.Sound where
  lists := by
    have hsizes := d.record_sizes index label
    simp only [descend]
    rw [hsizes.1, hsizes.2, hd.lists]
  above := by
    intro p hp
    have hsizes := d.record_sizes index label
    simp only [descend, List.head?_cons, Option.some.injEq] at hp ⊢
    rw [← hp, hsizes.1]
    exact Nat.lt_succ_self _

mutual

theorem grown_recordTree (index : CharIndex) : (t : Concrete) → (d : Draft) → d.Sound →
    Grown index d (d.recordTree index t) [d.nodes.size]
      (t.placed d.parents.head? d.parents.length d.nodes.size)
  | .node label children, d, hd => by
    -- the root has the next number, and its children hang under it one level down
    have hbelow := grown_recordTrees index children _ (sound_descend hd index label)
    have hsize : (d.record index label).descend.nodes.size = d.nodes.size + 1 :=
      (d.record_sizes index label).1
    have hhead : (d.record index label).descend.parents.head? = some d.nodes.size := by
      simp [descend, record]
    have hdepth : (d.record index label).descend.parents.length = d.parents.length + 1 := rfl
    rw [hsize, hhead, hdepth] at hbelow
    rw [recordTree, Concrete.placed]
    exact hbelow.root hd

theorem grown_recordTrees (index : CharIndex) : (ts : List Concrete) → (d : Draft) → d.Sound →
    Grown index d (d.recordTrees index ts)
      ((Concrete.roots d.parents.head? d.parents.length d.nodes.size ts).map Placed.handle)
      (Concrete.placedAll d.parents.head? d.parents.length d.nodes.size ts)
  | [], d, _ => by
    rw [recordTrees]
    exact .refl index d
  | t :: rest, d, hd => by
    have htree := grown_recordTree index t d hd
    have hrest := grown_recordTrees index rest _ (htree.sound hd)
    -- the siblings start at the number behind the whole first tree
    rw [htree.parents, htree.size, Concrete.length_placed] at hrest
    rw [recordTrees, Concrete.placedAll, Concrete.roots, List.map_cons]
    exact htree.trans hd hrest

end

theorem sound_empty : Draft.empty.Sound := ⟨rfl, nofun⟩

end Draft

/-- **Flattening is the pre-order.** -/
theorem Concrete.flatten_eq_placed (t : Concrete) (text : String) :
    t.flatten text
      = (t.placed none 0 0).map (Placed.node (CharIndex.ofText text.toList) text) := by
  have hgrown := Draft.grown_recordTree (CharIndex.ofText text.toList) t .empty Draft.sound_empty
  have hnodes := hgrown.nodes
  have hchildren := hgrown.children
  -- the draft was empty, so there are only the nodes that were added and their lists
  rw [flatten_eq_recordTree, Draft.finish, hnodes, hchildren]
  simp only [Draft.empty, adopted, List.nil_append, List.head?_nil]
  rw [List.zipWith_map, List.zipWith_self]
  refine List.map_congr_left fun x _ => ?_
  rw [Placed.node, List.isEmpty_reverse, List.reverse_reverse]

end OpenApi.Tree
