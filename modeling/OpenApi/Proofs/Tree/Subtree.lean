/-
What an arena answers about the subtrees of the concrete tree it was built from.

An entry of the pre-order has a subtree, and the arena's answers about its number can be read off
that subtree: its kind, its role, whether it is an error and, if it is known which characters the
subtree covers, its text (`text_entry`). So a question about the nodes of an arena becomes one
about the subtrees of a concrete tree. `Concrete.Deep` says that something holds of all of them; it
can be shown along the construction of the tree, and holds of every entry (`deep_iff_placed`).
-/
import OpenApi.Proofs.Tree.CharIndex
import OpenApi.Proofs.Tree.WellFormed
import OpenApi.Tree.Query

set_option autoImplicit false

namespace OpenApi.Tree

open OpenApi.Text (byteLength)

/-! ## All subtrees -/

namespace Concrete

/-- Something holds of a tree and of all trees below it. -/
inductive Deep (P : Concrete → Prop) : Concrete → Prop where
  | node {label : Label} {children : List Concrete} : P (.node label children) →
      (∀ c ∈ children, Deep P c) → Deep P (.node label children)

variable {P : Concrete → Prop}

theorem Deep.self {t : Concrete} (h : t.Deep P) : P t := by
  cases h with
  | node hself _ => exact hself

theorem Deep.inner {t : Concrete} (h : t.Deep P) : ∀ c ∈ t.children, c.Deep P := by
  cases h with
  | node _ hbelow => exact hbelow

theorem Deep.imp {Q : Concrete → Prop} {t : Concrete} (h : t.Deep P) (hQ : ∀ s, P s → Q s) :
    t.Deep Q := by
  induction h with
  | node hself _ ih => exact .node (hQ _ hself) ih

mutual

theorem Deep.placed {parent : Option Handle} {depth first : Nat} : (t : Concrete) → t.Deep P →
    ∀ x ∈ t.placed parent depth first, P x.tree
  | .node label children, .node hself hbelow => by
    intro x hx
    rw [Concrete.placed] at hx
    rcases List.mem_cons.mp hx with rfl | hx
    · exact hself
    · exact Deep.placedAll children hbelow x hx

theorem Deep.placedAll {parent : Option Handle} {depth first : Nat} : (ts : List Concrete) →
    (∀ t ∈ ts, t.Deep P) → ∀ x ∈ placedAll parent depth first ts, P x.tree
  | [], _ => by
    intro x hx
    cases hx
  | t :: rest, h => by
    intro x hx
    obtain ⟨ht, hrest⟩ := List.forall_mem_cons.mp h
    rw [Concrete.placedAll, List.mem_append] at hx
    rcases hx with hx | hx
    · exact Deep.placed t ht x hx
    · exact Deep.placedAll rest hrest x hx

end

mutual

theorem deep_of_placed {parent : Option Handle} {depth first : Nat} : (t : Concrete) →
    (∀ x ∈ t.placed parent depth first, P x.tree) → t.Deep P
  | .node label children, h => by
    rw [placed] at h
    obtain ⟨hself, hbelow⟩ := List.forall_mem_cons.mp h
    exact .node hself (deep_of_placedAll children hbelow)

theorem deep_of_placedAll {parent : Option Handle} {depth first : Nat} : (ts : List Concrete) →
    (∀ x ∈ placedAll parent depth first ts, P x.tree) → ∀ t ∈ ts, t.Deep P
  | [], _ => nofun
  | t :: rest, h => by
    rw [placedAll] at h
    obtain ⟨ht, hrest⟩ := List.forall_mem_append.mp h
    exact List.forall_mem_cons.mpr ⟨deep_of_placed t ht, deep_of_placedAll rest hrest⟩

end

/-- **All subtrees are entries**, and the other way round. -/
theorem deep_iff_placed (parent : Option Handle) (depth first : Nat) (t : Concrete) :
    t.Deep P ↔ ∀ x ∈ t.placed parent depth first, P x.tree :=
  ⟨Deep.placed t, deep_of_placed t⟩

end Concrete

/-! ## Places -/

theorem Place.byte_past (p : Place) (cs : List Char) :
    (p.past cs).byte = p.byte + byteLength cs := by
  induction cs generalizing p with
  | nil => rfl
  | cons c cs ih =>
    have hstep : (p.step c).byte = p.byte + c.utf8Size := by
      rw [step]
      split <;> rfl
    rw [past_cons, ih, hstep, Text.byteLength_cons]
    omega

/-- The characters that a node covers in a text: it starts behind some others, and stops behind
these. -/
def Concrete.Covers (text cs : List Char) (t : Concrete) : Prop :=
  ∃ pre post, text = pre ++ (cs ++ post) ∧ t.start = Place.start.past pre
    ∧ t.stop = Place.start.past (pre ++ cs)

/-- The characters between two counts are those that stand there. -/
theorem span_eq_ofList {text : String} {pre cs post : List Char}
    (h : text.toList = pre ++ (cs ++ post)) :
    Text.span text pre.length (pre ++ cs).length = String.ofList cs := by
  have hfrom (n : Nat) : Text.fromStart text.toList.length n = n := by
    rw [Text.fromStart, if_neg (Int.not_lt.mpr (Int.natCast_nonneg n)), Int.toNat_natCast]
  rw [Text.span, hfrom, hfrom, Text.slice, h, ← List.append_assoc, List.take_left, List.drop_left]

/-- A place of a text has as many characters before it as were passed. -/
theorem char_past (pre post : List Char) :
    (CharIndex.ofText (pre ++ post)).char (Place.start.past pre).byte = pre.length := by
  have hbyte : (Place.start.past pre).byte = byteLength pre := by
    rw [Place.byte_past, Place.start, Nat.zero_add]
  rw [hbyte, CharIndex.char_ofText, CharIndex.charOf_byteLength]
  rw [Text.byteLength_append]
  exact Nat.le_add_right _ _

namespace Arena

theorem isError_eq_true_iff (a : Arena) (h : Handle) :
    a.isError h = true ↔ ∃ n, a.node? h = some n ∧ n.isError = true := by
  rw [isError]
  cases a.node? h with
  | none => simp
  | some n => simp

/-- No node of an arena is an error if and only if no number is that of one. -/
theorem forall_isError_iff (a : Arena) :
    (∀ h, a.isError h = false) ↔ ∀ n ∈ a.nodes, n.isError = false := by
  constructor
  · intro hnone n hn
    obtain ⟨h, hh, rfl⟩ := Array.mem_iff_getElem.mp hn
    have hnode : a.node? h = some a.nodes[h] := Array.getElem?_eq_getElem hh
    have herror := hnone h
    rwa [isError, hnode, Option.map_some, Option.getD_some] at herror
  · intro hnone h
    rw [← Bool.not_eq_true, isError_eq_true_iff]
    rintro ⟨n, hnode, herror⟩
    rw [hnone n (Array.mem_of_getElem? hnode)] at herror
    cases herror

/-- Every error is found by the walk from the root. -/
theorem WellFormed.mem_errors_iff {a : Arena} (ha : a.WellFormed) {h : Handle} :
    h ∈ a.errors ↔ a.isError h = true := by
  rw [errors, List.mem_filter, ha.mem_walk_root]
  constructor
  · exact fun hmem => hmem.2
  · intro herror
    obtain ⟨n, hnode, -⟩ := (isError_eq_true_iff a h).mp herror
    exact ⟨lt_size_of_node? hnode, herror⟩

section Entries

variable {t : Concrete} {text : String} {format : Format}

theorem kind_entry {x : Placed} (hx : x ∈ t.placed none 0 0) :
    (ofConcrete t text format).kind x.handle = x.tree.label.kind := by
  rw [kind, node?_entry hx, Option.map_some, Option.getD_some]
  exact (Placed.node_label _ text x).1

theorem field?_entry {x : Placed} (hx : x ∈ t.placed none 0 0) :
    (ofConcrete t text format).field? x.handle = x.tree.label.field := by
  rw [field?, node?_entry hx, Option.bind_some]
  exact (Placed.node_label _ text x).2.1

/-- **The text of a node** is made of the characters it covers. -/
theorem text_entry {x : Placed} (hx : x ∈ t.placed none 0 0) {cs : List Char}
    (hcovers : x.tree.Covers text.toList cs) :
    (ofConcrete t text format).text x.handle = String.ofList cs := by
  obtain ⟨pre, post, htext, hstart, hstop⟩ := hcovers
  obtain ⟨-, -, hstartOffset, hstopOffset⟩ :=
    Placed.node_extent (CharIndex.ofText text.toList) text x
  have hfirst : (CharIndex.ofText text.toList).char x.tree.label.start.byte = pre.length := by
    have hplace : x.tree.label.start = Place.start.past pre := hstart
    rw [hplace, htext, char_past]
  have hlast : (CharIndex.ofText text.toList).char x.tree.label.stop.byte = (pre ++ cs).length := by
    have hplace : x.tree.label.stop = Place.start.past (pre ++ cs) := hstop
    rw [hplace, htext, ← List.append_assoc, char_past]
  rw [Arena.text, node?_entry hx]
  simp only
  rw [hstartOffset, hstopOffset, hfirst, hlast]
  exact span_eq_ofList htext

/-! ## Errors -/

/-- A tree without errors has no subtree that is one. -/
theorem deep_of_no_errors (h : (ofConcrete t text format).errors = []) :
    t.Deep fun s => s.label.kind ≠ Concrete.errorKind := by
  rw [Concrete.deep_iff_placed none 0 0]
  intro x hx hkind
  have herror : (ofConcrete t text format).isError x.handle = true := by
    rw [isError_eq_true_iff]
    refine ⟨_, node?_entry hx, ?_⟩
    rw [Node.isError, (Placed.node_label _ text x).1, hkind]
    rfl
  rw [← (wellFormed_ofConcrete t text format).mem_errors_iff, h] at herror
  cases herror

end Entries

end Arena

end OpenApi.Tree
