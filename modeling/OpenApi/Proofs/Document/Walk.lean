/-
The walk for references, as a recursion.

`Graph.referencesFrom` keeps the values still to be visited on a stack and looks at the marks only
when it takes a value off, so one container may wait on the stack many times. Here the same walk is
written as the recursion it stands for: the values of a list are visited one after another, a
container that has not been entered before is entered, emits its reference, and has its own
children visited before the values beside it. `referencesFrom_append` is the simulation: a stack
with a list of values on top does what the recursion does on that list and goes on with the rest
of the stack, with the marks that the recursion leaves.

The rest says which containers the recursion enters. It enters none twice (`walk_nodup`), only
what can be reached (`walk_sound`), and everything that can be (`walk_closed`): what it enters,
together with what was marked before, is closed under going to a child.
-/
import Mathlib.Logic.Relation
import Mathlib.Tactic.Tauto
import OpenApi.View.Reference

set_option autoImplicit false

namespace OpenApi

/-- What a walk does: the containers it enters, in the order in which it enters them, and the
references it emits. -/
structure Trail where
  entered : List Nat
  refs : List String
deriving DecidableEq, Repr

namespace Graph

/-! ## The recursion -/

/-- The content of a container. -/
def content (g : Graph) (id : Nat) : Shape := g.shape (.container id)

/-- Only a container that is there can be entered. -/
theorem lt_size_of_isWalked {g : Graph} {id : Nat} (h : (g.content id).isWalked = true) :
    id < g.containers.size := by
  refine Nat.lt_of_not_le fun hge => ?_
  have hnone : g.containers[id]? = none := Array.getElem?_eq_none hge
  simp [content, shape, hnone, Shape.isWalked] at h

/-- Marks that hold a new one leave fewer containers unmarked. -/
theorem unseen_append_cons_lt (g : Graph) {seen : List Nat} {id : Nat}
    (hid : id < g.containers.size) (hnew : id ∉ seen) (more : List Nat) :
    g.unseen (more ++ id :: seen) < g.unseen seen := by
  refine countP_lt_of_imp (a := id) ?_ (List.mem_range.2 hid) (by simpa using hnew) (by simp)
  intro a ha
  simp only [List.contains_append, List.contains_cons, Bool.not_or, Bool.and_eq_true] at ha
  exact ha.2.2

/-- The recursive walk over a list of values, depth first. The marks are the containers that have
been entered before, last first. -/
def walk (g : Graph) (seen : List Nat) : List Value → Trail
  | [] => ⟨[], []⟩
  | .scalar _ :: rest => g.walk seen rest
  | .container id :: rest =>
    if _h : id ∉ seen ∧ (g.content id).isWalked = true then
      let below := g.walk (id :: seen) (g.content id).children
      let beside := g.walk (below.entered.reverse ++ id :: seen) rest
      ⟨id :: below.entered ++ beside.entered,
        (g.content id).reference?.toList ++ below.refs ++ beside.refs⟩
    else g.walk seen rest
termination_by values => (g.unseen seen, values.length)
decreasing_by
  · exact Prod.Lex.right _ (by simp)
  · exact Prod.Lex.left _ _ (unseen_append_cons_lt g (lt_size_of_isWalked _h.2) _h.1 [])
  · exact Prod.Lex.left _ _ (unseen_append_cons_lt g (lt_size_of_isWalked _h.2) _h.1 _)
  · exact Prod.Lex.right _ (by simp)

/-! ## The stack -/

theorem referencesFrom_enter {g : Graph} {seen : List Nat} {id : Nat}
    (h : id ∉ seen ∧ (g.content id).isWalked = true) (rest : List Value) :
    g.referencesFrom seen (.container id :: rest)
      = (g.content id).reference?.toList
        ++ g.referencesFrom (id :: seen) ((g.content id).children ++ rest) := by
  have hnew : id < g.containers.size ∧ seen.contains id = false :=
    ⟨lt_size_of_isWalked h.2, by simpa using h.1⟩
  have hwalked : (g.shape (.container id)).isWalked = true := h.2
  rw [referencesFrom, dif_pos hnew]
  exact if_pos hwalked

theorem referencesFrom_skip {g : Graph} {seen : List Nat} {id : Nat}
    (h : ¬(id ∉ seen ∧ (g.content id).isWalked = true)) (rest : List Value) :
    g.referencesFrom seen (.container id :: rest) = g.referencesFrom seen rest := by
  rw [referencesFrom]
  by_cases hnew : id < g.containers.size ∧ seen.contains id = false
  · have hseen : id ∉ seen := by simpa using hnew.2
    have hwalked : ¬(g.shape (.container id)).isWalked = true := fun hw => h ⟨hseen, hw⟩
    rw [dif_pos hnew]
    exact if_neg hwalked
  · rw [dif_neg hnew]

/-- **The stack simulates the recursion.** Values on top of a stack are dealt with as the
recursion deals with them, and then the rest of the stack is, with the marks the recursion
leaves. -/
theorem referencesFrom_append (g : Graph) (seen : List Nat) (values rest : List Value) :
    g.referencesFrom seen (values ++ rest)
      = (g.walk seen values).refs
        ++ g.referencesFrom ((g.walk seen values).entered.reverse ++ seen) rest := by
  fun_induction walk g seen values generalizing rest with
  | case1 seen => rfl
  | case2 seen s more ih =>
    rw [List.cons_append, referencesFrom]
    exact ih rest
  | case3 seen id more h below beside ihBelow ihBeside =>
    -- the children come on top of the stack: first they are dealt with, then what was beside
    rw [List.cons_append, referencesFrom_enter h, ihBelow, ihBeside]
    simp only [below, beside, List.append_assoc, List.cons_append, List.reverse_cons,
      List.reverse_append, List.nil_append]
  | case4 seen id more h ih =>
    rw [List.cons_append, referencesFrom_skip h]
    exact ih rest

/-! ## What the recursion enters -/

/-- A reference is emitted by the container that is entered, when it is entered. -/
theorem walk_refs (g : Graph) (seen : List Nat) (values : List Value) :
    (g.walk seen values).refs
      = (g.walk seen values).entered.filterMap fun id => (g.content id).reference? := by
  fun_induction walk g seen values with
  | case1 seen => rfl
  | case2 seen s more ih => exact ih
  | case3 seen id more h below beside ihBelow ihBeside =>
    rw [List.cons_append, List.filterMap_cons, List.filterMap_append, ihBelow, ihBeside]
    cases (g.content id).reference? with
    | none => rfl
    | some target => rfl
  | case4 seen id more h ih => exact ih

/-- No container is entered twice, and none that was marked. -/
theorem walk_nodup (g : Graph) (seen : List Nat) (values : List Value) :
    (g.walk seen values).entered.Nodup ∧ ∀ id ∈ (g.walk seen values).entered, id ∉ seen := by
  fun_induction walk g seen values with
  | case1 seen => exact ⟨List.nodup_nil, fun id hid => absurd hid List.not_mem_nil⟩
  | case2 seen s more ih => exact ih
  | case3 seen id more h below beside ihBelow ihBeside =>
    -- what is entered beside was not marked, and all that was entered before it was
    have hbelow : ∀ x ∈ below.entered, x ≠ id ∧ x ∉ seen := by
      intro x hx
      simpa using ihBelow.2 x hx
    have hbeside : ∀ x ∈ beside.entered, x ∉ below.entered ∧ x ≠ id ∧ x ∉ seen := by
      intro x hx
      simpa using ihBeside.2 x hx
    constructor
    · rw [List.cons_append, List.nodup_cons, List.nodup_append]
      refine ⟨?_, ihBelow.1, ihBeside.1, ?_⟩
      · intro hmem
        rcases List.mem_append.mp hmem with hx | hx
        · exact (hbelow id hx).1 rfl
        · exact (hbeside id hx).2.1 rfl
      · rintro x hx y hy rfl
        exact (hbeside x hy).1 hx
    · intro x hx
      rw [List.cons_append, List.mem_cons, List.mem_append] at hx
      rcases hx with rfl | hx | hx
      · exact h.1
      · exact (hbelow x hx).2
      · exact (hbeside x hx).2.2
  | case4 seen id more h ih => exact ih

/-- A container is a child of another: a value of the mapping, or an item of the sequence. -/
def Holds (g : Graph) (a b : Nat) : Prop := .container b ∈ (g.content a).children

/-- Every container that is entered can be reached from one of the values, and is a mapping or a
sequence. -/
theorem walk_sound (g : Graph) (seen : List Nat) (values : List Value) :
    ∀ id ∈ (g.walk seen values).entered, (g.content id).isWalked = true
      ∧ ∃ a, Value.container a ∈ values ∧ Relation.ReflTransGen g.Holds a id := by
  fun_induction walk g seen values with
  | case1 seen => exact fun id hid => absurd hid List.not_mem_nil
  | case2 seen s more ih =>
    intro x hx
    obtain ⟨hwalked, a, ha, hreach⟩ := ih x hx
    exact ⟨hwalked, a, List.mem_cons_of_mem _ ha, hreach⟩
  | case3 seen id more h below beside ihBelow ihBeside =>
    intro x hx
    rw [List.cons_append, List.mem_cons, List.mem_append] at hx
    rcases hx with rfl | hx | hx
    · exact ⟨h.2, x, List.mem_cons_self, .refl⟩
    · obtain ⟨hwalked, a, ha, hreach⟩ := ihBelow x hx
      exact ⟨hwalked, id, List.mem_cons_self, .head ha hreach⟩
    · obtain ⟨hwalked, a, ha, hreach⟩ := ihBeside x hx
      exact ⟨hwalked, a, List.mem_cons_of_mem _ ha, hreach⟩
  | case4 seen id more h ih =>
    intro x hx
    obtain ⟨hwalked, a, ha, hreach⟩ := ih x hx
    exact ⟨hwalked, a, List.mem_cons_of_mem _ ha, hreach⟩

/-- All that can be entered is: the values themselves, and the children of what is entered, are
entered or marked. -/
theorem walk_closed (g : Graph) (seen : List Nat) (values : List Value) :
    ∀ b, (g.content b).isWalked = true →
      (.container b ∈ values ∨ ∃ a ∈ (g.walk seen values).entered, g.Holds a b) →
      b ∈ seen ∨ b ∈ (g.walk seen values).entered := by
  fun_induction walk g seen values with
  | case1 seen =>
    rintro b - (hb | ⟨a, ha, -⟩)
    · cases hb
    · cases ha
  | case2 seen s more ih =>
    rintro b hwalked (hb | hheld)
    · refine ih b hwalked (.inl ?_)
      simpa using hb
    · exact ih b hwalked (.inr hheld)
  | case3 seen id more h below beside ihBelow ihBeside =>
    -- `beside` is closed over everything marked when it starts, so it is enough to be marked then
    have hmarked : ∀ b, b ∈ below.entered.reverse ++ id :: seen ∨ b ∈ beside.entered →
        b ∈ seen ∨ b ∈ id :: below.entered ++ beside.entered := by
      intro b hb
      simp only [List.mem_append, List.mem_reverse, List.mem_cons] at hb ⊢
      tauto
    have hbelow : ∀ b, b ∈ id :: seen ∨ b ∈ below.entered →
        b ∈ seen ∨ b ∈ id :: below.entered ++ beside.entered := by
      intro b hb
      simp only [List.mem_append, List.mem_cons] at hb ⊢
      tauto
    rintro b hwalked (hb | ⟨a, ha, hheld⟩)
    · rcases List.mem_cons.mp hb with heq | hmore
      · obtain rfl : b = id := by simpa using heq
        exact .inr List.mem_cons_self
      · exact hmarked b (ihBeside b hwalked (.inl hmore))
    · rw [List.cons_append, List.mem_cons, List.mem_append] at ha
      rcases ha with rfl | ha | ha
      · exact hbelow b (ihBelow b hwalked (.inl hheld))
      · exact hbelow b (ihBelow b hwalked (.inr ⟨a, ha, hheld⟩))
      · exact hmarked b (ihBeside b hwalked (.inr ⟨a, ha, hheld⟩))
  | case4 seen id more h ih =>
    rintro b hwalked (hb | hheld)
    · rcases List.mem_cons.mp hb with heq | hmore
      · obtain rfl : b = id := by simpa using heq
        by_cases hseen : b ∈ seen
        · exact .inl hseen
        · exact absurd ⟨hseen, hwalked⟩ h
      · exact ih b hwalked (.inl hmore)
    · exact ih b hwalked (.inr hheld)

/-- A container with a child is a mapping or a sequence. -/
theorem isWalked_of_holds {g : Graph} {a b : Nat} (h : g.Holds a b) :
    (g.content a).isWalked = true := by
  rw [Holds] at h
  cases hc : g.content a with
  | mapping entries => rfl
  | sequence items => rfl
  | scalar s => simp [hc, Shape.children] at h
  | pair first second => simp [hc, Shape.children] at h
  | set members => simp [hc, Shape.children] at h

/-- A container with a reference is a mapping. -/
theorem isWalked_of_reference {g : Graph} {a : Nat} (h : (g.content a).reference?.isSome = true) :
    (g.content a).isWalked = true := by
  cases hc : g.content a with
  | mapping entries => rfl
  | sequence items => rfl
  | scalar s => simp [hc, Shape.reference?] at h
  | pair first second => simp [hc, Shape.reference?] at h
  | set members => simp [hc, Shape.reference?] at h

end Graph

namespace Document

/-- A container can be reached from the top of the document through values of mappings and items of
sequences. -/
def Reaches (d : Document) (id : Nat) : Prop :=
  ∃ top, d.root = .container top ∧ Relation.ReflTransGen d.graph.Holds top id

/-- A walk from the top enters exactly the mappings and sequences that can be reached. -/
theorem mem_entered_iff (d : Document) (id : Nat) :
    id ∈ (d.graph.walk [] [d.root]).entered
      ↔ d.Reaches id ∧ (d.graph.content id).isWalked = true := by
  constructor
  · intro hid
    obtain ⟨hwalked, top, htop, hreach⟩ := d.graph.walk_sound [] [d.root] id hid
    exact ⟨⟨top, (List.mem_singleton.mp htop).symm, hreach⟩, hwalked⟩
  · rintro ⟨⟨top, htop, hreach⟩, hwalked⟩
    have hclosed := d.graph.walk_closed [] [d.root]
    -- along the way every container but the last has a child, so it is entered
    induction hreach with
    | refl => exact (hclosed top hwalked (.inl (by rw [htop]; simp))).resolve_left (by simp)
    | tail _ hheld ih =>
      have hentered := ih (Graph.isWalked_of_holds hheld)
      exact (hclosed _ hwalked (.inr ⟨_, hentered, hheld⟩)).resolve_left (by simp)

theorem references_eq_walk (d : Document) : d.references = (d.graph.walk [] [d.root]).refs := by
  have h := d.graph.referencesFrom_append [] [d.root] []
  rw [List.append_nil] at h
  rw [references, h, Graph.referencesFrom, List.append_nil]

/-- There is one reference for each container that has one and can be reached. -/
theorem references_one_each (d : Document) :
    ∃ ids : List Nat, ids.Nodup
      ∧ (∀ id, id ∈ ids ↔ d.Reaches id ∧ (d.graph.content id).reference?.isSome = true)
      ∧ d.references.map some = ids.map fun id => (d.graph.content id).reference? := by
  refine ⟨(d.graph.walk [] [d.root]).entered.filter
    fun id => (d.graph.content id).reference?.isSome, ?_, ?_, ?_⟩
  · exact (d.graph.walk_nodup [] [d.root]).1.filter _
  · intro id
    rw [List.mem_filter, mem_entered_iff]
    constructor
    · rintro ⟨⟨hreach, -⟩, href⟩
      exact ⟨hreach, href⟩
    · rintro ⟨hreach, href⟩
      exact ⟨⟨hreach, Graph.isWalked_of_reference href⟩, href⟩
  · rw [references_eq_walk, Graph.walk_refs, List.map_filterMap_some_eq_filter_map_isSome,
      List.filter_map]
    rfl

end Document

end OpenApi
