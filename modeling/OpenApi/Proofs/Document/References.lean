/-
References of documents in which nothing is shared.

Two recursions collect the references of a document. One keeps marks and enters each container
once; that is what the walk does on any document. The other is the plain one over the structure of
the document, which keeps no marks: it repeats what is shared and never ends on a cycle. Where no
container stands at two places the marks are never consulted in vain, so the two agree
(`plain_walk`).

JSON documents are of this kind. Their containers are numbered in the order in which they begin,
so the containers of a value fill an interval of numbers, and the intervals of the parts of a value
follow one another; a number therefore tells the place. On them the plain recursion is the
recursion on the JSON value itself.
-/
import OpenApi.Document.FromJson
import OpenApi.Proofs.Document.Walk

set_option autoImplicit false

namespace OpenApi

/-! ## The plain recursion -/

namespace Graph

/-- What the plain recursion over a list of values emits. It is a relation because the recursion
has no result on a list from which a cycle can be reached. -/
inductive Plain (g : Graph) : List Value → List String → Prop where
  | nil : Plain g [] []
  | scalar (s : Scalar) {rest : List Value} {beside : List String} :
      Plain g rest beside → Plain g (.scalar s :: rest) beside
  | container (id : Nat) {rest : List Value} {below beside : List String} :
      Plain g (g.content id).children below → Plain g rest beside →
      Plain g (.container id :: rest) ((g.content id).reference?.toList ++ below ++ beside)

/-- The plain recursion has one result at most. -/
theorem Plain.unique {g : Graph} {values : List Value} {refs refs' : List String}
    (h : g.Plain values refs) (h' : g.Plain values refs') : refs = refs' := by
  induction h generalizing refs' with
  | nil =>
    cases h'
    rfl
  | scalar s _ ih =>
    cases h' with
    | scalar _ hrest => exact ih hrest
  | container id _ _ ihBelow ihBeside =>
    cases h' with
    | container _ hbelow hbeside => rw [ihBelow hbelow, ihBeside hbeside]

theorem Plain.cons {g : Graph} {v : Value} {values : List Value} {refs more : List String}
    (h : g.Plain [v] refs) (hmore : g.Plain values more) :
    g.Plain (v :: values) (refs ++ more) := by
  cases h with
  | scalar s hnil =>
    cases hnil
    exact .scalar s hmore
  | container id hbelow hnil =>
    cases hnil
    rw [List.append_nil]
    exact .container id hbelow hmore

/-- What is no mapping and no sequence has no children and no reference. -/
theorem Plain.leaf {g : Graph} {id : Nat} (h : ¬(g.content id).isWalked = true)
    {values : List Value} {refs : List String} (hrest : g.Plain values refs) :
    g.Plain (.container id :: values) refs := by
  have hchildren : (g.content id).children = [] ∧ (g.content id).reference? = none := by
    cases hc : g.content id with
    | mapping entries => simp [hc, Shape.isWalked] at h
    | sequence items => simp [hc, Shape.isWalked] at h
    | scalar s => exact ⟨rfl, rfl⟩
    | pair first second => exact ⟨rfl, rfl⟩
    | set members => exact ⟨rfl, rfl⟩
  have hempty : g.Plain (g.content id).children [] := by
    rw [hchildren.1]
    exact .nil
  have hplain := Plain.container id hempty hrest
  rwa [hchildren.2] at hplain

/-! ## Places -/

/-- A container stands at a place of a list of values. A place is the number of one of the values,
followed by the number of one of its children, and so on. -/
inductive At (g : Graph) : List Value → List Nat → Nat → Prop where
  | here {values : List Value} {i id : Nat} :
      values[i]? = some (.container id) → At g values [i] id
  | inside {values : List Value} {i a id : Nat} {place : List Nat} :
      values[i]? = some (.container a) → At g (g.content a).children place id →
      At g values (i :: place) id

/-- No container stands at two places. -/
def Unshared (g : Graph) (values : List Value) : Prop :=
  ∀ p q id, g.At values p id → g.At values q id → p = q

theorem not_at_nil {g : Graph} {values : List Value} {id : Nat} : ¬g.At values [] id := nofun

theorem At.cons {g : Graph} {values : List Value} {i : Nat} {place : List Nat} {id : Nat}
    (h : g.At values (i :: place) id) (v : Value) : g.At (v :: values) ((i + 1) :: place) id := by
  cases h with
  | here hi => exact .here (by rwa [List.getElem?_cons_succ])
  | inside hi hbelow => exact .inside (by rwa [List.getElem?_cons_succ]) hbelow

/-- A place in a list is below its head, or in its tail. -/
theorem At.cons_cases {g : Graph} {v : Value} {values : List Value} {place : List Nat} {id : Nat}
    (h : g.At (v :: values) place id) :
    (∃ rest, place = 0 :: rest ∧ g.At [v] place id)
      ∨ ∃ i rest, place = (i + 1) :: rest ∧ g.At values (i :: rest) id := by
  cases h with
  | @here _ i _ hi =>
    cases i with
    | zero => exact .inl ⟨[], rfl, .here (by simpa using hi)⟩
    | succ i => exact .inr ⟨i, [], rfl, .here (by simpa using hi)⟩
  | @inside _ i a _ rest hi hbelow =>
    cases i with
    | zero => exact .inl ⟨rest, rfl, .inside (a := a) (by simpa using hi) hbelow⟩
    | succ i => exact .inr ⟨i, rest, rfl, .inside (a := a) (by simpa using hi) hbelow⟩

theorem not_at_scalar {g : Graph} {s : Scalar} {place : List Nat} {id : Nat} :
    ¬g.At [.scalar s] place id := by
  intro h
  cases h with
  | @here _ i _ hi => cases i <;> simp at hi
  | @inside _ i _ _ _ hi _ => cases i <;> simp at hi

/-- The places under a container: its own, and those of its children. -/
theorem At.container_cases {g : Graph} {a : Nat} {place : List Nat} {id : Nat}
    (h : g.At [.container a] place id) :
    (place = [0] ∧ id = a) ∨ ∃ rest, place = 0 :: rest ∧ g.At (g.content a).children rest id := by
  cases h with
  | @here _ i _ hi =>
    obtain ⟨rfl, rfl⟩ : i = 0 ∧ a = id := by
      cases i with
      | zero => simpa using hi
      | succ i => simp at hi
    exact .inl ⟨rfl, rfl⟩
  | @inside _ i b _ rest hi hbelow =>
    obtain ⟨rfl, rfl⟩ : i = 0 ∧ a = b := by
      cases i with
      | zero => simpa using hi
      | succ i => simp at hi
    exact .inr ⟨rest, rfl, hbelow⟩

/-- What can be reached from one of the values stands at a place. -/
theorem at_of_reach {g : Graph} {values : List Value} {a id : Nat}
    (ha : .container a ∈ values) (hreach : Relation.ReflTransGen g.Holds a id) :
    ∃ place, g.At values place id := by
  induction hreach using Relation.ReflTransGen.head_induction_on generalizing values with
  | refl =>
    obtain ⟨i, hi⟩ := List.mem_iff_getElem?.mp ha
    exact ⟨[i], .here hi⟩
  | head hheld _ ih =>
    obtain ⟨i, hi⟩ := List.mem_iff_getElem?.mp ha
    obtain ⟨place, hplace⟩ := ih hheld
    exact ⟨i :: place, .inside hi hplace⟩

/-! ## Without sharing the marks do not matter -/

theorem Unshared.children {g : Graph} {id : Nat} {rest : List Value}
    (h : g.Unshared (.container id :: rest)) : g.Unshared (g.content id).children := by
  intro p q x hp hq
  exact List.tail_eq_of_cons_eq (h (0 :: p) (0 :: q) x (.inside rfl hp) (.inside rfl hq))

theorem Unshared.tail {g : Graph} {v : Value} {rest : List Value} (h : g.Unshared (v :: rest)) :
    g.Unshared rest := by
  intro p q x hp hq
  cases p with
  | nil => exact absurd hp not_at_nil
  | cons i p =>
    cases q with
    | nil => exact absurd hq not_at_nil
    | cons j q =>
      have heq := h _ _ x (hp.cons v) (hq.cons v)
      simpa using heq

/-- **The walk is the plain recursion** on values among which nothing is shared, as long as none of
the marks stands at a place of theirs. -/
theorem plain_walk {g : Graph} {seen : List Nat} {values : List Value}
    (hvalues : g.Unshared values) (hseen : ∀ x ∈ seen, ∀ p, ¬g.At values p x) :
    g.Plain values (g.walk seen values).refs := by
  fun_induction walk g seen values with
  | case1 seen => exact .nil
  | case2 seen s rest ih =>
    refine .scalar s (ih hvalues.tail ?_)
    intro x hx p hp
    cases p with
    | nil => exact not_at_nil hp
    | cons i p => exact hseen x hx _ (hp.cons _)
  | case3 seen id rest h below beside ihBelow ihBeside =>
    have hid : g.At (.container id :: rest) [0] id := .here rfl
    refine .container id (ihBelow hvalues.children ?_) (ihBeside hvalues.tail ?_)
    · -- a child's place extends that of the container, so it is not the container itself
      intro x hx p hp
      have hat : g.At (.container id :: rest) (0 :: p) x := .inside rfl hp
      rcases List.mem_cons.mp hx with rfl | hx
      · have heq := hvalues _ _ x hid hat
        rw [List.cons.injEq] at heq
        rw [← heq.2] at hp
        exact not_at_nil hp
      · exact hseen x hx _ hat
    · -- what was entered stands under the head, and the tail has other places
      intro x hx p hp
      cases p with
      | nil => exact not_at_nil hp
      | cons i p =>
        have hat := hp.cons (.container id)
        rw [List.mem_append, List.mem_reverse, List.mem_cons] at hx
        rcases hx with hx | rfl | hx
        · obtain ⟨-, a, ha, hreach⟩ := g.walk_sound _ _ x hx
          obtain ⟨q, hq⟩ := at_of_reach ha hreach
          have heq := hvalues (0 :: q) _ x (.inside rfl hq) hat
          simp at heq
        · have heq := hvalues _ _ x hid hat
          simp at heq
        · exact hseen x hx _ hat
  | case4 seen id rest h ih =>
    have hid : g.At (.container id :: rest) [0] id := .here rfl
    have hnew : id ∉ seen := fun hmem => hseen id hmem [0] hid
    refine .leaf (fun hwalked => h ⟨hnew, hwalked⟩) (ih hvalues.tail ?_)
    intro x hx p hp
    cases p with
    | nil => exact not_at_nil hp
    | cons i p => exact hseen x hx _ (hp.cons _)

end Graph

/-! ## JSON values -/

namespace Json

/-- The reference of an object, if it has one that is not empty. -/
def Fields.reference? (fields : Fields) : Option String :=
  match fields.get? "$ref" with
  | some (.str target) => if target == "" then none else some target
  | _ => none

mutual

/-- The references of a JSON value, by recursion on the value. -/
def Value.references : Value → List String
  | .array items => itemReferences items
  | .object fields => (Fields.reference? fields).toList ++ fieldReferences fields
  | _ => []

def Value.itemReferences : List Value → List String
  | [] => []
  | item :: rest => item.references ++ itemReferences rest

def Value.fieldReferences : List (String × Value) → List String
  | [] => []
  | (_, item) :: rest => item.references ++ fieldReferences rest

end

end Json

namespace Graph

/-! ## Conversion only adds containers -/

/-- A graph holds all containers of another, and perhaps more behind them. -/
structure Extends (g h : Graph) : Prop where
  size_le : g.containers.size ≤ h.containers.size
  same : ∀ id, id < g.containers.size → h.containers[id]? = g.containers[id]?

theorem Extends.refl (g : Graph) : g.Extends g := ⟨Nat.le_refl _, fun _ _ => rfl⟩

theorem Extends.trans {g h k : Graph} (hgh : g.Extends h) (hhk : h.Extends k) : g.Extends k where
  size_le := Nat.le_trans hgh.size_le hhk.size_le
  same := by
    intro id hid
    rw [hhk.same id (Nat.lt_of_lt_of_le hid hgh.size_le), hgh.same id hid]

theorem extends_add (g : Graph) (c : Container) : g.Extends (g.add c).1 where
  size_le := by simp [add]
  same := by
    intro id hid
    exact Array.getElem?_push_lt hid |>.trans (Array.getElem?_eq_getElem hid).symm

/-- A container that was added may be filled in later. -/
theorem Extends.set {g h : Graph} {c : Container} (hgh : (g.add c).1.Extends h) (c' : Container) :
    g.Extends (h.set g.containers.size c') := by
  have hg : g.Extends h := (extends_add g c).trans hgh
  refine ⟨by simpa [Graph.set] using hg.size_le, ?_⟩
  intro id hid
  rw [← hg.same id hid, Graph.set, Array.getElem?_setIfInBounds_ne (Nat.ne_of_gt hid)]

mutual

theorem extends_ofJson (g : Graph) : (v : Json.Value) → g.Extends (g.ofJson v).1
  | .null => .refl g
  | .bool _ => .refl g
  | .int _ => .refl g
  | .float _ => .refl g
  | .str _ => .refl g
  | .array items => by
    rw [ofJson]
    exact (extends_ofJsonItems _ items).set _
  | .object fields => by
    rw [ofJson]
    exact (extends_ofJsonFields _ fields).set _

theorem extends_ofJsonItems (g : Graph) :
    (items : List Json.Value) → g.Extends (g.ofJsonItems items).1
  | [] => .refl g
  | item :: rest => by
    rw [ofJsonItems]
    exact (extends_ofJson g item).trans (extends_ofJsonItems _ rest)

theorem extends_ofJsonFields (g : Graph) :
    (fields : List (String × Json.Value)) → g.Extends (g.ofJsonFields fields).1
  | [] => .refl g
  | (name, item) :: rest => by
    rw [ofJsonFields]
    exact (extends_ofJson g item).trans (extends_ofJsonFields _ rest)

end

/-! ## Numbers tell places -/

/-- The containers of a list of values have numbers in an interval, none stands at two places, and
the plain recursion over the values emits the references given. -/
structure Spread (h : Graph) (low high : Nat) (values : List Value) (refs : List String) :
    Prop where
  plain : h.Plain values refs
  within : ∀ p id, h.At values p id → low ≤ id ∧ id < high
  unshared : h.Unshared values

theorem Spread.nil (h : Graph) (n : Nat) : h.Spread n n [] [] where
  plain := .nil
  within := by rintro _ _ (⟨⟨⟩⟩ | ⟨⟨⟩⟩)
  unshared := by rintro _ _ _ (⟨⟨⟩⟩ | ⟨⟨⟩⟩)

/-- Values whose intervals follow one another. -/
theorem Spread.cons {h : Graph} {low mid high : Nat} {v : Value} {values : List Value}
    {refs more : List String} (hlow : low ≤ mid) (hhigh : mid ≤ high)
    (hv : h.Spread low mid [v] refs) (hvalues : h.Spread mid high values more) :
    h.Spread low high (v :: values) (refs ++ more) where
  plain := hv.plain.cons hvalues.plain
  within := by
    intro p id hp
    rcases hp.cons_cases with ⟨_, _, hhead⟩ | ⟨_, _, _, htail⟩
    · have := hv.within _ _ hhead
      omega
    · have := hvalues.within _ _ htail
      omega
  unshared := by
    intro p q id hp hq
    rcases hp.cons_cases with ⟨_, _, hp'⟩ | ⟨i, p', rfl, hp'⟩ <;>
      rcases hq.cons_cases with ⟨_, _, hq'⟩ | ⟨j, q', rfl, hq'⟩
    · exact hv.unshared _ _ id hp' hq'
    -- a place under the head and one in the tail: the number would lie in both intervals
    · have h₁ := hv.within _ _ hp'
      have h₂ := hvalues.within _ _ hq'
      omega
    · have h₁ := hvalues.within _ _ hp'
      have h₂ := hv.within _ _ hq'
      omega
    · have heq := hvalues.unshared _ _ id hp' hq'
      simpa using heq

theorem Spread.scalar (h : Graph) (n : Nat) (s : Scalar) : h.Spread n n [.scalar s] [] where
  plain := .scalar s .nil
  within := fun _ _ hp => absurd hp not_at_scalar
  unshared := fun _ _ _ hp => absurd hp not_at_scalar

/-- A container and, with the numbers behind its own, its children. -/
theorem Spread.container {h : Graph} {id high : Nat} {refs : List String} (hhigh : id < high)
    (hchildren : h.Spread (id + 1) high (h.content id).children refs) :
    h.Spread id high [.container id] ((h.content id).reference?.toList ++ refs) where
  plain := by
    have hplain := Plain.container id hchildren.plain .nil
    rwa [List.append_nil] at hplain
  within := by
    intro p x hp
    rcases hp.container_cases with ⟨-, rfl⟩ | ⟨rest, -, hrest⟩
    · exact ⟨Nat.le_refl _, hhigh⟩
    · have := hchildren.within _ _ hrest
      omega
  unshared := by
    intro p q x hp hq
    rcases hp.container_cases with ⟨rfl, rfl⟩ | ⟨p', rfl, hp'⟩ <;>
      rcases hq.container_cases with ⟨rfl, hx⟩ | ⟨q', rfl, hq'⟩
    · rfl
    · have := hchildren.within _ _ hq'
      omega
    · have := hchildren.within _ _ hp'
      omega
    · rw [hchildren.unshared _ _ x hp' hq']

/-! ## JSON documents -/

/-- Two graphs have the same containers at the numbers of an interval. -/
def Agree (low high : Nat) (g h : Graph) : Prop :=
  ∀ id, low ≤ id → id < high → h.containers[id]? = g.containers[id]?

/-- The interval may be cut at the size of a graph that the other extends. -/
theorem Agree.left {g g' h : Graph} {low : Nat} (hg : g.Extends g')
    (hagree : Agree low g'.containers.size g' h) : Agree low g.containers.size g h := by
  intro id hlow hid
  rw [hagree id hlow (Nat.lt_of_lt_of_le hid hg.size_le), hg.same id hid]

theorem Agree.right {g h : Graph} {low low' high : Nat} (hlow : low ≤ low')
    (hagree : Agree low high g h) : Agree low' high g h :=
  fun id hid => hagree id (Nat.le_trans hlow hid)

/-- A container was added, others behind it, and then it was filled in. -/
theorem Agree.filled {g g' h : Graph} {c c' : Container} (hg : (g.add c).1.Extends g')
    (hagree : Agree g.containers.size (g'.set g.containers.size c').containers.size
      (g'.set g.containers.size c') h) :
    g.containers.size < g'.containers.size ∧ h.containers[g.containers.size]? = some c'
      ∧ Agree (g.add c).1.containers.size g'.containers.size g' h := by
  have hadd : (g.add c).1.containers.size = g.containers.size + 1 := by simp [add]
  have hset : (g'.set g.containers.size c').containers.size = g'.containers.size := by
    simp [Graph.set]
  have hlt : g.containers.size < g'.containers.size := by
    have := hg.size_le
    omega
  rw [hset] at hagree
  refine ⟨hlt, ?_, ?_⟩
  · rw [hagree _ (Nat.le_refl _) hlt, Graph.set, Array.getElem?_setIfInBounds_self_of_lt hlt]
  · intro id hlow hid
    rw [hagree id (by omega) hid, Graph.set, Array.getElem?_setIfInBounds_ne (by omega)]

/-- A container that was added, had its children converted and was then filled in with them. -/
theorem Spread.filled {g g' h : Graph} {c c' : Container} {s : Shape} {refs : List String}
    (hg : (g.add c).1.Extends g')
    (hshape : h.containers[g.containers.size]? = some c' → h.content g.containers.size = s)
    (hagree : Agree g.containers.size (g'.set g.containers.size c').containers.size
      (g'.set g.containers.size c') h)
    (hchildren : Agree (g.add c).1.containers.size g'.containers.size g' h →
      h.Spread (g.add c).1.containers.size g'.containers.size s.children refs) :
    h.Spread g.containers.size (g'.set g.containers.size c').containers.size
      [.container g.containers.size] (s.reference?.toList ++ refs) := by
  obtain ⟨hlt, hcontainer, hbehind⟩ := hagree.filled hg
  have hadd : (g.add c).1.containers.size = g.containers.size + 1 := by simp [add]
  have hset : (g'.set g.containers.size c').containers.size = g'.containers.size := by
    simp [Graph.set]
  have hspread := hchildren hbehind
  rw [hadd, ← hshape hcontainer] at hspread
  rw [hset, ← hshape hcontainer]
  exact .container hlt hspread

theorem sameKey_str (a b : String) : (Scalar.str a).sameKey (.str b) = (a == b) := by
  by_cases h : a = b
  · simp [Scalar.sameKey, Scalar.integer?, h]
  · simp [Scalar.sameKey, Scalar.integer?, h]

/-- A field of the mapping that an object becomes is the field of the object, as it was converted
at some point. -/
theorem ofJsonFields_get? (g : Graph) (name : String) (fields : Json.Fields) :
    ∃ g' : Graph, Entries.get? (g.ofJsonFields fields).2 (.str name)
      = (fields.get? name).map fun v => (g'.ofJson v).2 := by
  induction fields generalizing g with
  | nil => exact ⟨g, rfl⟩
  | cons field rest ih =>
    obtain ⟨key, item⟩ := field
    rw [ofJsonFields]
    by_cases hkey : key = name
    · exact ⟨g, by simp [Entries.get?, Json.Fields.get?, sameKey_str, hkey]⟩
    · obtain ⟨g', hg'⟩ := ih (g.ofJson item).1
      refine ⟨g', ?_⟩
      simpa [Entries.get?, Json.Fields.get?, sameKey_str, hkey] using hg'

/-- Conversion keeps the reference of an object. -/
theorem reference?_ofJsonFields (g : Graph) (fields : Json.Fields) :
    (Shape.mapping (g.ofJsonFields fields).2).reference? = fields.reference? := by
  obtain ⟨g', hg'⟩ := g.ofJsonFields_get? "$ref" fields
  rw [Shape.reference?, Entries.read, hg', Json.Fields.reference?]
  cases fields.get? "$ref" with
  | none => rfl
  | some v => cases v <;> simp [ofJson]

mutual

/-- The containers of a JSON value get the numbers from the size before to the size after. -/
theorem spread_ofJson (g h : Graph) : (v : Json.Value) →
    Agree g.containers.size (g.ofJson v).1.containers.size (g.ofJson v).1 h →
    h.Spread g.containers.size (g.ofJson v).1.containers.size [(g.ofJson v).2] v.references
  | .null, _ => .scalar h _ _
  | .bool _, _ => .scalar h _ _
  | .int _, _ => .scalar h _ _
  | .float _, _ => .scalar h _ _
  | .str _, _ => .scalar h _ _
  | .array items, hagree => by
    rw [ofJson] at hagree ⊢
    refine .filled (s := .sequence _) (extends_ofJsonItems _ items) ?_ hagree
      (spread_ofJsonItems _ h items)
    intro hc
    simp only [content, shape, hc]
  | .object fields, hagree => by
    rw [ofJson] at hagree ⊢
    rw [Json.Value.references, ← reference?_ofJsonFields (g.add (.mapping [])).1 fields]
    refine .filled (s := .mapping _) (extends_ofJsonFields _ fields) ?_ hagree
      (spread_ofJsonFields _ h fields)
    intro hc
    simp only [content, shape, hc]

theorem spread_ofJsonItems (g h : Graph) : (items : List Json.Value) →
    Agree g.containers.size (g.ofJsonItems items).1.containers.size (g.ofJsonItems items).1 h →
    h.Spread g.containers.size (g.ofJsonItems items).1.containers.size (g.ofJsonItems items).2
      (Json.Value.itemReferences items)
  | [], _ => .nil h _
  | item :: rest, hagree => by
    rw [ofJsonItems] at hagree ⊢
    have hitem := extends_ofJson g item
    have hrest := extends_ofJsonItems (g.ofJson item).1 rest
    exact .cons hitem.size_le hrest.size_le
      (spread_ofJson g h item (hagree.left hrest))
      (spread_ofJsonItems _ h rest (hagree.right hitem.size_le))

theorem spread_ofJsonFields (g h : Graph) : (fields : List (String × Json.Value)) →
    Agree g.containers.size (g.ofJsonFields fields).1.containers.size
      (g.ofJsonFields fields).1 h →
    h.Spread g.containers.size (g.ofJsonFields fields).1.containers.size
      ((g.ofJsonFields fields).2.map (·.2)) (Json.Value.fieldReferences fields)
  | [], _ => .nil h _
  | (name, item) :: rest, hagree => by
    rw [ofJsonFields] at hagree ⊢
    have hitem := extends_ofJson g item
    have hrest := extends_ofJsonFields (g.ofJson item).1 rest
    exact .cons hitem.size_le hrest.size_le
      (spread_ofJson g h item (hagree.left hrest))
      (spread_ofJsonFields _ h rest (hagree.right hitem.size_le))

end

end Graph

namespace Document

/-- No container stands at two places of the document. -/
def Unshared (d : Document) : Prop := d.graph.Unshared [d.root]

theorem spread_ofJson (v : Json.Value) :
    (Document.ofJson v).graph.Spread 0 (Document.ofJson v).graph.containers.size
      [(Document.ofJson v).root] v.references :=
  Graph.spread_ofJson Graph.empty _ v fun _ _ _ => rfl

/-- The plain recursion has a result on a document without sharing, and that is what the walk
gives. -/
theorem plain_references {d : Document} (hd : d.Unshared) :
    d.graph.Plain [d.root] d.references := by
  rw [references_eq_walk]
  exact Graph.plain_walk hd fun x hx => absurd hx List.not_mem_nil

/-! ## The result -/

/-- **The references of a document.** They are what the recursive walk emits that enters each
container once, depth first. So there is exactly one for each container that can be reached through
values of mappings and items of sequences and is a mapping with a reference. On a document without
sharing they are the one result of the plain recursion, which keeps no marks. No JSON document has
sharing, and its references are those of the JSON value. -/
theorem references_eq_recursive_walk (d : Document) :
    d.references = (d.graph.walk [] [d.root]).refs
      ∧ (∃ ids : List Nat, ids.Nodup
          ∧ (∀ id, id ∈ ids ↔ d.Reaches id ∧ (d.graph.content id).reference?.isSome = true)
          ∧ d.references.map some = ids.map fun id => (d.graph.content id).reference?)
      ∧ (d.Unshared → ∀ refs, d.graph.Plain [d.root] refs ↔ refs = d.references)
      ∧ ∀ v, (Document.ofJson v).Unshared ∧ (Document.ofJson v).references = v.references := by
  refine ⟨d.references_eq_walk, d.references_one_each, ?_, ?_⟩
  · intro hd refs
    constructor
    · intro hrefs
      exact hrefs.unique (plain_references hd)
    · rintro rfl
      exact plain_references hd
  · intro v
    have hspread := spread_ofJson v
    exact ⟨hspread.unshared, (plain_references hspread.unshared).unique hspread.plain⟩

/-- Two objects with the same reference both count in a document without sharing. -/
theorem references_keep_duplicates :
    let target : Json.Value := .object [("$ref", .str "#/x")]
    let d := Document.ofJson (.object [("a", target), ("b", target)])
    d.Unshared ∧ d.graph.Plain [d.root] ["#/x", "#/x"] := by
  intro target d
  obtain ⟨-, -, hplain, hjson⟩ := references_eq_recursive_walk d
  obtain ⟨hunshared, hrefs⟩ := hjson (.object [("a", target), ("b", target)])
  exact ⟨hunshared, (hplain hunshared _).mpr hrefs.symm⟩

/-- A mapping that holds itself, and another one twice, has two references. -/
example :
    let outer : Container := .mapping
      [(.str "$ref", .str "#/a"), (.str "self", .container 0), (.str "x", .container 1),
        (.str "y", .container 1)]
    let inner : Container := .mapping [(.str "$ref", .str "#/b")]
    (Document.mk ⟨#[outer, inner]⟩ (.container 0)).references = ["#/a", "#/b"] := by
  cbv

end Document

end OpenApi
