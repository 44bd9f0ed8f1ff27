/-
What the values of a document stand for.

A value of a document is a scalar or the number of a container, and numbers differ from document to
document. To compare values of two documents one asks for the JSON value that each of them stands
for (`StandsFor`): the containers behind the value have to spell out that JSON value, fields and
items in order. It is determined by the document and the value (`StandsFor.unique`). A JSON value
that was made a document is what the document stands for (`standsFor_ofJson`).
-/
import Mathlib.Data.List.Forall2
import OpenApi.Proofs.Document.References

set_option autoImplicit false

namespace OpenApi

namespace Graph

variable {g : Graph}

mutual

/-- A value of a document stands for a JSON value. -/
def StandsFor (g : Graph) (x : Value) : Json.Value → Prop
  | .null => x = .scalar .null
  | .bool b => x = .scalar (.bool b)
  | .int n => x = .scalar (.int n)
  | .float r => x = .scalar (.float r)
  | .str s => x = .scalar (.str s)
  | .array items => ∃ values, g.shape x = .sequence values ∧ g.ItemsStandFor values items
  | .object fields => ∃ entries, g.shape x = .mapping entries ∧ g.EntriesStandFor entries fields

/-- The items of a sequence stand for those of an array. -/
def ItemsStandFor (g : Graph) (values : List Value) : List Json.Value → Prop
  | [] => values = []
  | item :: rest =>
    ∃ v more, values = v :: more ∧ g.StandsFor v item ∧ g.ItemsStandFor more rest

/-- The entries of a mapping stand for the fields of an object. -/
def EntriesStandFor (g : Graph) (entries : Entries) : List (String × Json.Value) → Prop
  | [] => entries = []
  | (name, item) :: rest =>
    ∃ v more, entries = (.str name, v) :: more ∧ g.StandsFor v item ∧ g.EntriesStandFor more rest

end

theorem entriesStandFor_iff {entries : Entries} {fields : List (String × Json.Value)} :
    g.EntriesStandFor entries fields
      ↔ List.Forall₂ (fun e f => e.1 = .str f.1 ∧ g.StandsFor e.2 f.2) entries fields := by
  induction fields generalizing entries with
  | nil => rw [EntriesStandFor, List.forall₂_nil_right_iff]
  | cons field rest ih =>
    rw [EntriesStandFor, List.forall₂_cons_right_iff]
    constructor
    · rintro ⟨v, more, rfl, hv, hmore⟩
      exact ⟨_, more, ⟨rfl, hv⟩, ih.mp hmore, rfl⟩
    · rintro ⟨⟨key, v⟩, more, ⟨rfl, hv⟩, hmore, rfl⟩
      exact ⟨v, more, rfl, hv, ih.mpr hmore⟩

/-- A value is null if and only if it stands for null. -/
theorem StandsFor.isNull_iff {x : Value} {w : Json.Value} (h : g.StandsFor x w) :
    x.isNull = true ↔ w = .null := by
  rw [Value.isNull, beq_iff_eq, Value.null]
  cases w with
  | null => exact iff_of_true h rfl
  | array items =>
    obtain ⟨values, hshape, -⟩ := h
    refine iff_of_false ?_ nofun
    rintro rfl
    cases hshape
  | object fields =>
    obtain ⟨entries, hshape, -⟩ := h
    refine iff_of_false ?_ nofun
    rintro rfl
    cases hshape
  | bool b => exact iff_of_false (by rw [h]; nofun) nofun
  | int n => exact iff_of_false (by rw [h]; nofun) nofun
  | float r => exact iff_of_false (by rw [h]; nofun) nofun
  | str s => exact iff_of_false (by rw [h]; nofun) nofun

/-- A scalar is neither a sequence nor a mapping. -/
theorem shape_scalar_ne {x : Value} {s : Scalar} (hx : x = .scalar s) :
    (∀ values, g.shape x ≠ .sequence values) ∧ ∀ entries, g.shape x ≠ .mapping entries := by
  subst hx
  exact ⟨nofun, nofun⟩

mutual

/-- A value stands for one JSON value at most. -/
theorem StandsFor.unique {x : Value} : (v w : Json.Value) → g.StandsFor x v → g.StandsFor x w →
    v = w
  | .null, w, hv, hw => by cases w <;> simp_all [StandsFor, shape]
  | .bool b, w, hv, hw => by cases w <;> simp_all [StandsFor, shape]
  | .int n, w, hv, hw => by cases w <;> simp_all [StandsFor, shape]
  | .float r, w, hv, hw => by cases w <;> simp_all [StandsFor, shape]
  | .str s, w, hv, hw => by cases w <;> simp_all [StandsFor, shape]
  | .array items, w, hv, hw => by
    obtain ⟨values, hshape, hitems⟩ := hv
    cases w with
    | array items' =>
      obtain ⟨values', hshape', hitems'⟩ := hw
      rw [hshape, Shape.sequence.injEq] at hshape'
      subst hshape'
      rw [ItemsStandFor.unique items items' hitems hitems']
    -- a container has one shape, so it is not an object too; and a scalar is no container
    | object fields =>
      obtain ⟨entries, hshape', -⟩ := hw
      rw [hshape] at hshape'
      cases hshape'
    | _ => exact absurd hshape ((shape_scalar_ne hw).1 values)
  | .object fields, w, hv, hw => by
    obtain ⟨entries, hshape, hfields⟩ := hv
    cases w with
    | object fields' =>
      obtain ⟨entries', hshape', hfields'⟩ := hw
      rw [hshape, Shape.mapping.injEq] at hshape'
      subst hshape'
      rw [EntriesStandFor.unique fields fields' hfields hfields']
    | array items =>
      obtain ⟨values, hshape', -⟩ := hw
      rw [hshape] at hshape'
      cases hshape'
    | _ => exact absurd hshape ((shape_scalar_ne hw).2 entries)

theorem ItemsStandFor.unique {values : List Value} : (items items' : List Json.Value) →
    g.ItemsStandFor values items → g.ItemsStandFor values items' → items = items'
  | [], [], _, _ => rfl
  | [], item :: rest, h, h' => by
    obtain ⟨v, more, hvalues, -⟩ := h'
    cases h.symm.trans hvalues
  | item :: rest, [], h, h' => by
    obtain ⟨v, more, hvalues, -⟩ := h
    cases h'.symm.trans hvalues
  | item :: rest, item' :: rest', h, h' => by
    obtain ⟨v, more, rfl, hv, hmore⟩ := h
    obtain ⟨v', more', heq, hv', hmore'⟩ := h'
    obtain ⟨rfl, rfl⟩ := List.cons.inj heq
    rw [StandsFor.unique item item' hv hv', ItemsStandFor.unique rest rest' hmore hmore']

theorem EntriesStandFor.unique {entries : Entries} : (fields fields' : List (String × Json.Value)) →
    g.EntriesStandFor entries fields → g.EntriesStandFor entries fields' → fields = fields'
  | [], [], _, _ => rfl
  | [], (name, item) :: rest, h, h' => by
    obtain ⟨v, more, hentries, -⟩ := h'
    cases h.symm.trans hentries
  | (name, item) :: rest, [], h, h' => by
    obtain ⟨v, more, hentries, -⟩ := h
    cases h'.symm.trans hentries
  | (name, item) :: rest, (name', item') :: rest', h, h' => by
    obtain ⟨v, more, rfl, hv, hmore⟩ := h
    obtain ⟨v', more', heq, hv', hmore'⟩ := h'
    cases heq
    rw [StandsFor.unique item item' hv hv', EntriesStandFor.unique rest rest' hmore hmore']

end

/-! ## Conversion -/

mutual

/-- A JSON value stands in the document that it was added to, whatever is added later. -/
theorem standsFor_ofJson (g h : Graph) : (v : Json.Value) →
    Agree g.containers.size (g.ofJson v).1.containers.size (g.ofJson v).1 h →
    h.StandsFor (g.ofJson v).2 v
  | .null, _ => rfl
  | .bool _, _ => rfl
  | .int _, _ => rfl
  | .float _, _ => rfl
  | .str _, _ => rfl
  | .array items, hagree => by
    rw [ofJson] at hagree ⊢
    -- the container was added before its items, and filled in after them
    obtain ⟨-, hcontainer, hbehind⟩ := Agree.filled (extends_ofJsonItems _ items) hagree
    have hshape : h.shape (.container g.containers.size)
        = .sequence ((g.add (.sequence [])).1.ofJsonItems items).2 := by
      rw [shape, hcontainer]
    exact ⟨_, hshape, itemsStandFor_ofJson _ h items hbehind⟩
  | .object fields, hagree => by
    rw [ofJson] at hagree ⊢
    obtain ⟨-, hcontainer, hbehind⟩ := Agree.filled (extends_ofJsonFields _ fields) hagree
    have hshape : h.shape (.container g.containers.size)
        = .mapping ((g.add (.mapping [])).1.ofJsonFields fields).2 := by
      rw [shape, hcontainer]
    exact ⟨_, hshape, entriesStandFor_ofJson _ h fields hbehind⟩

theorem itemsStandFor_ofJson (g h : Graph) : (items : List Json.Value) →
    Agree g.containers.size (g.ofJsonItems items).1.containers.size (g.ofJsonItems items).1 h →
    h.ItemsStandFor (g.ofJsonItems items).2 items
  | [], _ => rfl
  | item :: rest, hagree => by
    rw [ofJsonItems] at hagree ⊢
    have hitem := extends_ofJson g item
    have hrest := extends_ofJsonItems (g.ofJson item).1 rest
    exact ⟨_, _, rfl, standsFor_ofJson g h item (hagree.left hrest),
      itemsStandFor_ofJson _ h rest (hagree.right hitem.size_le)⟩

theorem entriesStandFor_ofJson (g h : Graph) : (fields : List (String × Json.Value)) →
    Agree g.containers.size (g.ofJsonFields fields).1.containers.size
      (g.ofJsonFields fields).1 h →
    h.EntriesStandFor (g.ofJsonFields fields).2 fields
  | [], _ => rfl
  | (name, item) :: rest, hagree => by
    rw [ofJsonFields] at hagree ⊢
    have hitem := extends_ofJson g item
    have hrest := extends_ofJsonFields (g.ofJson item).1 rest
    exact ⟨_, _, rfl, standsFor_ofJson g h item (hagree.left hrest),
      entriesStandFor_ofJson _ h rest (hagree.right hitem.size_le)⟩

end

/-- A value of a document and another document stand for one and the same JSON value. -/
def SameJson (g : Graph) (x : Value) (d : Document) : Prop :=
  ∃! w, g.StandsFor x w ∧ d.graph.StandsFor d.root w

end Graph

namespace Document

/-- The document of a JSON value stands for it. -/
theorem standsFor_ofJson (v : Json.Value) :
    (Document.ofJson v).graph.StandsFor (Document.ofJson v).root v :=
  Graph.standsFor_ofJson Graph.empty _ v fun _ _ _ => rfl

theorem sameJson_ofJson {g : Graph} {x : Value} {v : Json.Value} (h : g.StandsFor x v) :
    g.SameJson x (Document.ofJson v) :=
  ⟨v, ⟨h, standsFor_ofJson v⟩, fun w hw => Graph.StandsFor.unique w v hw.1 h⟩

end Document

end OpenApi
