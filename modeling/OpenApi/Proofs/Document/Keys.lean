/-
No mapping of a decoded document has a key twice.

A mapping is read by its keys, and it is listed entry by entry. The two agree only because no key
stands in it twice: then the value of a key is the value of its entry (`Entries.get?_of_mem`).

Entries and fields are put in one after another, and one that is there keeps its place. So the
objects of a JSON value have each name once, at every depth, and conversion keeps this, since names
stay what they are (`HasDistinctKeys.ofJson`). What construction makes of YAML has it by the
invariant of construction. Both together are `hasDistinctKeys_of_decode`.
-/
import OpenApi.Proofs.Document.References
import OpenApi.Proofs.Document.Writable
import OpenApi.Proofs.Yaml.Construct

set_option autoImplicit false

namespace OpenApi

/-! ## Objects -/

namespace Json

mutual

/-- The objects in a value have each name once. -/
def Value.HasDistinctNames : Value → Prop
  | .array items => HaveDistinctNames items
  | .object fields => (fields.map Prod.fst).Nodup ∧ FieldsHaveDistinctNames fields
  | _ => True

def HaveDistinctNames : List Value → Prop
  | [] => True
  | v :: rest => v.HasDistinctNames ∧ HaveDistinctNames rest

def FieldsHaveDistinctNames : List (String × Value) → Prop
  | [] => True
  | f :: rest => f.2.HasDistinctNames ∧ FieldsHaveDistinctNames rest

end

/-- A field that is put in brings its name, if that was not there before. -/
theorem Fields.names_insert (fields : Fields) (name : String) (value : Value) :
    (fields.insert name value).map Prod.fst
      = if name ∈ fields.map Prod.fst then fields.map Prod.fst
        else fields.map Prod.fst ++ [name] := by
  induction fields with
  | nil => rfl
  | cons f rest ih =>
    rw [insert]
    by_cases hname : f.1 = name
    · rw [if_pos hname, List.map_cons, List.map_cons, ← hname, if_pos List.mem_cons_self]
    · rw [if_neg hname, List.map_cons, ih, List.map_cons]
      by_cases hmem : name ∈ rest.map Prod.fst
      · rw [if_pos hmem, if_pos (List.mem_cons_of_mem _ hmem)]
      · have hnone : name ∉ f.1 :: rest.map Prod.fst := by
          simp [Ne.symm hname, hmem]
        rw [if_neg hmem, if_neg hnone, List.cons_append]

theorem Fields.nodup_insert {fields : Fields} (h : (fields.map Prod.fst).Nodup) (name : String)
    (value : Value) : ((fields.insert name value).map Prod.fst).Nodup := by
  rw [names_insert]
  split
  · exact h
  · rename_i hname
    exact List.nodup_append.mpr ⟨h, List.nodup_singleton _, fun a ha b hb hab =>
      hname (List.mem_singleton.mp hb ▸ hab ▸ ha)⟩

theorem fieldsHaveDistinctNames_insert {fields : Fields} (h : FieldsHaveDistinctNames fields)
    (name : String) {value : Value} (hvalue : value.HasDistinctNames) :
    FieldsHaveDistinctNames (fields.insert name value) := by
  induction fields with
  | nil => exact ⟨hvalue, trivial⟩
  | cons f rest ih =>
    rw [Fields.insert]
    split
    · exact ⟨hvalue, h.2⟩
    · exact ⟨h.1, ih h.2⟩

theorem Word.value_hasDistinctNames (w : Word) : w.value.HasDistinctNames := by
  cases w <;> trivial

theorem Numeral.value_hasDistinctNames (n : Numeral) : n.value.HasDistinctNames := by
  rw [value]
  split
  · trivial
  · trivial

mutual

theorem Lossless.value_hasDistinctNames [Host] : (v : Lossless) → v.value.HasDistinctNames
  | .word w => w.value_hasDistinctNames
  | .number n => n.value_hasDistinctNames
  | .string _ => trivial
  | .array _ items => items.values_haveDistinctNames
  | .object _ members => members.fieldsFrom_haveDistinctNames List.nodup_nil trivial

theorem Items.values_haveDistinctNames [Host] : (items : Items) → HaveDistinctNames items.values
  | .stop => trivial
  | .last v _ => ⟨v.value_hasDistinctNames, trivial⟩
  | .item v _ _ rest => ⟨v.value_hasDistinctNames, rest.values_haveDistinctNames⟩

theorem Members.fieldsFrom_haveDistinctNames [Host] : (members : Members) → {before : Fields} →
    (before.map Prod.fst).Nodup → FieldsHaveDistinctNames before →
      (Value.object (members.fieldsFrom before)).HasDistinctNames
  | .stop, _ => fun hnodup hbefore => ⟨hnodup, hbefore⟩
  | .last _ _ _ v _, _ => fun hnodup hbefore => ⟨Fields.nodup_insert hnodup _ _,
      fieldsHaveDistinctNames_insert hbefore _ v.value_hasDistinctNames⟩
  | .member _ _ _ v _ _ rest, _ => fun hnodup hbefore =>
    rest.fieldsFrom_haveDistinctNames (Fields.nodup_insert hnodup _ _)
      (fieldsHaveDistinctNames_insert hbefore _ v.value_hasDistinctNames)

end

/-- The value of a JSON text has no object with a name twice, whatever the text repeats. -/
theorem hasDistinctNames_of_decode [Host] {text : String} {v : Value} (h : decode text = .ok v) :
    v.HasDistinctNames := by
  obtain ⟨lead, value, after, hread⟩ := exists_read_of_decode h
  rw [decode, hread] at h
  rw [← Except.ok.inj h]
  exact value.value_hasDistinctNames

end Json

/-! ## Documents -/

namespace Graph

theorem ofJsonFields_keys (g : Graph) (fields : Json.Fields) :
    (g.ofJsonFields fields).2.map Prod.fst = (fields.map Prod.fst).map Scalar.str := by
  induction fields generalizing g with
  | nil => rfl
  | cons f rest ih =>
    rw [ofJsonFields, List.map_cons, List.map_cons, List.map_cons, ih]

/-- Different names are different keys. -/
theorem hasDistinctKeys_of_names {entries : Entries} {names : List String}
    (hnames : names.Nodup) (hkeys : entries.map Prod.fst = names.map Scalar.str) :
    (Shape.mapping entries).HasDistinctKeys := by
  have hpairs : (entries.map Prod.fst).Pairwise fun a b => a.sameKey b = false := by
    rw [hkeys]
    refine List.Pairwise.map Scalar.str (fun a b hab => ?_) hnames
    rw [sameKey_str]
    exact beq_eq_false_iff_ne.mpr hab
  exact List.pairwise_map.mp hpairs

mutual

theorem HasDistinctKeys.ofJson {g : Graph} (hg : g.HasDistinctKeys) : (v : Json.Value) →
    v.HasDistinctNames → (g.ofJson v).1.HasDistinctKeys
  | .null, _ => hg
  | .bool _, _ => hg
  | .int _, _ => hg
  | .float _, _ => hg
  | .str _, _ => hg
  | .array items, hv =>
    ((hg.add (.sequence []) trivial).ofJsonItems items hv).set _ (.sequence _) trivial
  | .object fields, hv =>
    ((hg.add (.mapping []) List.Pairwise.nil).ofJsonFields fields hv.2).set _ (.mapping _)
      (hasDistinctKeys_of_names hv.1 (ofJsonFields_keys _ _))

theorem HasDistinctKeys.ofJsonItems {g : Graph} (hg : g.HasDistinctKeys) :
    (items : List Json.Value) → Json.HaveDistinctNames items →
      (g.ofJsonItems items).1.HasDistinctKeys
  | [], _ => hg
  | item :: rest, h => (hg.ofJson item h.1).ofJsonItems rest h.2

theorem HasDistinctKeys.ofJsonFields {g : Graph} (hg : g.HasDistinctKeys) :
    (fields : List (String × Json.Value)) → Json.FieldsHaveDistinctNames fields →
      (g.ofJsonFields fields).1.HasDistinctKeys
  | [], _ => hg
  | (_, item) :: rest, h => (hg.ofJson item h.1).ofJsonFields rest h.2

end

end Graph

/-- **A decoded document has each key of a mapping once**, in whatever format it is written. -/
theorem hasDistinctKeys_of_decode [Host] {text : String} {format : Option Format} {d : Document}
    (h : decode text format = .ok d) : d.graph.HasDistinctKeys := by
  rw [decode] at h
  split at h
  · cases hjson : Json.decode text with
    | error e =>
      rw [hjson] at h
      cases h
    | ok v =>
      rw [hjson] at h
      cases h
      exact Graph.empty_hasDistinctKeys.ofJson v (Json.hasDistinctNames_of_decode hjson)
  · cases hyaml : Yaml.decode text with
    | error e =>
      rw [hyaml] at h
      cases h
    | ok d' =>
      rw [hyaml] at h
      cases h
      -- there are no nodes, or construction has kept the keys apart
      rw [Yaml.decode] at hyaml
      dsimp only at hyaml
      split at hyaml
      · cases hyaml
      · obtain ⟨graph?, -, hgraph⟩ := exists_of_bind_ok hyaml
        cases graph? with
        | none =>
          cases hgraph
          exact Graph.empty_hasDistinctKeys
        | some g =>
          rcases g.document_cases with ⟨d', hd', hkeys⟩ | ⟨e, he, -⟩
          · cases hd'.symm.trans hgraph
            exact hkeys
          · cases he.symm.trans hgraph

/-! ## Reading -/

theorem Graph.HasDistinctKeys.mapping {g : Graph} (hg : g.HasDistinctKeys) {v : Value}
    {entries : Entries} (h : g.mapping? v = some entries) :
    (Shape.mapping entries).HasDistinctKeys := by
  rw [mapping?] at h
  cases v with
  | scalar s => cases h
  | container id =>
    have hid : (g.content id).HasDistinctKeys := hg id
    rw [content] at hid
    split at h
    · rename_i hshape
      cases h
      rwa [hshape] at hid
    · cases h

namespace Entries

/-- Where each key stands once, the value of a text key is that of its entry. -/
theorem get?_of_mem {entries : Entries} (h : (Shape.mapping entries).HasDistinctKeys)
    {name : String} {v : Value} (hmem : (.str name, v) ∈ entries) :
    entries.get? (.str name) = some v := by
  induction entries with
  | nil => cases hmem
  | cons e rest ih =>
    obtain ⟨hfirst, hrest⟩ := List.pairwise_cons.mp h
    rcases List.mem_cons.mp hmem with rfl | hmem
    · simp [get?, Graph.sameKey_str]
    · -- the first entry has another key, for this one comes later
      have hother : e.1.sameKey (.str name) = false := hfirst _ hmem
      rw [get?, List.find?_cons_of_neg (by rw [hother]; decide)]
      exact ih hrest hmem

theorem read_of_mem {entries : Entries} (h : (Shape.mapping entries).HasDistinctKeys)
    {name : String} {v : Value} (hmem : (.str name, v) ∈ entries) : entries.read name = v := by
  rw [read, get?_of_mem h hmem, Option.getD_some]

/-- A text that is no key reads as null. -/
theorem read_of_not_mem {entries : Entries} {name : String}
    (h : ∀ e ∈ entries, e.1.sameKey (.str name) = false) : entries.read name = Value.null := by
  have hnone : entries.find? (fun e => e.1.sameKey (.str name)) = none := by
    rw [List.find?_eq_none]
    intro e he
    rw [h e he]
    decide
  rw [read, get?, hnone]
  rfl

end Entries

end OpenApi
