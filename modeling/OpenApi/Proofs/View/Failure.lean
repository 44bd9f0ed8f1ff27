/-
What a view of a document can fail with.

A view is put together from parts, and each part fails in a way of its own: typed access with a
mismatch, a text because an integer is too long or containers are nested too deeply, a mapping that
is kept because of keys that are no texts. `FailsFor` says that whatever a computation fails with
has one of these causes in the document. Like `FailsWith` it is kept by everything that views are
put together with, so there is one lemma for each part and one for each view.

Mismatches are meant to be the only failures. They are, on documents without the other causes
(`HasCause.isMismatch`): those that are shallow and plain, as all are that were decoded from JSON.
-/
import OpenApi.Command.Run
import OpenApi.Proofs.Document.Writable

set_option autoImplicit false

namespace OpenApi

open View

/-! ## Causes -/

/-- A record that keeps mappings as they are: its name, and the fields that do. -/
structure Keeper where
  record : String
  fields : List String

namespace Keeper

def info : Keeper := ⟨"APIInfo", ["contact", "license"]⟩

def server : Keeper := ⟨"ServerInfo", ["variables"]⟩

def scheme : Keeper := ⟨"SecurityScheme", ["flows"]⟩

end Keeper

/-- Entries that a document holds: none, or those of one of its mappings. -/
def Graph.HasPart (g : Graph) (entries : Entries) : Prop :=
  entries = [] ∨ ∃ v, g.mapping? v = some entries

section Causes

variable [Host]

/-- The problems with the keys of what a part of a document keeps as mappings, field by field. -/
def Graph.keptProblems (g : Graph) (fields : List String) (part : Entries) : List FieldError :=
  fields.flatMap fun field => keyProblems field ((g.mapping? (part.read field)).getD [])

/-- A failure has its cause in a document. A mismatch speaks for itself. A part without a text is
due to an integer that is too long, or to containers that are nested too deeply. Invalid fields are
all those of one part that becomes a record: their keys stand for no texts. -/
def ViewError.HasCause (g : Graph) (keepers : List Keeper) : ViewError → Prop
  | .mismatch _ => True
  | .unwritable e => e.TellsAgainst g.IsWritable g.IsShallow
  | .invalid record problems =>
    problems ≠ [] ∧ ∃ k ∈ keepers, record = k.record
      ∧ ∃ part, g.HasPart part ∧ problems = g.keptProblems k.fields part

theorem ViewError.HasCause.mono {g : Graph} {keepers keepers' : List Keeper} {e : ViewError}
    (h : e.HasCause g keepers) (hsub : keepers ⊆ keepers') : e.HasCause g keepers' := by
  cases e with
  | mismatch m => exact h
  | unwritable e => exact h
  | invalid record problems =>
    obtain ⟨hne, k, hk, hpart⟩ := h
    exact ⟨hne, k, hsub hk, hpart⟩

/-- Whatever a computation fails with has its cause in a document. -/
abbrev FailsFor {α : Type} (g : Graph) (keepers : List Keeper) (x : Except ViewError α) : Prop :=
  FailsWith (fun e => e.HasCause g keepers) x

/-- Whatever has no text tells against a document. -/
abbrev WritesFor {α : Type} (g : Graph) (x : Except Unwritable α) : Prop :=
  FailsWith (Unwritable.TellsAgainst g.IsWritable g.IsShallow) x

end Causes

/-! ## Parts -/

theorem ok_of_checked {α : Type} {x : Except Mismatch α} {a : α} (h : checked x = .ok a) :
    x = .ok a := by
  cases x with
  | ok b =>
    cases h
    rfl
  | error m => cases h

section Parts

variable [Host] {g : Graph} {keepers : List Keeper} {α : Type}

theorem FailsFor.mono_keepers {keepers' : List Keeper} {x : Except ViewError α}
    (h : FailsFor g keepers x) (hsub : keepers ⊆ keepers') : FailsFor g keepers' x :=
  h.mono fun _ he => he.mono hsub

theorem failsFor_checked (x : Except Mismatch α) : FailsFor g keepers (checked x) := by
  intro e he
  cases x with
  | ok a => cases he
  | error m =>
    cases he
    exact trivial

theorem failsFor_written {x : Except Unwritable α} (h : WritesFor g x) :
    FailsFor g keepers (written x) := by
  intro e he
  cases x with
  | ok a => cases he
  | error e' =>
    cases he
    exact h e' rfl

/-- The text of a key that the document can hold. -/
theorem writesFor_key {key : Scalar} (h : g.IsWritable → key.IsWritable) : WritesFor g key.text :=
  key.failsWith_text.mono fun _ he => he.mono h fun _ => trivial

end Parts

namespace Graph

variable {g : Graph} {entries : Entries}

theorem HasPart.isWritable (h : g.HasPart entries) (hg : g.IsWritable) :
    (Shape.mapping entries).IsWritable := by
  rcases h with rfl | ⟨v, hv⟩
  · exact List.forall_mem_nil _
  · exact mapping_isWritable hg hv

theorem hasPart_getD (g : Graph) (v : Value) : g.HasPart ((g.mapping? v).getD []) := by
  cases hv : g.mapping? v with
  | none => exact .inl rfl
  | some entries => exact .inr ⟨v, hv⟩

theorem hasPart_asMapping {v : Value} {place : String} {m : Mapping}
    (h : checked (g.asMapping v place) = .ok m) : g.HasPart m.entries := by
  have h := ok_of_checked h
  rw [asMapping] at h
  split at h
  · rename_i es hshape
    cases h
    exact .inr ⟨v, by rw [mapping?, hshape]⟩
  · cases h

theorem hasPart_getMapping {key place : String} {m : Mapping}
    (h : checked (g.getMapping entries key place) = .ok m) : g.HasPart m.entries := by
  rw [getMapping] at h
  split at h
  · cases h
    exact .inl rfl
  · exact hasPart_asMapping h

section Host

variable [Host] {keepers : List Keeper}

theorem HasPart.writesFor_text (h : g.HasPart entries) (name : String) :
    WritesFor g (g.text (entries.read name)) :=
  g.failsWith_text fun hg => Entries.read_isWritable (h.isWritable hg) name

theorem HasPart.failsFor_text (h : g.HasPart entries) (name : String) :
    FailsFor g keepers (View.text g (entries.read name)) := by
  rw [View.text]
  split
  · exact failsWith_ok _
  · exact failsFor_written (h.writesFor_text name)

theorem HasPart.failsFor_optionalText (h : g.HasPart entries) (name : String) :
    FailsFor g keepers (optionalText g (entries.read name)) := by
  rw [View.optionalText]
  split
  · exact failsWith_ok _
  · exact failsFor_written ((h.writesFor_text name).map some)

/-- A mapping is kept, by the texts of its keys, if and only if there are no problems with them. -/
theorem optionalMapping_cases (g : Graph) (field : String) (v : Value) :
    (keyProblems field ((g.mapping? v).getD []) = []
        ∧ optionalMapping g field v = .ok ((g.mapping? v).map textKeyed))
      ∨ (keyProblems field ((g.mapping? v).getD []) ≠ []
        ∧ optionalMapping g field v = .error (keyProblems field ((g.mapping? v).getD []))) := by
  rw [optionalMapping]
  cases hv : g.mapping? v with
  | none => exact .inl ⟨rfl, rfl⟩
  | some es =>
    rw [Option.getD_some]
    cases hproblems : keyProblems field es with
    | nil => exact .inl ⟨rfl, by simp only [hproblems, Option.map_some]⟩
    | cons problem problems => exact .inr ⟨List.cons_ne_nil _ _, by simp only [hproblems]⟩

/-- One mapping that is kept fails for its keys. -/
theorem HasPart.failsFor_kept (h : g.HasPart entries) {k : Keeper} (hk : k ∈ keepers)
    {field : String} (hfield : k.fields = [field]) :
    FailsFor g keepers
      (validated k.record (optionalMapping g field (entries.read field))) := by
  intro e he
  rcases optionalMapping_cases g field (entries.read field) with ⟨-, hok⟩ | ⟨hne, hproblems⟩
  · rw [hok] at he
    cases he
  · rw [hproblems] at he
    cases he
    refine ⟨hne, k, hk, rfl, entries, h, ?_⟩
    rw [hfield]
    exact (List.append_nil _).symm

/-- Two mappings are kept side by side if and only if there are no problems with the keys of
either. -/
theorem both_optionalMapping_cases (g : Graph) (first second : String) (entries : Entries) :
    (g.keptProblems [first, second] entries = []
        ∧ ∃ kept, (optionalMapping g first (entries.read first)).both
          (optionalMapping g second (entries.read second)) = .ok kept)
      ∨ (g.keptProblems [first, second] entries ≠ []
        ∧ (optionalMapping g first (entries.read first)).both
            (optionalMapping g second (entries.read second))
          = .error (g.keptProblems [first, second] entries)) := by
  have hkept : g.keptProblems [first, second] entries
      = keyProblems first ((g.mapping? (entries.read first)).getD [])
        ++ (keyProblems second ((g.mapping? (entries.read second)).getD []) ++ []) := rfl
  rw [List.append_nil] at hkept
  rw [hkept]
  -- Both are checked whatever comes of the first, whose problems stand in front.
  rcases g.optionalMapping_cases first (entries.read first) with ⟨hnone, hok⟩ | ⟨hne, hproblems⟩
  · rw [hok, hnone, List.nil_append]
    rcases g.optionalMapping_cases second (entries.read second) with
      ⟨hnone', hok'⟩ | ⟨hne', hproblems'⟩
    · rw [hok', hnone']
      exact .inl ⟨rfl, _, rfl⟩
    · rw [hproblems']
      exact .inr ⟨hne', rfl⟩
  · have happend (others : List FieldError) :
        keyProblems first ((g.mapping? (entries.read first)).getD []) ++ others ≠ [] :=
      fun hnil => hne (List.append_eq_nil_iff.mp hnil).1
    refine .inr ⟨happend _, ?_⟩
    rw [hproblems]
    rcases g.optionalMapping_cases second (entries.read second) with
      ⟨hnone', hok'⟩ | ⟨-, hproblems'⟩
    · rw [hok', hnone', List.append_nil]
      rfl
    · rw [hproblems']
      rfl

/-- Two mappings that are kept side by side fail for the keys of both. -/
theorem HasPart.failsFor_both (h : g.HasPart entries) {k : Keeper} (hk : k ∈ keepers)
    {first second : String} (hfields : k.fields = [first, second]) :
    FailsFor g keepers (validated k.record
      ((optionalMapping g first (entries.read first)).both
        (optionalMapping g second (entries.read second)))) := by
  intro e he
  rcases g.both_optionalMapping_cases first second entries with ⟨-, kept, hok⟩ | ⟨hne, hproblems⟩
  · rw [hok] at he
    cases he
  · rw [hproblems] at he
    cases he
    exact ⟨hne, k, hk, rfl, entries, h, by rw [hfields]⟩

end Host

end Graph

/-- The items of a sequence that are mappings. -/
theorem hasPart_of_mem_filterMap {g : Graph} {items : List Value} {es : Entries}
    (h : es ∈ items.filterMap g.mapping?) : g.HasPart es := by
  obtain ⟨v, -, hv⟩ := List.mem_filterMap.mp h
  exact .inr ⟨v, hv⟩

/-! ## Views -/

theorem Document.hasPart_top {d : Document} {root : Entries} (h : checked d.top = .ok root) :
    d.graph.HasPart root := by
  have h := ok_of_checked h
  rw [top] at h
  split at h
  · cases h
    exact .inl rfl
  · cases hm : d.graph.asMapping d.root "$" with
    | error m =>
      rw [hm] at h
      cases h
    | ok m =>
      rw [hm] at h
      cases h
      have hroot : checked (d.graph.asMapping d.root "$") = .ok m := by
        rw [hm]
        rfl
      exact Graph.hasPart_asMapping hroot

section Views

variable [Host] {keepers : List Keeper}

/-- A part of a document that is read as a mapping. -/
theorem Document.failsFor_part {d : Document} {α : Type} (key place : String)
    {f : Mapping → Except ViewError α}
    (hf : ∀ m : Mapping, d.graph.HasPart m.entries → FailsFor d.graph keepers (f m)) :
    FailsFor d.graph keepers (do
      let root ← checked d.top
      f (← checked (d.graph.getMapping root key place))) :=
  failsWith_bind (failsFor_checked _) fun _ _ =>
    failsWith_bind (failsFor_checked _) fun _ hm => hf _ (Graph.hasPart_getMapping hm)

theorem Document.failsFor_version (d : Document) : FailsFor d.graph keepers d.version := by
  rw [version]
  refine failsWith_bind (failsFor_checked _) fun root hroot => ?_
  have hpart := Document.hasPart_top hroot
  by_cases hpresent : d.graph.truthy (root.read "openapi") = true
  · simp only [if_pos hpresent]
    exact hpart.failsFor_text "openapi"
  · simp only [if_neg hpresent]
    exact hpart.failsFor_text "swagger"

theorem Document.failsFor_info (d : Document) :
    FailsFor d.graph [.info] d.info := by
  rw [info]
  refine d.failsFor_part "info" "info" fun m hm => ?_
  refine failsWith_bind (hm.failsFor_text "title") fun title _ => ?_
  refine failsWith_bind (hm.failsFor_text "version") fun version _ => ?_
  refine failsWith_bind (hm.failsFor_optionalText "description") fun description _ => ?_
  refine failsWith_bind (hm.failsFor_both (List.mem_singleton_self Keeper.info) rfl) ?_
  exact fun kept _ => failsWith_ok _

theorem Document.failsFor_servers (d : Document) : FailsFor d.graph [.server] d.servers := by
  rw [servers]
  refine failsWith_bind (failsFor_checked _) fun root _ => ?_
  refine failsWith_bind (failsFor_checked _) fun items _ => ?_
  refine failsWith_mapM fun es hes => ?_
  have hpart := hasPart_of_mem_filterMap hes
  rw [serverInfo]
  refine failsWith_bind (hpart.failsFor_text "url") fun url _ => ?_
  refine failsWith_bind (hpart.failsFor_optionalText "description") fun description _ => ?_
  refine failsWith_bind (hpart.failsFor_kept (List.mem_singleton_self Keeper.server) rfl) ?_
  exact fun kept _ => failsWith_ok _

theorem Document.failsFor_tags (d : Document) : FailsFor d.graph keepers d.tags := by
  rw [tags]
  refine failsWith_bind (failsFor_checked _) fun root _ => ?_
  refine failsWith_bind (failsFor_checked _) fun items _ => ?_
  refine failsWith_mapM fun es hes => ?_
  have hpart := hasPart_of_mem_filterMap (List.mem_of_mem_filter hes)
  rw [tagInfo]
  refine failsWith_bind (hpart.failsFor_text "name") fun name _ => ?_
  refine failsWith_bind (hpart.failsFor_optionalText "description") ?_
  exact fun description _ => failsWith_ok _

theorem Document.failsFor_securitySchemes (d : Document) :
    FailsFor d.graph [.scheme] d.securitySchemes := by
  rw [securitySchemes]
  refine d.failsFor_part "components" "components" fun m _ => ?_
  refine failsWith_bind (failsFor_checked _) fun schemes hschemes => ?_
  refine failsWith_foldlM (fun e he done => ?_) _
  cases hdefinition : d.graph.mapping? e.2 with
  | none => exact failsWith_ok _
  | some es =>
    have hpart : d.graph.HasPart es := .inr ⟨e.2, hdefinition⟩
    refine failsWith_bind ?_ fun scheme _ => failsWith_ok _
    rw [securityScheme]
    refine failsWith_bind (failsFor_written (writesFor_key fun hg => ?_)) fun name _ => ?_
    · exact ((Graph.hasPart_getMapping hschemes).isWritable hg e he).1
    refine failsWith_bind (hpart.failsFor_text "type") fun type _ => ?_
    refine failsWith_bind (hpart.failsFor_optionalText "description") fun description _ => ?_
    refine failsWith_bind (hpart.failsFor_optionalText "name") fun paramName _ => ?_
    refine failsWith_bind (hpart.failsFor_optionalText "in") fun location _ => ?_
    refine failsWith_bind (hpart.failsFor_optionalText "scheme") fun scheme _ => ?_
    refine failsWith_bind (hpart.failsFor_optionalText "bearerFormat") fun bearerFormat _ => ?_
    refine failsWith_bind (hpart.failsFor_optionalText "openIdConnectUrl") fun url _ => ?_
    refine failsWith_bind (hpart.failsFor_kept (List.mem_singleton_self Keeper.scheme) rfl) ?_
    exact fun flows _ => failsWith_ok _

theorem writesFor_propertiesOf {g : Graph} {entries : Entries} (h : g.HasPart entries) :
    WritesFor g (propertiesOf entries) := by
  rw [propertiesOf]
  refine failsWith_foldlM (fun e he done => ?_) _
  exact failsWith_bind (writesFor_key fun hg => (h.isWritable hg e he).1) fun _ _ => failsWith_ok _

theorem writesFor_component (g : Graph) (category : String) {name : Scalar}
    (hname : g.IsWritable → name.IsWritable) (definition : Value) :
    WritesFor g (component g category name definition) := by
  rw [component]
  refine failsWith_bind (failsWith_option_mapM fun es hes => ?_) fun properties _ => ?_
  · exact writesFor_propertiesOf (.inr ⟨_, hes⟩)
  refine failsWith_bind (failsWith_option_mapM fun items hitems => ?_) fun required _ => ?_
  · exact failsWith_mapM fun v hv =>
      g.failsWith_text fun hg => Graph.sequence_isWritable hg hitems v hv
  exact failsWith_bind (writesFor_key hname) fun _ _ => failsWith_ok _

theorem Document.failsFor_components (d : Document) : FailsFor d.graph keepers d.components := by
  rw [components]
  refine d.failsFor_part "components" "components" fun m hm => ?_
  refine failsWith_bind (failsWith_mapM fun e he => ?_) fun groups _ => failsWith_ok _
  rw [categoryComponents]
  split
  · exact failsWith_ok _
  · refine failsWith_bind (failsFor_written (writesFor_key fun hg => ?_)) fun category _ => ?_
    · exact (hm.isWritable hg e he).1
    refine failsWith_bind (failsFor_checked _) fun definitions hdefinitions => ?_
    refine failsWith_mapM fun definition hdefinition => failsFor_written ?_
    have hpart := Graph.hasPart_asMapping hdefinitions
    exact writesFor_component d.graph category
      (fun hg => (hpart.isWritable hg definition hdefinition).1) _

theorem writesFor_operations (g : Graph) (item : Value) : WritesFor g (operations g item) := by
  rw [operations]
  refine failsWith_bind (failsWith_mapM fun e he => ?_) fun _ _ => failsWith_ok _
  have hkey := fun hg => ((g.hasPart_getD item).isWritable hg e he).1
  exact failsWith_bind (writesFor_key hkey) fun _ _ => failsWith_ok _

theorem Document.failsFor_paths (d : Document) : FailsFor d.graph keepers d.paths := by
  rw [paths]
  refine d.failsFor_part "paths" "paths" fun m hm => ?_
  refine failsWith_mapM fun e he => failsFor_written ?_
  refine failsWith_bind (writesFor_key fun hg => (hm.isWritable hg e he).1) fun path _ => ?_
  exact failsWith_bind (writesFor_operations d.graph e.2) fun _ _ => failsWith_ok _

theorem Document.failsFor_pathItem (d : Document) (path : String) :
    FailsFor d.graph keepers (d.pathItem path) :=
  d.failsFor_part "paths" "paths" fun _ _ => failsWith_ok _

theorem Document.failsFor_parameters (d : Document) (path : String) :
    FailsFor d.graph keepers (d.parameters path) := by
  rw [parameters]
  refine failsWith_bind (d.failsFor_pathItem path) fun item _ => ?_
  cases d.graph.mapping? item with
  | none => exact failsWith_ok _
  | some es =>
    refine failsWith_bind (failsFor_checked _) fun own _ => ?_
    refine failsWith_bind (d.failsFor_pathItem path) fun item' _ => ?_
    refine failsWith_bind (failsFor_written (writesFor_operations d.graph item')) fun found _ => ?_
    refine failsWith_bind (failsWith_mapM fun o _ => ?_) fun others _ => failsWith_ok _
    obtain ⟨verb, operation⟩ := o
    simp only
    cases d.graph.mapping? operation with
    | none => exact failsWith_ok _
    | some _ => exact failsWith_bind (failsFor_checked _) fun _ _ => failsWith_ok _

theorem Document.failsFor_responses (d : Document) (path method : String) :
    FailsFor d.graph keepers (d.responses path method) := by
  rw [responses]
  refine failsWith_bind (d.failsFor_pathItem path) fun item _ => ?_
  refine failsWith_bind (failsFor_written (writesFor_operations d.graph item)) fun found _ => ?_
  simp only
  split
  · exact failsWith_ok _
  · exact failsFor_checked _

end Views

/-! ## Documents without the other causes -/

theorem keyProblems_of_text [Host] (field : String) {entries : Entries}
    (h : ∀ e ∈ entries, ∃ name, keyText? e.1 = .ok name) : keyProblems field entries = [] := by
  rw [keyProblems, List.filterMap_eq_nil_iff]
  intro e he
  obtain ⟨name, hname⟩ := h e he
  rw [hname]

theorem Graph.HasTextKeys.mapping {g : Graph} (hg : g.HasTextKeys) (v : Value) :
    ∀ e ∈ (g.mapping? v).getD [], ∃ name, keyText? e.1 = .ok name := by
  rw [mapping?]
  cases v with
  | scalar s => exact List.forall_mem_nil _
  | container id =>
    have hid : (g.content id).HasTextKeys := hg id
    rw [content] at hid
    split
    · rename_i hshape
      rw [hshape] at hid
      intro e he
      obtain ⟨name, hname⟩ := hid e he
      exact ⟨name, by rw [hname]; rfl⟩
    · exact List.forall_mem_nil _

/-- In a document that is plain and shallow there is only one cause. -/
theorem ViewError.HasCause.isMismatch [Host] {g : Graph} {keepers : List Keeper} {e : ViewError}
    (h : e.HasCause g keepers) (hg : g.IsPlain) (hshallow : g.IsShallow) :
    ∃ m, e = .mismatch m := by
  cases e with
  | mismatch m => exact ⟨m, rfl⟩
  | unwritable e =>
    cases e with
    | digits e => exact absurd hg.writable h
    | depth => exact absurd hshallow h
  | invalid record problems =>
    obtain ⟨hne, k, -, -, part, -, hproblems⟩ := h
    refine absurd ?_ hne
    rw [hproblems, Graph.keptProblems, List.flatMap_eq_nil_iff]
    exact fun field _ => keyProblems_of_text field (hg.keys.mapping _)

end OpenApi
