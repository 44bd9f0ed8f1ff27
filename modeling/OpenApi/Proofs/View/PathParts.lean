/-
The parts of a path agree with the list of paths.

The paths of a document are listed with their operations, and the parameters and the responses of a
path are looked up by its name. The three find the operations independently. They agree because no
name stands twice among the paths (`Document.pathItem_of_mem`), so a lookup finds the very item
that the list was made of, and because no verb stands twice among the operations of an item.

What a path holds is then told by its entry in the list. `ParametersAgree` and `ResponsesAgree` say
what the lookups give for an entry, case by case: which parts are read, in which order, and which of
them is reported if it has the wrong shape. `path_parts_agree` is the result for all entries, and
for names that are not among the paths.
-/
import OpenApi.Proofs.Document.Keys
import OpenApi.Proofs.Json.Operations
import OpenApi.Proofs.View.Presence
import OpenApi.View.Path

set_option autoImplicit false

namespace OpenApi

open OpenApi.Decimal (LongInteger)
open View

/-! ## What is expected -/

/-- A part that is read as a list: where it is, and what is there. An absent part is null. -/
structure ListPart where
  place : String
  value : Value

namespace ListPart

/-- There is nothing, or a list. -/
def IsList (g : Graph) (p : ListPart) : Prop :=
  p.value = Value.null ∨ ∃ items, g.sequence? p.value = some items

def items (g : Graph) (p : ListPart) : List Value := (g.sequence? p.value).getD []

end ListPart

/-- The parameters of the operations of a path that are mappings, in the order of the verbs. -/
def operationParts (g : Graph) (path : String) (ops : Operations) : List ListPart :=
  ops.filterMap fun o => (g.mapping? o.2).map fun es =>
    ⟨s!"paths.{path}.{o.1}.parameters", es.read "parameters"⟩

/-- The parameters of a path itself, and then those of its operations. -/
def parameterParts (g : Graph) (own : Entries) (e : PathEntry) : List ListPart :=
  ⟨s!"paths.{e.path}.parameters", own.read "parameters"⟩ :: operationParts g e.path e.operations

/-- The parameters that an entry of the list of paths and the item under its path lead to: those of
the parts in their order, or the mismatch of the first part that is no list. -/
structure ParametersAgree (g : Graph) (item : Value) (e : PathEntry)
    (result : Except ViewError (List Value)) : Prop where
  empty : g.mapping? item = none → result = .ok []
  lists : ∀ own, g.mapping? item = some own → (∀ p ∈ parameterParts g own e, p.IsList g) →
    result = .ok ((parameterParts g own e).flatMap (·.items g))
  mismatch : ∀ own before p after, g.mapping? item = some own →
    parameterParts g own e = before ++ p :: after → (∀ b ∈ before, b.IsList g) → ¬ p.IsList g →
      result = .error (.mismatch ⟨p.place, "sequence", (g.shape p.value).typeName⟩)
  fails_iff : (∃ err, result = .error err) ↔
    ∃ own, g.mapping? item = some own ∧ ∃ p ∈ parameterParts g own e, ¬ p.IsList g

/-- An entry of the list of paths has an operation of this name that is a mapping with these
entries. -/
def PathEntry.HasOperation (g : Graph) (e : PathEntry) (verb : String) (entries : Entries) : Prop :=
  ∃ op, (verb, op) ∈ e.operations ∧ g.mapping? op = some entries

/-- The responses that an entry of the list of paths leads to for a method, in any case. -/
structure ResponsesAgree (g : Graph) (e : PathEntry) (method : String)
    (result : Except ViewError Mapping) : Prop where
  empty : (∀ es, ¬ e.HasOperation g (Text.lower method) es) → result = .ok .empty
  null : ∀ es, e.HasOperation g (Text.lower method) es → es.read "responses" = Value.null →
    result = .ok .empty
  mapping : ∀ es entries, e.HasOperation g (Text.lower method) es →
    g.mapping? (es.read "responses") = some entries →
      result = .ok ⟨entries, (es.read "responses").container?⟩
  mismatch : ∀ es, e.HasOperation g (Text.lower method) es → es.read "responses" ≠ Value.null →
    g.mapping? (es.read "responses") = none →
      result = .error (.mismatch ⟨s!"paths.{e.path}.{Text.lower method}.responses", "mapping",
        (g.shape (es.read "responses")).typeName⟩)
  fails_iff : (∃ err, result = .error err) ↔ ∃ es, e.HasOperation g (Text.lower method) es ∧
    es.read "responses" ≠ Value.null ∧ g.mapping? (es.read "responses") = none

/-! ## Sections -/

/-- A list with a member that lacks a property has a first such member. -/
theorem exists_first {α : Type} {P : α → Prop} {xs : List α} (h : ∃ x ∈ xs, ¬ P x) :
    ∃ before x after, xs = before ++ x :: after ∧ (∀ b ∈ before, P b) ∧ ¬ P x := by
  induction xs with
  | nil => simp at h
  | cons x xs ih =>
    by_cases hx : P x
    · have hrest : ∃ y ∈ xs, ¬ P y := by simpa [hx] using h
      obtain ⟨before, y, after, rfl, hbefore, hy⟩ := ih hrest
      exact ⟨x :: before, y, after, rfl, List.forall_mem_cons.mpr ⟨hx, hbefore⟩, hy⟩
    · exact ⟨[], x, xs, rfl, List.forall_mem_nil _, hx⟩

section Sections

variable {g : Graph} {entries : Entries} {key place : String}

theorem Value.isNull_iff {v : Value} : v.isNull = true ↔ v = Value.null := beq_iff_eq

theorem getSequence_of_isList (h : ListPart.IsList g ⟨place, entries.read key⟩) :
    ∃ s, g.getSequence entries key place = .ok s
      ∧ s.items = ListPart.items g ⟨place, entries.read key⟩ := by
  rw [Graph.getSequence]
  rcases h with hnull | ⟨items, hitems⟩
  · dsimp only at hnull
    rw [ListPart.items, hnull, if_pos (Value.isNull_iff.mpr rfl)]
    exact ⟨_, rfl, rfl⟩
  · dsimp only at hitems
    have hshape : g.shape (entries.read key) = .sequence items := by
      rw [Graph.sequence?] at hitems
      split at hitems
      · rename_i hshape
        rw [hshape, Option.some.inj hitems]
      · cases hitems
    have hnull : ¬ (entries.read key).isNull = true := by
      intro hnull
      rw [Value.isNull_iff.mp hnull] at hitems
      cases hitems
    rw [if_neg hnull, Graph.asSequence, hshape, ListPart.items, hitems]
    exact ⟨_, rfl, rfl⟩

theorem getSequence_of_not_isList (h : ¬ ListPart.IsList g ⟨place, entries.read key⟩) :
    g.getSequence entries key place
      = .error ⟨place, "sequence", (g.shape (entries.read key)).typeName⟩ := by
  obtain ⟨hnull, hitems⟩ := not_or.mp h
  rw [Graph.getSequence, if_neg fun h => hnull (Value.isNull_iff.mp h), Graph.asSequence]
  split
  · rename_i items hshape
    exact absurd ⟨items, by rw [Graph.sequence?, hshape]⟩ hitems
  · rfl

theorem getMapping_of_mapping {es : Entries} (h : g.mapping? (entries.read key) = some es) :
    g.getMapping entries key place = .ok ⟨es, (entries.read key).container?⟩ := by
  have hshape : g.shape (entries.read key) = .mapping es := by
    rw [Graph.mapping?] at h
    split at h
    · rename_i hshape
      rw [hshape, Option.some.inj h]
    · cases h
  rw [Graph.getMapping, if_neg (by rw [g.isNull_of_mapping h]; decide), Graph.asMapping, hshape]

theorem getMapping_of_no_mapping (hnull : entries.read key ≠ Value.null)
    (h : g.mapping? (entries.read key) = none) :
    g.getMapping entries key place
      = .error ⟨place, "mapping", (g.shape (entries.read key)).typeName⟩ := by
  rw [Graph.getMapping, if_neg fun h => hnull (Value.isNull_iff.mp h), Graph.asMapping]
  split
  · rename_i hshape
    rw [Graph.mapping?, hshape] at h
    cases h
  · rfl

end Sections

theorem Graph.HasPart.hasDistinctKeys {g : Graph} {entries : Entries} (h : g.HasPart entries)
    (hg : g.HasDistinctKeys) : (Shape.mapping entries).HasDistinctKeys := by
  rcases h with rfl | ⟨v, hv⟩
  · exact List.Pairwise.nil
  · exact hg.mapping hv

/-! ## Operations -/

section Operations

variable [Host] {g : Graph}

/-- The operations of an item stand in the order of the verbs. -/
theorem operations_sublist {item : Value} {ops : Operations} (h : operations g item = .ok ops) :
    (ops.map Prod.fst).Sublist verbs := by
  obtain ⟨lowered, -, hops⟩ := exists_of_bind_ok h
  rw [← Except.ok.inj hops]
  -- the verbs are gone through in their order, whatever the item has
  clear hops h
  induction verbs with
  | nil => exact List.Sublist.slnil
  | cons verb rest ih =>
    rw [List.filterMap_cons]
    split
    · exact ih.cons verb
    · rename_i o ho
      have hverb : o.1 = verb := by
        split at ho
        · split at ho
          · cases ho
          · rw [← Option.some.inj ho]
        · cases ho
      rw [List.map_cons, hverb]
      exact ih.cons_cons verb

omit [Host] in
/-- A verb names one operation. -/
theorem operations_get?_eq_some_iff {ops : Operations} (h : (ops.map Prod.fst).Nodup)
    {verb : String} {op : Value} : ops.get? verb = some op ↔ (verb, op) ∈ ops := by
  induction ops with
  | nil => exact ⟨nofun, nofun⟩
  | cons o rest ih =>
    obtain ⟨hfirst, hrest⟩ := List.nodup_cons.mp h
    have hget : Operations.get? (o :: rest) verb
        = if o.1 = verb then some o.2 else Operations.get? rest verb := by
      by_cases hverb : o.1 = verb
      · simp [Operations.get?, hverb]
      · simp [Operations.get?, hverb]
    rw [hget, List.mem_cons]
    by_cases hverb : o.1 = verb
    · rw [if_pos hverb, Option.some.injEq]
      constructor
      · rintro rfl
        exact .inl (by rw [← hverb])
      · rintro (hop | hmem)
        · rw [← hop]
        · exact absurd (hverb ▸ List.mem_map_of_mem hmem) hfirst
    · rw [if_neg hverb, ih hrest]
      refine ⟨.inr, fun hmem => hmem.resolve_left ?_⟩
      intro hop
      exact hverb (by rw [← hop])

/-- The operation under a name, if it is a mapping, is that which the entry has. -/
theorem hasOperation_iff {e : PathEntry} {item : Value}
    (hops : operations g item = .ok e.operations) {verb : String} {es : Entries} :
    (e.operations.get? verb).bind g.mapping? = some es ↔ e.HasOperation g verb es := by
  have hnodup : (e.operations.map Prod.fst).Nodup := (operations_sublist hops).nodup (by decide)
  rw [Option.bind_eq_some_iff, PathEntry.HasOperation]
  simp only [operations_get?_eq_some_iff hnodup]

theorem operations_null : operations g Value.null = .ok [] := by
  rw [operations]
  rfl

/-- What one operation contributes to the parameters of its path. -/
def operationParameters (g : Graph) (path : String) (o : String × Value) :
    Except ViewError (List Value) :=
  match g.mapping? o.2 with
  | none => pure []
  | some es => do
    return (← checked (g.getSequence es "parameters" s!"paths.{path}.{o.1}.parameters")).items

omit [Host] in
theorem operationParameters_ok {path : String} {ops : Operations}
    (h : ∀ p ∈ operationParts g path ops, p.IsList g) :
    ∃ others, ops.mapM (operationParameters g path) = .ok others
      ∧ others.flatten = (operationParts g path ops).flatMap (·.items g) := by
  induction ops with
  | nil => exact ⟨[], rfl, rfl⟩
  | cons o rest ih =>
    rw [operationParts, List.filterMap_cons] at h ⊢
    cases ho : g.mapping? o.2 with
    | none =>
      rw [ho] at h
      obtain ⟨others, hothers, hflat⟩ := ih h
      have hfirst : operationParameters g path o = .ok [] := by
        rw [operationParameters, ho]
        rfl
      exact ⟨_, mapM_cons_ok hfirst hothers, hflat⟩
    | some es =>
      rw [ho] at h
      obtain ⟨hpart, hrest⟩ := List.forall_mem_cons.mp h
      obtain ⟨others, hothers, hflat⟩ := ih hrest
      obtain ⟨s, hs, hitems⟩ := getSequence_of_isList hpart
      have hfirst : operationParameters g path o = .ok s.items := by
        rw [operationParameters, ho]
        dsimp only
        rw [hs]
        rfl
      refine ⟨_, mapM_cons_ok hfirst hothers, ?_⟩
      rw [List.flatten_cons, hflat, hitems]
      rfl

omit [Host] in
theorem operationParameters_error {path : String} {ops : Operations} {before : List ListPart}
    {p : ListPart} {after : List ListPart}
    (hparts : operationParts g path ops = before ++ p :: after)
    (hbefore : ∀ b ∈ before, b.IsList g) (hp : ¬ p.IsList g) :
    ops.mapM (operationParameters g path)
      = .error (.mismatch ⟨p.place, "sequence", (g.shape p.value).typeName⟩) := by
  induction ops generalizing before with
  | nil => cases before <;> cases hparts
  | cons o rest ih =>
    rw [operationParts, List.filterMap_cons] at hparts
    cases ho : g.mapping? o.2 with
    | none =>
      rw [ho] at hparts
      have hfirst : operationParameters g path o = .ok [] := by
        rw [operationParameters, ho]
        rfl
      exact mapM_cons_error_rest hfirst (ih hparts hbefore)
    | some es =>
      rw [ho] at hparts
      cases before with
      | nil =>
        -- it is this operation that has the wrong part
        obtain ⟨rfl, -⟩ := List.cons.inj hparts
        refine mapM_cons_error ?_ rest
        rw [operationParameters, ho]
        dsimp only
        rw [getSequence_of_not_isList hp]
        rfl
      | cons b before =>
        obtain ⟨rfl, hrest⟩ := List.cons.inj hparts
        obtain ⟨hb, hbefore⟩ := List.forall_mem_cons.mp hbefore
        obtain ⟨s, hs, -⟩ := getSequence_of_isList hb
        have hfirst : operationParameters g path o = .ok s.items := by
          rw [operationParameters, ho]
          dsimp only
          rw [hs]
          rfl
        exact mapM_cons_error_rest hfirst (ih hrest hbefore)

end Operations

/-! ## Lookups -/

namespace Document

variable [Host] {d : Document} {root : Entries} {part : Mapping} {found : List PathEntry}

section Lookups

variable (hroot : d.top = .ok root) (hpart : d.graph.getMapping root "paths" "paths" = .ok part)

include hroot hpart

omit [Host] in
theorem pathItem_eq (path : String) : d.pathItem path = .ok (part.entries.read path) := by
  rw [pathItem, hroot]
  show (do
    let part := (← checked (d.graph.getMapping root "paths" "paths")).entries
    return part.read path : Except ViewError Value) = _
  rw [hpart]
  rfl

/-- The entries of the list of paths go side by side with those of the document. -/
theorem forall₂_paths (hfound : d.paths = .ok found) :
    List.Forall₂ (fun held e => held.1.text = .ok e.path
      ∧ operations d.graph held.2 = .ok e.operations) part.entries found := by
  have hlist : part.entries.mapM (fun held => written do
      return (⟨← held.1.text, ← operations d.graph held.2⟩ : PathEntry)) = .ok found := by
    rw [paths, hroot] at hfound
    change (do
      let part := (← checked (d.graph.getMapping root "paths" "paths")).entries
      part.mapM fun held => written do
        return (⟨← held.1.text, ← operations d.graph held.2⟩ : PathEntry)
        : Except ViewError (List PathEntry)) = _ at hfound
    rw [hpart] at hfound
    exact hfound
  refine (mapM_eq_ok_iff.mp hlist).imp fun held e h => ?_
  obtain ⟨path, hpath, h⟩ := exists_of_bind_ok (ok_of_written h)
  obtain ⟨ops, hops, h⟩ := exists_of_bind_ok h
  cases h
  exact ⟨hpath, hops⟩

theorem parameters_eq {path : String} {item : Value} (hitem : part.entries.read path = item) :
    d.parameters path = match d.graph.mapping? item with
      | none => .ok []
      | some own => do
        let first ← checked
          (d.graph.getSequence own "parameters" s!"paths.{path}.parameters")
        let ops ← written (operations d.graph item)
        let others ← ops.mapM (operationParameters d.graph path)
        return first.items ++ others.flatten := by
  rw [parameters, pathItem_eq hroot hpart, hitem]
  rfl

theorem responses_eq {path : String} {item : Value} {ops : Operations}
    (hitem : part.entries.read path = item) (hops : operations d.graph item = .ok ops)
    (method : String) :
    d.responses path method = match (ops.get? (Text.lower method)).bind d.graph.mapping? with
      | none => .ok .empty
      | some entries => checked (d.graph.getMapping entries "responses"
          s!"paths.{path}.{Text.lower method}.responses") := by
  rw [responses, pathItem_eq hroot hpart, hitem]
  show (do
    let found := (← written (operations d.graph item)).get? (Text.lower method)
    match found.bind d.graph.mapping? with
    | none => return .empty
    | some entries => checked (d.graph.getMapping entries "responses"
        s!"paths.{path}.{Text.lower method}.responses") : Except ViewError Mapping) = _
  rw [hops]
  rfl

/-! ## Agreement -/

section Agreement

variable {e : PathEntry} {item : Value} (hitem : part.entries.read e.path = item)
  (hops : operations d.graph item = .ok e.operations)

include hitem hops

/-- The parameters of a path whose item is a mapping: those of the item, then those of its
operations. -/
theorem parameters_of_mapping {own : Entries} (hown : d.graph.mapping? item = some own) :
    d.parameters e.path = do
      let first ← checked
        (d.graph.getSequence own "parameters" s!"paths.{e.path}.parameters")
      let others ← e.operations.mapM (operationParameters d.graph e.path)
      return first.items ++ others.flatten := by
  rw [parameters_eq hroot hpart hitem, hown, hops]
  rfl

theorem parameters_of_lists {own : Entries} (hown : d.graph.mapping? item = some own)
    (h : ∀ p ∈ parameterParts d.graph own e, p.IsList d.graph) :
    d.parameters e.path = .ok ((parameterParts d.graph own e).flatMap (·.items d.graph)) := by
  obtain ⟨hfirst, hrest⟩ := List.forall_mem_cons.mp h
  obtain ⟨s, hs, hitems⟩ := getSequence_of_isList hfirst
  obtain ⟨others, hothers, hflat⟩ := operationParameters_ok hrest
  rw [parameters_of_mapping hroot hpart hitem hops hown, hs]
  show (e.operations.mapM (operationParameters d.graph e.path) >>= fun others =>
    (pure (s.items ++ others.flatten) : Except ViewError (List Value))) = _
  rw [hothers, parameterParts, List.flatMap_cons, ← hflat, ← hitems]
  rfl

theorem parameters_of_mismatch {own : Entries} {before : List ListPart} {p : ListPart}
    {after : List ListPart} (hown : d.graph.mapping? item = some own)
    (hparts : parameterParts d.graph own e = before ++ p :: after)
    (hbefore : ∀ b ∈ before, b.IsList d.graph) (hp : ¬ p.IsList d.graph) :
    d.parameters e.path
      = .error (.mismatch ⟨p.place, "sequence", (d.graph.shape p.value).typeName⟩) := by
  rw [parameters_of_mapping hroot hpart hitem hops hown]
  -- the first part is that of the item itself, and it is read before those of the operations
  cases before with
  | nil =>
    obtain ⟨rfl, -⟩ := List.cons.inj hparts
    rw [getSequence_of_not_isList hp]
    rfl
  | cons b before =>
    obtain ⟨rfl, hrest⟩ := List.cons.inj hparts
    obtain ⟨hb, hbefore⟩ := List.forall_mem_cons.mp hbefore
    obtain ⟨s, hs, -⟩ := getSequence_of_isList hb
    rw [hs]
    show (e.operations.mapM (operationParameters d.graph e.path) >>= fun others =>
      (pure (s.items ++ others.flatten) : Except ViewError (List Value))) = _
    rw [operationParameters_error hrest hbefore hp]
    rfl

theorem parametersAgree : ParametersAgree d.graph item e (d.parameters e.path) := by
  have hempty : d.graph.mapping? item = none → d.parameters e.path = .ok [] := by
    intro hnone
    rw [parameters_eq hroot hpart hitem, hnone]
  refine ⟨hempty, fun own => parameters_of_lists hroot hpart hitem hops,
    fun own before p after => parameters_of_mismatch hroot hpart hitem hops, ?_⟩
  constructor
  · rintro ⟨err, herr⟩
    cases hown : d.graph.mapping? item with
    | none =>
      rw [hempty hown] at herr
      cases herr
    | some own =>
      refine ⟨own, rfl, ?_⟩
      by_contra hall
      have hlists : ∀ p ∈ parameterParts d.graph own e, p.IsList d.graph :=
        fun p hp => by_contra fun hnot => hall ⟨p, hp, hnot⟩
      rw [parameters_of_lists hroot hpart hitem hops hown hlists] at herr
      cases herr
  · rintro ⟨own, hown, hexists⟩
    obtain ⟨before, p, after, hparts, hbefore, hp⟩ := exists_first hexists
    exact ⟨_, parameters_of_mismatch hroot hpart hitem hops hown hparts hbefore hp⟩

theorem responses_of_no_operation {method : String}
    (hnone : ∀ es, ¬ e.HasOperation d.graph (Text.lower method) es) :
    d.responses e.path method = .ok .empty := by
  have hget : (e.operations.get? (Text.lower method)).bind d.graph.mapping? = none :=
    Option.eq_none_iff_forall_ne_some.mpr fun es hes =>
      hnone es ((hasOperation_iff hops).mp hes)
  rw [responses_eq hroot hpart hitem hops, hget]

theorem responses_of_operation {method : String} {es : Entries}
    (hes : e.HasOperation d.graph (Text.lower method) es) :
    d.responses e.path method = checked (d.graph.getMapping es "responses"
      s!"paths.{e.path}.{Text.lower method}.responses") := by
  rw [responses_eq hroot hpart hitem hops, (hasOperation_iff hops).mpr hes]

theorem responsesAgree (method : String) :
    ResponsesAgree d.graph e method (d.responses e.path method) := by
  have hread {es : Entries} (hes : e.HasOperation d.graph (Text.lower method) es) :=
    responses_of_operation hroot hpart hitem hops hes
  have hempty : (∀ es, ¬ e.HasOperation d.graph (Text.lower method) es) →
      d.responses e.path method = .ok .empty :=
    responses_of_no_operation hroot hpart hitem hops
  have hnull : ∀ es, e.HasOperation d.graph (Text.lower method) es →
      es.read "responses" = Value.null → d.responses e.path method = .ok .empty := by
    intro es hes hnull
    rw [hread hes, Graph.getMapping, if_pos (Value.isNull_iff.mpr hnull)]
    rfl
  have hmapping : ∀ es entries, e.HasOperation d.graph (Text.lower method) es →
      d.graph.mapping? (es.read "responses") = some entries →
        d.responses e.path method = .ok ⟨entries, (es.read "responses").container?⟩ := by
    intro es entries hes hentries
    rw [hread hes, getMapping_of_mapping hentries]
    rfl
  have hmismatch : ∀ es, e.HasOperation d.graph (Text.lower method) es →
      es.read "responses" ≠ Value.null → d.graph.mapping? (es.read "responses") = none →
        d.responses e.path method
          = .error (.mismatch ⟨s!"paths.{e.path}.{Text.lower method}.responses", "mapping",
            (d.graph.shape (es.read "responses")).typeName⟩) := by
    intro es hes hnotNull hnone
    rw [hread hes, getMapping_of_no_mapping hnotNull hnone]
    rfl
  refine ⟨hempty, hnull, hmapping, hmismatch, ?_⟩
  constructor
  · rintro ⟨err, herr⟩
    by_cases hop : ∃ es, e.HasOperation d.graph (Text.lower method) es
    · -- neither of the two ways to succeed was taken
      obtain ⟨es, hes⟩ := hop
      refine ⟨es, hes, ?_, ?_⟩
      · intro h
        rw [hnull es hes h] at herr
        cases herr
      · by_contra hsome
        obtain ⟨entries, hentries⟩ := Option.ne_none_iff_exists'.mp hsome
        rw [hmapping es entries hes hentries] at herr
        cases herr
    · rw [hempty (not_exists.mp hop)] at herr
      cases herr
  · rintro ⟨es, hes, hnotNull, hnone⟩
    exact ⟨_, hmismatch es hes hnotNull hnone⟩

end Agreement

end Lookups

end Document

/-- **The parts of a path agree with the list of paths.** Let the names of the paths be texts, as
they always are in a document that was decoded from JSON, and let the paths be listed. Every entry
of the list belongs to one item of the document. It has its operations in the order of the verbs,
and the parameters and the responses under its name are those that its operations lead to. Under
any other name there are neither parameters nor responses. -/
theorem path_parts_agree [Host] (d : Document) (hd : d.graph.HasDistinctKeys) :
    ((∃ text, decode text (some .json) = .ok d) → d.graph.HasTextKeys)
      ∧ ∀ root part found, d.top = .ok root →
        d.graph.getMapping root "paths" "paths" = .ok part →
        (Shape.mapping part.entries).HasTextKeys → d.paths = .ok found →
        (∀ e ∈ found, ∃ item, (.str e.path, item) ∈ part.entries
          ∧ operations d.graph item = .ok e.operations
          ∧ (e.operations.map Prod.fst).Sublist verbs
          ∧ ParametersAgree d.graph item e (d.parameters e.path)
          ∧ ∀ method, ResponsesAgree d.graph e method (d.responses e.path method))
        ∧ ∀ path, path ∉ found.map PathEntry.path →
          d.parameters path = .ok [] ∧ ∀ method, d.responses path method = .ok .empty := by
  refine ⟨fun ⟨text, h⟩ => (isPlain_of_decode_json h).keys, ?_⟩
  intro root part found hroot hpart hkeys hfound
  have hlisted := Document.forall₂_paths hroot hpart hfound
  have hchecked : checked (d.graph.getMapping root "paths" "paths") = .ok part := by
    rw [hpart]
    rfl
  have hdistinct := (Graph.hasPart_getMapping hchecked).hasDistinctKeys hd
  refine ⟨?_, ?_⟩
  · intro e he
    obtain ⟨⟨key, item⟩, hheld, htext, hops⟩ := exists_of_mem_right hlisted he
    obtain ⟨name, rfl⟩ : ∃ name, key = .str name := hkeys _ hheld
    obtain rfl : name = e.path := Except.ok.inj htext
    -- the lookup finds the item that the entry was made of
    have hitem : part.entries.read e.path = item := Entries.read_of_mem hdistinct hheld
    exact ⟨item, hheld, hops, operations_sublist hops,
      Document.parametersAgree hroot hpart hitem hops,
      Document.responsesAgree hroot hpart hitem hops⟩
  · intro path hpath
    -- every key of the paths is listed, so this one is no key and reads as null
    have hitem : part.entries.read path = Value.null := by
      refine Entries.read_of_not_mem fun held hheld => ?_
      obtain ⟨name, hname⟩ := hkeys held hheld
      obtain ⟨e, he, htext, -⟩ := exists_of_mem_right hlisted.flip hheld
      rw [hname] at htext ⊢
      obtain rfl : name = e.path := Except.ok.inj htext
      rw [Graph.sameKey_str]
      refine beq_eq_false_iff_ne.mpr ?_
      rintro rfl
      exact hpath (List.mem_map_of_mem he)
    refine ⟨?_, fun method => ?_⟩
    · rw [Document.parameters_eq hroot hpart hitem]
      rfl
    · rw [Document.responses_eq hroot hpart hitem operations_null]
      rfl

/-- A path with operations of all kinds, the last of them with parameters that are no list, and a
path without an item. -/
def mixedText : String :=
  "\x7b\"paths\":\x7b\"/a\":\x7b\"parameters\":[1],\"POST\":\x7b\"parameters\":\"p\"\x7d,"
    ++ "\"Get\":\x7b\"parameters\":[2],\"responses\":\x7b\x7d\x7d,\"put\":5\x7d,\"/b\":null\x7d\x7d"

/-- The document of this text. -/
def mixedDocument : Document :=
  ⟨⟨#[.mapping [(.str "paths", .container 1)],
      .mapping [(.str "/a", .container 2), (.str "/b", .null)],
      .mapping [(.str "parameters", .container 3), (.str "POST", .container 4),
        (.str "Get", .container 5), (.str "put", .scalar (.int 5))],
      .sequence [.scalar (.int 1)],
      .mapping [(.str "parameters", .str "p")],
      .mapping [(.str "parameters", .container 6), (.str "responses", .container 7)],
      .sequence [.scalar (.int 2)],
      .mapping []]⟩, .container 0⟩

theorem path_parts_agree_mixedText :
    decode mixedText (some .json) = .ok mixedDocument
      ∧ mixedDocument.graph.HasDistinctKeys ∧ mixedDocument.graph.HasTextKeys
      ∧ (∃ operations, mixedDocument.paths = .ok [⟨"/a", operations⟩, ⟨"/b", []⟩]
        ∧ operations.map Prod.fst = ["get", "post", "put"])
      ∧ mixedDocument.responses "/a" "gEt" = .ok ⟨[], some 7⟩
      ∧ mixedDocument.responses "/a" "put" = .ok .empty
      ∧ mixedDocument.parameters "/a"
        = .error (.mismatch ⟨"paths./a.post.parameters", "sequence", "str"⟩)
      ∧ mixedDocument.parameters "/b" = .ok [] ∧ mixedDocument.parameters "/c" = .ok [] := by
  have hjson : Json.decode mixedText = .ok (.object [("paths", .object
      [("/a", .object [("parameters", .array [.int 1]),
        ("POST", .object [("parameters", .str "p")]),
        ("Get", .object [("parameters", .array [.int 2]), ("responses", .object [])]),
        ("put", .int 5)]), ("/b", .null)])]) := by
    cbv
  have hdecode : decode mixedText (some .json) = .ok mixedDocument := (decodesTo_of_json hjson).2
  have hdistinct := hasDistinctKeys_of_decode hdecode
  obtain ⟨hkeys, hagree⟩ := path_parts_agree mixedDocument hdistinct
  have hplain : mixedDocument.graph.HasTextKeys := hkeys ⟨_, hdecode⟩
  have hfound : mixedDocument.paths = .ok [⟨"/a", [("get", .container 5), ("post", .container 4),
      ("put", .scalar (.int 5))]⟩, ⟨"/b", []⟩] := by
    decide +kernel
  obtain ⟨hentries, hothers⟩ := hagree [(.str "paths", .container 1)]
    ⟨[(.str "/a", .container 2), (.str "/b", .null)], some 1⟩ _ rfl rfl (hplain 1) hfound
  have hget : PathEntry.HasOperation mixedDocument.graph
      ⟨"/a", [("get", .container 5), ("post", .container 4), ("put", .scalar (.int 5))]⟩
      (Text.lower "gEt") [(.str "parameters", .container 6), (.str "responses", .container 7)] :=
    ⟨.container 5, by decide +kernel, rfl⟩
  obtain ⟨item, hitem, -, -, hparameters, hresponses⟩ := hentries _ List.mem_cons_self
  obtain ⟨item', hitem', -, -, hparameters', -⟩ := hentries _ (.tail _ List.mem_cons_self)
  obtain rfl : item = .container 2 := by simpa using hitem
  obtain rfl : item' = .null := by simpa using hitem'
  refine ⟨hdecode, hdistinct, hplain, ⟨_, hfound, rfl⟩, ?_, ?_, ?_, ?_, ?_⟩
  · exact (hresponses "gEt").mapping _ _ hget rfl
  · refine (hresponses "put").empty ?_
    rintro es ⟨op, hop, hes⟩
    have hlower : Text.lower "put" = "put" := by decide +kernel
    obtain rfl : op = .scalar (.int 5) := by simpa [hlower] using hop
    cases hes
  · refine hparameters.mismatch _ [_, _] _ [] rfl rfl ?_ ?_
    · exact List.forall_mem_cons.mpr ⟨.inr ⟨_, rfl⟩, List.forall_mem_singleton.mpr (.inr ⟨_, rfl⟩)⟩
    · rintro (hnull | ⟨items, hitems⟩)
      · cases hnull
      · cases hitems
  · exact hparameters'.empty rfl
  · exact (hothers "/c" (by decide)).1

end OpenApi
