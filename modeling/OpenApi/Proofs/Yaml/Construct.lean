/-
What the construction of a YAML document keeps, and what it fails with.

Construction works on a state: the nodes, which flattening changes, and the containers so far. One
invariant carries both results (`Builder.IsSound`). Every node still stems from a node of the
document, with its own text and with its own tag or that of texts. And every mapping so far has
each of its keys once.

A step keeps the invariant if it gives a value, and otherwise fails with a fault of form or with
an error that a node of the document is to blame for (`Blames`): its text names no value of the type
that a tag asks for, or it is a key that leads on to other mappings, and they are too many for the
host to follow. `Runs` says this of a step, and there is one lemma for each of the functions that
construction is put together from, in the order of their definitions.
-/
import OpenApi.Proofs.Document.Writable
import OpenApi.Yaml.Construct

set_option autoImplicit false

namespace OpenApi

/-! ## Keys -/

/-- One level of a value has each key once. -/
def Shape.HasDistinctKeys : Shape → Prop
  | .mapping entries => entries.Pairwise fun a b => a.1.sameKey b.1 = false
  | _ => True

/-- Every mapping of a document has each key once. -/
def Graph.HasDistinctKeys (g : Graph) : Prop := ∀ id, (g.content id).HasDistinctKeys

/-- A key that is set is not there twice: it was there and keeps its place, or it comes last. -/
theorem Entries.hasDistinctKeys_insert {entries : Entries}
    (h : (Shape.mapping entries).HasDistinctKeys) (key : Scalar) (value : Value) :
    (Shape.mapping (entries.insert key value)).HasDistinctKeys := by
  have hmem : ∀ {rest : Entries} {e : Scalar × Value}, e ∈ rest.insert key value →
      e.1 = key ∨ ∃ e' ∈ rest, e'.1 = e.1 := by
    intro rest
    induction rest with
    | nil =>
      intro e he
      exact .inl (by rw [List.mem_singleton.mp he])
    | cons first rest ih =>
      intro e he
      rw [insert] at he
      split at he
      · rcases List.mem_cons.mp he with rfl | he
        · exact .inr ⟨first, List.mem_cons_self, rfl⟩
        · exact .inr ⟨e, List.mem_cons_of_mem _ he, rfl⟩
      · rcases List.mem_cons.mp he with rfl | he
        · exact .inr ⟨e, List.mem_cons_self, rfl⟩
        · rcases ih he with hkey | ⟨e', he', heq⟩
          · exact .inl hkey
          · exact .inr ⟨e', List.mem_cons_of_mem _ he', heq⟩
  induction entries with
  | nil => exact List.pairwise_singleton _ _
  | cons first rest ih =>
    obtain ⟨hfirst, hrest⟩ := List.pairwise_cons.mp h
    rw [insert]
    by_cases hsame : first.1.sameKey key = true
    · rw [if_pos hsame]
      exact List.pairwise_cons.mpr ⟨hfirst, hrest⟩
    · rw [if_neg hsame]
      refine List.pairwise_cons.mpr ⟨?_, ih hrest⟩
      intro e he
      -- what stands behind the first entry is the new key, or a key that was there
      rcases hmem he with hkey | ⟨e', he', heq⟩
      · rw [hkey]
        exact Bool.eq_false_iff.mpr hsame
      · rw [← heq]
        exact hfirst e' he'

namespace Graph

variable {g : Graph}

theorem HasDistinctKeys.of_content (hg : g.HasDistinctKeys) {g' : Graph} (c : Container)
    (hc : c.shape.HasDistinctKeys)
    (h : ∀ id, g'.content id = c.shape ∨ g'.content id = g.content id) : g'.HasDistinctKeys := by
  intro id
  rcases h id with hid | hid
  · rw [hid]
    exact hc
  · rw [hid]
    exact hg id

theorem HasDistinctKeys.add (hg : g.HasDistinctKeys) (c : Container)
    (hc : c.shape.HasDistinctKeys) : (g.add c).1.HasDistinctKeys :=
  hg.of_content c hc (g.content_add c)

theorem HasDistinctKeys.set (hg : g.HasDistinctKeys) (id : Nat) (c : Container)
    (hc : c.shape.HasDistinctKeys) : (g.set id c).HasDistinctKeys :=
  hg.of_content c hc fun id' => content_set g c id' id

theorem empty_hasDistinctKeys : Graph.empty.HasDistinctKeys := fun _ => trivial

end Graph

namespace Yaml

/-! ## Nodes and their texts -/

/-- A node stems from one of these nodes: it has its text, and its tag or that of texts. -/
def Node.StemsFrom (nodes : Array Node) (n : Node) : Prop :=
  ∃ m ∈ nodes, (n.tag = m.tag ∨ n.tag = Tag.str) ∧ ∀ text, n.body = .scalar text → m.body = n.body

theorem Node.stemsFrom_of_mem {nodes : Array Node} {n : Node} (h : n ∈ nodes) :
    n.StemsFrom nodes :=
  ⟨n, h, .inl rfl, fun _ _ => rfl⟩

/-- A text names no value of the type that a tag asks for, for a reason that is no matter of
form. -/
inductive Misnames : (tag text : String) → Error → Prop where
  | bool {text : String} {e : Error} : boolValue text = .error e → Misnames Tag.bool text e
  | int {text : String} {e : Error} : intValue text = .error e → Misnames Tag.int text e
  | float {nan : Decimal.Binary64} {text : String} {e : Error} :
      floatValue nan text = .error e → Misnames Tag.float text e
  | time {text : String} {e : Error} : timeValue text = .error e → Misnames Tag.timestamp text e

/-- A text that construction reads from these nodes. A number that leads to no node counts as a
scalar without text. -/
def IsTextOf (nodes : Array Node) (text : String) : Prop :=
  text = "" ∨ ∃ m ∈ nodes, m.body = .scalar text

/-- The nodes of a document are to blame for an error. A node has a tag that its text, or the text
of the scalar that it stands for, does not suit; or it is tagged as a point in time and is not
written as one; or it is a key behind which there are more mappings than can be followed: a value
key, behind which there is the scalar that a mapping stands for, or a merge key. -/
inductive Blames (nodes : Array Node) : Error → Prop where
  | text {n : Node} {text : String} {e : Error} :
      n ∈ nodes → IsTextOf nodes text → Misnames n.tag text e → Blames nodes e
  | timestampMapping {n : Node} :
      n ∈ nodes → n.tag = Tag.timestamp → Blames nodes .timestampMapping
  | valueKey {n : Node} : n ∈ nodes → n.tag = Tag.value → Blames nodes .tooDeep
  | mergeKey {n : Node} : n ∈ nodes → n.tag = Tag.merge → Blames nodes .tooDeep

/-- What construction may fail with: a fault of form, or an error that the nodes of the document
are to blame for. -/
def MayFail (nodes : Array Node) (e : Error) : Prop := e.isMalformed = true ∨ Blames nodes e

/-- The invariant of construction from these nodes. -/
structure Builder.IsSound (nodes : Array Node) (s : Builder) : Prop where
  stems : ∀ n ∈ s.nodes, n.StemsFrom nodes
  distinct : s.graph.HasDistinctKeys

/-! ## Steps -/

/-- A step keeps the invariant, and what it gives satisfies `P`; or it fails as it may. -/
def Runs {α : Type} (nodes : Array Node) (x : Construct α) (P : α → Prop) : Prop :=
  ∀ s : Builder, s.IsSound nodes →
    match x.run s with
    | .ok (a, s') => s'.IsSound nodes ∧ P a
    | .error e => MayFail nodes e

section Steps

variable {nodes : Array Node} {α β : Type} {P : α → Prop}

theorem runs_pure {a : α} (h : P a) : Runs nodes (pure a) P := fun _ hs => ⟨hs, h⟩

theorem runs_throw {e : Error} (h : MayFail nodes e) : Runs nodes (throw e : Construct α) P :=
  fun _ _ => h

theorem runs_get : Runs nodes get (Builder.IsSound nodes) := fun _ hs => ⟨hs, hs⟩

theorem runs_set {s : Builder} (h : s.IsSound nodes) : Runs nodes (set s) fun _ => True :=
  fun _ _ => ⟨h, trivial⟩

theorem runs_modify {f : Builder → Builder}
    (h : ∀ s : Builder, s.IsSound nodes → (f s).IsSound nodes) :
    Runs nodes (modify f) fun _ => True :=
  fun s hs => ⟨h s hs, trivial⟩

theorem runs_bind {x : Construct β} {f : β → Construct α} {Q : β → Prop}
    (hx : Runs nodes x Q) (hf : ∀ b, Q b → Runs nodes (f b) P) :
    Runs nodes (x >>= f) P := by
  intro s hs
  have hstep := hx s hs
  rw [StateT.run_bind]
  cases hrun : x.run s with
  | error e =>
    rw [hrun] at hstep
    exact hstep
  | ok r =>
    rw [hrun] at hstep
    exact hf r.1 hstep.2 r.2 hstep.1

theorem Runs.map {x : Construct β} {f : β → α} (hx : Runs nodes x fun b => P (f b)) :
    Runs nodes (f <$> x) P := by
  rw [← bind_pure_comp]
  exact runs_bind hx fun b hb => runs_pure hb

theorem Runs.mono {x : Construct α} {Q : α → Prop} (hx : Runs nodes x P)
    (h : ∀ a, P a → Q a) : Runs nodes x Q := by
  intro s hs
  have hstep := hx s hs
  cases hrun : x.run s with
  | error e =>
    rw [hrun] at hstep
    exact hstep
  | ok r =>
    rw [hrun] at hstep
    exact ⟨hstep.1, h r.1 hstep.2⟩

/-- A step that does not look at the state. -/
theorem runs_lift {x : Except Error α} (hok : ∀ a, x = .ok a → P a)
    (herror : ∀ e, x = .error e → MayFail nodes e) :
    Runs nodes (liftM x : Construct α) P := by
  intro s hs
  cases x with
  | error e => exact herror e rfl
  | ok a => exact ⟨hs, hok a rfl⟩

theorem runs_mapM {f : β → Construct α} {xs : List β} (h : ∀ x ∈ xs, Runs nodes (f x) P) :
    Runs nodes (xs.mapM f) fun ys => ∀ y ∈ ys, P y := by
  induction xs with
  | nil => exact runs_pure (List.forall_mem_nil _)
  | cons x xs ih =>
    obtain ⟨hx, hxs⟩ := List.forall_mem_cons.mp h
    rw [List.mapM_cons]
    refine runs_bind hx fun y hy => runs_bind (ih hxs) fun ys hys => ?_
    exact runs_pure (List.forall_mem_cons.mpr ⟨hy, hys⟩)

theorem runs_forM {f : β → Construct PUnit} {xs : List β}
    (h : ∀ x ∈ xs, Runs nodes (f x) fun _ => True) : Runs nodes (xs.forM f) fun _ => True := by
  induction xs with
  | nil => exact runs_pure trivial
  | cons x xs ih =>
    obtain ⟨hx, hxs⟩ := List.forall_mem_cons.mp h
    exact runs_bind hx fun _ _ => ih hxs

theorem runs_foldlM {f : α → β → Construct α} {xs : List β}
    (h : ∀ x ∈ xs, ∀ a, P a → Runs nodes (f a x) P) {a : α} (ha : P a) :
    Runs nodes (xs.foldlM f a) P := by
  induction xs generalizing a with
  | nil => exact runs_pure ha
  | cons x xs ih =>
    obtain ⟨hx, hxs⟩ := List.forall_mem_cons.mp h
    rw [List.foldlM_cons]
    exact runs_bind (hx a ha) fun b hb => ih hxs hb

end Steps

/-! ## Scalars -/

namespace Construct

variable {nodes : Array Node}

/-- What a number leads to: a node that stems from one of the document, or nothing, which reads as
a null without text. -/
def IsNode (nodes : Array Node) (n : Node) : Prop :=
  n.StemsFrom nodes ∨ n.tag = Tag.null ∧ n.body = .scalar ""

theorem runs_nodeAt (id : Nat) : Runs nodes (nodeAt id) (IsNode nodes) := by
  refine runs_bind runs_get fun s hs => runs_pure ?_
  cases hn : s.nodes[id]? with
  | none => exact .inr ⟨rfl, rfl⟩
  | some n => exact .inl (hs.stems n (Array.mem_of_getElem? hn))

theorem runs_failAt {α : Type} {P : α → Prop} (problem : Problem) (mark : Mark) :
    Runs nodes (failAt problem mark) P :=
  runs_throw (.inl rfl)

theorem runs_failIn {α : Type} {P : α → Prop} (context : Context) (start : Mark)
    (problem : Problem) (mark : Mark) : Runs nodes (failIn context start problem mark) P :=
  runs_throw (.inl rfl)

theorem IsNode.isText {n : Node} {text : String} (hn : IsNode nodes n)
    (hbody : n.body = .scalar text) : IsTextOf nodes text := by
  rcases hn with ⟨m, hm, -, htext⟩ | ⟨-, hempty⟩
  · exact .inr ⟨m, hm, (htext text hbody).trans hbody⟩
  · rw [hempty] at hbody
    exact .inl (NodeBody.scalar.inj hbody).symm

/-- A tag other than those that construction itself gives comes from the document. -/
theorem IsNode.exists_tag {n : Node} (hn : IsNode nodes n) {tag : String} (htag : n.tag = tag)
    (hstr : tag ≠ Tag.str) (hnull : tag ≠ Tag.null) : ∃ m ∈ nodes, m.tag = tag := by
  rcases hn with ⟨m, hm, hm' | hm', -⟩ | ⟨hn, -⟩
  · exact ⟨m, hm, hm'.symm.trans htag⟩
  · exact absurd (htag.symm.trans hm') hstr
  · exact absurd (htag.symm.trans hn) hnull

/-- A node with a tag stems from one with this tag, unless the tag is that of texts. -/
theorem exists_tag {s : Builder} (hs : s.IsSound nodes) {id : Nat} {tag : String}
    (htag : tag ≠ Tag.str) (h : hasTag s.nodes tag id = true) : ∃ m ∈ nodes, m.tag = tag := by
  obtain ⟨n, hn, rfl⟩ := Option.map_eq_some_iff.mp (beq_iff_eq.mp h)
  obtain ⟨m, hm, hsame | hstr, -⟩ := hs.stems n (Array.mem_of_getElem? hn)
  · exact ⟨m, hm, hsame.symm⟩
  · exact absurd hstr htag

/-- There is no room left only behind a value key. -/
theorem runs_scalarText (room id : Nat) (hroom : room = 0 → ∃ m ∈ nodes, m.tag = Tag.value) :
    Runs nodes (scalarText room id) (IsTextOf nodes) := by
  induction room generalizing id with
  | zero =>
    obtain ⟨m, hm, htag⟩ := hroom rfl
    exact runs_throw (.inr (.valueKey hm htag))
  | succ room ih =>
    rw [scalarText]
    refine runs_bind (runs_nodeAt id) fun n hn => ?_
    cases hbody : n.body with
    | scalar text => exact runs_pure (hn.isText hbody)
    | sequence items => exact runs_failAt _ _
    | mapping entries =>
      refine runs_bind runs_get fun s hs => ?_
      dsimp only
      split
      · rename_i key _ hfind
        have hkey : hasTag s.nodes Tag.value key = true :=
          (List.find?_eq_some_iff_append.mp hfind).1
        exact ih _ fun _ => exists_tag hs (by decide) hkey
      · exact runs_failAt _ _

/-- A text is read as a value of the type of a tag, and nothing else than the text is to blame if
there is none. -/
theorem runs_reading {α : Type} {n : Node} (hn : IsNode nodes n) {tag : String}
    (htag : n.tag = tag) (hstr : tag ≠ Tag.str) (hnull : tag ≠ Tag.null) {text : Construct String}
    (htext : Runs nodes text (IsTextOf nodes)) {read : String → Except Error α}
    (hread : ∀ text e, read text = .error e → Misnames tag text e) (f : α → Scalar) :
    Runs nodes (do return some (f (← read (← text)))) fun _ => True := by
  obtain ⟨m, hm, rfl⟩ := hn.exists_tag htag hstr hnull
  refine runs_bind htext fun written hwritten => ?_
  refine runs_bind (runs_lift (P := fun _ => True) (fun _ _ => trivial) fun e he => ?_)
    fun _ _ => runs_pure trivial
  exact .inr (.text hm hwritten (hread written e he))

theorem runs_scalarValue? [Host] {n : Node} (hn : IsNode nodes n) (id : Nat) :
    Runs nodes (scalarValue? id n) fun _ => True := by
  have htext : Runs nodes (scalarText (Host.valueKeys + 1) id) (IsTextOf nodes) :=
    runs_scalarText _ id nofun
  rw [scalarValue?]
  split
  · exact runs_bind htext fun _ _ => runs_pure trivial
  split
  · exact runs_bind htext fun _ _ => runs_pure trivial
  split
  · rename_i htag
    exact runs_reading hn (beq_iff_eq.mp htag) (by decide) (by decide) htext
      (fun _ _ => .bool) Scalar.bool
  split
  · rename_i htag
    exact runs_reading hn (beq_iff_eq.mp htag) (by decide) (by decide) htext
      (fun _ _ => .int) Scalar.int
  split
  · rename_i htag
    exact runs_reading hn (beq_iff_eq.mp htag) (by decide) (by decide) htext
      (fun _ _ => .float) Scalar.float
  split
  · rename_i htag
    -- A timestamp is matched as it is written, not by the text that a mapping under `=` stands for.
    -- So only a scalar can be one.
    obtain ⟨m, hm, hmtag⟩ := hn.exists_tag (beq_iff_eq.mp htag) (by decide) (by decide)
    refine runs_bind htext fun _ _ => ?_
    cases hbody : n.body with
    | scalar written =>
      refine runs_bind (runs_lift (P := fun _ => True) (fun _ _ => trivial) fun e he => ?_)
        fun _ _ => runs_pure trivial
      exact .inr (.text hm (hn.isText hbody) (hmtag ▸ .time he))
    | sequence items => exact runs_throw (.inr (.timestampMapping hm hmtag))
    | mapping entries => exact runs_throw (.inr (.timestampMapping hm hmtag))
  split
  · refine runs_bind htext fun written _ => ?_
    split
    · exact runs_pure trivial
    · exact runs_failAt _ _
  · exact runs_pure trivial

/-! ## Nodes -/

theorem emptyContainer_hasDistinctKeys (filling : Filling) :
    (emptyContainer filling).shape.HasDistinctKeys := by
  cases filling with
  | mapping => exact List.Pairwise.nil
  | _ => trivial

theorem runs_value [Host] (id : Nat) : Runs nodes (value id) fun _ => True := by
  -- However a value comes about, it is kept for the other mentions of its node.
  have hstore : ∀ v, Runs nodes (do
      modify fun s : Builder => { s with values := s.values.setIfInBounds id (some v) }
      return v) fun _ => True := by
    intro v
    exact runs_bind (runs_modify fun s hs => ⟨hs.stems, hs.distinct⟩) fun _ _ => runs_pure trivial
  rw [value]
  refine runs_bind runs_get fun s _ => ?_
  split
  · exact runs_pure trivial
  · refine runs_bind (runs_nodeAt id) fun n hn => ?_
    refine runs_bind (runs_scalarValue? hn id) fun found _ => ?_
    cases found with
    | some scalar => exact runs_bind (runs_pure trivial) fun v (_ : True) => hstore v
    | none =>
      dsimp only
      cases filling? n.tag with
      | none => exact runs_bind (runs_failAt _ _) fun v (_ : True) => hstore v
      | some filling =>
        -- A container is entered empty and filled later, so that it may hold itself.
        refine runs_bind runs_get fun s hs => ?_
        refine runs_bind (runs_set ?_) fun _ _ =>
          runs_bind (runs_pure trivial) fun v (_ : True) => hstore v
        exact ⟨hs.stems, hs.distinct.add _ (emptyContainer_hasDistinctKeys filling)⟩

/-! ## Merging -/

theorem runs_entriesOf (id : Nat) : Runs nodes (entriesOf id) fun _ => True := by
  refine runs_bind (runs_nodeAt id) fun n _ => ?_
  split
  · exact runs_pure trivial
  · exact runs_pure trivial

/-- A node that is changed stems from where it did, if the change is one that construction makes. -/
theorem isSound_modify {s : Builder} (hs : s.IsSound nodes) (id : Nat) {f : Node → Node}
    (hf : ∀ n : Node, n.StemsFrom nodes → (f n).StemsFrom nodes) :
    Builder.IsSound nodes { s with nodes := s.nodes.modify id f } := by
  refine ⟨?_, hs.distinct⟩
  intro n hn
  obtain ⟨i, hi, rfl⟩ := Array.mem_iff_getElem.mp hn
  rw [Array.getElem_modify]
  have hi' : i < s.nodes.size := by rwa [Array.size_modify] at hi
  split
  · exact hf _ (hs.stems _ (Array.getElem_mem hi'))
  · exact hs.stems _ (Array.getElem_mem hi')

theorem runs_setEntries (id : Nat) (entries : List (Nat × Nat)) :
    Runs nodes (setEntries id entries) fun _ => True := by
  refine runs_modify fun s hs => isSound_modify hs id ?_
  -- a mapping has no text that it would have to keep
  rintro n ⟨m, hm, htag, -⟩
  exact ⟨m, hm, htag, nofun⟩

theorem runs_plainKey (id : Nat) : Runs nodes (plainKey id) fun _ => True := by
  refine runs_modify fun s hs => ?_
  split
  · refine isSound_modify hs id ?_
    rintro n ⟨m, hm, -, htext⟩
    exact ⟨m, hm, .inr rfl, htext⟩
  · exact hs

/-- What stops a run along a list does not satisfy its condition. -/
theorem eq_false_of_getElem?_takeWhile {α : Type} {p : α → Bool} {xs : List α} {a : α}
    (h : xs[(xs.takeWhile p).length]? = some a) : p a = false := by
  induction xs with
  | nil => cases h
  | cons x xs ih =>
    cases hx : p x with
    | false =>
      rw [List.takeWhile_cons_of_neg (Bool.eq_false_iff.mp hx)] at h
      rw [← Option.some.inj h, hx]
    | true =>
      rw [List.takeWhile_cons_of_pos hx, List.length_cons, List.getElem?_cons_succ] at h
      exact ih h

/-- There is no room left only behind a merge key. -/
theorem runs_flattenFrom (bound room id index : Nat) (merged : List (Nat × Nat))
    (hroom : room = 0 → ∃ m ∈ nodes, m.tag = Tag.merge) :
    Runs nodes (flattenFrom bound room id index merged) fun _ => True := by
  induction bound generalizing room id index merged with
  | zero =>
    rw [flattenFrom]
    exact runs_pure trivial
  | succ bound ih =>
    cases room with
    | zero =>
      obtain ⟨m, hm, htag⟩ := hroom rfl
      exact runs_throw (.inr (.mergeKey hm htag))
    | succ room =>
      rw [flattenFrom]
      refine runs_bind (runs_nodeAt id) fun n _ => ?_
      refine runs_bind (runs_entriesOf id) fun entries _ => ?_
      refine runs_bind runs_get fun s hs => ?_
      refine runs_bind (runs_forM fun e _ => runs_plainKey e.1) fun _ _ => ?_
      dsimp only
      split
      · split
        · exact runs_setEntries _ _
        · exact runs_pure trivial
      · rename_i key source hplace
        refine runs_bind (runs_setEntries _ _) fun _ _ => ?_
        refine runs_bind (runs_nodeAt _) fun source _ => ?_
        -- the run of own entries was stopped by a merge key
        have hmerge : ∃ m ∈ nodes, m.tag = Tag.merge := by
          rw [← List.getElem?_drop] at hplace
          have hkey := eq_false_of_getElem?_takeWhile hplace
          rw [Bool.not_eq_false'] at hkey
          exact exists_tag hs (by decide) hkey
        have hinner : ∀ id, Runs nodes (flattenFrom bound room id 0 []) fun _ => True :=
          fun id => ih room id 0 [] fun _ => hmerge
        have hrest : ∀ place found,
            Runs nodes (flattenFrom bound (room + 1) id place (merged ++ found)) fun _ => True :=
          fun place found => ih (room + 1) id place _ nofun
        -- what is merged is one mapping, or several
        cases source.body with
        | scalar _ => exact runs_bind (runs_failIn _ _ _ _) fun found (_ : True) => hrest _ found
        | mapping _ =>
          refine runs_bind (hinner _) fun _ _ => ?_
          exact runs_bind (runs_entriesOf _) fun found _ => hrest _ found
        | sequence items =>
          refine runs_bind (runs_mapM (P := fun _ => True) fun item _ => ?_)
            fun _ _ => runs_bind (runs_pure trivial) fun found (_ : True) => hrest _ found
          refine runs_bind (runs_nodeAt item) fun itemNode _ => ?_
          split
          · exact runs_bind (hinner _) fun _ _ => runs_entriesOf _
          · exact runs_failIn _ _ _ _

section Host

variable [Host]

theorem runs_flatten (id : Nat) : Runs nodes (flatten id) fun _ => True :=
  runs_bind runs_get fun _ _ => runs_flattenFrom _ _ id 0 [] nofun

/-! ## Filling -/

/-- The entries of a mapping are put in one after another, so each key is there once. -/
theorem runs_mappingEntries (id : Nat) :
    Runs nodes (mappingEntries id) fun entries => (Shape.mapping entries).HasDistinctKeys := by
  refine runs_bind (runs_nodeAt id) fun n _ => ?_
  split
  · refine runs_bind (runs_flatten id) fun _ _ => ?_
    refine runs_bind (runs_entriesOf id) fun entries _ => ?_
    refine runs_foldlM (fun e _ done hdone => ?_) List.Pairwise.nil
    refine runs_bind (runs_value e.1) fun key _ => ?_
    cases key with
    | scalar s =>
      exact runs_bind (runs_value e.2) fun v _ =>
        runs_pure (Entries.hasDistinctKeys_insert hdone s v)
    | container _ => exact runs_bind (runs_nodeAt _) fun _ _ => runs_failIn _ _ _ _
  · exact runs_failAt _ _

theorem runs_pairItems (context : Context) (id : Nat) :
    Runs nodes (pairItems context id) fun _ => True := by
  refine runs_bind (runs_nodeAt id) fun n _ => ?_
  split
  · refine (runs_mapM (P := fun _ => True) fun item _ => ?_).mono fun _ _ => trivial
    refine runs_bind (runs_nodeAt item) fun itemNode _ => ?_
    split
    · refine runs_bind (runs_value _) fun key _ => ?_
      refine runs_bind (runs_value _) fun held _ => ?_
      refine runs_bind runs_get fun s hs => ?_
      refine runs_bind (runs_set ?_) fun _ _ => runs_pure trivial
      exact ⟨hs.stems, hs.distinct.add _ trivial⟩
    · exact runs_failIn _ _ _ _
    · exact runs_failIn _ _ _ _
  · exact runs_failIn _ _ _ _

theorem runs_fill (p : Pending) : Runs nodes (fill p) fun _ => True := by
  have hset : ∀ content : Container, content.shape.HasDistinctKeys →
      Runs nodes (modify fun s : Builder => { s with graph := s.graph.set p.container content })
        fun _ => True :=
    fun content hcontent => runs_modify fun s hs => ⟨hs.stems, hs.distinct.set _ _ hcontent⟩
  rw [fill]
  cases p.filling with
  | mapping =>
    exact runs_bind (Runs.map (P := fun content => content.shape.HasDistinctKeys)
      (f := Container.mapping) (runs_mappingEntries p.node)) hset
  | set =>
    refine runs_bind (runs_mappingEntries _) fun _ _ => ?_
    exact runs_bind (runs_pure trivial) hset
  | sequence =>
    refine runs_bind (runs_nodeAt _) fun n _ => ?_
    split
    · rename_i items _
      have hitems : Runs nodes (items.mapM value) fun _ => True :=
        (runs_mapM fun item _ => runs_value item).mono fun _ _ => trivial
      exact runs_bind hitems.map hset
    · exact runs_bind (runs_failAt _ _) hset
  | orderedMap => exact runs_bind (runs_pairItems _ _).map hset
  | pairs => exact runs_bind (runs_pairItems _ _).map hset

theorem runs_fillAll (bound position : Nat) :
    Runs nodes (fillAll bound position) fun _ => True := by
  induction bound generalizing position with
  | zero => exact runs_pure trivial
  | succ bound ih =>
    refine runs_bind runs_get fun s _ => ?_
    split
    · exact runs_bind (runs_fill _) fun _ _ => ih _
    · exact runs_pure trivial

theorem runs_top (id : Nat) : Runs nodes (top id) fun _ => True := by
  refine runs_bind (runs_value id) fun v _ => ?_
  refine runs_bind runs_get fun s _ => ?_
  exact runs_bind (runs_fillAll _ _) fun _ _ => runs_pure trivial

end Host

end Construct

/-! ## Documents -/

/-- **What becomes of the nodes of a document**: a document each of whose mappings has each key
once, or an error that construction may fail with. -/
theorem NodeGraph.document_cases [Host] (g : NodeGraph) :
    (∃ d, g.document = .ok d ∧ d.graph.HasDistinctKeys)
      ∨ ∃ e, g.document = .error e ∧ MayFail g.nodes e := by
  have hstart : Builder.IsSound g.nodes
      ⟨g.nodes, Graph.empty, Array.replicate g.nodes.size none, #[]⟩ :=
    ⟨fun n hn => Node.stemsFrom_of_mem hn, Graph.empty_hasDistinctKeys⟩
  have hruns := Construct.runs_top g.root _ hstart
  rw [document]
  cases hrun : (Construct.top g.root).run
      ⟨g.nodes, Graph.empty, Array.replicate g.nodes.size none, #[]⟩ with
  | error e =>
    rw [hrun] at hruns
    exact .inr ⟨e, rfl, hruns⟩
  | ok r =>
    rw [hrun] at hruns
    exact .inl ⟨_, rfl, hruns.1.distinct⟩

end Yaml

end OpenApi
