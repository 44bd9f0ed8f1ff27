/-
What the verdict on a document says.

A check ends in one of two reports. Where decoding failed, or what it gave is no mapping, the
report refuses the text with one error. Otherwise it holds the document and a list of diagnostics,
and the list is empty exactly if the document has all that is required of it and, where the grammar
is checked too, the tree has no error (`report_refuses_or_checks`).

The half about required fields is a reading of `Checker.presence`. The half about the grammar needs
an argument, because only errors that lie in no other error are reported: a tree with an error has
one that is reported (`grammar_eq_nil_iff`).
-/
import OpenApi.Proofs.Check.Outermost

set_option autoImplicit false

namespace OpenApi

open OpenApi.Tree (Arena Concrete)

/-! ## Errors of a tree -/

namespace Checker

/-- Each diagnostic of the grammar is at an error. -/
theorem exists_error_of_mem_grammar {c : Checker} {tree : Arena} {d : Diagnostic}
    (hd : d ∈ c.grammar tree) :
    ∃ n ∈ tree.nodes, n.isError = true ∧ d = c.located (errorMessage n) (some n) := by
  rw [grammar, List.mem_map] at hd
  obtain ⟨n, hn, rfl⟩ := hd
  obtain ⟨h, hh, hnode⟩ := List.mem_filterMap.mp hn
  have herror := (List.mem_filter.mp (List.mem_filter.mp hh).1).2
  obtain ⟨n', hnode', herror'⟩ := (Arena.isError_eq_true_iff tree h).mp herror
  rw [hnode, Option.some.injEq] at hnode'
  rw [← hnode'] at herror'
  exact ⟨n, Array.mem_of_getElem? hnode, herror', rfl⟩

end Checker

/-! ## Required fields -/

/-- What a document has to say of itself: a version, under its present or its older name, and an
info section with a title and a version. What is absent reads as null. -/
structure Entries.IsDescribed (g : Graph) (root : Entries) : Prop where
  version : g.truthy (root.read "openapi") = true ∨ g.truthy (root.read "swagger") = true
  info : ∃ part, g.mapping? (root.read "info") = some part
    ∧ part.read "title" ≠ .null ∧ part.read "title" ≠ .str ""
    ∧ part.read "version" ≠ .null ∧ part.read "version" ≠ .str ""

namespace Checker

theorem isMissing_eq_false_iff (v : Value) : isMissing v = false ↔ v ≠ .null ∧ v ≠ .str "" := by
  simp [isMissing, Value.isNull]

theorem read_nil (name : String) : Entries.read [] name = .null := rfl

/-- A section that is null is no mapping. -/
theorem mapping?_of_isNull {g : Graph} {v : Value} (h : v.isNull = true) : g.mapping? v = none := by
  rw [eq_of_beq h]
  rfl

/-- No field of the info section is missing if and only if there is such a section, and each of
its fields says something. -/
theorem infoFields_present_iff {g : Graph} {info : Value} :
    (∀ name ∈ infoFields, ¬isMissing (((g.mapping? info).getD []).read name) = true)
      ↔ ∃ part, g.mapping? info = some part
        ∧ part.read "title" ≠ .null ∧ part.read "title" ≠ .str ""
        ∧ part.read "version" ≠ .null ∧ part.read "version" ≠ .str "" := by
  simp only [infoFields, List.mem_cons, List.not_mem_nil, or_false, forall_eq_or_imp, forall_eq,
    Bool.not_eq_true, isMissing_eq_false_iff]
  cases g.mapping? info with
  | none => simp [read_nil]
  | some part => simp [and_assoc]

/-- Nothing is missing if and only if the document is described. -/
theorem presence_eq_nil_iff (c : Checker) (g : Graph) (root : Entries) (tree : Arena) :
    c.presence g root tree = [] ↔ root.IsDescribed g := by
  have hversion : ∀ (found : Bool) (d : Diagnostic),
      (if found then [] else [d]) = [] ↔ found = true := by
    intro found d
    cases found <;> simp
  unfold presence
  dsimp only
  by_cases hinfo : (root.read "info").isNull = true
  · rw [if_pos hinfo]
    constructor
    · intro hnil
      simp at hnil
    · rintro ⟨-, part, hpart, -⟩
      rw [mapping?_of_isNull hinfo] at hpart
      cases hpart
  · rw [if_neg hinfo, List.append_eq_nil_iff, hversion, Bool.or_eq_true, List.map_eq_nil_iff,
      List.filter_eq_nil_iff]
    rw [infoFields_present_iff]
    exact ⟨fun h => ⟨h.1, h.2⟩, fun h => ⟨h.1, h.2⟩⟩

end Checker

/-! ## Reports -/

/-- A report that refuses a text: it is not valid, has one error, and nothing else. -/
structure Report.IsRefusal [Host] (r : Report) : Prop where
  invalid : r.isValid = false
  error : ∃ message, r.errors? = some [message]
  document : r.document? = none
  diagnostics : r.diagnostics? = none

/-- A report on a document: it has no errors, and is valid if and only if there are no
diagnostics. -/
structure Report.IsOn [Host] (r : Report) (d : Document) (ds : List Diagnostic) : Prop where
  errors : r.errors? = none
  document : r.document? = some d
  diagnostics : r.diagnostics? = some ds
  valid : r.isValid = true ↔ ds = []

/-- What is a mapping is taken as one. -/
theorem Graph.asMapping_of_mapping {g : Graph} {v : Value} {entries : Entries}
    (h : g.mapping? v = some entries) (place : String) :
    g.asMapping v place = .ok ⟨entries, v.container?⟩ := by
  unfold mapping? at h
  split at h
  · rename_i hshape
    rw [asMapping, hshape, Option.some.inj h]
  · cases h

namespace Checker

/-- What is no mapping is a mismatch that names the type that was found. -/
theorem asMapping_eq_error {g : Graph} {v : Value} (h : g.mapping? v = none) (place : String) :
    g.asMapping v place = .error ⟨place, "mapping", (g.shape v).typeName⟩ := by
  unfold Graph.mapping? at h
  unfold Graph.asMapping
  cases hshape : g.shape v with
  | mapping entries =>
    rw [hshape] at h
    cases h
  | scalar s => rfl
  | sequence items => rfl
  | pair first second => rfl
  | set members => rfl

theorem isRefusal_rejected [Host] (format : Format) (reason : Rejection) :
    Report.IsRefusal ⟨format, .rejected reason⟩ :=
  ⟨rfl, ⟨reason.message, rfl⟩, rfl, rfl⟩

theorem isOn_checked [Host] (format : Format) (d : Document) (ds : List Diagnostic) :
    Report.IsOn ⟨format, .checked d ds⟩ d ds :=
  ⟨rfl, rfl, rfl, List.isEmpty_iff⟩

theorem judge_of_no_mapping (c : Checker) {d : Document} (h : d.graph.mapping? d.root = none)
    (tree : Arena) :
    c.judge (.ok d) tree
      = .rejected (.noMapping ⟨"$", "mapping", (d.graph.shape d.root).typeName⟩) := by
  rw [judge, asMapping_eq_error h]

theorem judge_of_mapping (c : Checker) {d : Document} {root : Entries}
    (h : d.graph.mapping? d.root = some root) (tree : Arena) :
    c.judge (.ok d) tree = .checked d (c.presence d.graph root tree
      ++ if c.checkGrammar then c.grammar tree else []) := by
  rw [judge, Graph.asMapping_of_mapping h]

/-- A check has nothing to say if and only if nothing is missing and, where the grammar is checked,
the tree has no error. -/
theorem diagnostics_eq_nil_iff (c : Checker) (g : Graph) (root : Entries) (t : Concrete)
    (text : String) (format : Format) :
    (c.presence g root (Arena.ofConcrete t text format)
        ++ if c.checkGrammar then c.grammar (Arena.ofConcrete t text format) else []) = []
      ↔ root.IsDescribed g ∧ (c.checkGrammar = false
        ∨ ∀ n ∈ (Arena.ofConcrete t text format).nodes, n.isError = false) := by
  rw [List.append_eq_nil_iff, presence_eq_nil_iff]
  cases hcheck : c.checkGrammar with
  | false => simp
  | true =>
    rw [if_pos rfl, grammar_eq_nil_iff (Arena.wellFormed_ofConcrete t text format),
      Arena.forall_isError_iff]
    simp

end Checker

/-- **A check refuses a text or checks a document, and its verdict is exact.** Whatever decoding
came to and whatever tree the text has: if there is no document, or its top is no mapping, the text
is refused with one error. Otherwise the report is on the decoded document, which is found valid if
and only if it says of itself what is required and, where the grammar is checked, its tree has no
error. To check the grammar too adds the diagnostics of the grammar behind the others; each of them
is at an error of the tree. A check of a text reports on what decoding that text comes to. -/
theorem report_refuses_or_checks [Host] (checker : Checker) (text : String) (t : Concrete)
    (decoded : Except DecodeError Document) :
    let tree := Arena.ofConcrete t text (detectFormat text)
    let report (c : Checker) : Report := ⟨detectFormat text, c.judge decoded tree⟩
    (((∃ e, decoded = .error e) ∨ ∃ d, decoded = .ok d ∧ d.graph.mapping? d.root = none)
        ∧ (report checker).IsRefusal
      ∨ ∃ d root ds, decoded = .ok d ∧ d.graph.mapping? d.root = some root
        ∧ (report checker).IsOn d ds
        ∧ (ds = [] ↔ root.IsDescribed d.graph
            ∧ (checker.checkGrammar = false ∨ ∀ n ∈ tree.nodes, n.isError = false))
        ∧ ∃ plain,
            (report { checker with checkGrammar := false }).diagnostics? = some plain
            ∧ (report { checker with checkGrammar := true }).diagnostics?
              = some (plain ++ checker.grammar tree))
      ∧ (∀ e ∈ checker.grammar tree, ∃ n ∈ tree.nodes, n.isError = true
          ∧ e = checker.located (Checker.errorMessage n) (some n))
      ∧ checker.checkWith text tree
        = ⟨detectFormat text, checker.judge (decode text (some (detectFormat text))) tree⟩ := by
  intro tree report
  refine ⟨?_, fun e he => Checker.exists_error_of_mem_grammar he, rfl⟩
  cases decoded with
  | error e => exact .inl ⟨.inl ⟨e, rfl⟩, Checker.isRefusal_rejected _ _⟩
  | ok d =>
    cases hroot : d.graph.mapping? d.root with
    | none =>
      refine .inl ⟨.inr ⟨d, rfl, hroot⟩, ?_⟩
      simp only [report, checker.judge_of_no_mapping hroot]
      exact Checker.isRefusal_rejected _ _
    | some root =>
      refine .inr ⟨d, root, _, rfl, hroot, ?_,
        checker.diagnostics_eq_nil_iff d.graph root t text (detectFormat text),
        checker.presence d.graph root tree, ?_, ?_⟩
      · simp only [report, checker.judge_of_mapping hroot]
        exact Checker.isOn_checked _ _ _
      · simp only [report, Checker.judge_of_mapping _ hroot]
        exact congrArg some (List.append_nil _)
      · simp only [report, Checker.judge_of_mapping _ hroot]
        rfl

end OpenApi
