/-
What inspecting a document prints.

Components, paths and references are tables of texts (`Lists`), with a row for each thing that a
view of the document gives. If there are rows, they are offered to standard output in the way that
is asked for. If there are none, no table is printed but a message said, so that standard output
stays empty: as JSON this is no empty list, since it is no JSON at all (`prints_json_iff_rows`).

Which texts of a document stand in a table is told by `Shows`; everything else in its cells is
printable ASCII (`Lists.only_cells_iff`). So these texts decide whether an output in UTF-8 takes the
table. They also decide whether it is got back from plain lines, which quote nothing: that is the
case if and only if all of them can stand as fields and no line is refused
(`plain_table_survives_cutting_iff`). The verbs in the table of paths are not among them, since they
come from a fixed list.
-/
import OpenApi.Proofs.Command.Check
import OpenApi.Proofs.Command.Ending
import OpenApi.Proofs.Printer.Cutting
import OpenApi.Proofs.Printer.RoundTrip
import OpenApi.Proofs.View.PathParts

set_option autoImplicit false

namespace OpenApi.Command

/-! ## Tables -/

/-- The headers and the rows of what a document has under a topic. The topics are those that have
tables, and what is listed has been found without trouble. -/
inductive Lists [Host] (d : Document) : Topic → List String → List (List String) → Prop where
  | components {found : List Component} (h : d.components = .ok found) :
    Lists d .components componentHeaders (found.map componentRow)
  | paths {found : List PathEntry} (h : d.paths = .ok found) :
    Lists d .paths pathHeaders (found.map pathRow)
  | refs : Lists d .refs referenceHeaders (d.references.map fun r => [r])

/-- A text of a document that stands in the table of a topic, alone in a cell or beside others. -/
inductive Shows [Host] (d : Document) : Topic → String → Prop where
  | name {found : List Component} {c : Component} (h : d.components = .ok found) (hc : c ∈ found) :
    Shows d .components c.name
  | category {found : List Component} {c : Component} (h : d.components = .ok found)
    (hc : c ∈ found) : Shows d .components c.category
  | property {found : List Component} {c : Component} {p : String × Value}
    (h : d.components = .ok found) (hc : c ∈ found)
    (hp : p ∈ (c.properties.getD []).take shownProperties) : Shows d .components p.1
  | required {found : List Component} {c : Component} {name : String}
    (h : d.components = .ok found) (hc : c ∈ found) (hname : name ∈ c.required.getD []) :
    Shows d .components name
  | path {found : List PathEntry} {e : PathEntry} (h : d.paths = .ok found) (he : e ∈ found) :
    Shows d .paths e.path
  | reference {r : String} (hr : r ∈ d.references) : Shows d .refs r

section Tables

variable [Host] {d : Document} {topic : Topic} {headers : List String} {rows : List (List String)}

theorem Lists.nodup_headers (h : Lists d topic headers rows) : headers.Nodup := by
  cases h <;> decide

theorem Lists.isField_headers (h : Lists d topic headers rows) :
    ∀ header ∈ headers, IsField header := by
  cases h <;> decide +kernel

theorem Lists.headers_ne_nil (h : Lists d topic headers rows) : headers ≠ [] := by
  cases h <;> exact List.cons_ne_nil _ _

/-- A row has as many cells as there are headers. -/
theorem Lists.length_row (h : Lists d topic headers rows) :
    ∀ row ∈ rows, row.length = headers.length := by
  intro row hrow
  cases h with
  | components h =>
    obtain ⟨c, -, rfl⟩ := List.mem_map.mp hrow
    rfl
  | paths h =>
    obtain ⟨e, -, rfl⟩ := List.mem_map.mp hrow
    rfl
  | refs =>
    obtain ⟨r, -, rfl⟩ := List.mem_map.mp hrow
    rfl

theorem Lists.row_ne_nil (h : Lists d topic headers rows) : ∀ row ∈ rows, row ≠ [] := by
  intro row hrow hnil
  have hlength := h.length_row row hrow
  rw [hnil, List.length_nil] at hlength
  exact h.headers_ne_nil (List.length_eq_zero_iff.mp hlength.symm)

/-- The operations of a path that is listed have the names of verbs. -/
theorem verb_of_mem_operations {found : List PathEntry} (h : d.paths = .ok found) {e : PathEntry}
    (he : e ∈ found) {o : String × Value} (ho : o ∈ e.operations) : o.1 ∈ verbs := by
  obtain ⟨root, hroot, hrest⟩ := exists_of_bind_ok h
  obtain ⟨part, hpart, -⟩ := exists_of_bind_ok hrest
  have hlisted := Document.forall₂_paths (ok_of_checked hroot) (ok_of_checked hpart) h
  obtain ⟨held, -, -, hops⟩ := exists_of_mem_right hlisted he
  exact (operations_sublist hops).subset (List.mem_map_of_mem ho)

/-! ### What cells consist of -/

section Characters

variable {P : Char → Prop} (hP : ∀ c : Char, 0x20 ≤ c.toNat → c.toNat < 0x80 → P c)

include hP

omit [Host] in
theorem only_componentRow_iff (c : Component) :
    (∀ cell ∈ componentRow c, Text.Only P cell) ↔
      Text.Only P c.name ∧ Text.Only P c.category
        ∧ (∀ p ∈ (c.properties.getD []).take shownProperties, Text.Only P p.1)
        ∧ ∀ name ∈ c.required.getD [], Text.Only P name := by
  have hcomma : Text.Only P ", " := Text.only_of_printable hP (by decide)
  have hproperties : Text.Only P (propertyNames (c.properties.getD []))
      ↔ ∀ p ∈ (c.properties.getD []).take shownProperties, Text.Only P p.1 := by
    have hdots :
        Text.Only P (if shownProperties < (c.properties.getD []).length then "..." else "") := by
      split <;> exact Text.only_of_printable hP (by decide)
    rw [propertyNames, Text.only_append_iff, Text.only_intercalate_iff hcomma,
      and_iff_left hdots, List.forall_mem_map]
  rw [componentRow, List.forall_mem_cons, List.forall_mem_cons, List.forall_mem_cons,
    List.forall_mem_singleton, hproperties, Text.only_intercalate_iff hcomma]

theorem only_pathRow_iff {found : List PathEntry} (h : d.paths = .ok found) {e : PathEntry}
    (he : e ∈ found) : (∀ cell ∈ pathRow e, Text.Only P cell) ↔ Text.Only P e.path := by
  have hcomma : Text.Only P ", " := Text.only_of_printable hP (by decide)
  have hprintable : ∀ verb ∈ verbs,
      (Text.upper verb).toList.all (fun c => 0x20 ≤ c.toNat && c.toNat < 0x80) = true := by
    decide +kernel
  have hmethods :
      Text.Only P (String.intercalate ", " (e.operations.map fun o => Text.upper o.1)) := by
    rw [Text.only_intercalate_iff hcomma, List.forall_mem_map]
    exact fun o ho =>
      Text.only_of_printable hP (hprintable o.1 (verb_of_mem_operations h he ho))
  rw [pathRow, List.forall_mem_cons, List.forall_mem_singleton, and_iff_left hmethods]

/-- **Cells are made of the texts of the document** and of printable ASCII characters. -/
theorem Lists.only_cells_iff (h : Lists d topic headers rows) :
    (∀ row ∈ rows, ∀ cell ∈ row, Text.Only P cell)
      ↔ ∀ text, Shows d topic text → Text.Only P text := by
  cases h with
  | components h =>
    rw [List.forall_mem_map]
    simp only [only_componentRow_iff hP]
    refine ⟨fun hall text htext => ?_, fun hall c hc => ⟨hall _ (.name h hc),
      hall _ (.category h hc), fun p hp => hall _ (.property h hc hp),
      fun name hname => hall _ (.required h hc hname)⟩⟩
    -- the text names the components it was found among, which are those that are listed
    cases htext with
    | name h' hc =>
      cases h.symm.trans h'
      exact (hall _ hc).1
    | category h' hc =>
      cases h.symm.trans h'
      exact (hall _ hc).2.1
    | property h' hc hp =>
      cases h.symm.trans h'
      exact (hall _ hc).2.2.1 _ hp
    | required h' hc hname =>
      cases h.symm.trans h'
      exact (hall _ hc).2.2.2 _ hname
  | paths h =>
    rw [List.forall_mem_map]
    refine ⟨fun hall text htext => ?_, fun hall e he =>
      (only_pathRow_iff hP h he).mpr (hall _ (.path h he))⟩
    cases htext with
    | path h' he =>
      cases h.symm.trans h'
      exact (only_pathRow_iff hP h he).mp (hall _ he)
  | refs =>
    rw [List.forall_mem_map]
    simp only [List.forall_mem_singleton]
    refine ⟨fun hall text htext => ?_, fun hall r hr => hall _ (.reference hr)⟩
    cases htext with
    | reference hr => exact hall _ hr

end Characters

/-- All cells of a table can stand as fields if and only if all texts in it can. -/
theorem Lists.isField_cells_iff (h : Lists d topic headers rows) :
    (∀ row ∈ rows, ∀ cell ∈ row, IsField cell) ↔ ∀ text, Shows d topic text → IsField text := by
  simp only [isField_iff_only]
  refine h.only_cells_iff fun c hprintable _ => ⟨?_, ?_⟩
  · rintro rfl
    exact absurd hprintable (by decide)
  · rintro rfl
    exact absurd hprintable (by decide)

/-- Without styles, a table of texts that have an encoding is printed as texts that have one. -/
theorem Lists.isEncodable_output (h : Lists d topic headers rows)
    (htexts : ∀ text, Shows d topic text → Text.IsEncodable text) (rendering : Rendering) :
    ∀ text ∈ tableOutput headers rows rendering, Text.IsEncodable text := by
  have hheaders : ∀ header ∈ headers,
      header.toList.any (fun c => decide (0x80 ≤ c.toNat)) = false := by
    cases h <;> decide
  refine isEncodable_tableOutput
    (fun header hheader => Text.isEncodable_of_ascii (hheaders header hheader)) ?_ rendering
  exact (h.only_cells_iff fun c _ hascii => Text.isLoneSurrogate_of_ascii hascii).mpr htexts

/-! ## What is said -/

theorem Lists.inspectDocument (h : Lists d topic headers rows) (source : String) :
    ∃ message label,
      inspectDocument topic d source = .ok (listingOr message label headers rows) := by
  cases h with
  | components h => exact ⟨_, _, by rw [Command.inspectDocument, h]; rfl⟩
  | paths h => exact ⟨_, _, by rw [Command.inspectDocument, h]; rfl⟩
  | refs => exact ⟨_, _, rfl⟩

/-- Where nothing can be listed, the view of the document fails. -/
theorem inspectDocument_of_not_lists (htopic : topic ≠ .info)
    (h : ∀ headers rows, ¬ Lists d topic headers rows) (source : String) :
    ∃ e, inspectDocument topic d source = .error e := by
  cases topic with
  | components =>
    cases hfound : d.components with
    | ok found => exact absurd (.components hfound) (h _ _)
    | error e => exact ⟨e, by rw [inspectDocument, hfound]; rfl⟩
  | paths =>
    cases hfound : d.paths with
    | ok found => exact absurd (.paths hfound) (h _ _)
    | error e => exact ⟨e, by rw [inspectDocument, hfound]; rfl⟩
  | refs => exact absurd .refs (h _ _)
  | info => exact absurd rfl htopic

end Tables

/-- What a view fails with decides how the run ends. -/
theorem exitCode_ofViewError [Host] {g : Graph} {keepers : List Keeper} {e : ViewError}
    (h : e.HasCause g keepers) : (Conduct.ofViewError e).exitCode = ExitCode.document
      ∨ (Conduct.ofViewError e).exitCode = ExitCode.generic ∧ ¬ (g.IsPlain ∧ g.IsShallow) := by
  have hplain (hother : ∀ m, e ≠ .mismatch m) : ¬ (g.IsPlain ∧ g.IsShallow) := by
    rintro ⟨hplain, hshallow⟩
    obtain ⟨m, rfl⟩ := h.isMismatch hplain hshallow
    exact hother m rfl
  cases e with
  | mismatch m => exact .inl rfl
  | invalid record problems => exact .inr ⟨rfl, hplain nofun⟩
  | unwritable e => exact .inr ⟨rfl, hplain nofun⟩

theorem isMessage_ofViewError [Host] (e : ViewError) :
    ∀ u ∈ (Conduct.ofViewError e).utterances, u.IsMessage := by
  cases e <;> exact isMessage_ofTrouble _

/-! ## Runs -/

section Runs

variable [Host] {w : World} {args : List String} {options : GeneralOptions} {topic : Topic}
  {source : String} {d : Document} {headers : List String} {rows : List (List String)}
  (hargs : Invocation.parse args = .run options (.inspect topic source))
  (hread : readDocument w source = .ok d)

include hargs hread

theorem run_of_lists (h : Lists d topic headers rows) :
    ∃ message label, run w args = conclude (options.printer w)
      { utterances := [listingOr message label headers rows], exitCode := ExitCode.success } := by
  obtain ⟨message, label, hsaid⟩ := h.inspectDocument source
  refine ⟨message, label, ?_⟩
  rw [run_inspect hargs, inspectSource_said hread hsaid]

/-- A table without rows is not printed. -/
theorem run_of_lists_nil (hstyles : (options.printer w).rendering ≠ .styled)
    (h : Lists d topic headers []) :
    (run w args).exitCode = ExitCode.success ∧ (run w args).printed.out = "" := by
  obtain ⟨message, label, hrun⟩ := run_of_lists hargs hread h
  rw [hrun]
  exact (conclude_messages (Printer.marksMessages_eq_false hstyles)
    (List.forall_mem_singleton.mpr trivial)).of_nil

/-- A table with rows is offered to standard output, and nothing else is. -/
theorem run_of_lists_rows (hstyles : (options.printer w).rendering ≠ .styled)
    (h : Lists d topic headers rows) (hne : rows ≠ []) :
    (run w args).Offers (options.printer w)
      (tableOutput headers rows (options.printer w).rendering) ExitCode.success := by
  obtain ⟨message, label, hrun⟩ := run_of_lists hargs hread h
  have hnone : ∀ u ∈ ([] : List Utterance), u.IsMessage := List.forall_mem_nil _
  rw [hrun, listingOr, if_neg (mt List.isEmpty_iff.mp hne)]
  refine conclude_around (Printer.marksMessages_eq_false hstyles) hnone hnone rfl ?_
  rw [Printer.print, Printer.listing_texts hstyles h.nodup_headers]

/-- Where nothing can be listed, there is only a message, and the run fails. -/
theorem run_of_not_lists (hstyles : (options.printer w).rendering ≠ .styled)
    (htopic : topic ≠ .info) (h : ∀ headers rows, ¬ Lists d topic headers rows) :
    (run w args).printed.out = ""
      ∧ ((run w args).exitCode = ExitCode.document
        ∨ (run w args).exitCode = ExitCode.generic
          ∧ ¬ (d.graph.IsPlain ∧ d.graph.IsShallow)) := by
  obtain ⟨e, he⟩ := inspectDocument_of_not_lists htopic h source
  have hrun : run w args = conclude (options.printer w) (.ofViewError e) := by
    rw [run_inspect hargs, inspectSource_failed hread he]
  obtain ⟨hcode, hout⟩ := (conclude_messages (Printer.marksMessages_eq_false hstyles)
    (isMessage_ofViewError e)).of_nil
  rw [hrun, hcode]
  exact ⟨hout, exitCode_ofViewError (failsWith_inspectDocument topic d source e he)⟩

/-- Whether there is a table without rows or none at all, standard output stays empty. -/
theorem out_of_no_rows (hstyles : (options.printer w).rendering ≠ .styled)
    (htopic : topic ≠ .info) (h : ¬ ∃ headers rows, Lists d topic headers rows ∧ rows ≠ []) :
    (run w args).printed.out = "" := by
  by_cases hany : ∃ headers rows, Lists d topic headers rows
  · obtain ⟨headers, rows, hlists⟩ := hany
    have hrows : rows = [] := by
      by_contra hne
      exact h ⟨headers, rows, hlists, hne⟩
    subst hrows
    exact (run_of_lists_nil hargs hread hstyles hlists).2
  · have hnone (headers : List String) (rows : List (List String)) :
        ¬ Lists d topic headers rows := fun hlists => hany ⟨headers, rows, hlists⟩
    exact (run_of_not_lists hargs hread hstyles htopic hnone).1

/-- As JSON, a table with rows is one text, which standard output takes or refuses. -/
theorem run_of_rows_json (hjson : (options.printer w).rendering = .json)
    (h : Lists d topic headers rows) (hne : rows ≠ []) :
    (w.refusal (tableText headers rows) = none → (run w args).exitCode = ExitCode.success
        ∧ (run w args).printed.out = tableText headers rows)
      ∧ (w.refusal (tableText headers rows) ≠ none → (run w args).exitCode = ExitCode.generic
        ∧ (run w args).printed.out = "") := by
  have hstyles : (options.printer w).rendering ≠ .styled := by
    rw [hjson]
    decide
  have hoffers := run_of_lists_rows hargs hread hstyles h hne
  rw [hjson] at hoffers
  exact hoffers.of_singleton

end Runs

/-! ## JSON -/

/-- Standard output that is left empty is no JSON text. -/
theorem decode_empty [Host] (v : Json.Value) : Json.decode "" ≠ .ok v := by
  have hempty : Json.decode "" = .error (.malformed .value 1 1 0) := by cbv
  intro h
  rw [hempty] at h
  cases h

/-- **A topic with a table is printed as JSON if and only if there is something to list** and
standard output takes it. What it is offered then is one JSON text, a list of records with the cells
of each row under the headers; this has an encoding if all texts of the document that stand in the
table have one. If the text is refused, nothing is printed and the run fails. If there is nothing to
list, the run ends well, but standard output stays empty, so that there is no JSON text at all. And
if the view of the document fails, it stays empty and the run fails: as a document of the wrong
shape, unless the document is not plain or not shallow. -/
theorem prints_json_iff_rows [Host] {w : World} {args : List String} {options : GeneralOptions}
    {topic : Topic} {source : String} {d : Document}
    (hargs : Invocation.parse args = .run options (.inspect topic source))
    (hread : readDocument w source = .ok d) (htopic : topic ≠ .info)
    (hjson : (options.printer w).rendering = .json) :
    (∀ headers rows, Lists d topic headers rows →
        Json.decode (tableText headers rows) = .ok (tableJson headers rows)
          ∧ ((∀ text, Shows d topic text → Text.IsEncodable text) →
            Text.IsEncodable (tableText headers rows))
          ∧ (rows ≠ [] →
            (w.refusal (tableText headers rows) = none → (run w args).exitCode = ExitCode.success
                ∧ (run w args).printed.out = tableText headers rows)
              ∧ (w.refusal (tableText headers rows) ≠ none →
                (run w args).exitCode = ExitCode.generic ∧ (run w args).printed.out = ""))
          ∧ (rows = [] →
            (run w args).exitCode = ExitCode.success ∧ (run w args).printed.out = ""))
      ∧ ((∀ headers rows, ¬ Lists d topic headers rows) →
          (run w args).printed.out = ""
            ∧ ((run w args).exitCode = ExitCode.document
              ∨ (run w args).exitCode = ExitCode.generic
                ∧ ¬ (d.graph.IsPlain ∧ d.graph.IsShallow)))
      ∧ ((∃ v, Json.decode (run w args).printed.out = .ok v)
        ↔ ∃ headers rows, Lists d topic headers rows ∧ rows ≠ []
          ∧ w.refusal (tableText headers rows) = none) := by
  have hstyles : (options.printer w).rendering ≠ .styled := by
    rw [hjson]
    decide
  refine ⟨fun headers rows h => ?_, run_of_not_lists hargs hread hstyles htopic,
    ⟨fun ⟨v, hv⟩ => ?_, fun ⟨headers, rows, h, hne, htaken⟩ => ?_⟩⟩
  · refine ⟨decode_tableText h.nodup_headers, fun htexts => ?_, ?_, ?_⟩
    · exact h.isEncodable_output htexts .json _ (List.mem_singleton_self _)
    · exact run_of_rows_json hargs hread hjson h
    · rintro rfl
      exact run_of_lists_nil hargs hread hstyles h
  · -- Standard output is empty whenever no list was taken, and the empty text is no JSON text.
    by_contra hno
    have hempty : (run w args).printed.out = "" := by
      by_cases hlists : ∃ headers rows, Lists d topic headers rows ∧ rows ≠ []
      · obtain ⟨headers, rows, h, hne⟩ := hlists
        refine ((run_of_rows_json hargs hread hjson h hne).2 fun htaken => ?_).2
        exact hno ⟨headers, rows, h, hne, htaken⟩
      · exact out_of_no_rows hargs hread hstyles htopic hlists
    rw [hempty] at hv
    exact decode_empty v hv
  · rw [((run_of_rows_json hargs hread hjson h hne).1 htaken).2]
    exact ⟨_, decode_tableText h.nodup_headers⟩

/-- A document with a path that has a tab in its name, and without references. -/
def tabbedText : String := "\x7b\"paths\":\x7b\"/a\\tb\":\x7b\"get\":\x7b\x7d\x7d\x7d\x7d"

def tabbedWorld : World := { wideWorld with input := Text.bytes tabbedText }

def tabbedDocument : Document :=
  .ofJson (.object [("paths", .object [("/a\tb", .object [("get", .object [])])])])

theorem readDocument_tabbedWorld : readDocument tabbedWorld "-" = .ok tabbedDocument := by
  have hinput : tabbedWorld.inputText = .ok tabbedText := by cbv
  have hblank : Text.isAllBlank tabbedText = false := by cbv
  have hsource : readSource tabbedWorld "-" = .ok tabbedText := by
    rw [readSource, if_pos rfl, readInput, hinput]
    simp only [hblank, Bool.false_eq_true, if_false]
  have hformat : detectFormat tabbedText = .json := by cbv
  have hjson : Json.decode tabbedText = .ok
      (.object [("paths", .object [("/a\tb", .object [("get", .object [])])])]) := by
    cbv
  have hdecode : decode tabbedText none = .ok tabbedDocument := by
    rw [decode, Option.getD_none, hformat, hjson]
    rfl
  rw [readDocument, hsource]
  simp only [hdecode]

theorem paths_tabbedDocument :
    tabbedDocument.paths = .ok [⟨"/a\tb", [("get", .container 3)]⟩] := by
  decide +kernel

theorem references_tabbedDocument : tabbedDocument.references = [] := by cbv

theorem lists_tabbedDocument :
    Lists tabbedDocument .paths pathHeaders [["/a\tb", "GET"]]
      ∧ Lists tabbedDocument .refs referenceHeaders [] := by
  constructor
  · have hrows : [⟨"/a\tb", [("get", .container 3)]⟩].map pathRow = [["/a\tb", "GET"]] := by
      decide +kernel
    rw [← hrows]
    exact .paths paths_tabbedDocument
  · have h : Lists tabbedDocument .refs referenceHeaders
        (tabbedDocument.references.map fun r => [r]) := .refs
    rwa [references_tabbedDocument] at h

/-- Of the same document, the paths are a JSON text and the references are none. -/
theorem prints_json_iff_rows_tabbedText :
    readDocument tabbedWorld "-" = .ok tabbedDocument
      ∧ Json.decode (run tabbedWorld ["--json", "inspect", "paths", "-"]).printed.out
        = .ok (.array [.object [("Path", .str "/a\tb"), ("Methods", .str "GET")]])
      ∧ Lists tabbedDocument .refs referenceHeaders []
      ∧ (run tabbedWorld ["--json", "inspect", "refs", "-"]).exitCode = ExitCode.success
      ∧ (run tabbedWorld ["--json", "inspect", "refs", "-"]).printed.out = ""
      ∧ ∀ v, Json.decode (run tabbedWorld ["--json", "inspect", "refs", "-"]).printed.out
        ≠ .ok v := by
  have hpaths : Invocation.parse ["--json", "inspect", "paths", "-"]
      = .run { json := true } (.inspect .paths "-") := by
    cbv
  have hrefs : Invocation.parse ["--json", "inspect", "refs", "-"]
      = .run { json := true } (.inspect .refs "-") := by
    cbv
  have hread := readDocument_tabbedWorld
  obtain ⟨hlisted, hempty⟩ := lists_tabbedDocument
  obtain ⟨hrows, -⟩ := prints_json_iff_rows hpaths hread (by decide) rfl
  obtain ⟨hnone, -, hiff⟩ := prints_json_iff_rows hrefs hread (by decide) rfl
  obtain ⟨hdecode, -, hprinted, -⟩ := hrows _ _ hlisted
  have htaken : tabbedWorld.refusal (tableText pathHeaders [["/a\tb", "GET"]]) = none := by
    decide +kernel
  obtain ⟨-, hout⟩ := (hprinted (List.cons_ne_nil _ _)).1 htaken
  obtain ⟨-, -, -, hsilent⟩ := hnone _ _ hempty
  obtain ⟨hcode, hblank⟩ := hsilent rfl
  refine ⟨hread, by rw [hout]; exact hdecode, hempty, hcode, hblank, fun v hv => ?_⟩
  obtain ⟨headers, rows, h, hne, -⟩ := hiff.mp ⟨v, hv⟩
  cases h
  exact hne (by rw [references_tabbedDocument]; rfl)

/-! ## Plain lines -/

/-- Lines of which standard output takes those up to the first that it refuses can be cut into all
the rows if and only if all cells can stand as fields and no line is refused. -/
theorem cut_taken_iff {p : Printer} {rows : List (List String)} (hne : ∀ row ∈ rows, row ≠ []) :
    cut (p.taken (rows.map Listing.plainLine)) = rows
      ↔ (∀ row ∈ rows, ∀ cell ∈ row, IsField cell)
        ∧ ∀ row ∈ rows, p.refusal (Listing.plainLine row) = none := by
  have hlines : p.taken (rows.map Listing.plainLine) = String.join ((rows.takeWhile fun row =>
      (p.refusal (Listing.plainLine row)).isNone).map Listing.plainLine) := by
    rw [Printer.taken, List.takeWhile_map]
    rfl
  constructor
  · intro hcut
    have hcells : ∀ row ∈ rows, ∀ cell ∈ row, IsField cell := fun row hrow cell hcell =>
      isField_of_mem_cut (hcut ▸ hrow) hcell
    refine ⟨hcells, fun row hrow => ?_⟩
    -- the lines that were taken cut into their rows, so these are all rows
    have hsub : (rows.takeWhile fun row => (p.refusal (Listing.plainLine row)).isNone) ⊆ rows :=
      (List.takeWhile_sublist _).subset
    rw [hlines, (Listing.cut_plainLines fun row hrow => hne row (hsub hrow)).mpr
      fun row hrow => hcells row (hsub hrow)] at hcut
    exact Option.isNone_iff_eq_none.mp (List.takeWhile_eq_self_iff.mp hcut row hrow)
  · rintro ⟨hcells, htaken⟩
    rw [Printer.taken_eq_join (List.forall_mem_map.mpr htaken)]
    exact (Listing.cut_plainLines hne).mpr hcells

/-- **A plain table survives cutting if and only if none of its texts has a tab or a line feed** and
standard output takes all its lines. Where there is something to list, standard output is offered a
line of headers and a line for each row, whose cells are as many as the headers; they have an
encoding if all texts of the document that stand in the table have one. The run ends well if all are
taken, and fails if one is refused. Cutting what is printed gives the headers and the cells of the
rows exactly if all texts of the document that stand in the table can stand as fields, and all lines
are taken. Where there is nothing to list, nothing is printed. -/
theorem plain_table_survives_cutting_iff [Host] {w : World} {args : List String}
    {options : GeneralOptions} {topic : Topic} {source : String} {d : Document}
    {headers : List String} {rows : List (List String)}
    (hargs : Invocation.parse args = .run options (.inspect topic source))
    (hread : readDocument w source = .ok d) (hplain : (options.printer w).rendering = .plain)
    (h : Lists d topic headers rows) :
    (rows = [] → (run w args).exitCode = ExitCode.success ∧ (run w args).printed.out = "")
      ∧ (rows ≠ [] →
        (∀ row ∈ rows, row.length = headers.length)
          ∧ (run w args).Offers (options.printer w) ((headers :: rows).map Listing.plainLine)
            ExitCode.success
          ∧ ((∀ text, Shows d topic text → Text.IsEncodable text) →
            ∀ row ∈ headers :: rows, Text.IsEncodable (Listing.plainLine row))
          ∧ (cut (run w args).printed.out = headers :: rows
            ↔ (∀ text, Shows d topic text → IsField text)
              ∧ ∀ row ∈ headers :: rows, w.refusal (Listing.plainLine row) = none)) := by
  have hstyles : (options.printer w).rendering ≠ .styled := by
    rw [hplain]
    decide
  refine ⟨?_, fun hrows => ?_⟩
  · rintro rfl
    exact run_of_lists_nil hargs hread hstyles h
  · have hcells : ∀ row ∈ headers :: rows, row ≠ [] :=
      List.forall_mem_cons.mpr ⟨h.headers_ne_nil, h.row_ne_nil⟩
    have hoffers := run_of_lists_rows hargs hread hstyles h hrows
    rw [hplain] at hoffers
    refine ⟨h.length_row, hoffers, fun htexts => ?_, ?_⟩
    · exact List.forall_mem_map.mp (h.isEncodable_output htexts .plain)
    · have hcut := @cut_taken_iff (options.printer w) (headers :: rows) hcells
      rw [List.forall_mem_cons, and_iff_right h.isField_headers, h.isField_cells_iff] at hcut
      rw [hoffers.out]
      exact hcut

/-- The tab in the name of the path makes a field too many. -/
theorem plain_table_survives_cutting_iff_tabbedText :
    Invocation.parse ["--plain", "inspect", "paths", "-"]
        = .run { plain := true } (.inspect .paths "-")
      ∧ readDocument tabbedWorld "-" = .ok tabbedDocument
      ∧ Lists tabbedDocument .paths pathHeaders [["/a\tb", "GET"]]
      ∧ Shows tabbedDocument .paths "/a\tb" ∧ ¬ IsField "/a\tb"
      ∧ (run tabbedWorld ["--plain", "inspect", "paths", "-"]).exitCode = ExitCode.success
      ∧ (run tabbedWorld ["--plain", "inspect", "paths", "-"]).printed.out
        = "Path\tMethods\n/a\tb\tGET\n"
      ∧ cut (run tabbedWorld ["--plain", "inspect", "paths", "-"]).printed.out
        ≠ [pathHeaders, ["/a\tb", "GET"]] := by
  have hargs : Invocation.parse ["--plain", "inspect", "paths", "-"]
      = .run { plain := true } (.inspect .paths "-") := by
    cbv
  have hread := readDocument_tabbedWorld
  have hlists := lists_tabbedDocument.1
  have hshows : Shows tabbedDocument .paths "/a\tb" :=
    .path paths_tabbedDocument List.mem_cons_self
  have hfield : ¬ IsField "/a\tb" := by decide
  obtain ⟨-, hprinted⟩ := plain_table_survives_cutting_iff hargs hread rfl hlists
  obtain ⟨-, hoffers, -, hcut⟩ := hprinted (List.cons_ne_nil _ _)
  have htaken : ∀ text ∈ (pathHeaders :: [["/a\tb", "GET"]]).map Listing.plainLine,
      (GeneralOptions.printer { plain := true } tabbedWorld).refusal text = none := by
    decide +kernel
  have htext : String.join ((pathHeaders :: [["/a\tb", "GET"]]).map Listing.plainLine)
      = "Path\tMethods\n/a\tb\tGET\n" := by
    decide +kernel
  exact ⟨hargs, hread, hlists, hshows, hfield, hoffers.taken htaken,
    (hoffers.out.trans (Printer.taken_eq_join htaken)).trans htext,
    fun h => hfield ((hcut.mp h).1 _ hshows)⟩

end OpenApi.Command
