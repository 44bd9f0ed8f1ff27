/-
What is printed as JSON is the data.

A result is made into one value, whose text is offered to standard output; whoever reads that text
as JSON gets the value back (`decode_write`), and with it the cells, the places or the fields it was
made from. An output in UTF-8 takes the text if the texts of the value have an encoding
(`isEncodable_write`). So what is left to say here is what the value is, and that it is one that is
read back as it is. A row turns into a record by putting its cells in one after another, each under
its header; the headers are distinct, so no cell takes the place of another (`record_eq_zip`).
-/
import OpenApi.Printer
import OpenApi.Proofs.Json.Encodable
import OpenApi.Proofs.Printer.Cutting
import OpenApi.Proofs.Printer.Output

set_option autoImplicit false

namespace OpenApi

/-- What is printed of something is one JSON text with this value, and nothing is said beside it.
The text has an encoding if all texts of the value have one. -/
def Printer.PrintsJson [Host] (p : Printer) (u : Utterance) (v : Json.Value) : Prop :=
  ∃ text, p.print u = onOutput (p.offer text) ∧ Json.decode text = .ok v
    ∧ ((v.TextsIn fun c => Text.isLoneSurrogate c = false) → Text.encodeProblem? text = none)

/-- Data that a cell or a field holds: a text, an integer of at most four thousand digits, nothing,
or a list of texts. -/
inductive IsDatum : Json.Value → Prop where
  | null : IsDatum .null
  | text (s : String) : IsDatum (.str s)
  | number {n : Int} (h : n.natAbs < 10 ^ 4000) : IsDatum (.int n)
  | texts (names : List String) : IsDatum (.array (names.map .str))

/-! ## Data -/

theorem isWritable_of_le {n : Int} (h : n.natAbs ≤ 10 ^ 4000) : Decimal.isWritable n = true := by
  -- for any number of digits, so that the bounds need not be computed
  have hbelow (digits : Nat) (hdigits : digits < Decimal.digitLimit) :
      10 ^ digits < Decimal.leastUnwritable := by
    rw [Decimal.leastUnwritable_eq]
    exact Nat.pow_lt_pow_right (by decide) hdigits
  exact decide_eq_true (Nat.lt_of_le_of_lt h (hbelow 4000 (by decide)))

theorem IsDatum.isKept {v : Json.Value} (h : IsDatum v) {room : Nat} (hroom : 0 < room) :
    v.IsKept room := by
  cases h with
  | null => trivial
  | text s => trivial
  | number hn => exact isWritable_of_le (Nat.le_of_lt hn)
  | texts names =>
    refine ⟨hroom, Json.areKept_iff.mpr fun v hv => ?_⟩
    obtain ⟨name, -, rfl⟩ := List.mem_map.mp hv
    trivial

/-- A position below the bound is shown as an integer that can be written. -/
theorem isKept_shownPosition {position : Option Int} {room : Nat}
    (h : ∀ n, position = some n → n.natAbs < 10 ^ 4000) : (shownPosition position).IsKept room := by
  cases position with
  | none => trivial
  | some n =>
    have hn := h n rfl
    exact isWritable_of_le (n := n + 1) (by omega)

theorem Diagnostic.isKept_json {d : Diagnostic}
    (hline : ∀ n, d.line = some n → n.natAbs < 10 ^ 4000)
    (hcolumn : ∀ n, d.column = some n → n.natAbs < 10 ^ 4000) {room : Nat} (hroom : 0 < room) :
    d.json.IsKept room := by
  have hnames : ["severity", "line", "column", "message", "source"].Nodup := by decide
  have hsource : (d.source.elim .null .str : Json.Value).IsKept (room - 1) := by
    cases d.source <;> trivial
  exact ⟨hroom, hnames, trivial, isKept_shownPosition hline, isKept_shownPosition hcolumn,
    trivial, hsource, trivial⟩

/-! ## Records -/

theorem names_zip_sublist {β : Type} (headers : List String) (row : List β) :
    ((headers.zip row).map Prod.fst).Sublist headers := by
  induction headers generalizing row with
  | nil => exact List.Sublist.refl _
  | cons header headers ih =>
    cases row with
    | nil => exact List.nil_sublist _
    | cons cell row => exact (ih row).cons_cons header

/-- **A row is a record of its cells**, each under its header. -/
theorem Listing.record_eq_zip {headers : List String} (h : headers.Nodup) (row : List Json.Value) :
    Listing.record headers row = headers.zip row := by
  have hnames : (([] ++ headers.zip row).map Prod.fst).Nodup := h.sublist (names_zip_sublist _ _)
  exact Json.Fields.foldl_insert_of_nodup hnames

theorem Listing.isKept_json [Host] {l : Listing} (h : l.headers.Nodup)
    (hrows : ∀ row ∈ l.rows, ∀ v ∈ row, IsDatum v) : l.json.IsKept Host.brackets := by
  have hroom := Host.brackets_room
  refine ⟨by omega, Json.areKept_iff.mpr fun v hv => ?_⟩
  obtain ⟨row, hrow, rfl⟩ := List.mem_map.mp hv
  rw [Listing.record_eq_zip h]
  refine ⟨by omega, h.sublist (names_zip_sublist _ _), Json.haveKept_iff.mpr fun f hf => ?_⟩
  exact (hrows row hrow f.2 (List.of_mem_zip hf).2).isKept (by omega)

theorem Listing.json_eq {l : Listing} (h : l.headers.Nodup) :
    l.json = .array (l.rows.map fun row => .object (l.headers.zip row)) :=
  congrArg Json.Value.array (List.map_congr_left fun row _ =>
    congrArg Json.Value.object (Listing.record_eq_zip h row))

/-! ## Printing -/

namespace Printer

section Host

variable [Host] {p : Printer}

/-- An output in UTF-8 takes a JSON text if all texts of its value have an encoding. -/
theorem PrintsJson.taken {u : Utterance} {v : Json.Value} (h : p.PrintsJson u v)
    (hutf8 : p.refusal = encodingAccident?)
    (hv : v.TextsIn fun c => Text.isLoneSurrogate c = false) :
    ∃ text, p.print u = (⟨text, ""⟩, none) ∧ Json.decode text = .ok v := by
  obtain ⟨text, hprint, hdecode, hencodable⟩ := h
  refine ⟨text, ?_, hdecode⟩
  rw [hprint, offer, hutf8, encodingAccident?, hencodable hv]
  rfl

omit [Host] in
/-- A value that can be written is offered to standard output. -/
theorem json_eq_offer {v : Json.Value} (hv : v.isWritable = true) :
    p.json v = p.offer (Json.write v ++ "\n") := by
  rw [json, Json.writeWithin, if_pos hv]

/-- A value that is kept can be read from the text that is offered. -/
theorem printsJson_of_kept {u : Utterance} {v : Json.Value}
    (hprint : p.print u = onOutput (p.json v)) (hv : v.IsKept Host.brackets) :
    p.PrintsJson u v := by
  refine ⟨Json.write v ++ "\n", ?_, Json.decode_write hv,
    fun h => Text.encodeProblem?_eq_none_iff.mpr (Json.isEncodable_write h)⟩
  rw [hprint, json_eq_offer hv.isWritable]

theorem printsJson_listing (hp : p.rendering = .json) {l : Listing} (h : l.headers.Nodup)
    (hrows : ∀ row ∈ l.rows, ∀ v ∈ row, IsDatum v) :
    p.PrintsJson (.listing l) (.array (l.rows.map fun row => .object (l.headers.zip row))) := by
  rw [← Listing.json_eq h]
  refine printsJson_of_kept ?_ (Listing.isKept_json h hrows)
  rw [print, listing, hp]

theorem printsJson_diagnostics (hp : p.rendering = .json) (source : String)
    {ds : List Diagnostic}
    (hds : ∀ d ∈ ds, (∀ n, d.line = some n → n.natAbs < 10 ^ 4000)
      ∧ ∀ n, d.column = some n → n.natAbs < 10 ^ 4000) :
    p.PrintsJson (.diagnostics source ds) (.array (ds.map Diagnostic.json)) := by
  have hroom := Host.brackets_room
  refine printsJson_of_kept ?_ ⟨by omega, Json.areKept_iff.mpr fun v hv => ?_⟩
  · rw [print, diagnostics, hp]
  · obtain ⟨d, hd, rfl⟩ := List.mem_map.mp hv
    exact Diagnostic.isKept_json (hds d hd).1 (hds d hd).2 (by omega)

theorem printsJson_record (hp : p.rendering = .json) {fields : Json.Fields}
    (hnames : (fields.map Prod.fst).Nodup) (hfields : ∀ f ∈ fields, IsDatum f.2)
    (title : Option String) : p.PrintsJson (.record fields title) (.object fields) := by
  have hroom := Host.brackets_room
  refine printsJson_of_kept ?_ ⟨by omega, hnames, Json.haveKept_iff.mpr fun f hf => ?_⟩
  · rw [print, record, hp]
  · exact (hfields f hf).isKept (by omega)

/-- **What is printed as JSON decodes to the data.** One text is offered to standard output, and
decodes to a value: of a table with distinct headers, the rows as
records of their cells under their headers, in order; of diagnostics, for each its severity, its
line and column counted from one or null, its message and its origin or null; of a record, itself.
Cells and fields may be texts of any characters, integers of up to four thousand digits, null or
lists of texts. The text has an encoding if all texts of the value have one. -/
theorem printed_json_decodes_to_data (hp : p.rendering = .json) :
    (∀ l : Listing, l.headers.Nodup → (∀ row ∈ l.rows, ∀ v ∈ row, IsDatum v) →
        p.PrintsJson (.listing l) (.array (l.rows.map fun row => .object (l.headers.zip row))))
      ∧ (∀ source (ds : List Diagnostic),
          (∀ d ∈ ds, (∀ n, d.line = some n → n.natAbs < 10 ^ 4000)
            ∧ ∀ n, d.column = some n → n.natAbs < 10 ^ 4000) →
          p.PrintsJson (.diagnostics source ds) (.array (ds.map fun d => .object
            [("severity", .str d.severity.name),
              ("line", d.line.elim .null fun n => .int (n + 1)),
              ("column", d.column.elim .null fun n => .int (n + 1)),
              ("message", .str d.message),
              ("source", d.source.elim .null .str)])))
      ∧ ∀ (fields : Json.Fields) title, (fields.map Prod.fst).Nodup →
          (∀ f ∈ fields, IsDatum f.2) → p.PrintsJson (.record fields title) (.object fields) := by
  refine ⟨fun l => printsJson_listing hp, fun source ds hds => ?_,
    fun fields title hnames hfields => printsJson_record hp hnames hfields title⟩
  have hposition (position : Option Int) :
      (position.elim .null fun n => .int (n + 1)) = shownPosition position := by
    cases position <;> rfl
  simp only [hposition]
  exact printsJson_diagnostics hp source hds

end Host

/-- A printer of JSON on an output in UTF-8. -/
def jsonPrinter : Printer where
  rendering := .json
  colourless := true
  quiet := false
  verbose := false
  lineWidth := standardWidth
  screen := { width := standardWidth, styles := false, colours := false, depth := .sixteen }
  refusal := encodingAccident?

/-- A text of characters that are escaped, and of some that look as if they should be. -/
def escapedText : String := "\"\\\x00\x08\t\n\x0c\r\x1f /\x7fü😀"

theorem printed_json_decodes_to_data_escapedText :
    jsonPrinter.rendering = .json
      ∧ jsonPrinter.PrintsJson
        (.listing {
          headers := ["", escapedText]
          rows := [[.str escapedText, .int (-5)], [.null, .array []],
            [.str "", .array [.str "", .str escapedText]]] })
        (.array [.object [("", .str escapedText), (escapedText, .int (-5))],
          .object [("", .null), (escapedText, .array [])],
          .object [("", .str ""), (escapedText, .array [.str "", .str escapedText])]])
      ∧ jsonPrinter.PrintsJson
          (.diagnostics "a.yaml" [{ message := escapedText, severity := .info, line := some 0 }])
          (.array [.object [("severity", .str "info"), ("line", .int 1), ("column", .null),
            ("message", .str escapedText), ("source", .null)]])
      ∧ jsonPrinter.PrintsJson (.record [("title", .str escapedText)] none)
          (.object [("title", .str escapedText)])
      ∧ ∃ text, jsonPrinter.print (.record [("title", .str escapedText)] none)
          = (⟨text, ""⟩, none)
        ∧ Json.decode text = .ok (.object [("title", .str escapedText)]) := by
  have hbound (digits : Nat) (h : digits ≠ 0) : 10 ≤ 10 ^ digits := Nat.le_self_pow h 10
  have hsmall (n : Int) (h : n.natAbs < 10) : n.natAbs < 10 ^ 4000 :=
    Nat.lt_of_lt_of_le h (hbound 4000 (by decide))
  obtain ⟨hlisting, hdiagnostics, hrecord⟩ := @printed_json_decodes_to_data _ jsonPrinter rfl
  have htitle := hrecord [("title", .str escapedText)] none (by decide)
    (List.forall_mem_singleton.mpr (.text _))
  have hnone {text : String} (h : text.toList.any Text.isLoneSurrogate = false) :
      ∀ c ∈ text.toList, Text.isLoneSurrogate c = false :=
    fun c hc => Bool.eq_false_iff.mpr (List.any_eq_false.mp h c hc)
  refine ⟨rfl, hlisting _ (by decide) ?_, hdiagnostics _ _ ?_, htitle, htitle.taken rfl ?_⟩
  · intro row hrow v hv
    simp only [List.mem_cons, List.not_mem_nil, or_false] at hrow
    rcases hrow with rfl | rfl | rfl <;>
      simp only [List.mem_cons, List.not_mem_nil, or_false] at hv <;>
      rcases hv with rfl | rfl
    · exact .text _
    · exact .number (hsmall _ (by decide))
    · exact .null
    · exact .texts []
    · exact .text _
    · exact .texts ["", escapedText]
  · refine List.forall_mem_singleton.mpr ⟨?_, nofun⟩
    rintro _ ⟨⟩
    exact hsmall 0 (by decide)
  · exact ⟨hnone (by decide +kernel), hnone (by decide +kernel), trivial⟩

end Printer

/-! ## Tables of texts -/

/-- The rows of a table of texts as records. -/
def tableJson (headers : List String) (rows : List (List String)) : Json.Value :=
  .array (rows.map fun row => .object (headers.zip (row.map .str)))

/-- The text that a table of texts is printed as in JSON. -/
def tableText (headers : List String) (rows : List (List String)) : String :=
  Json.write (tableJson headers rows) ++ "\n"

/-- The texts that a table of texts is printed as without styles: one of JSON, or a line for the
headers and a line for each row. -/
def tableOutput (headers : List String) (rows : List (List String)) : Rendering → List String
  | .json => [tableText headers rows]
  | _ => (headers :: rows).map Listing.plainLine

section Tables

variable [Host] {headers : List String} {rows : List (List String)}

omit [Host] in
theorem json_of_texts (h : headers.Nodup) (title : Option String) :
    (Listing.mk headers (rows.map fun row => row.map .str) title).json
      = tableJson headers rows := by
  rw [Listing.json_eq h, tableJson, List.map_map]
  rfl

theorem isKept_tableJson (h : headers.Nodup) : (tableJson headers rows).IsKept Host.brackets := by
  rw [← json_of_texts h none]
  refine Listing.isKept_json h fun row hrow v hv => ?_
  obtain ⟨texts, -, rfl⟩ := List.mem_map.mp hrow
  obtain ⟨text, -, rfl⟩ := List.mem_map.mp hv
  exact .text text

/-- The table is got back from the text. -/
theorem decode_tableText (h : headers.Nodup) :
    Json.decode (tableText headers rows) = .ok (tableJson headers rows) :=
  Json.decode_write (isKept_tableJson h)

/-- A table of texts that have an encoding is printed as texts that have one. -/
theorem isEncodable_tableOutput (hheaders : ∀ header ∈ headers, Text.IsEncodable header)
    (hrows : ∀ row ∈ rows, ∀ cell ∈ row, Text.IsEncodable cell) (rendering : Rendering) :
    ∀ text ∈ tableOutput headers rows rendering, Text.IsEncodable text := by
  have hlines : ∀ text ∈ (headers :: rows).map Listing.plainLine, Text.IsEncodable text := by
    refine List.forall_mem_map.mpr fun row hrow => ?_
    exact Listing.isEncodable_plainLine (List.forall_mem_cons.mpr ⟨hheaders, hrows⟩ row hrow)
  cases rendering with
  | json =>
    refine List.forall_mem_singleton.mpr (Json.isEncodable_write ?_)
    refine Json.allTextsIn_iff.mpr (List.forall_mem_map.mpr fun row hrow => ?_)
    refine Json.fieldsIn_iff.mpr fun f hf => ?_
    obtain ⟨hheader, hcell⟩ := List.of_mem_zip hf
    obtain ⟨cell, hmem, hvalue⟩ := List.mem_map.mp hcell
    refine ⟨hheaders _ hheader, ?_⟩
    rw [← hvalue]
    exact hrows row hrow cell hmem
  | plain => exact hlines
  | styled => exact hlines

/-- **A table of texts is offered to standard output**, as one text or line by line. -/
theorem Printer.listing_texts {p : Printer} (hp : p.rendering ≠ .styled) (h : headers.Nodup)
    (title : Option String) :
    p.listing { headers, rows := rows.map fun row => row.map .str, title }
      = Result.lines p.offer ((tableOutput headers rows p.rendering).map .ok) := by
  rw [listing]
  cases hrendering : p.rendering with
  | styled => exact absurd hrendering hp
  | json =>
    dsimp only
    rw [json_of_texts h title, json_eq_offer (isKept_tableJson h).isWritable, offer_eq_lines,
      tableOutput, tableText]
  | plain =>
    dsimp only
    rw [Listing.plain_str]
    rfl

end Tables

end OpenApi
