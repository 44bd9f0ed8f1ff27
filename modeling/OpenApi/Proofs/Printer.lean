/-
How diagnostics are printed.

A printed finding is a `Row`. It is made from a notice, that is from what an editor gets: its place
is where the range of the notice starts. The diagnostic has a line and a column of its own, from
which the printer takes the place, and both come to the same (`Row.prints_of`). So the rows of the
notices are what is printed of the diagnostics (`diagnostics_eq`). Numbers that are too long have no
text, but lines and columns of a text are bounded by its length.
-/
import OpenApi.Proofs.Editor.Located
import OpenApi.Proofs.Json.Encodable
import OpenApi.Proofs.Outcome
import OpenApi.Proofs.Printer.Cutting
import OpenApi.Proofs.Printer.Output

set_option autoImplicit false

namespace OpenApi

open OpenApi.Editor (Notice)

/-! ## Places -/

theorem Decimal.isWritable_mono {n m : Int} (h : isWritable m = true) (hn : 0 ≤ n) (hle : n ≤ m) :
    isWritable n = true := by
  rw [isWritable, decide_eq_true_eq] at h ⊢
  exact Nat.lt_of_le_of_lt (by omega) h

/-- A diagnostic of a check of a text: it has no place, or that of a node which starts at the
position of its offset. -/
def Diagnostic.IsPlacedIn (text : String) (d : Diagnostic) : Prop :=
  d.IsUnplaced ∨ ∃ node : Tree.Node,
    node.start = Text.positionAt text node.startOffset ∧ d.IsAt node

/-! ## Rows -/

/-- A finding as it is printed: its severity, its line and column counted from one, if it has any,
its message and its origin. -/
structure Row where
  severity : Severity
  place : Option (Int × Int)
  message : String
  source : String

namespace Row

/-- The row of a notice. It has a place if the diagnostic has one, and then that is where the range
of the notice starts. -/
def of (d : Diagnostic) (n : Notice) : Row where
  severity := n.severity
  place := d.line.map fun _ => (n.range.start.row + 1, n.range.start.column + 1)
  message := n.message
  source := n.source

/-- A row as a record. -/
def json (r : Row) : Json.Value :=
  .object [("severity", .str r.severity.name), ("line", r.place.elim .null (.int ·.1)),
    ("column", r.place.elim .null (.int ·.2)), ("message", .str r.message),
    ("source", .str r.source)]

/-- The fields of a row on a line. The origin is not among them. -/
def fields (r : Row) : List String :=
  [r.severity.name, r.place.elim "-" (toString ·.1), r.place.elim "-" (toString ·.2), r.message]

/-- The texts that rows are printed as: one of JSON, or lines below a line of headers. -/
def output : Rendering → List Row → List String
  | .json, rows => [Json.write (.array (rows.map json)) ++ "\n"]
  | _, rows =>
    Listing.plainLine ["Severity", "Line", "Column", "Message"]
      :: rows.map fun r => Listing.plainLine r.fields

/-- The numbers of a row can be written. -/
def IsWritable (r : Row) : Prop :=
  ∀ line column, r.place = some (line, column) →
    Decimal.isWritable line = true ∧ Decimal.isWritable column = true

/-- A diagnostic is printed as a row. -/
structure Prints (r : Row) (d : Diagnostic) : Prop where
  severity : d.severity = r.severity
  line : shownPosition d.line = r.place.elim .null (.int ·.1)
  column : shownPosition d.column = r.place.elim .null (.int ·.2)
  message : d.message = r.message
  source : d.source = some r.source

theorem Prints.json {r : Row} {d : Diagnostic} (h : r.Prints d) : d.json = r.json := by
  rw [Diagnostic.json, h.severity, h.line, h.column, h.message, h.source]
  rfl

theorem IsWritable.json {r : Row} (h : r.IsWritable) : r.json.isWritable = true := by
  obtain ⟨severity, _ | ⟨line, column⟩, message, source⟩ := r
  · rfl
  · obtain ⟨hline, hcolumn⟩ := h line column rfl
    simp [Row.json, Json.Value.isWritable, Json.haveWritable, hline, hcolumn]

theorem areWritable_json {rows : List Row} (h : ∀ r ∈ rows, r.IsWritable) :
    Json.areWritable (rows.map Row.json) = true := by
  induction rows with
  | nil => rfl
  | cons r rows ih =>
    obtain ⟨hr, hrows⟩ := List.forall_mem_cons.mp h
    rw [List.map_cons, Json.areWritable, hr.json, ih hrows, Bool.and_self]

theorem cellText_int [Host] {n : Int} (h : Decimal.isWritable n = true) :
    cellText (.int n) = .ok (toString n) := by
  have hwritten : (Decimal.writeInt n).mapError Unwritable.digits = .ok (toString n) := by
    rw [Decimal.writeInt, if_pos h]
    rfl
  exact hwritten

theorem Prints.rowTexts [Host] {r : Row} {d : Diagnostic} (h : r.Prints d) (hr : r.IsWritable) :
    OpenApi.rowTexts [.str (d.severity.shown false), shownPosition d.line, shownPosition d.column,
      .str d.message] = .ok r.fields := by
  rw [h.line, h.column, h.severity, h.message]
  obtain ⟨severity, _ | ⟨line, column⟩, message, source⟩ := r
  · rfl
  · obtain ⟨hline, hcolumn⟩ := hr line column rfl
    refine mapM_eq_ok_iff.mpr (.cons rfl (.cons ?_ (.cons ?_ (.cons rfl .nil))))
    · exact cellText_int hline
    · exact cellText_int hcolumn

section Of

variable {d : Diagnostic} {n : Notice} {text source : String}

/-- The notice of a diagnostic starts where the node of the diagnostic does. -/
theorem start_of_isAt {node : Tree.Node}
    (hnode : node.start = Text.positionAt text node.startOffset) (hat : d.IsAt node)
    (hn : Notice.of text d source = .ok n) : n.range.start = node.start := by
  rw [Notice.of] at hn
  cases hrange : Editor.diagnosticRange text d with
  | error e =>
    rw [hrange] at hn
    cases hn
  | ok range =>
    rw [hrange] at hn
    cases hn
    exact hat.start_of_diagnosticRange hnode hrange

/-- The row of a notice is what its diagnostic is printed as. -/
theorem prints_of (hd : d.IsPlacedIn text) (hsource : d.source = some source)
    (hn : Notice.of text d source = .ok n) : (Row.of d n).Prints d := by
  have htold : d.severity = n.severity ∧ d.message = n.message ∧ d.source = some n.source := by
    rw [Notice.of, hsource] at hn
    cases hrange : Editor.diagnosticRange text d with
    | error e =>
      rw [hrange] at hn
      cases hn
    | ok range =>
      rw [hrange] at hn
      cases hn
      have horigin : (if source = "" then source else source) = source := ite_self source
      exact ⟨rfl, rfl, by rw [hsource]; exact congrArg some horigin.symm⟩
  obtain ⟨hseverity, hmessage, horigin⟩ := htold
  -- Without a place nothing is shown for one; at a node it is where the node starts.
  rcases hd with hplain | ⟨node, hnode, hat⟩
  · refine ⟨hseverity, ?_, ?_, hmessage, horigin⟩
    · rw [of, hplain.line]
      rfl
    · rw [of, hplain.line, hplain.column]
      rfl
  · have hstart := start_of_isAt hnode hat hn
    refine ⟨hseverity, ?_, ?_, hmessage, horigin⟩
    · rw [of, hat.line, hstart]
      rfl
    · rw [of, hat.line, hat.column, hstart]
      rfl

/-- The numbers of a row are not much larger than the length of the text. -/
theorem isWritable_of (hlength : Decimal.isWritable (text.toList.length + 1) = true)
    (hd : d.IsPlacedIn text) (hn : Notice.of text d source = .ok n) : (Row.of d n).IsWritable := by
  intro line column hplace
  rcases hd with hplain | ⟨node, hnode, hat⟩
  · rw [of, hplain.line] at hplace
    cases hplace
  · rw [of, hat.line, start_of_isAt hnode hat hn] at hplace
    cases hplace
    obtain ⟨hrow, hcolumn⟩ := Text.positionAt_bounds text node.startOffset
    rw [← hnode] at hrow hcolumn
    constructor
    · exact Decimal.isWritable_mono hlength (Int.add_nonneg hrow.1 (by decide))
        (Int.add_le_add_right hrow.2 1)
    · exact Decimal.isWritable_mono hlength (Int.add_nonneg hcolumn.1 (by decide))
        (Int.add_le_add_right hcolumn.2 1)

end Of

/-- The rows of notices are what their diagnostics are printed as, and can be printed. -/
theorem prints_zipWith {ds : List Diagnostic} {notices : List Notice} {text source : String}
    (hlength : Decimal.isWritable (text.toList.length + 1) = true)
    (hds : ∀ d ∈ ds, d.IsPlacedIn text ∧ d.source = some source)
    (hnotices : List.Forall₂ (fun d n => Notice.of text d source = .ok n) ds notices) :
    List.Forall₂ Row.Prints (List.zipWith Row.of ds notices) ds
      ∧ ∀ r ∈ List.zipWith Row.of ds notices, r.IsWritable := by
  induction hnotices with
  | nil => exact ⟨.nil, nofun⟩
  | cons hn hrest ih =>
    obtain ⟨⟨hplaced, hsource⟩, hmore⟩ := List.forall_mem_cons.mp hds
    obtain ⟨hprints, hwritable⟩ := ih hmore
    rw [List.zipWith_cons_cons]
    exact ⟨.cons (prints_of hplaced hsource hn) hprints,
      List.forall_mem_cons.mpr ⟨isWritable_of hlength hplaced hn, hwritable⟩⟩

/-! ### Encoding -/

theorem isEncodable_severity [Host] (s : Severity) : Text.IsEncodable s.name := by
  cases s <;> exact Text.isEncodable_of_ascii (by decide)

theorem isEncodable_fields [Host] {r : Row} (h : Text.IsEncodable r.message) :
    ∀ f ∈ r.fields, Text.IsEncodable f := by
  have hhyphen : Text.IsEncodable "-" := Text.isEncodable_of_ascii (by decide)
  have hplace (number : Int × Int → Int) :
      Text.IsEncodable (r.place.elim "-" (toString <| number ·)) := by
    cases r.place with
    | none => exact hhyphen
    | some place => exact Json.isEncodable_toString _
  exact List.forall_mem_cons.mpr ⟨isEncodable_severity _, List.forall_mem_cons.mpr ⟨hplace Prod.fst,
    List.forall_mem_cons.mpr ⟨hplace Prod.snd, List.forall_mem_singleton.mpr h⟩⟩⟩

theorem textsIn_json [Host] {r : Row} (hmessage : Text.IsEncodable r.message)
    (hsource : Text.IsEncodable r.source) :
    r.json.TextsIn fun c => Text.isLoneSurrogate c = false := by
  have hname {name : String} (h : name.toList.any (fun c => decide (0x80 ≤ c.toNat)) = false) :
      Text.IsEncodable name := Text.isEncodable_of_ascii h
  have hplace (number : Int × Int → Int) :
      (r.place.elim Json.Value.null (.int <| number ·)).TextsIn
        fun c => Text.isLoneSurrogate c = false := by
    cases r.place <;> trivial
  exact ⟨hname (by decide), isEncodable_severity _, hname (by decide), hplace Prod.fst,
    hname (by decide), hplace Prod.snd, hname (by decide), hmessage, hname (by decide), hsource,
    trivial⟩

/-- **Rows can be encoded** if their messages can, and as JSON if their origins can, too. -/
theorem isEncodable_output [Host] {rendering : Rendering} {rows : List Row}
    (hmessages : ∀ r ∈ rows, Text.IsEncodable r.message)
    (hsources : rendering = .json → ∀ r ∈ rows, Text.IsEncodable r.source) :
    ∀ text ∈ output rendering rows, Text.IsEncodable text := by
  have hlines : ∀ text ∈ Listing.plainLine ["Severity", "Line", "Column", "Message"]
      :: rows.map fun r => Listing.plainLine r.fields, Text.IsEncodable text := by
    refine List.forall_mem_cons.mpr ⟨Text.isEncodable_of_ascii (by decide), ?_⟩
    · intro text htext
      obtain ⟨r, hr, rfl⟩ := List.mem_map.mp htext
      exact Listing.isEncodable_plainLine (isEncodable_fields (hmessages r hr))
  cases rendering with
  | json =>
    refine List.forall_mem_singleton.mpr (Json.isEncodable_write ?_)
    refine Json.allTextsIn_iff.mpr (List.forall_mem_map.mpr fun r hr => ?_)
    exact textsIn_json (hmessages r hr) (hsources rfl r hr)
  | plain => exact hlines
  | styled => exact hlines

end Row

/-! ## Printing rows -/

namespace Printer

variable [Host] {p : Printer} {rows : List Row} {ds : List Diagnostic}

/-- The lines of diagnostics are the lines of their rows. -/
theorem lines_of_prints (hrows : List.Forall₂ Row.Prints rows ds)
    (hwritable : ∀ r ∈ rows, r.IsWritable) :
    (ds.map fun d => [.str (d.severity.shown false), shownPosition d.line, shownPosition d.column,
        .str d.message]).map (fun row => (rowTexts row).map Listing.plainLine)
      = (rows.map fun r => Listing.plainLine r.fields).map .ok := by
  induction hrows with
  | nil => rfl
  | cons hr hrest ih =>
    obtain ⟨hwr, hwrest⟩ := List.forall_mem_cons.mp hwritable
    rw [List.map_cons, List.map_cons, hr.rowTexts hwr, ih hwrest]
    rfl

/-- **The rows of diagnostics are offered to standard output.** -/
theorem diagnostics_eq (h : p.rendering ≠ .styled) (source : String)
    (hrows : List.Forall₂ Row.Prints rows ds) (hwritable : ∀ r ∈ rows, r.IsWritable) :
    p.diagnostics source ds = Result.lines p.offer ((Row.output p.rendering rows).map .ok) := by
  have hmarks := marksMessages_eq_false h
  rw [diagnostics, hmarks]
  cases hrendering : p.rendering with
  | styled => exact absurd hrendering h
  | json =>
    have hjson : ds.map Diagnostic.json = rows.map Row.json := by
      rw [← List.forall₂_eq_eq_eq, List.forall₂_map_left_iff, List.forall₂_map_right_iff]
      exact hrows.flip.imp fun d r hr => hr.json
    have hwritten : (Json.Value.array (rows.map Row.json)).isWritable = true :=
      Row.areWritable_json hwritable
    dsimp only
    rw [hjson, json, Json.writeWithin, if_pos hwritten]
    exact p.offer_eq_lines _
  | plain =>
    rw [listing, hrendering]
    dsimp only
    rw [Listing.plain, diagnosticListing, lines_of_prints hrows hwritable]
    rfl

end Printer

end OpenApi
