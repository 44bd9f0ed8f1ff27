/-
What a check comes to, and what an editor is told of the same text.

A check ends well if and only if an editor with the same settings gets an empty list, and what the
one offers to standard output is what the other gets, row by row (`check_agrees_with_editor`). Both
start from one report, but they take different ways from there: a check reads its text from a
source, says something on the way, and prints lines and columns; an editor gets ranges, which are
derived from offsets. A blank text is never looked at by a check, but an editor may open one; no
blank text is a document, so it is refused there (`errors_of_blank`). And an editor is told of
findings that standard output refuses to take: the check then ends as a general failure.
-/
import OpenApi.Host.Standard
import OpenApi.Proofs.Check.Verdict
import OpenApi.Proofs.Command.Ending
import OpenApi.Proofs.Editor.Publication
import OpenApi.Proofs.Tree.Starts
import OpenApi.Proofs.Yaml.Blank

set_option autoImplicit false

namespace OpenApi

open OpenApi.Editor (Notice Server)
open OpenApi.Tree (Arena Concrete)

/-! ## The diagnostics of a check -/

namespace Checker

variable [Host] {c : Checker}

/-- A text that has diagnostics was decoded in the format that was detected. -/
theorem exists_document_of_check {text : String} {ds : List Diagnostic}
    (h : (c.check text).diagnostics? = some ds) :
    ∃ document, decode text (some (detectFormat text)) = .ok document := by
  rw [check, checkWith, Report.diagnostics?] at h
  dsimp only at h
  cases hdecode : decode text (some (detectFormat text)) with
  | ok document => exact ⟨document, rfl⟩
  | error e =>
    rw [hdecode] at h
    cases h

/-- **All diagnostics of a check of a text have the places they should have**, and name its
origin. -/
theorem placed_of_check {text : String} {ds : List Diagnostic}
    (hds : (c.check text).diagnostics? = some ds) :
    ∀ d ∈ ds, d.IsPlacedIn text ∧ d.source = some c.source := by
  obtain ⟨document, hdecode⟩ := exists_document_of_check hds
  have hstart := (starts_ofText hdecode).start_eq (detectFormat text)
  intro d hd
  have hsaid := says_of_checkWith hds hd
  refine ⟨?_, hsaid.source⟩
  rcases hsaid.place with hplain | ⟨node, hmem, hat⟩
  · exact .inl hplain
  · exact .inr ⟨node, hstart node hmem, hat⟩

/-- No node of the tree was invented, so a message names none: all messages can be encoded. -/
theorem isEncodable_message {text : String} {ds : List Diagnostic}
    (hds : (c.check text).diagnostics? = some ds) : ∀ d ∈ ds, Text.IsEncodable d.message := by
  obtain ⟨document, hdecode⟩ := exists_document_of_check hds
  have hgrown := (starts_ofText hdecode).missing_eq_false text (detectFormat text)
  have hversion : Text.IsEncodable "Missing required field: openapi (or swagger)" :=
    Text.isEncodable_of_ascii (by decide)
  have hinfo : Text.IsEncodable "Missing required field: info" :=
    Text.isEncodable_of_ascii (by decide)
  have hunexpected : Text.IsEncodable "Syntax error: unexpected content" :=
    Text.isEncodable_of_ascii (by decide)
  have hfields : ∀ name ∈ infoFields, Text.IsEncodable s!"Missing required field: info.{name}" :=
    List.forall_mem_cons.mpr ⟨Text.isEncodable_of_ascii (by decide),
      List.forall_mem_singleton.mpr (Text.isEncodable_of_ascii (by decide))⟩
  intro d hd
  cases says_of_checkWith hds hd with
  | version => exact hversion
  | info => exact hinfo
  | @field name hname pair => cases pair <;> exact hfields name hname
  | @error n hn =>
    rw [located, errorMessage, hgrown n hn]
    exact hunexpected

/-! ## Blank texts -/

omit [Host] in
theorem detectFormat_blank {text : String} (h : Text.isAllBlank text = true) :
    detectFormat text = .yaml := by
  have hnil : text.toList.dropWhile Text.isBlank = [] := by
    rw [List.dropWhile_eq_nil_iff]
    exact List.all_eq_true.mp h
  rw [detectFormat, hnil]

/-- A blank text is rejected. -/
theorem errors_of_blank (c : Checker) {text : String} (h : Text.isAllBlank text = true) :
    ∃ errors, (c.check text).errors? = some errors := by
  have hverdict : ∃ reason, (c.check text).verdict = .rejected reason := by
    rw [check, checkWith, detectFormat_blank h]
    dsimp only
    cases hdecode : decode text (some .yaml) with
    | error e => exact ⟨_, rfl⟩
    | ok d =>
      have hnone : d.graph.mapping? d.root = none := by
        rw [decode, Option.getD_some] at hdecode
        cases hyaml : Yaml.decode text with
        | error e =>
          rw [hyaml] at hdecode
          cases hdecode
        | ok d' =>
          rw [hyaml] at hdecode
          cases hdecode
          obtain ⟨scalar, hscalar⟩ := Yaml.decode_blank h hyaml
          rw [hscalar]
          rfl
      rw [c.judge_of_no_mapping hnone]
      exact ⟨_, rfl⟩
  obtain ⟨reason, hreason⟩ := hverdict
  exact ⟨_, by rw [Report.errors?, hreason]⟩

end Checker

namespace Command

/-! ## Sources -/

/-- What a source has is a text, blank or not: the text as it is read, with line feeds as the only
line ends if it does not come from a web address. -/
inductive Holds [Host] (w : World) : (source text : String) → Prop where
  | input {text : String} : w.inputText = .ok text → Holds w "-" text
  | address {url : String} {r : Response} : url ≠ "-" →
      (url.startsWith "http://" || url.startsWith "https://") = true → Url.problem? url = none →
      requestFollowing w maxRedirects url = .response r → 200 ≤ r.status → r.status < 300 →
      Holds w url r.text
  | file {path text : String} : path ≠ "-" →
      (path.startsWith "http://" || path.startsWith "https://") = false →
      w.fileText? path = .ok (some text) → Holds w path text

/-- A failure to read a source that the program foresaw is one of the document. -/
theorem exitCode_of_foreseen {e : SourceError} {f : Failure} (h : e.trouble = .failure f) :
    f.exitCode = ExitCode.document := by
  cases e with
  | accident a => cases h
  | _ =>
    cases h
    rfl

/-- A text is read from its source, unless it is blank. -/
theorem Holds.readSource [Host] {w : World} {source text : String} (h : Holds w source text) :
    (Text.isAllBlank text = true
        ∧ ∃ e f, readSource w source = .error e ∧ e.trouble = .failure f)
      ∨ OpenApi.readSource w source = .ok text := by
  cases h with
  | input hinput =>
    have hstandard : "-" = "-" := rfl
    rw [OpenApi.readSource, if_pos hstandard, readInput, hinput]
    dsimp only
    split
    · exact .inl ⟨‹_›, _, _, rfl, rfl⟩
    · exact .inr rfl
  | address hinput haddress hproblem hreply hstatus hbelow =>
    rw [OpenApi.readSource, if_neg hinput, if_pos haddress, readUrl, hproblem]
    simp only [Option.elim_none, hreply]
    rw [if_neg (by simp [hstatus, hbelow])]
    split
    · exact .inl ⟨‹_›, _, _, rfl, rfl⟩
    · exact .inr rfl
  | file hinput haddress hfile =>
    rw [OpenApi.readSource, if_neg hinput, haddress, if_neg Bool.false_ne_true]
    unfold readFile
    rw [hfile]
    dsimp only
    split
    · exact .inl ⟨‹_›, _, _, rfl, rfl⟩
    · exact .inr rfl

/-! ## Conduct -/

section CheckConduct

variable [Host] {p : Printer} {r : Report}

theorem conclude_rejected (hp : p.marksMessages = false) (source : String) {errors : List String}
    (h : r.errors? = some errors) :
    (conclude p (checkConduct source r)).exitCode = ExitCode.document := by
  obtain ⟨format, reason | ⟨document, ds⟩⟩ := r
  · refine (conclude_messages hp ?_).of_nil.1
    rintro u (_ | ⟨_, _ | ⟨_, ⟨⟩⟩⟩)
    all_goals trivial
  · cases h

theorem conclude_valid (hp : p.marksMessages = false) (source : String)
    (h : r.diagnostics? = some []) :
    (conclude p (checkConduct source r)).Offers p [] ExitCode.success := by
  obtain ⟨format, reason | ⟨document, ds⟩⟩ := r
  · cases h
  · cases h
    refine conclude_messages hp ?_
    rintro u (_ | ⟨_, _ | ⟨_, ⟨⟩⟩⟩)
    all_goals trivial

/-- What is said where a check found something. -/
theorem checkConduct_of_found (source : String) {ds : List Diagnostic}
    (h : r.diagnostics? = some ds) (hne : ds ≠ []) :
    (checkConduct source r).exitCode = ExitCode.document
      ∧ ∃ noted found, (checkConduct source r).utterances
        = [.debug noted] ++ .diagnostics source ds :: [.error found] := by
  obtain ⟨d, more, rfl⟩ := List.exists_cons_of_ne_nil hne
  obtain ⟨format, reason | ⟨document, ds⟩⟩ := r
  · cases h
  · cases h
    exact ⟨rfl, _, _, rfl⟩

/-- A check that found something does not end well, whether it can say what or not. -/
theorem conclude_invalid (p : Printer) (source : String) {ds : List Diagnostic}
    (h : r.diagnostics? = some ds) (hne : ds ≠ []) :
    (conclude p (checkConduct source r)).exitCode = ExitCode.document
      ∨ (conclude p (checkConduct source r)).exitCode = ExitCode.generic := by
  rcases exitCode_conclude p (checkConduct source r) with ⟨-, hcode⟩ | ⟨-, -, hcode⟩
  · rw [hcode]
    exact .inl (checkConduct_of_found source h hne).1
  · exact .inr hcode

/-- A check that found something offers the rows of what it found. -/
theorem conclude_found (hp : p.rendering ≠ .styled) (source : String) {ds : List Diagnostic}
    (h : r.diagnostics? = some ds) (hne : ds ≠ []) {rows : List Row}
    (hrows : List.Forall₂ Row.Prints rows ds) (hwritable : ∀ r ∈ rows, r.IsWritable) :
    (conclude p (checkConduct source r)).Offers p (Row.output p.rendering rows)
      ExitCode.document := by
  obtain ⟨hcode, noted, found, hsaid⟩ := checkConduct_of_found source h hne
  have hnoted : Utterance.IsMessage (.debug noted) := trivial
  have hfound : Utterance.IsMessage (.error found) := trivial
  rw [← hcode]
  refine conclude_around (Printer.marksMessages_eq_false hp) (List.forall_mem_singleton.mpr hnoted)
    (List.forall_mem_singleton.mpr hfound) hsaid ?_
  rw [Printer.print, Printer.diagnostics_eq hp source hrows hwritable]

end CheckConduct

/-! ## The result -/

/-- An exit code of a failure is none of success. -/
theorem ne_success_of_failure {code : Int}
    (h : code = ExitCode.document ∨ code = ExitCode.generic) : code ≠ ExitCode.success := by
  rcases h with rfl | rfl <;> decide

section Result

variable [Host] {w : World} {args : List String} {options : GeneralOptions} {source : String}
  {grammar : Option Bool}

/-- The fields that a check adds to the settings. -/
def checkFields (grammar : Option Bool) : Json.Fields :=
  [("check_syntax", grammar.elim .null .bool)]

theorem run_check (hargs : Invocation.parse args = .run options (.check source grammar)) :
    run w args = conclude (options.printer w) (checkSource w source grammar) := by
  rw [run, hargs]
  rfl

theorem checkSource_unsettled {e : SettingsError}
    (he : Settings.resolve w (checkFields grammar) = .error e) (source : String) :
    checkSource w source grammar = .ofTrouble e.trouble := by
  unfold checkSource
  rw [checkFields] at he
  rw [he]

section Settled

variable {settings : Settings} (hsettings : Settings.resolve w (checkFields grammar) = .ok settings)

include hsettings

theorem checkSource_unread {e : SourceError} (he : readSource w source = .error e) :
    checkSource w source grammar = .ofTrouble e.trouble := by
  unfold checkSource
  rw [checkFields] at hsettings
  rw [hsettings]
  dsimp only
  rw [he]

theorem checkSource_read {text : String} (htext : readSource w source = .ok text) :
    checkSource w source grammar = checkConduct source
      (Checker.check ⟨settings.checkGrammar, settings.diagnosticSource⟩ text) := by
  unfold checkSource
  rw [checkFields] at hsettings
  rw [hsettings]
  dsimp only
  rw [htext]

end Settled

/-- What a check of a text has in common with what an editor is told of the text. What a check has
to print is offered to standard output, which may refuse it; in UTF-8 it refuses only an origin that
cannot be encoded, which is shown as JSON alone. And a check of a text that is so long that numbers
up to its length cannot be written may have nothing to offer. -/
structure AgreesOn (o : Outcome) (p : Printer) (c : Checker) (text : String)
    (notices : List Notice) : Prop where
  success : o.exitCode = ExitCode.success ↔ notices = []
  refused : (c.check text).errors? ≠ none → o.exitCode = ExitCode.document
  failure : notices ≠ [] → o.exitCode = ExitCode.document ∨ o.exitCode = ExitCode.generic
  encoded : Decimal.isWritable (text.toList.length + 1) = true → p.refusal = encodingAccident? →
    (p.rendering = .json → Text.IsEncodable c.source) → notices ≠ [] →
      o.exitCode = ExitCode.document
  printed : Decimal.isWritable (text.toList.length + 1) = true → (c.check text).errors? = none →
    ∃ ds, (c.check text).diagnostics? = some ds
      ∧ List.Forall₂ (fun d n => Notice.of text d c.source = .ok n) ds notices
      ∧ o.Offers p
        (if notices = [] then [] else Row.output p.rendering (List.zipWith Row.of ds notices))
        (if notices = [] then ExitCode.success else ExitCode.document)

section Agrees

variable {p : Printer} {c : Checker} {text : String} {notices : List Notice}

/-- A text that is refused has a notice. -/
theorem ne_nil_of_announced {source : String} (h : Editor.Announced c text source notices)
    {errors : List String} (herrors : (c.check text).errors? = some errors) : notices ≠ [] := by
  cases h with
  | failed => exact List.cons_ne_nil _ _
  | checked hok =>
    rw [herrors] at hok
    cases hok

theorem agreesOn_refused {o : Outcome} (hcode : o.exitCode = ExitCode.document)
    {errors : List String} (herrors : (c.check text).errors? = some errors) (hne : notices ≠ [])
    (p : Printer) : AgreesOn o p c text notices := by
  refine ⟨?_, fun _ => hcode, fun _ => .inl hcode, fun _ _ _ _ => hcode, fun _ hok => ?_⟩
  · exact ⟨fun h => absurd h (ne_success_of_failure (.inl hcode)), fun h => absurd h hne⟩
  · rw [herrors] at hok
    cases hok

/-- The rows of notices have the messages and the origins of the diagnostics. -/
theorem encodable_zipWith {source : String} {ds : List Diagnostic}
    (htold : List.Forall₂ (fun d n => Notice.of text d source = .ok n) ds notices)
    (hds : ∀ d ∈ ds, Text.IsEncodable d.message ∧ d.source = some source) :
    ∀ r ∈ List.zipWith Row.of ds notices, Text.IsEncodable r.message
      ∧ (Text.IsEncodable source → Text.IsEncodable r.source) := by
  induction htold with
  | nil => exact nofun
  | @cons d n ds notices hn hrest ih =>
    obtain ⟨⟨hmessage, hsource⟩, hmore⟩ := List.forall_mem_cons.mp hds
    rw [List.zipWith_cons_cons]
    refine List.forall_mem_cons.mpr ⟨?_, ih hmore⟩
    obtain ⟨range, -, rfl⟩ := exists_of_map_ok hn
    have horigin : (Row.of d (Notice.mk range d.message d.severity
        (if source = "" then source else source))).source = source := ite_self source
    rw [hsource]
    exact ⟨hmessage, fun h => horigin.symm ▸ h⟩

/-- What is concluded from a report agrees with what is announced of it. -/
theorem agreesOn_check (hp : p.rendering ≠ .styled)
    (hnotices : Editor.Announced c text c.source notices) (source : String) :
    AgreesOn (conclude p (checkConduct source (c.check text))) p c text notices := by
  have hmarks := Printer.marksMessages_eq_false hp
  cases hnotices with
  | failed herrors hnone =>
    exact agreesOn_refused (conclude_rejected hmarks source herrors) herrors
      (List.cons_ne_nil _ _) _
  | @checked ds _ herrors hds htold =>
    by_cases hnil : ds = []
    · subst hnil
      obtain rfl := List.forall₂_nil_left_iff.mp htold
      have hvalid := conclude_valid hmarks source hds
      exact ⟨⟨fun _ => rfl, fun _ => hvalid.of_nil.1⟩, fun hno => absurd herrors hno,
        fun hne => absurd rfl hne, fun _ _ _ hne => absurd rfl hne,
        fun _ _ => ⟨[], hds, htold, hvalid⟩⟩
    · have hne : notices ≠ [] := by
        rintro rfl
        exact hnil (List.forall₂_nil_right_iff.mp htold)
      have hfailure := conclude_invalid p source hds hnil
      -- where all numbers are short enough, the rows have texts
      have hoffers (hlength : Decimal.isWritable (text.toList.length + 1) = true) :
          (conclude p (checkConduct source (c.check text))).Offers p
            (Row.output p.rendering (List.zipWith Row.of ds notices)) ExitCode.document := by
        have hrows := Row.prints_zipWith hlength (Checker.placed_of_check hds) htold
        exact conclude_found hp source hds hnil hrows.1 hrows.2
      refine ⟨?_, fun hno => absurd herrors hno, fun _ => hfailure, ?_, ?_⟩
      · exact ⟨fun h => absurd h (ne_success_of_failure hfailure), fun h => absurd h hne⟩
      · intro hlength hrefusal hsource _
        refine (hoffers hlength).taken fun line hline => ?_
        have hrows := encodable_zipWith htold fun d hd =>
          ⟨Checker.isEncodable_message hds d hd, (Checker.placed_of_check hds d hd).2⟩
        have hencodable := Row.isEncodable_output (fun r hr => (hrows r hr).1)
          (fun hjson r hr => (hrows r hr).2 (hsource hjson)) line hline
        rw [hrefusal, encodingAccident?, Text.encodeProblem?_eq_none_iff.mpr hencodable]
        rfl
      · intro hlength _
        refine ⟨ds, hds, htold, ?_⟩
        rw [if_neg hne, if_neg hne]
        exact hoffers hlength

end Agrees

/-- **A check and an editor give the same verdict.** Let a command line ask for a check, and let
the results not be styled.

* With the settings that the check settles on, what every server tells an editor that opens the
  text of the source agrees with the check (`AgreesOn`): the check succeeds if and only if the
  editor gets no notices, else it ends with the code for documents, unless standard output refuses
  what was found; and if the text is not refused, what the check offers to standard output are the
  rows of the notices, each with the place where the range of the notice starts if the diagnostic
  has a place.
* A source that has no text, for a reason that was foreseen, ends with the code for documents.
* If the settings cannot be settled, the run ends as a general failure, and is the same whatever the
  source is and whatever there is to read. -/
theorem check_agrees_with_editor
    (hargs : Invocation.parse args = .run options (.check source grammar))
    (hrendering : (options.printer w).rendering ≠ .styled) :
    (∀ settings, Settings.resolve w (checkFields grammar) = .ok settings →
        (∀ text, Holds w source text → ∀ s : Server, s.settings = settings → ∀ uri version,
          ∃ s' p, s.didOpen uri text version [] = (s', .ok [p])
            ∧ AgreesOn (run w args) (options.printer w)
                ⟨settings.checkGrammar, settings.diagnosticSource⟩ text p.notices)
        ∧ ∀ e f, readSource w source = .error e → e.trouble = .failure f →
            (run w args).exitCode = ExitCode.document)
      ∧ ∀ e, Settings.resolve w (checkFields grammar) = .error e →
          (run w args).exitCode = ExitCode.generic
            ∧ ∀ w' args' source', Invocation.parse args' = .run options (.check source' grammar) →
                Settings.resolve w' (checkFields grammar) = .error e →
                options.printer w' = options.printer w → run w' args' = run w args := by
  have hmarks := Printer.marksMessages_eq_false hrendering
  refine ⟨?_, ?_⟩
  · intro settings hsettings
    have hforeseen (e : SourceError) (f : Failure) (he : readSource w source = .error e)
        (hf : e.trouble = .failure f) : (run w args).exitCode = ExitCode.document := by
      rw [run_check hargs, checkSource_unread hsettings he, exitCode_ofTrouble hmarks, hf]
      exact exitCode_of_foreseen hf
    refine ⟨?_, hforeseen⟩
    intro text hholds s hs uri version
    obtain ⟨p, hhandle, hp⟩ := s.handle_eq (.opened uri text version)
    have hannounced := (hp.stored text version rfl).2
    rw [hs] at hannounced
    refine ⟨_, p, hhandle, ?_⟩
    -- A blank text is a failure of the reading for the run, and a text without a document for the
    -- server. Any other text comes to the check on both ways.
    rcases hholds.readSource with ⟨hblank, e, f, he, hf⟩ | hread
    · obtain ⟨errors, herrors⟩ := Checker.errors_of_blank
        ⟨settings.checkGrammar, settings.diagnosticSource⟩ hblank
      exact agreesOn_refused (hforeseen e f he hf) herrors
        (ne_nil_of_announced hannounced herrors) _
    · rw [run_check hargs, checkSource_read hsettings hread]
      exact agreesOn_check hrendering hannounced source
  · intro e he
    refine ⟨?_, ?_⟩
    · rw [run_check hargs, checkSource_unsettled he, exitCode_ofTrouble hmarks]
      cases e <;> rfl
    · intro w' args' source' hargs' he' hprinter
      rw [run_check hargs, run_check hargs', checkSource_unsettled he, checkSource_unsettled he',
        hprinter]

end Result

/-- Surroundings without files, in which a text is given on standard input. -/
def wideWorld : World where
  entries := []
  environment := []
  platform := "Linux"
  home := some "/root"
  directory := "/"
  input := Text.bytes wideText
  terminal := false
  refusal := encodingAccident?
  request := fun _ => .unreachable ""
  serving := fun _ => .finished

theorem errors_of_diagnostics [Host] {r : Report} {ds : List Diagnostic}
    (h : r.diagnostics? = some ds) : r.errors? = none := by
  obtain ⟨format, reason | ⟨document, ds'⟩⟩ := r
  · cases h
  · rfl

theorem readFile_of_missing [Host] {w : World} {path : String}
    (h : w.lookup (Path.normal path) = .missing) (label : String) :
    Settings.readFile w label path = .ok [] := by
  have hnone : w.fileText? path = .ok none := by
    unfold World.fileText? World.fileBytes?
    rw [h]
  unfold Settings.readFile
  rw [hnone]

theorem resolve_wideWorld : Settings.resolve wideWorld (checkFields none) = .ok {} := by
  have huser : wideWorld.lookup (Path.normal (Settings.userPath wideWorld)) = .missing := by
    decide +kernel
  have hproject : wideWorld.lookup (Path.normal (Settings.projectPath wideWorld)) = .missing := by
    decide +kernel
  have hhome : Settings.isHomeless wideWorld = false := by decide +kernel
  have hdirectory : wideWorld.isDirectory wideWorld.directory = true := by decide +kernel
  have henvironment : Settings.environmentLayer wideWorld = .ok [] := rfl
  rw [Settings.resolve, Settings.readUser, hhome, readFile_of_missing huser, Settings.readProject,
    hdirectory, readFile_of_missing hproject, henvironment]
  rfl

theorem holds_wideWorld : Holds wideWorld "-" wideText := by
  have hinput : wideWorld.inputText = .ok wideText := by cbv
  exact .input hinput

/-- Three things are found in the text, and the last of them is at its sixth character of the second
row. Standard output takes all of it. -/
theorem check_agrees_with_editor_wideText :
    Invocation.parse ["--json", "check", "-"] = .run { json := true } (.check "-" none)
      ∧ (GeneralOptions.printer { json := true } wideWorld).rendering = .json
      ∧ Settings.resolve wideWorld (checkFields none) = .ok {}
      ∧ Holds wideWorld "-" wideText
      ∧ ∃ s' p, (Server.start {}).didOpen "file:///wide.json" wideText (some 1) [] = (s', .ok [p])
        ∧ p.notices ≠ []
        ∧ (run wideWorld ["--json", "check", "-"]).exitCode = ExitCode.document
        ∧ ∃ ds, wideDiagnostic ∈ ds
          ∧ List.Forall₂ (fun d n => Notice.of wideText d "specls" = .ok n) ds p.notices
          ∧ (run wideWorld ["--json", "check", "-"]).Offers
            (GeneralOptions.printer { json := true } wideWorld)
            (Row.output .json (List.zipWith Row.of ds p.notices)) ExitCode.document := by
  have hargs : Invocation.parse ["--json", "check", "-"]
      = .run { json := true } (.check "-" none) := by
    cbv
  have hrendering : (GeneralOptions.printer { json := true } wideWorld).rendering = .json := rfl
  have hstyles : (GeneralOptions.printer { json := true } wideWorld).rendering ≠ .styled := by
    rw [hrendering]
    decide
  refine ⟨hargs, hrendering, resolve_wideWorld, holds_wideWorld, ?_⟩
  obtain ⟨hsettled, -⟩ := check_agrees_with_editor hargs hstyles
  obtain ⟨hopened, -⟩ := hsettled {} resolve_wideWorld
  obtain ⟨s', p, hopen, hagrees⟩ := hopened wideText holds_wideWorld (Server.start {}) rfl
    "file:///wide.json" (some 1)
  have hlength : Decimal.isWritable (wideText.toList.length + 1) = true := by decide +kernel
  obtain ⟨found, hfound, hmem⟩ := exists_diagnostics_wideText
  obtain ⟨ds, hds, htold, hoffers⟩ := hagrees.printed hlength (errors_of_diagnostics hfound)
  have hsame : ds = found := Option.some.inj (hds.symm.trans hfound)
  have hne : p.notices ≠ [] := by
    intro hnil
    rw [hnil, List.forall₂_nil_right_iff] at htold
    rw [← hsame, htold] at hmem
    cases hmem
  have hsource : Text.IsEncodable "specls" := Text.isEncodable_of_ascii (by decide)
  have hcode := hagrees.encoded hlength rfl (fun _ => hsource) hne
  rw [if_neg hne, if_neg hne, hrendering] at hoffers
  rw [← hsame] at hmem
  exact ⟨s', p, hopen, hne, hcode, ds, hmem, htold, hoffers⟩

end Command

end OpenApi
