/-
How runs end.

A run prints what its command has to say and takes the exit code of the command, unless something
cannot be printed (`conclude_around`). So the end of an inspection is told by the view of the
document and by the printer together: `InspectionEnds` lists all ends there are, and the run of
every inspection of a document that was read is among them (`views_fail_for_cause`).
-/
import OpenApi.Proofs.Printer
import OpenApi.Proofs.Printer.RoundTrip
import OpenApi.Proofs.View.Failure

set_option autoImplicit false

namespace OpenApi.Command

/-! ## Conduct -/

/-- An outcome of offering texts to standard output: what is printed there are the texts up to the
first that is refused, and if one is, the exit code is that of a failure of no special kind. -/
structure Outcome.Offers (o : Outcome) (p : Printer) (texts : List String) (code : Int) : Prop where
  out : o.printed.out = p.taken texts
  taken : (∀ text ∈ texts, p.refusal text = none) → o.exitCode = code
  refused : (∃ text ∈ texts, p.refusal text ≠ none) → o.exitCode = ExitCode.generic

/-- Where nothing is offered, there is nothing to refuse. -/
theorem Outcome.Offers.of_nil {o : Outcome} {p : Printer} {code : Int} (h : o.Offers p [] code) :
    o.exitCode = code ∧ o.printed.out = "" :=
  ⟨h.taken (List.forall_mem_nil _), h.out⟩

/-- One text is printed, or it is refused. -/
theorem Outcome.Offers.of_singleton {o : Outcome} {p : Printer} {text : String} {code : Int}
    (h : o.Offers p [text] code) :
    (p.refusal text = none → o.exitCode = code ∧ o.printed.out = text)
      ∧ (p.refusal text ≠ none → o.exitCode = ExitCode.generic ∧ o.printed.out = "") := by
  refine ⟨fun htaken => ?_, fun hrefused => ?_⟩
  · have hall : ∀ t ∈ [text], p.refusal t = none := List.forall_mem_singleton.mpr htaken
    refine ⟨h.taken hall, ?_⟩
    rw [h.out, Printer.taken_eq_join hall, String.join_cons]
    exact String.append_empty
  · refine ⟨h.refused ⟨text, List.mem_singleton_self text, hrefused⟩, ?_⟩
    rw [h.out, Printer.taken, List.takeWhile_cons_of_neg (by simpa using hrefused)]
    rfl

/-- An outcome of saying one thing, as an error: it is all that is printed, and the exit code is the
one that is meant. Where messages are markup, one that is none cannot be said, and the exit code is
that of a failure of no special kind. -/
structure Outcome.Says [Host] (o : Outcome) (p : Printer) (text : String) (code : Int) : Prop where
  plain : p.marksMessages = false →
    o = ⟨⟨"", Text.escapeSurrogates ("Error: " ++ text ++ "\n")⟩, code, none⟩
  marked : p.marksMessages = true → ∀ shown, p.markedMessage ("[bold red]Error:[/] " ++ text)
    = .ok shown → o = ⟨⟨"", Text.escapeSurrogates shown⟩, code, none⟩
  unmarked : p.marksMessages = true → ∀ e, p.markedMessage ("[bold red]Error:[/] " ++ text)
    = .error e → o.exitCode = ExitCode.generic

theorem isMessage_ofTrouble (t : Trouble) :
    ∀ u ∈ (Conduct.ofTrouble t).utterances, u.IsMessage := by
  cases t with
  | failure f => exact List.forall_mem_singleton.mpr trivial
  | accident a => exact List.forall_mem_singleton.mpr trivial

section Conclude

variable [Host] {p : Printer} {c : Conduct}

/-- A conduct that only has messages ends as it should, and offers nothing to standard output. -/
theorem conclude_messages (hp : p.marksMessages = false) (h : ∀ u ∈ c.utterances, u.IsMessage) :
    (conclude p c).Offers p [] c.exitCode := by
  obtain ⟨err, hall⟩ := Printer.printAll_messages hp h
  rw [conclude, hall]
  exact ⟨rfl, fun _ => rfl, nofun⟩

/-- **A conduct with a result among messages** ends as it should if standard output takes all texts
of the result. -/
theorem conclude_around (hp : p.marksMessages = false) {before after : List Utterance}
    (hbefore : ∀ u ∈ before, u.IsMessage) (hafter : ∀ u ∈ after, u.IsMessage) {u : Utterance}
    (hsaid : c.utterances = before ++ u :: after) {texts : List String}
    (hu : p.print u = Printer.onOutput (Result.lines p.offer (texts.map .ok))) :
    (conclude p c).Offers p texts c.exitCode := by
  obtain ⟨err, hall⟩ := Printer.printAll_around hp hbefore hafter hu
  rw [Printer.lines_ok] at hall
  dsimp only at hall
  rw [conclude, hsaid, hall]
  -- The first text that is refused cuts the result off; what is said of that goes to standard
  -- error.
  cases hrefused : texts.findSome? p.refusal with
  | none =>
    have htaken := List.findSome?_eq_none_iff.mp hrefused
    exact ⟨rfl, fun _ => rfl, fun ⟨text, htext, hne⟩ => absurd (htaken text htext) hne⟩
  | some a =>
    obtain ⟨text, htext, hrefusal⟩ := List.exists_of_findSome?_eq_some hrefused
    have hunexpected : ∀ m ∈ (Conduct.unexpected (PrintError.refused a).accident.text).utterances,
        m.IsMessage := List.forall_mem_singleton.mpr trivial
    obtain ⟨more, hmore⟩ := Printer.printAll_messages hp hunexpected
    simp only [Option.map_some, hmore]
    refine ⟨String.append_empty, fun h => ?_, fun _ => rfl⟩
    rw [h text htext] at hrefusal
    cases hrefusal

/-- A conduct that cannot be printed ends as a failure of no special kind. -/
theorem exitCode_conclude (p : Printer) (c : Conduct) :
    ((p.printAll c.utterances).2 = none ∧ (conclude p c).exitCode = c.exitCode)
      ∨ ∃ e, (p.printAll c.utterances).2 = some e ∧ (conclude p c).exitCode = ExitCode.generic := by
  rw [conclude]
  cases p.printAll c.utterances with
  | mk printed error =>
    cases error with
    | none => exact .inl ⟨rfl, rfl⟩
    | some e => exact .inr ⟨e, rfl, rfl⟩

/-- One thing that is said is printed, or it alone is not. -/
theorem printAll_singleton (p : Printer) (u : Utterance) :
    (p.printAll [u]).2 = (p.print u).2 := by
  rw [Printer.printAll]
  cases p.print u with
  | mk printed error => cases error <;> rfl

/-- What is said alone is printed alone. -/
theorem conclude_singleton {u : Utterance} {printed : Printed} (h : p.print u = (printed, none))
    (code : Int) : conclude p { utterances := [u], exitCode := code } = ⟨printed, code, none⟩ := by
  have hnone : p.printAll [] = ({}, none) := rfl
  have hprinted : printed ++ {} = printed := by
    show Printed.append printed {} = printed
    rw [Printed.append, String.append_empty, String.append_empty]
  rw [conclude, Printer.printAll_cons_ok h hnone, hprinted]

/-- **One thing is said**, as an error. -/
theorem says_conclude (p : Printer) (text : String) (code : Int) :
    (conclude p { utterances := [.error text], exitCode := code }).Says p text code := by
  refine ⟨fun hplain => ?_, fun hmarks shown hshown => ?_, fun hmarks e he => ?_⟩
  · refine conclude_singleton ?_ code
    exact Printer.message_eq hplain _ _
  · refine conclude_singleton ?_ code
    rw [Printer.print, Printer.message, if_pos hmarks, hshown]
    rfl
  · have hprint : (p.print (.error text)).2 = some e := by
      rw [Printer.print, Printer.message, if_pos hmarks, he]
      rfl
    rcases exitCode_conclude p { utterances := [.error text], exitCode := code } with
      ⟨hnone, -⟩ | ⟨-, -, hcode⟩
    · cases hprint.symm.trans ((printAll_singleton p _).symm.trans hnone)
    · exact hcode

/-- Trouble is said, and its exit code is what the run ends with. -/
theorem exitCode_ofTrouble (hp : p.marksMessages = false) (t : Trouble) :
    (conclude p (.ofTrouble t)).exitCode = (Conduct.ofTrouble t).exitCode :=
  (conclude_messages hp (isMessage_ofTrouble t)).of_nil.1

/-- A failure of no special kind stays one, whether it can be printed or not. -/
theorem exitCode_conclude_generic (p : Printer) (hc : c.exitCode = ExitCode.generic) :
    (conclude p c).exitCode = ExitCode.generic := by
  rcases exitCode_conclude p c with ⟨-, hcode⟩ | ⟨-, -, hcode⟩
  · rw [hcode, hc]
  · exact hcode

end Conclude

/-! ## What an inspection says -/

section Said

variable [Host] {p : Printer} {d : Document} {topic : Topic} {source : String} {u : Utterance}

/-- Why a result of an inspection cannot be printed without styles: standard output refuses a text,
or a count is too long to be written. -/
inductive Stops (p : Printer) (d : Document) : PrintError → Prop where
  | refused {text : String} {a : Accident} (h : p.refusal text = some a) : Stops p d (.refused a)
  | paths {found : List PathEntry} (h : d.paths = .ok found)
    (hlong : Decimal.isWritable found.length = false) : Stops p d (.unwritable (.digits ⟨none⟩))
  | components {found : List Component} (h : d.components = .ok found)
    (hlong : Decimal.isWritable found.length = false) : Stops p d (.unwritable (.digits ⟨none⟩))

theorem stops_of_listingOr (hp : p.rendering ≠ .styled) {message label : String}
    {headers : List String} (hheaders : headers.Nodup) {rows : List (List String)}
    {e : PrintError} (h : (p.print (listingOr message label headers rows)).2 = some e) :
    Stops p d e := by
  rw [listingOr] at h
  split at h
  · have hmessage : Utterance.IsMessage (.info message) := trivial
    obtain ⟨err, hprint⟩ :=
      Printer.exists_print_message (Printer.marksMessages_eq_false hp) hmessage
    rw [hprint] at h
    cases h
  · rw [Printer.print, Printer.listing_texts hp hheaders] at h
    rcases Printer.error_of_lines h with ⟨text, a, hrefusal, rfl⟩ | ⟨u, hu, -⟩
    · exact .refused hrefusal
    · obtain ⟨text, -, ⟨⟩⟩ := List.mem_map.mp hu

/-- What a field of a record holds: a text, a list of texts, or a count. -/
inductive IsRecordField : Json.Value → Prop where
  | text (s : String) : IsRecordField (.str s)
  | texts (names : List String) : IsRecordField (.array (names.map .str))
  | count (n : Int) : IsRecordField (.int n)

/-- A field has no text only if it is a count that is too long. -/
theorem IsRecordField.of_cellText {v : Json.Value} (h : IsRecordField v) {u : Unwritable}
    (hu : cellText v = .error u) :
    u = .digits ⟨none⟩ ∧ ∃ n, v = .int n ∧ Decimal.isWritable n = false := by
  cases h with
  | text s => cases hu
  | texts names =>
    have hitems : (names.map Json.Value.str).mapM cellItem = .ok names :=
      mapM_eq_ok_iff.mpr (List.forall₂_map_left_iff.mpr (List.forall₂_same.mpr fun _ _ => rfl))
    rw [cellText, hitems] at hu
    cases hu
  | count n =>
    have hwritten : (Decimal.writeInt n).mapError Unwritable.digits = .error u := hu
    rw [Decimal.writeInt] at hwritten
    split at hwritten
    · cases hwritten
    · rename_i hlong
      cases hwritten
      exact ⟨rfl, n, rfl, Bool.eq_false_iff.mpr hlong⟩

omit [Host] in
/-- Likewise it cannot be written only then. -/
theorem IsRecordField.of_isWritable {v : Json.Value} (h : IsRecordField v)
    (hv : v.isWritable = false) : ∃ n, v = .int n ∧ Decimal.isWritable n = false := by
  cases h with
  | text s => cases hv
  | texts names =>
    have hitems : Json.areWritable (names.map Json.Value.str) = true := by
      induction names with
      | nil => rfl
      | cons name names ih => exact ih hv
    rw [Json.Value.isWritable, hitems] at hv
    cases hv
  | count n => exact ⟨n, rfl, hv⟩

omit [Host] in
theorem exists_of_haveWritable {fields : Json.Fields} (h : Json.haveWritable fields = false) :
    ∃ f ∈ fields, f.2.isWritable = false := by
  induction fields with
  | nil => cases h
  | cons f fields ih =>
    rw [Json.haveWritable, Bool.and_eq_false_iff] at h
    rcases h with hf | hrest
    · exact ⟨f, List.mem_cons_self, hf⟩
    · obtain ⟨f', hf', hlong⟩ := ih hrest
      exact ⟨f', List.mem_cons_of_mem _ hf', hlong⟩

/-- Printing a record ends early where a text is refused or a count is too long. -/
theorem error_of_record (hp : p.rendering ≠ .styled) {fields : Json.Fields}
    (hfields : ∀ f ∈ fields, IsRecordField f.2) {title : Option String} {e : PrintError}
    (h : (p.record fields title).2 = some e) :
    (∃ text a, p.refusal text = some a ∧ e = .refused a)
      ∨ e = .unwritable (.digits ⟨none⟩)
        ∧ ∃ f ∈ fields, ∃ n, f.2 = .int n ∧ Decimal.isWritable n = false := by
  rw [Printer.record] at h
  cases hrendering : p.rendering with
  | styled => exact absurd hrendering hp
  | json =>
    rw [hrendering] at h
    dsimp only at h
    -- A JSON text is made as a whole before any of it is offered; plain lines are offered one by
    -- one.
    by_cases hwritable : (Json.Value.object fields).isWritable = true
    · rw [Printer.json_eq_offer hwritable, Printer.offer_eq_lines] at h
      rcases Printer.error_of_lines h with hrefused | ⟨u, hu, -⟩
      · exact .inl hrefused
      · obtain ⟨text, -, ⟨⟩⟩ := List.mem_map.mp hu
    · rw [Printer.json, Json.writeWithin, if_neg hwritable] at h
      cases h
      obtain ⟨f, hf, hlong⟩ := exists_of_haveWritable (Bool.eq_false_iff.mpr hwritable)
      exact .inr ⟨rfl, f, hf, (hfields f hf).of_isWritable hlong⟩
  | plain =>
    rw [hrendering] at h
    rcases Printer.error_of_lines h with hrefused | ⟨u, hu, rfl⟩
    · exact .inl hrefused
    · obtain ⟨f, hf, hline⟩ := List.mem_map.mp hu
      cases hcell : cellText f.2 with
      | ok text =>
        rw [hcell] at hline
        cases hline
      | error u' =>
        rw [hcell] at hline
        cases hline
        obtain ⟨rfl, hlong⟩ := (hfields f hf).of_cellText hcell
        exact .inr ⟨rfl, f, hf, hlong⟩

/-- The record of a document: texts and lists of texts, and two counts. -/
theorem exists_record_of_infoRecord (h : infoRecord d source = .ok u) :
    ∃ paths components fields title, d.paths = .ok paths ∧ d.components = .ok components
      ∧ u = .record (fields ++ [("paths", .int paths.length),
          ("components", .int components.length)]) title
      ∧ ∀ f ∈ fields, IsRecordField f.2 ∧ ∀ n, f.2 ≠ .int n := by
  rw [infoRecord] at h
  obtain ⟨info, -, h⟩ := exists_of_bind_ok h
  obtain ⟨version, -, h⟩ := exists_of_bind_ok h
  obtain ⟨servers, -, h⟩ := exists_of_bind_ok h
  obtain ⟨tags, -, h⟩ := exists_of_bind_ok h
  obtain ⟨schemes, -, h⟩ := exists_of_bind_ok h
  obtain ⟨paths, hpaths, h⟩ := exists_of_bind_ok h
  obtain ⟨components, hcomponents, h⟩ := exists_of_bind_ok h
  refine ⟨paths, components, [("title", .str info.title), ("version", .str info.version),
    ("openapi_version", .str version), ("description", .str _), ("servers", .array _),
    ("tags", .array _), ("security_schemes", .array _)], _, hpaths, hcomponents,
    (Except.ok.inj h).symm, ?_⟩
  simp only [List.forall_mem_cons]
  exact ⟨⟨.text _, nofun⟩, ⟨.text _, nofun⟩, ⟨.text _, nofun⟩, ⟨.text _, nofun⟩,
    ⟨.texts _, nofun⟩, ⟨.texts _, nofun⟩, ⟨.texts _, nofun⟩, List.forall_mem_nil _⟩

/-- **What stops the printing of a result.** -/
theorem stops_of_print (hp : p.rendering ≠ .styled) (hsaid : inspectDocument topic d source = .ok u)
    {e : PrintError} (h : (p.print u).2 = some e) : Stops p d e := by
  cases topic with
  | components =>
    obtain ⟨found, -, rfl⟩ := exists_of_map_ok hsaid
    exact stops_of_listingOr hp (by decide) h
  | paths =>
    obtain ⟨found, -, rfl⟩ := exists_of_map_ok hsaid
    exact stops_of_listingOr hp (by decide) h
  | refs =>
    cases hsaid
    exact stops_of_listingOr hp (by decide) h
  | info =>
    obtain ⟨paths, components, fields, title, hpaths, hcomponents, rfl, hfields⟩ :=
      exists_record_of_infoRecord hsaid
    -- The two counts stand last and are the only integers of the record.
    have hall : ∀ f ∈ fields ++ [("paths", .int paths.length),
        ("components", .int components.length)], IsRecordField f.2 :=
      List.forall_mem_append.mpr ⟨fun f hf => (hfields f hf).1,
        List.forall_mem_cons.mpr ⟨.count _, List.forall_mem_singleton.mpr (.count _)⟩⟩
    rcases error_of_record hp hall h with ⟨text, a, hrefusal, rfl⟩ | ⟨rfl, f, hf, n, hn, hlong⟩
    · exact .refused hrefusal
    · rcases List.mem_append.mp hf with hf | hf
      · exact absurd hn ((hfields f hf).2 n)
      · simp only [List.mem_cons, List.not_mem_nil, or_false] at hf
        rcases hf with rfl | rfl
        · cases hn
          exact .paths hpaths hlong
        · cases hn
          exact .components hcomponents hlong

end Said

/-! ## Inspections -/

section Inspections

variable [Host]

theorem failsWith_infoRecord (d : Document) (source : String) :
    FailsFor d.graph [.info, .server, .scheme] (infoRecord d source) := by
  rw [infoRecord]
  refine failsWith_bind (d.failsFor_info.mono_keepers (by simp)) fun info _ => ?_
  refine failsWith_bind d.failsFor_version fun version _ => ?_
  refine failsWith_bind (d.failsFor_servers.mono_keepers (by simp)) fun servers _ => ?_
  refine failsWith_bind d.failsFor_tags fun tags _ => ?_
  refine failsWith_bind (d.failsFor_securitySchemes.mono_keepers (by simp)) fun schemes _ => ?_
  refine failsWith_bind d.failsFor_paths fun paths _ => ?_
  refine failsWith_bind d.failsFor_components fun components _ => ?_
  exact failsWith_ok _

/-- Whatever the topic, what goes wrong has its cause in the document. -/
theorem failsWith_inspectDocument (topic : Topic) (d : Document) (source : String) :
    FailsFor d.graph [.info, .server, .scheme] (inspectDocument topic d source) := by
  cases topic with
  | components => exact d.failsFor_components.map _
  | paths => exact d.failsFor_paths.map _
  | refs => exact failsWith_ok _
  | info => exact failsWith_infoRecord d source

/-- The ends of an inspection of a document that was read, with their exit codes. What is said is
printed, or a mismatch is. Otherwise the inspection fails: because the view of the document fails
for another cause, or because something cannot be printed. Without styles, a result is always
printed unless something stops it. -/
inductive InspectionEnds (p : Printer) (topic : Topic) (d : Document) (source : String) :
    Int → Prop where
  | shown {said : Utterance} (h : inspectDocument topic d source = .ok said) :
    InspectionEnds p topic d source ExitCode.success
  | mismatched {m : Mismatch} (h : inspectDocument topic d source = .error (.mismatch m)) :
    InspectionEnds p topic d source ExitCode.document
  | failed {e : ViewError} (h : inspectDocument topic d source = .error e)
    (hother : ∀ m, e ≠ .mismatch m) (hcause : e.HasCause d.graph [.info, .server, .scheme]) :
    InspectionEnds p topic d source ExitCode.generic
  | unprinted {said : Utterance} {e : PrintError} (h : inspectDocument topic d source = .ok said)
    (he : (p.print said).2 = some e) (hstops : p.rendering ≠ .styled → Stops p d e) :
    InspectionEnds p topic d source ExitCode.generic
  | unsaid {m : Mismatch} {e : PrintError}
    (h : inspectDocument topic d source = .error (.mismatch m))
    (he : (p.printAll (Conduct.ofViewError (.mismatch m)).utterances).2 = some e) :
    InspectionEnds p topic d source ExitCode.generic

variable {w : World} {args : List String} {options : GeneralOptions} {topic : Topic}
  {source : String} {d : Document}

/-- A run that inspects a source concludes what the inspection comes to. -/
theorem run_inspect (hargs : Invocation.parse args = .run options (.inspect topic source)) :
    run w args = conclude (options.printer w) (inspectSource w topic source) := by
  rw [run, hargs]
  rfl

/-- Where the source is no document, there is only the trouble with it. -/
theorem inspectSource_unread {t : Trouble} (h : readDocument w source = .error t)
    (topic : Topic) : inspectSource w topic source = .ofTrouble t := by
  rw [inspectSource, h]

/-- Where it is one, what its view gives is said. -/
theorem inspectSource_said (hread : readDocument w source = .ok d) {said : Utterance}
    (h : inspectDocument topic d source = .ok said) : inspectSource w topic source
      = { utterances := [said], exitCode := ExitCode.success } := by
  rw [inspectSource, hread]
  simp only [h]

/-- Or what its view fails with. -/
theorem inspectSource_failed (hread : readDocument w source = .ok d) {e : ViewError}
    (h : inspectDocument topic d source = .error e) :
    inspectSource w topic source = .ofViewError e := by
  rw [inspectSource, hread]
  simp only [h]

/-- **Every run of an inspection of a document that was read has one of these ends.** -/
theorem inspectionEnds_run (hargs : Invocation.parse args = .run options (.inspect topic source))
    (hread : readDocument w source = .ok d) :
    InspectionEnds (options.printer w) topic d source (run w args).exitCode := by
  rw [run_inspect hargs]
  cases hsaid : inspectDocument topic d source with
  | ok said =>
    rw [inspectSource_said hread hsaid]
    rcases exitCode_conclude (options.printer w)
      { utterances := [said], exitCode := ExitCode.success } with ⟨-, hcode⟩ | ⟨e, he, hcode⟩
    · rw [hcode]
      exact .shown hsaid
    · rw [hcode]
      rw [printAll_singleton] at he
      exact .unprinted hsaid he fun hp => stops_of_print hp hsaid he
  | error e =>
    rw [inspectSource_failed hread hsaid]
    -- Of the failures of a view only a mismatch of shape has a message of its own, whose printing
    -- may fail in turn. The others end the run as accidents.
    have hcause := failsWith_inspectDocument topic d source e hsaid
    cases e with
    | mismatch m =>
      rcases exitCode_conclude (options.printer w) (.ofViewError (.mismatch m)) with
        ⟨-, hcode⟩ | ⟨e, he, hcode⟩
      · rw [hcode]
        exact .mismatched hsaid
      · rw [hcode]
        exact .unsaid hsaid he
    | invalid record fields =>
      rw [exitCode_conclude_generic _ rfl]
      exact .failed hsaid nofun hcause
    | unwritable e =>
      rw [exitCode_conclude_generic _ rfl]
      exact .failed hsaid nofun hcause

/-- In a document that is plain and shallow, and without styles, only the printing of a result can
make an inspection fail with another code. -/
theorem InspectionEnds.of_plain {p : Printer} {code : Int}
    (h : InspectionEnds p topic d source code) (hplain : d.graph.IsPlain)
    (hshallow : d.graph.IsShallow) (hp : p.rendering ≠ .styled) (hstops : ∀ e, ¬ Stops p d e) :
    code = ExitCode.success ∨ code = ExitCode.document := by
  cases h with
  | shown h => exact .inl rfl
  | mismatched h => exact .inr rfl
  | failed h hother hcause =>
    obtain ⟨m, rfl⟩ := hcause.isMismatch hplain hshallow
    exact absurd rfl (hother m)
  | unprinted h he hwhy => exact absurd (hwhy hp) (hstops _)
  | unsaid h he =>
    obtain ⟨err, hall⟩ := Printer.printAll_messages (Printer.marksMessages_eq_false hp)
      (isMessage_ofTrouble (.failure (Mismatch.failure _)))
    rw [Conduct.ofViewError, hall] at he
    cases he

end Inspections

end OpenApi.Command

namespace OpenApi

/-- **What views fail with.** A view of a document gives a result or fails with a mismatch, apart
from three causes in the document. An integer that is too long has no text, nor has a value with
containers nested too deeply. And the info section, the servers and the security schemes keep
mappings as they are, whose keys must stand for texts; the problems are then those of all the keys
of one part. So every run that inspects a document which was read has one of the ends above. If the
document has none of these causes, nothing is printed with styles, and nothing stops the printing,
it ends well or with the code for documents. -/
theorem Document.views_fail_for_cause [Host] (d : Document) (path method : String) :
    FailsFor d.graph [] d.version
      ∧ FailsFor d.graph [.info] d.info
      ∧ FailsFor d.graph [.server] d.servers
      ∧ FailsFor d.graph [] d.components
      ∧ FailsFor d.graph [] d.paths
      ∧ FailsFor d.graph [] d.tags
      ∧ FailsFor d.graph [.scheme] d.securitySchemes
      ∧ FailsFor d.graph [] (d.parameters path)
      ∧ FailsFor d.graph [] (d.responses path method)
      ∧ ∀ w args options topic source,
        Command.Invocation.parse args = .run options (.inspect topic source) →
        Command.readDocument w source = .ok d →
          Command.InspectionEnds (options.printer w) topic d source (Command.run w args).exitCode
            ∧ (d.graph.IsPlain → d.graph.IsShallow → (options.printer w).rendering ≠ .styled →
              (∀ e, ¬ Command.Stops (options.printer w) d e) →
                (Command.run w args).exitCode = ExitCode.success
                  ∨ (Command.run w args).exitCode = ExitCode.document) := by
  refine ⟨d.failsFor_version, d.failsFor_info, d.failsFor_servers, d.failsFor_components,
    d.failsFor_paths, d.failsFor_tags, d.failsFor_securitySchemes, d.failsFor_parameters path,
    d.failsFor_responses path method, ?_⟩
  intro w args options topic source hargs hread
  have hends := Command.inspectionEnds_run hargs hread
  exact ⟨hends, hends.of_plain⟩

/-- A contact with a number for a key. -/
example : (Document.mk ⟨#[.mapping [(.str "info", .container 1)],
      .mapping [(.str "contact", .container 2)], .mapping [(.int 1, Value.str "a")]]⟩
    (.container 0)).info
      = .error (.invalid "APIInfo" [⟨["contact", "1", "[key]"], .stringType, "1", "int"⟩]) := by
  decide +kernel

end OpenApi
