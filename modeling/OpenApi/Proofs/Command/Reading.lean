/-
What becomes of a file that is inspected.

Its bytes are decoded as text, its text as JSON or YAML. Either the document is there, or there is
one message and the exit code for documents, or there is an accident: bytes that encode no text, or
a text that is well-formed and goes beyond what can be converted. The last is what `Overtaxes`
lists; for each case it says what is wrong with the text itself, as far as that can be told from its
characters, its tokens or its nodes. `Spoils` puts bytes and text together, and a file that nothing
spoils is read in one of the two ways that are foreseen. What is said about the others is all that a
run prints (`Outcome.Says`).
-/
import OpenApi.Proofs.Command.Ending
import OpenApi.Proofs.Json.Limits
import OpenApi.Proofs.World
import OpenApi.Proofs.Yaml.Composing
import OpenApi.Proofs.Yaml.Construct

set_option autoImplicit false

namespace OpenApi

/-! ## Texts -/

/-- Why a text that is not malformed is not decoded. JSON has limits for the digits of an integer
and for the nesting of brackets. In YAML an escape can name no character, a version can have too
many digits, and tokens can nest too deeply; and the nodes can be to blame, such as a scalar with a
tag that its text does not suit. -/
inductive Overtaxes [Host] (text : String) : DecodeError → Prop where
  | digits {count : Nat} (hformat : detectFormat text = .json) (hlimit : Decimal.digitLimit < count)
    (hrun : ∃ digits, digits <:+: text.toList ∧ digits.length = count
      ∧ ∀ c ∈ digits, c.isDigit = true) :
    Overtaxes text (.json (.digits count))
  | brackets {bracket : Json.Bracket} (hformat : detectFormat text = .json)
    (hdepth : Host.brackets < Json.openings text.toList) :
    Overtaxes text (.json (.depth bracket))
  | codePoint {code : Nat} (hformat : detectFormat text = .yaml) (hcode : 0x110000 ≤ code) :
    Overtaxes text (.yaml text.toList (.codePoint code))
  | version {count : Nat} (hformat : detectFormat text = .yaml)
    (hlimit : Decimal.digitLimit < count) :
    Overtaxes text (.yaml text.toList (.digits ⟨some count⟩))
  | nesting (hformat : detectFormat text = .yaml) (hdepth : Host.nodes
      < 2 * Yaml.nesting 0 ((Yaml.TokenStream.ofText text.toList).tokens.drop 1)) :
    Overtaxes text (.yaml text.toList .tooDeep)
  | nodes {g : Yaml.NodeGraph} {e : Yaml.Error} (hformat : detectFormat text = .yaml)
    (hnodes : Yaml.NodeGraph.ofTokens (Yaml.TokenStream.ofText text.toList) = .ok (some g))
    (hblames : Yaml.Blames g.nodes e) : Overtaxes text (.yaml text.toList e)

/-- A YAML text that is not decoded is malformed, or its characters, its tokens or its nodes are to
blame. -/
theorem Yaml.cases_of_decode [Host] {text : String} {e : Yaml.Error}
    (h : Yaml.decode text = .error e) :
    e.isMalformed = true
      ∨ e.IsOfTokens ⟨Host.nodes, nesting 0 ((TokenStream.ofText text.toList).tokens.drop 1)⟩
      ∨ ∃ g, NodeGraph.ofTokens (TokenStream.ofText text.toList) = .ok (some g)
        ∧ MayFail g.nodes e := by
  unfold Yaml.decode at h
  extract_lets cs nodes at h
  have hnodes (hrun : nodes () = .error e) :
      e.IsOfTokens ⟨Host.nodes, nesting 0 ((TokenStream.ofText cs).tokens.drop 1)⟩
        ∨ ∃ g, NodeGraph.ofTokens (TokenStream.ofText cs) = .ok (some g)
          ∧ MayFail g.nodes e := by
    dsimp only [nodes] at hrun
    -- All nodes are composed before any of them is constructed.
    cases htokens : NodeGraph.ofTokens (TokenStream.ofText cs) with
    | error e' =>
      rw [htokens] at hrun
      cases hrun
      exact .inl (NodeGraph.isOfTokens_of_ofTokens (TokenStream.ends_ofText cs) htokens)
    | ok found =>
      rw [htokens] at hrun
      cases found with
      | none => cases hrun
      | some g =>
        rcases g.document_cases with ⟨d, hd, -⟩ | ⟨e', he', hfail⟩
        · cases hrun.symm.trans hd
        · cases hrun.symm.trans he'
          exact .inr ⟨g, rfl, hfail⟩
  split at h
  · cases h
    exact .inl rfl
  · exact .inr (hnodes h)

theorem overtaxes_of_decode [Host] {text : String} {e : DecodeError}
    (h : decode text none = .error e) (hform : e.isMalformed = false) : Overtaxes text e := by
  unfold decode at h
  rw [Option.getD_none] at h
  cases hformat : detectFormat text with
  | json =>
    rw [hformat] at h
    cases hjson : Json.decode text with
    | ok v =>
      rw [hjson] at h
      cases h
    | error e' =>
      rw [hjson] at h
      cases h
      cases e' with
      | malformed problem line column offset => cases hform
      | digits count =>
        obtain ⟨hlimit, hrun⟩ := Json.digits_of_decode hjson
        exact .digits hformat hlimit hrun
      | depth bracket => exact .brackets hformat (Json.depth_of_decode hjson)
  | yaml =>
    rw [hformat] at h
    cases hyaml : Yaml.decode text with
    | ok d =>
      rw [hyaml] at h
      cases h
    | error e' =>
      rw [hyaml] at h
      cases h
      -- A YAML text can fail as it is read, as its tokens are composed, or as its nodes are
      -- constructed.
      rcases Yaml.cases_of_decode hyaml with hmalformed | htokens | ⟨g, hnodes, hfail⟩
      · exact absurd (hmalformed.symm.trans hform) (by decide)
      · rcases htokens with hchars | ⟨rfl, hdepth⟩
        · cases hchars with
          | marked f => cases hform
          | codePoint hcode => exact .codePoint hformat hcode
          | digits hlimit => exact .version hformat hlimit
        · dsimp only at hdepth
          exact .nesting hformat hdepth
      · rcases hfail with hmalformed | hblames
        · exact absurd (hmalformed.symm.trans hform) (by decide)
        · exact .nodes hformat hnodes hblames

example : (match decode "a: 2001-13-01\n" none with
    | .ok _ => none
    | .error e => some (e.kind, e.message)) = some ("ValueError", "month must be in 1..12") := by
  decide +kernel

/-! ## Files -/

namespace Command

/-- A source is the path of a file with these bytes. -/
structure IsFile [Host] (w : World) (source : String) (data : List UInt8) : Prop where
  input : source ≠ "-"
  address : (source.startsWith "http://" || source.startsWith "https://") = false
  bytes : w.fileBytes? source = .ok (some data)

/-- Bytes hold a document. -/
def Decodes [Host] (data : List UInt8) (d : Document) : Prop :=
  ∃ written, data = Text.bytes written ∧ Text.isAllBlank (Text.unified written) = false
    ∧ decode (Text.unified written) none = .ok d

/-- Bytes are the text of a file that is refused: it is blank, or it is malformed. -/
inductive Refuses [Host] (source : String) (data : List UInt8) : Failure → Prop where
  | blank {written : String} (hdata : data = Text.bytes written)
    (hblank : Text.isAllBlank (Text.unified written) = true) :
    Refuses source data { kind := .source, message := (SourceError.emptyFile source).message }
  | malformed {written : String} {e : DecodeError} (hdata : data = Text.bytes written)
    (hblank : Text.isAllBlank (Text.unified written) = false)
    (hdecode : decode (Text.unified written) none = .error e) (hform : e.isMalformed = true) :
    Refuses source data { kind := .decode, message := e.message }

/-- What makes the reading of bytes this accident: they encode no text, or the text overtaxes its
decoding. -/
inductive Spoils [Host] (data : List UInt8) : Accident → Prop where
  | bytes {fault : Text.Utf8Fault} (hnone : ∀ written, data ≠ Text.bytes written)
    (hfault : Text.decodeUtf8 data = .error fault) : Spoils data (World.undecodable fault)
  | text {written : String} {e : DecodeError} (hdata : data = Text.bytes written)
    (hblank : Text.isAllBlank (Text.unified written) = false)
    (hdecode : decode (Text.unified written) none = .error e) (hform : e.isMalformed = false)
    (hcause : Overtaxes (Text.unified written) e) : Spoils data ⟨e.kind, e.message⟩

section Files

variable [Host] {w : World} {source : String} {data : List UInt8}

theorem IsFile.readSource (h : IsFile w source data) :
    readSource w source = readFile w source := by
  rw [OpenApi.readSource, if_neg h.input, h.address, if_neg Bool.false_ne_true]

theorem IsFile.readDocument_undecodable (h : IsFile w source data) {fault : Text.Utf8Fault}
    (hfault : Text.decodeUtf8 data = .error fault) :
    readDocument w source = .error (.accident (World.undecodable fault)) := by
  have htext : w.fileText? source = .error (.accident (World.undecodable fault)) :=
    World.fileText?_eq_error_iff.mpr (.inr ⟨data, fault, h.bytes, hfault, rfl⟩)
  rw [readDocument, h.readSource]
  unfold readFile
  rw [htext]
  rfl

theorem IsFile.readDocument_text {written : String} (h : IsFile w source (Text.bytes written)) :
    readDocument w source =
      if Text.isAllBlank (Text.unified written) then
        .error (.failure { kind := .source, message := (SourceError.emptyFile source).message })
      else (decode (Text.unified written) none).mapError decodeTrouble := by
  have htext : w.fileText? source = .ok (some (Text.unified written)) :=
    World.fileText?_eq_some_iff.mpr ⟨written, h.bytes, rfl⟩
  rw [readDocument, h.readSource]
  unfold readFile
  rw [htext]
  dsimp only
  by_cases hblank : Text.isAllBlank (Text.unified written) = true
  · rw [if_pos hblank, if_pos hblank]
    rfl
  · rw [if_neg hblank, if_neg hblank]
    dsimp only
    cases decode (Text.unified written) none <;> rfl

theorem Decodes.readDocument {d : Document} (h : Decodes data d) (hfile : IsFile w source data) :
    readDocument w source = .ok d := by
  obtain ⟨written, rfl, hblank, hdecode⟩ := h
  rw [hfile.readDocument_text, hblank, if_neg Bool.false_ne_true, hdecode]
  rfl

theorem Refuses.readDocument {f : Failure} (h : Refuses source data f)
    (hfile : IsFile w source data) : readDocument w source = .error (.failure f) := by
  cases h with
  | blank hdata hblank =>
    subst hdata
    rw [hfile.readDocument_text, if_pos hblank]
  | malformed hdata hblank hdecode hform =>
    subst hdata
    rw [hfile.readDocument_text, hblank, if_neg Bool.false_ne_true, hdecode]
    show Except.error (decodeTrouble _) = _
    rw [decodeTrouble, if_pos hform]

theorem Spoils.readDocument {a : Accident} (h : Spoils data a) (hfile : IsFile w source data) :
    readDocument w source = .error (.accident a) := by
  cases h with
  | bytes _ hfault => exact hfile.readDocument_undecodable hfault
  | text hdata hblank hdecode hform _ =>
    subst hdata
    rw [hfile.readDocument_text, hblank, if_neg Bool.false_ne_true, hdecode]
    show Except.error (decodeTrouble _) = _
    rw [decodeTrouble, hform, if_neg Bool.false_ne_true]

/-- What comes of reading a source is what its bytes are. -/
def ReadAs (source : String) (data : List UInt8) : Except Trouble Document → Prop
  | .ok d => Decodes data d
  | .error (.failure f) => Refuses source data f
  | .error (.accident a) => Spoils data a

/-- Bytes are one of these three. -/
theorem cases_of_bytes (source : String) (data : List UInt8) :
    (∃ d, Decodes data d) ∨ (∃ f, Refuses source data f) ∨ ∃ a, Spoils data a := by
  cases htext : Text.decodeUtf8 data with
  | error fault => exact .inr (.inr ⟨_, .bytes (World.ne_bytes_of_error htext) htext⟩)
  | ok written =>
    have hdata := Text.decodeUtf8_eq_ok_iff.mp htext
    cases hblank : Text.isAllBlank (Text.unified written) with
    | true => exact .inr (.inl ⟨_, .blank hdata hblank⟩)
    | false =>
      cases hdecode : decode (Text.unified written) none with
      | ok d => exact .inl ⟨d, written, hdata, hblank, hdecode⟩
      | error e =>
        cases hform : e.isMalformed with
        | true => exact .inr (.inl ⟨_, .malformed hdata hblank hdecode hform⟩)
        | false =>
          have hcause := overtaxes_of_decode hdecode hform
          exact .inr (.inr ⟨_, .text hdata hblank hdecode hform hcause⟩)

/-- **There is no fourth way to read a file.** -/
theorem IsFile.readAs (h : IsFile w source data) :
    ReadAs source data (readDocument w source) := by
  rcases cases_of_bytes source data with ⟨d, hd⟩ | ⟨f, hf⟩ | ⟨a, ha⟩
  · rw [hd.readDocument h]
    exact hd
  · rw [hf.readDocument h]
    exact hf
  · rw [ha.readDocument h]
    exact ha

variable {args : List String} {options : GeneralOptions} {topic : Topic}

/-- A failure is said, and ends the run with the exit code for documents. -/
theorem Refuses.says {f : Failure} (h : Refuses source data f) (hfile : IsFile w source data)
    (hargs : Invocation.parse args = .run options (.inspect topic source)) :
    (run w args).Says (options.printer w) f.message ExitCode.document := by
  rw [run_inspect hargs, inspectSource_unread (h.readDocument hfile)]
  cases h <;> exact says_conclude _ _ _

/-- So is an accident, which ends it as a failure of no special kind. -/
theorem Spoils.says {a : Accident} (h : Spoils data a) (hfile : IsFile w source data)
    (hargs : Invocation.parse args = .run options (.inspect topic source)) :
    (run w args).Says (options.printer w) s!"Unexpected error: {a.text}" ExitCode.generic := by
  rw [run_inspect hargs, inspectSource_unread (h.readDocument hfile)]
  exact says_conclude _ _ _

end Files

/-- **A file is read cleanly, unless it spoils its reading.** Cleanly means that the document is
there, or that every run that inspects the file says one thing and ends with the exit code for
documents. The file is read as a document, refused or spoiled as its bytes are, and there is no
other way; and an accident is all that a run says, too, but with the exit code for failures of no
special kind. -/
theorem reads_cleanly_unless_spoiled [Host] {w : World} {source : String} {data : List UInt8}
    (h : IsFile w source data) :
    (((∃ d, readDocument w source = .ok d)
        ∨ ∃ f, readDocument w source = .error (.failure f) ∧ ∀ args options topic,
          Invocation.parse args = .run options (.inspect topic source) →
            (run w args).Says (options.printer w) f.message ExitCode.document)
      ↔ ∀ a, ¬ Spoils data a)
      ∧ (∀ d, readDocument w source = .ok d ↔ Decodes data d)
      ∧ (∀ f, readDocument w source = .error (.failure f) ↔ Refuses source data f)
      ∧ (∀ a, readDocument w source = .error (.accident a) ↔ Spoils data a)
      ∧ ∀ a, Spoils data a → ∀ args options topic,
        Invocation.parse args = .run options (.inspect topic source) →
          (run w args).Says (options.printer w) s!"Unexpected error: {a.text}"
            ExitCode.generic := by
  have hread := h.readAs
  refine ⟨⟨fun hclean a ha => ?_, fun hnone => ?_⟩, fun d => ⟨fun hd => ?_, (·.readDocument h)⟩,
    fun f => ⟨fun hf => ?_, (·.readDocument h)⟩, fun a => ⟨fun ha => ?_, (·.readDocument h)⟩,
    fun a ha args options topic hargs => ha.says h hargs⟩
  · have hspoiled := ha.readDocument h
    rcases hclean with ⟨d, hd⟩ | ⟨f, hf, -⟩
    · cases hspoiled.symm.trans hd
    · cases hspoiled.symm.trans hf
  · rcases cases_of_bytes source data with ⟨d, hd⟩ | ⟨f, hf⟩ | ⟨a, ha⟩
    · exact .inl ⟨d, hd.readDocument h⟩
    · exact .inr ⟨f, hf.readDocument h, fun args options topic hargs => hf.says h hargs⟩
    · exact absurd ha (hnone a)
  -- what the bytes are tells how they are read, so each way of reading goes back to one of bytes
  · rwa [hd] at hread
  · rwa [hf] at hread
  · rwa [ha] at hread

/-- A file whose only byte starts no character. -/
def strayFileWorld : World where
  entries := [("/work/a.yaml", .file [0xFF])]
  environment := []
  platform := "Linux"
  home := some "/root"
  directory := "/work"
  input := []
  terminal := false
  refusal := encodingAccident?
  request := fun _ => .unreachable ""
  serving := fun _ => .finished

theorem isFile_strayFileWorld : IsFile strayFileWorld "a.yaml" [0xFF] where
  input := by decide
  address := by decide +kernel
  bytes := by
    have hlookup : strayFileWorld.lookup (Path.normal "a.yaml")
        = .found ["work", "a.yaml"] (.file [0xFF]) := by decide +kernel
    rw [World.fileBytes?, hlookup]
    rfl

/-- A run that inspects this file says that a byte cannot be decoded. -/
theorem reads_cleanly_unless_spoiled_strayByte :
    IsFile strayFileWorld "a.yaml" [0xFF]
      ∧ (∃ a, Spoils [0xFF] a ∧ readDocument strayFileWorld "a.yaml" = .error (.accident a))
      ∧ run strayFileWorld ["inspect", "info", "a.yaml"] = ⟨⟨"", "Error: Unexpected error: "
          ++ "UnicodeDecodeError: 'utf-8' codec can't decode byte 0xff in position 0: "
          ++ "invalid start byte\n"⟩, ExitCode.generic, none⟩ := by
  obtain ⟨-, -, -, haccident, hsaid⟩ := reads_cleanly_unless_spoiled isFile_strayFileWorld
  have hfault : Text.decodeUtf8 [0xFF] = .error ⟨.badLead, 0, 0xFF, 1⟩ := rfl
  have hspoils : Spoils [0xFF] (World.undecodable ⟨.badLead, 0, 0xFF, 1⟩) :=
    .bytes (World.ne_bytes_of_error hfault) hfault
  have hargs : Invocation.parse ["inspect", "info", "a.yaml"]
      = .run {} (.inspect .info "a.yaml") := by
    cbv
  have hmessage : Text.escapeSurrogates ("Error: " ++
      s!"Unexpected error: {(World.undecodable ⟨.badLead, 0, 0xFF, 1⟩).text}" ++ "\n")
      = "Error: Unexpected error: UnicodeDecodeError: 'utf-8' codec can't decode byte 0xff in "
        ++ "position 0: invalid start byte\n" := by
    decide +kernel
  refine ⟨isFile_strayFileWorld, ⟨_, hspoils, (haccident _).mpr hspoils⟩, ?_⟩
  rw [(hsaid _ hspoils _ _ _ hargs).plain rfl, hmessage]
  rfl

end Command

end OpenApi
