/-
What is present and what views show of it.

A check asks whether the version, the title and the like are there, and views turn them into texts.
The two agree because only null and the empty text are shown by the empty text
(`text_eq_empty_iff_isMissing`). So what counts as missing is what a view shows as empty, and what
is present is shown by something.

They part where a value has no text. A check is content with an integer of any size and with
containers of any depth, but an integer that is too long has no text, nor has a container that nests
too deeply, and then the view fails (`version_of_long`). Apart from that the info section fails only
for the keys of the two mappings that it keeps.
-/
import OpenApi.Host.Standard
import OpenApi.Proofs.Check.Verdict
import OpenApi.Proofs.Document.Text
import OpenApi.Proofs.View.Failure

set_option autoImplicit false

namespace OpenApi

open View

/-! ## Fields -/

namespace View

theorem ok_of_written {α : Type} {x : Except Unwritable α} {a : α} (h : written x = .ok a) :
    x = .ok a := by
  cases x with
  | ok b =>
    cases h
    rfl
  | error e => cases h

theorem exists_of_written_error {α : Type} {x : Except Unwritable α} {e : ViewError}
    (h : written x = .error e) : ∃ e', x = .error e' ∧ e = .unwritable e' := by
  cases x with
  | ok a => cases h
  | error e' =>
    cases h
    exact ⟨e', rfl, rfl⟩

variable [Host] {g : Graph} {v : Value}

/-- **What a view shows as empty is what counts as missing.** -/
theorem text_eq_empty_iff_isMissing {text : String} (h : View.text g v = .ok text) :
    text = "" ↔ Checker.isMissing v = true := by
  rw [Checker.isMissing, Bool.or_eq_true, beq_iff_eq]
  rw [View.text] at h
  by_cases hnull : v.isNull = true
  · rw [if_pos hnull] at h
    exact iff_of_true (Except.ok.inj h).symm (.inl hnull)
  · rw [if_neg hnull] at h
    rw [Graph.text_eq_empty_iff (ok_of_written h), or_iff_right hnull]

/-- A view of a value fails only if the value has no text. -/
theorem text_eq_error {e : ViewError} (h : View.text g v = .error e) :
    ∃ e', g.text v = .error e' ∧ e = .unwritable e' := by
  rw [View.text] at h
  split at h
  · cases h
  · exact exists_of_written_error h

theorem optionalText_eq_error {e : ViewError} (h : optionalText g v = .error e) :
    ∃ e', g.text v = .error e' ∧ e = .unwritable e' := by
  rw [optionalText] at h
  split at h
  · cases h
  · cases htext : g.text v with
    | ok text =>
      rw [htext] at h
      cases h
    | error e' =>
      rw [htext] at h
      cases h
      exact ⟨e', rfl, rfl⟩

/-- A value that is not missing is shown by something, if it has a text. -/
theorem text_of_present (h : Checker.isMissing v = false) :
    (∃ text, View.text g v = .ok text ∧ text ≠ "")
      ∨ ∃ e, g.text v = .error e ∧ View.text g v = .error (.unwritable e) := by
  cases htext : View.text g v with
  | ok text =>
    refine .inl ⟨text, rfl, fun hempty => ?_⟩
    rw [(text_eq_empty_iff_isMissing htext).mp hempty] at h
    cases h
  | error e =>
    obtain ⟨e', he, rfl⟩ := text_eq_error htext
    exact .inr ⟨e', he, rfl⟩

end View

/-! ## Documents -/

/-- A value is a mapping with a key that stands for no text. -/
def Graph.HasForeignKey (g : Graph) (v : Value) : Prop :=
  ∃ entries, g.mapping? v = some entries ∧ ∃ e ∈ entries, ∃ problem, keyText? e.1 = .error problem

section Causes

variable [Host]

/-- A value of a document has no text, because of an integer that is too long or because the value
nests too deeply. -/
structure Graph.LacksText (g : Graph) (v : Value) (e : Unwritable) : Prop where
  fails : g.text v = .error e
  cause : e.TellsAgainst g.IsWritable (¬ g.NestsBeyond Host.containers [] v)

/-- Why the view of an info section fails: a field that is shown has no text, or a mapping that is
kept has a key that stands for none. -/
inductive InfoFailure (g : Graph) (part : Entries) : ViewError → Prop where
  | unwritable {name : String} {e : Unwritable} :
      name ∈ ["title", "version", "description"] → g.LacksText (part.read name) e →
      InfoFailure g part (.unwritable e)
  | invalid {name : String} :
      name ∈ Keeper.info.fields → g.HasForeignKey (part.read name) →
      InfoFailure g part (.invalid Keeper.info.record (g.keptProblems Keeper.info.fields part))

/-- What is read from a part of a document has no text only for these causes. -/
theorem Graph.HasPart.lacksText {g : Graph} {part : Entries} (h : g.HasPart part) {name : String}
    {e : Unwritable} (he : g.text (part.read name) = .error e) : g.LacksText (part.read name) e :=
  ⟨he, g.failsWith_text_nesting (fun hg => Entries.read_isWritable (h.isWritable hg) name) e he⟩

theorem exists_foreign_key {field : String} {entries : Entries}
    (h : keyProblems field entries ≠ []) :
    ∃ e ∈ entries, ∃ problem, keyText? e.1 = .error problem := by
  by_contra hall
  apply h
  apply keyProblems_of_text
  intro e he
  cases hkey : keyText? e.1 with
  | ok name => exact ⟨name, rfl⟩
  | error problem => exact absurd ⟨e, he, problem, hkey⟩ hall

/-- A mapping that is not kept has a key that stands for no text. -/
theorem Graph.hasForeignKey_of_problems {g : Graph} {field : String} {v : Value}
    (h : keyProblems field ((g.mapping? v).getD []) ≠ []) : g.HasForeignKey v := by
  cases hv : g.mapping? v with
  | none =>
    rw [hv] at h
    exact absurd rfl h
  | some entries =>
    rw [hv, Option.getD_some] at h
    exact ⟨entries, hv, exists_foreign_key h⟩

theorem Graph.exists_hasForeignKey {g : Graph} {fields : List String} {part : Entries}
    (h : g.keptProblems fields part ≠ []) : ∃ name ∈ fields, g.HasForeignKey (part.read name) := by
  rw [keptProblems, Ne, List.flatMap_eq_nil_iff] at h
  obtain ⟨name, hname, hne⟩ := not_forall₂.mp h
  exact ⟨name, hname, hasForeignKey_of_problems hne⟩

end Causes

theorem Graph.isNull_of_mapping {g : Graph} {v : Value} {entries : Entries}
    (h : g.mapping? v = some entries) : v.isNull = false := by
  rw [Bool.eq_false_iff]
  intro hnull
  rw [Checker.mapping?_of_isNull hnull] at h
  cases h

section Documents

variable [Host] {d : Document} {root part : Entries}

omit [Host] in
/-- The top of a document whose root is a mapping. -/
theorem Document.top_of_mapping (hroot : d.graph.mapping? d.root = some root) :
    d.top = .ok root := by
  rw [top, Graph.isNull_of_mapping hroot, Graph.asMapping_of_mapping hroot]
  rfl

theorem Document.version_of_mapping (hroot : d.graph.mapping? d.root = some root) :
    d.version = View.text d.graph
      (if d.graph.truthy (root.read "openapi") then root.read "openapi"
        else root.read "swagger") := by
  rw [version, top_of_mapping hroot]
  rfl

theorem Document.info_of_mapping (hroot : d.graph.mapping? d.root = some root)
    (hpart : d.graph.mapping? (root.read "info") = some part) :
    d.info = do
      let title ← View.text d.graph (part.read "title")
      let version ← View.text d.graph (part.read "version")
      let description ← optionalText d.graph (part.read "description")
      let (contact, license) ← validated "APIInfo"
        ((optionalMapping d.graph "contact" (part.read "contact")).both
          (optionalMapping d.graph "license" (part.read "license")))
      return { title, version, description, contact, license } := by
  have hsection : checked (d.graph.getMapping root "info" "info")
      = .ok ⟨part, (root.read "info").container?⟩ := by
    unfold Graph.getMapping
    dsimp only
    rw [Graph.isNull_of_mapping hpart, Graph.asMapping_of_mapping hpart]
    rfl
  rw [info, top_of_mapping hroot]
  show (checked (d.graph.getMapping root "info" "info") >>= _) = _
  rw [hsection]
  rfl

/-- The two mappings of an info section are kept, or one of them has a key that stands for no
text. -/
theorem kept_cases (g : Graph) (part : Entries) :
    (∃ kept, validated "APIInfo" ((optionalMapping g "contact" (part.read "contact")).both
        (optionalMapping g "license" (part.read "license"))) = .ok kept)
      ∨ ∃ e, validated "APIInfo" ((optionalMapping g "contact" (part.read "contact")).both
          (optionalMapping g "license" (part.read "license"))) = .error e
        ∧ InfoFailure g part e := by
  rcases g.both_optionalMapping_cases "contact" "license" part with
    ⟨-, kept, hok⟩ | ⟨hne, hproblems⟩
  · rw [hok]
    exact .inl ⟨kept, rfl⟩
  · rw [hproblems]
    obtain ⟨name, hname, hforeign⟩ := Graph.exists_hasForeignKey hne
    exact .inr ⟨_, rfl, .invalid hname hforeign⟩

/-- **The view of an info section** shows its title and its version, or fails for a cause. -/
theorem Document.info_cases (hroot : d.graph.mapping? d.root = some root)
    (hpart : d.graph.mapping? (root.read "info") = some part) :
    (∃ info, d.info = .ok info ∧ View.text d.graph (part.read "title") = .ok info.title
        ∧ View.text d.graph (part.read "version") = .ok info.version)
      ∨ ∃ e, d.info = .error e ∧ InfoFailure d.graph part e := by
  have hheld : d.graph.HasPart part := .inr ⟨_, hpart⟩
  rw [info_of_mapping hroot hpart]
  -- The texts are made in this order, and the first that fails ends the view.
  cases htitle : View.text d.graph (part.read "title") with
  | error e =>
    obtain ⟨e', he, rfl⟩ := View.text_eq_error htitle
    exact .inr ⟨_, rfl, .unwritable (by simp) (hheld.lacksText he)⟩
  | ok title =>
    cases hversion : View.text d.graph (part.read "version") with
    | error e =>
      obtain ⟨e', he, rfl⟩ := View.text_eq_error hversion
      exact .inr ⟨_, rfl, .unwritable (by simp) (hheld.lacksText he)⟩
    | ok version =>
      cases hdescription : optionalText d.graph (part.read "description") with
      | error e =>
        obtain ⟨e', he, rfl⟩ := View.optionalText_eq_error hdescription
        exact .inr ⟨_, rfl, .unwritable (by simp) (hheld.lacksText he)⟩
      | ok description =>
        rcases kept_cases d.graph part with ⟨kept, hkept⟩ | ⟨e, hkept, hfails⟩
        · rw [hkept]
          exact .inl ⟨_, rfl, rfl, rfl⟩
        · rw [hkept]
          exact .inr ⟨_, rfl, hfails⟩

omit [Host] in
/-- A value that counts as true is not missing. -/
theorem isMissing_of_truthy {g : Graph} {v : Value} (h : g.truthy v = true) :
    Checker.isMissing v = false := by
  rw [Checker.isMissing_eq_false_iff]
  constructor
  · rintro rfl
    cases h
  · rintro rfl
    cases h

/-- The view of the version shows something where one of its two names counts as true, if that has a
text. -/
theorem Document.version_cases (hroot : d.graph.mapping? d.root = some root)
    (h : d.graph.truthy (root.read "openapi") = true
      ∨ d.graph.truthy (root.read "swagger") = true) :
    (∃ version, d.version = .ok version ∧ version ≠ "")
      ∨ ∃ name ∈ ["openapi", "swagger"], ∃ e, d.graph.LacksText (root.read name) e
        ∧ d.version = .error (.unwritable e) := by
  have hheld : d.graph.HasPart root := .inr ⟨_, hroot⟩
  rw [version_of_mapping hroot]
  by_cases hpresent : d.graph.truthy (root.read "openapi") = true
  · rw [if_pos hpresent]
    rcases View.text_of_present (isMissing_of_truthy hpresent) with hshown | ⟨e, he, hfails⟩
    · exact .inl hshown
    · exact .inr ⟨"openapi", by simp, e, hheld.lacksText he, hfails⟩
  · rw [if_neg hpresent]
    have hold := h.resolve_left hpresent
    rcases View.text_of_present (isMissing_of_truthy hold) with hshown | ⟨e, he, hfails⟩
    · exact .inl hshown
    · exact .inr ⟨"swagger", by simp, e, hheld.lacksText he, hfails⟩

omit [Host] in
/-- **A field of the info section is reported exactly if it is missing.** -/
theorem Checker.reports_iff_isMissing (c : Checker) (tree : Tree.Arena) {g : Graph}
    (hpart : g.mapping? (root.read "info") = some part) {name : String}
    (hname : name ∈ infoFields) :
    (∃ e ∈ c.presence g root tree, e.message = s!"Missing required field: info.{name}")
      ↔ isMissing (part.read name) = true := by
  have hmessage : ∀ message pair, (c.located message pair).message = message := by
    intro message pair
    cases pair <;> rfl
  have hinfo := Graph.isNull_of_mapping hpart
  -- no two of the messages are the same
  have hother : ∀ name ∈ infoFields,
      "Missing required field: openapi (or swagger)" ≠ s!"Missing required field: info.{name}" := by
    decide
  have hsame : ∀ a ∈ infoFields, ∀ b ∈ infoFields,
      s!"Missing required field: info.{a}" = s!"Missing required field: info.{b}" → a = b := by
    decide
  unfold presence
  dsimp only
  rw [if_neg (by simp [hinfo]), hpart, Option.getD_some]
  constructor
  · rintro ⟨e, he, heq⟩
    rcases List.mem_append.mp he with he | he
    · split at he
      · cases he
      · rw [List.mem_singleton.mp he] at heq
        exact absurd heq (hother name hname)
    · obtain ⟨field, hfield, rfl⟩ := List.mem_map.mp he
      rw [hmessage] at heq
      obtain ⟨hmem, hmissing⟩ := List.mem_filter.mp hfield
      rw [← hsame field hmem name hname heq]
      exact hmissing
  · intro hmissing
    refine ⟨c.located _ _, List.mem_append_right _ (List.mem_map_of_mem ?_), hmessage _ _⟩
    exact List.mem_filter.mpr ⟨hname, hmissing⟩

/-- A version that is an integer too long to be written counts as present, and its view fails. -/
theorem Document.version_of_long (hroot : d.graph.mapping? d.root = some root) {n : Int}
    (hversion : root.read "openapi" = .scalar (.int n)) (hlong : Decimal.isWritable n = false) :
    d.graph.truthy (root.read "openapi") = true
      ∧ d.version = .error (.unwritable (.digits ⟨none⟩)) := by
  have hzero : n ≠ 0 := by
    rintro rfl
    rw [Decimal.isWritable, decide_eq_false_iff_not] at hlong
    exact hlong (Nat.pos_of_ne_zero fun h => by rw [Decimal.leastUnwritable_eq] at h; simp at h)
  have htruthy : d.graph.truthy (root.read "openapi") = true := by
    rw [hversion]
    exact bne_iff_ne.mpr hzero
  refine ⟨htruthy, ?_⟩
  rw [version_of_mapping hroot, if_pos htruthy, hversion]
  show written (d.graph.text (.scalar (.int n))) = _
  rw [d.graph.text_of_long hlong]
  rfl

end Documents

/-- **Checks and views agree on what is present.** If nothing is reported missing, the version is
shown by something, and so are the title and the version of the info section, as far as these views
do not fail. They fail for an integer that is too long to be written and for containers that nest
too deeply to be shown, so not in a document without these, and the info section also for a key that
stands for no text in one of the two mappings it keeps. Where the info section is shown, its title
and its version are empty exactly if they are reported. -/
theorem presence_agrees_with_views [Host] (c : Checker) (tree : Tree.Arena) (d : Document)
    {root : Entries} (hroot : d.graph.mapping? d.root = some root) :
    (c.presence d.graph root tree = [] →
        ((∃ version, d.version = .ok version ∧ version ≠ "")
          ∨ ∃ name ∈ ["openapi", "swagger"], ∃ e, d.graph.LacksText (root.read name) e
            ∧ d.version = .error (.unwritable e))
        ∧ ∃ part, d.graph.mapping? (root.read "info") = some part
          ∧ ((∃ info, d.info = .ok info ∧ info.title ≠ "" ∧ info.version ≠ "")
            ∨ ∃ e, d.info = .error e ∧ InfoFailure d.graph part e))
      ∧ (d.graph.IsWritable → d.graph.IsShallow → ∀ e, d.version ≠ .error (.unwritable e)
        ∧ d.info ≠ .error (.unwritable e))
      ∧ ∀ part info, d.graph.mapping? (root.read "info") = some part → d.info = .ok info →
        ((∃ e ∈ c.presence d.graph root tree,
            e.message = "Missing required field: info.title") ↔ info.title = "")
          ∧ ((∃ e ∈ c.presence d.graph root tree,
            e.message = "Missing required field: info.version") ↔ info.version = "") := by
  refine ⟨?_, ?_, ?_⟩
  · intro hnil
    obtain ⟨hversion, part, hpart, htitle, htitle', hnumber, hnumber'⟩ :=
      (c.presence_eq_nil_iff d.graph root tree).mp hnil
    refine ⟨Document.version_cases hroot hversion, part, hpart, ?_⟩
    -- What is not reported is not missing, and what is not missing is shown by some text.
    have htitlePresent := (Checker.isMissing_eq_false_iff _).mpr ⟨htitle, htitle'⟩
    have hnumberPresent := (Checker.isMissing_eq_false_iff _).mpr ⟨hnumber, hnumber'⟩
    rcases Document.info_cases hroot hpart with ⟨info, hinfo, hshown, hshown'⟩ | hfails
    · refine .inl ⟨info, hinfo, ?_, ?_⟩
      · intro hempty
        rw [(View.text_eq_empty_iff_isMissing hshown).mp hempty] at htitlePresent
        cases htitlePresent
      · intro hempty
        rw [(View.text_eq_empty_iff_isMissing hshown').mp hempty] at hnumberPresent
        cases hnumberPresent
    · exact .inr hfails
  · intro hwritable hshallow e
    have hfails : FailsFor d.graph [] d.version := d.failsFor_version
    -- Each of the two failures to write tells against one of the two hypotheses.
    have hnone : ¬ e.TellsAgainst d.graph.IsWritable d.graph.IsShallow := by
      cases e with
      | digits _ => exact not_not_intro hwritable
      | depth => exact not_not_intro hshallow
    exact ⟨fun hversion => hnone (hfails _ hversion), fun hinfo => hnone (d.failsFor_info _ hinfo)⟩
  · intro part info hpart hinfo
    rcases Document.info_cases hroot hpart with ⟨info', hinfo', hshown, hshown'⟩ | ⟨e, he, -⟩
    · rw [hinfo, Except.ok.injEq] at hinfo'
      subst hinfo'
      rw [View.text_eq_empty_iff_isMissing hshown, View.text_eq_empty_iff_isMissing hshown']
      exact ⟨c.reports_iff_isMissing tree hpart (show "title" ∈ Checker.infoFields by decide),
        c.reports_iff_isMissing tree hpart (show "version" ∈ Checker.infoFields by decide)⟩
    · rw [hinfo] at he
      cases he

/-- A document whose title is the number zero and whose version is the truth value false. -/
def zeroTitle : Document :=
  ⟨⟨#[.mapping [(.str "swagger", .scalar (.int 2)), (.str "info", .container 1)],
      .mapping [(.str "title", .scalar (.int 0)), (.str "version", .scalar (.bool false))]]⟩,
    .container 0⟩

/-- Zero and false are present, and are shown as such. -/
theorem presence_agrees_with_views_zeroTitle :
    let root : Entries := [(.str "swagger", .scalar (.int 2)), (.str "info", .container 1)]
    let tree := Tree.Arena.ofConcrete (.leaf "stream" .start .start) "" .yaml
    zeroTitle.graph.mapping? zeroTitle.root = some root
      ∧ Checker.presence {} zeroTitle.graph root tree = []
      ∧ (∃ version, zeroTitle.version = .ok version ∧ version ≠ "")
      ∧ ∃ info, zeroTitle.info = .ok info ∧ info.title ≠ "" ∧ info.version ≠ "" := by
  intro root tree
  have hroot : zeroTitle.graph.mapping? zeroTitle.root = some root := rfl
  have hnil : Checker.presence {} zeroTitle.graph root tree = [] := by
    rw [Checker.presence_eq_nil_iff]
    exact ⟨.inr rfl, _, rfl, nofun, nofun, nofun, nofun⟩
  have hversion : zeroTitle.version = .ok "2" := by decide +kernel
  have hinfo : zeroTitle.info = .ok ⟨"0", "False", none, none, none⟩ := by decide +kernel
  obtain ⟨hshown, part, -, hparts⟩ := (presence_agrees_with_views {} tree zeroTitle hroot).1 hnil
  refine ⟨hroot, hnil, hshown.resolve_right ?_, hparts.resolve_right ?_⟩
  · rintro ⟨-, -, e, -, he⟩
    rw [hversion] at he
    cases he
  · rintro ⟨e, he, -⟩
    rw [hinfo] at he
    cases he

end OpenApi
