/-
What hovering shows and what completion offers.

Both answers go through the components of the document, one for a word and one for all of them.
Completion documents every component, so it has an answer only if each property of each component
has a line (`exists_completion_iff`); one number that is too long to be written makes it fail as a
whole. Hovering documents the one component it found, and so it may have an answer even then
(`hover_without_completion`). Where completion has an answer, its candidates stand for the
components one by one, and the first component with a name goes with the first candidate with that
label (`documented_find?`): hovering shows what that candidate offers. A position matters to
hovering only for the word it touches (`hover_of_word`).
-/
import OpenApi.Editor.Answer
import OpenApi.Proofs.Document.Text
import OpenApi.Proofs.Outcome
import OpenApi.Proofs.Text.Word

set_option autoImplicit false

namespace OpenApi.Editor

open OpenApi.Text (Position IsWord offsetAt wordRangeAt slice wordRangeAt_eq_some_iff)

/-! ## The word at a position -/

/-- The word that is asked about at a position. -/
def wordAt? (text : String) (p : Position) : Option String :=
  (offsetAt text p).bind fun offset =>
    (wordRangeAt text offset).map fun r => slice text r.1 r.2

/-- A position touches an occurrence of a word: its offset lies in the word or at one of its
ends. -/
def Touches (text : String) (p : Position) (word : String) : Prop :=
  ∃ offset r, offsetAt text p = some offset ∧ IsWord text.toList r
    ∧ r.1 ≤ offset ∧ offset ≤ r.2 ∧ slice text r.1 r.2 = word

theorem Touches.wordAt? {text : String} {p : Position} {word : String}
    (h : Touches text p word) : wordAt? text p = some word := by
  obtain ⟨offset, r, hoffset, hr, hstart, hstop, rfl⟩ := h
  have hrange : wordRangeAt text offset = some r :=
    wordRangeAt_eq_some_iff.mpr ⟨hr, by exact_mod_cast hstart, by exact_mod_cast hstop⟩
  rw [Editor.wordAt?, hoffset, Option.bind_some, hrange, Option.map_some]

/-- A row that is not negative has offsets. -/
theorem exists_offsetAt (text : String) {p : Position} (hrow : 0 ≤ p.row) :
    ∃ offset, offsetAt text p = some offset := by
  unfold offsetAt
  simp only
  split
  · exact ⟨_, rfl⟩
  · rw [if_neg (Int.not_lt.mpr hrow), if_neg (Int.not_lt.mpr hrow)]
    exact ⟨_, rfl⟩

/-! ## Documented components -/

variable [Host]

theorem label_of_candidate {g : Graph} {x : Component} {candidate : Candidate}
    (h : Candidate.of g x = .ok candidate) :
    candidate.label = x.name ∧ documented g x = .ok candidate.documentation := by
  unfold Candidate.of at h
  cases hdoc : documented g x with
  | error e =>
    rw [hdoc] at h
    cases h
  | ok m =>
    rw [hdoc] at h
    cases h
    exact ⟨rfl, rfl⟩

/-- A component can be documented if each of its properties has a line. -/
theorem exists_documentation_iff {g : Graph} {x : Component} :
    (∃ m, x.documentation g = .ok m)
      ↔ ∀ p ∈ x.properties.getD [], ∃ line, propertyLine g p = .ok line := by
  unfold Component.documentation
  constructor
  · rintro ⟨m, hm⟩ p hp
    cases hlines : (x.properties.getD []).mapM (propertyLine g) with
    | error e =>
      rw [hlines] at hm
      cases hm
    | ok lines => exact exists_ok_of_mapM hlines hp
  · intro hall
    obtain ⟨lines, hlines⟩ := exists_mapM_eq_ok hall
    rw [hlines]
    exact ⟨_, rfl⟩

theorem exists_candidate_iff {g : Graph} {x : Component} :
    (∃ candidate, Candidate.of g x = .ok candidate)
      ↔ ∀ p ∈ x.properties.getD [], ∃ line, propertyLine g p = .ok line := by
  rw [← exists_documentation_iff]
  unfold Candidate.of documented
  cases x.documentation g with
  | error e => exact ⟨nofun, nofun⟩
  | ok m => exact ⟨fun _ => ⟨m, rfl⟩, fun _ => ⟨_, rfl⟩⟩

/-- **The first component with a name goes with the first candidate with that label.** -/
theorem documented_find? {g : Graph} {found : List Component} {cs : List Candidate}
    (h : List.Forall₂ (fun x candidate => Candidate.of g x = .ok candidate) found cs)
    (word : String) :
    (found.find? fun x => x.name == word).mapM (documented g)
      = .ok ((cs.find? fun x => x.label == word).map (·.documentation)) := by
  induction h with
  | nil => rfl
  | @cons x candidate found cs hx _ ih =>
    obtain ⟨hlabel, hdoc⟩ := label_of_candidate hx
    rw [List.find?_cons, List.find?_cons, hlabel]
    cases x.name == word with
    | true => simp only [Option.mapM_some, hdoc]; rfl
    | false => exact ih

/-! ## The two answers -/

/-- A document whose components can be presented: each property of each of them has a line. If
they are in no shape to be listed, there is nothing to present. -/
def IsPresentable (d : Document) : Prop :=
  ∃ found, components d = .ok found ∧ ∀ x ∈ found, ∀ p ∈ x.properties.getD [],
    ∃ line, propertyLine d.graph p = .ok line

variable {c : Checker} {text : String} {d : Document}

theorem completion_of_none (h : validDocument? c text = none) (q : Position) :
    completion c text q = .ok [] := by
  rw [completion, h]

theorem hover_of_none (h : validDocument? c text = none) (p : Position) :
    hover c text p = .ok none := by
  rw [hover, h]

theorem completion_of_some (h : validDocument? c text = some d) {found : List Component}
    (hfound : components d = .ok found) (q : Position) :
    completion c text q = found.mapM (Candidate.of d.graph) := by
  rw [completion, h]
  simp only [hfound]
  rfl

/-- **Completion answers for the documents whose components can be presented.** -/
theorem exists_completion_iff (h : validDocument? c text = some d) (q : Position) :
    (∃ cs, completion c text q = .ok cs) ↔ IsPresentable d := by
  constructor
  · rintro ⟨cs, hcs⟩
    cases hfound : components d with
    | error e =>
      rw [completion, h] at hcs
      simp only [hfound] at hcs
      cases hcs
    | ok found =>
      rw [completion_of_some h hfound] at hcs
      refine ⟨found, hfound, ?_⟩
      intro x hx
      exact exists_candidate_iff.mp (exists_ok_of_mapM hcs hx)
  · rintro ⟨found, hfound, hall⟩
    rw [completion_of_some h hfound]
    exact exists_mapM_eq_ok fun x hx => exists_candidate_iff.mpr (hall x hx)

/-- Hovering asks for nothing but the word. -/
theorem hover_of_word (h : validDocument? c text = some d) {p : Position} {word : String}
    (hword : wordAt? text p = some word) :
    hover c text p = (components d).bind fun found =>
      (found.find? fun x => x.name == word).mapM (documented d.graph) := by
  obtain ⟨offset, hoffset, hmap⟩ := Option.bind_eq_some_iff.mp hword
  obtain ⟨⟨start, stop⟩, hrange, rfl⟩ := Option.map_eq_some_iff.mp hmap
  rw [hover, h]
  simp only [hoffset, hrange]
  rfl

/-- Where there is no word, hovering shows nothing. -/
theorem hover_of_no_word {p : Position} (hrow : 0 ≤ p.row) (hword : wordAt? text p = none) :
    hover c text p = .ok none := by
  obtain ⟨offset, hoffset⟩ := exists_offsetAt text hrow
  have hrange : wordRangeAt text offset = none := by
    rwa [wordAt?, hoffset, Option.bind_some, Option.map_eq_none_iff] at hword
  unfold hover
  split
  · rfl
  · simp only [hoffset, hrange]

/-- **Hovering shows what completion offers for the word.** -/
theorem hover_of_completion {q : Position} {cs : List Candidate}
    (hcs : completion c text q = .ok cs) {p : Position} (hrow : 0 ≤ p.row) :
    hover c text p = .ok ((wordAt? text p).bind fun word =>
      (cs.find? fun x => x.label == word).map (·.documentation)) := by
  cases hword : wordAt? text p with
  | none => rw [hover_of_no_word hrow hword, Option.bind_none]
  | some word =>
    rw [Option.bind_some]
    cases hvalid : validDocument? c text with
    | none =>
      rw [completion_of_none hvalid] at hcs
      cases hcs
      exact hover_of_none hvalid p
    | some d =>
      -- the candidates stand for the components one by one, so the search can be made among them
      obtain ⟨found, hfound, -⟩ := (exists_completion_iff hvalid q).mp ⟨cs, hcs⟩
      rw [completion_of_some hvalid hfound] at hcs
      rw [hover_of_word hvalid hword, hfound]
      exact documented_find? (mapM_eq_ok_iff.mp hcs) word

/-- A document of which nothing is to be had: it did not check out, or its components are in no
shape to be listed. -/
def IsMute (c : Checker) (text : String) : Prop :=
  (c.check text).isValid = false
    ∨ ∃ d m, (c.check text).document? = some d ∧ d.components = .error (.mismatch m)

theorem IsMute.cases {c : Checker} {text : String} (h : IsMute c text) :
    validDocument? c text = none
      ∨ ∃ d, validDocument? c text = some d ∧ components d = .ok [] := by
  rw [validDocument?]
  rcases h with hinvalid | ⟨d, m, hdocument, hcomponents⟩
  · rw [hinvalid]
    exact .inl rfl
  · cases (c.check text).isValid with
    | false => exact .inl rfl
    | true =>
      refine .inr ⟨d, hdocument, ?_⟩
      rw [components, hcomponents]

/-- **A mute document gives empty answers.** -/
theorem IsMute.completion {c : Checker} {text : String} (h : IsMute c text) (q : Position) :
    completion c text q = .ok [] := by
  rcases h.cases with hnone | ⟨d, hsome, hempty⟩
  · exact completion_of_none hnone q
  · rw [completion_of_some hsome hempty]
    rfl

/-! ## Documents that cannot be presented -/

/-- A property whose type is an integer too long to be written has no line. -/
theorem propertyLine_of_long {g : Graph} {p : String × Value} {entries : Entries} {n : Int}
    (hentries : g.mapping? p.2 = some entries)
    (htype : entries.read "type" = .scalar (.int n)) (hlong : Decimal.isWritable n = false) :
    ∃ e, propertyLine g p = .error e := by
  have htext := g.text_of_long hlong
  have hshown : propertyType g p.2 = .error (.digits ⟨none⟩) := by
    rw [propertyType, hentries]
    simp only [htype, htext, Value.isNull]
    rfl
  refine ⟨.digits ⟨none⟩, ?_⟩
  rw [propertyLine, hshown]
  rfl

/-- One such property anywhere in a document is enough for it not to be presentable. -/
theorem not_isPresentable_of_long {found : List Component} (hfound : components d = .ok found)
    {x : Component} (hx : x ∈ found) {p : String × Value} (hp : p ∈ x.properties.getD [])
    {entries : Entries} {n : Int} (hentries : d.graph.mapping? p.2 = some entries)
    (htype : entries.read "type" = .scalar (.int n)) (hlong : Decimal.isWritable n = false) :
    ¬ IsPresentable d := by
  rintro ⟨found', hfound', hall⟩
  rw [hfound] at hfound'
  cases hfound'
  obtain ⟨line, hline⟩ := hall x hx p hp
  obtain ⟨e, he⟩ := propertyLine_of_long hentries htype hlong
  rw [he] at hline
  cases hline

/-- **Hovering can answer where completion cannot.** It documents the one component that was
found, although another component of the document has a property without a line. -/
theorem hover_without_completion (h : validDocument? c text = some d) {found : List Component}
    (hfound : components d = .ok found) (hbad : ¬ IsPresentable d) {p : Position}
    {word : String} (hword : wordAt? text p = some word) {x : Component}
    (hx : found.find? (fun x => x.name == word) = some x) {m : String}
    (hm : x.documentation d.graph = .ok m) (q : Position) :
    hover c text p = .ok (some m) ∧ ¬∃ cs, completion c text q = .ok cs := by
  refine ⟨?_, fun hcs => hbad ((exists_completion_iff h q).mp hcs)⟩
  have hdoc : documented d.graph x = .ok m := by rw [documented, hm]; rfl
  calc hover c text p
      = (components d).bind fun found =>
          (found.find? fun x => x.name == word).mapM (documented d.graph) :=
        hover_of_word h hword
    _ = (some x).mapM (documented d.graph) := by rw [hfound, ← hx]; rfl
    _ = .ok (some m) := by simp only [Option.mapM_some, hdoc]; rfl

/-! ## Agreement -/

/-- **Hovering agrees with completion.** Completion answers for exactly those texts whose
components can be presented, and alike at all positions. Where it answers, hovering at a row
that is not negative answers too: it shows a documentation if and only if there is a word at the
position and a candidate labelled with it, and then it is that of the first such candidate. Of a
mute document both have nothing to say, and hovering shows the same at all positions that touch
occurrences of one word. -/
theorem hover_agrees_with_completion (c : Checker) (text : String) (q : Position) :
    ((∃ cs, completion c text q = .ok cs)
        ↔ ∀ d, validDocument? c text = some d → IsPresentable d)
      ∧ (∀ q', completion c text q' = completion c text q)
      ∧ (∀ cs, completion c text q = .ok cs → ∀ p : Position, 0 ≤ p.row →
          ∃ shown, hover c text p = .ok shown ∧ ∀ m, shown = some m ↔
            ∃ word x, wordAt? text p = some word
              ∧ cs.find? (fun x => x.label == word) = some x ∧ x.documentation = m)
      ∧ (IsMute c text → completion c text q = .ok []
          ∧ ∀ p : Position, 0 ≤ p.row → hover c text p = .ok none)
      ∧ ∀ p p' word, Touches text p word → Touches text p' word →
          hover c text p = hover c text p' := by
  refine ⟨?_, fun _ => rfl, ?_, ?_, ?_⟩
  · cases hvalid : validDocument? c text with
    | none => exact ⟨fun _ => nofun, fun _ => ⟨[], completion_of_none hvalid q⟩⟩
    | some d => simpa using exists_completion_iff hvalid q
  · intro cs hcs p hrow
    refine ⟨_, hover_of_completion hcs hrow, ?_⟩
    intro m
    simp only [Option.bind_eq_some_iff, Option.map_eq_some_iff]
    constructor
    · rintro ⟨word, hword, x, hx, hm⟩
      exact ⟨word, x, hword, hx, hm⟩
    · rintro ⟨word, x, hword, hx, hm⟩
      exact ⟨word, hword, x, hx, hm⟩
  · intro hmute
    refine ⟨hmute.completion q, ?_⟩
    intro p hrow
    rw [hover_of_completion (hmute.completion q) hrow]
    cases wordAt? text p <;> rfl
  · intro p p' word hp hp'
    -- Hovering looks at the position only for the word there.
    cases hvalid : validDocument? c text with
    | none => rw [hover_of_none hvalid, hover_of_none hvalid]
    | some d => rw [hover_of_word hvalid hp.wordAt?, hover_of_word hvalid hp'.wordAt?]

end OpenApi.Editor
