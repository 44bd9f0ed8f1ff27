/-
What an editor has been told.

Every notification of an editor is answered by one publication, to the address of the document it
is about: an opened or changed document is validated at once, and nothing comes in between that
could overtake the validation (`handle_eq`). What is published depends on the notification alone,
on its text and version, since the validation reads what the notification has just stored.

So an editor that remembers, for each address, the last publication it got is in step with the
session: that is `Log.InStep`, which relates the documents of the session, what was sent and the
notifications so far. It holds before the first notification, every notification keeps it, and the
result reads it off at the end of a run.

A publication never fails to be made. The range of a diagnostic can be wanting only where the
diagnostic has a line and no offset, and a check makes no such diagnostic.
-/
import OpenApi.Editor.Server
import OpenApi.Proofs.Editor.Located
import OpenApi.Proofs.Editor.Session
import OpenApi.Proofs.Outcome

set_option autoImplicit false

namespace OpenApi.Editor

/-! ## Notices -/

/-- A diagnostic that has no place, or one with offsets, has a range. -/
theorem exists_diagnosticRange {d : Diagnostic} (h : d.IsUnplaced ∨ ∃ n, d.IsAt n)
    (text : String) : ∃ range, diagnosticRange text d = .ok range := by
  unfold diagnosticRange
  rcases h with hplain | ⟨n, hat⟩
  · rw [hplain.startOffset, hplain.line]
    exact ⟨_, rfl⟩
  · rw [hat.startOffset]
    exact ⟨_, rfl⟩

theorem exists_notice {d : Diagnostic} (h : d.IsUnplaced ∨ ∃ n, d.IsAt n) (text source : String) :
    ∃ notice, Notice.of text d source = .ok notice := by
  obtain ⟨range, hrange⟩ := exists_diagnosticRange h text
  rw [Notice.of, hrange]
  exact ⟨_, rfl⟩

section Host

variable [Host]

/-- The notices of a text: those of the diagnostics that its check found, in their order, or, if
the check has errors to report, one that covers the whole text and does not say why. -/
inductive Announced (c : Checker) (text source : String) : List Notice → Prop where
  | checked {ds : List Diagnostic} {notices : List Notice} :
      (c.check text).errors? = none → (c.check text).diagnostics? = some ds →
      List.Forall₂ (fun d notice => Notice.of text d source = .ok notice) ds notices →
      Announced c text source notices
  | failed {errors : List String} {origin : String} :
      (c.check text).errors? = some errors → (c.check text).diagnostics? = none →
      Announced c text source [⟨fullRange text, "OpenAPI validation failed", .error, origin⟩]

/-- **Every text has notices**, and they are made of its diagnostics. -/
theorem exists_announced (c : Checker) (text source : String) :
    ∃ notices, ((diagnosticsOf c text).mapM fun d => Notice.of text d source) = .ok notices
      ∧ Announced c text source notices := by
  cases hverdict : (c.check text).verdict with
  | rejected reason =>
    have hds : diagnosticsOf c text = [failureDiagnostic c] := by
      rw [diagnosticsOf, hverdict]
    have herrors : (c.check text).errors? = some [reason.message] := by
      rw [Report.errors?, hverdict]
    rw [hds]
    refine ⟨_, rfl, .failed herrors ?_⟩
    rw [Report.diagnostics?, hverdict]
  | checked document ds =>
    have hds : diagnosticsOf c text = ds := by
      rw [diagnosticsOf, hverdict]
    have hdiagnostics : (c.check text).diagnostics? = some ds := by
      rw [Report.diagnostics?, hverdict]
    -- A diagnostic stands at a node of the tree or has no place, and has a range either way.
    have hmade : ∀ d ∈ ds, ∃ notice, Notice.of text d source = .ok notice := by
      intro d hd
      refine exists_notice ?_ text source
      rcases Checker.place_of_checkWith hdiagnostics hd with hplain | ⟨n, -, hat⟩
      · exact .inl hplain
      · exact .inr ⟨n, hat⟩
    obtain ⟨notices, hnotices⟩ := exists_mapM_eq_ok hmade
    rw [hds]
    refine ⟨notices, hnotices, .checked ?_ hdiagnostics (mapM_eq_ok_iff.mp hnotices)⟩
    rw [Report.errors?, hverdict]

end Host

/-! ## Notifications -/

/-- The text and version that an edit leaves at its address. -/
def Edit.left? : Edit → Option (String × Option Int)
  | .opened _ text version => some (text, version)
  | .changed _ text version => some (text, version)
  | .closed _ => none

/-- What a publication says of the document that an edit is about: the notices of its text and its
version, or nothing if the edit closed it. -/
structure Publication.IsOf [Host] (settings : Settings) (e : Edit) (p : Publication) : Prop where
  uri : p.uri = e.uri
  stored : ∀ text version, e.left? = some (text, version) →
    p.version = version
      ∧ Announced ⟨settings.checkGrammar, settings.diagnosticSource⟩ text
          settings.diagnosticSource p.notices
  closed : e.left? = none → p.version = none ∧ p.notices = []

namespace Server

variable [Host]

/-- Deals with the notification of an edit. Nothing else comes in meanwhile, and the workspace has
the text of a document that was changed. -/
def handle (s : Server) : Edit → Server × Except HandlerError (List Publication)
  | .opened uri text version => s.didOpen uri text version []
  | .changed uri text version => s.didChange uri (.ok text) version []
  | .closed uri => ((s.didClose uri).1, .ok (s.didClose uri).2)

/-- What an edit has just stored is validated and published. -/
theorem editAndPublish_eq (s : Server) {e : Edit} {d : OpenDocument}
    (hd : (s.session.apply e).document? e.uri = some d)
    (hleft : e.left? = some (d.text, d.version)) :
    ∃ p, s.editAndPublish e e.uri [] = ({ s with session := s.session.apply e }, .ok [p])
      ∧ p.IsOf s.settings e := by
  obtain ⟨notices, hnotices, hannounced⟩ :=
    exists_announced s.checker d.text s.settings.diagnosticSource
  have hcurrent : (s.session.apply e).isCurrent e.uri d.revision = true := by
    simp [Session.isCurrent, Session.revision?, hd]
  have hvalidated : (s.session.apply e).validateDuring e.uri (diagnosticsOf s.checker) []
      = (s.session.apply e,
          some ⟨e.uri, d.revision, d.version, d.text, diagnosticsOf s.checker d.text⟩) := by
    rw [Session.validateDuring, hd]
    dsimp only
    rw [Session.applyAll_nil, Session.conclude, if_pos hcurrent]
  refine ⟨⟨e.uri, d.version, notices⟩, ?_, rfl, ?_, ?_⟩
  · rw [editAndPublish, hvalidated]
    simp only [publication, hnotices]
    rfl
  · intro text version htext
    rw [hleft] at htext
    cases htext
    exact ⟨rfl, hannounced⟩
  · intro hclosed
    rw [hleft] at hclosed
    cases hclosed

/-- **A step.** The session takes the edit, and one publication is sent, to the edit's address. -/
theorem handle_eq (s : Server) (e : Edit) :
    ∃ p, s.handle e = ({ s with session := s.session.apply e }, .ok [p])
      ∧ p.IsOf s.settings e := by
  cases e with
  | opened uri text version =>
    exact s.editAndPublish_eq (e := .opened uri text version)
      (Session.document?_store _ uri text version) rfl
  | changed uri text version =>
    exact s.editAndPublish_eq (e := .changed uri text version)
      (Session.document?_store _ uri text version) rfl
  | closed uri => exact ⟨⟨uri, none, []⟩, rfl, rfl, nofun, fun _ => ⟨rfl, rfl⟩⟩

end Server

/-! ## The last of an address -/

/-- The last of some things that is about an address. -/
def lastAt {α : Type} (address : α → String) (uri : String) (xs : List α) : Option α :=
  (xs.filter fun x => address x == uri).getLast?

section LastAt

variable {α : Type} {address : α → String} {uri : String}

theorem lastAt_concat (xs : List α) {x : α} (h : address x = uri) :
    lastAt address uri (xs ++ [x]) = some x := by
  simp [lastAt, h]

theorem lastAt_concat_ne (xs : List α) {x : α} (h : uri ≠ address x) :
    lastAt address uri (xs ++ [x]) = lastAt address uri xs := by
  simp [lastAt, h.symm]

end LastAt

/-- What is stored at the address of an edit is what the edit leaves there. -/
theorem Session.left_apply (s : Session) (e : Edit) :
    ((s.apply e).document? e.uri).map (fun d => (d.text, d.version)) = e.left? := by
  cases e with
  | opened uri text version => rw [apply, Edit.uri, document?_store]; rfl
  | changed uri text version => rw [apply, Edit.uri, document?_store]; rfl
  | closed uri => rw [apply, Edit.uri, document?_close]; rfl

/-! ## Runs -/

/-- A server and its answers to the notifications so far, in their order. -/
structure Log where
  server : Server
  answers : List (Except HandlerError (List Publication))

namespace Log

variable [Host]

/-- One notification. -/
def step (l : Log) (e : Edit) : Log :=
  ⟨(l.server.handle e).1, l.answers ++ [(l.server.handle e).2]⟩

/-- Notifications one after another. -/
def run (l : Log) (es : List Edit) : Log := es.foldl step l

/-- A server that has just started. -/
def fresh (settings : Settings) : Log := ⟨Server.start settings, []⟩

/-- All publications that were sent, in the order of sending. -/
def sent (l : Log) : List Publication := l.answers.flatMap fun a => a.toOption.getD []

/-- The invariant of a run. Each notification was answered by one publication that is about its
document. What the session holds at an address is what the last notification about it left there,
and the last publication to the address is the one of that notification. -/
structure InStep (settings : Settings) (es : List Edit) (l : Log) : Prop where
  same : l.server.settings = settings
  answered :
    List.Forall₂ (fun e a => ∃ p : Publication, a = .ok [p] ∧ p.IsOf settings e) es l.answers
  stored : ∀ uri, (l.server.session.document? uri).map (fun d => (d.text, d.version))
    = (lastAt Edit.uri uri es).bind Edit.left?
  shown : ∀ uri, (lastAt Edit.uri uri es = none ∧ lastAt Publication.uri uri l.sent = none)
    ∨ ∃ e p, lastAt Edit.uri uri es = some e ∧ lastAt Publication.uri uri l.sent = some p
      ∧ p.IsOf settings e

theorem inStep_fresh (settings : Settings) : (fresh settings).InStep settings [] where
  same := rfl
  answered := .nil
  stored := fun _ => rfl
  shown := fun _ => .inl ⟨rfl, rfl⟩

/-- Every notification keeps the editor in step. -/
theorem InStep.step {settings : Settings} {es : List Edit} {l : Log} (h : l.InStep settings es)
    (e : Edit) : (l.step e).InStep settings (es ++ [e]) := by
  obtain ⟨p, hhandle, hp⟩ := l.server.handle_eq e
  rw [h.same] at hp
  have hsent : (l.step e).sent = l.sent ++ [p] := by
    simp only [sent, Log.step, hhandle, List.flatMap_append]
    rfl
  have hsession : (l.step e).server.session = l.server.session.apply e := by
    rw [Log.step, hhandle]
  refine ⟨?_, ?_, ?_, ?_⟩
  · rw [Log.step, hhandle]
    exact h.same
  · simp only [Log.step, hhandle]
    exact List.rel_append h.answered (.cons ⟨p, rfl, hp⟩ .nil)
  · intro uri
    rw [hsession]
    by_cases huri : uri = e.uri
    · rw [huri, Session.left_apply, lastAt_concat es rfl]
      rfl
    · rw [Session.document?_apply_ne _ huri, h.stored, lastAt_concat_ne es huri]
  · intro uri
    rw [hsent]
    by_cases huri : uri = e.uri
    · refine .inr ⟨e, p, ?_, ?_, hp⟩
      · rw [huri, lastAt_concat es rfl]
      · rw [huri, lastAt_concat l.sent hp.uri]
    · -- neither the notification nor its publication is about this address
      have hpuri : uri ≠ p.uri := by
        rw [hp.uri]
        exact huri
      rw [lastAt_concat_ne es huri, lastAt_concat_ne l.sent hpuri]
      exact h.shown uri

theorem InStep.run {settings : Settings} {es : List Edit} {l : Log} (h : l.InStep settings es)
    (more : List Edit) : (l.run more).InStep settings (es ++ more) := by
  -- every notification changes the log and the list of those before, so both are general
  induction more generalizing es l with
  | nil =>
    rw [List.append_nil]
    exact h
  | cons e more ih =>
    have hstep := ih (h.step e)
    rwa [List.append_assoc] at hstep

end Log

/-! ## The result -/

/-- **An editor is told what the session holds.** After any list of notifications:

* each of them was answered by one publication, to its own address;
* what the session holds at an address is the text and version of the last notification about it,
  and nothing if that one closed the document or there was none;
* the last publication to an address is the one of the last notification about it. If the document
  is open, it carries the version that the session holds and the notices of the text that the
  session holds; otherwise it carries nothing. -/
theorem last_publication_of_session [Host] (settings : Settings) (es : List Edit) :
    let l := (Log.fresh settings).run es
    List.Forall₂ (fun e a => ∃ p : Publication, a = .ok [p] ∧ p.uri = e.uri) es l.answers
      ∧ (∀ uri, l.server.session.text? uri
          = ((lastAt Edit.uri uri es).bind Edit.left?).map (·.1))
      ∧ ∀ uri, (∃ e ∈ es, e.uri = uri) → ∃ p, lastAt Publication.uri uri l.sent = some p
        ∧ match l.server.session.document? uri with
          | some d =>
            (lastAt Edit.uri uri es).bind Edit.left? = some (d.text, d.version)
              ∧ p.version = d.version
              ∧ Announced ⟨settings.checkGrammar, settings.diagnosticSource⟩ d.text
                  settings.diagnosticSource p.notices
          | none => (lastAt Edit.uri uri es).bind Edit.left? = none ∧ p.notices = [] := by
  intro l
  have hl : l.InStep settings es := (Log.inStep_fresh settings).run es
  refine ⟨?_, ?_, ?_⟩
  · exact hl.answered.imp fun e a ⟨p, ha, hp⟩ => ⟨p, ha, hp.uri⟩
  · intro uri
    rw [← hl.stored uri, Option.map_map, Session.text?]
    rfl
  · rintro uri ⟨e', he', huri⟩
    have hstored := hl.stored uri
    rcases hl.shown uri with ⟨hnone, -⟩ | ⟨e, p, he, hp, hof⟩
    · -- the address was mentioned, so there is a last notification about it
      rw [lastAt, List.getLast?_eq_none_iff, List.filter_eq_nil_iff] at hnone
      exact absurd (beq_iff_eq.mpr huri) (hnone e' he')
    · refine ⟨p, hp, ?_⟩
      rw [he, Option.bind_some] at hstored ⊢
      cases hd : l.server.session.document? uri with
      | some d =>
        rw [hd, Option.map_some] at hstored
        exact ⟨hstored.symm, hof.stored _ _ hstored.symm⟩
      | none =>
        rw [hd, Option.map_none] at hstored
        exact ⟨hstored.symm, (hof.closed hstored.symm).2⟩

end OpenApi.Editor
