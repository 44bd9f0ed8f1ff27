/-
Which messages of an editor fail.

An editor sends notifications and requests. Requests never fail: what goes wrong on the way to an
answer leaves the answer empty. A notification ends in a publication, and a publication can always
be made (`exists_announced`), so nothing goes wrong behind an edit either (`editAndPublish_ok`).
What is left is the text of a changed document. It is looked up in the workspace before anything
else is done, and what goes wrong there is passed on to the editor. So exactly one kind of message
fails, and it fails before it has touched a document (`Server.receive_eq`).

A failed message might as well not have come: after any run, the session is what the messages that
were dealt with have left (`Server.session_receiveAll`).
-/
import OpenApi.Proofs.Editor.Publication

set_option autoImplicit false

namespace OpenApi.Editor

open OpenApi.Text (Position)

/-! ## Messages -/

/-- What an editor sends: that a document was opened, changed or closed, or a request. The edits
that come in while a document is validated belong to the message, and so does what looking up a
text in the workspace comes to. -/
inductive Message where
  | opened (uri text : String) (version : Option Int) (others : List Edit)
  | changed (uri : String) (lookup : Except Accident String) (version : Option Int)
      (others : List Edit)
  | closed (uri : String)
  | completion (uri : String) (lookup : Except Accident String) (position : Option Position)
  | hover (uri : String) (lookup : Except Accident String) (position : Option Position)

/-- What comes of a message that was dealt with. -/
inductive Reply where
  | published (publications : List Publication)
  | candidates (found : List Candidate)
  | shown (documentation : Option String)

namespace Message

/-- The edits that a message brings about. A change without a text brings about none. -/
def edits : Message → List Edit
  | .opened uri text version others => .opened uri text version :: others
  | .changed uri (.ok text) version others => .changed uri text version :: others
  | .closed uri => [.closed uri]
  | _ => []

/-- A document was changed, and the workspace does not have its text. -/
def LacksText (m : Message) (a : Accident) : Prop :=
  ∃ uri version others, m = .changed uri (.error a) version others

end Message

namespace Server

variable [Host]

/-- Deals with a message. -/
def receive (s : Server) : Message → Server × Except HandlerError Reply
  | .opened uri text version others =>
    (s.didOpen uri text version others).map id (Except.map .published)
  | .changed uri lookup version others =>
    (s.didChange uri lookup version others).map id (Except.map .published)
  | .closed uri => (s.didClose uri).map id fun ps => .ok (.published ps)
  | .completion uri lookup position => (s, .ok (.candidates (s.completions uri lookup position)))
  | .hover uri lookup position => (s, .ok (.shown (s.documentation uri lookup position)))

/-- Deals with messages one after another, whatever comes of each of them. -/
def receiveAll (s : Server) (ms : List Message) : Server := ms.foldl (fun s m => (s.receive m).1) s

/-! ## One message -/

/-- Every outcome can be published. -/
theorem exists_publication (s : Server) {o : Outcome}
    (ho : o.diagnostics = diagnosticsOf s.checker o.text) : ∃ p, s.publication o = .ok p := by
  obtain ⟨notices, hnotices, -⟩ :=
    exists_announced s.checker o.text s.settings.diagnosticSource
  refine ⟨⟨o.uri, o.version, notices⟩, ?_⟩
  rw [publication, ho, hnotices]
  rfl

/-- **An edit that leaves a document is dealt with**, whatever else comes in meanwhile: it and the
others are applied, and what is to be published can be published. -/
theorem editAndPublish_ok (s : Server) {e : Edit} {uri : String} {d : OpenDocument}
    (hd : (s.session.apply e).document? uri = some d) (others : List Edit) :
    ∃ ps, s.editAndPublish e uri others
      = ({ s with session := s.session.applyAll (e :: others) }, .ok ps) := by
  unfold editAndPublish Session.validateDuring
  rw [hd, Session.applyAll_cons]
  dsimp only
  -- the validation may have been overtaken, and then there is nothing to publish
  by_cases hcurrent : ((s.session.apply e).applyAll others).isCurrent uri d.revision = true
  · obtain ⟨p, hp⟩ := s.exists_publication
      (o := ⟨uri, d.revision, d.version, d.text, diagnosticsOf s.checker d.text⟩) rfl
    refine ⟨[p], ?_⟩
    rw [Session.conclude, if_pos hcurrent]
    simp only [hp]
    rfl
  · refine ⟨[], ?_⟩
    rw [Session.conclude, if_neg hcurrent]

/-- **A message is dealt with, unless it lacks a text.** Its edits are applied to the session, and
one that lacks a text has none. -/
theorem receive_eq (s : Server) (m : Message) :
    (s.receive m).1 = { s with session := s.session.applyAll m.edits }
      ∧ ((∃ a, m.LacksText a ∧ (s.receive m).2 = .error (.workspace a))
        ∨ (∀ a, ¬m.LacksText a) ∧ ∃ r, (s.receive m).2 = .ok r) := by
  -- Only a change can lack its text. A request that lacks it is answered with nothing.
  cases m with
  | opened uri text version others =>
    obtain ⟨ps, hps⟩ := s.editAndPublish_ok (e := .opened uri text version)
      (Session.document?_store _ uri text version) others
    have hreceive : s.receive (.opened uri text version others)
        = ({ s with session := s.session.applyAll (.opened uri text version :: others) },
            .ok (.published ps)) := by
      rw [receive, didOpen, hps]
      rfl
    rw [hreceive]
    exact ⟨rfl, .inr ⟨nofun, _, rfl⟩⟩
  | changed uri lookup version others =>
    cases lookup with
    | error a => exact ⟨rfl, .inl ⟨a, ⟨uri, version, others, rfl⟩, rfl⟩⟩
    | ok text =>
      obtain ⟨ps, hps⟩ := s.editAndPublish_ok (e := .changed uri text version)
        (Session.document?_store _ uri text version) others
      have hreceive : s.receive (.changed uri (.ok text) version others)
          = ({ s with session := s.session.applyAll (.changed uri text version :: others) },
              .ok (.published ps)) := by
        rw [receive, didChange, hps]
        rfl
      rw [hreceive]
      exact ⟨rfl, .inr ⟨nofun, _, rfl⟩⟩
  | closed uri => exact ⟨rfl, .inr ⟨nofun, _, rfl⟩⟩
  | completion uri lookup position => exact ⟨rfl, .inr ⟨nofun, _, rfl⟩⟩
  | hover uri lookup position => exact ⟨rfl, .inr ⟨nofun, _, rfl⟩⟩

theorem receive_eq_error_iff (s : Server) (m : Message) (e : HandlerError) :
    (s.receive m).2 = .error e ↔ ∃ a, m.LacksText a ∧ e = .workspace a := by
  obtain ⟨-, h⟩ := s.receive_eq m
  rcases h with ⟨a, ha, herror⟩ | ⟨hnone, r, hok⟩
  · rw [herror]
    constructor
    · intro h
      exact ⟨a, ha, (Except.error.inj h).symm⟩
    · rintro ⟨b, ⟨uri, version, others, rfl⟩, rfl⟩
      obtain ⟨uri', version', others', hm⟩ := ha
      cases hm
      rfl
  · rw [hok]
    constructor
    · nofun
    · rintro ⟨a, ha, -⟩
      exact absurd ha (hnone a)

theorem receive_of_lacksText (s : Server) {m : Message} {a : Accident} (h : m.LacksText a) :
    (s.receive m).1 = s := by
  obtain ⟨uri, version, others, rfl⟩ := h
  rfl

/-! ## Requests -/

/-- The work on a request: the text of the document, the position, and what is asked of them. It
fails if one of the three is not to be had. -/
def work {α : Type} (s : Server) (uri : String) (lookup : Except Accident String)
    (position : Option Position) (ask : String → Position → Except AnswerError α) : Option α := do
  let text ← s.textOf uri lookup
  let p ← position
  (ask text p).toOption

theorem completions_eq (s : Server) (uri : String) (lookup : Except Accident String)
    (position : Option Position) :
    s.completions uri lookup position
      = (s.work uri lookup position (Editor.completion s.queryChecker)).getD [] := by
  unfold completions work
  cases s.textOf uri lookup with
  | none => rfl
  | some text =>
    cases position with
    | none => rfl
    | some p => rfl

theorem documentation_eq (s : Server) (uri : String) (lookup : Except Accident String)
    (position : Option Position) :
    s.documentation uri lookup position
      = (s.work uri lookup position (Editor.hover s.queryChecker)).getD none := by
  unfold documentation work
  cases s.textOf uri lookup with
  | none => rfl
  | some text =>
    cases position with
    | none => rfl
    | some p =>
      show (Editor.hover s.queryChecker text p).toOption.join
        = (Editor.hover s.queryChecker text p).toOption.getD none
      cases Editor.hover s.queryChecker text p with
      | error e => rfl
      | ok shown => rfl

/-! ## Runs -/

/-- **Failed messages leave no trace.** After any messages, the session is what the edits of those
that were dealt with lead to. -/
theorem session_receiveAll (s : Server) (ms : List Message) :
    (s.receiveAll ms).session = s.session.applyAll (ms.flatMap Message.edits) := by
  induction ms generalizing s with
  | nil => rfl
  | cons m ms ih =>
    have hstep : s.receiveAll (m :: ms) = (s.receive m).1.receiveAll ms := rfl
    rw [hstep, ih, (s.receive_eq m).1, List.flatMap_cons, Session.applyAll, Session.applyAll,
      Session.applyAll, List.foldl_append]

end Server

/-! ## The result -/

/-- **A message fails if and only if it is a change whose text the workspace does not have.** This
is so in every state that messages lead to, failed ones among them. What fails is the lookup, and
the server is left as it was; any other message is dealt with, and its edits are applied. A request
is always answered, and if its work fails the answer is empty. -/
theorem fails_iff_lacksText [Host] (settings : Settings) (before : List Message) (m : Message) :
    let s := (Server.start settings).receiveAll before
    (∀ e, (s.receive m).2 = .error e ↔ ∃ a, m.LacksText a ∧ e = .workspace a)
      ∧ (∀ a, m.LacksText a → (s.receive m).1 = s)
      ∧ (s.receive m).1 = { s with session := s.session.applyAll m.edits }
      ∧ s.session = Session.empty.applyAll (before.flatMap Message.edits)
      ∧ ∀ uri lookup position,
        s.receive (.completion uri lookup position)
            = (s, .ok (.candidates
                ((s.work uri lookup position (completion s.queryChecker)).getD [])))
          ∧ s.receive (.hover uri lookup position)
            = (s, .ok (.shown
              ((s.work uri lookup position (hover s.queryChecker)).getD none))) := by
  intro s
  refine ⟨s.receive_eq_error_iff m, fun a ha => s.receive_of_lacksText ha, (s.receive_eq m).1,
    Server.session_receiveAll (Server.start settings) before, ?_⟩
  intro uri lookup position
  rw [← s.completions_eq, ← s.documentation_eq]
  exact ⟨rfl, rfl⟩

end OpenApi.Editor
