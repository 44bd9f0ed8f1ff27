/-
Validations that are overtaken by edits.

A validation reads a document, computes, and hands its outcome out only if the revision it read is
still the current one. The first half of this file shows that this one comparison of numbers is
exact: it succeeds if and only if no edit of the same document came in meanwhile. One direction is
the frame of an edit, edits of other documents change nothing that the comparison reads. The other
rests on the counter that all documents share: whatever an edit of the document leaves behind is
newer than every revision that was in use when the edit came in, and stays so under all edits that
follow, closing and opening again included. That is `Renewed`, and it does not look at texts or
versions, so a document that is opened again just as it was is still another document.

The second half lets any number of validations be pending at once, each of which may start and end
at any time between any edits. Every outcome that is delivered carries the revision that the
session holds at that moment, and the revisions held for one address never fall, so the outcomes
delivered for one address come in the order of their revisions.
-/
import OpenApi.Proofs.Editor.Session

set_option autoImplicit false

namespace OpenApi.Editor

namespace Session

/-! ## What an edit of the document leaves behind -/

/-- Whatever is open at an address is newer than a revision, which the counter has reached. -/
def Renewed (n : Nat) (uri : String) (s : Session) : Prop :=
  n ≤ s.counter ∧ ∀ d, s.document? uri = some d → n < d.revision

/-- An edit of an address renews it against every revision the counter has reached. -/
theorem renewed_apply {n : Nat} {s : Session} (hn : n ≤ s.counter) (e : Edit) :
    Renewed n e.uri (s.apply e) := by
  refine ⟨Nat.le_trans hn (counter_le_apply s e), ?_⟩
  intro d hd
  rw [(revision_of_apply s e hd).1]
  exact Nat.lt_succ_of_le hn

/-- What is renewed stays renewed, whichever document is edited next. -/
theorem Renewed.apply {n : Nat} {uri : String} (s : Session) (e : Edit) (hs : Renewed n uri s) :
    Renewed n uri (s.apply e) := by
  by_cases huri : uri = e.uri
  · subst huri
    exact renewed_apply hs.1 e
  · refine ⟨Nat.le_trans hs.1 (counter_le_apply s e), ?_⟩
    rw [document?_apply_ne s huri]
    exact hs.2

/-- A list of edits with one of an address in it renews that address. -/
theorem renewed_applyAll {n : Nat} {s : Session} (hn : n ≤ s.counter) {uri : String}
    {es : List Edit} (hes : ∃ e ∈ es, e.uri = uri) : Renewed n uri (s.applyAll es) := by
  induction es generalizing s with
  | nil =>
    obtain ⟨e, he, -⟩ := hes
    cases he
  | cons e es ih =>
    rw [applyAll_cons]
    by_cases huri : e.uri = uri
    · subst huri
      exact applyAll_keeps Renewed.apply (renewed_apply hn e) es
    · obtain ⟨e', he', huri'⟩ := hes
      have hmem : e' ∈ es := by
        rcases List.mem_cons.mp he' with rfl | hmem
        · exact absurd huri' huri
        · exact hmem
      exact ih (Nat.le_trans hn (counter_le_apply s e)) ⟨e', hmem, huri'⟩

/-! ## When a revision is still current -/

theorem isCurrent_iff (s : Session) (uri : String) (revision : Nat) :
    s.isCurrent uri revision = true ↔ ∃ d, s.document? uri = some d ∧ d.revision = revision := by
  simp [isCurrent, revision?]

/-- A revision that has been renewed is not current. -/
theorem Renewed.not_isCurrent {n : Nat} {uri : String} {s : Session} (hs : Renewed n uri s) :
    ¬s.isCurrent uri n = true := by
  rw [isCurrent_iff]
  rintro ⟨d, hd, hrev⟩
  exact absurd hrev (Nat.ne_of_gt (hs.2 d hd))

/-- **Staleness is exact.** After a list of edits the revision of a document is current if and
only if none of the edits was about that document. -/
theorem isCurrent_applyAll_iff {s : Session} (hs : s.Counted) {uri : String} {d : OpenDocument}
    (hd : s.document? uri = some d) (es : List Edit) :
    (s.applyAll es).isCurrent uri d.revision = true ↔ ∀ e ∈ es, e.uri ≠ uri := by
  constructor
  · intro hcurrent e he huri
    exact (renewed_applyAll (hs uri d hd) ⟨e, he, huri⟩).not_isCurrent hcurrent
  · intro hes
    rw [isCurrent_iff]
    exact ⟨d, (document?_applyAll_of_untouched hes s).trans hd, rfl⟩

/-! ## What a validation returns -/

theorem validateDuring_of_none {s : Session} {uri : String} (hd : s.document? uri = none)
    (compute : String → List Diagnostic) (es : List Edit) :
    s.validateDuring uri compute es = (s, none) := by
  rw [validateDuring, hd]

theorem validateDuring_of_some {s : Session} {uri : String} {d : OpenDocument}
    (hd : s.document? uri = some d) (compute : String → List Diagnostic) (es : List Edit) :
    s.validateDuring uri compute es
      = (s.applyAll es, (s.applyAll es).conclude uri d (compute d.text)) := by
  rw [validateDuring, hd]

/-- An outcome is what was read at the start, and the revision it names is current. -/
theorem conclude_eq_some_iff {s : Session} {uri : String} {d : OpenDocument}
    {ds : List Diagnostic} {o : Outcome} :
    s.conclude uri d ds = some o
      ↔ s.isCurrent uri d.revision = true ∧ o = ⟨uri, d.revision, d.version, d.text, ds⟩ := by
  rw [conclude]
  by_cases hcurrent : s.isCurrent uri d.revision = true
  · rw [if_pos hcurrent, Option.some.injEq]
    exact ⟨fun h => ⟨hcurrent, h.symm⟩, fun h => h.2.symm⟩
  · rw [if_neg hcurrent]
    exact ⟨nofun, fun h => absurd h.1 hcurrent⟩

/-- There is an outcome if and only if the document was left alone. -/
theorem validateDuring_isSome_iff {s : Session} (hs : s.Counted) {uri : String} {d : OpenDocument}
    (hd : s.document? uri = some d) (compute : String → List Diagnostic) (es : List Edit) :
    (s.validateDuring uri compute es).2.isSome ↔ ∀ e ∈ es, e.uri ≠ uri := by
  rw [validateDuring_of_some hd, ← isCurrent_applyAll_iff hs hd es, Option.isSome_iff_exists]
  constructor
  · rintro ⟨o, ho⟩
    exact (conclude_eq_some_iff.mp ho).1
  · intro hcurrent
    exact ⟨_, conclude_eq_some_iff.mpr ⟨hcurrent, rfl⟩⟩

/-- An outcome is what was read at the start, and that is still what is stored. -/
theorem validateDuring_eq_some {s : Session} (hs : s.Counted) {uri : String} {d : OpenDocument}
    (hd : s.document? uri = some d) {compute : String → List Diagnostic} {es : List Edit}
    {o : Outcome} (ho : (s.validateDuring uri compute es).2 = some o) :
    o = ⟨uri, d.revision, d.version, d.text, compute d.text⟩
      ∧ (s.validateDuring uri compute es).1.document? uri = some d := by
  have huntouched : ∀ e ∈ es, e.uri ≠ uri := by
    rw [← validateDuring_isSome_iff hs hd compute es, ho]
    rfl
  rw [validateDuring_of_some hd] at ho ⊢
  exact ⟨(conclude_eq_some_iff.mp ho).2, (document?_applyAll_of_untouched huntouched s).trans hd⟩

end Session

/-! ## Runs with several validations -/

/-- What can happen next in a session: an edit comes in, the validation of a document starts, or
one of the pending validations, given by its place among them, ends. -/
inductive Event where
  | edit (e : Edit)
  | start (uri : String)
  | finish (place : Nat)
deriving DecidableEq, Repr

/-- A validation that has started: the document as it was read, and what was found in it. -/
structure Pending where
  uri : String
  snapshot : OpenDocument
  diagnostics : List Diagnostic

/-- A session, the validations that are pending in it, and the outcomes delivered so far in the
order of their delivery. -/
structure Run where
  session : Session
  pending : List Pending
  delivered : List Outcome

namespace Run

/-- A run that is about to begin. -/
def fresh (s : Session) : Run := ⟨s, [], []⟩

/-- One event. The validation of a document that is not open ends at once, without an outcome. -/
def step (compute : String → List Diagnostic) (r : Run) : Event → Run
  | .edit e => { r with session := r.session.apply e }
  | .start uri =>
    match r.session.document? uri with
    | none => r
    | some d => { r with pending := r.pending ++ [⟨uri, d, compute d.text⟩] }
  | .finish place =>
    match r.pending[place]? with
    | none => r
    | some p =>
      { r with
        pending := r.pending.eraseIdx place
        delivered :=
          r.delivered ++ (r.session.conclude p.uri p.snapshot p.diagnostics).toList }

/-- A list of events. -/
def play (compute : String → List Diagnostic) (r : Run) (events : List Event) : Run :=
  events.foldl (step compute) r

/-- The outcomes delivered for an address. -/
def deliveredFor (r : Run) (uri : String) : List Outcome :=
  r.delivered.filter fun o => o.uri == uri

variable {compute : String → List Diagnostic}

@[simp] theorem play_nil (r : Run) : r.play compute [] = r := rfl

@[simp] theorem play_cons (r : Run) (event : Event) (events : List Event) :
    r.play compute (event :: events) = (r.step compute event).play compute events := rfl

theorem play_append (r : Run) (events more : List Event) :
    r.play compute (events ++ more) = (r.play compute events).play compute more := by
  simp only [play, List.foldl_append]

theorem play_edits (r : Run) (es : List Edit) :
    r.play compute (es.map .edit) = { r with session := r.session.applyAll es } := by
  induction es generalizing r with
  | nil => rfl
  | cons e es ih => rw [List.map_cons, play_cons, ih]; rfl

/-- A validation during which edits come in is the run that starts it, takes the edits and ends
it. -/
theorem play_validateDuring {s : Session} {uri : String} {d : OpenDocument}
    (hd : s.document? uri = some d) (es : List Edit) :
    (fresh s).play compute (.start uri :: es.map .edit ++ [.finish 0])
      = ⟨(s.validateDuring uri compute es).1, [], (s.validateDuring uri compute es).2.toList⟩ := by
  have hstart : (fresh s).step compute (.start uri) = ⟨s, [⟨uri, d, compute d.text⟩], []⟩ := by
    simp [step, fresh, hd]
  rw [List.cons_append, play_cons, hstart, play_append, play_edits,
    Session.validateDuring_of_some hd]
  rfl

/-- The invariant of a run: no delivered outcome is newer than what is stored at its address, nor
past the counter, and for each address the outcomes are in the order of their revisions. -/
structure Ordered (r : Run) : Prop where
  counted : r.session.Counted
  reached : ∀ o ∈ r.delivered, o.revision ≤ r.session.counter
  notNewer : ∀ o ∈ r.delivered, ∀ d, r.session.document? o.uri = some d → o.revision ≤ d.revision
  inOrder : r.delivered.Pairwise fun o o' => o.uri = o'.uri → o.revision ≤ o'.revision

theorem ordered_fresh_empty : (fresh Session.empty).Ordered where
  counted := Session.counted_empty
  reached := by intro o ho; cases ho
  notNewer := by intro o ho; cases ho
  inOrder := List.Pairwise.nil

theorem Ordered.edit {r : Run} (hr : r.Ordered) (e : Edit) :
    (r.step compute (.edit e)).Ordered where
  counted := Session.Counted.apply r.session e hr.counted
  reached := fun o ho => Nat.le_trans (hr.reached o ho) (Session.counter_le_apply r.session e)
  notNewer := by
    intro o ho d hd
    by_cases huri : o.uri = e.uri
    · -- the new document has the counter's next value, and the outcome was counted before it
      have hrev : d.revision = r.session.counter + 1 := by
        refine (Session.revision_of_apply r.session e ?_).1
        rw [← huri]
        exact hd
      have hreached := hr.reached o ho
      omega
    · refine hr.notNewer o ho d ?_
      rw [← Session.document?_apply_ne r.session huri]
      exact hd
  inOrder := hr.inOrder

/-- An outcome that is delivered carries the revision stored at that moment, which none of the
earlier outcomes of its address exceeds. -/
theorem Ordered.deliver {r : Run} (hr : r.Ordered) {p : Pending} {o : Outcome}
    (ho : r.session.conclude p.uri p.snapshot p.diagnostics = some o) (pending : List Pending) :
    Ordered ⟨r.session, pending, r.delivered ++ [o]⟩ := by
  obtain ⟨hcurrent, rfl⟩ := Session.conclude_eq_some_iff.mp ho
  -- It is delivered because its revision is that of the document stored now.
  obtain ⟨d, hd, hrev⟩ := (Session.isCurrent_iff _ _ _).mp hcurrent
  refine ⟨hr.counted, ?_, ?_, ?_⟩
  · intro o' ho'
    rcases List.mem_append.mp ho' with hold | hnew
    · exact hr.reached o' hold
    · rw [List.mem_singleton.mp hnew, ← hrev]
      exact hr.counted p.uri d hd
  · intro o' ho' d' hd'
    rcases List.mem_append.mp ho' with hold | hnew
    · exact hr.notNewer o' hold d' hd'
    · rw [List.mem_singleton.mp hnew] at hd' ⊢
      rw [hd, Option.some.injEq] at hd'
      exact Nat.le_of_eq (hrev.symm.trans (by rw [hd']))
  · rw [List.pairwise_append]
    refine ⟨hr.inOrder, List.pairwise_singleton _ _, ?_⟩
    intro o' hold o'' hnew huri
    rw [List.mem_singleton.mp hnew] at huri ⊢
    rw [← hrev]
    refine hr.notNewer o' hold d ?_
    rw [huri]
    exact hd

theorem Ordered.step {r : Run} (hr : r.Ordered) (event : Event) :
    (r.step compute event).Ordered := by
  cases event with
  | edit e => exact hr.edit e
  | start uri =>
    cases hd : r.session.document? uri with
    | none => simpa only [Run.step, hd] using hr
    | some d =>
      simp only [Run.step, hd]
      exact ⟨hr.counted, hr.reached, hr.notNewer, hr.inOrder⟩
  | finish place =>
    cases hp : r.pending[place]? with
    | none => simpa only [Run.step, hp] using hr
    | some p =>
      simp only [Run.step, hp]
      cases ho : r.session.conclude p.uri p.snapshot p.diagnostics with
      | none =>
        rw [Option.toList_none, List.append_nil]
        exact ⟨hr.counted, hr.reached, hr.notNewer, hr.inOrder⟩
      | some o => exact hr.deliver ho _

theorem Ordered.play {r : Run} (hr : r.Ordered) (events : List Event) :
    (r.play compute events).Ordered := by
  induction events generalizing r with
  | nil => exact hr
  | cons event events ih => exact ih (hr.step event)

theorem Ordered.deliveredFor {r : Run} (hr : r.Ordered) (uri : String) :
    (r.deliveredFor uri).Pairwise fun o o' => o.revision ≤ o'.revision := by
  rw [Run.deliveredFor, List.pairwise_filter]
  refine hr.inOrder.imp ?_
  intro o o' hle huri huri'
  exact hle ((eq_of_beq huri).trans (eq_of_beq huri').symm)

end Run

/-! ## The result -/

/-- **An outcome is handed out exactly when the document was left alone.** The session is any one
that edits lead to. A validation of an open document has an outcome if and only if none of the
edits that come in meanwhile is about that document; the outcome is made of what was read at the
start, and that is still what is stored. A validation of a document that is not open has none.

Over any run, in which validations start and end at any time between any edits, the outcomes
delivered for one address never fall back in revision; and a single validation during edits is
such a run. -/
theorem outcome_iff_untouched (history : List Edit) (compute : String → List Diagnostic)
    (uri : String) :
    let s := Session.empty.applyAll history
    (s.document? uri = none → ∀ edits, (s.validateDuring uri compute edits).2 = none)
      ∧ (∀ d, s.document? uri = some d → ∀ edits,
          ((s.validateDuring uri compute edits).2.isSome ↔ ∀ e ∈ edits, e.uri ≠ uri)
          ∧ (∀ o, (s.validateDuring uri compute edits).2 = some o →
              o.uri = uri ∧ o.revision = d.revision ∧ o.version = d.version ∧ o.text = d.text
              ∧ o.diagnostics = compute d.text
              ∧ (s.validateDuring uri compute edits).1 = s.applyAll edits
              ∧ (s.applyAll edits).document? uri = some d)
          ∧ (Run.fresh s).play compute (.start uri :: edits.map .edit ++ [.finish 0])
              = ⟨(s.validateDuring uri compute edits).1, [],
                  (s.validateDuring uri compute edits).2.toList⟩)
      ∧ ∀ events, (((Run.fresh Session.empty).play compute events).deliveredFor uri).Pairwise
          fun o o' => o.revision ≤ o'.revision := by
  intro s
  have hs : s.Counted := Session.counted_applyAll_empty history
  refine ⟨?_, ?_, ?_⟩
  · intro hd edits
    rw [Session.validateDuring_of_none hd]
  · intro d hd edits
    refine ⟨Session.validateDuring_isSome_iff hs hd compute edits, ?_,
      Run.play_validateDuring hd edits⟩
    intro o ho
    have hsession : (s.validateDuring uri compute edits).1 = s.applyAll edits := by
      rw [Session.validateDuring_of_some hd]
    obtain ⟨rfl, hstored⟩ := Session.validateDuring_eq_some hs hd ho
    rw [hsession] at hstored
    exact ⟨rfl, rfl, rfl, rfl, rfl, hsession, hstored⟩
  · intro events
    exact (Run.ordered_fresh_empty.play events).deliveredFor uri

/-- Closing a document and opening it again just as it was makes a validation stale, and an edit of
another document does not. -/
theorem outcome_none_of_reopened :
    let s := Session.empty.applyAll [.opened "a" "x" (some 1), .opened "b" "y" none]
    s.document? "a" = some ⟨"x", 1, some 1⟩
      ∧ (s.validateDuring "a" (fun _ => []) [.closed "a", .opened "a" "x" (some 1)]).2 = none
      ∧ (s.validateDuring "a" (fun _ => []) [.changed "b" "z" none]).2
          = some ⟨"a", 1, some 1, "x", []⟩ := by
  intro s
  have hd : s.document? "a" = some ⟨"x", 1, some 1⟩ := by decide
  have h := (outcome_iff_untouched [.opened "a" "x" (some 1), .opened "b" "y" none]
    (fun _ => []) "a").2.1 _ hd
  refine ⟨hd, ?_, ?_⟩
  · rw [← Option.not_isSome_iff_eq_none, (h _).1]
    intro hes
    exact hes (.closed "a") List.mem_cons_self rfl
  · have hsome := (h [.changed "b" "z" none]).1.mpr (by simp [Edit.uri])
    obtain ⟨o, ho⟩ := Option.isSome_iff_exists.mp hsome
    obtain ⟨huri, hrev, hversion, htext, hfound, -, -⟩ := (h _).2.1 o ho
    rw [ho, Option.some.injEq]
    rcases o with ⟨uri, revision, version, text, diagnostics⟩
    rw [Outcome.mk.injEq]
    exact ⟨huri, hrev, hversion, htext, hfound⟩

end OpenApi.Editor
