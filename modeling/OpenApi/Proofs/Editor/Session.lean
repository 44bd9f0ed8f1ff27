/-
What edits do to the documents of a session.

A session is a list of documents by address, but nothing that reads it sees more than the lookup
by address, the counter of revisions and, through the two, whether a revision is current. This
file says once what each edit does to these. An edit of one address leaves the lookups of all
others as they are; at its own address it leaves either no document or one whose revision is the
counter's next value. Nothing here asks for an invariant of the list: a lookup takes the first
entry of an address, and each edit treats every entry of the address alike.

The invariant of a session, `Counted`, is that no stored revision is past the counter. It holds of
the empty session and survives every edit, so it holds of every session there can be.
-/
import OpenApi.Editor.Session

set_option autoImplicit false

namespace OpenApi.Editor

/-- The address of the document that an edit is about. -/
def Edit.uri : Edit → String
  | .opened uri _ _ => uri
  | .changed uri _ _ => uri
  | .closed uri => uri

namespace Session

/-! ## One edit -/

/-- A list of entries that is searched by address after the entries of one address were replaced
gives the replacement at that address, if there was anything to replace. -/
theorem find?_replaced {es : List (String × OpenDocument)} {uri : String} (d : OpenDocument)
    (hin : (es.find? fun e => e.1 == uri).isSome) :
    (es.map fun e => if e.1 == uri then (uri, d) else e).find? (fun e => e.1 == uri)
      = some (uri, d) := by
  induction es with
  | nil => simp at hin
  | cons e es ih =>
    by_cases he : e.1 = uri
    · simp [he]
    · have hin' : (es.find? fun e => e.1 == uri).isSome := by
        rwa [List.find?_cons_of_neg (by simpa using he)] at hin
      rw [List.map_cons, List.find?_cons_of_neg (by simp [he]), ih hin']

/-- ... and what was there at every other. -/
theorem find?_replaced_ne {uri other : String} (hne : other ≠ uri) (d : OpenDocument)
    (es : List (String × OpenDocument)) :
    (es.map fun e => if e.1 == uri then (uri, d) else e).find? (fun e => e.1 == other)
      = es.find? fun e => e.1 == other := by
  induction es with
  | nil => rfl
  | cons e es ih =>
    by_cases he : e.1 = uri
    · have ho : e.1 ≠ other := fun h => hne (h.symm.trans he)
      rw [List.map_cons, List.find?_cons_of_neg (by simpa [he] using hne.symm),
        List.find?_cons_of_neg (by simpa using ho), ih]
    · by_cases ho : e.1 = other
      · simp [ho, hne]
      · rw [List.map_cons, List.find?_cons_of_neg (by simpa [he] using ho),
          List.find?_cons_of_neg (by simpa using ho), ih]

theorem document?_store (s : Session) (uri text : String) (version : Option Int) :
    (s.store uri text version).document? uri = some ⟨text, s.counter + 1, version⟩ := by
  by_cases hin : s.contains uri = true
  · have hfind : (s.documents.find? fun e => e.1 == uri).isSome := by
      simpa [contains, document?] using hin
    simp only [store, document?, if_pos hin]
    rw [find?_replaced _ hfind]
    rfl
  · have hfind : (s.documents.find? fun e => e.1 == uri) = none := by
      rw [contains, document?, Option.isSome_map] at hin
      exact Option.not_isSome_iff_eq_none.mp hin
    simp only [store, document?, if_neg hin]
    rw [List.find?_append, hfind]
    simp

theorem document?_store_ne (s : Session) {uri other : String} (hne : other ≠ uri) (text : String)
    (version : Option Int) :
    (s.store uri text version).document? other = s.document? other := by
  by_cases hin : s.contains uri = true
  · simp only [store, document?, if_pos hin]
    rw [find?_replaced_ne hne]
  · simp only [store, document?, if_neg hin]
    rw [List.find?_append, List.find?_cons_of_neg (by simpa using hne.symm)]
    simp

theorem document?_close (s : Session) (uri : String) : (s.close uri).document? uri = none := by
  have hfind : (s.close uri).documents.find? (fun e => e.1 == uri) = none := by
    rw [List.find?_eq_none]
    intro e he
    have hne := (List.mem_filter.mp he).2
    simpa using hne
  rw [document?, hfind]
  rfl

theorem document?_close_ne (s : Session) {uri other : String} (hne : other ≠ uri) :
    (s.close uri).document? other = s.document? other := by
  have hsame : (fun e : String × OpenDocument =>
      decide ((e.1 != uri) = true ∧ (e.1 == other) = true)) = fun e => e.1 == other := by
    funext e
    by_cases he : e.1 = other
    · simp [he, hne]
    · simp [he]
  rw [document?, close, List.find?_filter, hsame]
  rfl

/-! ## Any edit -/

/-- Storing takes the next revision, closing takes none. -/
theorem counter_le_apply (s : Session) (e : Edit) : s.counter ≤ (s.apply e).counter := by
  cases e with
  | opened uri text version => exact Nat.le_succ _
  | changed uri text version => exact Nat.le_succ _
  | closed uri => exact Nat.le_refl _

/-- **Frame.** An edit leaves the documents of other addresses as they are. -/
theorem document?_apply_ne (s : Session) {e : Edit} {uri : String} (hne : uri ≠ e.uri) :
    (s.apply e).document? uri = s.document? uri := by
  cases e with
  | opened _ text version => exact document?_store_ne s hne text version
  | changed _ text version => exact document?_store_ne s hne text version
  | closed _ => exact document?_close_ne s hne

/-- At its own address an edit leaves no document, or one with the next revision. -/
theorem revision_of_apply (s : Session) (e : Edit) {d : OpenDocument}
    (hd : (s.apply e).document? e.uri = some d) :
    d.revision = s.counter + 1 ∧ (s.apply e).counter = s.counter + 1 := by
  cases e with
  | opened uri text version =>
    rw [apply, Edit.uri, document?_store, Option.some.injEq] at hd
    exact ⟨by rw [← hd], rfl⟩
  | changed uri text version =>
    rw [apply, Edit.uri, document?_store, Option.some.injEq] at hd
    exact ⟨by rw [← hd], rfl⟩
  | closed uri =>
    rw [apply, Edit.uri, document?_close] at hd
    cases hd

/-! ## Lists of edits -/

@[simp] theorem applyAll_nil (s : Session) : s.applyAll [] = s := rfl

@[simp] theorem applyAll_cons (s : Session) (e : Edit) (es : List Edit) :
    s.applyAll (e :: es) = (s.apply e).applyAll es := rfl

/-- A property that every edit keeps is kept by a list of edits. -/
theorem applyAll_keeps {P : Session → Prop} (keeps : ∀ s e, P s → P (s.apply e)) {s : Session}
    (hs : P s) (es : List Edit) : P (s.applyAll es) := by
  induction es generalizing s with
  | nil => exact hs
  | cons e es ih => exact ih (keeps s e hs)

theorem document?_applyAll_of_untouched {uri : String} {es : List Edit}
    (hes : ∀ e ∈ es, e.uri ≠ uri) (s : Session) :
    (s.applyAll es).document? uri = s.document? uri := by
  induction es generalizing s with
  | nil => rfl
  | cons e es ih =>
    rw [applyAll_cons, ih (fun e' he' => hes e' (List.mem_cons_of_mem _ he')),
      document?_apply_ne s (hes e List.mem_cons_self).symm]

/-! ## The invariant -/

/-- No stored revision is past the counter. -/
def Counted (s : Session) : Prop :=
  ∀ uri d, s.document? uri = some d → d.revision ≤ s.counter

theorem counted_empty : Counted Session.empty := by
  intro uri d hd
  cases hd

theorem Counted.apply (s : Session) (e : Edit) (hs : s.Counted) : (s.apply e).Counted := by
  intro uri d hd
  by_cases huri : uri = e.uri
  · subst huri
    -- the edit used up the counter's next value, and the counter is there now
    obtain ⟨hrev, hcounter⟩ := revision_of_apply s e hd
    exact Nat.le_of_eq (hrev.trans hcounter.symm)
  · rw [document?_apply_ne s huri] at hd
    exact Nat.le_trans (hs uri d hd) (counter_le_apply s e)

/-- Every session that edits lead to is counted. -/
theorem counted_applyAll_empty (es : List Edit) : (Session.empty.applyAll es).Counted :=
  applyAll_keeps Counted.apply counted_empty es

end Session

end OpenApi.Editor
