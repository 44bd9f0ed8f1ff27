/-
When the text of a value is empty.

The text of a scalar consists of digits, of a name, or of a date, and inside a container a text
stands between quotes; a container has its brackets. All of that takes up room. So a value is shown
by the empty text only if it is the empty text and stands on its own (`Graph.text_eq_empty_iff`).
-/
import OpenApi.Document.Show
import OpenApi.Proofs.Outcome

set_option autoImplicit false

namespace OpenApi

/-! ## Parts of texts -/

theorem append_ne_empty_left {s : String} (h : s ≠ "") (t : String) : s ++ t ≠ "" :=
  fun hempty => h (String.append_eq_empty_iff.mp hempty).1

theorem append_ne_empty_right (s : String) {t : String} (h : t ≠ "") : s ++ t ≠ "" :=
  fun hempty => h (String.append_eq_empty_iff.mp hempty).2

theorem padNumber_ne_empty (width n : Nat) : padNumber width n ≠ "" := by
  unfold padNumber
  simp

theorem Date.text_ne_empty (d : Date) : d.text ≠ "" := by
  unfold Date.text
  exact append_ne_empty_right _ (padNumber_ne_empty 2 d.day)

theorem Timestamp.text_ne_empty (t : Timestamp) (between : String) : t.text between ≠ "" := by
  unfold Timestamp.text
  -- the distance from universal time may be left out, the date is always there
  exact append_ne_empty_left (append_ne_empty_left (append_ne_empty_left
    (append_ne_empty_left t.date.text_ne_empty _) _) _) _

theorem Date.shown_ne_empty (d : Date) : d.shown ≠ "" := by
  unfold Date.shown
  exact append_ne_empty_right _ (by decide : ")" ≠ "")

theorem Timestamp.shown_ne_empty (t : Timestamp) : t.shown ≠ "" := by
  unfold Timestamp.shown
  exact append_ne_empty_right _ (by decide : ")" ≠ "")

theorem Decimal.toString_ne_empty (n : Int) : toString n ≠ "" := by
  cases n with
  | ofNat n => exact Nat.repr_ne_empty
  | negSucc n => exact append_ne_empty_left (by decide : "-" ≠ "") _

theorem Decimal.Numeral.write_ne_empty (layout : Decimal.Layout) (n : Decimal.Numeral) :
    n.write layout ≠ "" := by
  unfold Decimal.Numeral.write
  dsimp only
  split
  · split <;> simp
  · simp

theorem Decimal.Binary64.write_ne_empty (x : Decimal.Binary64) :
    x.write Decimal.plainLayout ≠ "" := by
  unfold Decimal.Binary64.write
  split
  · decide
  · exact append_ne_empty_right _ (by decide)
  · refine append_ne_empty_right _ ?_
    split
    · decide
    · exact Decimal.Numeral.write_ne_empty _ _

/-! ## Scalars -/

/-- Inside a container every scalar takes up room, the empty text by its quotes. -/
theorem Scalar.shown_ne_empty [Host] {s : Scalar} {text : String} (h : s.shown = .ok text) :
    text ≠ "" := by
  cases s with
  | null =>
    rw [← Except.ok.inj h]
    decide
  | bool b =>
    cases b with
    | true =>
      rw [← Except.ok.inj h]
      decide
    | false =>
      rw [← Except.ok.inj h]
      decide
  | int n =>
    rw [shown, Decimal.writeInt] at h
    split at h
    · rw [← Except.ok.inj h]
      exact Decimal.toString_ne_empty n
    · cases h
  | float x =>
    rw [← Except.ok.inj h]
    exact x.write_ne_empty
  | str s =>
    rw [← Except.ok.inj h]
    simp [Text.quoted]
  | bytes b =>
    rw [← Except.ok.inj h]
    simp [Text.quotedBytes]
  | date d =>
    rw [← Except.ok.inj h]
    exact d.shown_ne_empty
  | timestamp t =>
    rw [← Except.ok.inj h]
    exact t.shown_ne_empty

/-- A scalar is shown by the empty text only if it is the empty text. -/
theorem Scalar.text_eq_empty_iff [Host] {s : Scalar} {text : String} (h : s.text = .ok text) :
    text = "" ↔ s = .str "" := by
  cases s with
  | str s =>
    rw [← Except.ok.inj h, Scalar.str.injEq]
  | date d =>
    rw [← Except.ok.inj h]
    exact iff_of_false d.text_ne_empty nofun
  | timestamp t =>
    rw [← Except.ok.inj h]
    exact iff_of_false (t.text_ne_empty " ") nofun
  | _ =>
    simp only [Scalar.text] at h
    exact iff_of_false (Scalar.shown_ne_empty h) nofun

/-! ## Values -/

namespace Graph

variable [Host] {g : Graph}

/-- A container that is shown has room. It is shown with its brackets, and a reference to none by a
scalar. -/
theorem shown_container_ne_empty {id : Nat} {text : String}
    (h : g.shown (.container id) = .ok text) : text ≠ "" := by
  rw [shown] at h
  -- Without any room nothing is shown at all. With some, the brackets are text enough.
  generalize Host.containers = room at h
  cases room with
  | zero => cases h
  | succ room =>
    rw [shownWithin] at h
    dsimp only at h
    rw [if_neg (by simp)] at h
    obtain ⟨parts, hparts, rfl⟩ := exists_of_map_ok h
    clear h
    cases hshape : g.shape (.container id) with
    | scalar s =>
      rw [hshape] at hparts
      obtain ⟨part, rest, hpart, hrest, rfl⟩ :=
        List.forall₂_cons_left_iff.mp (mapM_eq_ok_iff.mp hparts)
      rw [List.forall₂_nil_left_iff.mp hrest]
      show String.intercalate ", " [part] ≠ ""
      rw [String.intercalate_singleton]
      exact Scalar.shown_ne_empty hpart
    | mapping entries => exact append_ne_empty_right _ (by decide)
    | sequence items => exact append_ne_empty_right _ (by decide)
    | pair first second => exact append_ne_empty_right _ (by decide)
    | set members =>
      cases members with
      | nil => exact (by decide : "set()" ≠ "")
      | cons member rest => exact append_ne_empty_right _ (by decide)

/-- **A value is shown by the empty text only if it is the empty text.** -/
theorem text_eq_empty_iff {v : Value} {text : String} (h : g.text v = .ok text) :
    text = "" ↔ v = .str "" := by
  cases v with
  | scalar s =>
    rw [Scalar.text_eq_empty_iff h, Value.str, Value.scalar.injEq]
  | container id => exact iff_of_false (shown_container_ne_empty h) nofun

/-- An integer that is too long has no text. -/
theorem text_of_long (g : Graph) {n : Int} (hlong : Decimal.isWritable n = false) :
    g.text (.scalar (.int n)) = .error (.digits ⟨none⟩) := by
  change (Decimal.writeInt n).mapError Unwritable.digits = _
  rw [Decimal.writeInt, hlong]
  rfl

end Graph

end OpenApi
