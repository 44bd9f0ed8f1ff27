/-
Plain lines, cut into fields again.

A plain table puts tabs between cells and a line feed behind each row, and quotes nothing. What
cutting gives are always texts without tabs and line feeds (`isField_of_mem_cut`), so a table whose
cells have any is not got back; and all other tables are (`cut_plainLines`).
-/
import Mathlib.Data.List.Basic
import OpenApi.Printer
import OpenApi.Proofs.Json.Encodable
import OpenApi.Proofs.Outcome

set_option autoImplicit false

namespace OpenApi

/-! ## Cutting -/

/-- The lines of a text. What stands behind the last line feed is no line. -/
def textLines (text : String) : List (List Char) := (text.toList.splitOn '\n').dropLast

/-- The fields of a line, which are what stands between its tabs. -/
def fieldsOf (line : List Char) : List String := (line.splitOn '\t').map String.ofList

/-- The lines of a text, each cut into its fields. -/
def cut (text : String) : List (List String) := (textLines text).map fieldsOf

/-- A text that can stand as a field of a line. -/
def IsField (text : String) : Prop := '\t' ∉ text.toList ∧ '\n' ∉ text.toList

instance (text : String) : Decidable (IsField text) :=
  inferInstanceAs (Decidable (_ ∧ _))

/-- The pieces of a list do not have the separator, and their elements are from the list. -/
theorem splitOn_pieces {α : Type} [BEq α] [LawfulBEq α] {a : α} {xs piece : List α}
    (h : piece ∈ xs.splitOn a) : a ∉ piece ∧ piece ⊆ xs := by
  induction xs generalizing piece with
  | nil =>
    rw [List.splitOn_nil, List.mem_singleton] at h
    rw [h]
    exact ⟨List.not_mem_nil, List.nil_subset _⟩
  | cons x xs ih =>
    rw [List.splitOn_cons_eq_if_modifyHead] at h
    split at h
    · rcases List.mem_cons.mp h with rfl | hrest
      · exact ⟨List.not_mem_nil, List.nil_subset _⟩
      · obtain ⟨hnone, hfrom⟩ := ih hrest
        exact ⟨hnone, List.subset_cons_of_subset x hfrom⟩
    -- the element goes to the first piece of the rest
    · rename_i hx
      obtain ⟨first, pieces, hsplit⟩ := List.exists_cons_of_ne_nil (List.splitOn_ne_nil a xs)
      rw [hsplit] at ih h
      rw [List.modifyHead_cons] at h
      rcases List.mem_cons.mp h with rfl | hrest
      · obtain ⟨hnone, hfrom⟩ := ih List.mem_cons_self
        have hne : a ≠ x := by
          rintro rfl
          exact hx BEq.rfl
        exact ⟨List.not_mem_cons_of_ne_of_not_mem hne hnone, List.cons_subset_cons x hfrom⟩
      · obtain ⟨hnone, hfrom⟩ := ih (List.mem_cons_of_mem _ hrest)
        exact ⟨hnone, List.subset_cons_of_subset x hfrom⟩

theorem isField_of_mem_cut {text cell : String} {row : List String} (hrow : row ∈ cut text)
    (hcell : cell ∈ row) : IsField cell := by
  obtain ⟨line, hline, rfl⟩ := List.mem_map.mp hrow
  obtain ⟨piece, hpiece, rfl⟩ := List.mem_map.mp hcell
  obtain ⟨hfeed, -⟩ := splitOn_pieces (List.dropLast_subset _ hline)
  obtain ⟨htab, hfrom⟩ := splitOn_pieces hpiece
  rw [IsField, String.toList_ofList]
  exact ⟨htab, fun hmem => hfeed (hfrom hmem)⟩

/-! ## Texts put together -/

/-- All characters of a text have a property. -/
def Text.Only (P : Char → Prop) (text : String) : Prop := ∀ c ∈ text.toList, P c

/-- A character that is not in the separator is in texts put side by side if it is in one of
them. -/
theorem mem_intercalate_iff {c : Char} {separator : String} (hc : c ∉ separator.toList)
    (texts : List String) :
    c ∈ (String.intercalate separator texts).toList ↔ ∃ text ∈ texts, c ∈ text.toList := by
  rw [String.toList_intercalate]
  induction texts with
  | nil => simp
  | cons text texts ih =>
    cases texts with
    | nil => simp
    | cons next texts =>
      rw [List.map_cons] at ih
      rw [List.map_cons, List.map_cons, List.intercalate_cons_cons, List.mem_append,
        List.mem_append, ih]
      simp [hc]

namespace Text

variable {P : Char → Prop}

/-- What texts put side by side consist of, apart from the separator. -/
theorem only_intercalate_iff {separator : String} (h : Only P separator) (texts : List String) :
    Only P (String.intercalate separator texts) ↔ ∀ text ∈ texts, Only P text := by
  constructor
  · intro hall text htext c hc
    by_cases hmem : c ∈ separator.toList
    · exact h c hmem
    · exact hall c ((mem_intercalate_iff hmem texts).mpr ⟨text, htext, hc⟩)
  · intro hall c hc
    by_cases hmem : c ∈ separator.toList
    · exact h c hmem
    · obtain ⟨text, htext, hfrom⟩ := (mem_intercalate_iff hmem texts).mp hc
      exact hall text htext c hfrom

theorem only_append_iff {a b : String} : Only P (a ++ b) ↔ Only P a ∧ Only P b := by
  rw [Only, String.toList_append]
  exact List.forall_mem_append

/-- A text without control characters that is ASCII. -/
theorem only_of_printable (hP : ∀ c : Char, 0x20 ≤ c.toNat → c.toNat < 0x80 → P c) {text : String}
    (h : text.toList.all (fun c => 0x20 ≤ c.toNat && c.toNat < 0x80) = true) : Only P text := by
  intro c hc
  have hcode := List.all_eq_true.mp h c hc
  simp only [Bool.and_eq_true, decide_eq_true_eq] at hcode
  exact hP c hcode.1 hcode.2

end Text

theorem isField_iff_only {text : String} :
    IsField text ↔ Text.Only (fun c => c ≠ '\t' ∧ c ≠ '\n') text := by
  simp only [IsField, Text.Only, imp_and, forall_and]
  constructor
  · rintro ⟨htab, hfeed⟩
    exact ⟨fun c hc heq => htab (heq ▸ hc), fun c hc heq => hfeed (heq ▸ hc)⟩
  · rintro ⟨htab, hfeed⟩
    exact ⟨fun hc => htab _ hc rfl, fun hc => hfeed _ hc rfl⟩

/-! ## Tables -/

namespace Listing

/-- What a line consists of. -/
theorem only_plainLine {P : Char → Prop} (htab : P '\t') (hfeed : P '\n') {fields : List String}
    (h : ∀ f ∈ fields, Text.Only P f) : Text.Only P (plainLine fields) := by
  have hseparator : Text.Only P "\t" := List.forall_mem_singleton.mpr htab
  exact Text.only_append_iff.mpr ⟨(Text.only_intercalate_iff hseparator fields).mpr h,
    List.forall_mem_singleton.mpr hfeed⟩

/-- A line of fields that have an encoding has one. -/
theorem isEncodable_plainLine [Host] {fields : List String} (h : ∀ f ∈ fields, Text.IsEncodable f) :
    Text.IsEncodable (plainLine fields) :=
  only_plainLine (Text.isLoneSurrogate_of_ascii (by decide))
    (Text.isLoneSurrogate_of_ascii (by decide)) h

theorem fieldsOf_row {row : List String} (hne : row ≠ []) (h : ∀ cell ∈ row, IsField cell) :
    fieldsOf (String.intercalate "\t" row).toList = row := by
  have hparts : ∀ part ∈ row.map String.toList, '\t' ∉ part := by
    intro part hpart
    obtain ⟨cell, hcell, rfl⟩ := List.mem_map.mp hpart
    exact (h cell hcell).1
  have hsplit : (['\t'].intercalate (row.map String.toList)).splitOn '\t'
      = row.map String.toList :=
    List.splitOn_intercalate '\t' hparts (mt List.map_eq_nil_iff.mp hne)
  rw [fieldsOf, String.toList_intercalate, show "\t".toList = ['\t'] from rfl, hsplit,
    List.map_map]
  exact List.map_id'' (fun cell => String.ofList_toList) row

theorem cut_plainLine_append {row : List String} (hne : row ≠ [])
    (h : ∀ cell ∈ row, IsField cell) (rest : String) :
    cut (plainLine row ++ rest) = row :: cut rest := by
  have hfeed : '\n' ∉ (String.intercalate "\t" row).toList := by
    rw [mem_intercalate_iff (by decide)]
    rintro ⟨cell, hcell, hmem⟩
    exact (h cell hcell).2 hmem
  have hlines : textLines (plainLine row ++ rest)
      = (String.intercalate "\t" row).toList :: textLines rest := by
    rw [textLines, plainLine, String.toList_append, String.toList_append,
      show "\n".toList = ['\n'] from rfl, List.append_assoc, List.singleton_append,
      List.splitOn_append_cons_self_of_not_mem hfeed,
      List.dropLast_cons_of_ne_nil (List.splitOn_ne_nil _ _), textLines]
  rw [cut, hlines, List.map_cons, fieldsOf_row hne h, cut]

/-- **Rows are got back from plain lines** if and only if all their cells can stand as fields. -/
theorem cut_plainLines {rows : List (List String)} (hne : ∀ row ∈ rows, row ≠ []) :
    cut (String.join (rows.map plainLine)) = rows ↔ ∀ row ∈ rows, ∀ cell ∈ row, IsField cell := by
  refine ⟨fun h row hrow cell hcell => ?_, fun h => ?_⟩
  -- the cells are pieces of the text, whatever they were printed from
  · rw [← h] at hrow
    exact isField_of_mem_cut hrow hcell
  · induction rows with
    | nil => rfl
    | cons row rows ih =>
      obtain ⟨hfields, hrest⟩ := List.forall_mem_cons.mp h
      obtain ⟨hrow, hrows⟩ := List.forall_mem_cons.mp hne
      rw [List.map_cons, String.join_cons, cut_plainLine_append hrow hfields, ih hrows hrest]

example : cut (String.join ([["a\tb", "c"], ["d", "e"]].map plainLine))
    = [["a", "b", "c"], ["d", "e"]] := by
  decide +kernel

section Host

variable [Host]

theorem rowTexts_str (row : List String) : rowTexts (row.map .str) = .ok row :=
  mapM_eq_ok_iff.mpr (List.forall₂_map_left_iff.mpr (List.forall₂_same.mpr fun _ _ => rfl))

/-- Rows of texts are printed as they are, below the headers. -/
theorem plain_str (headers : List String) (rows : List (List String)) (title : Option String) :
    plain { headers, rows := rows.map fun row => row.map .str, title }
      = ((headers :: rows).map plainLine).map .ok := by
  have hrows : (rows.map fun row => row.map Json.Value.str).map
      (fun row => (rowTexts row).map plainLine) = (rows.map plainLine).map .ok := by
    rw [List.map_map, List.map_map]
    refine List.map_congr_left fun row hrow => ?_
    rw [Function.comp_apply, rowTexts_str]
    rfl
  rw [plain, hrows, List.map_cons, List.map_cons]

end Host

end Listing

end OpenApi
