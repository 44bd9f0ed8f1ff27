/-
What gets out of the program.

Without styles, messages are never read as markup, and standard error takes every text, so messages
are always printed (`printAll_messages`). Whether printing succeeds is a matter of the results
alone. Their texts are offered to standard output one after another, and what it takes is everything
up to the first text that it refuses (`lines_ok`). A result among messages therefore decides both
what standard output holds in the end and whether there is an error (`printAll_around`).
-/
import Mathlib.Data.List.TakeWhile
import OpenApi.Printer

set_option autoImplicit false

namespace OpenApi

/-! ## Messages -/

/-- Something that is said on standard error. -/
def Utterance.IsMessage : Utterance → Prop
  | .info _ | .success _ | .error _ | .debug _ => True
  | _ => False

namespace Printer

variable {p : Printer}

theorem marksMessages_eq_false (h : p.rendering ≠ .styled) : p.marksMessages = false := by
  rw [marksMessages, beq_eq_false_iff_ne.mpr h, Bool.false_and]

/-- Without styles, a message is printed as it is, on a line of its own. -/
theorem message_eq [Host] (h : p.marksMessages = false) (withMarkup plain : String) :
    p.message withMarkup plain = (⟨"", Text.escapeSurrogates (plain ++ "\n")⟩, none) := by
  rw [message, h]
  rfl

section Host

variable [Host]

/-- A message is printed, and nothing of it on standard output. -/
theorem exists_print_message (h : p.marksMessages = false) {u : Utterance} (hu : u.IsMessage) :
    ∃ err, p.print u = (⟨"", err⟩, none) := by
  cases u with
  | listing l => cases hu
  | diagnostics source ds => cases hu
  | record fields title => cases hu
  | error text => exact ⟨_, message_eq h _ _⟩
  | info text =>
    rw [print, message_eq h]
    split
    · exact ⟨"", rfl⟩
    · exact ⟨_, rfl⟩
  | success text =>
    rw [print, message_eq h]
    split
    · exact ⟨"", rfl⟩
    · exact ⟨_, rfl⟩
  | debug text =>
    rw [print, message_eq h]
    split
    · exact ⟨_, rfl⟩
    · exact ⟨"", rfl⟩

theorem printAll_cons_ok {u : Utterance} {printed more : Printed} {us : List Utterance}
    {e : Option PrintError} (hu : p.print u = (printed, none)) (hus : p.printAll us = (more, e)) :
    p.printAll (u :: us) = (printed ++ more, e) := by
  rw [printAll, hu]
  dsimp only
  rw [hus]
  rfl

/-- Messages are all printed, and nothing of them on standard output. -/
theorem printAll_messages (h : p.marksMessages = false) {us : List Utterance}
    (hus : ∀ u ∈ us, u.IsMessage) : ∃ err, p.printAll us = (⟨"", err⟩, none) := by
  induction us with
  | nil => exact ⟨"", rfl⟩
  | cons u us ih =>
    obtain ⟨err, hu⟩ := exists_print_message h (hus u List.mem_cons_self)
    obtain ⟨more, hrest⟩ := ih fun v hv => hus v (List.mem_cons_of_mem _ hv)
    exact ⟨err ++ more, printAll_cons_ok hu hrest⟩

/-- **Among messages, a result alone decides** what standard output holds and whether there is an
error. -/
theorem printAll_around (h : p.marksMessages = false) {before after : List Utterance}
    (hbefore : ∀ u ∈ before, u.IsMessage) (hafter : ∀ u ∈ after, u.IsMessage) {u : Utterance}
    {r : Result String} (hu : p.print u = onOutput r) :
    ∃ err, p.printAll (before ++ u :: after) = (⟨r.1, err⟩, r.2) := by
  induction before with
  | nil =>
    obtain ⟨err, hrest⟩ := printAll_messages h hafter
    obtain ⟨out, _ | e⟩ := r
    · refine ⟨"" ++ err, ?_⟩
      have hall := printAll_cons_ok hu hrest
      rw [List.nil_append, hall]
      exact congrArg (fun text => ((⟨text, "" ++ err⟩ : Printed), none)) String.append_empty
    · refine ⟨"", ?_⟩
      rw [List.nil_append, printAll, hu]
      rfl
  | cons m before ih =>
    obtain ⟨hm, hmore⟩ := List.forall_mem_cons.mp hbefore
    obtain ⟨first, hfirst⟩ := exists_print_message h hm
    obtain ⟨err, hrest⟩ := ih hmore
    refine ⟨first ++ err, ?_⟩
    rw [List.cons_append, printAll_cons_ok hfirst hrest]
    exact congrArg (fun text => ((⟨text, first ++ err⟩ : Printed), r.2)) String.empty_append

end Host

end Printer

/-! ## Texts that are offered -/

namespace Printer

/-- What standard output takes of texts that are offered one after another: all of them up to the
first that it refuses. -/
def taken (p : Printer) (ts : List String) : String :=
  String.join (ts.takeWhile fun t => (p.refusal t).isNone)

theorem taken_eq_join {p : Printer} {ts : List String} (h : ∀ t ∈ ts, p.refusal t = none) :
    p.taken ts = String.join ts := by
  have hall : ∀ t ∈ ts, (p.refusal t).isNone = true := by
    intro t ht
    rw [h t ht]
    rfl
  rw [taken, List.takeWhile_eq_self_iff.mpr hall]

/-- Texts that are offered one after another are printed up to the first that is refused. -/
theorem lines_ok (p : Printer) (ts : List String) :
    Result.lines p.offer (ts.map .ok)
      = (p.taken ts, (ts.findSome? p.refusal).map .refused) := by
  induction ts with
  | nil => rfl
  | cons t ts ih =>
    rw [List.map_cons, Result.lines, offer]
    rw [taken] at ih ⊢
    cases h : p.refusal t with
    | some a =>
      rw [List.takeWhile_cons_of_neg (by simp [h]), List.findSome?_cons_of_isSome (by simp [h]), h]
      rfl
    | none =>
      rw [List.takeWhile_cons_of_pos (by simp [h]), List.findSome?_cons_of_isNone (by simp [h]), ih,
        String.join_cons]
      rfl

/-- Printing lines ends early where one is refused or has no text. -/
theorem error_of_lines {p : Printer} {ls : List (Except Unwritable String)} {e : PrintError}
    (h : (Result.lines p.offer ls).2 = some e) :
    (∃ text a, p.refusal text = some a ∧ e = .refused a)
      ∨ ∃ u, .error u ∈ ls ∧ e = .unwritable u := by
  induction ls with
  | nil => cases h
  | cons l ls ih =>
    cases l with
    | error u =>
      cases h
      exact .inr ⟨u, List.mem_cons_self, rfl⟩
    | ok text =>
      rw [Result.lines, offer] at h
      cases hrefusal : p.refusal text with
      | some a =>
        rw [hrefusal] at h
        cases h
        exact .inl ⟨text, a, hrefusal, rfl⟩
      | none =>
        rw [hrefusal] at h
        exact (ih h).imp_right fun ⟨u, hu, he⟩ => ⟨u, List.mem_cons_of_mem _ hu, he⟩

/-- To offer one text is to offer a list of one. -/
theorem offer_eq_lines (p : Printer) (text : String) :
    p.offer text = Result.lines p.offer ([text].map .ok) := by
  rw [List.map_singleton, Result.lines, offer]
  cases p.refusal text with
  | some a => rfl
  | none => exact congrArg (fun out => (out, none)) String.append_empty.symm

end Printer

end OpenApi
