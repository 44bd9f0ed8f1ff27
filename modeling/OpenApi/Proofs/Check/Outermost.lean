/-
Which errors of a tree are reported.

The grammar may leave errors inside errors, with sound nodes between them. A check reports those
only that lie in no other error, and finds out by going up from the parent of an error as far as it
gets. The way up is a loop (`Ascends`); it ends because parents come before their children
(`ascends_insideError`), and its answer is whether an error stands on the way
(`Ascends.eq_true_iff`).

That every error is covered by a report is an argument about the whole way up: the uppermost error
on the way from a node lies in no other (`exists_outermost`). There is one way up, so of two errors
above a node one lies in the other, and of two that lie in no other there is no such pair
(`IsOutermostError.unique`).
-/
import OpenApi.Check
import OpenApi.Proofs.Outcome
import OpenApi.Proofs.Tree.Subtree

set_option autoImplicit false

namespace OpenApi.Checker

open OpenApi.Tree (Arena Concrete Handle)
open Relation (ReflTransGen TransGen)

/-! ## Going up -/

/-- The loop that goes up from a node to its parent until it meets an error or there is no parent,
with its answer. -/
inductive Ascends (a : Arena) : Option Handle → Bool → Prop where
  | above : Ascends a none false
  | error {h : Handle} : a.isError h = true → Ascends a (some h) true
  | up {h : Handle} {answer : Bool} : a.isError h = false → Ascends a (a.parent? h) answer →
      Ascends a (some h) answer

section Ways

variable {a : Arena}

/-- The loop says whether an error is met on the way up. -/
theorem Ascends.eq_true_iff {start : Option Handle} {answer : Bool}
    (h : Ascends a start answer) :
    answer = true ↔ ∃ x ∈ start, ∃ k, ReflTransGen a.IsParent k x ∧ a.isError k = true := by
  induction h with
  | above => simp
  | @error x hx =>
    constructor
    · intro _
      exact ⟨x, rfl, x, .refl, hx⟩
    · intro _
      rfl
  | @up x answer hx _ ih =>
    rw [ih]
    constructor
    · rintro ⟨p, hp, k, hreach, hk⟩
      exact ⟨x, rfl, k, hreach.tail hp, hk⟩
    · rintro ⟨y, hy, k, hreach, hk⟩
      obtain rfl : x = y := Option.some.inj hy
      -- the node is no error, so the error is further up
      rcases ReflTransGen.cases_tail hreach with heq | ⟨p, hkp, hp⟩
      · rw [← heq, hx] at hk
        cases hk
      · exact ⟨p, hp, k, hkp, hk⟩

/-- **The loop ends**, after no more steps than there are nodes up to the one it starts from. -/
theorem ascends_insideError (ha : a.WellFormed) {count : Nat} {h : Handle} (hh : h < count) :
    Ascends a (some h) (insideError a count h) := by
  induction count generalizing h with
  | zero => exact absurd hh (Nat.not_lt_zero h)
  | succ count ih =>
    rw [insideError]
    cases herror : a.isError h with
    | true => exact .error herror
    | false =>
      rw [Bool.false_or]
      refine .up herror ?_
      cases hparent : a.parent? h with
      | none => exact .above
      | some p =>
        have hlt : p < h := ha.lt_of_isParent hparent
        exact ih (Nat.lt_of_lt_of_le hlt (Nat.le_of_lt_succ hh))

/-! ## Outermost errors -/

/-- An error that lies in no other. -/
def IsOutermostError (a : Arena) (h : Handle) : Prop :=
  a.isError h = true ∧ ∀ k, TransGen a.IsParent k h → a.isError k = false

/-- What is kept are the errors that lie in no other. -/
theorem mem_outermostErrors_iff (ha : a.WellFormed) {h : Handle} :
    h ∈ outermostErrors a ↔ IsOutermostError a h := by
  rw [outermostErrors, List.mem_filter, ha.mem_errors_iff, IsOutermostError]
  refine and_congr_right fun _ => ?_
  cases hparent : a.parent? h with
  | none =>
    refine iff_of_true rfl fun k habove => ?_
    obtain ⟨p, -, hp⟩ := TransGen.tail'_iff.mp habove
    rw [Arena.IsParent, hparent] at hp
    cases hp
  | some p =>
    have hsize : p < a.size :=
      Nat.lt_trans (ha.lt_of_isParent hparent) (Arena.IsParent.lt_size hparent)
    have hinside := (ascends_insideError ha hsize).eq_true_iff
    rw [Option.map_some, Option.getD_some, Bool.not_eq_true', ← Bool.not_eq_true, hinside]
    constructor
    · intro hnone k habove
      rw [← Bool.not_eq_true]
      exact fun hk => hnone ⟨p, rfl, k, Arena.reaches_parent habove hparent, hk⟩
    · rintro hnone ⟨q, hq, k, hreach, hk⟩
      obtain rfl : p = q := Option.some.inj hq
      rw [hnone k (TransGen.tail' hreach hparent)] at hk
      cases hk

/-- **Every error lies in one that lies in no other.** -/
theorem exists_outermost (ha : a.WellFormed) {k : Handle} (hk : a.isError k = true) :
    ∃ h, IsOutermostError a h ∧ ReflTransGen a.IsParent h k := by
  induction k using Nat.strong_induction_on with
  | _ k ih =>
    by_cases houter : IsOutermostError a k
    · exact ⟨k, houter, .refl⟩
    · simp only [IsOutermostError, hk, true_and, not_forall, Bool.not_eq_false] at houter
      obtain ⟨l, habove, hl⟩ := houter
      obtain ⟨h, hh, hreach⟩ := ih l (ha.lt_of_above habove) hl
      exact ⟨h, hh, hreach.trans habove.to_reflTransGen⟩

theorem IsOutermostError.not_above {h k : Handle} (hh : IsOutermostError a h)
    (hk : IsOutermostError a k) : ¬TransGen a.IsParent h k := by
  intro habove
  have hnone : a.isError h = false := hk.2 h habove
  rw [hh.1] at hnone
  cases hnone

/-- There is only one such error above a node. -/
theorem IsOutermostError.unique {h k l : Handle} (hh : IsOutermostError a h)
    (hk : IsOutermostError a k) (hhl : ReflTransGen a.IsParent h l)
    (hkl : ReflTransGen a.IsParent k l) : h = k := by
  rcases Arena.ancestors_linear hhl hkl with hreach | hreach
  · rcases Relation.reflTransGen_iff_eq_or_transGen.mp hreach with heq | habove
    · exact heq.symm
    · exact absurd habove (hh.not_above hk)
  · rcases Relation.reflTransGen_iff_eq_or_transGen.mp hreach with heq | habove
    · exact heq
    · exact absurd habove (hk.not_above hh)

theorem outermostErrors_eq_nil_iff (ha : a.WellFormed) :
    outermostErrors a = [] ↔ ∀ h, a.isError h = false := by
  rw [List.eq_nil_iff_forall_not_mem]
  constructor
  · intro hnone k
    rw [← Bool.not_eq_true]
    intro hk
    obtain ⟨h, hh, -⟩ := exists_outermost ha hk
    exact hnone h ((mem_outermostErrors_iff ha).mpr hh)
  · intro hnone h hmem
    have hh := ((mem_outermostErrors_iff ha).mp hmem).1
    rw [hnone h] at hh
    cases hh

/-! ## Reports -/

/-- There is one diagnostic for each of these errors, in the same order. -/
theorem forall₂_grammar (ha : a.WellFormed) (c : Checker) :
    List.Forall₂ (fun h d => ∃ n, a.node? h = some n ∧ d = c.located (errorMessage n) (some n))
      (outermostErrors a) (c.grammar a) := by
  have hnodes : List.Forall₂ (fun n h => a.node? h = some n)
      ((outermostErrors a).filterMap a.node?) (outermostErrors a) := by
    refine forall₂_filterMap (List.forall₂_same.mpr ?_)
    intro h hh
    obtain ⟨n, hn, -⟩ := (Arena.isError_eq_true_iff a h).mp
      ((mem_outermostErrors_iff ha).mp hh).1
    exact ⟨n, hn, hn⟩
  rw [grammar, List.forall₂_map_right_iff]
  refine hnodes.flip.imp ?_
  intro h n hn
  exact ⟨n, hn, rfl⟩

/-- The grammar has nothing to say if and only if the tree has no error. -/
theorem grammar_eq_nil_iff (ha : a.WellFormed) (c : Checker) :
    c.grammar a = [] ↔ ∀ h, a.isError h = false := by
  rw [← outermostErrors_eq_nil_iff ha, ← List.length_eq_zero_iff, ← List.length_eq_zero_iff,
    (forall₂_grammar ha c).length_eq]

/-- Some errors of a tree are reported by the grammar, and they stand for all of them. -/
structure Reports (c : Checker) (a : Arena) (reported : List Handle) : Prop where
  /-- They are listed in pre-order, each once. -/
  inOrder : reported.Sublist (a.walk a.root)
  once : reported.Nodup
  /-- They are the errors that lie in no other. -/
  outermost : ∀ h, h ∈ reported ↔ IsOutermostError a h
  /-- There is one diagnostic for each of them, in the same order. -/
  diagnostics : List.Forall₂ (fun h d => ∃ n, a.node? h = some n
    ∧ d = c.located (errorMessage n) (some n)) reported (c.grammar a)
  /-- None of them lies in another. -/
  apart : ∀ h ∈ reported, ∀ k ∈ reported, ¬TransGen a.IsParent h k
  /-- Every error is one of them, or lies in exactly one of them. -/
  covers : ∀ k, a.isError k = true → ∃! h, h ∈ reported ∧ ReflTransGen a.IsParent h k
  /-- There is no diagnostic if and only if there is no error. -/
  clean : c.grammar a = [] ↔ ∀ h, a.isError h = false
  /-- The loop that goes up from a node ends, wherever it starts. -/
  ends : ∀ h, h < a.size → Ascends a (some h) (insideError a a.size h)

/-- **The grammar reports each outermost error once**, and so covers every error of a well-formed
arena. -/
theorem grammar_reports_outermost_errors (ha : a.WellFormed) (c : Checker) :
    c.Reports a (outermostErrors a) := by
  have hmem : ∀ h, h ∈ outermostErrors a ↔ IsOutermostError a h :=
    fun h => mem_outermostErrors_iff ha
  have hsub : (outermostErrors a).Sublist (a.walk a.root) :=
    List.filter_sublist.trans List.filter_sublist
  have hnodup : (a.walk a.root).Nodup := by
    rw [ha.preorder]
    exact List.nodup_range
  refine ⟨hsub, hnodup.sublist hsub, hmem, forall₂_grammar ha c, ?_, ?_,
    grammar_eq_nil_iff ha c, fun h hh => ascends_insideError ha hh⟩
  · intro h hh k hk
    exact ((hmem h).mp hh).not_above ((hmem k).mp hk)
  · intro k hk
    obtain ⟨h, hh, hreach⟩ := exists_outermost ha hk
    refine ⟨h, ⟨(hmem h).mpr hh, hreach⟩, ?_⟩
    rintro l ⟨hl, hlk⟩
    exact ((hmem l).mp hl).unique hh hlk hreach

end Ways

/-- Text that could not be placed, in which an object was made out that has two more errors; and a
bracket that is missing at the end. -/
def brokenTree : Concrete :=
  .branch "document" .start .start
    [.branch "ERROR" .start .start
      [.branch "object" .start .start
        [.leaf "ERROR" .start .start, .node ⟨",", none, .start, .start, true⟩ []]],
      .leaf "number" .start .start,
      .node ⟨"]", none, .start, .start, true⟩ []]

/-- The two errors below the object are not reported. -/
theorem grammar_reports_brokenTree :
    (Arena.ofConcrete brokenTree "" .json).WellFormed
      ∧ (Arena.ofConcrete brokenTree "" .json).errors = [1, 3, 4, 6]
      ∧ Reports {} (Arena.ofConcrete brokenTree "" .json) [1, 6] := by
  have hwell := Arena.wellFormed_ofConcrete brokenTree "" .json
  have herrors : (Arena.ofConcrete brokenTree "" .json).errors = [1, 3, 4, 6] := by
    decide +kernel
  have houtermost : outermostErrors (Arena.ofConcrete brokenTree "" .json) = [1, 6] := by
    decide +kernel
  have hreports := grammar_reports_outermost_errors hwell {}
  rw [houtermost] at hreports
  exact ⟨hwell, herrors, hreports⟩

end OpenApi.Checker
