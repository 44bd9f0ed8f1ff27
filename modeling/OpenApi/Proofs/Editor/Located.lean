/-
Where a diagnostic is shown.

A diagnostic names its place twice: by line and column, which are printed counted from one, and by
offsets, from which an editor gets a range. Both are those of one node of the tree that the check
was given (`Checker.place_of_checkWith`), and in a tree that fits the text every node is at the
positions of its offsets. So what is printed and what is published start at the same place.

The tree need not be the one that a grammar of this library makes: it is any tree over the bytes of
the text whose places belong to the text.
-/
import Mathlib
import OpenApi.Check
import OpenApi.Editor.Range
import OpenApi.Host.Standard
import OpenApi.Printer
import OpenApi.Proofs.Tree.Positions

set_option autoImplicit false

namespace OpenApi

open OpenApi.Editor (Notice diagnosticRange)
open OpenApi.Text (Range)
open OpenApi.Tree (Arena Concrete Node Place)

/-! ## The place of a diagnostic -/

namespace Diagnostic

/-- A diagnostic about something that is absent: it knows no place. -/
structure IsUnplaced (d : Diagnostic) : Prop where
  line : d.line = none
  column : d.column = none
  startOffset : d.startOffset = none
  stopOffset : d.stopOffset = none

/-- A diagnostic that has its place from a node. -/
structure IsAt (d : Diagnostic) (n : Node) : Prop where
  line : d.line = some n.start.row
  column : d.column = some n.start.column
  startOffset : d.startOffset = some n.startOffset
  stopOffset : d.stopOffset = some n.stopOffset

/-- A diagnostic that is shown at one place: the range that an editor gets starts at its line and
column, whatever origin the notice names, and these are printed counted from one. -/
structure IsShownAt (d : Diagnostic) (text : String) (range : Range) : Prop where
  derived : diagnosticRange text d = .ok range
  published : ∀ source, (Notice.of text d source).map (·.range) = .ok range
  line : d.line = some range.start.row
  column : d.column = some range.start.column
  printedLine : shownPosition d.line = .int (range.start.row + 1)
  printedColumn : shownPosition d.column = .int (range.start.column + 1)

/-- The offsets of a node give back its range if the node is at their positions. -/
theorem IsAt.diagnosticRange_eq {d : Diagnostic} {n : Node} {text : String} (hd : d.IsAt n)
    (hn : n.IsPositioned text) : diagnosticRange text d = .ok n.range := by
  have hstop : (d.stopOffset.filter fun stop => decide (n.startOffset ≤ stop)).getD n.startOffset
      = n.stopOffset := by
    rw [hd.stopOffset, Option.filter_some, if_pos (decide_eq_true hn.ordered), Option.getD_some]
  -- there is an offset, so neither the line nor the column is looked at
  unfold diagnosticRange
  rw [hd.startOffset]
  show Except.ok _ = Except.ok _
  rw [hstop, ← hn.start, ← hn.stop]
  rfl

/-- The range of a diagnostic starts where its node does, if the offset of the node is its place. -/
theorem IsAt.start_of_diagnosticRange {d : Diagnostic} {n : Node} {text : String} {range : Range}
    (hd : d.IsAt n) (hn : n.start = Text.positionAt text n.startOffset)
    (h : diagnosticRange text d = .ok range) : range.start = n.start := by
  unfold diagnosticRange at h
  rw [hd.startOffset] at h
  rw [← Except.ok.inj h, hn]

theorem IsAt.isShownAt {d : Diagnostic} {n : Node} {text : String} (hd : d.IsAt n)
    (hn : n.IsPositioned text) : d.IsShownAt text n.range where
  derived := hd.diagnosticRange_eq hn
  published := by
    intro source
    rw [Notice.of, hd.diagnosticRange_eq hn]
    rfl
  line := hd.line
  column := hd.column
  printedLine := by
    rw [hd.line]
    rfl
  printedColumn := by
    rw [hd.column]
    rfl

end Diagnostic

/-! ## The diagnostics of a check -/

namespace Checker

variable {c : Checker} {tree : Arena} {d : Diagnostic}

theorem isUnplaced_plain (c : Checker) (message : String) : (c.plain message).IsUnplaced :=
  ⟨rfl, rfl, rfl, rfl⟩

theorem isAt_located (c : Checker) (message : String) (n : Node) :
    (c.located message (some n)).IsAt n :=
  ⟨rfl, rfl, rfl, rfl⟩

theorem mem_nodes_of_node? {h : Tree.Handle} {n : Node} (hn : tree.node? h = some n) :
    n ∈ tree.nodes :=
  Array.mem_of_getElem? hn

/-- What a check can say with a tree: that something is absent, or that there is something which the
grammar could not place. -/
inductive Says (c : Checker) (tree : Arena) : Diagnostic → Prop where
  | version : Says c tree (c.plain "Missing required field: openapi (or swagger)")
  | info : Says c tree (c.plain "Missing required field: info")
  | field {name : String} (h : name ∈ infoFields) {pair : Option Node}
    (hpair : ∀ n, pair = some n → n ∈ tree.nodes) :
    Says c tree (c.located s!"Missing required field: info.{name}" pair)
  | error {n : Node} (h : n ∈ tree.nodes) : Says c tree (c.located (errorMessage n) (some n))

theorem says_of_presence {g : Graph} {root : Entries} (hd : d ∈ c.presence g root tree) :
    c.Says tree d := by
  have hversion (found : Bool) : d ∈ (if found then []
      else [c.plain "Missing required field: openapi (or swagger)"]) → c.Says tree d := by
    intro hmem
    cases found with
    | true => cases hmem
    | false =>
      rw [List.mem_singleton.mp hmem]
      exact .version
  unfold presence at hd
  dsimp only at hd
  by_cases hinfo : (root.read "info").isNull = true
  · rw [if_pos hinfo, List.mem_append, List.mem_singleton] at hd
    rcases hd with hd | rfl
    · exact hversion _ hd
    · exact .info
  · rw [if_neg hinfo, List.mem_append, List.mem_map] at hd
    rcases hd with hd | ⟨name, hname, rfl⟩
    · exact hversion _ hd
    · -- the pair of the section is a node of the tree, if there is one
      refine .field (List.mem_filter.mp hname).1 ?_
      intro n hn
      obtain ⟨h, -, hnode⟩ := Option.bind_eq_some_iff.mp hn
      exact mem_nodes_of_node? hnode

theorem says_of_grammar (hd : d ∈ c.grammar tree) : c.Says tree d := by
  rw [grammar, List.mem_map] at hd
  obtain ⟨n, hn, rfl⟩ := hd
  obtain ⟨h, -, hnode⟩ := List.mem_filterMap.mp hn
  exact .error (mem_nodes_of_node? hnode)

/-- What is said without a node has no place, what is said of a node has the place of the node. -/
theorem Says.place (h : c.Says tree d) : d.IsUnplaced ∨ ∃ n ∈ tree.nodes, d.IsAt n := by
  cases h with
  | version => exact .inl (c.isUnplaced_plain _)
  | info => exact .inl (c.isUnplaced_plain _)
  | error hn => exact .inr ⟨_, hn, c.isAt_located _ _⟩
  | @field name _ pair hpair =>
    cases pair with
    | none => exact .inl (c.isUnplaced_plain _)
    | some n => exact .inr ⟨n, hpair n rfl, c.isAt_located _ n⟩

/-- All diagnostics of a check name the same origin. -/
theorem Says.source (h : c.Says tree d) : d.source = some c.source := by
  cases h with
  | version => rfl
  | info => rfl
  | error hn => rfl
  | @field name _ pair => cases pair <;> rfl

/-- The diagnostics of a document are those about required fields and those of the grammar. -/
theorem diagnostics_of_judge {decoded : Except DecodeError Document} {document : Document}
    {ds : List Diagnostic} (h : c.judge decoded tree = .checked document ds) :
    ∃ root : Entries, ds = c.presence document.graph root tree
      ++ if c.checkGrammar then c.grammar tree else [] := by
  unfold judge at h
  split at h
  · cases h
  · split at h
    · cases h
    · obtain ⟨rfl, rfl⟩ := Verdict.checked.inj h
      exact ⟨_, rfl⟩

/-- Every diagnostic of a check is something that a check can say. -/
theorem says_of_checkWith [Host] {text : String} {ds : List Diagnostic}
    (h : (c.checkWith text tree).diagnostics? = some ds) (hd : d ∈ ds) : c.Says tree d := by
  unfold Report.diagnostics? at h
  split at h
  · cases h
  · rename_i hverdict
    rw [Option.some.inj h] at hverdict
    obtain ⟨root, rfl⟩ := diagnostics_of_judge hverdict
    rcases List.mem_append.mp hd with hd | hd
    · exact says_of_presence hd
    · split at hd
      · exact says_of_grammar hd
      · cases hd

/-- **Every diagnostic of a check has no place, or its place from a node of the tree.** -/
theorem place_of_checkWith [Host] {text : String} {ds : List Diagnostic}
    (h : (c.checkWith text tree).diagnostics? = some ds) (hd : d ∈ ds) :
    d.IsUnplaced ∨ ∃ n ∈ tree.nodes, d.IsAt n :=
  (says_of_checkWith h hd).place

end Checker

/-! ## One place -/

/-- **What is printed and what is published start at the same place.** In every tree that fits a
text, every node is at the positions of its offsets, which lie in the text and in order. A check of
the text with this tree gives diagnostics that know no place at all, and diagnostics whose range
starts at their line and column. -/
theorem positions_agree [Host] {t : Concrete} {text : String} (ht : t.Fits text) (format : Format) :
    (∀ n ∈ (Arena.ofConcrete t text format).nodes, n.IsPositioned text)
      ∧ ∀ (c : Checker) (ds : List Diagnostic),
        (c.checkWith text (Arena.ofConcrete t text format)).diagnostics? = some ds →
          ∀ d ∈ ds, d.IsUnplaced ∨ ∃ range, d.IsShownAt text range := by
  have hnodes := ht.isPositioned format
  refine ⟨hnodes, ?_⟩
  intro c ds hds d hd
  rcases Checker.place_of_checkWith hds hd with hplain | ⟨n, hn, hat⟩
  · exact .inl hplain
  · exact .inr ⟨n.range, hat.isShownAt (hnodes n hn)⟩

/-- A text in which a character of four bytes stands before a value that the grammar does not
know. -/
def wideText : String := "\x7b\n\"😀\":[NaN]\x7d"

/-- The tree of this text. All but the first brace stands on the second row, which starts at byte
two. -/
def wideTree : Concrete :=
  let place (byte : Nat) : Place := ⟨byte, 1, byte - 2⟩
  let token (kind : String) (start stop : Nat) : Concrete := .leaf kind (place start) (place stop)
  .branch "document" .start (place 15) [
    .branch "object" .start (place 15) [
      .leaf "\x7b" .start ⟨1, 0, 1⟩,
      .branch "pair" (place 2) (place 14) [
        Concrete.withField (.branch "string" (place 2) (place 8)
          [token "\"" 2 3, token "string_content" 3 7, token "\"" 7 8]) (some "key"),
        token ":" 8 9,
        Concrete.withField (.branch "array" (place 9) (place 14) [
          token "[" 9 10,
          .branch Concrete.errorKind (place 10) (place 13) [token Concrete.errorKind 10 13],
          token "]" 13 14]) (some "value")],
      token "\x7d" 14 15]]

/-- What is said of the value. -/
def wideDiagnostic : Diagnostic :=
  { message := "Syntax error: unexpected content", source := some defaultSource
    line := some 1, column := some 5, startOffset := some 7, stopOffset := some 10 }

theorem tree_wideText : Concrete.ofText .json wideText.toList = wideTree := by cbv

theorem check_wideText (c : Checker) :
    c.check wideText = c.checkWith wideText (Arena.ofConcrete wideTree wideText .json) := by
  have hformat : detectFormat wideText = .json := by cbv
  rw [Checker.check, Arena.ofText, hformat, Option.getD_some, ← tree_wideText]

theorem exists_diagnostics_wideText :
    ∃ ds, (Checker.check ⟨true, defaultSource⟩ wideText).diagnostics? = some ds
      ∧ wideDiagnostic ∈ ds := by
  refine ⟨[
    { message := "Missing required field: openapi (or swagger)", source := some defaultSource },
    { message := "Missing required field: info", source := some defaultSource },
    wideDiagnostic], ?_, ?_⟩
  · rw [check_wideText, Arena.ofConcrete_eq_placed]
    cbv
  · exact List.mem_cons_of_mem _ (List.mem_cons_of_mem _ (List.mem_singleton_self _))

/-- The value is at the sixth character of its row, though at the ninth byte. -/
theorem positions_agree_wideText :
    (Concrete.ofText .json wideText.toList).Fits wideText
      ∧ ∃ ds range, (Checker.check ⟨true, defaultSource⟩ wideText).diagnostics? = some ds
        ∧ wideDiagnostic ∈ ds ∧ wideDiagnostic.IsShownAt wideText range
        ∧ range.start = ⟨1, 5⟩ := by
  have hfits : wideTree.Fits wideText := by decide +kernel
  obtain ⟨ds, hds, hmem⟩ := exists_diagnostics_wideText
  rw [check_wideText] at hds
  rw [tree_wideText, check_wideText]
  rcases (positions_agree hfits .json).2 _ ds hds _ hmem with hplain | ⟨range, hrange⟩
  · cases hplain.line
  · have hrow : 1 = range.start.row := Option.some.inj hrange.line
    have hcolumn : 5 = range.start.column := Option.some.inj hrange.column
    refine ⟨hfits, ds, range, hds, hmem, hrange, ?_⟩
    rw [hrow, hcolumn]

end OpenApi
