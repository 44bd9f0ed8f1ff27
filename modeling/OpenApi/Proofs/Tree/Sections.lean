/-
The top of a document.

The keys at the top are those of one mapping, which is found by going down from the root. The way
down is a loop (`Descends`): it goes through wrappers to what they hold and through pairs to their
values, and ends because children come after their parents (`descends_asMapping?`).

From a root that is a wrapper the way never enters a pair. A wrapper is left only for a mapping or
another wrapper, and at a mapping the way ends; so all nodes above the mapping are wrappers
(`wrapper_of_above`). The pairs that are listed are children of that mapping, and a key further down
is not among them, whatever its name.
-/
import OpenApi.Proofs.Tree.WellFormed
import OpenApi.Tree.Query

set_option autoImplicit false

namespace OpenApi.Tree

open Relation (ReflTransGen TransGen)

/-- The kinds of nodes that hold items in a row. -/
def sequenceKinds : List String := ["array", "block_sequence", "flow_sequence"]

/-- What adds nothing is no structure. -/
theorem not_mem_of_wrapper {kind : String} (h : kind ∈ wrapperKinds) :
    kind ∉ mappingKinds ∧ kind ∉ pairKinds ∧ kind ∉ sequenceKinds := by
  revert kind
  decide

theorem Named.mem_insert {found : Named} {name : String} {h : Handle} {e : String × Handle}
    (he : e ∈ found.insert name h) : e = (name, h) ∨ e ∈ found := by
  induction found with
  | nil => exact .inl (List.mem_singleton.mp he)
  | cons e' rest ih =>
    rw [insert] at he
    by_cases hname : e'.1 = name
    · rw [if_pos hname] at he
      rcases List.mem_cons.mp he with heq | hrest
      · exact .inl heq
      · exact .inr (List.mem_cons_of_mem _ hrest)
    · rw [if_neg hname] at he
      rcases List.mem_cons.mp he with heq | hrest
      · exact .inr (heq ▸ List.mem_cons_self)
      · rcases ih hrest with heq | hmem
        · exact .inl heq
        · exact .inr (List.mem_cons_of_mem _ hmem)

namespace Arena

variable {a : Arena}

/-! ## Going down -/

/-- What a wrapper holds: the first child that is a mapping or a wrapper itself. -/
def wrapped? (a : Arena) (h : Handle) : Option Handle :=
  (a.children h).find? fun c =>
    mappingKinds.contains (a.kind c) || wrapperKinds.contains (a.kind c)

/-- The loop that goes down from a node until a mapping is reached, with its result. -/
inductive Descends (a : Arena) : Option Handle → Option Handle → Prop where
  | nothing : Descends a none none
  | mapping {h : Handle} : a.kind h ∈ mappingKinds → Descends a (some h) (some h)
  | pair {h : Handle} {result : Option Handle} : a.kind h ∉ mappingKinds →
      a.kind h ∈ pairKinds → Descends a (a.pairValue? h) result → Descends a (some h) result
  | wrapper {h : Handle} {result : Option Handle} : a.kind h ∉ mappingKinds →
      a.kind h ∉ pairKinds → a.kind h ∈ wrapperKinds → Descends a (a.wrapped? h) result →
      Descends a (some h) result
  | other {h : Handle} : a.kind h ∉ mappingKinds → a.kind h ∉ pairKinds →
      a.kind h ∉ wrapperKinds → Descends a (some h) none

theorem mem_children_of_pairValue? {h v : Handle} (hv : a.pairValue? h = some v) :
    v ∈ a.children h := by
  simp only [pairValue?] at hv
  rcases Option.or_eq_some_iff.mp hv with hfind | ⟨-, hfind⟩
  · exact List.mem_of_find?_eq_some hfind
  · -- what follows the colon is what is left of the children
    have hmem := List.mem_of_find?_eq_some hfind
    exact (List.dropWhile_sublist _).subset (List.mem_of_mem_drop hmem)

theorem mem_children_of_wrapped? {h c : Handle} (hc : a.wrapped? h = some c) :
    c ∈ a.children h ∧ (a.kind c ∈ mappingKinds ∨ a.kind c ∈ wrapperKinds) := by
  refine ⟨List.mem_of_find?_eq_some hc, ?_⟩
  have hkind := List.find?_some hc
  rwa [Bool.or_eq_true, List.contains_iff_mem, List.contains_iff_mem] at hkind

/-- The loop ends if as many steps are left as there are nodes from here on. -/
theorem descends_descend (ha : a.WellFormed) {count : Nat} {h : Handle} (hh : h < a.size)
    (hcount : a.size ≤ h + count) : a.Descends (some h) (a.descend count h) := by
  induction count generalizing h with
  | zero => exact absurd hh (Nat.not_lt_of_le hcount)
  | succ count ih =>
    have hchild : ∀ next : Option Handle, (∀ c ∈ next, c ∈ a.children h) →
        a.Descends next (next.bind (a.descend count)) := by
      intro next hnext
      cases next with
      | none => exact .nothing
      | some c =>
        have hparent : a.IsParent h c := (ha.mem_children h c).mp (hnext c rfl)
        -- A child has a greater number than its parent, so that fewer nodes are left from there on.
        have hlt := ha.lt_of_isParent hparent
        exact ih hparent.lt_size (by omega)
    rw [descend]
    simp only [List.contains_iff_mem]
    by_cases hmapping : a.kind h ∈ mappingKinds
    · rw [if_pos hmapping]
      exact .mapping hmapping
    · rw [if_neg hmapping]
      by_cases hpair : a.kind h ∈ pairKinds
      · rw [if_pos hpair]
        exact .pair hmapping hpair (hchild _ fun v hv => mem_children_of_pairValue? hv)
      · rw [if_neg hpair]
        by_cases hwrapper : a.kind h ∈ wrapperKinds
        · rw [if_pos hwrapper]
          exact .wrapper hmapping hpair hwrapper
            (hchild _ fun c hc => (mem_children_of_wrapped? hc).1)
        · rw [if_neg hwrapper]
          exact .other hmapping hpair hwrapper

/-- **The way down ends**, from wherever it starts. -/
theorem descends_asMapping? (ha : a.WellFormed) {h : Handle} (hh : h < a.size) :
    a.Descends (some h) (a.asMapping? h) :=
  descends_descend ha hh (Nat.le_add_left a.size h)

/-! ## Through wrappers -/

/-- A wrapper is the parent of a node. -/
def Wraps (a : Arena) (p c : Handle) : Prop := a.IsParent p c ∧ a.kind p ∈ wrapperKinds

/-- From a wrapper the way leads through wrappers only. -/
theorem Descends.wraps (ha : a.WellFormed) {start result : Option Handle}
    (hdescends : a.Descends start result) {h m : Handle} (hstart : start = some h)
    (hkind : a.kind h ∈ mappingKinds ∨ a.kind h ∈ wrapperKinds) (hm : result = some m) :
    a.kind m ∈ mappingKinds ∧ ReflTransGen a.Wraps h m := by
  induction hdescends generalizing h with
  | nothing => cases hm
  | other => cases hm
  | @mapping x hmapping =>
    obtain rfl : x = h := Option.some.inj hstart
    obtain rfl : x = m := Option.some.inj hm
    exact ⟨hmapping, .refl⟩
  | @pair x _ hmapping hpair _ _ =>
    -- neither a mapping nor a wrapper is a pair
    obtain rfl : x = h := Option.some.inj hstart
    rcases hkind with hkind | hkind
    · exact absurd hkind hmapping
    · exact absurd hpair (not_mem_of_wrapper hkind).2.1
  | @wrapper x _ _ _ hwrapper hrest ih =>
    obtain rfl : x = h := Option.some.inj hstart
    cases hnext : a.wrapped? x with
    | none =>
      rw [hnext] at hrest
      cases hrest
      cases hm
    | some c =>
      obtain ⟨hc, hckind⟩ := mem_children_of_wrapped? hnext
      obtain ⟨hmkind, hreach⟩ := ih hnext hckind hm
      exact ⟨hmkind, .head ⟨(ha.mem_children x c).mp hc, hwrapper⟩ hreach⟩

/-- If the way from the root leads through wrappers, all nodes above its end are wrappers. -/
theorem wrapper_of_above (ha : a.WellFormed) {m : Handle} (hway : ReflTransGen a.Wraps a.root m)
    {x : Handle} (habove : TransGen a.IsParent x m) : a.kind x ∈ wrapperKinds := by
  induction hway with
  | refl => exact absurd (ha.lt_of_above habove) (Nat.not_lt_zero x)
  | @tail p c _ hpc ih =>
    -- there is one way up, so what is above the child is its parent or above that
    have hreach := reaches_parent habove hpc.1
    rcases Relation.reflTransGen_iff_eq_or_transGen.mp hreach with heq | hmore
    · rw [← heq]
      exact hpc.2
    · exact ih hmore

/-! ## Pairs -/

/-- A pair has a key if and only if it has a child. -/
theorem pairKey?_isSome (c : Handle) : (a.pairKey? c).isSome = !(a.children c).isEmpty := by
  simp only [pairKey?]
  cases a.children c with
  | nil => rfl
  | cons child rest => simp

/-- The pairs of a mapping are its children that are pairs and have children. -/
theorem map_pair_pairs {h m : Handle} (hm : a.asMapping? h = some m) :
    (a.pairs h).map Pair.pair
      = (a.children m).filter fun c =>
        pairKinds.contains (a.kind c) && !(a.children c).isEmpty := by
  have hpair : ∀ c, ((a.pairKey? c).map fun key => Pair.mk (a.keyText key) c (a.pairValue? c)).map
      Pair.pair = Option.guard (fun c => !(a.children c).isEmpty) c := by
    intro c
    rw [Option.guard, ← pairKey?_isSome]
    cases a.pairKey? c <;> rfl
  rw [pairs, hm]
  simp only
  rw [List.map_filterMap, funext hpair, List.filterMap_eq_filter, List.filter_filter]
  refine List.filter_congr fun c _ => ?_
  rw [Bool.and_comm]

/-- A pair that is listed shows the text of its key, and its value. -/
theorem of_mem_pairs {h : Handle} {p : Pair} (hp : p ∈ a.pairs h) :
    (∃ key, a.pairKey? p.pair = some key ∧ a.keyText key = p.key)
      ∧ a.pairValue? p.pair = p.value := by
  rw [pairs] at hp
  split at hp
  · cases hp
  · obtain ⟨c, -, hc⟩ := List.mem_filterMap.mp hp
    obtain ⟨key, hkey, rfl⟩ := Option.map_eq_some_iff.mp hc
    exact ⟨⟨key, hkey, rfl⟩, rfl⟩

/-- A section is the value of a pair at the top. -/
theorem exists_pair_of_mem_sections {e : String × Handle} (he : e ∈ a.sections) :
    ∃ p ∈ a.pairs a.root, p.key = e.1 ∧ p.value = some e.2 := by
  revert e
  rw [sections]
  refine List.foldlRecOn (motive := fun found : Named =>
    ∀ {e}, e ∈ found → ∃ p ∈ a.pairs a.root, p.key = e.1 ∧ p.value = some e.2) _ _
    (fun he => absurd he List.not_mem_nil) ?_
  intro found hfound p hp e he
  cases hvalue : p.value with
  | none =>
    rw [hvalue] at he
    exact hfound he
  | some v =>
    simp only [hvalue] at he
    split at he
    · rcases Named.mem_insert he with rfl | hmem
      · exact ⟨p, hp, rfl, hvalue⟩
      · exact hfound hmem
    · exact hfound he

/-! ## The mapping at the top -/

/-- A pair with a key of a name, among the children of a mapping. -/
structure IsPairOf (a : Arena) (m : Handle) (name : String) (q : Handle) : Prop where
  parent : a.IsParent m q
  kind : a.kind q ∈ pairKinds
  key : ∃ key, a.pairKey? q = some key ∧ a.keyText key = name

/-- What is known of the mapping at the top of a document. -/
structure IsTopMapping (a : Arena) (m : Handle) : Prop where
  mapping : a.kind m ∈ mappingKinds
  /-- All nodes above it are wrappers, -/
  wrapped : ∀ x, TransGen a.IsParent x m → a.kind x ∈ wrapperKinds
  /-- and so none of them is part of a structure. -/
  outermost : ∀ x, TransGen a.IsParent x m →
    a.kind x ∉ mappingKinds ∧ a.kind x ∉ pairKinds ∧ a.kind x ∉ sequenceKinds
  /-- The pairs that are listed are its children that are pairs and have children, -/
  pairs : (a.pairs a.root).map Pair.pair
    = (a.children m).filter fun c => pairKinds.contains (a.kind c) && !(a.children c).isEmpty
  /-- in their order and each of them once. -/
  once : ((a.pairs a.root).map Pair.pair).Pairwise (· < ·)
  /-- A name is found in a pair of the mapping only, -/
  topPair : ∀ name q, a.topPair? name = some q → a.IsPairOf m name q
  /-- and a section is the value of one. -/
  sections : ∀ name v, (name, v) ∈ a.sections →
    ∃ q, a.IsPairOf m name q ∧ a.pairValue? q = some v

/-- A pair that is listed is a child of the mapping. -/
theorem isPairOf_of_mem_pairs (ha : a.WellFormed) {h m : Handle} (hm : a.asMapping? h = some m)
    {p : Pair} (hp : p ∈ a.pairs h) : a.IsPairOf m p.key p.pair := by
  have hmem := List.mem_map_of_mem (f := Pair.pair) hp
  rw [map_pair_pairs hm, List.mem_filter, Bool.and_eq_true, List.contains_iff_mem] at hmem
  exact ⟨(ha.mem_children m p.pair).mp hmem.1, hmem.2.1, (of_mem_pairs hp).1⟩

/-- **The keys at the top are those of one mapping.** In a well-formed arena the way down ends from
every node. From a root that is a document or a stream it leads through wrappers only, if it leads
to a mapping at all, so whatever is found by name at the top stands in a pair of that mapping and in
no other. -/
theorem rootMapping_isTopMapping (ha : a.WellFormed) :
    (∀ h, h < a.size → a.Descends (some h) (a.asMapping? h))
      ∧ (a.kind a.root = "document" ∨ a.kind a.root = "stream" →
        (a.rootMapping? = none → a.pairs a.root = [])
          ∧ ∀ m, a.rootMapping? = some m → a.IsTopMapping m) := by
  refine ⟨fun h hh => descends_asMapping? ha hh, fun hroot => ⟨?_, ?_⟩⟩
  · intro hnone
    rw [Arena.pairs, show a.asMapping? a.root = none from hnone]
  intro m hm
  have hwrapper : a.kind a.root ∈ wrapperKinds := by
    rcases hroot with h | h <;> rw [h] <;> decide
  -- a way that starts at a wrapper never comes to a pair
  obtain ⟨hmapping, hway⟩ :=
    (descends_asMapping? ha a.nonempty).wraps ha rfl (.inr hwrapper) hm
  have habove : ∀ x, TransGen a.IsParent x m → a.kind x ∈ wrapperKinds :=
    fun x hx => wrapper_of_above ha hway hx
  have hpairs := map_pair_pairs hm
  refine ⟨hmapping, habove, fun x hx => not_mem_of_wrapper (habove x hx), hpairs, ?_, ?_, ?_⟩
  · rw [hpairs]
    exact (List.pairwise_cons.mp (ha.ascending m)).2.filter _
  · intro name q hq
    rw [topPair?] at hq
    obtain ⟨p, hfind, rfl⟩ := Option.map_eq_some_iff.mp hq
    have hname : p.key = name := by
      have hmatch := List.find?_some hfind
      exact beq_iff_eq.mp hmatch
    exact hname ▸ isPairOf_of_mem_pairs ha hm (List.mem_of_find?_eq_some hfind)
  · intro name v he
    obtain ⟨p, hp, hname, hvalue⟩ := exists_pair_of_mem_sections he
    simp only at hname hvalue
    exact ⟨p.pair, hname ▸ isPairOf_of_mem_pairs ha hm hp, (of_mem_pairs hp).2.trans hvalue⟩

/-- A flow mapping in a document in a stream, with a comment, a pair that is empty, text that could
not be placed, and a key in a value that is named like a section. -/
def nestedTree : Concrete :=
  .branch "stream" (.inFirstRow 0) (.inFirstRow 24)
    [.leaf "comment" (.inFirstRow 0) (.inFirstRow 0),
      .branch "document" (.inFirstRow 0) (.inFirstRow 24)
        [.leaf "anchor" (.inFirstRow 0) (.inFirstRow 0),
          .branch "flow_node" (.inFirstRow 0) (.inFirstRow 24)
            [.branch "flow_mapping" (.inFirstRow 0) (.inFirstRow 24)
              [.branch "flow_pair" (.inFirstRow 1) (.inFirstRow 13)
                [.leaf "plain_scalar" (.inFirstRow 1) (.inFirstRow 2),
                  .leaf ":" (.inFirstRow 2) (.inFirstRow 3),
                  .branch "flow_node" (.inFirstRow 4) (.inFirstRow 13)
                    [.branch "flow_mapping" (.inFirstRow 4) (.inFirstRow 13)
                      [.branch "flow_pair" (.inFirstRow 5) (.inFirstRow 12)
                        [.leaf "plain_scalar" (.inFirstRow 5) (.inFirstRow 9),
                          .leaf ":" (.inFirstRow 9) (.inFirstRow 10),
                          .leaf "plain_scalar" (.inFirstRow 11) (.inFirstRow 12)]]]],
                .leaf "ERROR" (.inFirstRow 13) (.inFirstRow 13),
                .leaf "flow_pair" (.inFirstRow 14) (.inFirstRow 14),
                .branch "flow_pair" (.inFirstRow 15) (.inFirstRow 23)
                  [.leaf "plain_scalar" (.inFirstRow 15) (.inFirstRow 20),
                    .leaf ":" (.inFirstRow 20) (.inFirstRow 21),
                    .leaf "plain_scalar" (.inFirstRow 22) (.inFirstRow 23)]]]]]

/-- The arena of this tree. -/
def nested : Arena := ofConcrete nestedTree "\x7ba: \x7binfo: 1\x7d, paths: 2\x7d" .yaml

/-- The section's name is a key further down, and is not found at the top. -/
theorem rootMapping_isTopMapping_nested :
    nested.WellFormed ∧ nested.kind nested.root = "stream" ∧ nested.IsTopMapping 5
      ∧ (nested.pairs 9).map (·.key) = ["info"] ∧ nested.topPair? "info" = none
      ∧ nested.topPair? "paths" = some 17 ∧ nested.sections = [("paths", 20)] := by
  have hwell : nested.WellFormed := wellFormed_ofConcrete _ _ _
  have hroot : nested.kind nested.root = "stream" := by decide +kernel
  have hmapping : nested.rootMapping? = some 5 := by decide +kernel
  have hinner : (nested.pairs 9).map (·.key) = ["info"] := by decide +kernel
  have htop : nested.topPair? "info" = none ∧ nested.topPair? "paths" = some 17
      ∧ nested.sections = [("paths", 20)] := by decide +kernel
  exact ⟨hwell, hroot, ((rootMapping_isTopMapping hwell).2 (.inr hroot)).2 5 hmapping, hinner, htop⟩

end Arena

end OpenApi.Tree
