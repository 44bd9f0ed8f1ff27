/-
The innermost node at a position.

A range holds both of its ends. So siblings that touch both contain the place where they meet, a
token without width is contained in its neighbours, and a chain of wrappers may have one range all
along: many nodes contain a position, and they need not lie one inside the other. The search
compares them by where they start, where they end and how deep they lie, in this order. That is one
comparison in a linear order, which is the rank of a node (`Node.tighter_iff`), and the search finds
the first node of greatest rank among those that contain the position (`isFound_foldl`). So far
nothing is asked of the arena.

Where every node lies inside its parent, a descendant starts no earlier and ends no later than the
node, and is deeper; so it has greater rank (`rank_lt_of_above`), and the node that is found has no
descendant that contains the position.
-/
import Mathlib.Data.List.Induction
import OpenApi.Proofs.Text.RowMajor
import OpenApi.Proofs.Tree.WellFormed
import OpenApi.Tree.Query

set_option autoImplicit false

namespace OpenApi.Tree

open OpenApi.Text (Position Range)
open Relation (ReflTransGen TransGen)

/-! ## Rank -/

namespace Node

/-- What a search for a position prefers: a later start, then an earlier end, then greater depth. -/
def rank (n : Node) : (ℤ ×ₗ ℤ) ×ₗ (ℤ ×ₗ ℤ)ᵒᵈ ×ₗ ℕ :=
  toLex (n.start.key, toLex (OrderDual.toDual n.stop.key, n.depth))

theorem rank_lt_iff (a b : Node) :
    a.rank < b.rank ↔ a.start.key < b.start.key
      ∨ a.start = b.start ∧ (b.stop.key < a.stop.key ∨ a.stop = b.stop ∧ a.depth < b.depth) := by
  simp only [rank, Prod.Lex.toLex_lt_toLex, OrderDual.toDual_lt_toDual, OrderDual.toDual_inj,
    Position.key_injective.eq_iff]

/-- **To be tighter is to have greater rank.** -/
theorem tighter_iff (a b : Node) : a.tighter b = true ↔ b.rank < a.rank := by
  rw [rank_lt_iff, tighter]
  by_cases hstart : a.start = b.start
  · rw [if_neg (not_not_intro hstart), hstart]
    by_cases hstop : a.stop = b.stop
    · rw [if_neg (not_not_intro hstop), hstop]
      simp
    · rw [if_pos hstop, Position.lt_iff]
      simp [Ne.symm hstop]
  · rw [if_pos hstart, Position.lt_iff]
    simp [Ne.symm hstart]

/-- A node inside another one that is not as deep has greater rank. -/
theorem rank_lt_of_within {a b : Node} (hstart : a.start.key ≤ b.start.key)
    (hstop : b.stop.key ≤ a.stop.key) (hdepth : a.depth < b.depth) : a.rank < b.rank := by
  rw [rank_lt_iff]
  rcases lt_or_eq_of_le hstart with hlt | heq
  · exact .inl hlt
  · refine .inr ⟨Position.key_injective heq, ?_⟩
    rcases lt_or_eq_of_le hstop with hlt | heq
    · exact .inl hlt
    · exact .inr ⟨Position.key_injective heq.symm, hdepth⟩

end Node

namespace Arena

/-! ## The search -/

/-- What the search has found among some nodes with their numbers: nothing if none of them contains
the position, and else one of greatest rank, and of these the first. -/
def IsFound (p : Position) (seen : List (Node × Nat)) : Option (Handle × Node) → Prop
  | none => ∀ e ∈ seen, ¬e.1.range.contains p = true
  | some b => (b.2, b.1) ∈ seen ∧ b.2.range.contains p = true
      ∧ ∀ e ∈ seen, e.1.range.contains p = true →
          e.1.rank ≤ b.2.rank ∧ (e.1.rank = b.2.rank → b.1 ≤ e.2)

/-- One more node, with a number that is greater than all others. -/
theorem IsFound.better {p : Position} {seen : List (Node × Nat)} {best : Option (Handle × Node)}
    (h : IsFound p seen best) {n : Node} {k : Nat} (hk : ∀ e ∈ seen, e.2 < k) :
    IsFound p (seen ++ [(n, k)]) (Arena.better p best n k) := by
  unfold Arena.better
  by_cases hcontains : n.range.contains p = true
  · rw [if_pos hcontains]
    cases best with
    | none =>
      refine ⟨List.mem_concat_self, hcontains, ?_⟩
      intro e he hep
      rcases List.mem_append.mp he with hseen | hlast
      · exact absurd hep (h e hseen)
      · rw [List.mem_singleton.mp hlast]
        exact ⟨le_refl _, fun _ => Nat.le_refl k⟩
    | some b =>
      obtain ⟨hmem, hb, hbest⟩ := h
      by_cases htighter : n.tighter b.2 = true
      · -- the new node beats the best one so far, and so all that this one beats
        have hlt : b.2.rank < n.rank := (n.tighter_iff b.2).mp htighter
        simp only [htighter, if_true]
        refine ⟨List.mem_concat_self, hcontains, ?_⟩
        intro e he hep
        rcases List.mem_append.mp he with hseen | hlast
        · have helt : e.1.rank < n.rank := lt_of_le_of_lt (hbest e hseen hep).1 hlt
          exact ⟨le_of_lt helt, fun heq => absurd heq (ne_of_lt helt)⟩
        · rw [List.mem_singleton.mp hlast]
          exact ⟨le_refl _, fun _ => Nat.le_refl k⟩
      · -- the best one so far stays, and of two that are equal it is the first
        have hle : n.rank ≤ b.2.rank := le_of_not_gt fun hlt =>
          htighter ((n.tighter_iff b.2).mpr hlt)
        simp only [htighter]
        refine ⟨List.mem_append_left _ hmem, hb, ?_⟩
        intro e he hep
        rcases List.mem_append.mp he with hseen | hlast
        · exact hbest e hseen hep
        · rw [List.mem_singleton.mp hlast]
          exact ⟨hle, fun _ => Nat.le_of_lt (hk _ hmem)⟩
  · rw [if_neg hcontains]
    have hlast : ∀ e ∈ [(n, k)], ¬e.1.range.contains p = true := by
      intro e he
      rw [List.mem_singleton.mp he]
      exact hcontains
    cases best with
    | none => exact List.forall_mem_append.mpr ⟨h, hlast⟩
    | some b =>
      obtain ⟨hmem, hb, hbest⟩ := h
      refine ⟨List.mem_append_left _ hmem, hb, ?_⟩
      exact List.forall_mem_append.mpr ⟨hbest, fun e he hep => absurd hep (hlast e he)⟩

/-- **The search finds the first node of greatest rank.** -/
theorem isFound_foldl (p : Position) (nodes : List Node) :
    IsFound p nodes.zipIdx
      (nodes.zipIdx.foldl (fun best e => Arena.better p best e.1 e.2) none) := by
  induction nodes using List.reverseRecOn with
  | nil => exact List.forall_mem_nil _
  | append_singleton nodes n ih =>
    rw [List.zipIdx_append, List.foldl_append, List.zipIdx_singleton, List.foldl_cons,
      List.foldl_nil, Nat.zero_add]
    refine ih.better fun e he => ?_
    exact List.snd_lt_of_mem_zipIdx he

variable {a : Arena} {p : Position}

theorem mem_zipIdx_nodes {n : Node} {h : Handle} :
    (n, h) ∈ a.nodes.toList.zipIdx ↔ a.node? h = some n := by
  rw [List.mk_mem_zipIdx_iff_getElem?, Array.getElem?_toList, node?]

/-- Nothing is found if and only if no node contains the position. -/
theorem innermostAt_eq_none_iff :
    a.innermostAt p = none ↔ ∀ h n, a.node? h = some n → n.range.contains p = false := by
  have hfound := isFound_foldl p a.nodes.toList
  rw [innermostAt, Option.map_eq_none_iff]
  constructor
  · intro hnone h n hn
    rw [hnone] at hfound
    exact Bool.eq_false_of_not_eq_true (hfound (n, h) (mem_zipIdx_nodes.mpr hn))
  · intro hall
    rw [Option.eq_none_iff_forall_ne_some]
    intro b hb
    rw [hb] at hfound
    obtain ⟨hmem, hcontains, -⟩ := hfound
    rw [hall b.1 b.2 (mem_zipIdx_nodes.mp hmem)] at hcontains
    cases hcontains

/-- What is found contains the position, and is the first node of greatest rank that does. -/
theorem exists_of_innermostAt {h : Handle} (hfind : a.innermostAt p = some h) :
    ∃ n, a.node? h = some n ∧ n.range.contains p = true
      ∧ ∀ k m, a.node? k = some m → m.range.contains p = true →
          m.rank ≤ n.rank ∧ (m.rank = n.rank → h ≤ k) := by
  have hfound := isFound_foldl p a.nodes.toList
  rw [innermostAt, Option.map_eq_some_iff] at hfind
  obtain ⟨b, hb, rfl⟩ := hfind
  rw [hb] at hfound
  obtain ⟨hmem, hcontains, hbest⟩ := hfound
  refine ⟨b.2, mem_zipIdx_nodes.mp hmem, hcontains, ?_⟩
  intro k m hm hmp
  exact hbest (m, k) (mem_zipIdx_nodes.mpr hm) hmp

/-! ## Nested extents -/

/-- Every node lies inside its parent. -/
def IsNested (a : Arena) : Prop :=
  ∀ n ∈ a.nodes.toList, ∀ p ∈ n.parent, ∀ m ∈ a.node? p,
    m.start.le n.start = true ∧ n.stop.le m.stop = true

instance (a : Arena) : Decidable a.IsNested :=
  inferInstanceAs (Decidable (∀ n ∈ a.nodes.toList, ∀ p ∈ n.parent, ∀ m ∈ a.node? p,
    m.start.le n.start = true ∧ n.stop.le m.stop = true))

theorem IsNested.within (hnested : a.IsNested) {q c : Handle} {m n : Node}
    (hparent : a.IsParent q c) (hm : a.node? q = some m) (hn : a.node? c = some n) :
    m.start.key ≤ n.start.key ∧ n.stop.key ≤ m.stop.key := by
  have hmem : n ∈ a.nodes.toList := Array.mem_toList_iff.mpr (Array.mem_of_getElem? hn)
  have hq : q ∈ n.parent := by
    rw [IsParent, parent?, hn] at hparent
    exact hparent
  obtain ⟨hstart, hstop⟩ := hnested n hmem q hq m hm
  exact ⟨(Position.le_iff _ _).mp hstart, (Position.le_iff _ _).mp hstop⟩

/-- A node lies inside every node above it. -/
theorem WellFormed.within_of_reaches (ha : a.WellFormed) (hnested : a.IsNested) {q c : Handle}
    {m n : Node} (hreach : ReflTransGen a.IsParent q c) (hm : a.node? q = some m)
    (hn : a.node? c = some n) : m.start.key ≤ n.start.key ∧ n.stop.key ≤ m.stop.key := by
  induction hreach generalizing n with
  | refl =>
    rw [hm, Option.some.injEq] at hn
    rw [hn]
    exact ⟨le_refl _, le_refl _⟩
  | @tail d c _ hdc ih =>
    have hd : d < a.size := Nat.lt_trans (ha.lt_of_isParent hdc) hdc.lt_size
    obtain ⟨l, hl⟩ := exists_node hd
    have habove := ih hl
    have hbelow := hnested.within hdc hl hn
    exact ⟨le_trans habove.1 hbelow.1, le_trans hbelow.2 habove.2⟩

theorem WellFormed.depth_lt_of_above (ha : a.WellFormed) {q c : Handle} {m n : Node}
    (habove : TransGen a.IsParent q c) (hm : a.node? q = some m) (hn : a.node? c = some n) :
    m.depth < n.depth := by
  induction habove generalizing n with
  | single hqc =>
    rw [ha.depth _ _ _ _ hqc hm hn]
    exact Nat.lt_succ_self _
  | @tail d c _ hdc ih =>
    have hd : d < a.size := Nat.lt_trans (ha.lt_of_isParent hdc) hdc.lt_size
    obtain ⟨l, hl⟩ := exists_node hd
    rw [ha.depth _ _ _ _ hdc hl hn]
    exact Nat.lt_succ_of_lt (ih hl)

/-- **Descendants have greater rank.** -/
theorem WellFormed.rank_lt_of_above (ha : a.WellFormed) (hnested : a.IsNested) {q c : Handle}
    {m n : Node} (habove : TransGen a.IsParent q c) (hm : a.node? q = some m)
    (hn : a.node? c = some n) : m.rank < n.rank := by
  have hwithin := ha.within_of_reaches hnested habove.to_reflTransGen hm hn
  exact Node.rank_lt_of_within hwithin.1 hwithin.2 (ha.depth_lt_of_above habove hm hn)

/-- The root contains whatever a node contains. -/
theorem WellFormed.root_contains (ha : a.WellFormed) (hnested : a.IsNested) {h : Handle}
    {m n : Node} (hm : a.node? a.root = some m) (hn : a.node? h = some n)
    (hcontains : n.range.contains p = true) : m.range.contains p = true := by
  have hwithin := ha.within_of_reaches hnested (ha.root_reaches (lt_size_of_node? hn)) hm hn
  rw [Range.contains_iff] at hcontains ⊢
  exact ⟨le_trans hwithin.1 hcontains.1, le_trans hcontains.2 hwithin.2⟩

/-! ## The result -/

/-- The innermost node at a position, and of several the one that is meant. -/
structure IsInnermost (a : Arena) (p : Position) (h : Handle) (n : Node) : Prop where
  node : a.node? h = some n
  contains : n.range.contains p = true
  /-- No descendant contains the position. -/
  innermost : ∀ d m, TransGen a.IsParent h d → a.node? d = some m → m.range.contains p = false
  /-- No node that contains it starts later, or starts at the same place and ends earlier. -/
  tightest : ∀ k m, a.node? k = some m → m.range.contains p = true →
    n.start.lt m.start = false ∧ (m.start = n.start → m.stop.lt n.stop = false)
  /-- No node of the same range is deeper, and none of the same depth comes before it. -/
  deepest : ∀ k m, a.node? k = some m → m.range.contains p = true → m.range = n.range →
    m.depth ≤ n.depth ∧ (m.depth = n.depth → h ≤ k)

/-- A node of greatest rank is innermost. -/
theorem WellFormed.isInnermost_of_rank (ha : a.WellFormed) (hnested : a.IsNested) {h : Handle}
    {n : Node} (hn : a.node? h = some n) (hcontains : n.range.contains p = true)
    (hbest : ∀ k m, a.node? k = some m → m.range.contains p = true →
      m.rank ≤ n.rank ∧ (m.rank = n.rank → h ≤ k)) : a.IsInnermost p h n where
  node := hn
  contains := hcontains
  innermost := by
    intro d m hbelow hm
    rw [← Bool.not_eq_true]
    intro hmp
    -- A node below that contains the position has a greater rank.
    exact absurd (ha.rank_lt_of_above hnested hbelow hn hm) (not_lt_of_ge (hbest d m hm hmp).1)
  tightest := by
    intro k m hm hmp
    have hnot : ¬n.rank < m.rank := not_lt_of_ge (hbest k m hm hmp).1
    rw [Node.rank_lt_iff] at hnot
    constructor
    · rw [← Bool.not_eq_true, Position.lt_iff]
      exact fun hlt => hnot (.inl hlt)
    · intro hstart
      rw [← Bool.not_eq_true, Position.lt_iff]
      exact fun hlt => hnot (.inr ⟨hstart.symm, .inl hlt⟩)
  deepest := by
    intro k m hm hmp hrange
    obtain ⟨hstart, hstop⟩ : m.start = n.start ∧ m.stop = n.stop := Range.mk.inj hrange
    obtain ⟨hle, hfirst⟩ := hbest k m hm hmp
    constructor
    · refine Nat.le_of_not_lt fun hdeeper => not_lt_of_ge hle ?_
      exact Node.rank_lt_iff _ _ |>.mpr (.inr ⟨hstart.symm, .inr ⟨hstop.symm, hdeeper⟩⟩)
    · intro hdepth
      exact hfirst (by rw [Node.rank, Node.rank, hstart, hstop, hdepth])

/-- There is one such node at most. -/
theorem IsInnermost.unique {h k : Handle} {n m : Node} (hn : a.IsInnermost p h n)
    (hm : a.IsInnermost p k m) : h = k := by
  -- neither starts later, so both start at the same place; and so on
  have hnm := hn.tightest k m hm.node hm.contains
  have hmn := hm.tightest h n hn.node hn.contains
  simp only [← Bool.not_eq_true, Position.lt_iff, not_lt] at hnm hmn
  have hstart : m.start = n.start := Position.key_injective (le_antisymm hnm.1 hmn.1)
  have hstop : m.stop = n.stop :=
    Position.key_injective (le_antisymm (hmn.2 hstart.symm) (hnm.2 hstart))
  have hrange : m.range = n.range := by rw [Node.range, Node.range, hstart, hstop]
  have hfirst := hn.deepest k m hm.node hm.contains hrange
  have hsecond := hm.deepest h n hn.node hn.contains hrange.symm
  have hdepth : m.depth = n.depth := Nat.le_antisymm hfirst.1 hsecond.1
  exact Nat.le_antisymm (hfirst.2 hdepth) (hsecond.2 hdepth.symm)

/-- **The node at a position is the innermost one.** In a well-formed arena whose nodes lie inside
their parents, nothing is found at a position if and only if it is outside the range of the root.
Otherwise the node that is found is the one that contains the position and is innermost: none of
its descendants contains it, no node that contains it starts later or, from the same place, ends
earlier, and of those of the same range it is one of greatest depth and the first of these. -/
theorem innermostAt_eq_some_iff_isInnermost (ha : a.WellFormed) (hnested : a.IsNested)
    (p : Position) :
    (a.innermostAt p = none ↔ ∃ n, a.node? a.root = some n ∧ n.range.contains p = false)
      ∧ ∀ h, a.innermostAt p = some h ↔ ∃ n, a.IsInnermost p h n := by
  have hspec : ∀ h, a.innermostAt p = some h → ∃ n, a.IsInnermost p h n := by
    intro h hfind
    obtain ⟨n, hn, hcontains, hbest⟩ := exists_of_innermostAt hfind
    exact ⟨n, ha.isInnermost_of_rank hnested hn hcontains hbest⟩
  constructor
  · rw [innermostAt_eq_none_iff]
    obtain ⟨m, hm⟩ : ∃ m, a.node? a.root = some m := exists_node a.nonempty
    constructor
    · intro hnone
      exact ⟨m, hm, hnone a.root m hm⟩
    · rintro ⟨n, hn, houtside⟩ h l hl
      rw [← Bool.not_eq_true] at houtside ⊢
      exact fun hcontains => houtside (ha.root_contains hnested hn hl hcontains)
  · intro h
    refine ⟨hspec h, ?_⟩
    rintro ⟨n, hn⟩
    cases hfind : a.innermostAt p with
    | none =>
      have hnone := innermostAt_eq_none_iff.mp hfind h n hn.node
      rw [hn.contains] at hnone
      cases hnone
    | some k =>
      obtain ⟨m, hm⟩ := hspec k hfind
      -- What is found is innermost too, and of two innermost nodes neither can come first.
      rw [hm.unique hn]

/-- Two tokens that touch, two invented ones between them, and a wrapper as wide as the document. -/
def meetingTree : Concrete :=
  .branch "document" (.inFirstRow 0) (.inFirstRow 4)
    [.branch "flow_node" (.inFirstRow 0) (.inFirstRow 4)
      [.leaf "number" (.inFirstRow 0) (.inFirstRow 2),
        .node ⟨",", none, .inFirstRow 2, .inFirstRow 2, true⟩ [],
        .node ⟨",", none, .inFirstRow 2, .inFirstRow 2, true⟩ [],
        .leaf "number" (.inFirstRow 2) (.inFirstRow 4)]]

/-- All six nodes contain the place where the tokens meet; the first invented one is meant. -/
theorem innermostAt_meeting :
    (ofConcrete meetingTree "1234" .json).WellFormed
      ∧ (ofConcrete meetingTree "1234" .json).IsNested
      ∧ (∀ n ∈ (ofConcrete meetingTree "1234" .json).nodes.toList,
          n.range.contains ⟨0, 2⟩ = true)
      ∧ ∃ n, (ofConcrete meetingTree "1234" .json).IsInnermost ⟨0, 2⟩ 3 n := by
  have hwell := wellFormed_ofConcrete meetingTree "1234" .json
  have hnested : (ofConcrete meetingTree "1234" .json).IsNested := by decide +kernel
  have hall : ∀ n ∈ (ofConcrete meetingTree "1234" .json).nodes.toList,
      n.range.contains ⟨0, 2⟩ = true := by decide +kernel
  have hfind : (ofConcrete meetingTree "1234" .json).innermostAt ⟨0, 2⟩ = some 3 := by
    decide +kernel
  exact ⟨hwell, hnested, hall,
    ((innermostAt_eq_some_iff_isInnermost hwell hnested ⟨0, 2⟩).2 3).mp hfind⟩

end Arena

end OpenApi.Tree
