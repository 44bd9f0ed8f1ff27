/-
The nodes of a YAML document are read to their end.

Nodes are read from a stream of tokens that comes to an end (`Ends`), and there is a bound on how
deep the calls go. It is never reached: between one node and the next that is read inside it there
is a token that is taken, so twice the number of tokens that are left is enough for a node, and one
more for the items around it (`ComposesAt`).

The host has a bound of its own on the collections that are open at once, and that one can be
reached. Most collections open with a token and end with one, so their nesting can be read off the
tokens (`nesting`). Two kinds do not: a sequence at the indentation of the mapping around it, and a
pair inside brackets. But there is at most one of these between two tokens that open something, so
the room that is left and twice the depth come to the bound of the host, at least. What stops the
reading is therefore a document, an error of the text, or tokens that nest beyond half of the bound
(`Error.IsOfTokens`).

`Composes` says this of a step of reading, with what the tokens that are left satisfy before and
after it. There is one rule for each way to put steps together and one lemma for each function, in
the order of their definitions.
-/
import OpenApi.Proofs.Yaml.Scanning
import OpenApi.Yaml.Node

set_option autoImplicit false

namespace OpenApi.Yaml

/-- Whether a token is the last one of a stream. -/
def TokenKind.isStreamEnd : TokenKind → Bool
  | .streamEnd => true
  | _ => false

namespace Ends

variable {failure : Option Error} {t : Token} {tokens : List Token}

/-- Behind a token that is not the last one. -/
theorem tail (h : Ends failure (t :: tokens)) (hmore : t.kind.isStreamEnd = false) :
    Ends failure tokens := by
  cases h with
  | text htext => exact .text htext
  | last hlast hkind =>
    cases tokens with
    | nil =>
      cases hlast
      have hlast : t.kind = .streamEnd := hkind
      rw [hlast] at hmore
      cases hmore
    | cons t' tokens => exact .last (by rwa [List.getLast?_cons_cons] at hlast) hkind

end Ends

/-! ## Nesting -/

/-- How many collections are open behind a token, if so many are in front of it. -/
def TokenKind.depthBehind (depth : Nat) : TokenKind → Nat
  | .flowSequenceStart | .flowMappingStart | .blockSequenceStart | .blockMappingStart => depth + 1
  | .flowSequenceEnd | .flowMappingEnd | .blockEnd => depth - 1
  | _ => depth

/-- The most collections that are open at once along tokens, if so many are in front of them. -/
def nesting (depth : Nat) : List Token → Nat
  | [] => depth
  | t :: tokens => max depth (nesting (t.kind.depthBehind depth) tokens)

/-- What is open in front of tokens counts, too. -/
theorem le_nesting (depth : Nat) (tokens : List Token) : depth ≤ nesting depth tokens := by
  cases tokens with
  | nil => exact Nat.le_refl _
  | cons t tokens => exact Nat.le_max_left _ _

/-- What the nesting of tokens is measured with: how many collections the host can have open at
once, and the most that are open at once along the tokens. -/
structure Measure where
  limit : Nat
  most : Nat

/-- An error that tokens are to blame for: one of their text, or their nesting. -/
def Error.IsOfTokens (m : Measure) (e : Error) : Prop :=
  e.IsOfText ∨ e = .tooDeep ∧ m.limit < 2 * m.most

/-! ## Steps -/

/-- If the tokens come to an end and those that are left satisfy `P`, then a step gives something
and leaves tokens as `Q` says, which come to an end, too; or it fails with an error of the
tokens. -/
def Composes {α : Type} (m : Measure) (P : List Token → Prop) (x : Compose α)
    (Q : α → List Token → Prop) : Prop :=
  ∀ s, Ends s.failure s.tokens → P s.tokens →
    Yields (Error.IsOfTokens m) (fun r => Ends r.2.failure r.2.tokens ∧ Q r.1 r.2.tokens) (x s)

/-- Fewer than `n` tokens are left, in front of which `depth` collections are open, and along them
no more than the most. -/
structure Left (m : Measure) (depth n : Nat) (tokens : List Token) : Prop where
  fewer : tokens.length < n
  nests : nesting depth tokens ≤ m.most

/-- The next token is this one. -/
def Facing (t : Token) (P : List Token → Prop) (tokens : List Token) : Prop :=
  tokens.head? = some t ∧ P tokens

section Left

variable {m : Measure} {depth n : Nat} {t : Token} {tokens : List Token}

/-- There are fewer tokens than any larger number, too. -/
theorem Left.mono (h : Left m depth n tokens) {n' : Nat} (hn : n ≤ n') : Left m depth n' tokens :=
  ⟨Nat.lt_of_lt_of_le h.fewer hn, h.nests⟩

/-- What is open in front of the tokens is no more than the most. -/
theorem Left.depth_le (h : Left m depth n tokens) : depth ≤ m.most :=
  Nat.le_trans (le_nesting depth tokens) h.nests

/-- Behind the next token. -/
theorem Left.behind (h : Left m depth n (t :: tokens)) :
    Left m (t.kind.depthBehind depth) (n - 1) tokens where
  fewer := Nat.lt_sub_of_add_lt h.fewer
  nests := Nat.le_trans (Nat.le_max_right _ _) h.nests

/-- Nor is what is open behind the next one. -/
theorem Left.depthBehind_le (h : Facing t (Left m depth n) tokens) :
    t.kind.depthBehind depth ≤ m.most := by
  cases tokens with
  | nil => cases h.1
  | cons t' tokens =>
    cases h.1
    exact h.2.behind.depth_le

end Left

namespace Composes

variable {α β : Type} {m : Measure} {P P' : List Token → Prop} {Q : α → List Token → Prop}

/-- A value that is there leaves the tokens as they are. -/
theorem value {a : α} (h : ∀ tokens, P tokens → Q a tokens) : Composes m P (pure a) Q :=
  fun _ hends hs => .ok ⟨hends, h _ hs⟩

/-- A fault with a place is an error of the text. -/
theorem marked (f : Fault) : Composes m P (throw (.marked f)) Q :=
  fun _ _ _ => .error (.inl (.marked f))

/-- To look at the state changes nothing. -/
theorem state : Composes m P get fun _ => P := fun _ hends hs => .ok ⟨hends, hs⟩

/-- A change of the state that is none of the tokens. -/
theorem update {f : Composer → Composer} (hfailure : ∀ s, (f s).failure = s.failure)
    (htokens : ∀ s, (f s).tokens = s.tokens) : Composes m P (modify f) fun _ => P := by
  intro s hends hs
  rw [← hfailure, ← htokens] at hends
  rw [← htokens] at hs
  exact .ok ⟨hends, hs⟩

/-- Steps after one another: what the first leaves, the second starts from. -/
theorem bind {R : β → List Token → Prop} {x : Compose β} {f : β → Compose α}
    (hx : Composes m P x R) (hf : ∀ b, Composes m (R b) (f b) Q) : Composes m P (x >>= f) Q :=
  fun s hends hs => .bind (hx s hends hs) fun r hr => hf r.1 r.2 hr.1 hr.2

/-- More may be asked of the tokens before a step, and less said of them behind it. -/
theorem mono {Q' : α → List Token → Prop} {x : Compose α} (h : Composes m P x Q)
    (hP : ∀ tokens, P' tokens → P tokens) (hQ : ∀ a tokens, Q a tokens → Q' a tokens) :
    Composes m P' x Q' :=
  fun s hends hs => (h s hends (hP _ hs)).mono fun _ hr => ⟨hr.1, hQ _ _ hr.2⟩

/-- A step that depends on a condition. -/
theorem ite {p : Prop} [Decidable p] {x y : Compose α} (hx : p → Composes m P x Q)
    (hy : ¬ p → Composes m P y Q) : Composes m P (if p then x else y) Q := by
  split
  · rename_i hp
    exact hx hp
  · rename_i hp
    exact hy hp

/-- Where no token can be left, nothing can be. -/
theorem nothing {x : Compose α} {depth : Nat} : Composes m (Left m depth 0) x Q :=
  fun _ _ hs => absurd hs.fewer (Nat.not_lt_zero _)

/-- What a step leaves is less than any larger number, too. -/
theorem fewer {x : Compose α} {depth n n' : Nat} (h : Composes m P x fun _ => Left m depth n)
    (hn : n ≤ n') : Composes m P x fun _ => Left m depth n' :=
  h.mono (fun _ hs => hs) fun _ _ hs => hs.mono hn

/-- A step that does not need to know the next token. -/
theorem facing {x : Compose α} (t : Token) (h : Composes m P x Q) : Composes m (Facing t P) x Q :=
  h.mono (fun _ hs => hs.2) fun _ _ hs => hs

end Composes

namespace Compose

section Tokens

variable {α : Type} {m : Measure} {P : List Token → Prop} {Q : α → List Token → Prop}
  {depth depth' n : Nat} {t : Token}

/-- To look at the next token tells which one it is, and takes nothing. -/
theorem composes_peek : Composes m P peek fun t => Facing t P := by
  intro s hends hs
  obtain ⟨tokens, failure, nodes, anchors, handles⟩ := s
  cases tokens with
  | cons t rest => exact .ok ⟨hends, rfl, hs⟩
  | nil =>
    cases hends with
    | text htext => exact .error (.inl htext)
    | last hlast => cases hlast

/-- A token that is not the last one is taken. -/
theorem composes_take {k : TokenKind} (hkind : t.kind = k) (h : k.isStreamEnd = false) :
    Composes m (Facing t (Left m depth n)) take fun _ => Left m (k.depthBehind depth) (n - 1) := by
  subst hkind
  rintro ⟨tokens, failure, nodes, anchors, handles⟩ hends ⟨hhead, hleft⟩
  cases tokens with
  | nil => cases hhead
  | cons t' rest =>
    cases hhead
    exact .ok ⟨hends.tail h, hleft.behind⟩

/-- A collection is opened. There is room for it, or the tokens nest too deeply. -/
theorem composes_enter {room : Nat} {f : Nat → Compose α}
    (hroom : ∀ tokens, P tokens → room = 0 → m.limit < 2 * m.most)
    (hf : ∀ inside, room = inside + 1 → Composes m P (f inside) Q) :
    Composes m P (enter room >>= f) Q := by
  cases room with
  | zero => exact fun s _ hs => .error (.inr ⟨rfl, hroom s.tokens hs rfl⟩)
  | succ room => exact hf room rfl

/-- Nodes are added without taking a token. -/
theorem composes_addNode (node : Node) : Composes m P (addNode node) fun _ => P :=
  fun _ hends hs => .ok ⟨hends, hs⟩

/-- So are they filled. -/
theorem composes_setBody (id : Nat) (body : NodeBody) :
    Composes m P (setBody id body) fun _ => P :=
  .update (fun _ => rfl) fun _ => rfl

/-- A scalar without characters takes no token. -/
theorem composes_emptyScalar (mark : Mark) : Composes m P (emptyScalar mark) fun _ => P :=
  composes_addNode _

/-- A fault at the next token. -/
theorem composes_fail (context : Context) (start : Mark) (problem : TokenKind → Problem) :
    Composes m P (fail context start problem) Q :=
  .bind composes_peek fun _ => .marked _

/-- A test of the next token, and what follows from its outcome. -/
theorem composes_next {p : TokenKind → Bool} {f : Bool → Compose α}
    (hf : ∀ t, Composes m (Facing t P) (f (p t.kind)) Q) : Composes m P (next p >>= f) Q := by
  have hnext : Composes m P (next p) fun found tokens =>
      ∃ t, found = p t.kind ∧ Facing t P tokens :=
    .bind composes_peek fun t => .value fun tokens ht => ⟨t, rfl, ht⟩
  refine .bind hnext fun found s hends hs => ?_
  obtain ⟨t, rfl, ht⟩ := hs
  exact hf t s hends ht

/-- One way or the other, as the next token is. -/
theorem composes_nextIf {p : TokenKind → Bool} {x y : Compose α}
    (hx : ∀ t, p t.kind = true → Composes m (Facing t P) x Q)
    (hy : ∀ t, p t.kind = false → Composes m (Facing t P) y Q) :
    Composes m P (next p >>= fun found => if found = true then x else y) Q :=
  composes_next fun t => .ite (hx t) fun ht => hy t (Bool.eq_false_iff.mpr ht)

/-- A test finds only tokens that are not the last one and lead from one depth to another. -/
def Leads (p : TokenKind → Bool) (depth depth' : Nat) : Prop :=
  ∀ k, p k = true → k.isStreamEnd = false ∧ k.depthBehind depth = depth'

/-- A test for one kind of token leads where that kind does. -/
theorem leads_beq (k : TokenKind) (h : k.isStreamEnd = false) :
    Leads (· == k) depth (k.depthBehind depth) := by
  intro k' hk'
  rw [eq_of_beq hk']
  exact ⟨h, rfl⟩

/-- A token is taken if it is one of those that a test finds. -/
theorem composes_nextTake {p : TokenKind → Bool} {x : Token → Compose α} {y : Compose α}
    (hp : Leads p depth depth') (hx : ∀ t, Composes m (Left m depth' (n - 1)) (x t) Q)
    (hy : ∀ t, p t.kind = false → Composes m (Facing t (Left m depth n)) y Q) :
    Composes m (Left m depth n)
      (next p >>= fun found => if found = true then take >>= x else y) Q :=
  composes_nextIf (fun _ ht => .bind ((hp _ ht).2 ▸ composes_take rfl (hp _ ht).1) hx) hy

end Tokens

/-! ## Properties -/

/-- A tag is written out with the handles that are declared. -/
theorem composes_fullTag {m : Measure} {P : List Token → Prop} (start : Mark) (t : Token) :
    Composes m P (fullTag start t) fun _ => P := by
  have hnone (found : Option String) : Composes m P (pure found) fun _ => P := .value fun _ h => h
  rw [fullTag]
  split
  · refine .bind .state fun s => ?_
    split
    · exact hnone _
    · exact .marked _
  · exact hnone _
  · exact hnone _

/-- If there is an anchor or a tag, it was a token. -/
def Headed (m : Measure) (depth n : Nat) (p : Properties) (tokens : List Token) : Prop :=
  Left m depth n tokens ∧ ((p.anchor.isSome || p.tag.isSome) = true → Left m depth (n - 1) tokens)

/-- Anchors and tags are taken. If there are any, so was a token. -/
theorem composes_properties {m : Measure} {depth : Nat} (n : Nat) :
    Composes m (Left m depth n) properties (Headed m depth n) := by
  have hheaded {n' : Nat} (hn : n' ≤ n - 1) (p : Properties) (tokens : List Token)
      (h : Left m depth n' tokens) : Headed m depth n p tokens :=
    ⟨h.mono (by omega), fun _ => h.mono hn⟩
  -- Anchor and tag come in either order, and either may be absent.
  refine .bind composes_peek fun first => ?_
  split
  · rename_i hfirst
    refine .bind (composes_take hfirst rfl) fun _ => ?_
    refine .bind composes_peek fun second => ?_
    split
    · rename_i hsecond
      refine .bind (composes_take hsecond rfl) fun _ => ?_
      refine .bind (composes_fullTag _ _) fun _ => ?_
      exact .value (hheaded (Nat.sub_le _ _) _)
    · exact .value fun tokens h => hheaded (Nat.le_refl _) _ tokens h.2
  · rename_i hfirst
    refine .bind (composes_take hfirst rfl) fun _ => ?_
    refine .bind composes_peek fun second => ?_
    have hend (anchor : Option String) : Composes m (Left m depth (n - 1)) (do
        return (⟨first.start, anchor, ← fullTag first.start first⟩ : Properties))
        (Headed m depth n) :=
      .bind (composes_fullTag _ _) fun _ => .value (hheaded (Nat.le_refl _) _)
    split
    · rename_i hsecond
      refine .bind (composes_take hsecond rfl) fun _ => ?_
      exact (hend _).mono (fun _ h => h.mono (Nat.sub_le _ _)) fun _ _ h => h
    · exact (hend _).mono (fun _ h => h.2) fun _ _ h => h
  · exact .value fun tokens h => ⟨h.2, Bool.false_ne_true.elim⟩

/-- A node with properties is added, and its anchor with it. -/
theorem composes_declare {m : Measure} {P : List Token → Prop} (p : Properties) (tag : String)
    (body : NodeBody) : Composes m P (declare p tag body) fun _ => P := by
  unfold declare
  extract_lets add
  have hadd (r : PUnit) : Composes m P (add r) fun _ => P := by
    refine .bind (composes_addNode _) fun id => ?_
    extract_lets give
    have hgive : Composes m P (give ()) fun _ => P := .value fun _ h => h
    split
    · exact .bind (.update (fun _ => rfl) fun _ => rfl) fun _ => hgive
    · exact hgive
  split
  · refine .bind .state fun s => ?_
    split
    · exact .marked _
    · exact hadd ()
  · exact hadd ()

/-- Properties without content make up a node, for which a token was taken. -/
theorem composes_emptyOrFail {m : Measure} {depth : Nat} (n : Nat) (p : Properties)
    (block : Bool) :
    Composes m (Headed m depth n p) (emptyOrFail p block) fun _ => Left m depth (n - 1) := by
  rw [emptyOrFail]
  refine .ite (fun hp => ?_) fun _ => composes_fail _ _ _
  exact (composes_declare p _ _).mono (fun _ h => h.2 hp) fun _ _ h => h

/-! ## Nodes -/

/-- The functions that read nodes, with this bound. A node takes a token at least; a sequence that
is not indented takes one if it starts with one. Inside a collection the room and twice the depth
come to more than the limit, so that a collection without a token of its own has room, too. -/
structure ComposesAt (m : Measure) (bound : Nat) : Prop where
  node {depth n room : Nat} : 2 * n ≤ bound → m.limit ≤ room + 2 * depth → ∀ block indentless,
    (indentless = true → m.limit < room + 2 * depth) →
    Composes m (Left m depth n) (node bound room block indentless) fun _ => Left m depth (n - 1)
  blockItems {depth n room : Nat} : 2 * n < bound → m.limit ≤ room + 2 * (depth + 1) →
    ∀ start items, Composes m (Left m (depth + 1) n) (blockItems bound room start items)
      fun _ => Left m depth n
  indentlessStart {depth n room : Nat} {t : Token} : 2 * n ≤ bound + 1 →
    m.limit ≤ room + 2 * depth → isBlockEntry t.kind = true → ∀ items,
    Composes m (Facing t (Left m depth n)) (indentlessItems bound room items)
      fun _ => Left m depth (n - 1)
  indentlessItems {depth n room : Nat} : 2 * n ≤ bound + 1 → m.limit ≤ room + 2 * depth →
    ∀ items, Composes m (Left m depth n) (indentlessItems bound room items)
      fun _ => Left m depth n
  blockEntries {depth n room : Nat} : 2 * n < bound → m.limit < room + 2 * (depth + 1) →
    ∀ start entries, Composes m (Left m (depth + 1) n) (blockEntries bound room start entries)
      fun _ => Left m depth n
  blockValue {depth n room : Nat} : 2 * n ≤ bound → m.limit < room + 2 * depth →
    Composes m (Left m depth n) (blockValue bound room) fun _ => Left m depth n
  flowItems {depth n room : Nat} : 2 * n < bound → m.limit < room + 2 * (depth + 1) →
    ∀ start first items, Composes m (Left m (depth + 1) n) (flowItems bound room start first items)
      fun _ => Left m depth n
  flowItemValue {depth n room : Nat} : 2 * n ≤ bound → m.limit ≤ room + 2 * depth →
    Composes m (Left m depth n) (flowItemValue bound room) fun _ => Left m depth n
  flowEntries {depth n room : Nat} : 2 * n < bound → m.limit ≤ room + 2 * (depth + 1) →
    ∀ start first entries,
    Composes m (Left m (depth + 1) n) (flowEntries bound room start first entries)
      fun _ => Left m depth n
  flowValue {depth n room : Nat} : 2 * n ≤ bound → m.limit ≤ room + 2 * depth →
    Composes m (Left m depth n) (flowValue bound room) fun _ => Left m depth n

section Step

variable {α : Type} {m : Measure} {bound depth n room : Nat} {Q : α → List Token → Prop}

/-- A node takes a token at least, unless there is none that it could start with. -/
theorem composes_node (ih : ComposesAt m bound) (hbound : 2 * (n + 1) ≤ bound + 1)
    (hroom : m.limit ≤ room + 2 * depth) (block indentless : Bool)
    (hindentless : indentless = true → m.limit < room + 2 * depth) :
    Composes m (Left m depth (n + 1)) (node (bound + 1) room block indentless)
      fun _ => Left m depth n := by
  rw [node]
  refine .bind composes_peek fun t => ?_
  extract_lets content
  have hcontent (r : PUnit) : Composes m (Left m depth (n + 1)) (content r)
      fun _ => Left m depth n := by
    refine .bind (composes_properties _) fun p => .bind composes_peek fun t => ?_
    have hend (id : Nat) (body : NodeBody) :
        Composes m (Left m depth n) (do setBody id body; return id) fun _ => Left m depth n :=
      .bind (composes_setBody _ _) fun _ => .value fun _ h => h
    have hheaded (tokens : List Token) (h : Facing t (Headed m depth (n + 1) p) tokens) :
        Facing t (Left m depth (n + 1)) tokens := ⟨h.1, h.2.1⟩
    -- a token that opens a collection, behind which its items come
    have hopen {β : Type} {k : TokenKind} (hkind : t.kind = k) (hmore : k.isStreamEnd = false)
        (hdeeper : k.depthBehind depth = depth + 1) (tag : String) (body : NodeBody)
        {items : Nat → Mark → Compose β} {after : β → NodeBody}
        (hitems : ∀ inside, room = inside + 1 → ∀ start,
          Composes m (Left m (depth + 1) n) (items inside start) fun _ => Left m depth n) :
        Composes m (Facing t (Headed m depth (n + 1) p)) (do
          let inside ← enter room
          let id ← declare p tag body
          let t ← take
          let items ← items inside t.start
          setBody id (after items)
          return id) fun _ => Left m depth n := by
      refine composes_enter (fun tokens h hnone => ?_) fun inside hinside => ?_
      · have hmost := Left.depthBehind_le (hheaded tokens h)
        rw [hkind, hdeeper] at hmost
        omega
      · refine .bind (composes_declare _ _ _) fun id => .bind ?_ fun t =>
          .bind (hitems inside hinside _) fun _ => hend _ _
        exact (composes_take hkind hmore).mono hheaded fun _ _ h => hdeeper ▸ h
    split
    · -- the sequence has its first item in front, so a token is taken even without a bracket
      rename_i hentry
      refine .ite (fun hless => ?_) fun _ => (composes_emptyOrFail _ _ _).facing t
      have hmore := hindentless hless
      refine composes_enter (fun tokens h hnone => ?_) fun inside hinside => ?_
      · have hmost := h.2.1.depth_le
        omega
      · refine .bind (composes_declare _ _ _) fun id => ?_
        have hitems : Composes m (Facing t (Left m depth (n + 1)))
            (indentlessItems bound inside []) fun _ => Left m depth n :=
          ih.indentlessStart hbound (by omega) (hentry ▸ rfl) []
        exact .bind (hitems.mono hheaded fun _ _ h => h) fun _ => hend _ _
    · rename_i hscalar
      refine .bind ?_ fun _ => composes_declare _ _ _
      exact (composes_take hscalar rfl).mono hheaded fun _ _ h => h
    · rename_i hkind
      exact hopen hkind rfl rfl _ _ fun inside hinside start =>
        ih.flowItems (by omega) (by omega) start true []
    · rename_i hkind
      exact hopen hkind rfl rfl _ _ fun inside hinside start =>
        ih.flowEntries (by omega) (by omega) start true []
    · rename_i hkind
      exact hopen hkind rfl rfl _ _ fun inside hinside start =>
        ih.blockItems (by omega) (by omega) start []
    · rename_i hkind
      exact hopen hkind rfl rfl _ _ fun inside hinside start =>
        ih.blockEntries (by omega) (by omega) start []
    · exact (composes_emptyOrFail _ _ _).facing t
  split
  · rename_i halias
    refine .bind (composes_take halias rfl) fun _ => .bind .state fun s => ?_
    split
    · exact .value fun _ h => h
    · exact .marked _
  · exact (hcontent ()).facing t

/-- A node, or a scalar without characters where a token says that there is none, and what follows
from its number. -/
theorem composes_nodeUnless (ih : ComposesAt m bound) (hbound : 2 * n ≤ bound)
    (hroom : m.limit ≤ room + 2 * depth) (p : TokenKind → Bool) (mark : Mark)
    (block indentless : Bool) (hindentless : indentless = true → m.limit < room + 2 * depth)
    {after : Nat → Compose α} (hafter : ∀ id, Composes m (Left m depth n) (after id) Q) :
    Composes m (Left m depth n) (next p >>= fun found =>
      if found = true then emptyScalar mark >>= after
      else node bound room block indentless >>= after) Q := by
  refine composes_nextIf (fun t _ => ?_) fun t _ => ?_
  · exact (Composes.bind (composes_emptyScalar mark) hafter).facing t
  · have hnode := (ih.node hbound hroom block indentless hindentless).fewer (Nat.sub_le n 1)
    exact (hnode.bind hafter).facing t

/-- A hyphen opens nothing. -/
theorem leads_blockEntry (depth : Nat) : Leads isBlockEntry depth depth :=
  leads_beq .blockEntry rfl

/-- Items behind their hyphens, up to the end of the sequence. -/
theorem composes_blockItems (ih : ComposesAt m bound) (hbound : 2 * (n + 1) < bound + 1)
    (hroom : m.limit ≤ room + 2 * (depth + 1)) (start : Mark) (items : List Nat) :
    Composes m (Left m (depth + 1) (n + 1)) (blockItems (bound + 1) room start items)
      fun _ => Left m depth (n + 1) := by
  rw [blockItems]
  refine composes_nextTake (leads_blockEntry _) (fun t => ?_) fun t _ => .facing t ?_
  · refine composes_nodeUnless ih (by omega) hroom _ _ true false Bool.false_ne_true.elim
      fun item => ?_
    exact (ih.blockItems (by omega) hroom _ _).fewer (Nat.le_succ n)
  · refine composes_nextTake (leads_beq .blockEnd rfl) (fun _ => ?_)
      fun _ _ => composes_fail _ _ _
    exact .value fun _ h => h.mono (Nat.le_succ n)

/-- From the first item, or from any that may come. -/
theorem composes_indentlessFrom (ih : ComposesAt m bound) (hbound : 2 * (n + 1) ≤ bound + 2)
    (hroom : m.limit ≤ room + 2 * depth) {P : List Token → Prop} {n' : Nat} (hn : n ≤ n')
    (hP : ∀ tokens, P tokens → Left m depth (n + 1) tokens)
    (hend : ∀ t tokens, isBlockEntry t.kind = false → Facing t P tokens → Left m depth n' tokens)
    (items : List Nat) :
    Composes m P (indentlessItems (bound + 1) room items) fun _ => Left m depth n' := by
  rw [indentlessItems]
  refine composes_nextIf (fun t ht => ?_) fun t ht => .value fun tokens h => hend t tokens ht h
  have htake : Composes m (Facing t P) take fun _ => Left m depth n := by
    obtain ⟨hmore, hsame⟩ := leads_blockEntry depth t.kind ht
    exact (composes_take rfl hmore).mono (fun tokens h => ⟨h.1, hP tokens h.2⟩)
      fun _ _ h => hsame ▸ h
  refine .bind htake fun t => ?_
  refine composes_nodeUnless ih (by omega) hroom _ _ true false Bool.false_ne_true.elim
    fun item => ?_
  exact (ih.indentlessItems (by omega) hroom _).fewer hn

/-- Keys and values, up to the end of the mapping. -/
theorem composes_blockEntries (ih : ComposesAt m bound) (hbound : 2 * (n + 1) < bound + 1)
    (hroom : m.limit < room + 2 * (depth + 1)) (start : Mark) (entries : List (Nat × Nat)) :
    Composes m (Left m (depth + 1) (n + 1)) (blockEntries (bound + 1) room start entries)
      fun _ => Left m depth (n + 1) := by
  rw [blockEntries]
  refine composes_nextTake (leads_beq .key rfl) (fun t => ?_) fun t _ => .facing t ?_
  · refine composes_nodeUnless ih (by omega) (Nat.le_of_lt hroom) _ _ true true (fun _ => hroom)
      fun key => ?_
    refine .bind (ih.blockValue (by omega) hroom) fun value => ?_
    exact (ih.blockEntries (by omega) hroom _ _).fewer (Nat.le_succ n)
  · refine composes_nextTake (leads_beq .blockEnd rfl) (fun _ => ?_)
      fun _ _ => composes_fail _ _ _
    exact .value fun _ h => h.mono (Nat.le_succ n)

/-- A value behind its token, or a scalar without characters. -/
theorem composes_valueAfter (ih : ComposesAt m bound) (hbound : 2 * (n + 1) ≤ bound + 1)
    (hroom : m.limit ≤ room + 2 * depth) (p : TokenKind → Bool) (block indentless : Bool)
    (hindentless : indentless = true → m.limit < room + 2 * depth) :
    Composes m (Left m depth (n + 1)) (do
      if ← next (· == .value) then
        let t ← take
        if ← next p then emptyScalar t.stop else node bound room block indentless
      else emptyScalar (← peek).start) fun _ => Left m depth (n + 1) := by
  refine composes_nextTake (leads_beq .value rfl) (fun t => .fewer ?_ (Nat.le_succ n))
    fun t _ => .facing t ?_
  · refine composes_nextIf (fun t _ => .facing t ?_) fun t _ => .facing t ?_
    · exact composes_emptyScalar _
    · exact (ih.node (by omega) hroom _ _ hindentless).fewer (Nat.sub_le n 1)
  · exact .bind composes_peek fun t => .facing t (composes_emptyScalar _)

/-- The value of a key in a block may be a sequence at the same indentation. -/
theorem composes_blockValue (ih : ComposesAt m bound) (hbound : 2 * (n + 1) ≤ bound + 1)
    (hroom : m.limit < room + 2 * depth) :
    Composes m (Left m depth (n + 1)) (blockValue (bound + 1) room)
      fun _ => Left m depth (n + 1) := by
  rw [blockValue]
  exact composes_valueAfter ih hbound (Nat.le_of_lt hroom) _ _ _ fun _ => hroom

/-- The value of a pair between brackets. -/
theorem composes_flowItemValue (ih : ComposesAt m bound) (hbound : 2 * (n + 1) ≤ bound + 1)
    (hroom : m.limit ≤ room + 2 * depth) :
    Composes m (Left m depth (n + 1)) (flowItemValue (bound + 1) room)
      fun _ => Left m depth (n + 1) := by
  rw [flowItemValue]
  exact composes_valueAfter ih hbound hroom _ _ _ Bool.false_ne_true.elim

/-- The value of a key between braces. -/
theorem composes_flowValue (ih : ComposesAt m bound) (hbound : 2 * (n + 1) ≤ bound + 1)
    (hroom : m.limit ≤ room + 2 * depth) :
    Composes m (Left m depth (n + 1)) (flowValue (bound + 1) room)
      fun _ => Left m depth (n + 1) := by
  rw [flowValue]
  exact composes_valueAfter ih hbound hroom _ _ _ Bool.false_ne_true.elim

/-- Between brackets or braces: the end, or an item, which a comma separates from the one before. -/
theorem composes_separated {p : TokenKind → Bool} (hp : Leads p (depth + 1) depth) (first : Bool)
    (context : Context) (start : Mark) (problem : TokenKind → Problem) (given : α)
    {item : PUnit → Compose α}
    (hitem : Composes m (Left m (depth + 1) (n + 1)) (item ()) fun _ => Left m depth (n + 1)) :
    Composes m (Left m (depth + 1) (n + 1)) (do
      if ← next p then
        let _ ← take
        return given
      if !first then
        if ← next (· == .flowEntry) then
          let _ ← take
        else fail context start problem
      item ()) fun _ => Left m depth (n + 1) := by
  refine composes_nextTake hp (fun _ => .value fun _ h => h.mono (Nat.le_succ n)) fun t _ => ?_
  refine .facing t (.ite (fun _ => ?_) fun _ => hitem)
  refine composes_nextTake (leads_beq .flowEntry rfl) (fun _ => ?_)
    fun t _ => .bind (composes_fail _ _ _) fun _ => hitem
  exact hitem.mono (fun _ h => h.mono (Nat.le_succ n)) fun _ _ h => h

/-- Items between brackets. Each of them may be a pair, which has no brackets of its own. -/
theorem composes_flowItems (ih : ComposesAt m bound) (hbound : 2 * (n + 1) < bound + 1)
    (hroom : m.limit < room + 2 * (depth + 1)) (start : Mark) (first : Bool) (items : List Nat) :
    Composes m (Left m (depth + 1) (n + 1)) (flowItems (bound + 1) room start first items)
      fun _ => Left m depth (n + 1) := by
  have hmore (items : List Nat) : Composes m (Left m (depth + 1) n)
      (flowItems bound room start false items) fun _ => Left m depth (n + 1) :=
    (ih.flowItems (by omega) hroom _ _ _).fewer (Nat.le_succ n)
  rw [flowItems]
  extract_lets item
  have hitem : Composes m (Left m (depth + 1) (n + 1)) (item ())
      fun _ => Left m depth (n + 1) := by
    refine .bind composes_peek fun t => .ite (fun hkey => ?_) fun _ => .ite (fun hend => ?_) ?_
    · -- a pair opens without a bracket of its own
      refine composes_enter (fun tokens h hnone => ?_) fun inside hinside => ?_
      · have hmost := h.2.depth_le
        omega
      · refine .bind (composes_addNode _) fun id => ?_
        have hinner : m.limit ≤ inside + 2 * (depth + 1) := by omega
        refine .bind (composes_take (eq_of_beq hkey) rfl) fun t => ?_
        refine composes_nodeUnless ih (by omega) hinner _ _ false false Bool.false_ne_true.elim
          fun key => ?_
        refine .bind (ih.flowItemValue (by omega) hinner) fun value => ?_
        exact .bind (composes_setBody _ _) fun _ => hmore _
    · refine .bind (composes_take (eq_of_beq hend) rfl) fun _ => ?_
      exact .value fun _ h => h.mono (Nat.le_succ n)
    · refine fun _ => .facing t (.bind (ih.node (by omega) (Nat.le_of_lt hroom) _ _ ?_) ?_)
      · exact Bool.false_ne_true.elim
      · exact fun item => hmore _
  exact composes_separated (leads_beq .flowSequenceEnd rfl) _ _ _ _ _ hitem

/-- Keys and values between braces. A key may stand alone. -/
theorem composes_flowEntries (ih : ComposesAt m bound) (hbound : 2 * (n + 1) < bound + 1)
    (hroom : m.limit ≤ room + 2 * (depth + 1)) (start : Mark) (first : Bool)
    (entries : List (Nat × Nat)) :
    Composes m (Left m (depth + 1) (n + 1)) (flowEntries (bound + 1) room start first entries)
      fun _ => Left m depth (n + 1) := by
  have hmore (entries : List (Nat × Nat)) : Composes m (Left m (depth + 1) n)
      (flowEntries bound room start false entries) fun _ => Left m depth (n + 1) :=
    (ih.flowEntries (by omega) hroom _ _ _).fewer (Nat.le_succ n)
  rw [flowEntries]
  extract_lets behind entry
  have hbehind (key : Nat) : Composes m (Left m (depth + 1) n) (behind key)
      fun _ => Left m depth (n + 1) :=
    .bind (ih.flowValue (by omega) hroom) fun value => hmore _
  have hentry : Composes m (Left m (depth + 1) (n + 1)) (entry ())
      fun _ => Left m depth (n + 1) := by
    refine .bind composes_peek fun t => .ite (fun hkey => ?_) fun _ => .ite (fun hend => ?_) ?_
    · refine .bind (composes_take (eq_of_beq hkey) rfl) fun t => ?_
      exact composes_nodeUnless ih (by omega) hroom _ _ false false Bool.false_ne_true.elim hbehind
    · refine .bind (composes_take (eq_of_beq hend) rfl) fun _ => ?_
      exact .value fun _ h => h.mono (Nat.le_succ n)
    · -- no token was taken yet, and the key takes one
      refine fun _ => .facing t (.bind (ih.node (by omega) hroom _ _ ?_) fun key => ?_)
      · exact Bool.false_ne_true.elim
      · refine .bind composes_peek fun t => .facing t (.bind (composes_emptyScalar _) ?_)
        exact fun value => hmore _
  exact composes_separated (leads_beq .flowMappingEnd rfl) _ _ _ _ _ hentry

end Step

/-- Without a token, or an error in its place, there is nothing to read. -/
theorem composes_of_lt_one {α : Type} {m : Measure} {depth n : Nat} {x : Compose α}
    {Q : α → List Token → Prop} (h : n < 1) : Composes m (Left m depth n) x Q := by
  obtain rfl := Nat.lt_one_iff.mp h
  exact .nothing

/-- With no bound there is nothing that could be left. -/
theorem composesAt_zero (m : Measure) : ComposesAt m 0 where
  node h _ _ _ _ := composes_of_lt_one (by omega)
  blockItems h _ _ _ := composes_of_lt_one (by omega)
  indentlessStart h _ _ _ := .facing _ (composes_of_lt_one (by omega))
  indentlessItems h _ _ := composes_of_lt_one (by omega)
  blockEntries h _ _ _ := composes_of_lt_one (by omega)
  blockValue h _ := composes_of_lt_one (by omega)
  flowItems h _ _ _ _ := composes_of_lt_one (by omega)
  flowItemValue h _ := composes_of_lt_one (by omega)
  flowEntries h _ _ _ _ := composes_of_lt_one (by omega)
  flowValue h _ := composes_of_lt_one (by omega)

/-- One step of each function, with the others as they are for the smaller bound. -/
theorem composesAt_succ {m : Measure} {bound : Nat} (ih : ComposesAt m bound) :
    ComposesAt m (bound + 1) where
  node {_ n _} h hroom block indentless hindentless := by
    cases n with
    | zero => exact .nothing
    | succ n => exact composes_node ih h hroom _ _ hindentless
  blockItems {_ n _} h hroom start items := by
    cases n with
    | zero => exact .nothing
    | succ n => exact composes_blockItems ih h hroom _ _
  indentlessStart {_ n _ t} h hroom ht items := by
    cases n with
    | zero => exact .facing t .nothing
    | succ n =>
      -- the sequence does not end before its first item, which is in front
      refine composes_indentlessFrom ih h hroom (Nat.le_refl n) (fun _ hs => hs.2) ?_ items
      intro t' tokens hother hs
      have hsame : t' = t := Option.some.inj (hs.1.symm.trans hs.2.1)
      rw [hsame, ht] at hother
      cases hother
  indentlessItems {_ n _} h hroom items := by
    cases n with
    | zero => exact .nothing
    | succ n =>
      exact composes_indentlessFrom ih h hroom (Nat.le_succ n) (fun _ hs => hs)
        (fun _ _ _ hs => hs.2) _
  blockEntries {_ n _} h hroom start entries := by
    cases n with
    | zero => exact .nothing
    | succ n => exact composes_blockEntries ih h hroom _ _
  blockValue {_ n _} h hroom := by
    cases n with
    | zero => exact .nothing
    | succ n => exact composes_blockValue ih h hroom
  flowItems {_ n _} h hroom start first items := by
    cases n with
    | zero => exact .nothing
    | succ n => exact composes_flowItems ih h hroom _ _ _
  flowItemValue {_ n _} h hroom := by
    cases n with
    | zero => exact .nothing
    | succ n => exact composes_flowItemValue ih h hroom
  flowEntries {_ n _} h hroom start first entries := by
    cases n with
    | zero => exact .nothing
    | succ n => exact composes_flowEntries ih h hroom _ _ _
  flowValue {_ n _} h hroom := by
    cases n with
    | zero => exact .nothing
    | succ n => exact composes_flowValue ih h hroom

/-- **The bound on the calls is not reached.** -/
theorem composesAt (m : Measure) (bound : Nat) : ComposesAt m bound := by
  induction bound with
  | zero => exact composesAt_zero m
  | succ bound ih => exact composesAt_succ ih

/-! ## Documents -/

section Documents

variable {m : Measure} {depth : Nat}

/-- Directives in front of a document. -/
theorem composes_directives (n bound : Nat) (versioned : Bool)
    (handles : List (String × String)) :
    Composes m (Left m depth n) (directives bound versioned handles)
      fun _ => Left m depth n := by
  induction bound generalizing versioned handles with
  | zero => exact .value fun _ h => h
  | succ bound ih =>
    rw [directives]
    refine .bind composes_peek fun t => ?_
    split
    · rename_i hdirective
      have htake : Composes m (Facing t (Left m depth n)) take fun _ => Left m depth n :=
        (composes_take hdirective rfl).fewer (Nat.sub_le n 1)
      refine .bind htake fun _ => ?_
      split
      · extract_lets go check
        have hcheck (r : PUnit) : Composes m (Left m depth n) (check r) fun _ => Left m depth n :=
          .ite (fun _ => .marked _) fun _ => ih _ _
        exact .ite (fun _ => .marked _) fun _ => hcheck ()
      · exact .ite (fun _ => .marked _) fun _ => ih _ _
      · exact ih _ _
    · exact .facing t (.value fun _ h => h)

/-- Ends of documents without content are passed over. -/
theorem composes_skipEnds (n bound : Nat) :
    Composes m (Left m depth n) (skipEnds bound) fun _ => Left m depth n := by
  induction bound with
  | zero => exact .value fun _ h => h
  | succ bound ih =>
    rw [skipEnds]
    refine composes_nextTake (leads_beq .documentEnd rfl) (fun _ => ?_)
      fun t _ => .facing t (.value fun _ h => h)
    exact ih.mono (fun _ h => h.mono (Nat.sub_le n 1)) fun _ _ h => h

/-- What stands in front of a document. -/
theorem composes_documentStart (n bound : Nat) :
    Composes m (Left m depth n) (documentStart bound) fun _ => Left m depth n := by
  refine .bind (composes_skipEnds _ _) fun _ => .bind composes_peek fun t => .facing t ?_
  refine .ite (fun _ => .value fun _ h => h) fun _ => ?_
  refine .bind (composes_directives _ _ _ _) fun declared => ?_
  refine .bind (.update (fun _ => rfl) fun _ => rfl) fun _ => .bind composes_peek fun marker => ?_
  refine .ite (fun hmarker => ?_) fun _ => .marked _
  refine .bind (composes_take (eq_of_beq hmarker) rfl) fun _ => ?_
  exact .value fun _ h => h.mono (Nat.sub_le n 1)

/-- The first token is taken, whatever it is. -/
theorem yields_takeFirst {α : Type} {n : Nat} {s : Composer} {f : Token → Compose α}
    {Q : α → List Token → Prop} (hends : Ends s.failure (s.tokens.drop 1))
    (hleft : Left m depth n (s.tokens.drop 1)) (hf : ∀ t, Composes m (Left m depth n) (f t) Q) :
    Yields (Error.IsOfTokens m) (fun r => Q r.1 r.2.tokens) ((take >>= f) s) := by
  have htake : Yields (Error.IsOfTokens m)
      (fun r => Ends r.2.failure r.2.tokens ∧ Left m depth n r.2.tokens) (take s) := by
    obtain ⟨tokens, failure, nodes, anchors, handles⟩ := s
    cases tokens with
    | cons t rest => exact .ok ⟨hends, hleft⟩
    | nil =>
      cases hends with
      | text htext => exact .error (.inl htext)
      | last hlast => cases hlast
  exact .bind htake fun r hr => (hf r.1 r.2 hr.1 hr.2).mono fun _ h => h.2

/-- **A stream with one document**, or with none. -/
theorem yields_single [Host] {most n bound : Nat} (hbound : 2 * n ≤ bound) {s : Composer}
    (hends : Ends s.failure (s.tokens.drop 1))
    (hleft : Left ⟨Host.nodes, most⟩ 0 n (s.tokens.drop 1)) :
    Yields (Error.IsOfTokens ⟨Host.nodes, most⟩)
      (fun r => Left ⟨Host.nodes, most⟩ 0 n r.2.tokens) (single bound s) := by
  generalize hm : Measure.mk Host.nodes most = m at hleft ⊢
  have hlimit : m.limit ≤ Host.nodes + 2 * 0 := by
    rw [← hm]
    exact Nat.le_refl _
  have hnode : Composes m (Left m 0 n) (node bound Host.nodes true false) fun _ => Left m 0 n :=
    ((composesAt m bound).node hbound hlimit true false Bool.false_ne_true.elim).fewer
      (Nat.sub_le n 1)
  refine yields_takeFirst (Q := fun _ => Left m 0 n) hends hleft fun _ => ?_
  refine .bind composes_peek fun t => .facing t ?_
  extract_lets marked finish content
  -- Behind the document comes its end and then the end of the stream, or the start of a second
  -- document, which is refused.
  have hfinish (root : Nat) : Composes m (Left m 0 n) (finish root) fun _ => Left m 0 n := by
    dsimp -zeta only [finish]
    refine composes_next fun t => ?_
    extract_lets last
    have hlast (r : PUnit) : Composes m (Left m 0 n) (last r) fun _ => Left m 0 n := by
      refine .bind (composes_documentStart _ _) fun mark => ?_
      split
      · exact .value fun _ h => h
      · exact .bind .state fun _ => .marked _
    refine .ite (fun hend => .bind ?_ fun _ => hlast ()) fun _ => .facing t (hlast ())
    exact (composes_take (eq_of_beq hend) rfl).fewer (Nat.sub_le n 1)
  have hcontent (r : PUnit) : Composes m (Left m 0 n) (content r) fun _ => Left m 0 n := by
    refine .ite (fun _ => .bind composes_peek fun t => .facing t ?_) fun _ => hnode.bind hfinish
    exact .ite (fun _ => .bind (composes_emptyScalar _) hfinish) fun _ => hnode.bind hfinish
  refine .ite (fun _ => .bind (composes_documentStart _ _) fun _ => ?_) fun _ => hcontent ()
  exact .ite (fun _ => .value fun _ h => h) fun _ => hcontent ()

end Documents

end Compose

/-- **Nodes that cannot be read.** If the tokens come to an end, the nodes cannot be read for an
error of the text, or because the tokens nest too deeply. -/
theorem NodeGraph.isOfTokens_of_ofTokens [Host] {stream : TokenStream} {e : Error}
    (hends : Ends stream.failure (stream.tokens.drop 1)) (h : ofTokens stream = .error e) :
    e.IsOfTokens ⟨Host.nodes, nesting 0 (stream.tokens.drop 1)⟩ := by
  have hleft : Left ⟨Host.nodes, nesting 0 (stream.tokens.drop 1)⟩ 0 (stream.tokens.length + 1)
      (stream.tokens.drop 1) := by
    refine ⟨?_, Nat.le_refl _⟩
    rw [List.length_drop]
    omega
  have hbound : 2 * (stream.tokens.length + 1) ≤ 4 * stream.tokens.length + 16 := by omega
  rw [ofTokens] at h
  split at h
  · rename_i hrun
    cases h
    exact (Compose.yields_single hbound hends hleft).of_error hrun
  · cases h
  · cases h

end OpenApi.Yaml
