/-
Concrete trees of JSON values: extents, and what an object's node holds.

A node that grows from a value starts where the value starts and, if the grammar knows all of the
value, stops where it stops (`grow_known`). A tree without error nodes has grown from a value that
is known throughout (`isKnown_of_clean`). In such a tree every node of kind `object` has grown from
an object of the value: it covers the text of that object, and its pairs cover the members, one for
one and in order (`deep_objects`).
-/
import Mathlib.Data.List.Forall2
import OpenApi.Json.Tree
import OpenApi.Proofs.Json.Reading
import OpenApi.Proofs.Tree.Subtree

set_option autoImplicit false

namespace OpenApi.Json

open OpenApi.Tree

/-! ## Places -/

theorem pieceNodes_stop (run : Option Place) (p : Place) (pieces : List Piece) :
    (pieceNodes run p pieces).2 = p.past (pieces.flatMap Piece.text) := by
  induction pieces generalizing run p with
  | nil => rfl
  | cons piece pieces ih =>
    rw [List.flatMap_cons, Place.past_append]
    cases piece with
    | plain c => exact ih _ _
    | short c => exact ih _ _
    | unicode a b c d => exact ih _ _

theorem stringNode_stop (p : Place) (pieces : List Piece) :
    (stringNode p pieces).stop = p.past (literal pieces) := by
  have hstop : (stringNode p pieces).stop = (pieceNodes none (p.step '"') pieces).2.step '"' := rfl
  rw [hstop, pieceNodes_stop, literal, List.cons_append, Place.past_cons, Place.past_append]
  rfl

theorem valuePlace_eq (p : Place) (key : List Piece) (before lead : Blank) :
    valuePlace p key before lead = p.past (literal key ++ (before ++ ':' :: lead)) := by
  rw [valuePlace, stringNode_stop]
  simp only [Place.past_append, Place.past_cons]

mutual

/-- A value is passed as its text is. -/
theorem grow_stop : (v : Lossless) → (p : Place) → (v.grow p).stop = p.past v.text
  | .word w, p => rfl
  | .number n, p => by
    rw [Lossless.grow, Numeral.grow, Lossless.text]
    split <;> rfl
  | .string pieces, p => stringNode_stop p pieces
  | .array pad items, p => by
    change ((items.grow [] ((p.step '[').past pad)).2).step ']' = _
    rw [growItems_stop, Lossless.text]
    simp only [List.cons_append, Place.past_cons, Place.past_append, Place.past_nil]
  | .object pad members, p => by
    change ((members.grow [] ((p.step '{').past pad)).2).step '}' = _
    rw [growMembers_stop, Lossless.text]
    simp only [List.cons_append, Place.past_cons, Place.past_append, Place.past_nil]

theorem growItems_stop : (items : Items) → (comma : List Concrete) → (p : Place) →
    (items.grow comma p).2 = p.past items.text
  | .stop, comma, p => rfl
  | .last v after, comma, p => by
    change ((v.grow p).stop).past after = _
    rw [grow_stop, Items.text, Place.past_append]
  | .item v after gap rest, comma, p => by
    change (rest.grow _ ((((v.grow p).stop.past after).step ',').past gap)).2 = _
    rw [growItems_stop, grow_stop, Items.text]
    simp only [Place.past_append, Place.past_cons]

theorem growMembers_stop : (members : Members) → (comma : List Concrete) → (p : Place) →
    (members.grow comma p).2 = p.past members.text
  | .stop, comma, p => rfl
  | .last key before lead v after, comma, p => by
    change ((v.grow (valuePlace p key before lead)).stop).past after = _
    rw [grow_stop, valuePlace_eq, Members.text]
    simp only [Place.past_append, Place.past_cons]
  | .member key before lead v after gap rest, comma, p => by
    change (rest.grow _
      ((((v.grow (valuePlace p key before lead)).stop.past after).step ',').past gap)).2 = _
    rw [growMembers_stop, grow_stop, valuePlace_eq, Members.text]
    simp only [Place.past_append, Place.past_cons]

end

/-! ## Steps of growing -/

theorem placeComma_false (nodes comma : List Concrete) (p : Place) :
    placeComma nodes comma false p = (nodes, [token "," p]) := rfl

theorem growItems_item (v : Lossless) (after gap : Blank) (rest : Items) (comma : List Concrete)
    (p : Place) :
    ((Items.item v after gap rest).grow comma p).1
      = (placeComma (itemNodes comma p v.isForeign (v.grow p)) comma v.isForeign
          ((v.grow p).stop.past after)).1
        ++ (rest.grow
            (placeComma (itemNodes comma p v.isForeign (v.grow p)) comma v.isForeign
              ((v.grow p).stop.past after)).2
            ((((v.grow p).stop.past after).step ',').past gap)).1 := rfl

/-- The node of a member. -/
def pairNode (p : Place) (key : List Piece) (before : Blank) (value : Concrete) : Concrete :=
  .branch "pair" p value.stop
    [(stringNode p key).withField (some "key"), token ":" ((stringNode p key).stop.past before),
      value.withField (some "value")]

theorem memberNodes_false (comma : List Concrete) (p : Place) (key : List Piece) (before : Blank)
    (value : Grown) : memberNodes comma p key before false value
      = comma ++ pairNode p key before value.node :: value.spill := rfl

theorem growMembers_member (key : List Piece) (before lead : Blank) (v : Lossless)
    (after gap : Blank) (rest : Members) (comma : List Concrete) (p : Place) :
    ((Members.member key before lead v after gap rest).grow comma p).1
      = (placeComma
          (memberNodes comma p key before v.isForeign (v.grow (valuePlace p key before lead)))
          comma v.isForeign ((v.grow (valuePlace p key before lead)).stop.past after)).1
        ++ (rest.grow
            (placeComma
              (memberNodes comma p key before v.isForeign (v.grow (valuePlace p key before lead)))
              comma v.isForeign ((v.grow (valuePlace p key before lead)).stop.past after)).2
            ((((v.grow (valuePlace p key before lead)).stop.past after).step ',').past gap)).1 :=
  rfl

/-! ## Values that the grammar knows -/

mutual

/-- The grammar knows all of a value: no word but the three names, and no plus sign. -/
def Lossless.IsKnown : Lossless → Prop
  | .word w => w.kind ≠ Concrete.errorKind
  | .number n => ∀ e ∈ n.exponent, e.sign ≠ some '+'
  | .string _ => True
  | .array _ items => items.IsKnown
  | .object _ members => members.IsKnown

def Items.IsKnown : Items → Prop
  | .stop => True
  | .last value _ => value.IsKnown
  | .item value _ _ rest => value.IsKnown ∧ rest.IsKnown

def Members.IsKnown : Members → Prop
  | .stop => True
  | .last _ _ _ value _ => value.IsKnown
  | .member _ _ _ value _ _ rest => value.IsKnown ∧ rest.IsKnown

end

theorem isForeign_of_isKnown {v : Lossless} (h : v.IsKnown) : v.isForeign = false := by
  cases v with
  | word w => exact beq_eq_false_iff_ne.mpr h
  | _ => rfl

theorem Numeral.grow_of_no_plus {n : Numeral} (h : ∀ e ∈ n.exponent, e.sign ≠ some '+')
    (p : Place) : n.grow p = ⟨.leaf "number" p (p.past n.text), [], p.past n.text⟩ := by
  unfold Numeral.grow
  simp only
  split
  · rename_i hexponent
    exact absurd rfl (h _ hexponent)
  · rfl

/-- **A known value has one node, and the node has its extent.** -/
theorem grow_known {v : Lossless} (h : v.IsKnown) (p : Place) :
    (v.grow p).spill = [] ∧ (v.grow p).node.start = p ∧ (v.grow p).node.stop = p.past v.text := by
  cases v with
  | word w => exact ⟨rfl, rfl, rfl⟩
  | number n =>
    rw [Lossless.grow, Numeral.grow_of_no_plus h]
    exact ⟨rfl, rfl, rfl⟩
  | string pieces => exact ⟨rfl, rfl, stringNode_stop p pieces⟩
  | array pad items => exact ⟨rfl, rfl, grow_stop (.array pad items) p⟩
  | object pad members => exact ⟨rfl, rfl, grow_stop (.object pad members) p⟩

section Known

variable {v : Lossless} (h : v.IsKnown) (key : List Piece) (before lead after gap : Blank)
  (comma : List Concrete) (p : Place)

include h

theorem growItems_last_known :
    ((Items.last v after).grow comma p).1 = comma ++ [(v.grow p).node] := by
  change itemNodes comma p v.isForeign (v.grow p) = _
  rw [isForeign_of_isKnown h]
  change comma ++ (v.grow p).node :: (v.grow p).spill = _
  rw [(grow_known h p).1]

theorem growItems_item_known (rest : Items) :
    ((Items.item v after gap rest).grow comma p).1
      = comma ++ (v.grow p).node :: (rest.grow [token "," (p.past (v.text ++ after))]
          (p.past (v.text ++ (after ++ ',' :: gap)))).1 := by
  rw [growItems_item, isForeign_of_isKnown h, placeComma_false, grow_stop]
  change (comma ++ (v.grow p).node :: (v.grow p).spill) ++ _ = _
  rw [(grow_known h p).1]
  simp only [Place.past_append, Place.past_cons, List.append_assoc, List.cons_append,
    List.nil_append]

theorem growMembers_last_known :
    ((Members.last key before lead v after).grow comma p).1
      = comma ++ [pairNode p key before (v.grow (valuePlace p key before lead)).node] := by
  change memberNodes comma p key before v.isForeign _ = _
  rw [isForeign_of_isKnown h, memberNodes_false, (grow_known h _).1]

theorem growMembers_member_known (rest : Members) :
    ((Members.member key before lead v after gap rest).grow comma p).1
      = comma ++ pairNode p key before (v.grow (valuePlace p key before lead)).node
        :: (rest.grow
            [token "," (p.past (literal key ++ (before ++ ':' :: (lead ++ (v.text ++ after)))))]
            (p.past (literal key
              ++ (before ++ ':' :: (lead ++ (v.text ++ (after ++ ',' :: gap))))))).1 := by
  rw [growMembers_member, isForeign_of_isKnown h, placeComma_false, memberNodes_false,
    (grow_known h _).1, grow_stop]
  simp only [valuePlace_eq, Place.past_append, Place.past_cons, List.append_assoc,
    List.cons_append, List.nil_append]

end Known

/-! ## Trees without errors -/

/-- A tree without an error node. -/
abbrev IsClean (t : Concrete) : Prop := t.Deep fun s => s.label.kind ≠ Concrete.errorKind

theorem not_isClean_errorNode (p : Place) (children : List Concrete) :
    ¬IsClean (errorNode p children) :=
  fun h => h.self rfl

theorem isClean_of_withField {t : Concrete} {field : Option String}
    (h : IsClean (t.withField field)) : IsClean t := by
  cases t with
  | node label children => exact .node h.self h.inner

/-- Nodes among which a foreign value stands under an error node. -/
def Shielded (foreign : Bool) (nodes : List Concrete) : Prop :=
  foreign = true → ∃ p ts, errorNode p ts ∈ nodes

theorem Shielded.eq_false {foreign : Bool} {nodes : List Concrete} (h : Shielded foreign nodes)
    (hclean : ∀ t ∈ nodes, IsClean t) : foreign = false := by
  refine Bool.eq_false_iff.mpr fun hforeign => ?_
  obtain ⟨p, ts, hmem⟩ := h hforeign
  exact not_isClean_errorNode p ts (hclean _ hmem)

theorem shielded_itemNodes (comma : List Concrete) (p : Place) (foreign : Bool) (value : Grown) :
    Shielded foreign (itemNodes comma p foreign value) := by
  rintro rfl
  exact ⟨_, _, List.mem_singleton_self _⟩

theorem shielded_memberNodes (comma : List Concrete) (p : Place) (key : List Piece)
    (before : Blank) (foreign : Bool) (value : Grown) :
    Shielded foreign (memberNodes comma p key before foreign value) := by
  rintro rfl
  exact ⟨_, _, List.mem_singleton_self _⟩

theorem Shielded.placeComma {foreign : Bool} {nodes : List Concrete} (h : Shielded foreign nodes)
    (comma : List Concrete) (p : Place) :
    Shielded foreign (placeComma nodes comma foreign p).1 := by
  intro hforeign
  unfold Json.placeComma
  split
  · exact ⟨_, _, List.mem_singleton_self _⟩
  · exact h hforeign

theorem isClean_of_itemNodes {comma : List Concrete} (p : Place) {value : Grown}
    (h : ∀ t ∈ itemNodes comma p false value, IsClean t) :
    ∀ t ∈ value.node :: value.spill, IsClean t :=
  fun t ht => h t (List.mem_append_right comma ht)

theorem isClean_of_memberNodes {comma : List Concrete} {p : Place} {key : List Piece}
    {before : Blank} {value : Grown}
    (h : ∀ t ∈ memberNodes comma p key before false value, IsClean t) :
    ∀ t ∈ value.node :: value.spill, IsClean t := by
  rw [memberNodes_false] at h
  obtain ⟨hpair, hspill⟩ := List.forall_mem_cons.mp (List.forall_mem_append.mp h).2
  have hvalue : IsClean (value.node.withField (some "value")) := by
    refine hpair.inner _ ?_
    exact List.mem_cons_of_mem _ (List.mem_cons_of_mem _ (List.mem_singleton_self _))
  exact List.forall_mem_cons.mpr ⟨isClean_of_withField hvalue, hspill⟩

mutual

/-- **A tree without errors has grown from a value that is known throughout.** -/
theorem isKnown_of_clean : (v : Lossless) → ∀ {p : Place},
    (∀ t ∈ (v.grow p).node :: (v.grow p).spill, IsClean t) → v.IsKnown
  | .word w, p, h => (h _ List.mem_cons_self).self
  | .number n, p, h => by
    rintro ⟨mark, sign, digits⟩ he rfl
    -- what follows the plus sign spills over, under an error node
    have hspill : ∃ q ts, errorNode q ts ∈ (n.grow p).spill := by
      rw [Option.mem_def] at he
      rw [Numeral.grow, he]
      exact ⟨_, _, List.mem_singleton_self _⟩
    obtain ⟨q, ts, hmem⟩ := hspill
    exact not_isClean_errorNode q ts (h _ (List.mem_cons_of_mem _ hmem))
  | .string pieces, p, h => trivial
  | .array pad items, p, h => by
    have hinner := (h _ List.mem_cons_self).inner
    refine isKnownItems_of_clean items [] ((p.step '[').past pad) fun t ht => hinner t ?_
    exact List.mem_cons_of_mem _ (List.mem_append_left _ ht)
  | .object pad members, p, h => by
    have hinner := (h _ List.mem_cons_self).inner
    refine isKnownMembers_of_clean members [] ((p.step '{').past pad) fun t ht => hinner t ?_
    exact List.mem_cons_of_mem _ (List.mem_append_left _ ht)

theorem isKnownItems_of_clean : (items : Items) → (comma : List Concrete) → (p : Place) →
    (∀ t ∈ (items.grow comma p).1, IsClean t) → items.IsKnown
  | .stop, comma, p, h => trivial
  | .last v after, comma, p, h => by
    change ∀ t ∈ itemNodes comma p v.isForeign (v.grow p), IsClean t at h
    rw [(shielded_itemNodes comma p v.isForeign (v.grow p)).eq_false h] at h
    exact isKnown_of_clean v (isClean_of_itemNodes p h)
  | .item v after gap rest, comma, p, h => by
    rw [growItems_item] at h
    obtain ⟨hfront, hrest⟩ := List.forall_mem_append.mp h
    -- a foreign value would have put an error node in front of the rest
    have hforeign :=
      ((shielded_itemNodes comma p v.isForeign (v.grow p)).placeComma comma _).eq_false
      hfront
    rw [hforeign, placeComma_false] at hfront
    exact ⟨isKnown_of_clean v (isClean_of_itemNodes p hfront),
      isKnownItems_of_clean rest _ _ hrest⟩

theorem isKnownMembers_of_clean : (members : Members) → (comma : List Concrete) → (p : Place) →
    (∀ t ∈ (members.grow comma p).1, IsClean t) → members.IsKnown
  | .stop, comma, p, h => trivial
  | .last key before lead v after, comma, p, h => by
    change ∀ t ∈ memberNodes comma p key before v.isForeign
      (v.grow (valuePlace p key before lead)), IsClean t at h
    rw [(shielded_memberNodes comma p key before v.isForeign _).eq_false h] at h
    exact isKnown_of_clean v (isClean_of_memberNodes h)
  | .member key before lead v after gap rest, comma, p, h => by
    rw [growMembers_member] at h
    obtain ⟨hfront, hrest⟩ := List.forall_mem_append.mp h
    have hforeign := ((shielded_memberNodes comma p key before v.isForeign _).placeComma comma
      _).eq_false hfront
    rw [hforeign, placeComma_false] at hfront
    exact ⟨isKnown_of_clean v (isClean_of_memberNodes hfront),
      isKnownMembers_of_clean rest _ _ hrest⟩

end

/-! ## Objects -/

/-- The members of an object, each by its key and its value. -/
def Members.list : Members → List (List Piece × Lossless)
  | .stop => []
  | .last key _ _ value _ => [(key, value)]
  | .member key _ _ value _ _ rest => (key, value) :: rest.list

/-- Whether a tree is a pair. -/
def isPair (t : Concrete) : Bool := pairKinds.contains t.label.kind

/-- A pair of a text that has grown from a member: the nodes of its key and of its value cover
theirs. -/
def IsPairOf (text : List Char) (t : Concrete) (m : List Piece × Lossless) : Prop :=
  ∃ key colon value, t.children = [key, colon, value]
    ∧ key.label.field = some "key" ∧ colon.label.field = none ∧ value.label.field = some "value"
    ∧ key.Covers text (literal m.1) ∧ value.Covers text m.2.text

/-- A node of a text that, if it is an object, has grown from an object with so many brackets below
each other at most. -/
def IsObjectIn (depth : Nat) (text : List Char) (t : Concrete) : Prop :=
  t.label.kind = "object" → ∃ pad members, (Lossless.object pad members).IsValid depth
    ∧ t.Covers text (Lossless.object pad members).text
    ∧ List.Forall₂ (IsPairOf text) (t.children.filter isPair) members.list

section Objects

variable {depth : Nat} {text : List Char}

theorem covers_withField {t : Concrete} {cs : List Char} (h : t.Covers text cs)
    (field : Option String) : (t.withField field).Covers text cs := by
  cases t with
  | node label children => exact h

theorem label_withField (t : Concrete) (field : Option String) :
    (t.withField field).label.field = field := by
  cases t with
  | node label children => rfl

/-- What stands in front of the inside of a bracket. -/
theorem split_bracket {c : Char} {pre t : List Char} {pad : Blank}
    (h : text = pre ++ c :: (pad ++ t)) : text = pre ++ c :: pad ++ t := by
  rw [h, List.append_assoc, List.cons_append]

/-- What stands in front of the value of a member. -/
theorem split_value {key : List Piece} {before lead : Blank} {pre t : List Char}
    (h : text = pre ++ (literal key ++ (before ++ ':' :: (lead ++ t)))) :
    text = pre ++ (literal key ++ (before ++ ':' :: lead)) ++ t := by
  rw [h]
  simp only [List.append_assoc, List.cons_append]

/-- What stands in front of the members behind a member. -/
theorem split_member {key : List Piece} {before lead after gap : Blank} {v pre t : List Char}
    (h : text = pre
      ++ (literal key ++ (before ++ ':' :: (lead ++ (v ++ (after ++ ',' :: (gap ++ t))))))) :
    text = pre ++ (literal key
      ++ (before ++ ':' :: (lead ++ (v ++ (after ++ ',' :: gap))))) ++ t := by
  rw [h]
  simp only [List.append_assoc, List.cons_append]

/-- What stands in front of the items behind an item. -/
theorem split_item {after gap : Blank} {v pre t : List Char}
    (h : text = pre ++ (v ++ (after ++ ',' :: (gap ++ t)))) :
    text = pre ++ (v ++ (after ++ ',' :: gap)) ++ t := by
  rw [h]
  simp only [List.append_assoc, List.cons_append]

/-- A known value covers its text. -/
theorem covers_grow {v : Lossless} (h : v.IsKnown) {pre post : List Char}
    (htext : text = pre ++ (v.text ++ post)) :
    (v.grow (Place.start.past pre)).node.Covers text v.text := by
  obtain ⟨-, hstart, hstop⟩ := grow_known h (Place.start.past pre)
  exact ⟨pre, post, htext, hstart, by rw [hstop, Place.past_append]⟩

/-- The node of a member is the pair of the member. -/
theorem isPairOf_pairNode {key : List Piece} {before lead : Blank} {v : Lossless} (h : v.IsKnown)
    {pre post : List Char}
    (htext : text = pre ++ (literal key ++ (before ++ ':' :: (lead ++ (v.text ++ post))))) :
    IsPairOf text (pairNode (Place.start.past pre) key before
      (v.grow (valuePlace (Place.start.past pre) key before lead)).node) (key, v) := by
  refine ⟨_, _, _, rfl, label_withField _ _, rfl, label_withField _ _, covers_withField ?_ _,
    covers_withField ?_ _⟩
  · exact ⟨pre, _, htext, rfl, by rw [stringNode_stop, Place.past_append]⟩
  · have hplace : valuePlace (Place.start.past pre) key before lead
        = Place.start.past (pre ++ (literal key ++ (before ++ ':' :: lead))) := by
      rw [valuePlace_eq, ← Place.past_append]
    rw [hplace]
    exact covers_grow h (split_value htext)

/-- **The pairs among the nodes of members are those of the members**, in order. -/
theorem forall₂_pairs : (members : Members) → members.IsKnown → ∀ (comma : List Concrete),
    comma.filter isPair = [] → ∀ {pre post : List Char},
      text = pre ++ (members.text ++ post) →
        List.Forall₂ (IsPairOf text)
          ((members.grow comma (Place.start.past pre)).1.filter isPair) members.list
  | .stop, _, comma, hcomma, pre, post, _ => by
    have hnone : ((Members.stop.grow comma (Place.start.past pre)).1.filter isPair) = [] := by
      rw [Members.grow]
      split <;> rfl
    rw [hnone]
    exact .nil
  | .last key before lead v after, hv, comma, hcomma, pre, post, htext => by
    rw [Members.text_last_append] at htext
    rw [growMembers_last_known hv, List.filter_append, hcomma]
    exact .cons (isPairOf_pairNode hv htext) .nil
  | .member key before lead v after gap rest, ⟨hv, hrest⟩, comma, hcomma, pre, post, htext => by
    rw [Members.text_member_append] at htext
    rw [growMembers_member_known hv, List.filter_append, hcomma]
    refine .cons (isPairOf_pairNode hv htext) ?_
    rw [← Place.past_append, ← Place.past_append]
    exact forall₂_pairs rest hrest [token "," _] rfl (split_member htext)

/-! ## All objects -/

theorem isObjectIn_of_kind {t : Concrete} (h : t.label.kind ≠ "object") : IsObjectIn depth text t :=
  fun hkind => absurd hkind h

theorem deep_leaf_of_kind {kind : String} (h : kind ≠ "object") (start stop : Place) :
    (Concrete.leaf kind start stop).Deep (IsObjectIn depth text) :=
  .node (isObjectIn_of_kind h) (List.forall_mem_nil _)

theorem deep_branch_of_kind {kind : String} (h : kind ≠ "object") (start stop : Place)
    {children : List Concrete} (hchildren : ∀ t ∈ children, t.Deep (IsObjectIn depth text)) :
    (Concrete.branch kind start stop children).Deep (IsObjectIn depth text) :=
  .node (isObjectIn_of_kind h) hchildren

/-- Tokens around nodes are no objects. -/
theorem deep_bracketed {opening closing : String} (hopening : opening ≠ "object")
    (hclosing : closing ≠ "object") (p q : Place) {inner : List Concrete}
    (hinner : ∀ t ∈ inner, t.Deep (IsObjectIn depth text)) :
    ∀ t ∈ token opening p :: inner ++ [token closing q], t.Deep (IsObjectIn depth text) :=
  List.forall_mem_cons.mpr ⟨deep_leaf_of_kind hopening p _, List.forall_mem_append.mpr
    ⟨hinner, List.forall_mem_singleton.mpr (deep_leaf_of_kind hclosing q _)⟩⟩

theorem deep_withField {t : Concrete} (h : t.Deep (IsObjectIn depth text)) (field : Option String) :
    (t.withField field).Deep (IsObjectIn depth text) := by
  cases t with
  | node label children => exact .node h.self h.inner

theorem deep_contentNode (run : Option Place) (stop : Place) :
    ∀ t ∈ contentNode run stop, t.Deep (IsObjectIn depth text) := by
  cases run with
  | none => exact List.forall_mem_nil _
  | some start =>
    intro t ht
    rw [List.mem_singleton.mp ht]
    exact deep_leaf_of_kind (by decide) start stop

theorem deep_pieceNodes (run : Option Place) (p : Place) (pieces : List Piece) :
    ∀ t ∈ (pieceNodes run p pieces).1, t.Deep (IsObjectIn depth text) := by
  induction pieces generalizing run p with
  | nil => exact deep_contentNode run p
  | cons piece pieces ih =>
    have hescape (stop : Place) {nodes : List Concrete}
        (hnodes : ∀ t ∈ nodes, t.Deep (IsObjectIn depth text)) :
        ∀ t ∈ contentNode run p ++ .leaf "escape_sequence" p stop :: nodes,
          t.Deep (IsObjectIn depth text) :=
      List.forall_mem_append.mpr ⟨deep_contentNode run p,
        List.forall_mem_cons.mpr ⟨deep_leaf_of_kind (by decide) p stop, hnodes⟩⟩
    cases piece with
    | plain c => exact ih _ _
    | short c => exact hescape _ (ih _ _)
    | unicode a b c d => exact hescape _ (ih _ _)

theorem deep_stringNode (p : Place) (pieces : List Piece) :
    (stringNode p pieces).Deep (IsObjectIn depth text) :=
  deep_branch_of_kind (by decide) _ _
    (deep_bracketed (by decide) (by decide) _ _ (deep_pieceNodes none (p.step '"') pieces))

theorem deep_pairNode (p : Place) (key : List Piece) (before : Blank) {value : Concrete}
    (h : value.Deep (IsObjectIn depth text)) :
    (pairNode p key before value).Deep (IsObjectIn depth text) := by
  refine deep_branch_of_kind (by decide) _ _ ?_
  exact List.forall_mem_cons.mpr ⟨deep_withField (deep_stringNode p key) _,
    List.forall_mem_cons.mpr ⟨deep_leaf_of_kind (by decide) _ _,
      List.forall_mem_singleton.mpr (deep_withField h _)⟩⟩

/-- A comma that waits in vain. -/
theorem deep_stop {comma : List Concrete} (h : ∀ t ∈ comma, t.Deep (IsObjectIn depth text))
    (p : Place) :
    ∀ t ∈ (if comma.isEmpty then [] else [errorNode p comma]), t.Deep (IsObjectIn depth text) := by
  split
  · exact List.forall_mem_nil _
  · exact List.forall_mem_singleton.mpr (deep_branch_of_kind (by decide) _ _ h)

theorem filter_isPair_bracketed (opening closing : String)
    (hopening : pairKinds.contains opening = false) (hclosing : pairKinds.contains closing = false)
    (p q : Place) (inner : List Concrete) :
    (token opening p :: inner ++ [token closing q]).filter isPair = inner.filter isPair := by
  have hfirst : isPair (token opening p) = false := hopening
  have hlast : isPair (token closing q) = false := hclosing
  rw [List.filter_append, List.filter_cons_of_neg (by simp [hfirst]),
    List.filter_cons_of_neg (by simp [hlast]), List.filter_nil, List.append_nil]

mutual

/-- **Every object node of a known value has grown from an object of it.** -/
theorem deep_objects : (v : Lossless) → v.IsKnown → v.IsValid depth →
    ∀ {pre post : List Char}, text = pre ++ (v.text ++ post) →
      (v.grow (Place.start.past pre)).node.Deep (IsObjectIn depth text)
  | .word w, hknown, _, pre, post, _ => by
    refine deep_leaf_of_kind ?_ _ _
    cases w <;> decide
  | .number n, hknown, _, pre, post, _ => by
    rw [Lossless.grow, Numeral.grow_of_no_plus hknown]
    exact deep_leaf_of_kind (by decide) _ _
  | .string pieces, _, _, pre, post, _ => deep_stringNode _ pieces
  | .array pad items, hknown, hvalid, pre, post, htext => by
    rw [Lossless.text_array_append] at htext
    have hinner := deep_items items hknown (hvalid.2.2.mono (Nat.sub_le _ _)) []
      (List.forall_mem_nil _) (split_bracket htext)
    rw [Place.past_append, Place.past_cons] at hinner
    exact deep_branch_of_kind (by decide) _ _ (deep_bracketed (by decide) (by decide) _ _ hinner)
  | .object pad members, hknown, hvalid, pre, post, htext => by
    have hcovers := covers_grow hknown htext
    rw [Lossless.text_object_append] at htext
    have hinner := deep_members members hknown (hvalid.2.2.mono (Nat.sub_le _ _)) []
      (List.forall_mem_nil _) (split_bracket htext)
    have hpairs := forall₂_pairs members hknown [] rfl (split_bracket htext)
    rw [Place.past_append, Place.past_cons] at hinner hpairs
    -- the brackets are children of the node too, but no pairs
    rw [← filter_isPair_bracketed "\x7b" "\x7d" rfl rfl _ _ _] at hpairs
    exact .node (fun _ => ⟨pad, members, hvalid, hcovers, hpairs⟩)
      (deep_bracketed (by decide) (by decide) _ _ hinner)

theorem deep_items : (items : Items) → items.IsKnown → items.IsValid depth →
    ∀ (comma : List Concrete), (∀ t ∈ comma, t.Deep (IsObjectIn depth text)) →
      ∀ {pre post : List Char}, text = pre ++ (items.text ++ post) →
        ∀ t ∈ (items.grow comma (Place.start.past pre)).1, t.Deep (IsObjectIn depth text)
  | .stop, _, _, comma, hcomma, pre, post, _ => deep_stop hcomma _
  | .last v after, hv, ⟨hvalid, _⟩, comma, hcomma, pre, post, htext => by
    rw [Items.text_last_append] at htext
    rw [growItems_last_known hv]
    exact List.forall_mem_append.mpr ⟨hcomma,
      List.forall_mem_singleton.mpr (deep_objects v hv hvalid htext)⟩
  | .item v after gap rest, ⟨hv, hrest⟩, ⟨hvalid, _, _, _, hrestValid⟩, comma, hcomma, pre, post,
      htext => by
    rw [Items.text_item_append] at htext
    rw [growItems_item_known hv, ← Place.past_append, ← Place.past_append]
    refine List.forall_mem_append.mpr ⟨hcomma, List.forall_mem_cons.mpr
      ⟨deep_objects v hv hvalid htext, deep_items rest hrest hrestValid _ ?_ (split_item htext)⟩⟩
    exact List.forall_mem_singleton.mpr (deep_leaf_of_kind (by decide) _ _)

theorem deep_members : (members : Members) → members.IsKnown → members.IsValid depth →
    ∀ (comma : List Concrete), (∀ t ∈ comma, t.Deep (IsObjectIn depth text)) →
      ∀ {pre post : List Char}, text = pre ++ (members.text ++ post) →
        ∀ t ∈ (members.grow comma (Place.start.past pre)).1, t.Deep (IsObjectIn depth text)
  | .stop, _, _, comma, hcomma, pre, post, _ => deep_stop hcomma _
  | .last key before lead v after, hv, ⟨_, _, _, hvalid, _⟩, comma, hcomma, pre, post, htext => by
    rw [Members.text_last_append] at htext
    rw [growMembers_last_known hv, valuePlace_eq, ← Place.past_append]
    exact List.forall_mem_append.mpr ⟨hcomma, List.forall_mem_singleton.mpr
      (deep_pairNode _ _ _ (deep_objects v hv hvalid (split_value htext)))⟩
  | .member key before lead v after gap rest, ⟨hv, hrest⟩,
      ⟨_, _, _, hvalid, _, _, _, hrestValid⟩, comma, hcomma, pre, post, htext => by
    rw [Members.text_member_append] at htext
    rw [growMembers_member_known hv, valuePlace_eq, ← Place.past_append, ← Place.past_append,
      ← Place.past_append]
    refine List.forall_mem_append.mpr ⟨hcomma, List.forall_mem_cons.mpr
      ⟨deep_pairNode _ _ _ (deep_objects v hv hvalid (split_value htext)),
        deep_members rest hrest hrestValid _ ?_ (split_member htext)⟩⟩
    exact List.forall_mem_singleton.mpr (deep_leaf_of_kind (by decide) _ _)

end

end Objects

end OpenApi.Json
