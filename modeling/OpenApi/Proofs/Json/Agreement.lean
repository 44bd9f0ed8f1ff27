/-
The decoder and the grammar see the same objects.

A JSON text is read twice: once for its value and once for a tree of nodes, which is then asked for
the pairs of a mapping. What the two have to do with each other is a shape of the tree (`IsTreeOf`):
there is one node under the root, for the value that the text holds, and every node of kind `object`
has grown from an object of the text, so the texts of the node, of the keys and of the values of its
pairs are those of the object, of its keys and of its values. Each of them decodes by itself
(`decode_text`). So in a tree of this shape the object can be put together from its pairs, one after
another, and that is what decoding the text of the node gives (`exists_members_of_tree`).

The tree that is grown for a text has this shape where the text decodes and the tree has no errors
(`isTreeOf_tree`).
-/
import Mathlib
import OpenApi.Host.Standard
import OpenApi.Proofs.Json.Growth
import OpenApi.Proofs.Outcome
import OpenApi.Tree.OfText

set_option autoImplicit false

namespace OpenApi

open OpenApi.Tree (Arena Concrete Handle Placed Place mappingKinds pairKinds)

/-! ## Members -/

namespace Json

/-- Fields are put in one after another. -/
theorem fieldsFrom_eq_foldl [Host] : (members : Members) → (before : Fields) →
    members.fieldsFrom before
      = members.list.foldl (fun fields m => fields.insert (pieceText m.1) m.2.value) before
  | .stop, _ => rfl
  | .last _ _ _ _ _, _ => rfl
  | .member _ _ _ _ _ _ rest, _ => fieldsFrom_eq_foldl rest _

theorem Members.IsValid.list {depth : Nat} : {members : Members} → members.IsValid depth →
    ∀ m ∈ members.list, (∀ piece ∈ m.1, piece.IsValid) ∧ m.2.IsValid depth
  | .stop, _ => List.forall_mem_nil _
  | .last _ _ _ _ _, ⟨hkey, _, _, hv, _⟩ => List.forall_mem_singleton.mpr ⟨hkey, hv⟩
  | .member _ _ _ _ _ _ _, ⟨hkey, _, _, hv, _, _, _, hrest⟩ =>
    List.forall_mem_cons.mpr ⟨⟨hkey, hv⟩, hrest.list⟩

/-! ## Keys -/

/-- A literal without a backslash has no escapes. -/
theorem unescape_of_no_backslash [Host] {pieces : List Piece}
    (h : '\\' ∉ pieces.flatMap Piece.text) :
    unescape pieces = pieces.flatMap Piece.text := by
  induction pieces with
  | nil => rfl
  | cons piece pieces ih =>
    rw [List.flatMap_cons, List.mem_append, not_or] at h
    cases piece with
    | plain c =>
      rw [unescape, ih h.2]
      rfl
    | short c => exact absurd List.mem_cons_self h.1
    | unicode a b c d => exact absurd List.mem_cons_self h.1

end Json

namespace Tree.Arena

/-- A key in quotes is shown without them. -/
theorem keyText_of_literal {a : Arena} {h : Handle} {pieces : List Json.Piece}
    (htext : a.text h = String.ofList (Json.literal pieces)) :
    a.keyText h = String.ofList (pieces.flatMap Json.Piece.text) := by
  have htrim : Text.trim (Json.literal pieces) = Json.literal pieces := by
    have hquote : Text.isBlank '"' = false := by decide
    simp [Text.trim, Text.dropTrailing, Json.literal, hquote]
  have hlast : (Json.literal pieces).getLast? = some '"' := by
    rw [Json.literal, List.getLast?_concat]
  have hlength : 2 ≤ (Json.literal pieces).length := by
    simp [Json.literal]
  rw [keyText, htext, String.toList_ofList, htrim, hlast]
  simp [Json.literal]

section Entries

variable {t : Concrete} {text : String} {format : Format}

/-- The key and the value of a pair are the children in these roles. -/
theorem pair_entry (text : String) (format : Format) {x : Placed}
    (hx : x ∈ t.placed none 0 0) {key colon value : Concrete}
    (hchildren : x.tree.children = [key, colon, value]) (hkey : key.label.field = some "key")
    (hcolon : colon.label.field = none) (hvalue : value.label.field = some "value") :
    ∃ k ∈ t.placed none 0 0, ∃ v ∈ t.placed none 0 0, k.tree = key ∧ v.tree = value
      ∧ (ofConcrete t text format).pairKey? x.handle = some k.handle
      ∧ (ofConcrete t text format).pairValue? x.handle = some v.handle := by
  obtain ⟨k, c, v, hsprouts, rfl, rfl, rfl⟩ : ∃ k c v, x.sprouts = [k, c, v]
      ∧ k.tree = key ∧ c.tree = colon ∧ v.tree = value := by
    rw [Placed.sprouts, hchildren]
    exact ⟨_, _, _, rfl, rfl, rfl, rfl⟩
  have hentry (y : Placed) (hy : y ∈ [k, c, v]) : y ∈ t.placed none 0 0 :=
    Concrete.sprouts_mem_placed t x hx y (by rwa [hsprouts])
  have hk := hentry k (by simp)
  have hc := hentry c (by simp)
  have hv := hentry v (by simp)
  have hhandles : (ofConcrete t text format).children x.handle
      = [k.handle, c.handle, v.handle] := by
    rw [children_entry hx, Placed.children, hsprouts]
    rfl
  refine ⟨k, hk, v, hv, rfl, rfl, ?_, ?_⟩
  · simp [pairKey?, hhandles, field?_entry hk, hkey]
  · simp [pairValue?, hhandles, field?_entry hk, field?_entry hc, field?_entry hv, hkey, hcolon,
      hvalue]

theorem asMapping?_object {h : Handle} (hkind : (ofConcrete t text format).kind h = "object") :
    (ofConcrete t text format).asMapping? h = some h := by
  obtain ⟨n, hn⟩ : ∃ n, (ofConcrete t text format).size = n + 1 := by
    rw [size_ofConcrete]
    exact ⟨t.size - 1, (Nat.sub_add_cancel t.size_pos).symm⟩
  have hmapping : mappingKinds.contains "object" = true := by decide
  rw [asMapping?, hn, descend, hkind, if_pos hmapping]

/-- The pairs of an object are made of its children that are pairs. -/
theorem pairs_entry {x : Placed} (hx : x ∈ t.placed none 0 0)
    (hkind : x.tree.label.kind = "object") :
    (ofConcrete t text format).pairs x.handle
      = (x.sprouts.filter fun y => Json.isPair y.tree).filterMap fun y =>
          ((ofConcrete t text format).pairKey? y.handle).map fun key =>
            ⟨(ofConcrete t text format).keyText key, y.handle,
              (ofConcrete t text format).pairValue? y.handle⟩ := by
  have hpairs : x.sprouts.filter
        ((fun c => pairKinds.contains ((ofConcrete t text format).kind c)) ∘ Placed.handle)
      = x.sprouts.filter fun y => Json.isPair y.tree := by
    refine List.filter_congr fun y hy => ?_
    rw [Function.comp_apply, kind_entry (Concrete.sprouts_mem_placed t x hx y hy), Json.isPair]
  rw [pairs, asMapping?_object ((kind_entry hx).trans hkind)]
  simp only
  rw [children_entry hx, Placed.children, List.filter_map, hpairs, List.filterMap_map]
  rfl

end Entries

end Tree.Arena

/-! ## The shape of a tree -/

namespace Json

/-- The shape of a tree of a text that holds one value: under the root there is one node, which
covers the value and is an object if the value is one; and whatever node of the tree is an object
has grown from an object of the text. Of the rest of the tree nothing is asked. -/
structure IsTreeOf [Host] (depth : Nat) (text : List Char) (v : Lossless) (t : Concrete) :
    Prop where
  valid : v.IsValid depth
  objects : t.Deep (IsObjectIn depth text)
  document : t.label.kind = "document"
  top : ∃ node, t.children = [node] ∧ node.Covers text v.text
    ∧ ((∃ fields, v.value = .object fields) → node.label.kind = "object")

/-- Only an object has the value of an object. -/
theorem Lossless.eq_object [Host] {value : Lossless} {fields : Fields}
    (h : value.value = .object fields) : ∃ pad members, value = .object pad members := by
  cases value with
  | word w => cases w <;> cases h
  | number n =>
    rw [Lossless.value, Numeral.value] at h
    split at h <;> cases h
  | string pieces => cases h
  | array pad items => cases h
  | object pad members => exact ⟨pad, members, rfl⟩

/-- **The tree that is grown for a text has the shape**, if the text reads as a value and no node of
the tree is an error. -/
theorem isTreeOf_tree [Host] {depth : Nat} {text : List Char} {lead after : Blank} {v : Lossless}
    (hread : readWithin depth text = .ok (lead, v, after)) (hclean : IsClean (tree text)) :
    IsTreeOf depth text v (tree text) := by
  obtain ⟨hvalid, htext, -, -⟩ := readWithin_sound hread
  have hgrown : tree text = .branch "document" (Place.start.past lead) (Place.start.past text)
      ((v.grow (Place.start.past lead)).node
        :: ((v.grow (Place.start.past lead)).spill ++ [])) := by
    rw [tree, sheet?, readWithin_length hread]
    rfl
  rw [hgrown, List.append_nil] at hclean
  -- Words and numerals that the grammar does not know grow nodes for errors, and there are none.
  have hknown : v.IsKnown := isKnown_of_clean v hclean.inner
  rw [(grow_known hknown _).1, List.append_nil] at hgrown
  have hobject (h : ∃ fields, v.value = .object fields) :
      (v.grow (Place.start.past lead)).node.label.kind = "object" := by
    obtain ⟨fields, hfields⟩ := h
    obtain ⟨pad, members, rfl⟩ := Lossless.eq_object hfields
    rfl
  have hobjects := deep_objects v hknown hvalid htext
  have hcovers := covers_grow hknown htext
  rw [hgrown]
  generalize (v.grow (Place.start.past lead)).node = node at hobject hobjects hcovers
  exact
    { valid := hvalid
      objects := deep_branch_of_kind (by decide) _ _ (List.forall_mem_singleton.mpr hobjects)
      document := rfl
      top := ⟨node, rfl, hcovers, hobject⟩ }

end Json

/-- What is known of the children of a node is known of their entries. -/
theorem forall₂_sprouts {x : Placed} {α : Type} {R : Concrete → α → Prop} {ms : List α}
    (h : List.Forall₂ R (x.tree.children.filter Json.isPair) ms) :
    List.Forall₂ (fun y m => R y.tree m) (x.sprouts.filter fun y => Json.isPair y.tree) ms := by
  have htrees : x.sprouts.map Placed.tree = x.tree.children := Concrete.roots_trees _ _ _ _
  rw [← htrees, List.filter_map, List.forall₂_map_left_iff] at h
  exact h

/-! ## Decoding -/

section Decoding

variable [Host]

/-- A text decodes to a JSON value, and so to the document of that value. -/
def DecodesTo (text : String) (v : Json.Value) : Prop :=
  Json.decode text = .ok v ∧ decode text (some .json) = .ok (Document.ofJson v)

theorem decodesTo_of_json {text : String} {v : Json.Value} (h : Json.decode text = .ok v) :
    DecodesTo text v := by
  refine ⟨h, ?_⟩
  rw [decode, Option.getD_some, h]
  rfl

/-- A document that was decoded from JSON is that of a value. -/
theorem exists_json_of_decode {text : String} {d : Document}
    (h : decode text (some .json) = .ok d) : ∃ v, Json.decode text = .ok v := by
  cases hjson : Json.decode text with
  | ok v => exact ⟨v, rfl⟩
  | error e =>
    rw [decode, Option.getD_some, hjson] at h
    cases h

/-- A text that decodes was read strictly. -/
theorem exists_read_of_decode {text : String} {v : Json.Value} (h : Json.decode text = .ok v) :
    ∃ lead value after, Json.read text.toList = .ok (lead, value, after) := by
  cases hread : Json.read text.toList with
  | ok parts => exact ⟨parts.1, parts.2.1, parts.2.2, rfl⟩
  | error f =>
    rw [Json.decode, hread] at h
    cases h

/-- The text of a valid value decodes. -/
theorem decodesTo_text {v : Json.Lossless} (hv : v.IsValid Host.brackets) :
    DecodesTo (String.ofList v.text) v.value :=
  decodesTo_of_json (Json.decode_text hv)

/-! ## Objects -/

/-- Where a text decodes and its tree has no errors, the tree has the shape of the value that was
read. -/
theorem exists_isTreeOf {text : String} {v : Json.Value} (hdecode : Json.decode text = .ok v)
    (hclean : (Arena.ofText text (some .json)).errors = []) :
    ∃ value : Json.Lossless, value.value = v
      ∧ Json.IsTreeOf Host.brackets text.toList value (Json.tree text.toList) := by
  obtain ⟨lead, value, after, hread⟩ := exists_read_of_decode hdecode
  have hvalue : value.value = v := by
    rw [Json.decode, hread] at hdecode
    exact Except.ok.inj hdecode
  exact ⟨value, hvalue, Json.isTreeOf_tree hread (Arena.deep_of_no_errors hclean)⟩

/-- What a pair of a tree and a member of an object have to do with each other. The pair has a key
and a value, whose texts decode to the name and the value of the member. The key that the pair
reports is that name if the text of the key has no backslash. -/
structure IsMemberOf (a : Arena) (p : Arena.Pair) (m : String × Json.Value) : Prop where
  key : ∃ h, a.pairKey? p.pair = some h ∧ DecodesTo (a.text h) (.str m.1)
    ∧ ('\\' ∉ (a.text h).toList → p.key = m.1)
  value : ∃ h, a.pairValue? p.pair = some h ∧ p.value = some h ∧ DecodesTo (a.text h) m.2

/-- A pair that has grown from a member reports it. -/
theorem exists_pair_of_isPairOf {t : Concrete} {text : String} {format : Format} {x : Placed}
    (hx : x ∈ t.placed none 0 0) {m : List Json.Piece × Json.Lossless}
    (hpair : Json.IsPairOf text.toList x.tree m) (hkey : ∀ piece ∈ m.1, piece.IsValid)
    (hvalue : m.2.IsValid Host.brackets) :
    ∃ p, ((Arena.ofConcrete t text format).pairKey? x.handle).map (fun key =>
        Arena.Pair.mk ((Arena.ofConcrete t text format).keyText key) x.handle
          ((Arena.ofConcrete t text format).pairValue? x.handle)) = some p
      ∧ IsMemberOf (Arena.ofConcrete t text format) p (Json.pieceText m.1, m.2.value) := by
  obtain ⟨key, colon, value, hchildren, hkeyField, hcolon, hvalueField, hkeyCovers, hvalueCovers⟩ :=
    hpair
  obtain ⟨k, hk, v, hv, rfl, rfl, hkeyOf, hvalueOf⟩ :=
    Arena.pair_entry text format hx hchildren hkeyField hcolon hvalueField
  have hkeyText : (Arena.ofConcrete t text format).text k.handle
      = String.ofList (Json.literal m.1) := Arena.text_entry hk hkeyCovers
  have hvalueText : (Arena.ofConcrete t text format).text v.handle
      = String.ofList m.2.text := Arena.text_entry hv hvalueCovers
  have hkeyDecodes : DecodesTo (String.ofList (Json.literal m.1)) (.str (Json.pieceText m.1)) :=
    decodesTo_text (v := .string m.1) hkey
  -- The text of a key loses its quotes but keeps its escapes.
  have hname (hplain : '\\' ∉ ((Arena.ofConcrete t text format).text k.handle).toList) :
      (Arena.ofConcrete t text format).keyText k.handle = Json.pieceText m.1 := by
    rw [hkeyText, String.toList_ofList] at hplain
    rw [Arena.keyText_of_literal hkeyText, Json.pieceText, Json.unescape_of_no_backslash]
    exact fun hmem => hplain (List.mem_cons_of_mem _ (List.mem_append_left _ hmem))
  rw [← hkeyText] at hkeyDecodes
  have hvalueDecodes := decodesTo_text hvalue
  rw [← hvalueText] at hvalueDecodes
  generalize Arena.ofConcrete t text format = a at *
  exact ⟨⟨a.keyText k.handle, x.handle, a.pairValue? x.handle⟩, by rw [hkeyOf, Option.map_some],
    ⟨k.handle, hkeyOf, hkeyDecodes, hname⟩, ⟨v.handle, hvalueOf, hvalueOf, hvalueDecodes⟩⟩

/-- **An object node of a tree decodes to its pairs**, put in one after another, if all object nodes
have grown from objects of the text. -/
theorem exists_members_of_tree {t : Concrete} {text : String} (format : Format)
    (ht : t.Deep (Json.IsObjectIn Host.brackets text.toList)) {o : Handle}
    (hobject : (Arena.ofConcrete t text format).kind o = "object") :
    ∃ members : List (String × Json.Value),
      List.Forall₂ (IsMemberOf (Arena.ofConcrete t text format))
          ((Arena.ofConcrete t text format).pairs o) members
        ∧ DecodesTo ((Arena.ofConcrete t text format).text o)
          (.object (members.foldl (fun fields m => Json.Fields.insert fields m.1 m.2) [])) := by
  have hsize : o < (Arena.ofConcrete t text format).size := by
    by_contra hle
    have hnone : (Arena.ofConcrete t text format).node? o = none :=
      Array.getElem?_eq_none (Nat.not_lt.mp hle)
    rw [Arena.kind, hnone] at hobject
    exact absurd hobject (by decide)
  obtain ⟨x, hx, rfl⟩ := Arena.exists_entry hsize
  rw [Arena.kind_entry hx] at hobject
  obtain ⟨pad, members, hvalid, hcovers, hpairs⟩ := Concrete.Deep.placed t ht x hx hobject
  refine ⟨members.list.map fun m => (Json.pieceText m.1, m.2.value), ?_, ?_⟩
  · rw [Arena.pairs_entry hx hobject, List.forall₂_map_right_iff]
    refine forall₂_filterMap ?_
    -- beside each pair of a child and a member goes where the child and the member come from
    have hentries := (List.forall₂_and_left _ _).mpr
      ⟨fun y hy => Concrete.sprouts_mem_placed t x hx y (List.mem_of_mem_filter hy),
        forall₂_sprouts hpairs⟩
    have hmembers := (List.forall₂_and_left _ _).mpr ⟨hvalid.2.2.list, hentries.flip⟩
    refine hmembers.flip.imp ?_
    rintro y m ⟨⟨hkey, hvalue⟩, hy, hpair⟩
    exact exists_pair_of_isPairOf hy hpair hkey (hvalue.mono (Nat.sub_le _ _))
  · rw [Arena.text_entry hx hcovers, List.foldl_map, ← Json.fieldsFrom_eq_foldl]
    exact decodesTo_text hvalid

/-- **An object node decodes to its pairs, put in one after another.** Let a text decode as JSON,
and let its tree have no errors. Then every pair of an object node of the tree has a value, the
texts of its key and its value decode to the name and the value of a member, and what the text of
the node decodes to is the object that these members make: a name that is repeated keeps its first
place and takes the last value. -/
theorem object_decodes_to_pairs {text : String} {d : Document}
    (hdecode : decode text (some .json) = .ok d)
    (hclean : (Arena.ofText text (some .json)).errors = []) {o : Handle}
    (hobject : (Arena.ofText text (some .json)).kind o = "object") :
    ∃ members : List (String × Json.Value),
      List.Forall₂ (IsMemberOf (Arena.ofText text (some .json)))
          ((Arena.ofText text (some .json)).pairs o) members
        ∧ DecodesTo ((Arena.ofText text (some .json)).text o)
          (.object (members.foldl (fun fields m => Json.Fields.insert fields m.1 m.2) [])) := by
  obtain ⟨v, hv⟩ := exists_json_of_decode hdecode
  obtain ⟨value, -, htree⟩ := exists_isTreeOf hv hclean
  exact exists_members_of_tree .json htree.objects hobject

end Decoding

/-- An object that names a member twice, once with an escape in the name. -/
def repeatedText : String := "\x7b\"a\":1,\"b\":\x7b\x7d,\"\\u0061\":null\x7d"

/-- The tree of this text. -/
def repeatedTree : Concrete := Json.tree repeatedText.toList

theorem object_decodes_to_pairs_repeatedText :
    ∃ d, decode repeatedText (some .json) = .ok d
      ∧ (Arena.ofText repeatedText (some .json)).errors = []
      ∧ (Arena.ofText repeatedText (some .json)).kind 1 = "object"
      ∧ ∃ members : List (String × Json.Value),
        List.Forall₂ (IsMemberOf (Arena.ofText repeatedText (some .json)))
            ((Arena.ofText repeatedText (some .json)).pairs 1) members
          ∧ DecodesTo ((Arena.ofText repeatedText (some .json)).text 1)
            (.object (members.foldl (fun fields m => Json.Fields.insert fields m.1 m.2) [])) := by
  have hvalue : Json.decode repeatedText = .ok (.object [("a", .null), ("b", .object [])]) := by
    cbv
  have harena : Arena.ofText repeatedText (some .json)
      = Arena.ofConcrete repeatedTree repeatedText .json := rfl
  have hclean : (Arena.ofText repeatedText (some .json)).errors = [] := by
    rw [harena, Arena.ofConcrete_eq_placed]
    cbv
  have hobject : (Arena.ofText repeatedText (some .json)).kind 1 = "object" := by
    rw [harena, Arena.ofConcrete_eq_placed]
    cbv
  have hdecode := (decodesTo_of_json hvalue).2
  exact ⟨_, hdecode, hclean, hobject, object_decodes_to_pairs hdecode hclean hobject⟩

end OpenApi
