/-
Which pair of a JSON document a key stands for.

The keys at the top of a document can be looked up in three ways: in the decoded object, among the
pairs of the tree, and among the sections of the tree. Each settles for itself what a key means that
is written more than once. Put in one after another, the last mention counts (`lookup_foldl`), and
so it does for the decoded object and for the sections; a search for a pair ends at the first one.

The argument: in a tree of the shape that is needed the node under the root is the object that the
text decodes to (`exists_topMembers`), so its pairs are the members of that object, one for one and
in order. The pairs with one key are then the members of one name, and where the tree and the object
look is the first or the last of these (`topPair_is_first_mention`).
-/
import OpenApi.Proofs.Json.Agreement

set_option autoImplicit false

namespace OpenApi

open OpenApi.Tree (Arena Concrete Handle Named Placed Place mappingKinds sectionNames)

/-! ## One after another -/

/-- What is looked up after entries were put in one after another is what the last entry says
about it, or else what was there before. -/
theorem lookup_foldl {σ α β : Type} {put : σ → α → σ} {tells : α → Option β} (get : σ → Option β)
    (hput : ∀ s x, get (put s x) = (tells x).or (get s)) (xs : List α) (s : σ) :
    get (xs.foldl put s) = (xs.filterMap tells).getLast?.or (get s) := by
  induction xs generalizing s with
  | nil => rfl
  | cons x xs ih =>
    rw [List.foldl_cons, ih, hput]
    cases htells : tells x with
    | none => rw [List.filterMap_cons_none htells, Option.none_or]
    | some y =>
      rw [List.filterMap_cons_some htells, List.getLast?_cons]
      cases (xs.filterMap tells).getLast? <;> rfl

namespace Json.Fields

theorem get?_insert (fields : Fields) (name : String) (value : Value) (key : String) :
    (fields.insert name value).get? key = if name == key then some value else fields.get? key := by
  induction fields with
  | nil =>
    by_cases hkey : name = key
    · simp [insert, get?, hkey]
    · simp [insert, get?, hkey]
  | cons field rest ih =>
    rw [insert]
    by_cases hname : field.1 = name
    · rw [if_pos hname]
      by_cases hkey : name = key
      · simp [get?, hkey]
      · simp [get?, hname, hkey]
    · rw [if_neg hname]
      by_cases hkey : field.1 = key
      · have hother : ¬ name = key := fun h => hname (hkey.trans h.symm)
        simp [get?, hkey, hother]
      · have hbehind (fs : Fields) : get? (field :: fs) key = get? fs key := by
          simp [get?, hkey]
        rw [hbehind, hbehind]
        exact ih

/-- A field of an object has the value of the last member of its name. -/
theorem get?_foldl_insert (members : List (String × Value)) (key : String) :
    get? (members.foldl (fun fields m => Fields.insert fields m.1 m.2) []) key
      = (members.filter fun m => m.1 == key).getLast?.map Prod.snd := by
  have hput (fields : Fields) (m : String × Value) :
      (Fields.insert fields m.1 m.2).get? key
        = (if m.1 == key then some m.2 else none).or (fields.get? key) := by
    rw [get?_insert]
    split <;> rfl
  have hnone : get? [] key = none := rfl
  rw [lookup_foldl (get? · key) hput, hnone, Option.or_none,
    ← List.getLast?_map, ← List.filterMap_eq_map, List.filterMap_filter]
  rfl

end Json.Fields

namespace Tree

theorem Named.lookup_insert (found : Named) (name : String) (h : Handle) (key : String) :
    (found.insert name h).lookup key = if name == key then some h else found.lookup key := by
  induction found with
  | nil =>
    by_cases hkey : name = key
    · simp [insert, hkey]
    · have hother : (key == name) = false := beq_eq_false_iff_ne.mpr (Ne.symm hkey)
      simp [insert, hkey, List.lookup_cons, hother]
  | cons e rest ih =>
    obtain ⟨other, h'⟩ := e
    rw [insert]
    -- A name that is there keeps its place and gets the new handle.
    by_cases hname : other = name
    · subst hname
      rw [if_pos rfl, List.lookup_cons, List.lookup_cons]
      by_cases hkey : other = key
      · simp [hkey]
      · have hother : (key == other) = false := beq_eq_false_iff_ne.mpr (Ne.symm hkey)
        simp [hkey, hother]
    · rw [if_neg hname, List.lookup_cons, List.lookup_cons]
      by_cases hkey : key = other
      · have hother : ¬ name = key := fun h => hname (hkey.symm.trans h.symm)
        simp [hkey, Ne.symm hname]
      · simp only [beq_eq_false_iff_ne.mpr hkey]
        exact ih

namespace Arena

/-- The pairs at the top of a document that have a key. -/
def topPairs (a : Arena) (key : String) : List Pair :=
  (a.pairs a.root).filter fun p => p.key == key

/-- A search for a pair ends at the first one. -/
theorem topPair?_eq (a : Arena) (key : String) :
    a.topPair? key = (a.topPairs key).head?.map Pair.pair := by
  rw [topPair?, topPairs, List.head?_filter]

/-- Of the pairs that have a value those with one of some names are put in one after another. Under
such a name stands the value of the last of them. -/
theorem lookup_foldl_insert {names : List String} (name : Pair → String) (ps : List Pair)
    {key : String} (hkey : key ∈ names) :
    (ps.foldl (fun (found : Named) p =>
        match p.value with
        | some v => if names.contains (name p) then found.insert (name p) v else found
        | none => found) []).lookup key
      = ((ps.filter fun p => name p == key).filterMap Pair.value).getLast? := by
  have hput (found : Named) (p : Pair) :
      (match p.value with
        | some v => if names.contains (name p) then found.insert (name p) v else found
        | none => found).lookup key
        = (if name p == key then p.value else none).or (found.lookup key) := by
    cases p.value with
    | none => simp
    | some v =>
      by_cases hname : name p = key
      · simp [hname, hkey, Named.lookup_insert]
      · by_cases hother : name p ∈ names
        · simp [hother, hname, Named.lookup_insert]
        · simp [hother, hname]
  rw [lookup_foldl (List.lookup key) hput, List.lookup_nil, Option.or_none, List.filterMap_filter]

/-- A section is the value of the last pair of its name that has one. -/
theorem lookup_sections (a : Arena) {key : String} (hsection : key ∈ sectionNames) :
    a.sections.lookup key = ((a.topPairs key).filterMap Pair.value).getLast? :=
  lookup_foldl_insert Pair.key (a.pairs a.root) hsection

/-! ## The object under the root -/

/-- A document whose only child is an object is looked through. -/
theorem asMapping?_document {t : Concrete} (text : String) (format : Format) {x y : Placed}
    (hx : x ∈ t.placed none 0 0) (hdocument : x.tree.label.kind = "document")
    (hsprouts : x.sprouts = [y]) (hobject : y.tree.label.kind = "object") :
    (ofConcrete t text format).asMapping? x.handle = some y.handle := by
  have hmem : y ∈ x.sprouts := by rw [hsprouts]; exact List.mem_singleton_self y
  have hy := Concrete.sprouts_mem_placed t x hx y hmem
  have hkind : (ofConcrete t text format).kind x.handle = "document" :=
    (kind_entry hx).trans hdocument
  have hkindBelow : (ofConcrete t text format).kind y.handle = "object" :=
    (kind_entry hy).trans hobject
  have hchildren : (ofConcrete t text format).children x.handle = [y.handle] := by
    rw [children_entry hx, Placed.children, hsprouts, List.map_singleton]
  -- two nodes, so there is a step to go down
  obtain ⟨n, hn⟩ : ∃ n, (ofConcrete t text format).size = n + 2 := by
    have hlt := (Concrete.bounds_of_mem_roots hmem).1
    have hsize := Concrete.bounds_of_mem_placed t y hy
    have hpos := y.tree.size_pos
    rw [size_ofConcrete]
    exact ⟨t.size - 2, by omega⟩
  have hmapping : mappingKinds.contains "object" = true := by decide
  have hbelow : (ofConcrete t text format).descend (n + 1) y.handle = some y.handle := by
    rw [descend, hkindBelow, if_pos hmapping]
  rw [asMapping?, hn, descend, hkind, if_neg (by decide), if_neg (by decide), if_pos (by decide),
    hchildren, List.find?_cons_of_pos (by rw [hkindBelow, hmapping]; rfl), Option.bind_some, hbelow]

end Arena

end Tree

section Shape

variable [Host]

/-- The pairs of a node that has grown from an object are the members of the object, in whatever
way a pair that has grown from a member shows it. -/
theorem forall₂_pairs_entry {t : Concrete} {text : String} (format : Format) {x : Placed}
    (hx : x ∈ t.placed none 0 0) (hobject : x.tree.label.kind = "object") {members : Json.Members}
    (hvalid : members.IsValid Host.brackets)
    (hpairs : List.Forall₂ (Json.IsPairOf text.toList) (x.tree.children.filter Json.isPair)
      members.list)
    {R : Arena.Pair → List Json.Piece × Json.Lossless → Prop}
    (hshows : ∀ y ∈ t.placed none 0 0, ∀ m, Json.IsPairOf text.toList y.tree m →
      (∀ piece ∈ m.1, piece.IsValid) → m.2.IsValid Host.brackets →
      ∃ p, ((Arena.ofConcrete t text format).pairKey? y.handle).map (fun key =>
          Arena.Pair.mk ((Arena.ofConcrete t text format).keyText key) y.handle
            ((Arena.ofConcrete t text format).pairValue? y.handle)) = some p ∧ R p m) :
    List.Forall₂ R ((Arena.ofConcrete t text format).pairs x.handle) members.list := by
  rw [Arena.pairs_entry hx hobject]
  refine forall₂_filterMap ?_
  have hentries := (List.forall₂_and_left _ _).mpr
    ⟨fun y hy => Concrete.sprouts_mem_placed t x hx y (List.mem_of_mem_filter hy),
      forall₂_sprouts hpairs⟩
  have hmembers := (List.forall₂_and_left _ _).mpr ⟨hvalid.list, hentries.flip⟩
  refine hmembers.flip.imp ?_
  rintro y m ⟨⟨hkey, hvalue⟩, hy, hpair⟩
  exact hshows y hy m hpair hkey hvalue

/-- The pairs of a node that has grown from an object are the members of the object. -/
theorem forall₂_isMemberOf {t : Concrete} {text : String} (format : Format) {x : Placed}
    (hx : x ∈ t.placed none 0 0) (hobject : x.tree.label.kind = "object") {members : Json.Members}
    (hvalid : members.IsValid Host.brackets)
    (hpairs : List.Forall₂ (Json.IsPairOf text.toList) (x.tree.children.filter Json.isPair)
      members.list) :
    List.Forall₂ (IsMemberOf (Arena.ofConcrete t text format))
      ((Arena.ofConcrete t text format).pairs x.handle)
      (members.list.map fun m => (Json.pieceText m.1, m.2.value)) := by
  rw [List.forall₂_map_right_iff]
  exact forall₂_pairs_entry format hx hobject hvalid hpairs fun _ hy _ => exists_pair_of_isPairOf hy

/-- In a tree of the shape of an object the pairs at the top are the members that the object was
made of. -/
theorem exists_topMembers {t : Concrete} {text : String} (format : Format) {value : Json.Lossless}
    (ht : Json.IsTreeOf Host.brackets text.toList value t) {fields : Json.Fields}
    (hvalue : value.value = .object fields) :
    ∃ members : List (String × Json.Value),
      List.Forall₂ (IsMemberOf (Arena.ofConcrete t text format))
          ((Arena.ofConcrete t text format).pairs (Arena.ofConcrete t text format).root) members
        ∧ fields = members.foldl (fun fields m => Json.Fields.insert fields m.1 m.2) [] := by
  obtain ⟨node, hchildren, hcoversValue, hkind⟩ := ht.top
  have hobject := hkind ⟨fields, hvalue⟩
  have hx := Concrete.root_mem_placed none 0 0 t
  obtain ⟨y, hsprouts, rfl⟩ : ∃ y : Placed, (Placed.mk t 0 none 0).sprouts = [y]
      ∧ y.tree = node := by
    rw [Placed.sprouts, hchildren]
    exact ⟨_, rfl, rfl⟩
  have hy : y ∈ t.placed none 0 0 :=
    Concrete.sprouts_mem_placed t _ hx y (by rw [hsprouts]; exact List.mem_singleton_self y)
  have htop : (Arena.ofConcrete t text format).pairs (Arena.ofConcrete t text format).root
      = (Arena.ofConcrete t text format).pairs y.handle := by
    have hroot := Arena.asMapping?_document text format hx ht.document hsprouts hobject
    have hself : (Arena.ofConcrete t text format).asMapping? y.handle = some y.handle :=
      Arena.asMapping?_object ((Arena.kind_entry hy).trans hobject)
    rw [Arena.pairs, Arena.pairs, hself, Arena.root, hroot]
  obtain ⟨pad, members, hvalidTop, hcovers, hpairs⟩ :=
    Concrete.Deep.placed t ht.objects y hy hobject
  refine ⟨members.list.map fun m => (Json.pieceText m.1, m.2.value), ?_, ?_⟩
  · rw [htop]
    exact forall₂_isMemberOf format hy hobject (hvalidTop.2.2.mono (Nat.sub_le _ _)) hpairs
  · -- both readings of the node cover the same text, so they have the same value
    have hvalueText : (Arena.ofConcrete t text format).text y.handle = String.ofList value.text :=
      Arena.text_entry hy hcoversValue
    have hdecodes := Json.decode_text ht.valid
    rw [← hvalueText, Arena.text_entry hy hcovers, Json.decode_text hvalidTop, hvalue] at hdecodes
    rw [List.foldl_map, ← Json.fieldsFrom_eq_foldl]
    exact (Json.Value.object.inj (Except.ok.inj hdecodes)).symm

end Shape

/-! ## Mentions -/

/-- The pairs of a mapping stand in the order of their numbers. -/
theorem Tree.Arena.pairs_pairwise {t : Concrete} {text : String} {format : Format} (h : Handle) :
    ((ofConcrete t text format).pairs h).Pairwise fun p q => p.pair < q.pair := by
  have hchildren (m : Handle) : ((ofConcrete t text format).children m).Pairwise (· < ·) := by
    by_cases hm : m < (ofConcrete t text format).size
    · obtain ⟨x, hx, rfl⟩ := exists_entry hm
      rw [children_entry hx]
      exact children_pairwise x
    · have hnone : (ofConcrete t text format).node? m = none :=
        Array.getElem?_eq_none (Nat.not_lt.mp hm)
      rw [children, hnone]
      exact .nil
  rw [pairs]
  split
  · exact .nil
  · rename_i m _
    refine ((hchildren m).filter _).filterMap _ ?_
    intro c d hlt p hp q hq
    obtain ⟨key, -, rfl⟩ := Option.map_eq_some_iff.mp hp
    obtain ⟨key', -, rfl⟩ := Option.map_eq_some_iff.mp hq
    exact hlt

section Ends

variable {α β : Type}

/-- Lists that agree member by member agree in the last one. -/
theorem forall₂_getLast? {R : α → β → Prop} {xs : List α} {ys : List β} (h : List.Forall₂ R xs ys)
    {y : β} (hy : ys.getLast? = some y) : ∃ x, xs.getLast? = some x ∧ R x y := by
  rw [← List.head?_reverse] at hy ⊢
  rw [← List.forall₂_reverse_iff] at h
  generalize xs.reverse = us at h ⊢
  generalize ys.reverse = vs at h hy
  cases h with
  | nil => cases hy
  | cons hxy _ =>
    cases hy
    exact ⟨_, rfl, hxy⟩

theorem getLast?_filterMap {f : α → Option β} {xs : List α} {x : α} {y : β}
    (hx : xs.getLast? = some x) (hy : f x = some y) : (xs.filterMap f).getLast? = some y := by
  obtain ⟨before, rfl⟩ := List.getLast?_eq_some_iff.mp hx
  rw [List.filterMap_append, List.filterMap_cons_some hy, List.filterMap_nil, List.getLast?_concat]

/-- In a list in strict order the first is the last only if there is no other. -/
theorem head_eq_getLast_iff {f : α → Nat} {xs : List α} (hxs : xs.Pairwise fun x y => f x < f y)
    {first last : α} (hfirst : xs.head? = some first) (hlast : xs.getLast? = some last) :
    f first = f last ↔ xs.length = 1 := by
  cases xs with
  | nil => cases hfirst
  | cons x rest =>
    cases hfirst
    rw [List.getLast?_cons, Option.some.injEq] at hlast
    rw [List.pairwise_cons] at hxs
    cases hrest : rest.getLast? with
    | none =>
      rw [List.getLast?_eq_none_iff] at hrest
      subst hrest
      cases hlast
      exact ⟨fun _ => rfl, fun _ => rfl⟩
    | some y =>
      have hy : y ∈ rest := List.mem_of_getLast? hrest
      have hlt := hxs.1 y hy
      have hpos := List.length_pos_of_mem hy
      rw [hrest, Option.getD_some] at hlast
      subst hlast
      rw [List.length_cons]
      omega

end Ends

section Documents

variable [Host]

/-- A document whose top is a mapping has been read from an object. -/
theorem exists_object_of_mapping {text : String} {d : Document} {entries : Entries}
    (hdecode : decode text (some .json) = .ok d)
    (hmapping : d.graph.mapping? d.root = some entries) :
    ∃ fields, Json.decode text = .ok (.object fields) ∧ d = Document.ofJson (.object fields) := by
  obtain ⟨v, hv⟩ := exists_json_of_decode hdecode
  have hd : d = Document.ofJson v := by
    have h := (decodesTo_of_json hv).2
    rw [hdecode] at h
    exact Except.ok.inj h
  subst hd
  cases v with
  | object fields => exact ⟨fields, hv, rfl⟩
  | array items =>
    -- the top is the first container, and that was filled with a sequence
    have hset (g : Graph) (values : List Value) :
        (g.set 0 (.sequence values)).mapping? (.container 0) = none := by
      rw [Graph.mapping?, Graph.shape, Graph.set]
      by_cases hsize : 0 < g.containers.size
      · simp [hsize]
      · simp [hsize]
    have hnone : none = some entries := (hset _ _).symm.trans hmapping
    cases hnone
  | null => cases hmapping
  | bool b => cases hmapping
  | int n => cases hmapping
  | float x => cases hmapping
  | str s => cases hmapping

/-- **A search finds the first pair of a key, and the object has the last one.** Let a text decode
as JSON to a mapping, let its tree have no errors and let no key at its top have a backslash. Then
every key of the mapping stands at the top of the tree. The value of the last pair of the key
decodes to what the mapping has for it, and is the section of that name. The pair that is found is
the first one; it is the last one too if and only if the key is written once. -/
theorem topPair_is_first_mention {text : String} {d : Document} {entries : Entries}
    (hdecode : decode text (some .json) = .ok d)
    (hmapping : d.graph.mapping? d.root = some entries)
    (hclean : (Arena.ofText text (some .json)).errors = [])
    (hplain : ∀ p ∈ (Arena.ofText text (some .json)).pairs (Arena.ofText text (some .json)).root,
      ∀ h, (Arena.ofText text (some .json)).pairKey? p.pair = some h →
        '\\' ∉ ((Arena.ofText text (some .json)).text h).toList) :
    ∃ fields : Json.Fields, d = Document.ofJson (.object fields)
      ∧ ∀ key w, fields.get? key = some w → ∃ first last h,
        ((Arena.ofText text (some .json)).topPairs key).head? = some first
        ∧ ((Arena.ofText text (some .json)).topPairs key).getLast? = some last
        ∧ (Arena.ofText text (some .json)).topPair? key = some first.pair
        ∧ (first.pair = last.pair
            ↔ ((Arena.ofText text (some .json)).topPairs key).length = 1)
        ∧ (Arena.ofText text (some .json)).pairValue? last.pair = some h
        ∧ DecodesTo ((Arena.ofText text (some .json)).text h) w
        ∧ (key ∈ sectionNames →
            (Arena.ofText text (some .json)).sections.lookup key = some h) := by
  obtain ⟨fields, hobject, rfl⟩ := exists_object_of_mapping hdecode hmapping
  obtain ⟨value, hvalue, htree⟩ := exists_isTreeOf hobject hclean
  obtain ⟨members, hpairs, rfl⟩ := exists_topMembers .json htree hvalue
  have harena : Arena.ofText text (some .json)
      = Arena.ofConcrete (Json.tree text.toList) text .json := rfl
  rw [← harena] at hpairs
  have hordered : ((Arena.ofText text (some .json)).pairs
      (Arena.ofText text (some .json)).root).Pairwise fun p q => p.pair < q.pair :=
    Arena.pairs_pairwise _
  generalize Arena.ofText text (some .json) = a at hclean hplain hpairs hordered ⊢
  refine ⟨_, rfl, ?_⟩
  intro key w hw
  rw [Json.Fields.get?_foldl_insert, Option.map_eq_some_iff] at hw
  obtain ⟨m, hm, rfl⟩ := hw
  -- Without backslashes a key is written as the name it decodes to. So the pairs that a search by
  -- text finds are those of the members of that name, in the same order.
  have hnamed : List.Forall₂ (IsMemberOf a) (a.topPairs key)
      (members.filter fun m => m.1 == key) := by
    have hkeys : List.Forall₂ (fun p m => IsMemberOf a p m ∧ p.key = m.1) (a.pairs a.root)
        members := by
      refine ((List.forall₂_and_left _ _).mpr ⟨hplain, hpairs⟩).imp ?_
      rintro p m ⟨hp, hmember⟩
      obtain ⟨h, hkey, -, hname⟩ := hmember.key
      exact ⟨hmember, hname (hp h hkey)⟩
    refine (List.rel_filter ?_ hkeys).imp fun p m hpm => hpm.1
    rintro p m ⟨-, hkey⟩
    simp only [hkey]
  obtain ⟨last, hlast, hmember⟩ := forall₂_getLast? hnamed hm
  obtain ⟨h, hvalue, hhas, hdecodes⟩ := hmember.value
  obtain ⟨first, hfirst⟩ : ∃ first, (a.topPairs key).head? = some first := by
    obtain ⟨p, ps, hps⟩ :=
      List.exists_cons_of_ne_nil (List.ne_nil_of_mem (List.mem_of_getLast? hlast))
    exact ⟨p, by rw [hps, List.head?_cons]⟩
  refine ⟨first, last, h, hfirst, hlast, ?_, ?_, hvalue, hdecodes, ?_⟩
  · rw [Arena.topPair?_eq, hfirst, Option.map_some]
  · exact head_eq_getLast_iff (hordered.filter _) hfirst hlast
  · intro hsection
    rw [Arena.lookup_sections a hsection]
    exact getLast?_filterMap hlast hhas

end Documents

/-- An object with two sections of one name. -/
def twiceText : String := "\x7b\"info\":1,\"info\":\"é\"\x7d"

theorem topPair_is_first_mention_twiceText :
    ∃ d entries, decode twiceText (some .json) = .ok d
      ∧ d.graph.mapping? d.root = some entries
      ∧ (Arena.ofText twiceText (some .json)).errors = []
      ∧ (∀ p ∈ (Arena.ofText twiceText (some .json)).pairs
          (Arena.ofText twiceText (some .json)).root,
        ∀ h, (Arena.ofText twiceText (some .json)).pairKey? p.pair = some h →
          '\\' ∉ ((Arena.ofText twiceText (some .json)).text h).toList)
      ∧ ∃ fields : Json.Fields, d = Document.ofJson (.object fields)
        ∧ ∀ key w, fields.get? key = some w → ∃ first last h,
          ((Arena.ofText twiceText (some .json)).topPairs key).head? = some first
          ∧ ((Arena.ofText twiceText (some .json)).topPairs key).getLast? = some last
          ∧ (Arena.ofText twiceText (some .json)).topPair? key = some first.pair
          ∧ (first.pair = last.pair
              ↔ ((Arena.ofText twiceText (some .json)).topPairs key).length = 1)
          ∧ (Arena.ofText twiceText (some .json)).pairValue? last.pair = some h
          ∧ DecodesTo ((Arena.ofText twiceText (some .json)).text h) w
          ∧ (key ∈ sectionNames →
              (Arena.ofText twiceText (some .json)).sections.lookup key = some h) := by
  have hvalue : Json.decode twiceText = .ok (.object [("info", .str "é")]) := by
    cbv
  have hdecode := (decodesTo_of_json hvalue).2
  have harena : Arena.ofText twiceText (some .json)
      = Arena.ofConcrete (Json.tree twiceText.toList) twiceText .json := rfl
  have hclean : (Arena.ofText twiceText (some .json)).errors = [] := by
    rw [harena, Arena.ofConcrete_eq_placed]
    cbv
  have hkeys : ((Arena.ofText twiceText (some .json)).pairs
      (Arena.ofText twiceText (some .json)).root).all (fun p =>
        ((Arena.ofText twiceText (some .json)).pairKey? p.pair).all fun h =>
          !((Arena.ofText twiceText (some .json)).text h).toList.contains '\\') = true := by
    rw [harena, Arena.ofConcrete_eq_placed]
    cbv
  have hplain : ∀ p ∈ (Arena.ofText twiceText (some .json)).pairs
      (Arena.ofText twiceText (some .json)).root,
      ∀ h, (Arena.ofText twiceText (some .json)).pairKey? p.pair = some h →
        '\\' ∉ ((Arena.ofText twiceText (some .json)).text h).toList := by
    intro p hp h hkey
    have hp := List.all_eq_true.mp hkeys p hp
    rw [hkey, Option.all_some] at hp
    simpa using hp
  have hmapping : (Document.ofJson (.object [("info", .str "é")])).graph.mapping?
      (Document.ofJson (.object [("info", .str "é")])).root
        = some [(.str "info", .scalar (.str "é"))] := rfl
  exact ⟨_, _, hdecode, hmapping, hclean, hplain,
    topPair_is_first_mention hdecode hmapping hclean hplain⟩

end OpenApi
