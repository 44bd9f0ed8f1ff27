/-
The operations of a JSON object, decoded and in the tree.

Both scans look for verbs in lower case, and under each verb for what was said last. One looks at
the entries of the decoded object, the other at the pairs of its node; both are compared with the
members that the object was read from (`memberOperations`).

For this, names have to be distinct. The entry of a name that is repeated has the place of its first
mention and the value of its last, so a name in another case that stands between the two is the last
one among the entries, but not among the pairs. Names that are the same up to case do no harm: they
have entries of their own, in the order of the members (`foldl_insert_of_nodup`).

A null is a value like others until the last member of a verb is found. It hides what an earlier
member said, in both scans.
-/
import OpenApi.Proofs.Document.StandsFor
import OpenApi.Proofs.Json.TopLevel
import OpenApi.View.Path

set_option autoImplicit false

namespace OpenApi

open OpenApi.Tree (Arena Concrete Handle Placed)

/-! ## The members of an object -/

namespace Json

def Value.isNull : Value → Bool
  | .null => true
  | _ => false

theorem Value.isNull_iff {v : Value} : v.isNull = true ↔ v = .null := by
  cases v <;> simp [isNull]

theorem Fields.insert_of_not_mem {fields : Fields} {name : String} (value : Value)
    (h : name ∉ fields.map Prod.fst) : fields.insert name value = fields ++ [(name, value)] := by
  induction fields with
  | nil => rfl
  | cons field rest ih =>
    rw [List.map_cons, List.mem_cons, not_or] at h
    rw [insert, if_neg (Ne.symm h.1), ih h.2, List.cons_append]

/-- Members of distinct names are the fields of the object that they make. -/
theorem Fields.foldl_insert_of_nodup {members : List (String × Value)} {before : Fields}
    (h : ((before ++ members).map Prod.fst).Nodup) :
    members.foldl (fun fields m => Fields.insert fields m.1 m.2) before = before ++ members := by
  induction members generalizing before with
  | nil => exact (List.append_nil before).symm
  | cons m rest ih =>
    have hnew : m.1 ∉ before.map Prod.fst := by
      rw [List.map_append, List.map_cons, List.nodup_middle, List.nodup_cons,
        List.mem_append, not_or] at h
      exact h.1.1
    -- the name is not there yet, so the member goes behind those that are
    rw [List.foldl_cons, Fields.insert_of_not_mem m.2 hnew,
      ih (by rwa [List.append_assoc]), List.append_assoc, List.singleton_append]

/-- What the members of an object say about a verb: the value of the last one with this name, in any
case. -/
def lastMember (members : List (String × Value)) (verb : String) : Option Value :=
  (members.filter fun m => Text.lower m.1 == verb).getLast?.map (·.2)

/-- The operations among the members of an object, by verb. -/
def memberOperations (members : List (String × Value)) : List (String × Value) :=
  (verbs.filterMap fun verb => (lastMember members verb).map (verb, ·)).filter fun e => !e.2.isNull

end Json

/-! ## The last one that fits -/

/-- Lists that agree member by member agree in the last one of which something holds, if there is
one. -/
theorem rel_getLast?_filter {α β : Type} {R : α → β → Prop} {p : α → Bool} {q : β → Bool}
    (hpq : ∀ x y, R x y → p x = q y) {xs : List α} {ys : List β} (h : List.Forall₂ R xs ys) :
    Option.Rel R (xs.filter p).getLast? (ys.filter q).getLast? := by
  have hfilter : List.Forall₂ R (xs.filter p) (ys.filter q) :=
    List.rel_filter (fun x y hxy => iff_of_eq (congrArg (· = true) (hpq x y hxy))) h
  cases hlast : (ys.filter q).getLast? with
  | none =>
    rw [List.getLast?_eq_none_iff] at hlast
    rw [hlast, List.forall₂_nil_right_iff] at hfilter
    rw [hfilter]
    exact .none
  | some y =>
    obtain ⟨x, hx, hxy⟩ := forall₂_getLast? hfilter hlast
    rw [hx]
    exact .some hxy

theorem rel_map {α β γ δ : Type} {R : α → β → Prop} {S : γ → δ → Prop} {f : α → γ}
    {g : β → δ} {x : Option α} {y : Option β} (h : Option.Rel R x y)
    (hfg : ∀ a b, R a b → S (f a) (g b)) : Option.Rel S (x.map f) (y.map g) := by
  cases h with
  | none => exact .none
  | some hab => exact .some (hfg _ _ hab)

/-! ## In the decoded object -/

theorem readLast_eq (entries : List (String × Value)) (name : String) :
    readLast entries name = (entries.filter fun e => e.1 == name).getLast?.map (·.2) := by
  rw [readLast, ← List.head?_filter, List.filter_reverse, List.head?_reverse]

section Decoded

variable {g : Graph}

/-- The names of entries that stand for members are texts, so they can be put in lower case. -/
theorem exists_loweredEntries [Host] {entries : Entries} {members : List (String × Json.Value)}
    (h : List.Forall₂ (fun e m => e.1 = .str m.1 ∧ g.StandsFor e.2 m.2) entries members) :
    ∃ lowered, loweredEntries entries = .ok lowered
      ∧ List.Forall₂ (fun l m => l.1 = Text.lower m.1 ∧ g.StandsFor l.2 m.2) lowered members := by
  induction h with
  | nil => exact ⟨[], rfl, .nil⟩
  | @cons e m entries members hem _ ih =>
    obtain ⟨lowered, hlowered, hmembers⟩ := ih
    have hentry : (do return (Text.lower (← e.1.text), e.2) : Except Unwritable (String × Value))
        = .ok (Text.lower m.1, e.2) := by
      rw [hem.1]
      rfl
    exact ⟨_, mapM_cons_ok hentry hlowered, .cons ⟨rfl, hem.2⟩ hmembers⟩

/-- What is not null of what stands last under each verb. -/
theorem operations_eq [Host] {item : Value} {lowered : List (String × Value)}
    (h : loweredEntries ((g.mapping? item).getD []) = .ok lowered) :
    operations g item = .ok ((verbs.filterMap fun verb =>
      (readLast lowered verb).map (verb, ·)).filter fun o => !o.2.isNull) := by
  rw [operations, h, List.filter_filterMap]
  refine congrArg Except.ok (List.filterMap_congr fun verb _ => ?_)
  cases readLast lowered verb with
  | none => rfl
  | some v => cases hnull : v.isNull <;> simp [Option.filter, hnull]

/-- The operations of a mapping whose entries stand for members stand for the operations among the
members. -/
theorem exists_operations_of_members [Host] {item : Value} {entries : Entries}
    {members : List (String × Json.Value)} (hmapping : g.mapping? item = some entries)
    (h : g.EntriesStandFor entries members) :
    ∃ ops, operations g item = .ok ops
      ∧ List.Forall₂ (fun o m => o.1 = m.1 ∧ g.StandsFor o.2 m.2) ops
          (Json.memberOperations members) := by
  obtain ⟨lowered, hlowered, hmembers⟩ := exists_loweredEntries (Graph.entriesStandFor_iff.mp h)
  have hlast (verb : String) :
      Option.Rel g.StandsFor (readLast lowered verb) (Json.lastMember members verb) := by
    rw [readLast_eq]
    refine rel_map (rel_getLast?_filter ?_ hmembers) fun l m hlm => hlm.2
    intro l m hlm
    rw [hlm.1]
  refine ⟨_, operations_eq (by rwa [hmapping]), ?_⟩
  rw [Json.memberOperations]
  -- the nulls go after the lookups, on both sides, so a null hides what stands before it
  refine List.rel_filter ?_ (List.rel_filterMap (R := Eq) ?_ (List.forall₂_refl verbs))
  · rintro o m ⟨-, hstands⟩
    have hnull : o.2.isNull = m.2.isNull := by
      rw [Bool.eq_iff_iff, hstands.isNull_iff, Json.Value.isNull_iff]
    simp only [hnull]
  · rintro verb _ rfl
    exact rel_map (hlast verb) fun v w hvw => ⟨rfl, hvw⟩

end Decoded

/-! ## In the tree -/

/-- The texts of the keys of a mapping, as they are written. -/
def Tree.Arena.keyLiterals (a : Arena) (h : Handle) : List String :=
  (a.pairs h).filterMap fun p => (a.pairKey? p.pair).map a.text

/-- The operations of a node with their values decoded, in the fixed order of the verbs and without
those whose value is null. -/
def decodedOperations [Host] (a : Arena) (h : Handle) :
    Except DecodeError (List (String × Document)) := do
  let found ← (verbs.filterMap fun verb => ((a.operations h).lookup verb).map (verb, ·)).mapM
    fun e => do return (e.1, ← decode (a.text e.2) (some .json))
  return found.filter fun e => !e.2.root.isNull

/-- How a name without escapes is written. -/
def inQuotes (name : String) : String := String.ofList ('"' :: (name.toList ++ ['"']))

/-- A pair shows a member: it has the name as its key, in quotes, and a value that decodes to that
of the member. -/
structure Shows [Host] (a : Arena) (p : Arena.Pair) (m : String × Json.Value) : Prop where
  literal : (a.pairKey? p.pair).map a.text = some (inQuotes m.1)
  key : p.key = m.1
  value : ∃ h, p.value = some h ∧ DecodesTo (a.text h) m.2

section Shown

variable {a : Arena} {h : Handle} {members : List (String × Json.Value)}

/-- Of the pairs of a verb the last one counts. -/
theorem lookup_operations {verb : String} (hverb : verb ∈ verbs) :
    (a.operations h).lookup verb
      = (((a.pairs h).filter fun p => Text.lower p.key == verb).filterMap
        Arena.Pair.value).getLast? :=
  Arena.lookup_foldl_insert (fun p => Text.lower p.key) (a.pairs h) hverb

variable [Host]

/-- What a node has for a verb decodes to what the members say about it. -/
theorem rel_lookup_operations (hshown : List.Forall₂ (Shows a) (a.pairs h) members) {verb : String}
    (hverb : verb ∈ verbs) :
    Option.Rel (fun v w => DecodesTo (a.text v) w) ((a.operations h).lookup verb)
      (Json.lastMember members verb) := by
  have hlast : Option.Rel (Shows a)
      ((a.pairs h).filter fun p => Text.lower p.key == verb).getLast?
      (members.filter fun m => Text.lower m.1 == verb).getLast? := by
    refine rel_getLast?_filter ?_ hshown
    intro p m hpm
    rw [hpm.key]
  rw [lookup_operations hverb, Json.lastMember]
  -- a pair that shows a member has a value, so the last value is that of the last pair
  generalize (a.pairs h).filter (fun p => Text.lower p.key == verb) = ps at hlast ⊢
  generalize (members.filter fun m => Text.lower m.1 == verb).getLast? = last at hlast ⊢
  cases hps : ps.getLast? with
  | none =>
    rw [hps] at hlast
    cases hlast
    rw [List.getLast?_eq_none_iff.mp hps]
    exact .none
  | some p =>
    rw [hps] at hlast
    cases hlast with
    | some hpm =>
      obtain ⟨v, hv, hdecodes⟩ := hpm.value
      rw [getLast?_filterMap hps hv]
      exact .some hdecodes

/-- The values of a node's operations decode, and what is left of them are the operations among the
members. -/
theorem decodedOperations_eq (hshown : List.Forall₂ (Shows a) (a.pairs h) members) :
    decodedOperations a h
      = .ok ((Json.memberOperations members).map fun e => (e.1, Document.ofJson e.2)) := by
  -- first what is found under each verb, nulls included; then its decoding
  have hfound : List.Forall₂ (fun e m => e.1 = m.1 ∧ DecodesTo (a.text e.2) m.2)
      (verbs.filterMap fun verb => ((a.operations h).lookup verb).map (verb, ·))
      (verbs.filterMap fun verb => (Json.lastMember members verb).map (verb, ·)) := by
    refine List.rel_filterMap (R := fun verb verb' => verb = verb' ∧ verb ∈ verbs) ?_
      (List.forall₂_same.mpr fun verb hverb => ⟨rfl, hverb⟩)
    rintro verb _ ⟨rfl, hverb⟩
    exact rel_map (rel_lookup_operations hshown hverb) fun v w hvw => ⟨rfl, hvw⟩
  have hdecoded : (verbs.filterMap fun verb => ((a.operations h).lookup verb).map (verb, ·)).mapM
        (fun e => do return (e.1, ← decode (a.text e.2) (some .json)))
      = (.ok ((verbs.filterMap fun verb => (Json.lastMember members verb).map (verb, ·)).map
          fun e => (e.1, Document.ofJson e.2)) : Except DecodeError _) := by
    rw [mapM_eq_ok_iff, List.forall₂_map_right_iff]
    refine hfound.imp ?_
    rintro e m ⟨hverb, -, hdecode⟩
    rw [hdecode, hverb]
    rfl
  have hnull : ((fun e : String × Document => !e.2.root.isNull)
      ∘ fun m : String × Json.Value => (m.1, Document.ofJson m.2)) = fun m => !m.2.isNull := by
    funext m
    rw [Function.comp_apply, Bool.eq_iff_iff]
    simp only [Bool.not_eq_true', ← Bool.not_eq_true,
      (Document.standsFor_ofJson m.2).isNull_iff, Json.Value.isNull_iff]
  rw [decodedOperations, hdecoded]
  refine congrArg Except.ok ?_
  rw [List.filter_map, hnull, Json.memberOperations]

/-- Distinct literals are those of distinct names. -/
theorem names_nodup (hshown : List.Forall₂ (Shows a) (a.pairs h) members)
    (hliterals : (a.keyLiterals h).Nodup) : (members.map Prod.fst).Nodup := by
  have hnames : a.keyLiterals h = members.map fun m => inQuotes m.1 := by
    rw [← List.forall₂_eq_eq_eq, List.forall₂_map_right_iff]
    exact forall₂_filterMap (hshown.imp fun p m hpm => ⟨_, hpm.literal, rfl⟩)
  have hsplit : (fun m : String × Json.Value => inQuotes m.1) = inQuotes ∘ Prod.fst := rfl
  -- two members of one name would have one literal
  rw [hnames, hsplit, ← List.map_map] at hliterals
  exact hliterals.of_map inQuotes

end Shown

/-! ## The two scans -/

/-- A literal without a backslash is the name in quotes. -/
theorem literal_eq_inQuotes [Host] {pieces : List Json.Piece} (h : '\\' ∉ Json.literal pieces) :
    String.ofList (Json.literal pieces) = inQuotes (Json.pieceText pieces) := by
  have hplain : '\\' ∉ pieces.flatMap Json.Piece.text :=
    fun hmem => h (List.mem_cons_of_mem _ (List.mem_append_left _ hmem))
  rw [inQuotes, Json.pieceText, Json.unescape_of_no_backslash hplain, String.toList_ofList,
    ← List.cons_append, Json.literal]

section Scans

variable [Host]

/-- A pair that has grown from a member shows it, if there is no backslash in its key. -/
theorem exists_pair_that_shows {t : Concrete} {text : String} {format : Format} {x : Placed}
    (hx : x ∈ t.placed none 0 0) {m : List Json.Piece × Json.Lossless}
    (hpair : Json.IsPairOf text.toList x.tree m) (hkey : ∀ piece ∈ m.1, piece.IsValid)
    (hvalue : m.2.IsValid Host.brackets) :
    ∃ p, ((Arena.ofConcrete t text format).pairKey? x.handle).map (fun key =>
        Arena.Pair.mk ((Arena.ofConcrete t text format).keyText key) x.handle
          ((Arena.ofConcrete t text format).pairValue? x.handle)) = some p
      ∧ ((∀ k, (Arena.ofConcrete t text format).pairKey? p.pair = some k →
          '\\' ∉ ((Arena.ofConcrete t text format).text k).toList) →
        Shows (Arena.ofConcrete t text format) p (Json.pieceText m.1, m.2.value)) := by
  obtain ⟨p, hp, hmember⟩ := @exists_pair_of_isPairOf _ t text format x hx m hpair hkey hvalue
  refine ⟨p, hp, fun hplain => ?_⟩
  obtain ⟨k, hk, -, hname⟩ := hmember.key
  obtain ⟨v, -, hhas, hdecodes⟩ := hmember.value
  refine ⟨?_, hname (hplain k hk), v, hhas, hdecodes⟩
  -- the node of the key covers the literal
  obtain ⟨key, colon, value, hchildren, hkeyField, hcolon, hvalueField, hcovers, -⟩ := hpair
  obtain ⟨k', hk', -, -, rfl, -, hkeyOf, -⟩ :=
    Arena.pair_entry text format hx hchildren hkeyField hcolon hvalueField
  have hhandle : p.pair = x.handle := by
    obtain ⟨_, -, rfl⟩ := Option.map_eq_some_iff.mp hp
    rfl
  have htext : (Arena.ofConcrete t text format).text k'.handle
      = String.ofList (Json.literal m.1) := Arena.text_entry hk' hcovers
  have hplain := hplain k'.handle (by rw [hhandle, hkeyOf])
  rw [htext, String.toList_ofList] at hplain
  rw [hhandle, hkeyOf, Option.map_some, htext, literal_eq_inQuotes hplain]

/-- The pairs of an object node of a tree show the members that the text of the node decodes to, if
no key has a backslash and all object nodes have grown from objects of the text. -/
theorem exists_shown_members {t : Concrete} {text : String} (format : Format)
    (ht : t.Deep (Json.IsObjectIn Host.brackets text.toList)) {o : Handle}
    (hobject : (Arena.ofConcrete t text format).kind o = "object")
    (hplain : ∀ literal ∈ (Arena.ofConcrete t text format).keyLiterals o, '\\' ∉ literal.toList) :
    ∃ members : List (String × Json.Value),
      List.Forall₂ (Shows (Arena.ofConcrete t text format))
          ((Arena.ofConcrete t text format).pairs o) members
        ∧ DecodesTo ((Arena.ofConcrete t text format).text o)
          (.object (members.foldl (fun fields m => Json.Fields.insert fields m.1 m.2) [])) := by
  obtain ⟨x, hx, rfl⟩ := Arena.exists_entry (Arena.lt_size_of_kind hobject (by decide))
  rw [Arena.kind_entry hx] at hobject
  obtain ⟨pad, members, hvalid, hcovers, hpairs⟩ := Concrete.Deep.placed t ht x hx hobject
  refine ⟨members.list.map fun m => (Json.pieceText m.1, m.2.value), ?_, ?_⟩
  · rw [List.forall₂_map_right_iff]
    have hshow := forall₂_pairs_entry format hx hobject
      (hvalid.2.2.mono (Nat.sub_le _ _)) hpairs fun _ hy _ => exists_pair_that_shows hy
    refine ((List.forall₂_and_left _ _).mpr ⟨fun p hp k hk => ?_, hshow⟩).imp fun p m hpm =>
      hpm.2 hpm.1
    exact hplain _ (List.mem_filterMap.mpr ⟨p, hp, by rw [hk, Option.map_some]⟩)
  · rw [Arena.text_entry hx hcovers, List.foldl_map, ← Json.fieldsFrom_eq_foldl]
    exact decodesTo_text hvalid

/-- **The two scans for operations agree.** Let a text decode as JSON, let its tree have no errors,
and let the keys of an object node be written without backslashes and no two of them alike. They may
be the same up to case. Then the text of the node decodes to a document whose operations are those
of the node: the same verbs in the same order, which is the fixed one, and under each verb the JSON
value that the text of the node's value decodes to, those left out that are null. -/
theorem operations_agree_with_tree {text : String} {d : Document}
    (hdecode : decode text (some .json) = .ok d)
    (hclean : (Arena.ofText text (some .json)).errors = []) {o : Handle}
    (hobject : (Arena.ofText text (some .json)).kind o = "object")
    (hplain : ∀ literal ∈ (Arena.ofText text (some .json)).keyLiterals o,
      '\\' ∉ literal.toList)
    (hdistinct : ((Arena.ofText text (some .json)).keyLiterals o).Nodup) :
    ∃ item ops docs, decode ((Arena.ofText text (some .json)).text o) (some .json) = .ok item
      ∧ operations item.graph item.root = .ok ops
      ∧ decodedOperations (Arena.ofText text (some .json)) o = .ok docs
      ∧ List.Forall₂ (fun op doc => op.1 = doc.1 ∧ item.graph.SameJson op.2 doc.2) ops docs := by
  obtain ⟨v, hv⟩ := exists_json_of_decode hdecode
  obtain ⟨value, -, htree⟩ := exists_isTreeOf hv hclean
  obtain ⟨members, hshown, -, hitem⟩ := exists_shown_members .json htree.objects hobject hplain
  -- no name is repeated, so the fields of the decoded object are the members themselves
  have hnodup := names_nodup hshown hdistinct
  rw [Json.Fields.foldl_insert_of_nodup (by simpa using hnodup), List.nil_append] at hitem
  obtain ⟨entries, hshape, hentries⟩ := Document.standsFor_ofJson (.object members)
  have hmapping : (Document.ofJson (.object members)).graph.mapping?
      (Document.ofJson (.object members)).root = some entries := by
    rw [Graph.mapping?, hshape]
  obtain ⟨ops, hops, hstand⟩ := exists_operations_of_members hmapping hentries
  refine ⟨_, ops, _, hitem, hops, decodedOperations_eq hshown, ?_⟩
  rw [List.forall₂_map_right_iff]
  exact hstand.imp fun op m hm => ⟨hm.1, Document.sameJson_ofJson hm.2⟩

end Scans

/-- An object that names a verb twice, in different cases, and a null the second time. -/
def casesText : String := "\x7b\"Put\":[],\"get\":1,\"GET\":null\x7d"

/-- Of the two verbs in it one is left. -/
theorem operations_agree_with_tree_casesText :
    ∃ d, decode casesText (some .json) = .ok d
      ∧ (Arena.ofText casesText (some .json)).errors = []
      ∧ (Arena.ofText casesText (some .json)).kind 1 = "object"
      ∧ (∀ literal ∈ (Arena.ofText casesText (some .json)).keyLiterals 1, '\\' ∉ literal.toList)
      ∧ ((Arena.ofText casesText (some .json)).keyLiterals 1).Nodup
      ∧ ((Arena.ofText casesText (some .json)).operations 1).map Prod.fst = ["put", "get"]
      ∧ ∃ item ops docs,
        decode ((Arena.ofText casesText (some .json)).text 1) (some .json) = .ok item
          ∧ operations item.graph item.root = .ok ops
          ∧ decodedOperations (Arena.ofText casesText (some .json)) 1 = .ok docs
          ∧ List.Forall₂ (fun op doc => op.1 = doc.1 ∧ item.graph.SameJson op.2 doc.2) ops docs
          ∧ docs.map Prod.fst = ["put"] := by
  have hvalue : Json.decode casesText
      = .ok (.object [("Put", .array []), ("get", .int 1), ("GET", .null)]) := by
    cbv
  have hdecode := (decodesTo_of_json hvalue).2
  have harena : Arena.ofText casesText (some .json)
      = Arena.ofConcrete (Json.tree casesText.toList) casesText .json := rfl
  have hclean : (Arena.ofText casesText (some .json)).errors = [] := by
    rw [harena, Arena.ofConcrete_eq_placed]
    cbv
  have hobject : (Arena.ofText casesText (some .json)).kind 1 = "object" := by
    rw [harena, Arena.ofConcrete_eq_placed]
    cbv
  have hliterals : (Arena.ofText casesText (some .json)).keyLiterals 1
      = ["\"Put\"", "\"get\"", "\"GET\""] := by
    rw [harena, Arena.ofConcrete_eq_placed]
    cbv
  have hverbs : ((Arena.ofText casesText (some .json)).operations 1).map Prod.fst
      = ["put", "get"] := by
    rw [harena, Arena.ofConcrete_eq_placed]
    cbv
  have hleft : (decodedOperations (Arena.ofText casesText (some .json)) 1).map
      (·.map Prod.fst) = .ok ["put"] := by
    rw [harena, Arena.ofConcrete_eq_placed]
    cbv
  have hplain : ∀ literal ∈ (Arena.ofText casesText (some .json)).keyLiterals 1,
      '\\' ∉ literal.toList := by
    rw [hliterals]
    decide
  have hdistinct : ((Arena.ofText casesText (some .json)).keyLiterals 1).Nodup := by
    rw [hliterals]
    decide
  obtain ⟨item, ops, docs, hitem, hops, hdocs, hagree⟩ :=
    operations_agree_with_tree hdecode hclean hobject hplain hdistinct
  rw [hdocs] at hleft
  exact ⟨_, hdecode, hclean, hobject, hplain, hdistinct, hverbs, item, ops, docs, hitem, hops,
    hdocs, hagree, Except.ok.inj hleft⟩

end OpenApi
