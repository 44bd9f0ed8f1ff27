/-
Where the nodes of a text's tree start.

A grammar gives each node a place to start at, and for every text that is checked this is a place of
the text (`starts_ofText`). In a YAML tree the places are looked up by offsets in the list of all
places of the text, and a node that spans others starts where the first of them does; so the nodes
start at places of the text whatever the tokens are (`starts_yamlTree`). In a JSON tree the places
are stepped through while the tree grows. There the invariant is that what stands behind a place is
what is still to be grown, and it needs a text that was read strictly (`starts_jsonTree`).
-/
import OpenApi.Proofs.Json.Agreement
import OpenApi.Proofs.Tree.Positions
import OpenApi.Tree.OfText

set_option autoImplicit false

namespace OpenApi.Tree

/-! ## Places of a text -/

namespace Place

open OpenApi.Text (encode lineFeed)

/-- The place behind characters is told by their encoding alone. -/
theorem past_start (cs : List Char) :
    start.past cs = ⟨(encode cs).length, (encode cs).count lineFeed,
      ((encode cs).reverse.takeWhile (· != lineFeed)).length⟩ := by
  induction cs using List.reverseRecOn with
  | nil => rfl
  | append_singleton cs c ih =>
    have hlast : encode [c] = String.utf8EncodeChar c := by
      rw [Text.encode_cons]
      exact List.append_nil _
    rw [past_append, past_cons, past_nil, ih, Text.encode_append, hlast, List.length_append,
      List.count_append, List.reverse_append, String.length_utf8EncodeChar, step]
    by_cases hc : c = '\n'
    · subst hc
      rw [if_pos rfl]
      congr 1
    · have hnone : ∀ b ∈ (String.utf8EncodeChar c).reverse, (b != lineFeed) = true :=
        fun b hb => bne_iff_ne.mpr (Text.ne_lineFeed_of_mem hc (List.mem_reverse.mp hb))
      have hcount : (String.utf8EncodeChar c).count lineFeed = 0 :=
        List.count_eq_zero.mpr fun h => Text.ne_lineFeed_of_mem hc h rfl
      rw [if_neg hc, hcount, List.takeWhile_append_of_pos hnone, List.length_append,
        List.length_reverse, String.length_utf8EncodeChar, Nat.add_comm c.utf8Size, Nat.add_zero]

/-- A place that was stepped to: other characters of the text come after it. -/
def Precedes (text : List Char) (p : Place) (rest : List Char) : Prop :=
  ∃ pre, text = pre ++ rest ∧ p = start.past pre

variable {text cs rest : List Char} {p : Place}

theorem precedes_start (text : List Char) : start.Precedes text text := ⟨[], rfl, rfl⟩

theorem Precedes.past (h : p.Precedes text (cs ++ rest)) : (p.past cs).Precedes text rest := by
  obtain ⟨pre, rfl, rfl⟩ := h
  exact ⟨pre ++ cs, (List.append_assoc _ _ _).symm, (past_append _ _ _).symm⟩

theorem Precedes.step {c : Char} (h : p.Precedes text (c :: rest)) :
    (p.step c).Precedes text rest :=
  @Precedes.past text [c] rest p h

/-- A place that was stepped to is a place of the text. -/
theorem Precedes.isIn {text : String} (h : p.Precedes text.toList rest) : p.IsIn text := by
  obtain ⟨pre, htext, rfl⟩ := h
  have hbytes : Text.bytes text = encode pre ++ encode rest := by
    rw [Text.bytes_eq_encode, htext, Text.encode_append]
  rw [past_start]
  refine ⟨?_, ?_, ?_⟩
  · rw [hbytes, List.length_append]
    exact Nat.le_add_right _ _
  · rw [hbytes, List.take_left]
  · rw [hbytes, List.take_left]

end Place

/-! ## Starts -/

namespace Concrete

/-- A tree starts all its nodes at places with a property, and none of them was invented. -/
abbrev Starts (On : Place → Prop) (t : Concrete) : Prop :=
  t.Deep fun s => On s.start ∧ s.label.missing = false

variable {On : Place → Prop} {p q : Place} {kind : String} {children : List Concrete}

theorem starts_leaf (h : On p) : (leaf kind p q).Starts On :=
  .node ⟨h, rfl⟩ (List.forall_mem_nil _)

theorem starts_branch (h : On p) (hchildren : ∀ c ∈ children, c.Starts On) :
    (branch kind p q children).Starts On :=
  .node ⟨h, rfl⟩ hchildren

/-- A node that spans others starts where the first of them does. -/
theorem starts_spanning (h : On p) (hchildren : ∀ c ∈ children, c.Starts On) :
    (spanning kind p children).Starts On := by
  cases children with
  | nil => exact starts_branch h hchildren
  | cons c cs => exact starts_branch (hchildren c List.mem_cons_self).self.1 hchildren

theorem Starts.withField {t : Concrete} (h : t.Starts On) (field : Option String) :
    (t.withField field).Starts On := by
  cases t with
  | node label children => exact .node h.self h.inner

end Concrete

end OpenApi.Tree

/-! ## YAML -/

namespace OpenApi.Yaml

open OpenApi.Tree (Place Concrete)
open OpenApi.Tree.Concrete (Starts starts_leaf starts_branch starts_spanning)

section Reading

variable {On : Place → Prop} {src : Source} (hsrc : ∀ index, On (src.place index))

include hsrc

theorem starts_sourceLeaf (kind : String) (start stop : Nat) :
    (src.leaf kind start stop).Starts On :=
  starts_leaf (hsrc start)

theorem starts_leadingComments (ls : List Lexeme) :
    ∀ t ∈ (leadingComments src ls).1, t.Starts On := by
  induction ls with
  | nil => exact List.forall_mem_nil _
  | cons l ls ih =>
    cases l with
    | token t => exact List.forall_mem_nil _
    | comment start stop => exact List.forall_mem_cons.mpr ⟨starts_sourceLeaf hsrc _ _ _, ih⟩

theorem starts_propertyNodes (ls : List Lexeme) : ∀ t ∈ (propertyNodes src ls).1, t.Starts On := by
  induction ls with
  | nil => exact List.forall_mem_nil _
  | cons l ls ih =>
    cases l with
    | comment start stop => exact List.forall_mem_nil _
    | token t =>
      rw [propertyNodes]
      split
      · refine List.forall_mem_cons.mpr ⟨starts_spanning (hsrc _) ?_, ih⟩
        exact List.forall_mem_cons.mpr
          ⟨starts_sourceLeaf hsrc _ _ _,
            List.forall_mem_singleton.mpr (starts_sourceLeaf hsrc _ _ _)⟩
      · exact List.forall_mem_cons.mpr ⟨starts_sourceLeaf hsrc _ _ _, ih⟩
      · exact List.forall_mem_nil _

theorem starts_escapeNodes (double : Bool) (skip index : Nat) (cs : List Char) :
    ∀ t ∈ escapeNodes src double skip index cs, t.Starts On := by
  induction cs generalizing skip index with
  | nil => exact List.forall_mem_nil _
  | cons c cs ih =>
    cases skip with
    | succ skip => exact ih skip (index + 1)
    | zero =>
      rw [escapeNodes]
      refine List.forall_mem_append.mpr ⟨?_, ih _ _⟩
      intro t ht
      rw [List.mem_ite_nil_left, List.mem_singleton] at ht
      rw [ht.2]
      exact starts_sourceLeaf hsrc _ _ _

theorem starts_quotedNode (double : Bool) (t : Token) : (quotedNode src double t).Starts On := by
  refine starts_spanning (hsrc _) (List.forall_mem_cons.mpr ⟨starts_sourceLeaf hsrc _ _ _, ?_⟩)
  exact List.forall_mem_append.mpr ⟨starts_escapeNodes hsrc _ _ _ _,
    List.forall_mem_singleton.mpr (starts_sourceLeaf hsrc _ _ _)⟩

theorem starts_plainNode (t : Token) : (plainNode src t).Starts On :=
  starts_spanning (hsrc _) (List.forall_mem_singleton.mpr (starts_sourceLeaf hsrc _ _ _))

theorem starts_aliasNode (t : Token) : (aliasNode src t).Starts On :=
  starts_spanning (hsrc _) (List.forall_mem_cons.mpr
    ⟨starts_sourceLeaf hsrc _ _ _, List.forall_mem_singleton.mpr (starts_sourceLeaf hsrc _ _ _)⟩)

theorem starts_blockScalarNode (folded : Bool) (t : Token) (rest : List Lexeme) :
    (blockScalarNode src folded t rest).1.Starts On := by
  unfold blockScalarNode
  dsimp only
  split
  · split
    all_goals exact starts_branch (hsrc _) (by simp [starts_sourceLeaf hsrc])
  · exact starts_branch (hsrc _) (by simp [starts_sourceLeaf hsrc])

theorem starts_blockNode (kind : String) (start close : Nat) {children : List Concrete}
    (h : ∀ c ∈ children, c.Starts On) : (blockNode src kind start close children).Starts On := by
  have hspan : (Concrete.spanning kind (src.place start) children).Starts On :=
    starts_spanning (hsrc start) h
  unfold blockNode
  dsimp only
  split
  · exact starts_branch hspan.self.1 h
  · exact hspan

omit hsrc in
/-- What is read with a bound starts at the places of the source. -/
structure ReadsStarts (On : Place → Prop) (src : Source) (bound : Nat) : Prop where
  node : ∀ loose ls, ∀ r ∈ readNode src bound loose ls, r.1.Starts On
  content : ∀ loose field ls, ∀ t ∈ (readContent src bound loose field ls).1, t.Starts On
  entries : ∀ ls, ∀ t ∈ (readEntries src bound ls).1, t.Starts On
  pairs : ∀ ls, ∀ t ∈ (readPairs src bound ls).1, t.Starts On
  pair : ∀ kind loose ls, (readPair src bound kind loose ls).1.Starts On
  flow : ∀ bracket ls, ∀ t ∈ (readFlow src bound bracket ls).1, t.Starts On

theorem readsStarts_zero : ReadsStarts On src 0 where
  node := nofun
  content _ _ _ := List.forall_mem_nil _
  entries _ := List.forall_mem_nil _
  pairs _ := List.forall_mem_nil _
  pair _ _ _ := starts_spanning (hsrc _) (List.forall_mem_nil _)
  flow _ _ := List.forall_mem_nil _


section Step

variable {bound : Nat} (h : ReadsStarts On src bound)

include h

theorem ReadsStarts.node_step (hdefault : On default) (loose : Bool) (ls : List Lexeme) :
    ∀ r ∈ readNode src (bound + 1) loose ls, r.1.Starts On := by
  have hproperties := starts_propertyNodes hsrc ls
  rw [readNode]
  generalize propertyNodes src ls = read at hproperties ⊢
  obtain ⟨properties, behind⟩ := read
  have hcomments := starts_leadingComments hsrc behind
  dsimp only
  generalize leadingComments src behind = read at hcomments ⊢
  obtain ⟨comments, rest⟩ := read
  dsimp only at hproperties hcomments ⊢
  -- what a node is wrapped in starts where its first child does
  have hwrap {kind : String} {content : Concrete} (hcontent : content.Starts On) :
      (Concrete.spanning kind content.start
        (if properties.isEmpty then [content] else properties ++ comments ++ [content])).Starts
          On := by
    refine starts_spanning hcontent.self.1 ?_
    split
    · exact List.forall_mem_singleton.mpr hcontent
    · exact List.forall_mem_append.mpr ⟨List.forall_mem_append.mpr ⟨hproperties, hcomments⟩,
        List.forall_mem_singleton.mpr hcontent⟩
  have hbare : ∀ r ∈ (if properties.isEmpty then none
      else some (Concrete.spanning "flow_node" default properties, behind)), r.1.Starts On := by
    split
    · nofun
    · rintro r ⟨⟩
      exact starts_spanning hdefault hproperties
  split
  · nofun
  · split
    · split
      · rintro r ⟨⟩
        exact hwrap (starts_aliasNode hsrc _)
      · rintro r ⟨⟩
        exact hwrap (starts_plainNode hsrc _)
      · rintro r ⟨⟩
        exact hwrap (starts_quotedNode hsrc _ _)
      · rintro r ⟨⟩
        exact hwrap (starts_quotedNode hsrc _ _)
      · rintro r ⟨⟩
        exact hwrap (starts_blockScalarNode hsrc _ _ _)
      · rintro r ⟨⟩
        exact hwrap (starts_spanning (hsrc _)
          (List.forall_mem_cons.mpr ⟨starts_sourceLeaf hsrc _ _ _, h.flow _ _⟩))
      · rintro r ⟨⟩
        exact hwrap (starts_spanning (hsrc _)
          (List.forall_mem_cons.mpr ⟨starts_sourceLeaf hsrc _ _ _, h.flow _ _⟩))
      · rintro r ⟨⟩
        exact hwrap (starts_blockNode hsrc _ _ _ (h.entries _))
      · rintro r ⟨⟩
        exact hwrap (starts_blockNode hsrc _ _ _ (h.pairs _))
      · split
        · rintro r ⟨⟩
          exact hwrap (starts_blockNode hsrc _ _ _ (h.entries _))
        · exact hbare
      · exact hbare
    · exact hbare

theorem ReadsStarts.content_step (loose : Bool) (field : Option String) (ls : List Lexeme) :
    ∀ t ∈ (readContent src (bound + 1) loose field ls).1, t.Starts On := by
  have hcomments := starts_leadingComments hsrc ls
  rw [readContent]
  dsimp only
  split
  · rename_i node rest hnode
    exact List.forall_mem_append.mpr ⟨hcomments,
      List.forall_mem_singleton.mpr ((h.node _ _ _ hnode).withField field)⟩
  · exact List.forall_mem_nil _

theorem ReadsStarts.entries_step (ls : List Lexeme) :
    ∀ t ∈ (readEntries src (bound + 1) ls).1, t.Starts On := by
  have hcomments := starts_leadingComments hsrc ls
  rw [readEntries]
  dsimp only
  split
  · split
    · refine List.forall_mem_append.mpr ⟨hcomments, List.forall_mem_cons.mpr ⟨?_, h.entries _⟩⟩
      exact starts_spanning (hsrc _)
        (List.forall_mem_cons.mpr ⟨starts_sourceLeaf hsrc _ _ _, h.content _ _ _⟩)
    · exact hcomments
  · exact hcomments

theorem ReadsStarts.pairs_step (ls : List Lexeme) :
    ∀ t ∈ (readPairs src (bound + 1) ls).1, t.Starts On := by
  have hcomments := starts_leadingComments hsrc ls
  rw [readPairs]
  dsimp only
  split
  · split
    · exact List.forall_mem_append.mpr ⟨hcomments,
        List.forall_mem_cons.mpr ⟨h.pair _ _ _, h.pairs _⟩⟩
    · exact hcomments
  · exact hcomments

theorem ReadsStarts.pair_step (kind : String) (loose : Bool) (ls : List Lexeme) :
    (readPair src (bound + 1) kind loose ls).1.Starts On := by
  unfold readPair
  extract_lets place
  split
  · exact absurd ‹bound + 1 = 0› (Nat.succ_ne_zero _)
  rename_i same
  obtain rfl := Nat.succ.inj same
  split
  rename_i key rest hread
  -- The nodes of the key: a mark and what stands behind it, or none.
  have hkey : ∀ t ∈ key, t.Starts On := by
    split at hread
    · split at hread
      · obtain ⟨rfl, -⟩ := Prod.mk.inj hread
        refine List.forall_mem_append.mpr ⟨?_, h.content _ _ _⟩
        split
        · exact List.forall_mem_nil _
        · exact List.forall_mem_singleton.mpr (starts_sourceLeaf hsrc _ _ _)
      · obtain ⟨rfl, -⟩ := Prod.mk.inj hread
        exact List.forall_mem_nil _
    · obtain ⟨rfl, -⟩ := Prod.mk.inj hread
      exact List.forall_mem_nil _
  have hcomments := starts_leadingComments hsrc rest
  -- A pair without a value has the nodes of the key alone.
  have hbare : (Concrete.spanning kind place key).Starts On := starts_spanning (hsrc _) hkey
  dsimp only
  split
  · split
    · refine starts_spanning (hsrc _) (List.forall_mem_append.mpr
        ⟨List.forall_mem_append.mpr ⟨hkey, hcomments⟩, List.forall_mem_cons.mpr ⟨?_, ?_⟩⟩)
      · exact starts_sourceLeaf hsrc _ _ _
      · exact h.content _ _ _
    · exact hbare
  · exact hbare

theorem ReadsStarts.flow_step (bracket : String) (ls : List Lexeme) :
    ∀ t ∈ (readFlow src (bound + 1) bracket ls).1, t.Starts On := by
  have hcomments := starts_leadingComments hsrc ls
  have honward {node : Concrete} (hnode : node.Starts On) (rest : List Lexeme) :
      ∀ t ∈ (leadingComments src ls).1 ++ node :: (readFlow src bound bracket rest).1,
        t.Starts On :=
    List.forall_mem_append.mpr ⟨hcomments, List.forall_mem_cons.mpr ⟨hnode, h.flow _ _⟩⟩
  have hclosed (closing : Token) :
      ∀ t ∈ (leadingComments src ls).1 ++ [src.tokenLeaf bracket closing],
        t.Starts On :=
    List.forall_mem_append.mpr ⟨hcomments,
      List.forall_mem_singleton.mpr (starts_sourceLeaf hsrc _ _ _)⟩
  rw [readFlow]
  dsimp only
  -- The sequence ends at a bracket or where the tokens end, else it goes on behind an entry.
  split
  · split
    · exact hclosed _
    · exact hclosed _
    · exact honward (starts_sourceLeaf hsrc _ _ _) _
    · exact honward (h.pair _ _ _) _
    · exact honward (h.pair _ _ _) _
    · split
      · exact honward (h.node _ _ _ ‹_›) _
      · exact hcomments
  · exact hcomments

end Step

/-- **Whatever is read starts at places of the source**, by induction on the bound. -/
theorem readsStarts (hdefault : On default) (bound : Nat) : ReadsStarts On src bound := by
  induction bound with
  | zero => exact readsStarts_zero hsrc
  | succ bound ih =>
    exact
      { node := ih.node_step hsrc hdefault
        content := ih.content_step hsrc
        entries := ih.entries_step hsrc
        pairs := ih.pairs_step hsrc
        pair := ih.pair_step hsrc
        flow := ih.flow_step hsrc }

theorem starts_directiveNode (d : Directive) (t : Token) : (directiveNode src d t).Starts On := by
  have hnamed (kind : String) (words : List (Nat × Nat)) (part : Nat × Nat → Nat × Nat) :
      ∀ c ∈ words.map (fun w => src.leaf kind (part w).1 (part w).2), c.Starts On :=
    List.forall_mem_map.mpr fun _ _ => starts_sourceLeaf hsrc _ _ _
  refine starts_branch (hsrc _) ?_
  cases d with
  | version major minor => exact hnamed _ _ id
  | tag handle expansion =>
    dsimp only
    rw [← List.map_uncurry_zip_eq_zipWith]
    exact List.forall_mem_map.mpr fun _ _ => starts_sourceLeaf hsrc _ _ _
  | other name =>
    exact List.forall_mem_append.mpr ⟨hnamed _ _ fun w => (w.1 + 1, w.2), hnamed _ _ id⟩

theorem starts_readPreamble (bound : Nat) (ls : List Lexeme) :
    ∀ t ∈ (readPreamble src bound ls).1, t.Starts On := by
  induction bound generalizing ls with
  | zero => exact List.forall_mem_nil _
  | succ bound ih =>
    have hcomments := starts_leadingComments hsrc ls
    rw [readPreamble]
    dsimp only
    split
    · split
      · exact List.forall_mem_append.mpr ⟨hcomments,
          List.forall_mem_cons.mpr ⟨starts_directiveNode hsrc _ _, ih _⟩⟩
      · exact List.forall_mem_append.mpr ⟨hcomments,
          List.forall_mem_singleton.mpr (starts_sourceLeaf hsrc _ _ _)⟩
      · exact List.forall_mem_nil _
    · exact List.forall_mem_nil _

theorem starts_readDocument (hdefault : On default) (bound : Nat) (ls : List Lexeme) :
    (readDocument src bound ls).1.Starts On := by
  have hpreamble := starts_readPreamble hsrc ls.length ls
  have hcontent := (readsStarts hsrc hdefault bound).content
  have hbody (rest : List Lexeme) : ∀ t ∈ (readPreamble src ls.length ls).1
      ++ (readContent src bound false none rest).1, t.Starts On :=
    List.forall_mem_append.mpr ⟨hpreamble, hcontent _ _ _⟩
  unfold readDocument
  dsimp only
  split
  · split
    · exact starts_spanning (hsrc _) (List.forall_mem_append.mpr
        ⟨List.forall_mem_append.mpr ⟨hbody _, starts_leadingComments hsrc _⟩,
          List.forall_mem_singleton.mpr (starts_sourceLeaf hsrc _ _ _)⟩)
    · exact starts_spanning (hsrc _) (hbody _)
  · exact starts_spanning (hsrc _) (hbody _)

theorem starts_readDocuments (hdefault : On default) (bound : Nat) (ls : List Lexeme) :
    ∀ t ∈ readDocuments src bound ls, t.Starts On := by
  induction bound generalizing ls with
  | zero => exact List.forall_mem_nil _
  | succ bound ih =>
    have hcomments := starts_leadingComments hsrc ls
    rw [readDocuments]
    dsimp only
    split
    · split
      · exact List.forall_mem_append.mpr ⟨hcomments, ih _⟩
      · exact hcomments
      · exact List.forall_mem_append.mpr ⟨hcomments,
          List.forall_mem_cons.mpr ⟨starts_readDocument hsrc hdefault _ _, ih _⟩⟩
    · exact hcomments

end Reading

/-- The places of a text are those before and behind its characters. -/
theorem getElem?_go (text : List Char) (p : Place) (index : Nat) (q : Place)
    (h : (Place.all.go p text)[index]? = some q) : q = p.past (text.take index) := by
  induction text generalizing p index with
  | nil =>
    cases index with
    | zero => exact (Option.some.inj h).symm
    | succ index => cases h
  | cons c cs ih =>
    cases index with
    | zero => exact (Option.some.inj h).symm
    | succ index => exact ih (p.step c) index h

/-- What is looked up by an offset is a place of the text, even behind its end. -/
theorem isIn_place (text : String) (index : Nat) :
    ((Source.ofText text.toList).place index).IsIn text := by
  have hprecedes (n : Nat) : (Place.start.past (text.toList.take n)).IsIn text :=
    Place.Precedes.isIn ⟨_, (List.take_append_drop n text.toList).symm, rfl⟩
  rw [Source.place, Source.ofText, Array.getD_eq_getD_getElem?, List.getElem?_toArray]
  cases h : (Place.all text.toList)[index]? with
  | none => exact hprecedes 0
  | some q =>
    rw [Option.getD_some, getElem?_go _ _ _ _ h]
    exact hprecedes index

/-- **The nodes of a YAML tree start at places of the text.** -/
theorem starts_yamlTree [Host] (text : String) :
    (tree text.toList).Starts fun p => p.IsIn text := by
  have hsrc := isIn_place text
  have hstart : Place.start.IsIn text := (Place.precedes_start text.toList).isIn
  have hchildren := starts_readDocuments hsrc hstart
  unfold tree
  dsimp only
  split
  · exact starts_leaf hstart
  · refine starts_branch ?_ (hchildren _ _)
    -- the root starts with its first child
    cases hhead : (readDocuments (Source.ofText text.toList) _ _).head? with
    | none => exact hsrc _
    | some child => exact (hchildren _ _ child (List.mem_of_head? hhead)).self.1

end OpenApi.Yaml

/-! ## JSON -/

namespace OpenApi.Json

open OpenApi.Tree (Place Concrete)
open OpenApi.Tree.Concrete (Starts starts_leaf starts_branch starts_spanning)

section Growing

variable {text : List Char} {p : Place} {rest : List Char}

/-- Nodes that start at places of a text that were stepped to. -/
abbrev AllStart (text : List Char) (ts : List Concrete) : Prop :=
  ∀ t ∈ ts, t.Starts fun p => ∃ rest, p.Precedes text rest

theorem allStart_cons {t : Concrete} {ts : List Concrete}
    (ht : t.Starts fun p => ∃ rest, p.Precedes text rest) (hts : AllStart text ts) :
    AllStart text (t :: ts) :=
  List.forall_mem_cons.mpr ⟨ht, hts⟩

theorem allStart_append {ts us : List Concrete} (hts : AllStart text ts) (hus : AllStart text us) :
    AllStart text (ts ++ us) :=
  List.forall_mem_append.mpr ⟨hts, hus⟩

theorem allStart_token (kind : String) (hp : p.Precedes text rest) : AllStart text [token kind p] :=
  List.forall_mem_singleton.mpr (starts_leaf ⟨_, hp⟩)

theorem allStart_errorNode (hp : p.Precedes text rest) {children : List Concrete}
    (hchildren : AllStart text children) : AllStart text [errorNode p children] :=
  List.forall_mem_singleton.mpr (starts_spanning ⟨_, hp⟩ hchildren)

/-! ### Strings -/

theorem allStart_contentNode {run : Option Place} (hrun : ∀ q ∈ run, ∃ rest, q.Precedes text rest)
    (stop : Place) : AllStart text (contentNode run stop) := by
  cases run with
  | none => exact List.forall_mem_nil _
  | some start => exact List.forall_mem_singleton.mpr (starts_leaf (hrun start rfl))

theorem allStart_pieceNodes {run : Option Place} {pieces : List Piece}
    (hrun : ∀ q ∈ run, ∃ rest, q.Precedes text rest)
    (hp : p.Precedes text (pieces.flatMap Piece.text ++ rest)) :
    AllStart text (pieceNodes run p pieces).1 := by
  induction pieces generalizing run p with
  | nil => exact allStart_contentNode hrun p
  | cons piece pieces ih =>
    rw [List.flatMap_cons, List.append_assoc] at hp
    cases piece with
    | plain c =>
      refine ih ?_ hp.past
      rintro q ⟨⟩
      -- A run of plain characters starts where the first of them stands.
      cases run with
      | none => exact ⟨_, hp⟩
      | some start => exact hrun start rfl
    | short c =>
      exact allStart_append (allStart_contentNode hrun p)
        (allStart_cons (starts_leaf ⟨_, hp⟩) (ih nofun hp.past))
    | unicode a b c d =>
      have hbehind : (p.past ['\\', 'u']).Precedes text
          ([a, b, c, d] ++ (pieces.flatMap Piece.text ++ rest)) := Place.Precedes.past hp
      refine allStart_append (allStart_contentNode hrun p)
        (allStart_cons (starts_leaf ⟨_, hp⟩) (ih ?_ hbehind.past))
      rintro q ⟨⟩
      exact ⟨_, hbehind⟩

theorem starts_stringNode {pieces : List Piece} (hp : p.Precedes text (literal pieces ++ rest)) :
    (stringNode p pieces).Starts fun p => ∃ rest, p.Precedes text rest := by
  rw [literal_append] at hp
  have hinner := hp.step
  have hclose : (pieceNodes none (p.step '"') pieces).2.Precedes text ('"' :: rest) := by
    rw [pieceNodes_stop]
    exact hinner.past
  exact starts_branch ⟨_, hp⟩ (allStart_cons (starts_leaf ⟨_, hp⟩)
    (allStart_append (allStart_pieceNodes nofun hinner) (allStart_token _ hclose)))

/-! ### Items and members -/

/-- A number in front of a plus sign that the grammar does not know ends there, and what is left
spills over. -/
theorem allStart_numeral {n : Numeral} (hp : p.Precedes text (n.text ++ rest)) :
    AllStart text ((n.grow p).node :: (n.grow p).spill) := by
  unfold Numeral.grow
  dsimp only
  split
  · rename_i mark digits hexponent
    have htext : n.text ++ rest
        = { n with exponent := none : Numeral }.text ++ ([mark, '+'] ++ (digits ++ rest)) := by
      simp [Numeral.text, Exponent.text, hexponent]
    rw [htext] at hp
    exact allStart_cons (starts_leaf ⟨_, hp⟩) (allStart_errorNode hp.past
      (allStart_cons (starts_leaf ⟨_, hp.past⟩)
        (List.forall_mem_singleton.mpr (starts_leaf ⟨_, hp.past.past⟩))))
  · exact List.forall_mem_singleton.mpr (starts_leaf ⟨_, hp⟩)

theorem allStart_itemNodes {comma : List Concrete} (hcomma : AllStart text comma)
    (hp : p.Precedes text rest) (foreign : Bool) {value : Grown}
    (hvalue : AllStart text (value.node :: value.spill)) :
    AllStart text (itemNodes comma p foreign value) := by
  unfold itemNodes
  split
  · exact allStart_errorNode hp (allStart_append hcomma
      (List.forall_mem_singleton.mpr (List.forall_mem_cons.mp hvalue).1))
  · exact allStart_append hcomma hvalue

theorem allStart_memberNodes {comma : List Concrete} (hcomma : AllStart text comma)
    {key : List Piece} {before : Blank}
    (hp : p.Precedes text (literal key ++ (before ++ ':' :: rest))) (foreign : Bool)
    {value : Grown} (hvalue : AllStart text (value.node :: value.spill)) :
    AllStart text (memberNodes comma p key before foreign value) := by
  obtain ⟨hnode, hspill⟩ := List.forall_mem_cons.mp hvalue
  have hkey := starts_stringNode hp
  have hcolon : ((stringNode p key).stop.past before).Precedes text (':' :: rest) := by
    rw [stringNode_stop]
    exact hp.past.past
  unfold memberNodes
  dsimp only
  split
  · exact allStart_errorNode hp (allStart_append hcomma (allStart_cons hkey
      (allStart_cons (starts_leaf ⟨_, hcolon⟩) (List.forall_mem_singleton.mpr hnode))))
  · refine allStart_append hcomma (allStart_cons (starts_branch ⟨_, hp⟩ ?_) hspill)
    exact allStart_cons (hkey.withField _) (allStart_cons (starts_leaf ⟨_, hcolon⟩)
      (List.forall_mem_singleton.mpr (hnode.withField _)))

theorem allStart_placeComma (comma : List Concrete) {nodes : List Concrete}
    (hnodes : AllStart text nodes)
    (hp : p.Precedes text rest) (foreign : Bool) :
    AllStart text (placeComma nodes comma foreign p).1
      ∧ AllStart text (placeComma nodes comma foreign p).2 := by
  unfold placeComma
  split
  · -- what was under the error at the front is put under a new one
    have hinner : AllStart text (nodes.flatMap Concrete.children) := by
      intro t ht
      obtain ⟨node, hnode, hchild⟩ := List.mem_flatMap.mp ht
      exact (hnodes node hnode).inner t hchild
    exact ⟨allStart_errorNode hp (allStart_append hinner (allStart_token _ hp)),
      List.forall_mem_nil _⟩
  · exact ⟨hnodes, allStart_token _ hp⟩

/-- A comma that waits in vain. -/
theorem allStart_stop {comma : List Concrete} (hcomma : AllStart text comma)
    (hp : p.Precedes text rest) :
    AllStart text (if comma.isEmpty then [] else [errorNode p comma]) := by
  split
  · exact List.forall_mem_nil _
  · exact allStart_errorNode hp hcomma

/-! ### Values -/

mutual

/-- **The nodes of a value start at places that were stepped to**, if the text of the value is what
stands behind the place where it grows. -/
theorem allStart_grow : (v : Lossless) → ∀ {p : Place} {rest : List Char},
    p.Precedes text (v.text ++ rest) → AllStart text ((v.grow p).node :: (v.grow p).spill)
  | .word w, p, rest, hp => List.forall_mem_singleton.mpr (starts_leaf ⟨_, hp⟩)
  | .number n, p, rest, hp => allStart_numeral hp
  | .string pieces, p, rest, hp => List.forall_mem_singleton.mpr (starts_stringNode hp)
  | .array pad items, p, rest, hp => by
    rw [Lossless.text_array_append] at hp
    have hinner := hp.step.past
    have hclose : (items.grow [] ((p.step '[').past pad)).2.Precedes text (']' :: rest) := by
      rw [growItems_stop]
      exact hinner.past
    exact List.forall_mem_singleton.mpr (starts_branch ⟨_, hp⟩
      (allStart_cons (starts_leaf ⟨_, hp⟩) (allStart_append
        (allStart_items items (List.forall_mem_nil _) hinner) (allStart_token _ hclose))))
  | .object pad members, p, rest, hp => by
    rw [Lossless.text_object_append] at hp
    have hinner := hp.step.past
    have hclose : (members.grow [] ((p.step '{').past pad)).2.Precedes text ('}' :: rest) := by
      rw [growMembers_stop]
      exact hinner.past
    exact List.forall_mem_singleton.mpr (starts_branch ⟨_, hp⟩
      (allStart_cons (starts_leaf ⟨_, hp⟩) (allStart_append
        (allStart_members members (List.forall_mem_nil _) hinner) (allStart_token _ hclose))))

theorem allStart_items : (items : Items) → ∀ {comma : List Concrete}, AllStart text comma →
    ∀ {p : Place} {rest : List Char}, p.Precedes text (items.text ++ rest) →
      AllStart text (items.grow comma p).1
  | .stop, comma, hcomma, p, rest, hp => allStart_stop hcomma hp
  | .last v after, comma, hcomma, p, rest, hp => by
    rw [Items.text_last_append] at hp
    exact allStart_itemNodes hcomma hp v.isForeign (allStart_grow v hp)
  | .item v after gap others, comma, hcomma, p, rest, hp => by
    rw [Items.text_item_append] at hp
    have hnodes := allStart_itemNodes hcomma hp v.isForeign (allStart_grow v hp)
    have hbehind : ((v.grow p).stop.past after).Precedes text
        (',' :: (gap ++ (others.text ++ rest))) := by
      rw [grow_stop]
      exact hp.past.past
    obtain ⟨hfront, hnext⟩ := allStart_placeComma comma hnodes hbehind v.isForeign
    rw [growItems_item]
    exact allStart_append hfront (allStart_items others hnext hbehind.step.past)

theorem allStart_members : (members : Members) → ∀ {comma : List Concrete}, AllStart text comma →
    ∀ {p : Place} {rest : List Char}, p.Precedes text (members.text ++ rest) →
      AllStart text (members.grow comma p).1
  | .stop, comma, hcomma, p, rest, hp => allStart_stop hcomma hp
  | .last key before lead v after, comma, hcomma, p, rest, hp => by
    rw [Members.text_last_append] at hp
    -- The value stands behind the key, the blanks and the colon.
    have hvalue : (valuePlace p key before lead).Precedes text (v.text ++ (after ++ rest)) := by
      rw [valuePlace_eq, Place.past_append, Place.past_append]
      exact hp.past.past.step.past
    exact allStart_memberNodes hcomma hp v.isForeign (allStart_grow v hvalue)
  | .member key before lead v after gap others, comma, hcomma, p, rest, hp => by
    rw [Members.text_member_append] at hp
    have hvalue : (valuePlace p key before lead).Precedes text
        (v.text ++ (after ++ ',' :: (gap ++ (others.text ++ rest)))) := by
      rw [valuePlace_eq, Place.past_append, Place.past_append]
      exact hp.past.past.step.past
    have hnodes := allStart_memberNodes hcomma hp v.isForeign (allStart_grow v hvalue)
    have hbehind : ((v.grow (valuePlace p key before lead)).stop.past after).Precedes text
        (',' :: (gap ++ (others.text ++ rest))) := by
      rw [grow_stop]
      exact hvalue.past.past
    obtain ⟨hfront, hnext⟩ := allStart_placeComma comma hnodes hbehind v.isForeign
    rw [growMembers_member]
    exact allStart_append hfront (allStart_members others hnext hbehind.step.past)

end

end Growing

/-- **The nodes of a JSON tree start at places of the text**, if the text was read strictly. -/
theorem starts_jsonTree {text : String} {depth : Nat} {lead after : Blank} {v : Lossless}
    (hread : readWithin depth text.toList = .ok (lead, v, after)) :
    (tree text.toList).Starts fun p => p.IsIn text := by
  obtain ⟨-, htext, -, -⟩ := readWithin_sound hread
  have hlead : (Place.start.past lead).Precedes text.toList (v.text ++ after) := ⟨lead, htext, rfl⟩
  have hgrown := allStart_grow v hlead
  rw [tree, sheet?, readWithin_length hread]
  refine starts_branch hlead.isIn fun t ht => ?_
  change t ∈ _ :: (_ ++ []) at ht
  rw [List.append_nil] at ht
  exact (hgrown t ht).imp fun s hs => ⟨hs.1.elim fun _ h => h.isIn, hs.2⟩

end OpenApi.Json

/-! ## Both formats -/

namespace OpenApi

open OpenApi.Tree (Arena Concrete Node)

/-- **Every node of the tree of a text that decodes starts at a place of the text**, and was not
invented. -/
theorem starts_ofText [Host] {text : String} {format : Format} {d : Document}
    (h : decode text (some format) = .ok d) :
    (Concrete.ofText format text.toList).Starts fun p => p.IsIn text := by
  cases format with
  | yaml => exact Yaml.starts_yamlTree text
  | json =>
    obtain ⟨v, hjson⟩ := exists_json_of_decode h
    obtain ⟨lead, value, after, hread⟩ := exists_read_of_decode hjson
    exact Json.starts_jsonTree hread

/-- A node whose place is a place of the text starts at the position of its offset. -/
theorem Tree.Concrete.Starts.start_eq {t : Concrete} {text : String} (format : Format)
    (ht : t.Starts fun p => p.IsIn text) :
    ∀ n ∈ (Arena.ofConcrete t text format).nodes, n.start = Text.positionAt text n.startOffset := by
  intro n hn
  rw [← Array.mem_toList_iff, Arena.toList_nodes_ofConcrete, List.mem_map] at hn
  obtain ⟨x, hx, rfl⟩ := hn
  have hstart := (Concrete.Deep.placed t ht x hx).1
  obtain ⟨hfrom, -, hfromOffset, -⟩ := x.node_extent (Tree.CharIndex.ofText text.toList) text
  rw [hfrom, hfromOffset]
  exact Tree.position_eq_positionAt hstart

/-- No node of the arena of such a tree was invented. -/
theorem Tree.Concrete.Starts.missing_eq_false {t : Concrete} {On : Tree.Place → Prop}
    (text : String)
    (format : Format) (ht : t.Starts On) :
    ∀ n ∈ (Arena.ofConcrete t text format).nodes, n.missing = false := by
  intro n hn
  rw [← Array.mem_toList_iff, Arena.toList_nodes_ofConcrete, List.mem_map] at hn
  obtain ⟨x, hx, rfl⟩ := hn
  obtain ⟨-, -, hmissing, -⟩ := x.node_label (Tree.CharIndex.ofText text.toList) text
  rw [hmissing]
  exact (Concrete.Deep.placed t ht x hx).2

end OpenApi
