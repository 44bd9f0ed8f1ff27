/-
YAML texts that hold nothing but blanks.

Not all blanks are space to YAML: some of them, such as the no-break space, make up a plain scalar.
But no blank is an indicator, so a blank text has no other tokens than such scalars and the ends of
the stream (`Scan.IsBare.fetch`, and from it `tokens_isBare` for the whole stream). Nodes that are
read from such tokens are scalars, and the value of a scalar is no container. So what a blank text
decodes to is never a mapping (`decode_blank`).
-/
import OpenApi.Document.Decode
import OpenApi.Proofs.Outcome

set_option autoImplicit false

namespace OpenApi.Yaml

/-! ## Moving over blanks -/

/-- A blank is none of the characters that are not. -/
theorem ne_of_isBlank {c d : Char} (hc : Text.isBlank c = true) (hd : Text.isBlank d = false) :
    c ≠ d := by
  rintro rfl
  rw [hc] at hd
  cases hd

namespace Cursor

/-- There are only blanks left. -/
def IsBlank (c : Cursor) : Prop := ∀ ch ∈ c.rest, Text.isBlank ch = true

variable {c : Cursor}

theorem IsBlank.next (h : c.IsBlank) : c.next = endChar ∨ Text.isBlank c.next = true := by
  rw [Cursor.next]
  cases hrest : c.rest with
  | nil => exact .inl rfl
  | cons ch rest =>
    right
    exact h ch (by rw [hrest]; exact List.mem_cons_self)

theorem IsBlank.step (h : c.IsBlank) : c.step.IsBlank := by
  rw [Cursor.step]
  cases hrest : c.rest with
  | nil => exact h
  | cons ch rest =>
    have hbehind : ∀ d ∈ rest, Text.isBlank d = true := fun d hd =>
      h d (by rw [hrest]; exact List.mem_cons_of_mem _ hd)
    simp only
    split
    · exact hbehind
    · split
      · exact hbehind
      · exact hbehind

theorem IsBlank.advance (h : c.IsBlank) (n : Nat) : (c.advance n).IsBlank := by
  induction n generalizing c with
  | zero => exact h
  | succ n ih => exact ih h.step

theorem IsBlank.lineBreak (h : c.IsBlank) : c.lineBreak.2.IsBlank := by
  rw [Cursor.lineBreak]
  split
  · exact h.advance 2
  · split
    · exact h.step
    · split
      · exact h.step
      · exact h
  · exact h

end Cursor

theorem isBlank_plainBreaks {bound : Nat} {breaks : List Char} {c : Cursor} (h : c.IsBlank) :
    (plainBreaks bound breaks c).2.2.IsBlank := by
  induction bound generalizing breaks c with
  | zero => exact h
  | succ bound ih =>
    rw [plainBreaks]
    split
    · exact ih h.step
    · split
      · simp only
        split
        · exact h.lineBreak
        · exact ih h.lineBreak
      · exact h

theorem isBlank_plainGap {c : Cursor} (h : c.IsBlank) : (plainGap c).cursor.IsBlank := by
  have hspaces := h.advance (c.run (· == ' ')).length
  rw [plainGap]
  simp only
  split
  · split
    · exact hspaces.lineBreak
    · split
      · exact isBlank_plainBreaks hspaces.lineBreak
      · exact isBlank_plainBreaks hspaces.lineBreak
  · exact hspaces

theorem isBlank_plainWords {flow : Bool} {indent bound : Nat} {text : List Char} {stop : Mark}
    {broke : Bool} {c : Cursor} (h : c.IsBlank) :
    (plainWords flow indent bound text stop broke c).cursor.IsBlank := by
  induction bound generalizing text stop broke c with
  | zero => exact h
  | succ bound ih =>
    rw [plainWords]
    simp only
    -- what the words are does not matter
    generalize (if (c.next == '#') = true then [] else plainRun flow c.rest) = word
    have hgap := isBlank_plainGap (h.advance word.length)
    generalize plainGap (c.advance word.length) = gap at hgap
    generalize (if (gap.cursor.next == '#') = true then [] else plainRun flow gap.cursor.rest)
      = more
    split
    · exact h
    · split
      · exact hgap
      · split
        · exact hgap
        · exact ih hgap

/-! ## Tokens -/

/-- A token of a blank text: an end of the stream, or a plain scalar. -/
inductive TokenKind.IsBare : TokenKind → Prop where
  | streamStart : IsBare .streamStart
  | streamEnd : IsBare .streamEnd
  | scalar (text : String) : IsBare (.scalar text .plain)

namespace Scan

/-- A state of reading a blank text: there are only blanks left, all tokens so far are those of
blanks, and nothing has been opened. -/
structure IsBare (s : Scan) : Prop where
  cursor : s.cursor.IsBlank
  tokens : ∀ t ∈ s.tokens, t.kind.IsBare
  flow : s.flow = 0
  indents : s.indents = []

variable {s s' : Scan}

theorem IsBare.push (h : s.IsBare) {t : Token} (ht : t.kind.IsBare) : (s.push t).IsBare where
  cursor := h.cursor
  tokens t' ht' := by
    rcases Array.mem_push.mp ht' with ht' | rfl
    · exact h.tokens t' ht'
    · exact ht
  flow := h.flow
  indents := h.indents

theorem IsBare.pushScalar (h : s.IsBare) {r : Scanned} (hr : r.cursor.IsBlank)
    (keyAllowed : Bool) : (s.pushScalar .plain r keyAllowed).IsBare :=
  have hmoved : ({ s with cursor := r.cursor, keyAllowed } : Scan).IsBare :=
    ⟨hr, h.tokens, h.flow, h.indents⟩
  hmoved.push (.scalar _)

theorem IsBare.dropStale (h : s.IsBare) (heq : s.dropStale = .ok s') : s'.IsBare := by
  rw [Scan.dropStale] at heq
  split at heq
  · cases heq
  · cases heq
    exact ⟨h.cursor, h.tokens, h.flow, h.indents⟩

theorem IsBare.removeKey (h : s.IsBare) (heq : s.removeKey = .ok s') : s'.IsBare := by
  rw [Scan.removeKey] at heq
  split at heq
  · split at heq
    · cases heq
    · cases heq
      exact ⟨h.cursor, h.tokens, h.flow, h.indents⟩
  · cases heq
    exact h

theorem IsBare.saveKey (h : s.IsBare) (heq : s.saveKey = .ok s') : s'.IsBare := by
  rw [Scan.saveKey] at heq
  split at heq
  · cases heq
    exact h
  · obtain ⟨removed, hremoved, heq⟩ := exists_of_bind_ok heq
    cases heq
    have hbare := h.removeKey hremoved
    exact ⟨hbare.cursor, hbare.tokens, hbare.flow, hbare.indents⟩

theorem IsBare.unwind (h : s.IsBare) (column : Int) : s.unwind column = s := by
  rw [Scan.unwind, h.indents]
  split
  · rfl
  · rfl

theorem IsBare.skipGap {bound : Nat} (h : s.IsBare) : (skipGap bound s).IsBare := by
  induction bound generalizing s with
  | zero => exact h
  | succ bound ih =>
    have hspaces : (s.cursor.skip (· == ' ')).IsBlank := h.cursor.advance _
    -- no comment starts at a blank
    have hcomment : ((s.cursor.skip (· == ' ')).next == '#') = false := by
      rcases hspaces.next with hend | hblank
      · rw [hend]
        decide
      · exact beq_eq_false_iff_ne.mpr (ne_of_isBlank hblank (by decide))
    rw [Scan.skipGap]
    simp only [hcomment, Bool.false_eq_true, if_false]
    split
    · exact ih ⟨hspaces.lineBreak, h.tokens, h.flow, h.indents⟩
    · exact ⟨hspaces, h.tokens, h.flow, h.indents⟩

theorem IsBare.toNextToken (h : s.IsBare) : s.toNextToken.IsBare := by
  rw [Scan.toNextToken]
  refine IsBare.skipGap ?_
  split
  · exact ⟨h.cursor.step, h.tokens, h.flow, h.indents⟩
  · exact h

theorem IsBare.fetchStreamEnd (h : s.IsBare) (heq : s.fetchStreamEnd = .ok s') : s'.IsBare := by
  rw [Scan.fetchStreamEnd, Scan.leaveBlocks, h.unwind] at heq
  obtain ⟨left, hleft, heq⟩ := exists_of_bind_ok heq
  obtain ⟨removed, hremoved, hleft⟩ := exists_of_bind_ok hleft
  cases hleft
  cases heq
  have hended : ∀ mark, TokenKind.IsBare (Token.kind ⟨.streamEnd, mark, mark⟩) :=
    fun _ => .streamEnd
  have hbare := (h.removeKey hremoved).push (hended removed.mark)
  exact ⟨hbare.cursor, hbare.tokens, hbare.flow, hbare.indents⟩

theorem IsBare.fetchPlain (h : s.IsBare) (heq : s.fetchPlain = .ok s') : s'.IsBare := by
  rw [Scan.fetchPlain] at heq
  obtain ⟨saved, hsaved, heq⟩ := exists_of_bind_ok heq
  cases heq
  have hbare := h.saveKey hsaved
  exact hbare.pushScalar (isBlank_plainWords hbare.cursor) _

/-- **A blank text gives only bare tokens.** -/
theorem IsBare.fetch [Host] (h : s.IsBare) (heq : s.fetch = .ok s') : s'.IsBare := by
  rw [Scan.fetch] at heq
  obtain ⟨fresh, hfresh, heq⟩ := exists_of_bind_ok heq
  have hbare := h.toNextToken.dropStale hfresh
  rw [hbare.unwind] at heq
  simp only at heq
  by_cases hend : fresh.cursor.atEnd = true
  · rw [if_pos hend] at heq
    exact hbare.fetchStreamEnd heq
  · rw [if_neg hend] at heq
    have hnext : Text.isBlank fresh.cursor.next = true := by
      have hne : fresh.cursor.rest ≠ [] := by simpa [Cursor.atEnd] using hend
      obtain ⟨ch, rest, hrest⟩ := List.exists_cons_of_ne_nil hne
      rw [Cursor.next, hrest]
      exact hbare.cursor ch (by rw [hrest]; exact List.mem_cons_self)
    -- none of the characters that start something else is blank
    have hother (d : Char) (hd : Text.isBlank d = false) : (fresh.cursor.next == d) = false :=
      beq_eq_false_iff_ne.mpr (ne_of_isBlank hnext hd)
    split at heq
    all_goals try exact absurd ‹_› (ne_of_isBlank hnext (by decide))
    simp only [hother '%' (by decide), hother '-' (by decide), hother '.' (by decide),
      hother '?' (by decide), hother ':' (by decide), hother '|' (by decide),
      hother '>' (by decide), Bool.false_and, Bool.false_eq_true, if_false] at heq
    split at heq
    · exact hbare.fetchPlain heq
    · cases heq

end Scan

theorem Scan.isBare_start {text : List Char} (h : ∀ c ∈ text, Text.isBlank c = true) :
    (Scan.start text).IsBare where
  cursor := h
  tokens t ht := by
    rw [Array.mem_singleton.mp ht]
    exact .streamStart
  flow := rfl
  indents := rfl

theorem Scan.IsBare.taken {s : Scan} (h : s.IsBare) (count : Nat) :
    ∀ t ∈ s.tokens.toList.take count, t.kind.IsBare :=
  fun t ht => h.tokens t (Array.mem_toList_iff.mp (List.mem_of_mem_take ht))

/-- If reading on gives only bare tokens, so does handing them out. -/
theorem Scan.IsBare.handOut {fetch : Scan → Except Error Scan}
    (hfetch : ∀ {s s' : Scan}, s.IsBare → fetch s = .ok s' → s'.IsBare) {bound count : Nat}
    {s : Scan} (h : s.IsBare) : ∀ t ∈ (handOut fetch bound count s).tokens, t.kind.IsBare := by
  induction bound generalizing count s with
  | zero => exact h.taken count
  | succ bound ih =>
    rw [Yaml.handOut]
    dsimp only
    by_cases hdone : s.done = true
    · rw [if_pos hdone]
      exact fun t ht => h.tokens t (Array.mem_toList_iff.mp ht)
    · rw [if_neg hdone]
      -- The cases are those of `handOut`: read on where no token waits or the next may still become
      -- a key, else hand one out.
      by_cases hsize : s.tokens.size ≤ count
      · rw [if_pos hsize]
        cases hnext : fetch s with
        | error e => exact h.taken count
        | ok next => exact ih (hfetch h hnext)
      · rw [if_neg hsize]
        cases hdrop : s.dropStale with
        | error e => exact h.taken count
        | ok fresh =>
          have hfresh := h.dropStale hdrop
          dsimp only
          by_cases hkey : (fresh.nextKey? == some count) = true
          · rw [if_pos hkey]
            cases hnext : fetch fresh with
            | error e => exact h.taken count
            | ok next => exact ih (hfetch hfresh hnext)
          · rw [if_neg hkey]
            exact ih hfresh

/-- All tokens of a blank text are bare. -/
theorem tokens_isBare [Host] {text : List Char} (h : ∀ c ∈ text, Text.isBlank c = true) :
    ∀ t ∈ (TokenStream.ofText text).tokens, t.kind.IsBare :=
  (Scan.isBare_start h).handOut Scan.IsBare.fetch

/-! ## Nodes -/

/-- What holds of all that a computation gives from a state, where it gives something at all. -/
def Gives {σ α : Type} (x : StateT σ (Except Error) α) (s : σ) (post : α → σ → Prop) : Prop :=
  ∀ a s', x.run s = .ok (a, s') → post a s'

section Gives

variable {σ α β : Type} {s : σ} {post : α → σ → Prop}

theorem gives_pure {a : α} (h : post a s) : Gives (pure a) s post := by
  intro b s' heq
  cases heq
  exact h

theorem gives_throw {e : Error} : Gives (throw e) s post := by
  intro a s' heq
  cases heq

theorem gives_true {x : StateT σ (Except Error) α} : Gives x s fun _ _ => True :=
  fun _ _ _ => trivial

theorem gives_get : Gives get s fun a s' => a = s ∧ s' = s := by
  intro a s' heq
  cases heq
  exact ⟨rfl, rfl⟩

theorem gives_modify {f : σ → σ} : Gives (modify f) s fun _ s' => s' = f s := by
  intro a s' heq
  cases heq
  rfl

theorem gives_bind {x : StateT σ (Except Error) β} {f : β → StateT σ (Except Error) α}
    {between : β → σ → Prop} (hx : Gives x s between)
    (hf : ∀ b s', between b s' → Gives (f b) s' post) : Gives (x >>= f) s post := by
  intro a s' heq
  rw [StateT.run_bind] at heq
  obtain ⟨⟨b, s''⟩, hb, ha⟩ := exists_of_bind_ok heq
  exact hf b s'' (hx b s'' hb) a s' ha

end Gives

namespace Compose

/-- All tokens that are left are bare. -/
def Bare (s : Composer) : Prop := ∀ t ∈ s.tokens, t.kind.IsBare

variable {s : Composer}

/-- The next token is bare, and looking at it changes nothing. -/
theorem gives_peek (h : Bare s) : Gives peek s fun t s' => t.kind.IsBare ∧ s' = s := by
  intro t s' heq
  obtain ⟨tokens, failure, nodes, anchors, handles⟩ := s
  cases tokens with
  | nil =>
    cases failure with
    | none => cases heq
    | some e => cases heq
  | cons first rest =>
    cases heq
    exact ⟨h t List.mem_cons_self, rfl⟩

/-- Taking a token leaves bare ones, and the nodes as they are. -/
theorem gives_take (h : Bare s) :
    Gives take s fun t s' => t.kind.IsBare ∧ Bare s' ∧ s'.nodes = s.nodes := by
  refine gives_bind (gives_peek h) ?_
  rintro t _ ⟨ht, rfl⟩ _ _ heq
  cases heq
  exact ⟨ht, fun t' ht' => h t' (List.mem_of_mem_drop ht'), rfl⟩

theorem gives_next {p : TokenKind → Bool} (hp : ∀ k : TokenKind, k.IsBare → p k = false)
    (h : Bare s) : Gives (next p) s fun found s' => found = false ∧ s' = s := by
  refine gives_bind (gives_peek h) ?_
  rintro t _ ⟨ht, rfl⟩
  exact gives_pure ⟨hp _ ht, rfl⟩

theorem gives_fail {α : Type} {context : Context} {start : Mark} {problem : TokenKind → Problem}
    {post : α → Composer → Prop} (h : Bare s) : Gives (fail context start problem) s post :=
  gives_bind (gives_peek h) fun _ _ _ => gives_throw

theorem gives_skipEnds (bound : Nat) (h : Bare s) :
    Gives (skipEnds bound) s fun _ s' => s' = s := by
  cases bound with
  | zero => exact gives_pure rfl
  | succ bound =>
    rw [skipEnds]
    refine gives_bind (gives_next ?_ h) ?_
    · rintro _ (_ | _ | _)
      all_goals rfl
    · rintro _ _ ⟨rfl, rfl⟩
      exact gives_pure rfl

theorem gives_directives (bound : Nat) (h : Bare s) :
    Gives (directives bound false []) s fun _ s' => s' = s := by
  cases bound with
  | zero => exact gives_pure rfl
  | succ bound =>
    rw [directives]
    refine gives_bind (gives_peek h) ?_
    rintro ⟨kind, start, stop⟩ _ ⟨_ | _ | _, rfl⟩
    all_goals exact gives_pure rfl

/-- A blank text has no documents that are marked as such. -/
theorem gives_documentStart (bound : Nat) (h : Bare s) :
    Gives (documentStart bound) s fun mark s' => mark = none ∧ s'.nodes = s.nodes := by
  refine gives_bind (gives_skipEnds bound h) ?_
  rintro _ _ rfl
  refine gives_bind (gives_peek h) ?_
  rintro t s' ⟨ht, rfl⟩
  by_cases hend : (t.kind == .streamEnd) = true
  · rw [if_pos hend]
    exact gives_pure ⟨rfl, rfl⟩
  · rw [if_neg hend]
    refine gives_bind (gives_directives bound h) ?_
    rintro declared _ rfl
    refine gives_bind gives_modify ?_
    rintro _ _ rfl
    refine gives_bind (gives_peek h) ?_
    rintro ⟨kind, start, stop⟩ _ ⟨_ | _ | _, rfl⟩
    all_goals exact gives_throw

theorem gives_properties (h : Bare s) :
    Gives properties s fun p s' => (p.anchor = none ∧ p.tag = none) ∧ s' = s := by
  refine gives_bind (gives_peek h) ?_
  rintro ⟨kind, start, stop⟩ _ ⟨_ | _ | _, rfl⟩
  all_goals exact gives_pure ⟨⟨rfl, rfl⟩, rfl⟩

/-- A node is a scalar that has no tag of its own. -/
theorem gives_node (bound room : Nat) (h : Bare s) :
    Gives (node bound room true false) s fun id s' => Bare s' ∧ id = s.nodes.size ∧
      ∃ text mark, s'.nodes = s.nodes.push ⟨resolveTag text, mark, .scalar text⟩ := by
  cases bound with
  | zero =>
    rw [node]
    exact gives_throw
  | succ bound =>
    rw [node]
    refine gives_bind (gives_peek h) ?_
    rintro ⟨kind, start, stop⟩ _ ⟨hkind, rfl⟩
    -- no bare token is an alias
    cases hkind
    all_goals
      refine gives_bind (gives_properties h) ?_
      rintro ⟨begin, anchor, tag⟩ _ ⟨⟨rfl, rfl⟩, rfl⟩
      refine gives_bind (gives_peek h) ?_
      rintro ⟨kind, start, stop⟩ _ ⟨_ | _ | text, rfl⟩
      · exact gives_fail h
      · exact gives_fail h
      · refine gives_bind (gives_take h) ?_
        rintro taken s' ⟨-, hbare, hnodes⟩ id s'' heq
        cases heq
        exact ⟨hbare, by rw [hnodes], text, begin, by rw [hnodes]; rfl⟩

/-- The only document of a blank text has one node, a scalar. -/
theorem gives_single [Host] (bound : Nat) (h : Bare s) (hnodes : s.nodes = #[]) :
    Gives (single bound) s fun root? s' => ∀ root, root? = some root → root = 0 ∧
      ∃ text mark, s'.nodes = #[⟨resolveTag text, mark, .scalar text⟩] := by
  rw [single]
  refine gives_bind (gives_take h) ?_
  rintro _ s₁ ⟨-, h₁, hnodes₁⟩
  refine gives_bind (gives_peek h₁) ?_
  rintro ⟨kind, start, stop⟩ _ ⟨hkind, rfl⟩
  cases hkind
  case streamEnd =>
    refine gives_bind (gives_documentStart bound h₁) ?_
    rintro _ s₂ ⟨rfl, -⟩
    refine gives_pure ?_
    rintro _ ⟨⟩
  -- there is a document, and it is not marked
  all_goals
    refine gives_bind (gives_node bound _ h₁) ?_
    rintro root s₂ ⟨h₂, hroot, text, mark, hnodes₂⟩
    refine gives_bind (gives_next ?_ h₂) ?_
    · rintro _ (_ | _ | _)
      all_goals rfl
    · rintro _ _ ⟨rfl, rfl⟩
      refine gives_bind (gives_documentStart bound h₂) ?_
      rintro _ s₃ ⟨rfl, hnodes₃⟩
      refine gives_pure ?_
      rintro _ ⟨⟩
      rw [hnodes₁, hnodes] at hroot hnodes₂
      rw [hnodes₃]
      exact ⟨hroot, text, mark, hnodes₂⟩

end Compose

/-- The nodes of a blank text, if it holds a document. -/
theorem NodeGraph.of_bare [Host] {stream : TokenStream} {g : NodeGraph}
    (htokens : ∀ t ∈ stream.tokens, t.kind.IsBare)
    (h : NodeGraph.ofTokens stream = .ok (some g)) :
    ∃ text mark, g = ⟨#[⟨resolveTag text, mark, .scalar text⟩], 0⟩ := by
  have hbare : Compose.Bare
      ⟨stream.tokens, stream.failure, #[], [], Compose.standardHandles⟩ := htokens
  rw [NodeGraph.ofTokens] at h
  split at h
  · cases h
  · cases h
  · rename_i root s hsingle
    cases h
    obtain ⟨rfl, text, mark, hnodes⟩ :=
      Compose.gives_single _ hbare rfl _ _ hsingle root rfl
    rw [hnodes]
    exact ⟨text, mark, rfl⟩

/-! ## Values -/

theorem filling?_resolveTag (text : String) : Construct.filling? (resolveTag text) = none := by
  rw [resolveTag]
  dsimp only
  repeat' split
  all_goals decide

theorem Construct.gives_nodeAt {s : Builder} {id : Nat} {n : Node} (h : s.nodes[id]? = some n) :
    Gives (Construct.nodeAt id) s fun n' s' => n' = n ∧ s' = s := by
  refine gives_bind gives_get ?_
  rintro _ _ ⟨rfl, rfl⟩
  rw [h]
  exact gives_pure ⟨rfl, rfl⟩

/-- The value of a node that is tagged by its spelling is no container. -/
theorem Construct.gives_value [Host] {s : Builder} {id : Nat} {text : String} {n : Node}
    (hnode : s.nodes[id]? = some n) (htag : n.tag = resolveTag text)
    (hvalue : s.values[id]? = some none) :
    Gives (Construct.value id) s fun v _ => ∃ scalar, v = .scalar scalar := by
  rw [Construct.value]
  refine gives_bind gives_get ?_
  rintro _ _ ⟨rfl, rfl⟩
  rw [hvalue]
  refine gives_bind (gives_nodeAt hnode) ?_
  rintro _ _ ⟨rfl, rfl⟩
  refine gives_bind gives_true fun found s' _ => ?_
  intro v s'' heq
  cases found with
  | some scalar =>
    cases heq
    exact ⟨scalar, rfl⟩
  | none =>
    rw [htag, filling?_resolveTag] at heq
    cases heq

theorem Construct.gives_top [Host] {s : Builder} {id : Nat} {text : String} {n : Node}
    (hnode : s.nodes[id]? = some n) (htag : n.tag = resolveTag text)
    (hvalue : s.values[id]? = some none) :
    Gives (Construct.top id) s fun v _ => ∃ scalar, v = .scalar scalar := by
  rw [Construct.top]
  refine gives_bind (Construct.gives_value hnode htag hvalue) ?_
  rintro v s' hv
  refine gives_bind gives_get ?_
  rintro _ _ ⟨rfl, rfl⟩
  exact gives_bind gives_true fun _ _ _ => gives_pure hv

theorem NodeGraph.document_scalar [Host] {text : String} {mark : Mark} {d : Document}
    (h : NodeGraph.document ⟨#[⟨resolveTag text, mark, .scalar text⟩], 0⟩ = .ok d) :
    ∃ scalar, d.root = .scalar scalar := by
  rw [NodeGraph.document] at h
  dsimp only at h
  split at h
  · cases h
  · rename_i v s htop
    cases h
    exact Construct.gives_top rfl rfl rfl v s htop

/-- **What a blank text decodes to is no container.** -/
theorem decode_blank [Host] {text : String} {d : Document} (hblank : Text.isAllBlank text = true)
    (h : decode text = .ok d) : ∃ scalar, d.root = .scalar scalar := by
  have htokens := tokens_isBare (List.all_eq_true.mp hblank)
  generalize hstream : TokenStream.ofText text.toList = stream at htokens
  rw [decode] at h
  dsimp only at h
  split at h
  · cases h
  · obtain ⟨graph?, hgraph, h⟩ := exists_of_bind_ok h
    rw [hstream] at hgraph
    cases graph? with
    | none =>
      cases h
      exact ⟨.null, rfl⟩
    | some g =>
      obtain ⟨written, mark, rfl⟩ := NodeGraph.of_bare htokens hgraph
      exact NodeGraph.document_scalar h

end OpenApi.Yaml
