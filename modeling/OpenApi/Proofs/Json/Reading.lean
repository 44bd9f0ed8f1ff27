/-
Values of JSON texts: a strict reading and the lossless tree it gives determine each other.

`Lossless.IsValid` says which trees a strict reading can give, with room for a number of brackets
below each other. Such a reading takes exactly the text of the tree off the front
(`readValue_sound`), and every valid tree is read back from its text, wherever that text stands, as
long as what follows does not carry a numeral on (`readValue_complete`). Both go along the tree.
The readers are unfolded once each, in `readValue_cases`, `readItems_cases` and
`readMembers_cases` for what a reading has done, and in the lemmas behind them for what it will do.

It follows that the text of every valid tree decodes to the value of the tree (`decode_text`), so
the value of a part of a text can be had from that part alone. How many brackets the host allows
does not matter for this, and with as much room as the text is long nothing is refused for its
nesting that was read with less (`readWithin_length`).
-/
import OpenApi.Json.Value
import OpenApi.Proofs.Json.Token

set_option autoImplicit false

namespace OpenApi.Json

/-! ## Valid trees -/

mutual

/-- A tree that a strict reading can give, with `depth` brackets below each other at most. -/
def Lossless.IsValid : Lossless → (depth : Nat) → Prop
  | .word _, _ => True
  | .number n, _ => n.IsValid ∧ (n.isInteger = true → n.whole.length ≤ Decimal.digitLimit)
  | .string pieces, _ => ∀ piece ∈ pieces, piece.IsValid
  | .array pad items, depth => 0 < depth ∧ IsBlanks pad ∧ items.IsValid (depth - 1)
  | .object pad members, depth => 0 < depth ∧ IsBlanks pad ∧ members.IsValid (depth - 1)

/-- Items that a strict reading can give: there is another one behind each comma. -/
def Items.IsValid : Items → (depth : Nat) → Prop
  | .stop, _ => True
  | .last value after, depth => value.IsValid depth ∧ IsBlanks after
  | .item value after gap rest, depth =>
    value.IsValid depth ∧ IsBlanks after ∧ IsBlanks gap ∧ rest ≠ .stop ∧ rest.IsValid depth

/-- Members that a strict reading can give: there is another one behind each comma. -/
def Members.IsValid : Members → (depth : Nat) → Prop
  | .stop, _ => True
  | .last key before lead value after, depth =>
    (∀ piece ∈ key, piece.IsValid) ∧ IsBlanks before ∧ IsBlanks lead ∧ value.IsValid depth
      ∧ IsBlanks after
  | .member key before lead value after gap rest, depth =>
    (∀ piece ∈ key, piece.IsValid) ∧ IsBlanks before ∧ IsBlanks lead ∧ value.IsValid depth
      ∧ IsBlanks after ∧ IsBlanks gap ∧ rest ≠ .stop ∧ rest.IsValid depth

end

mutual

/-- More room does no harm. -/
theorem Lossless.IsValid.mono : {v : Lossless} → ∀ {d d' : Nat}, v.IsValid d → d ≤ d' →
    v.IsValid d'
  | .word _, _, _, _, _ => trivial
  | .number _, _, _, h, _ => h
  | .string _, _, _, h, _ => h
  | .array _ _, _, _, ⟨hpos, hpad, hitems⟩, hle =>
    ⟨Nat.lt_of_lt_of_le hpos hle, hpad, hitems.mono (Nat.sub_le_sub_right hle 1)⟩
  | .object _ _, _, _, ⟨hpos, hpad, hmembers⟩, hle =>
    ⟨Nat.lt_of_lt_of_le hpos hle, hpad, hmembers.mono (Nat.sub_le_sub_right hle 1)⟩

/-- More room does no harm to items. -/
theorem Items.IsValid.mono : {items : Items} → ∀ {d d' : Nat}, items.IsValid d → d ≤ d' →
    items.IsValid d'
  | .stop, _, _, _, _ => trivial
  | .last _ _, _, _, ⟨hv, hafter⟩, hle => ⟨hv.mono hle, hafter⟩
  | .item _ _ _ _, _, _, ⟨hv, hafter, hgap, hstop, hrest⟩, hle =>
    ⟨hv.mono hle, hafter, hgap, hstop, hrest.mono hle⟩

/-- More room does no harm to members. -/
theorem Members.IsValid.mono : {members : Members} → ∀ {d d' : Nat}, members.IsValid d →
    d ≤ d' → members.IsValid d'
  | .stop, _, _, _, _ => trivial
  | .last _ _ _ _ _, _, _, ⟨hkey, hbefore, hlead, hv, hafter⟩, hle =>
    ⟨hkey, hbefore, hlead, hv.mono hle, hafter⟩
  | .member _ _ _ _ _ _ _, _, _, ⟨hkey, hbefore, hlead, hv, hafter, hgap, hstop, hrest⟩, hle =>
    ⟨hkey, hbefore, hlead, hv.mono hle, hafter, hgap, hstop, hrest.mono hle⟩

end

/-! ## Texts, from the front on -/

section Texts

variable (pad before lead after gap : Blank) (key : List Piece) (value : Lossless) (t : List Char)

/-- A literal starts with its quote. -/
theorem literal_append :
    literal key ++ t = '"' :: (key.flatMap Piece.text ++ '"' :: t) := by
  simp [literal]

/-- An array starts with its bracket, and what follows it stands behind the other one. -/
theorem Lossless.text_array_append (items : Items) :
    (Lossless.array pad items).text ++ t = '[' :: (pad ++ (items.text ++ ']' :: t)) := by
  simp [Lossless.text]

/-- An object starts with its brace, and what follows it stands behind the other one. -/
theorem Lossless.text_object_append (members : Members) :
    (Lossless.object pad members).text ++ t = '{' :: (pad ++ (members.text ++ '}' :: t)) := by
  simp [Lossless.text]

/-- The last item and the blank behind it come first. -/
theorem Items.text_last_append :
    (Items.last value after).text ++ t = value.text ++ (after ++ t) := by
  simp [Items.text]

/-- An item comes first, then the comma and the others. -/
theorem Items.text_item_append (rest : Items) :
    (Items.item value after gap rest).text ++ t
      = value.text ++ (after ++ ',' :: (gap ++ (rest.text ++ t))) := by
  simp [Items.text]

/-- The key comes first, then the colon and the value. -/
theorem Members.text_last_append :
    (Members.last key before lead value after).text ++ t
      = literal key ++ (before ++ ':' :: (lead ++ (value.text ++ (after ++ t)))) := by
  simp [Members.text]

/-- The key comes first, then the colon, the value, the comma and the other members. -/
theorem Members.text_member_append (rest : Members) :
    (Members.member key before lead value after gap rest).text ++ t
      = literal key ++ (before ++ ':' :: (lead ++ (value.text ++ (after ++ ',' :: (gap
          ++ (rest.text ++ t)))))) := by
  simp [Members.text]

end Texts

/-! ## What a reading has done -/

/-- What a strict reading of a value can give. -/
theorem readValue_cases {depth : Nat} {s rest : List Char} {v : Lossless}
    (h : Gives (readValue false depth s) v rest) :
    (∃ s' pieces, s = '"' :: s' ∧ v = .string pieces
        ∧ Gives (readPieces (s'.length + 1) s') pieces rest)
      ∨ (∃ d s' members, depth = d + 1 ∧ s = '{' :: s' ∧ v = .object (blanks s') members
        ∧ (afterBlanks s' = '}' :: rest ∧ members = .stop
          ∨ Gives (readMembers false d (afterBlanks s')) members rest))
      ∨ (∃ d s' items, depth = d + 1 ∧ s = '[' :: s' ∧ v = .array (blanks s') items
        ∧ (afterBlanks s' = ']' :: rest ∧ items = .stop
          ∨ Gives (readItems false d (afterBlanks s')) items rest))
      ∨ (∃ w shorter, v = .word w ∧ readWord? s = some ⟨w, rest, shorter⟩)
      ∨ ∃ n shorter, v = .number n ∧ readNumeral? s = some ⟨n, rest, shorter⟩
        ∧ (n.isInteger = true → n.whole.length ≤ Decimal.digitLimit) := by
  obtain ⟨shorter, h⟩ := h
  unfold readValue at h
  -- One case for each character a value can start with. A reading that fails has nothing to show.
  split at h
  · cases h
  · rename_i s
    split at h
    · cases h
    · rename_i hpieces
      cases h
      exact .inl ⟨s, _, rfl, rfl, _, hpieces⟩
  · rename_i s
    split at h
    · cases h
    · rename_i d
      -- The room for brackets shrinks by one, and the object is empty or holds members.
      refine .inr (.inl ⟨d, s, ?_⟩)
      simp only at h
      split at h
      · rename_i hclose
        cases h
        exact ⟨_, rfl, rfl, rfl, .inl ⟨hclose, rfl⟩⟩
      · split at h
        · cases h
        · rename_i hmembers
          cases h
          exact ⟨_, rfl, rfl, rfl, .inr ⟨_, hmembers⟩⟩
  · rename_i s
    split at h
    · cases h
    · rename_i d
      refine .inr (.inr (.inl ⟨d, s, ?_⟩))
      simp only at h
      split at h
      · rename_i hclose
        cases h
        exact ⟨_, rfl, rfl, rfl, .inl ⟨hclose, rfl⟩⟩
      · split at h
        · cases h
        · rename_i hitems
          cases h
          exact ⟨_, rfl, rfl, rfl, .inr ⟨_, hitems⟩⟩
  · split at h
    · rename_i hword
      cases h
      exact .inr (.inr (.inr (.inl ⟨_, _, rfl, hword⟩)))
    · split at h
      · rename_i hnumeral
        split at h
        · cases h
        · rename_i hlong
          cases h
          refine .inr (.inr (.inr (.inr ⟨_, _, rfl, hnumeral, ?_⟩)))
          intro hinteger
          simpa [hinteger] using hlong
      · cases h

/-- A strict reading of items gives a value, and behind it the end or a comma and more items. -/
theorem readItems_cases {depth : Nat} {s rest : List Char} {items : Items}
    (h : Gives (readItems false depth s) items rest) :
    ∃ v mid, Gives (readValue false depth s) v mid
      ∧ (afterBlanks mid = ']' :: rest ∧ items = .last v (blanks mid)
        ∨ ∃ next more, afterBlanks mid = ',' :: next
          ∧ Gives (readItems false depth (afterBlanks next)) more rest
          ∧ items = .item v (blanks mid) (blanks next) more) := by
  obtain ⟨shorter, h⟩ := h
  unfold readItems at h
  split at h
  · cases h
  · rename_i v mid hshorter hvalue
    refine ⟨v, mid, ⟨_, hvalue⟩, ?_⟩
    simp only at h
    split at h
    · rename_i hclose
      cases h
      exact .inl ⟨hclose, rfl⟩
    · rename_i next hcomma
      split at h
      · -- Only a lenient reading lets a comma stand last.
        rename_i hlenient
        cases hlenient
      · split at h
        · cases h
        · rename_i hmore
          cases h
          exact .inr ⟨next, _, hcomma, ⟨_, hmore⟩, rfl⟩
    · cases h

/-- A strict reading of members gives a key, a colon, a value, and behind it the end or a comma and
more members. -/
theorem readMembers_cases {depth : Nat} {s rest : List Char} {members : Members}
    (h : Gives (readMembers false depth s) members rest) :
    ∃ s' key afterKey next v mid, s = '"' :: s'
      ∧ Gives (readPieces (s'.length + 1) s') key afterKey
      ∧ afterBlanks afterKey = ':' :: next
      ∧ Gives (readValue false depth (afterBlanks next)) v mid
      ∧ (afterBlanks mid = '}' :: rest
          ∧ members = .last key (blanks afterKey) (blanks next) v (blanks mid)
        ∨ ∃ others more, afterBlanks mid = ',' :: others
          ∧ Gives (readMembers false depth (afterBlanks others)) more rest
          ∧ members = .member key (blanks afterKey) (blanks next) v (blanks mid) (blanks others)
              more) := by
  obtain ⟨shorter, h⟩ := h
  unfold readMembers at h
  split at h
  · rename_i s'
    split at h
    · cases h
    · rename_i key afterKey _ hkey
      simp only at h
      split at h
      · rename_i next hcolon
        split at h
        · cases h
        · rename_i v mid _ hvalue
          refine ⟨s', key, afterKey, next, v, mid, rfl, ⟨_, hkey⟩, hcolon, ⟨_, hvalue⟩, ?_⟩
          split at h
          · rename_i hclose
            cases h
            exact .inl ⟨hclose, rfl⟩
          · rename_i others hcomma
            split at h
            · -- Only a lenient reading lets a comma stand last.
              rename_i hlenient
              cases hlenient
            · split at h
              · cases h
              · rename_i hmore
                cases h
                exact .inr ⟨others, _, hcomma, ⟨_, hmore⟩, rfl⟩
          · cases h
      · cases h
  · cases h

/-- Items are only read where there is one. -/
theorem readItems_ne_stop {depth : Nat} {s rest : List Char} {items : Items}
    (h : Gives (readItems false depth s) items rest) : items ≠ .stop := by
  rintro rfl
  obtain ⟨v, mid, -, ⟨-, heq⟩ | ⟨next, more, -, -, heq⟩⟩ := readItems_cases h <;> cases heq

/-- Members are only read where there is one. -/
theorem readMembers_ne_stop {depth : Nat} {s rest : List Char} {members : Members}
    (h : Gives (readMembers false depth s) members rest) : members ≠ .stop := by
  rintro rfl
  obtain ⟨s', key, afterKey, next, v, mid, -, -, -, -, ⟨-, heq⟩ | ⟨others, more, -, -, heq⟩⟩ :=
    readMembers_cases h <;> cases heq

-- The recursion is on what was read, whose parts are what the three readers call each other for.
mutual

/-- **What is read is valid and stood at the front.** -/
theorem readValue_sound : (v : Lossless) → ∀ {depth : Nat} {s rest : List Char},
    Gives (readValue false depth s) v rest → v.IsValid depth ∧ s = v.text ++ rest
  | .word w, depth, s, rest, h => by
    obtain ⟨_, _, _, heq, _⟩ | ⟨_, _, _, _, _, heq, _⟩ | ⟨_, _, _, _, _, heq, _⟩
      | ⟨w, _, heq, hread⟩ | ⟨_, _, heq, _⟩ := readValue_cases h <;> cases heq
    exact ⟨trivial, readWord?_sound hread⟩
  | .number n, depth, s, rest, h => by
    obtain ⟨_, _, _, heq, _⟩ | ⟨_, _, _, _, _, heq, _⟩ | ⟨_, _, _, _, _, heq, _⟩
      | ⟨_, _, heq, _⟩ | ⟨n, _, heq, hread, hshort⟩ := readValue_cases h <;> cases heq
    obtain ⟨hvalid, htext⟩ := readNumeral?_sound hread
    exact ⟨⟨hvalid, hshort⟩, htext⟩
  | .string pieces, depth, s, rest, h => by
    obtain ⟨s', pieces, rfl, heq, hread⟩ | ⟨_, _, _, _, _, heq, _⟩ | ⟨_, _, _, _, _, heq, _⟩
      | ⟨_, _, heq, _⟩ | ⟨_, _, heq, _⟩ := readValue_cases h <;> cases heq
    obtain ⟨hvalid, rfl⟩ := readPieces_sound hread
    exact ⟨hvalid, (literal_append pieces rest).symm⟩
  | .array pad items, depth, s, rest, h => by
    obtain ⟨_, _, _, heq, _⟩ | ⟨_, _, _, _, _, heq, _⟩ | ⟨d, s', items, rfl, rfl, heq, hitems⟩
      | ⟨_, _, heq, _⟩ | ⟨_, _, heq, _⟩ := readValue_cases h <;> cases heq
    have hread : items.IsValid d ∧ afterBlanks s' = items.text ++ ']' :: rest := by
      rcases hitems with ⟨hclose, rfl⟩ | hitems
      · exact ⟨trivial, hclose⟩
      · exact readItems_sound items hitems
    refine ⟨⟨Nat.succ_pos d, isBlanks_blanks s', hread.1⟩, ?_⟩
    rw [Lossless.text_array_append, ← hread.2, blanks_append_afterBlanks]
  | .object pad members, depth, s, rest, h => by
    obtain ⟨_, _, _, heq, _⟩ | ⟨d, s', members, rfl, rfl, heq, hmembers⟩ | ⟨_, _, _, _, _, heq, _⟩
      | ⟨_, _, heq, _⟩ | ⟨_, _, heq, _⟩ := readValue_cases h <;> cases heq
    have hread : members.IsValid d ∧ afterBlanks s' = members.text ++ '}' :: rest := by
      rcases hmembers with ⟨hclose, rfl⟩ | hmembers
      · exact ⟨trivial, hclose⟩
      · exact readMembers_sound members hmembers
    refine ⟨⟨Nat.succ_pos d, isBlanks_blanks s', hread.1⟩, ?_⟩
    rw [Lossless.text_object_append, ← hread.2, blanks_append_afterBlanks]

/-- **What is read as items stood in front of the bracket**, and is valid. -/
theorem readItems_sound : (items : Items) → ∀ {depth : Nat} {s rest : List Char},
    Gives (readItems false depth s) items rest →
      items.IsValid depth ∧ s = items.text ++ ']' :: rest
  | .stop, depth, s, rest, h => absurd rfl (readItems_ne_stop h)
  | .last v after, depth, s, rest, h => by
    obtain ⟨v, mid, hvalue, ⟨hclose, heq⟩ | ⟨next, more, hcomma, hmore, heq⟩⟩ :=
      readItems_cases h <;> cases heq
    obtain ⟨hv, rfl⟩ := readValue_sound v hvalue
    refine ⟨⟨hv, isBlanks_blanks mid⟩, ?_⟩
    rw [Items.text_last_append, ← hclose, blanks_append_afterBlanks]
  | .item v after gap more, depth, s, rest, h => by
    obtain ⟨v, mid, hvalue, ⟨hclose, heq⟩ | ⟨next, more, hcomma, hmore, heq⟩⟩ :=
      readItems_cases h <;> cases heq
    obtain ⟨hv, rfl⟩ := readValue_sound v hvalue
    obtain ⟨hvalid, htext⟩ := readItems_sound more hmore
    refine ⟨⟨hv, isBlanks_blanks mid, isBlanks_blanks next, readItems_ne_stop hmore, hvalid⟩, ?_⟩
    rw [Items.text_item_append, ← htext, blanks_append_afterBlanks, ← hcomma,
      blanks_append_afterBlanks]

/-- **What is read as members stood in front of the brace**, and is valid. -/
theorem readMembers_sound : (members : Members) → ∀ {depth : Nat} {s rest : List Char},
    Gives (readMembers false depth s) members rest →
      members.IsValid depth ∧ s = members.text ++ '}' :: rest
  | .stop, depth, s, rest, h => absurd rfl (readMembers_ne_stop h)
  | .last key before lead v after, depth, s, rest, h => by
    obtain ⟨s', key, afterKey, next, v, mid, rfl, hkey, hcolon, hvalue,
      ⟨hclose, heq⟩ | ⟨others, more, hcomma, hmore, heq⟩⟩ := readMembers_cases h <;> cases heq
    obtain ⟨hpieces, rfl⟩ := readPieces_sound hkey
    obtain ⟨hv, hnext⟩ := readValue_sound v hvalue
    refine ⟨⟨hpieces, isBlanks_blanks afterKey, isBlanks_blanks next, hv, isBlanks_blanks mid⟩, ?_⟩
    rw [Members.text_last_append, ← hclose, blanks_append_afterBlanks, ← hnext,
      blanks_append_afterBlanks, ← hcolon, blanks_append_afterBlanks, literal_append]
  | .member key before lead v after gap more, depth, s, rest, h => by
    obtain ⟨s', key, afterKey, next, v, mid, rfl, hkey, hcolon, hvalue,
      ⟨hclose, heq⟩ | ⟨others, more, hcomma, hmore, heq⟩⟩ := readMembers_cases h <;> cases heq
    obtain ⟨hpieces, rfl⟩ := readPieces_sound hkey
    obtain ⟨hv, hnext⟩ := readValue_sound v hvalue
    obtain ⟨hvalid, htext⟩ := readMembers_sound more hmore
    refine ⟨⟨hpieces, isBlanks_blanks afterKey, isBlanks_blanks next, hv, isBlanks_blanks mid,
      isBlanks_blanks others, readMembers_ne_stop hmore, hvalid⟩, ?_⟩
    rw [Members.text_member_append, ← htext, blanks_append_afterBlanks, ← hcomma,
      blanks_append_afterBlanks, ← hnext, blanks_append_afterBlanks, ← hcolon,
      blanks_append_afterBlanks, literal_append]

end

/-! ## What a reading will do -/

section Steps

variable {d : Nat} {s rest mid next afterKey : List Char} {v : Lossless} {key : List Piece}

/-- A quote starts a string. -/
theorem readValue_string {pieces : List Piece}
    (h : Gives (readPieces (s.length + 1) s) pieces rest) :
    Gives (readValue false d ('"' :: s)) (.string pieces) rest := by
  obtain ⟨_, h⟩ := h
  rw [readValue, h]
  exact gives_ok _

/-- A bracket that is closed at once is an array without items. -/
theorem readValue_array_stop (hclose : afterBlanks s = ']' :: rest) :
    Gives (readValue false (d + 1) ('[' :: s)) (.array (blanks s) .stop) rest := by
  rw [readValue]
  split
  · rename_i heq
    cases hclose.symm.trans heq
    exact gives_ok _
  · rename_i hopen
    exact absurd hclose (hopen rest)

/-- A bracket that is not closed at once starts an array with items. -/
theorem readValue_array {items : Items} (hopen : (afterBlanks s).head? ≠ some ']')
    (h : Gives (readItems false d (afterBlanks s)) items rest) :
    Gives (readValue false (d + 1) ('[' :: s)) (.array (blanks s) items) rest := by
  obtain ⟨_, h⟩ := h
  rw [readValue]
  split
  · rename_i hclose
    exact absurd (by rw [hclose]; rfl) hopen
  · rw [h]
    exact gives_ok _

/-- A brace that is closed at once is an object without members. -/
theorem readValue_object_stop (hclose : afterBlanks s = '}' :: rest) :
    Gives (readValue false (d + 1) ('{' :: s)) (.object (blanks s) .stop) rest := by
  rw [readValue]
  split
  · rename_i heq
    cases hclose.symm.trans heq
    exact gives_ok _
  · rename_i hopen
    exact absurd hclose (hopen rest)

/-- A brace that is not closed at once starts an object with members. -/
theorem readValue_object {members : Members} (hopen : (afterBlanks s).head? ≠ some '}')
    (h : Gives (readMembers false d (afterBlanks s)) members rest) :
    Gives (readValue false (d + 1) ('{' :: s)) (.object (blanks s) members) rest := by
  obtain ⟨_, h⟩ := h
  rw [readValue]
  split
  · rename_i hclose
    exact absurd (by rw [hclose]; rfl) hopen
  · rw [h]
    exact gives_ok _

/-- A word starts like no other value. -/
theorem readValue_word (w : Word) (rest : List Char) :
    Gives (readValue false d (w.text ++ rest)) (.word w) rest := by
  obtain ⟨c, cs, hcons, hquote, hbrace, hbracket⟩ :
      ∃ c cs, w.text = c :: cs ∧ c ≠ '"' ∧ c ≠ '{' ∧ c ≠ '[' := by
    cases w <;> exact ⟨_, _, rfl, by decide, by decide, by decide⟩
  have h := readWord?_complete w rest
  rw [hcons, List.cons_append] at h ⊢
  obtain ⟨_, h⟩ := h
  rw [readValue, h]
  · exact gives_ok _
  · exact hquote
  · exact hbrace
  · exact hbracket

/-- A numeral is read as a number if it is no integer with too many digits. -/
theorem readValue_number {n : Numeral} (hn : n.IsValid)
    (hshort : n.isInteger = true → n.whole.length ≤ Decimal.digitLimit)
    (hrest : IsOff isNumeric rest) :
    Gives (readValue false d (n.text ++ rest)) (.number n) rest := by
  obtain ⟨c, cs, hcons, hc⟩ := hn.exists_text
  have hword := readWord?_numeral hn rest
  have h := readNumeral?_complete hn hrest
  rw [hcons, List.cons_append] at h hword ⊢
  obtain ⟨_, h⟩ := h
  have hlimit :
      ¬(!false && n.isInteger && decide (Decimal.digitLimit < n.whole.length)) = true := by
    simpa using hshort
  rw [readValue, hword]
  · simp only [h]
    rw [if_neg hlimit]
    exact gives_ok _
  all_goals rintro rfl; cases hc

/-- A value in front of the closing bracket is the last item. -/
theorem readItems_last (hvalue : Gives (readValue false d s) v mid)
    (hclose : afterBlanks mid = ']' :: rest) :
    Gives (readItems false d s) (.last v (blanks mid)) rest := by
  obtain ⟨_, hvalue⟩ := hvalue
  rw [readItems, hvalue]
  simp only
  split
  · rename_i heq
    cases hclose.symm.trans heq
    exact gives_ok _
  · rename_i heq
    cases hclose.symm.trans heq
  · rename_i hopen _
    exact absurd hclose (hopen rest)

/-- A value in front of a comma is an item, and there are others. -/
theorem readItems_item {more : Items} (hvalue : Gives (readValue false d s) v mid)
    (hcomma : afterBlanks mid = ',' :: next)
    (h : Gives (readItems false d (afterBlanks next)) more rest) :
    Gives (readItems false d s) (.item v (blanks mid) (blanks next) more) rest := by
  obtain ⟨_, hvalue⟩ := hvalue
  obtain ⟨_, h⟩ := h
  rw [readItems, hvalue]
  simp only
  split
  · rename_i heq
    cases hcomma.symm.trans heq
  · rename_i heq
    cases hcomma.symm.trans heq
    split
    · rename_i hlenient
      cases hlenient
    · rw [h]
      exact gives_ok _
  · rename_i hopen
    exact absurd hcomma (hopen next)

/-- A member in front of the closing brace is the last one. -/
theorem readMembers_last (hkey : Gives (readPieces (s.length + 1) s) key afterKey)
    (hcolon : afterBlanks afterKey = ':' :: next)
    (hvalue : Gives (readValue false d (afterBlanks next)) v mid)
    (hclose : afterBlanks mid = '}' :: rest) :
    Gives (readMembers false d ('"' :: s))
      (.last key (blanks afterKey) (blanks next) v (blanks mid)) rest := by
  obtain ⟨_, hkey⟩ := hkey
  obtain ⟨_, hvalue⟩ := hvalue
  rw [readMembers, hkey]
  simp only
  split
  · rename_i heq
    cases hcolon.symm.trans heq
    rw [hvalue]
    simp only
    split
    · rename_i heq
      cases hclose.symm.trans heq
      exact gives_ok _
    · rename_i heq
      cases hclose.symm.trans heq
    · rename_i hopen _
      exact absurd hclose (hopen rest)
  · rename_i hopen
    exact absurd hcolon (hopen next)

/-- A member in front of a comma is followed by others. -/
theorem readMembers_member {others : List Char} {more : Members}
    (hkey : Gives (readPieces (s.length + 1) s) key afterKey)
    (hcolon : afterBlanks afterKey = ':' :: next)
    (hvalue : Gives (readValue false d (afterBlanks next)) v mid)
    (hcomma : afterBlanks mid = ',' :: others)
    (h : Gives (readMembers false d (afterBlanks others)) more rest) :
    Gives (readMembers false d ('"' :: s))
      (.member key (blanks afterKey) (blanks next) v (blanks mid) (blanks others) more) rest := by
  obtain ⟨_, hkey⟩ := hkey
  obtain ⟨_, hvalue⟩ := hvalue
  obtain ⟨_, h⟩ := h
  rw [readMembers, hkey]
  simp only
  split
  · rename_i heq
    cases hcolon.symm.trans heq
    rw [hvalue]
    simp only
    split
    · rename_i heq
      cases hcomma.symm.trans heq
    · rename_i heq
      cases hcomma.symm.trans heq
      split
      · rename_i hlenient
        cases hlenient
      · rw [h]
        exact gives_ok _
    · rename_i hopen
      exact absurd hcomma (hopen others)
  · rename_i hopen
    exact absurd hcolon (hopen next)

end Steps

/-! ## Reading back -/

/-- A character that no value starts with and that ends every numeral: a blank, a comma, a closing
bracket or a byte-order mark. -/
def isBreak (c : Char) : Bool :=
  isBlank c || c == ',' || c == ']' || c == '}' || c == '\uFEFF'

/-- A break neither carries a numeral on nor starts one. -/
theorem isNumeric_of_isBreak {c : Char} (h : isBreak c = true) :
    isNumeric c = false ∧ (c == '-' || c.isDigit) = false := by
  simp only [isBreak, isBlank, Bool.or_eq_true, beq_iff_eq] at h
  rcases h with ((((((rfl | rfl) | rfl) | rfl) | rfl) | rfl) | rfl) | rfl <;> exact ⟨rfl, rfl⟩

/-- No value starts with a break. -/
theorem isOff_text {depth : Nat} : {v : Lossless} → v.IsValid depth → (t : List Char) →
    IsOff isBreak (v.text ++ t)
  | .word w, _, t => by
    cases w <;> exact isOff_cons rfl _
  | .number n, ⟨hn, _⟩, t => by
    obtain ⟨c, cs, hcons, hc⟩ := hn.exists_text
    rw [Lossless.text, hcons]
    refine isOff_cons (Bool.eq_false_iff.mpr fun hbreak => ?_) _
    rw [(isNumeric_of_isBreak hbreak).2] at hc
    cases hc
  | .string pieces, _, t => isOff_cons rfl _
  | .array pad items, _, t => isOff_cons rfl _
  | .object pad members, _, t => isOff_cons rfl _

/-- Neither do items. -/
theorem isOff_items {depth : Nat} : {items : Items} → items.IsValid depth → items ≠ .stop →
    (t : List Char) → IsOff isBreak (items.text ++ t)
  | .stop, _, hstop, _ => absurd rfl hstop
  | .last v after, ⟨hv, _⟩, _, t => by
    rw [Items.text_last_append]
    exact isOff_text hv _
  | .item v after gap rest, ⟨hv, _⟩, _, t => by
    rw [Items.text_item_append]
    exact isOff_text hv _

/-- Members start with the quote of a key. -/
theorem isOff_members : {members : Members} → members ≠ .stop → (t : List Char) →
    IsOff isBreak (members.text ++ t)
  | .stop, hstop, _ => absurd rfl hstop
  | .last _ _ _ _ _, _, _ => isOff_cons rfl _
  | .member _ _ _ _ _ _ _, _, _ => isOff_cons rfl _

/-- What starts with no break starts with no blank. -/
theorem IsOff.blank {t : List Char} (h : IsOff isBreak t) : IsOff isBlank t := by
  intro c hc
  have hbreak := h c hc
  simp only [isBreak, Bool.or_eq_false_iff] at hbreak
  exact hbreak.1.1.1.1

/-- A character that a text does not start with is not its first one. -/
theorem IsOff.head_ne {p : Char → Bool} {t : List Char} (h : IsOff p t) {c : Char}
    (hc : p c = true) : t.head? ≠ some c := by
  intro hhead
  rw [h c hhead] at hc
  cases hc

/-- Blanks and a break behind them end every numeral. -/
theorem isOff_numeric {b : Blank} (hb : IsBlanks b) {c : Char} (hc : isBreak c = true)
    (t : List Char) : IsOff isNumeric (b ++ c :: t) := by
  cases b with
  | nil => exact isOff_cons (isNumeric_of_isBreak hc).1 t
  | cons d b =>
    have hd : isBreak d = true := by simp [isBreak, hb d List.mem_cons_self]
    exact isOff_cons (isNumeric_of_isBreak hd).1 _

mutual

/-- **A valid value is read back** if what follows does not carry a numeral on. -/
theorem readValue_complete : (v : Lossless) → ∀ {depth : Nat}, v.IsValid depth →
    ∀ {rest : List Char}, IsOff isNumeric rest →
      Gives (readValue false depth (v.text ++ rest)) v rest
  | .word w, depth, _, rest, _ => readValue_word w rest
  | .number n, depth, ⟨hn, hshort⟩, rest, hrest => readValue_number hn hshort hrest
  | .string pieces, depth, hpieces, rest, _ => by
    rw [Lossless.text, literal_append]
    exact readValue_string (readPieces_complete _ hpieces rest)
  | .array pad items, 0, ⟨hpos, _⟩, rest, _ => absurd hpos (Nat.lt_irrefl 0)
  | .array pad items, depth + 1, ⟨_, hpad, hitems⟩, rest, _ => by
    rw [Lossless.text_array_append]
    -- An empty array is closed at once; in any other the first item is neither a blank nor a
    -- bracket that closes.
    by_cases hstop : items = .stop
    · have hclose : IsOff isBlank (']' :: rest) := isOff_cons rfl rest
      have h := readValue_array_stop (d := depth) (afterBlanks_run hpad hclose)
      rw [blanks_run hpad hclose] at h
      rw [hstop]
      exact h
    · have hoff := isOff_items hitems hstop (']' :: rest)
      have hread := readItems_complete items hitems hstop rest
      rw [← afterBlanks_run hpad hoff.blank] at hread
      have h := readValue_array (by rw [afterBlanks_run hpad hoff.blank]; exact hoff.head_ne rfl)
        hread
      rwa [blanks_run hpad hoff.blank] at h
  | .object pad members, 0, ⟨hpos, _⟩, rest, _ => absurd hpos (Nat.lt_irrefl 0)
  | .object pad members, depth + 1, ⟨_, hpad, hmembers⟩, rest, _ => by
    rw [Lossless.text_object_append]
    by_cases hstop : members = .stop
    · have hclose : IsOff isBlank ('}' :: rest) := isOff_cons rfl rest
      have h := readValue_object_stop (d := depth) (afterBlanks_run hpad hclose)
      rw [blanks_run hpad hclose] at h
      rw [hstop]
      exact h
    · have hoff := isOff_members hstop ('}' :: rest)
      have hread := readMembers_complete members hmembers hstop rest
      rw [← afterBlanks_run hpad hoff.blank] at hread
      have h := readValue_object (by rw [afterBlanks_run hpad hoff.blank]; exact hoff.head_ne rfl)
        hread
      rwa [blanks_run hpad hoff.blank] at h

/-- **Valid items are read back** up to the bracket that closes them. -/
theorem readItems_complete : (items : Items) → ∀ {depth : Nat}, items.IsValid depth →
    items ≠ .stop → ∀ (rest : List Char),
      Gives (readItems false depth (items.text ++ ']' :: rest)) items rest
  | .stop, depth, _, hstop, rest => absurd rfl hstop
  | .last v after, depth, ⟨hv, hafter⟩, _, rest => by
    have hclose : IsOff isBlank (']' :: rest) := isOff_cons rfl rest
    rw [Items.text_last_append]
    have h := readItems_last (readValue_complete v hv (isOff_numeric hafter rfl rest))
      (afterBlanks_run hafter hclose)
    rwa [blanks_run hafter hclose] at h
  | .item v after gap more, depth, ⟨hv, hafter, hgap, hstop, hmore⟩, _, rest => by
    have hoff := (isOff_items hmore hstop (']' :: rest)).blank
    have hcomma : IsOff isBlank (',' :: (gap ++ (more.text ++ ']' :: rest))) := isOff_cons rfl _
    have hread := readItems_complete more hmore hstop rest
    rw [← afterBlanks_run hgap hoff] at hread
    rw [Items.text_item_append]
    have h := readItems_item (readValue_complete v hv (isOff_numeric hafter rfl _))
      (afterBlanks_run hafter hcomma) hread
    rwa [blanks_run hafter hcomma, blanks_run hgap hoff] at h

/-- **Valid members are read back** up to the brace that closes them. -/
theorem readMembers_complete : (members : Members) → ∀ {depth : Nat}, members.IsValid depth →
    members ≠ .stop → ∀ (rest : List Char),
      Gives (readMembers false depth (members.text ++ '}' :: rest)) members rest
  | .stop, depth, _, hstop, rest => absurd rfl hstop
  | .last key before lead v after, depth, ⟨hkey, hbefore, hlead, hv, hafter⟩, _, rest => by
    have hclose : IsOff isBlank ('}' :: rest) := isOff_cons rfl rest
    have hoff := (isOff_text hv (after ++ '}' :: rest)).blank
    have hcolon : IsOff isBlank (':' :: (lead ++ (v.text ++ (after ++ '}' :: rest)))) :=
      isOff_cons rfl _
    have hread := readValue_complete v hv (isOff_numeric hafter (c := '}') rfl rest)
    rw [← afterBlanks_run hlead hoff] at hread
    rw [Members.text_last_append, literal_append]
    have h := readMembers_last (readPieces_complete _ hkey _) (afterBlanks_run hbefore hcolon) hread
      (afterBlanks_run hafter hclose)
    rwa [blanks_run hbefore hcolon, blanks_run hlead hoff, blanks_run hafter hclose] at h
  | .member key before lead v after gap more, depth,
      ⟨hkey, hbefore, hlead, hv, hafter, hgap, hstop, hmore⟩, _, rest => by
    have hnext := (isOff_members hstop ('}' :: rest)).blank
    have hcomma : IsOff isBlank (',' :: (gap ++ (more.text ++ '}' :: rest))) := isOff_cons rfl _
    -- no blank stands behind the blanks, so the reader takes just those that were written
    have hoff := (isOff_text hv (after ++ ',' :: (gap ++ (more.text ++ '}' :: rest)))).blank
    have hcolon : IsOff isBlank
        (':' :: (lead ++ (v.text ++ (after ++ ',' :: (gap ++ (more.text ++ '}' :: rest)))))) :=
      isOff_cons rfl _
    have hvalue := readValue_complete v hv
      (isOff_numeric hafter (c := ',') rfl (gap ++ (more.text ++ '}' :: rest)))
    rw [← afterBlanks_run hlead hoff] at hvalue
    have hread := readMembers_complete more hmore hstop rest
    rw [← afterBlanks_run hgap hnext] at hread
    rw [Members.text_member_append, literal_append]
    have h := readMembers_member (readPieces_complete _ hkey _) (afterBlanks_run hbefore hcolon)
      hvalue (afterBlanks_run hafter hcomma) hread
    rwa [blanks_run hbefore hcolon, blanks_run hlead hoff, blanks_run hafter hcomma,
      blanks_run hgap hnext] at h

end

/-! ## Room for brackets -/

mutual

/-- Each bracket takes up room in the text, so there are no more below each other than the text is
long. -/
theorem Lossless.IsValid.of_length : {v : Lossless} → ∀ {depth : Nat}, v.IsValid depth →
    v.IsValid v.text.length
  | .word _, _, _ => trivial
  | .number _, _, h => h
  | .string _, _, h => h
  | .array pad items, _, ⟨_, hpad, hitems⟩ => by
    have hlength := congrArg List.length (Lossless.text_array_append pad [] items)
    simp only [List.length_append, List.length_cons, List.length_nil] at hlength
    exact ⟨by omega, hpad, hitems.of_length.mono (by omega)⟩
  | .object pad members, _, ⟨_, hpad, hmembers⟩ => by
    have hlength := congrArg List.length (Lossless.text_object_append pad [] members)
    simp only [List.length_append, List.length_cons, List.length_nil] at hlength
    exact ⟨by omega, hpad, hmembers.of_length.mono (by omega)⟩

/-- The same of items. -/
theorem Items.IsValid.of_length : {items : Items} → ∀ {depth : Nat}, items.IsValid depth →
    items.IsValid items.text.length
  | .stop, _, _ => trivial
  | .last value after, _, ⟨hv, hafter⟩ => by
    have hlength := congrArg List.length (Items.text_last_append after value [])
    simp only [List.length_append, List.length_nil] at hlength
    exact ⟨hv.of_length.mono (by omega), hafter⟩
  | .item value after gap rest, _, ⟨hv, hafter, hgap, hstop, hrest⟩ => by
    have hlength := congrArg List.length (Items.text_item_append after gap value [] rest)
    simp only [List.length_append, List.length_cons, List.length_nil] at hlength
    exact ⟨hv.of_length.mono (by omega), hafter, hgap, hstop, hrest.of_length.mono (by omega)⟩

/-- The same of members. -/
theorem Members.IsValid.of_length : {members : Members} → ∀ {depth : Nat},
    members.IsValid depth → members.IsValid members.text.length
  | .stop, _, _ => trivial
  | .last key before lead value after, _, ⟨hkey, hbefore, hlead, hv, hafter⟩ => by
    have hlength := congrArg List.length (Members.text_last_append before lead after key value [])
    simp only [List.length_append, List.length_cons, List.length_nil] at hlength
    exact ⟨hkey, hbefore, hlead, hv.of_length.mono (by omega), hafter⟩
  | .member key before lead value after gap rest, _,
      ⟨hkey, hbefore, hlead, hv, hafter, hgap, hstop, hrest⟩ => by
    have hlength := congrArg List.length
      (Members.text_member_append before lead after gap key value [] rest)
    simp only [List.length_append, List.length_cons, List.length_nil] at hlength
    exact ⟨hkey, hbefore, hlead, hv.of_length.mono (by omega), hafter, hgap, hstop,
      hrest.of_length.mono (by omega)⟩

end

/-! ## Whole texts -/

/-- A strict reading of a whole text takes all of it. -/
theorem readWithin_sound {depth : Nat} {s : List Char} {lead after : Blank} {v : Lossless}
    (h : readWithin depth s = .ok (lead, v, after)) :
    v.IsValid depth ∧ s = lead ++ (v.text ++ after) ∧ IsBlanks lead ∧ IsBlanks after := by
  unfold readWithin at h
  split at h
  · cases h
  · split at h
    · cases h
    · rename_i value rest hshorter hread
      split at h
      · rename_i hrest
        cases h
        obtain ⟨hv, htext⟩ := readValue_sound v ⟨hshorter, hread⟩
        refine ⟨hv, ?_, isBlanks_blanks s, isBlanks_blanks rest⟩
        have hafter : blanks rest = rest := by
          have hall := blanks_append_afterBlanks rest
          rwa [hrest, List.append_nil] at hall
        rw [hafter, ← htext, blanks_append_afterBlanks]
      · cases h

/-- **A valid value is read back from a text** in which it stands between blanks. -/
theorem readWithin_complete {depth : Nat} {v : Lossless} (hv : v.IsValid depth)
    {lead after : Blank} (hlead : IsBlanks lead) (hafter : IsBlanks after) :
    readWithin depth (lead ++ (v.text ++ after)) = .ok (lead, v, after) := by
  have hoff := isOff_text hv after
  -- A byte order mark is neither a blank nor the start of a value.
  have hmark : (lead ++ (v.text ++ after)).head? ≠ some '\uFEFF' := by
    cases lead with
    | nil => exact hoff.head_ne rfl
    | cons c lead =>
      intro hhead
      have hblank := hlead c List.mem_cons_self
      rw [Option.some.inj hhead] at hblank
      exact absurd hblank (by decide)
  -- The blanks behind the value do not carry a numeral on.
  have hend : IsOff isNumeric after := by
    cases after with
    | nil => exact isOff_nil isNumeric
    | cons c after =>
      have hbreak : isBreak c = true := by simp [isBreak, hafter c List.mem_cons_self]
      exact isOff_cons (isNumeric_of_isBreak hbreak).1 after
  have hread := readValue_complete v hv hend
  rw [← afterBlanks_run hlead hoff.blank] at hread
  obtain ⟨_, hread⟩ := hread
  have hrest := blanks_run hafter (isOff_nil isBlank)
  have hnone := afterBlanks_run hafter (isOff_nil isBlank)
  rw [List.append_nil] at hrest hnone
  rw [readWithin, if_neg hmark, hread, blanks_run hlead hoff.blank]
  simp only [hnone, hrest]

/-- **What is read is read with as much room as the text is long**, too. -/
theorem readWithin_length {depth : Nat} {s : List Char} {lead after : Blank} {v : Lossless}
    (h : readWithin depth s = .ok (lead, v, after)) :
    readWithin s.length s = .ok (lead, v, after) := by
  obtain ⟨hv, rfl, hlead, hafter⟩ := readWithin_sound h
  refine readWithin_complete (hv.of_length.mono ?_) hlead hafter
  simp only [List.length_append]
  omega

section Host

variable [Host]

/-- A strict reading takes all of a text, within the room that the host gives. -/
theorem read_sound {s : List Char} {lead after : Blank} {v : Lossless}
    (h : read s = .ok (lead, v, after)) :
    v.IsValid Host.brackets ∧ s = lead ++ (v.text ++ after) :=
  ⟨(readWithin_sound h).1, (readWithin_sound h).2.1⟩

/-- **The text of a valid tree decodes to its value.** -/
theorem decode_text {v : Lossless} (hv : v.IsValid Host.brackets) :
    decode (String.ofList v.text) = .ok v.value := by
  have hread := readWithin_complete hv (List.forall_mem_nil _) (List.forall_mem_nil _)
  rw [List.nil_append, List.append_nil] at hread
  rw [decode, String.toList_ofList, read, hread]

end Host

end OpenApi.Json
