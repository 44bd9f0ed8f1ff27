/-
Positions of nodes.

A grammar gives the places of its nodes in bytes: an offset, the number of line feeds before it
and the number of bytes since the last of them. `Place.IsIn` says that these three numbers belong
to one place of a text, and nothing else is asked of a place: it need not lie between characters.
A node gets character offsets from the byte offsets, and rows and columns from rows and byte
columns; a reader of the text gets rows and columns from the character offsets alone. Both ways
end at the same position (`position_eq_positionAt`).

The argument splits the characters before the place at the last line feed. The bytes split at the
same point, because the line feed is a byte that no other character has, and the byte column
counts from there; taking it off leads back to the byte where the row starts, which lies between
characters, so the difference of the two character numbers is the number of characters since.
-/
import OpenApi.Proofs.Text.Row
import OpenApi.Proofs.Tree.CharIndex
import OpenApi.Proofs.Tree.Preorder

set_option autoImplicit false

namespace OpenApi

namespace Text

/-! ## Line feeds in encodings -/

theorem count_encodeChar (c : Char) :
    (String.utf8EncodeChar c).count lineFeed = [c].count '\n' := by
  by_cases hc : c = '\n'
  · subst hc
    decide
  · rw [List.count_eq_zero.mpr fun h => ne_lineFeed_of_mem hc h rfl, List.count_eq_zero.mpr]
    rw [List.mem_singleton]
    exact fun h => hc h.symm

/-- A text has as many line feeds as its encoding. -/
theorem count_encode (cs : List Char) : (encode cs).count lineFeed = cs.count '\n' := by
  induction cs with
  | nil => rfl
  | cons c cs ih =>
    rw [encode_cons, List.count_append, count_encodeChar, ih, ← List.count_append]
    rfl

theorem lineFeed_not_mem_encode {cs : List Char} (h : '\n' ∉ cs) : lineFeed ∉ encode cs := by
  rw [← List.count_eq_zero, count_encode, List.count_eq_zero]
  exact h

/-- The encoding of what ends in a line feed ends in one. -/
theorem encode_above {above : List Char} (h : above = [] ∨ ∃ init, above = init ++ ['\n']) :
    encode above = [] ∨ ∃ init, encode above = init ++ [lineFeed] := by
  rcases h with rfl | ⟨init, rfl⟩
  · exact .inl rfl
  · refine .inr ⟨encode init, ?_⟩
    rw [encode_append, encode_cons, encode_lineFeed]
    rfl

end Text

namespace Tree

open Text (byteLength encode lineFeed positionAt positionAt_of_le Position)

namespace CharIndex

/-- The bytes before a place are the characters before it and a part of the next one, in which there
is no line feed. -/
theorem take_encode {cs : List Char} {byte : Nat} (h : byte ≤ byteLength cs) :
    ∃ part, (encode cs).take byte = encode (cs.take (charOf cs byte)) ++ part
      ∧ lineFeed ∉ part := by
  induction cs generalizing byte with
  | nil => exact ⟨[], by simp, List.not_mem_nil⟩
  | cons c cs ih =>
    have hlength := String.length_utf8EncodeChar c
    rw [Text.byteLength_cons] at h
    rw [Text.encode_cons]
    rcases Nat.lt_or_ge byte c.utf8Size with hb | hb
    · refine ⟨(String.utf8EncodeChar c).take byte, ?_, ?_⟩
      · rw [charOf_cons_lt hb, List.take_append_of_le_length (by omega), List.take_zero]
        rfl
      · intro hmem
        by_cases hc : c = '\n'
        · -- a line feed is one byte long, so no byte of it lies before the place
          subst hc
          have hzero : byte = 0 := Nat.lt_one_iff.mp hb
          rw [hzero, List.take_zero] at hmem
          cases hmem
        · exact Text.ne_lineFeed_of_mem hc (List.mem_of_mem_take hmem) rfl
    · have hrest : byte - c.utf8Size ≤ byteLength cs := by omega
      obtain ⟨part, htake, hpart⟩ := ih hrest
      refine ⟨part, ?_, hpart⟩
      rw [charOf_cons_ge hb, List.take_succ_cons, Text.encode_cons, List.append_assoc, ← htake,
        List.take_append, hlength, List.take_of_length_le (by omega)]

end CharIndex

/-! ## Places of a text -/

/-- A place of a text: its row is the number of line feeds before its byte, and its column the
number of bytes since the last of them. -/
structure Place.IsIn (text : String) (p : Place) : Prop where
  within : p.byte ≤ (Text.bytes text).length
  row : p.row = ((Text.bytes text).take p.byte).count lineFeed
  column : p.column = (((Text.bytes text).take p.byte).reverse.takeWhile (· != lineFeed)).length

/-- A tree over a text: its nodes start and stop at places of the text, and none stops before it
starts. -/
def Concrete.Fits (t : Concrete) (text : String) : Prop :=
  ∀ label ∈ t.labels,
    label.start.IsIn text ∧ label.stop.IsIn text ∧ label.start.byte ≤ label.stop.byte

instance (text : String) (p : Place) : Decidable (p.IsIn text) :=
  decidable_of_iff
    (p.byte ≤ (Text.bytes text).length
      ∧ p.row = ((Text.bytes text).take p.byte).count lineFeed
      ∧ p.column = (((Text.bytes text).take p.byte).reverse.takeWhile (· != lineFeed)).length)
    ⟨fun ⟨within, row, column⟩ => ⟨within, row, column⟩,
      fun ⟨within, row, column⟩ => ⟨within, row, column⟩⟩

instance (t : Concrete) (text : String) : Decidable (t.Fits text) :=
  inferInstanceAs (Decidable (∀ label ∈ t.labels, _))

/-- **The position of a place is the position of its character.** One is derived from the row and
the byte column of the place, the other by counting through the characters before it. -/
theorem position_eq_positionAt {text : String} {p : Place} (hp : p.IsIn text) :
    (CharIndex.ofText text.toList).position p
      = positionAt text ((CharIndex.ofText text.toList).char p.byte) := by
  obtain ⟨hbyte, hrowOf, hcolumnOf⟩ := hp
  rw [Text.bytes_eq_encode] at hbyte hrowOf hcolumnOf
  rw [Text.length_encode] at hbyte
  generalize hcs : text.toList = cs at *
  have hn : CharIndex.charOf cs p.byte ≤ cs.length := CharIndex.charOf_le_length cs p.byte
  obtain ⟨part, htake, hpart⟩ := CharIndex.take_encode hbyte
  obtain ⟨above, row, hsplit, hrow, habove⟩ :=
    Text.exists_last_row (cs.take (CharIndex.charOf cs p.byte))
  -- the bytes split where the characters do
  have hbytes : (encode cs).take p.byte = encode above ++ (encode row ++ part) := by
    rw [htake, hsplit, Text.encode_append, List.append_assoc]
  have hafter : lineFeed ∉ encode row ++ part := by
    rw [List.mem_append, not_or]
    exact ⟨Text.lineFeed_not_mem_encode hrow, hpart⟩
  have hcolumn : p.column = (encode row ++ part).length := by
    rw [hcolumnOf, hbytes, Text.length_takeWhile_reverse hafter (Text.encode_above habove)]
  have hlength : p.byte = byteLength above + p.column := by
    have hsum := congrArg List.length hbytes
    rw [List.length_take, Text.length_encode, List.length_append, Text.length_encode,
      ← hcolumn] at hsum
    omega
  -- so the column leads back to the first character of the row
  have hstart : CharIndex.charOf cs (p.byte - p.column) = above.length := by
    have hwhole : cs = above ++ (row ++ cs.drop (CharIndex.charOf cs p.byte)) := by
      rw [← List.append_assoc, ← hsplit, List.take_append_drop]
    have hbefore : p.byte - p.column = byteLength above := by omega
    rw [hbefore]
    nth_rewrite 1 [hwhole]
    exact CharIndex.charOf_byteLength above _
  have hcount : CharIndex.charOf cs p.byte = above.length + row.length := by
    have hsum := congrArg List.length hsplit
    rw [List.length_take, List.length_append] at hsum
    omega
  have hfeeds : p.row = (cs.take (CharIndex.charOf cs p.byte)).count '\n' := by
    rw [hrowOf, htake, List.count_append, Text.count_encode, List.count_eq_zero.mpr hpart,
      Nat.add_zero]
  have hwidth : ((cs.take (CharIndex.charOf cs p.byte)).reverse.takeWhile (· != '\n')).length
      = row.length := by
    rw [hsplit, Text.length_takeWhile_reverse hrow habove]
  subst hcs
  rw [CharIndex.position_ofText hbyte (by omega), CharIndex.char_ofText hbyte,
    positionAt_of_le hn, ← hfeeds, hwidth, hstart, hcount]
  congr 1
  omega

/-! ## Nodes of a tree that fits -/

/-- A node at the positions of its offsets, which lie in the text and in order. -/
structure Node.IsPositioned (text : String) (n : Node) : Prop where
  start : n.start = positionAt text n.startOffset
  stop : n.stop = positionAt text n.stopOffset
  nonneg : 0 ≤ n.startOffset
  ordered : n.startOffset ≤ n.stopOffset
  within : n.stopOffset ≤ text.toList.length

/-- A byte of a text belongs to a character of the text, or is its end. -/
theorem Place.IsIn.char_le {text : String} {p : Place} (hp : p.IsIn text) :
    (CharIndex.ofText text.toList).char p.byte ≤ text.toList.length := by
  have hbyte := hp.within
  rw [Text.bytes_eq_encode, Text.length_encode] at hbyte
  rw [CharIndex.char_ofText hbyte]
  exact CharIndex.charOf_le_length _ _

/-- Of two places of a text, the one at the earlier byte is at the earlier character. -/
theorem Place.IsIn.char_mono {text : String} {p q : Place} (hp : p.IsIn text) (hq : q.IsIn text)
    (h : p.byte ≤ q.byte) :
    (CharIndex.ofText text.toList).char p.byte ≤ (CharIndex.ofText text.toList).char q.byte := by
  have hpbyte := hp.within
  have hqbyte := hq.within
  rw [Text.bytes_eq_encode, Text.length_encode] at hpbyte hqbyte
  rw [CharIndex.char_ofText hpbyte, CharIndex.char_ofText hqbyte]
  exact CharIndex.charOf_mono _ h

/-- **Every node of a tree that fits the text is at the positions of its offsets.** -/
theorem Concrete.Fits.isPositioned {t : Concrete} {text : String} (ht : t.Fits text)
    (format : Format) : ∀ n ∈ (Arena.ofConcrete t text format).nodes, n.IsPositioned text := by
  intro n hn
  rw [← Array.mem_toList_iff, Arena.toList_nodes_ofConcrete, List.mem_map] at hn
  obtain ⟨x, hx, rfl⟩ := hn
  have hlabel : x.tree.label ∈ t.labels := by
    rw [← placed_labels none 0 0 t]
    exact List.mem_map_of_mem hx
  obtain ⟨hstart, hstop, hle⟩ := ht _ hlabel
  obtain ⟨hfrom, hto, hfromOffset, htoOffset⟩ :=
    x.node_extent (CharIndex.ofText text.toList) text
  have hordered := hstart.char_mono hstop hle
  have hwithin := hstop.char_le
  refine ⟨?_, ?_, ?_, ?_, ?_⟩
  · rw [hfrom, hfromOffset, position_eq_positionAt hstart]
  · rw [hto, htoOffset, position_eq_positionAt hstop]
  · rw [hfromOffset]
    omega
  · rw [hfromOffset, htoOffset]
    exact Int.ofNat_le.mpr hordered
  · rw [htoOffset]
    exact Int.ofNat_le.mpr hwithin

end Tree

end OpenApi
