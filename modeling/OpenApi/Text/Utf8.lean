/-
UTF-8: lengths of encodings, the reading of bytes as text, and texts that have no encoding.

A lead byte tells how many tail bytes it owes and in which bounds the first of them must lie;
these bounds rule out over-long forms, surrogates and code points past the last one. A fault is
reported at the lead byte of the character that cannot be completed, together with the number of
bytes that were still fit to be part of one. Only a lone surrogate has no encoding.
-/
import OpenApi.Text.Quoted

set_option autoImplicit false

namespace OpenApi.Text

/-! ## Lengths -/

/-- The number of bytes that encode a text. -/
def byteLength : List Char → Nat
  | [] => 0
  | c :: cs => c.utf8Size + byteLength cs

@[simp] theorem byteLength_nil : byteLength [] = 0 := rfl

@[simp] theorem byteLength_cons (c : Char) (cs : List Char) :
    byteLength (c :: cs) = c.utf8Size + byteLength cs := rfl

@[simp] theorem byteLength_append (cs ds : List Char) :
    byteLength (cs ++ ds) = byteLength cs + byteLength ds := by
  induction cs with
  | nil => rw [List.nil_append, byteLength_nil, Nat.zero_add]
  | cons c cs ih => rw [List.cons_append, byteLength_cons, byteLength_cons, ih, Nat.add_assoc]

/-! ## Reading -/

/-- Why bytes are not UTF-8. -/
inductive Utf8Cause where
  | badLead
  | badTail
  | truncated
deriving DecidableEq, Repr

/-- A place where bytes stop being UTF-8: the offset of the lead byte, that byte, and the
number of bytes the fault covers. -/
structure Utf8Fault where
  cause : Utf8Cause
  position : Nat
  byte : UInt8
  extent : Nat
deriving DecidableEq, Repr

namespace Utf8Fault

/-- The wording of a cause. -/
def reason (f : Utf8Fault) : String :=
  match f.cause with
  | .badLead => "invalid start byte"
  | .badTail => "invalid continuation byte"
  | .truncated => "unexpected end of data"

/-- The full message: a single byte is shown, several are given by their first and last. -/
def message (f : Utf8Fault) : String :=
  let place :=
    if f.extent = 1 then
      s!"byte 0x{String.ofList (hexPadded 2 f.byte.toNat)} in position {f.position}"
    else s!"bytes in position {f.position}-{f.position + f.extent - 1}"
  s!"'utf-8' codec can't decode {place}: {f.reason}"

end Utf8Fault

/-- What a lead byte promises: the tails it owes, the bounds of the first one, and the bits it
gives to the code point. -/
structure Lead where
  tails : Nat
  low : UInt8
  high : UInt8
  bits : Nat

/-- The promise of a byte that starts a character. -/
def Lead.of? (b : UInt8) : Option Lead :=
  if b < 0x80 then some ⟨0, 0x80, 0xBF, b.toNat⟩
  else if b < 0xC2 then none
  else if b < 0xE0 then some ⟨1, 0x80, 0xBF, b.toNat - 0xC0⟩
  else if b = 0xE0 then some ⟨2, 0xA0, 0xBF, 0⟩
  else if b = 0xED then some ⟨2, 0x80, 0x9F, 0xD⟩
  else if b < 0xF0 then some ⟨2, 0x80, 0xBF, b.toNat - 0xE0⟩
  else if b = 0xF0 then some ⟨3, 0x90, 0xBF, 0⟩
  else if b < 0xF4 then some ⟨3, 0x80, 0xBF, b.toNat - 0xF0⟩
  else if b = 0xF4 then some ⟨3, 0x80, 0x8F, 4⟩
  else none

/-- Takes the tails of a character: the code point if all are there, else the cause and the
number of tails that were fit. -/
def takeTails : (owed : Nat) → (low high : UInt8) → (code fit : Nat) → List UInt8 →
    Except (Utf8Cause × Nat) Nat
  | 0, _, _, code, _, _ => .ok code
  | _ + 1, _, _, _, fit, [] => .error (.truncated, fit)
  | owed + 1, low, high, code, fit, b :: bs =>
    if low ≤ b && b ≤ high then
      takeTails owed 0x80 0xBF (code * 64 + (b.toNat - 0x80)) (fit + 1) bs
    else .error (.badTail, fit)

/-- Reads bytes as UTF-8. `skip` counts the tail bytes of the character last read that are still
to be passed over. -/
def decodeFrom (position skip : Nat) : List UInt8 → Except Utf8Fault (List Char)
  | [] => .ok []
  | b :: bs =>
    match skip with
    | skip + 1 => decodeFrom (position + 1) skip bs
    | 0 =>
      match Lead.of? b with
      | none => .error ⟨.badLead, position, b, 1⟩
      | some lead =>
        match takeTails lead.tails lead.low lead.high lead.bits 0 bs with
        | .error (cause, fit) => .error ⟨cause, position, b, fit + 1⟩
        | .ok code => (decodeFrom (position + 1) lead.tails bs).map (Char.ofNat code :: ·)

/-- Reads bytes as UTF-8. -/
def decodeUtf8 (bytes : List UInt8) : Except Utf8Fault String :=
  (decodeFrom 0 0 bytes).map String.ofList

/-- Reads bytes as UTF-8 and puts a replacement character where a fault lies. -/
def decodeLossyFrom (skip : Nat) : List UInt8 → List Char
  | [] => []
  | b :: bs =>
    match skip with
    | skip + 1 => decodeLossyFrom skip bs
    | 0 =>
      match Lead.of? b with
      | none => '\uFFFD' :: decodeLossyFrom 0 bs
      | some lead =>
        match takeTails lead.tails lead.low lead.high lead.bits 0 bs with
        | .error (_, fit) => '\uFFFD' :: decodeLossyFrom fit bs
        | .ok code => Char.ofNat code :: decodeLossyFrom lead.tails bs

/-- Reads bytes as UTF-8 without ever failing. -/
def decodeLossy (bytes : List UInt8) : String :=
  String.ofList (decodeLossyFrom 0 bytes)

/-! ## Lone surrogates -/

/-- Whether a character is half a pair of code units. -/
def isLoneSurrogate [Host] (c : Char) : Bool := (surrogate? c).isSome

/-- Why a text has no encoding: the first lone surrogates that stand in a row, by their
positions. -/
def encodeProblem? [Host] (text : String) : Option String :=
  let before := text.toList.takeWhile fun c => !isLoneSurrogate c
  let start := before.length
  match (text.toList.drop start).takeWhile isLoneSurrogate with
  | [] => none
  | [c] =>
    let shown := String.ofList ((surrogate? c).elim [] unitEscape)
    some (s!"'utf-8' codec can't encode character '{shown}' in position {start}: "
      ++ "surrogates not allowed")
  | several =>
    let last := start + several.length - 1
    some (s!"'utf-8' codec can't encode characters in position {start}-{last}: "
      ++ "surrogates not allowed")

/-- A text in which escapes stand in the place of lone surrogates. -/
def escapeSurrogates [Host] (text : String) : String :=
  String.ofList (text.toList.flatMap fun c => (surrogate? c).elim [c] unitEscape)

/-! ## Line ends -/

/-- Makes every line end a single line feed, whether it was written as carriage return and line
feed or as a carriage return alone. -/
def unifyLineEnds : List Char → List Char
  | [] => []
  | '\r' :: '\n' :: cs => '\n' :: unifyLineEnds cs
  | '\r' :: cs => '\n' :: unifyLineEnds cs
  | c :: cs => c :: unifyLineEnds cs

end OpenApi.Text
