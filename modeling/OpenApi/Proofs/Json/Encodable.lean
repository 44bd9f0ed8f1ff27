/-
Which characters a written value is made of.

The writer adds only ASCII characters to those of the texts of a value (`Value.forall_layout`). So
what is written has an encoding as soon as all texts of the value have one (`isEncodable_write`): a
lone surrogate is never made. One that is there is never escaped, either.
-/
import OpenApi.Proofs.Json.Writing
import OpenApi.Text.Utf8

set_option autoImplicit false

namespace OpenApi

/-! ## Texts with an encoding -/

namespace Text

/-- A text of which no character stands for half a pair of code units. -/
def IsEncodable [Host] (text : String) : Prop := ∀ c ∈ text.toList, isLoneSurrogate c = false

/-- A text has an encoding if and only if no character stands for a lone surrogate. -/
theorem encodeProblem?_eq_none_iff [Host] {text : String} :
    encodeProblem? text = none ↔ IsEncodable text := by
  -- Dropping as many characters as the search has passed leaves what it came to.
  have hrest : text.toList.drop (text.toList.takeWhile fun c => !isLoneSurrogate c).length
      = text.toList.dropWhile fun c => !isLoneSurrogate c := by
    generalize text.toList = cs
    induction cs with
    | nil => rfl
    | cons c cs ih =>
      cases hc : isLoneSurrogate c with
      | true => simp [hc]
      | false => simpa [hc] using ih
  have hfirst : text.toList.dropWhile (fun c => !isLoneSurrogate c) = [] ↔ IsEncodable text := by
    rw [List.dropWhile_eq_nil_iff, IsEncodable]
    simp
  rw [← hfirst, encodeProblem?]
  dsimp only
  rw [hrest]
  cases hdrop : text.toList.dropWhile fun c => !isLoneSurrogate c with
  | nil => simp
  | cons c cs =>
    have hlone : isLoneSurrogate c = true := by
      have hhead := List.head?_dropWhile_not (fun c => !isLoneSurrogate c) text.toList
      rw [hdrop] at hhead
      simpa using hhead
    rw [List.takeWhile_cons_of_pos hlone]
    cases cs.takeWhile isLoneSurrogate <;> simp

theorem isLoneSurrogate_of_ascii [Host] {c : Char} (h : c.toNat < 0x80) :
    isLoneSurrogate c = false := by
  have hupper := Host.surrogatePlane_upper.1
  have hcode : c.toNat - surrogateShift = 0 := Nat.sub_eq_zero_of_le (by
    rw [surrogateShift]
    omega)
  rw [isLoneSurrogate, surrogate?, hcode]
  rfl

/-- A text of ASCII characters has an encoding. -/
theorem isEncodable_of_ascii [Host] {text : String}
    (h : text.toList.any (fun c => decide (0x80 ≤ c.toNat)) = false) : IsEncodable text := by
  intro c hc
  refine isLoneSurrogate_of_ascii (Nat.lt_of_not_le fun hle => ?_)
  exact Bool.false_ne_true (h.symm.trans (List.any_eq_true.mpr ⟨c, hc, decide_eq_true hle⟩))

theorem IsEncodable.append [Host] {a b : String} (ha : IsEncodable a) (hb : IsEncodable b) :
    IsEncodable (a ++ b) := by
  rw [IsEncodable, String.toList_append]
  exact List.forall_mem_append.mpr ⟨ha, hb⟩

end Text

namespace Json

mutual

/-- All characters of the texts of a value have a property. Floating point numbers are left out. -/
def Value.TextsIn (P : Char → Prop) : Value → Prop
  | .null | .bool _ | .int _ => True
  | .float _ => False
  | .str s => ∀ c ∈ s.toList, P c
  | .array items => AllTextsIn P items
  | .object fields => FieldsIn P fields

def AllTextsIn (P : Char → Prop) : List Value → Prop
  | [] => True
  | item :: rest => item.TextsIn P ∧ AllTextsIn P rest

def FieldsIn (P : Char → Prop) : List (String × Value) → Prop
  | [] => True
  | (name, value) :: rest => (∀ c ∈ name.toList, P c) ∧ value.TextsIn P ∧ FieldsIn P rest

end

theorem allTextsIn_iff {P : Char → Prop} {items : List Value} :
    AllTextsIn P items ↔ ∀ item ∈ items, item.TextsIn P := by
  induction items with
  | nil => exact iff_of_true trivial (List.forall_mem_nil _)
  | cons item rest ih => rw [AllTextsIn, ih, List.forall_mem_cons]

theorem fieldsIn_iff {P : Char → Prop} {fields : List (String × Value)} :
    FieldsIn P fields ↔ ∀ f ∈ fields, (∀ c ∈ f.1.toList, P c) ∧ f.2.TextsIn P := by
  induction fields with
  | nil => exact iff_of_true trivial (List.forall_mem_nil _)
  | cons f rest ih => rw [FieldsIn, ih, List.forall_mem_cons, and_assoc]

section Writing

variable {P : Char → Prop} (hP : ∀ c : Char, c.toNat < 0x80 → P c)

include hP

/-! ## Tokens -/

theorem forall_hexDigit (n : Nat) : P (Text.hexDigit n) := by
  have hall : ∀ k < 16, ((Nat.toDigits 16 k).headD '0').toNat < 0x80 := by decide
  exact hP _ (hall (n % 16) (Nat.mod_lt _ (by decide)))

theorem forall_piece {c : Char} (hc : P c) : ∀ d ∈ (Piece.of c).text, P d := by
  have hshort (d : Char) (hd : P d) : ∀ e ∈ (Piece.short d).text, P e :=
    List.forall_mem_cons.mpr ⟨hP _ (by decide), List.forall_mem_singleton.mpr hd⟩
  unfold Piece.of
  split
  · exact hshort c hc
  split
  · exact hshort 'n' (hP _ (by decide))
  split
  · exact hshort 'r' (hP _ (by decide))
  split
  · exact hshort 't' (hP _ (by decide))
  split
  · exact hshort 'b' (hP _ (by decide))
  split
  · exact hshort 'f' (hP _ (by decide))
  split
  · simp only [Piece.text, List.forall_mem_cons]
    exact ⟨hP _ (by decide), hP _ (by decide), hP _ (by decide), hP _ (by decide),
      forall_hexDigit hP _, forall_hexDigit hP _, List.forall_mem_nil _⟩
  · exact List.forall_mem_singleton.mpr hc

theorem forall_literal {text : String} (h : ∀ c ∈ text.toList, P c) :
    ∀ c ∈ literal (pieces text), P c := by
  have hquote : P '"' := hP _ (by decide)
  refine List.forall_mem_append.mpr ⟨List.forall_mem_cons.mpr ⟨hquote, ?_⟩,
    List.forall_mem_singleton.mpr hquote⟩
  intro d hd
  obtain ⟨piece, hpiece, hmem⟩ := List.mem_flatMap.mp hd
  obtain ⟨c, hc, rfl⟩ := List.mem_map.mp hpiece
  exact forall_piece hP (h c hc) d hmem

theorem forall_ofInt (n : Int) : ∀ c ∈ (Numeral.ofInt n).text, P c := by
  have hdigits : ∀ c ∈ Nat.toDigits 10 n.natAbs, P c := by
    intro c hc
    have hdigit := Nat.isDigit_of_mem_toDigits (by decide) (by decide) hc
    simp only [Char.isDigit, Bool.and_eq_true, decide_eq_true_eq] at hdigit
    refine hP c ?_
    have hle : c.toNat ≤ 57 := hdigit.2
    omega
  rw [Numeral.text, Numeral.ofInt, Option.elim_none, Option.elim_none, List.append_nil,
    List.append_nil]
  refine List.forall_mem_append.mpr ⟨?_, hdigits⟩
  cases decide (n < 0) with
  | true => exact List.forall_mem_singleton.mpr (hP _ (by decide))
  | false => exact List.forall_mem_nil _

theorem forall_lineBreak (depth : Nat) : ∀ c ∈ lineBreak depth, P c := by
  refine List.forall_mem_cons.mpr ⟨hP _ (by decide), ?_⟩
  intro c hc
  rw [List.eq_of_mem_replicate hc]
  exact hP _ (by decide)

theorem forall_word (w : Word) : ∀ c ∈ w.text, P c := by
  have hall : ∀ c ∈ w.text, c.toNat < 0x80 := by cases w <;> simp [Word.text]
  exact fun c hc => hP c (hall c hc)

/-! ## Layouts -/

omit hP in
/-- What stands between brackets, behind blanks. -/
theorem forall_bracketed {opening closing : Char} (hopening : P opening) (hclosing : P closing)
    {pad inner : List Char} (hpad : ∀ c ∈ pad, P c) (hinner : ∀ c ∈ inner, P c) :
    ∀ c ∈ opening :: pad ++ inner ++ [closing], P c :=
  List.forall_mem_append.mpr ⟨List.forall_mem_append.mpr
    ⟨List.forall_mem_cons.mpr ⟨hopening, hpad⟩, hinner⟩, List.forall_mem_singleton.mpr hclosing⟩

/-- A name, a colon and a value. -/
theorem forall_member {name : String} (hname : ∀ c ∈ name.toList, P c) {first : Lossless}
    (hfirst : ∀ c ∈ first.text, P c) :
    ∀ c ∈ literal (pieces name) ++ ':' :: [' '] ++ first.text, P c :=
  List.forall_mem_append.mpr ⟨List.forall_mem_append.mpr ⟨forall_literal hP hname,
    List.forall_mem_cons.mpr ⟨hP ':' (by decide),
      List.forall_mem_singleton.mpr (hP ' ' (by decide))⟩⟩, hfirst⟩

mutual

/-- **A layout is made of ASCII characters and of those of the texts.** -/
theorem Value.forall_layout : (v : Value) → v.TextsIn P → ∀ depth, ∀ c ∈ (v.layout depth).text, P c
  | .null, _, _ => forall_word hP .null
  | .bool true, _, _ => forall_word hP .true
  | .bool false, _, _ => forall_word hP .false
  | .int n, _, _ => forall_ofInt hP n
  | .str s, h, _ => forall_literal hP h
  | .array [], _, _ =>
    forall_bracketed (hP '[' (by decide)) (hP ']' (by decide)) (List.forall_mem_nil _)
      (List.forall_mem_nil _)
  | .array (item :: rest), ⟨hitem, hrest⟩, depth =>
    forall_bracketed (hP '[' (by decide)) (hP ']' (by decide)) (forall_lineBreak hP _)
      (forall_layoutItems rest hrest depth (item.forall_layout hitem (depth + 1)))
  | .object [], _, _ =>
    forall_bracketed (hP '{' (by decide)) (hP '}' (by decide)) (List.forall_mem_nil _)
      (List.forall_mem_nil _)
  | .object ((name, value) :: rest), ⟨hname, hvalue, hrest⟩, depth =>
    forall_bracketed (hP '{' (by decide)) (hP '}' (by decide)) (forall_lineBreak hP _)
      (forall_layoutMembers rest hrest depth hname (value.forall_layout hvalue (depth + 1)))

theorem forall_layoutItems : (rest : List Value) → AllTextsIn P rest → ∀ depth,
    ∀ {first : Lossless}, (∀ c ∈ first.text, P c) → ∀ c ∈ (layoutItems depth first rest).text, P c
  | [], _, depth, _, hfirst => List.forall_mem_append.mpr ⟨hfirst, forall_lineBreak hP depth⟩
  | item :: rest, ⟨hitem, hrest⟩, depth, _, hfirst => by
    have hnext := forall_layoutItems rest hrest depth (item.forall_layout hitem (depth + 1))
    rw [layoutItems, Items.text, List.append_nil]
    exact List.forall_mem_append.mpr ⟨List.forall_mem_append.mpr ⟨hfirst,
      List.forall_mem_cons.mpr ⟨hP _ (by decide), forall_lineBreak hP _⟩⟩, hnext⟩

theorem forall_layoutMembers : (rest : List (String × Value)) → FieldsIn P rest → ∀ depth,
    ∀ {name : String}, (∀ c ∈ name.toList, P c) → ∀ {first : Lossless},
      (∀ c ∈ first.text, P c) → ∀ c ∈ (layoutMembers depth name first rest).text, P c
  | [], _, depth, _, hname, _, hfirst => by
    rw [layoutMembers, Members.text, List.append_nil]
    exact List.forall_mem_append.mpr
      ⟨forall_member hP hname hfirst, forall_lineBreak hP depth⟩
  | (next, value) :: rest, ⟨hnext, hvalue, hrest⟩, depth, _, hname, _, hfirst => by
    have hothers := forall_layoutMembers rest hrest depth hnext
      (value.forall_layout hvalue (depth + 1))
    rw [layoutMembers, Members.text, List.append_nil, List.append_nil]
    exact List.forall_mem_append.mpr ⟨List.forall_mem_append.mpr
      ⟨forall_member hP hname hfirst,
        List.forall_mem_cons.mpr ⟨hP ',' (by decide), forall_lineBreak hP _⟩⟩, hothers⟩

end

end Writing

/-- **A value whose texts have an encoding is written as a text that has one.** -/
theorem isEncodable_write [Host] {v : Value}
    (h : v.TextsIn fun c => Text.isLoneSurrogate c = false) :
    Text.IsEncodable (write v ++ "\n") := by
  rw [Text.IsEncodable, String.toList_append, write, String.toList_ofList]
  exact List.forall_mem_append.mpr
    ⟨v.forall_layout (fun _ => Text.isLoneSurrogate_of_ascii) h 0,
      List.forall_mem_singleton.mpr (Text.isLoneSurrogate_of_ascii (by decide))⟩

theorem text_ofInt (n : Int) : (Numeral.ofInt n).text = (toString n).toList := by
  rw [Numeral.text, Numeral.ofInt, Option.elim_none, Option.elim_none, List.append_nil,
    List.append_nil]
  cases n with
  | ofNat n => exact String.toList_ofList.symm
  | negSucc n =>
    have hnegative : toString (Int.negSucc n) = "-" ++ Nat.repr (n + 1) := rfl
    have hdigits : (Nat.repr (n + 1)).toList = Nat.toDigits 10 (n + 1) := String.toList_ofList
    rw [hnegative, String.toList_append, hdigits, decide_eq_true (Int.negSucc_lt_zero n)]
    rfl

/-- An integer is written in ASCII. -/
theorem isEncodable_toString [Host] (n : Int) : Text.IsEncodable (toString n) := by
  rw [Text.IsEncodable, ← text_ofInt]
  exact forall_ofInt (fun _ => Text.isLoneSurrogate_of_ascii) n

end Json

end OpenApi
