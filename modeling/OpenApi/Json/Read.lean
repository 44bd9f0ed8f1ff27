/-
Reading JSON.

A reader takes the characters that are left and gives what it read together with the rest, which
is shorter; so the recursion ends because the text does. Where reading fails, the fault carries
the cause and how many characters were left at the place it is reported at, which fixes the
position once the length of the whole text is known.

Two texts that the strict rules refuse are needed as trees: one with a comma behind the last
item, and one with several values. The flag `lenient` admits the former.
-/
import OpenApi.Decimal.Digits
import OpenApi.Host
import OpenApi.Json.Lossless

set_option autoImplicit false

namespace OpenApi.Json

/-! ## Faults -/

/-- Why a text is not JSON. -/
inductive Problem where
  | value
  | propertyName
  | colon
  | comma
  | extraData
  | unterminated
  | controlChar
  | shortEscape
  | unicodeEscape
  | byteOrderMark
deriving DecidableEq, Repr

/-- The two kinds of bracketed values. -/
inductive Bracket where
  | array
  | object
deriving DecidableEq, Repr

/-- Why reading stopped: the text is malformed, a numeral has more digits than are converted, or
brackets are nested too deeply. -/
inductive Cause where
  | malformed (problem : Problem)
  | digits (count : Nat)
  | depth (bracket : Bracket)
deriving DecidableEq, Repr

/-- A cause, and the number of characters left where it is reported. -/
structure Fault where
  cause : Cause
  left : Nat
deriving DecidableEq, Repr

/-- A fault at the characters `s`. -/
def Fault.at (problem : Problem) (s : List Char) : Fault :=
  ⟨.malformed problem, s.length⟩

/-- What was read from `s`, and what is left of it. -/
structure Parsed (α : Type) (s : List Char) where
  result : α
  rest : List Char
  shorter : rest.length < s.length

/-! ## Tokens -/

def isBlank (c : Char) : Bool :=
  c == ' ' || c == '\t' || c == '\n' || c == '\r'

/-- The blanks at the front. -/
def blanks (s : List Char) : Blank := s.takeWhile isBlank

/-- What follows the blanks at the front. -/
def afterBlanks (s : List Char) : List Char := s.dropWhile isBlank

theorem length_dropWhile_le (p : Char → Bool) (s : List Char) :
    (s.dropWhile p).length ≤ s.length :=
  (List.dropWhile_suffix p).length_le

theorem length_afterBlanks_le (s : List Char) : (afterBlanks s).length ≤ s.length :=
  length_dropWhile_le isBlank s

def isHex (c : Char) : Bool :=
  c.isDigit || ('a' ≤ c && c ≤ 'f') || ('A' ≤ c && c ≤ 'F')

/-- Every word, in the order in which they are tried. -/
def Word.all : List Word :=
  [.null, .true, .false, .nan, .infinity, .minusInfinity]

/-- A word at the front. -/
def readWord? (s : List Char) : Option (Parsed Word s) :=
  Word.all.findSome? fun w =>
    let rest := s.drop w.text.length
    if h : s.take w.text.length = w.text ∧ rest.length < s.length then some ⟨w, rest, h.2⟩
    else none

/-- The digits of a whole number: a zero alone, or digits that start with another one. -/
def wholeDigits : List Char → List Char
  | '0' :: _ => ['0']
  | s => s.takeWhile Char.isDigit

/-- The fraction at the front, if a point is followed by a digit, and what is left. -/
def readFraction : List Char → Option (List Char) × List Char
  | '.' :: s =>
    if (s.takeWhile Char.isDigit).isEmpty then (none, '.' :: s)
    else (some (s.takeWhile Char.isDigit), s.dropWhile Char.isDigit)
  | s => (none, s)

/-- The sign of an exponent at the front. -/
def exponentSign (s : List Char) : Option Char :=
  s.head?.filter fun c => c == '-' || c == '+'

/-- What follows the sign of an exponent. -/
def afterExponentSign (s : List Char) : List Char :=
  if (exponentSign s).isSome then s.drop 1 else s

/-- The exponent at the front, if its mark and sign are followed by a digit, and what is left. -/
def readExponent : List Char → Option Exponent × List Char
  | [] => (none, [])
  | mark :: s =>
    let digits := (afterExponentSign s).takeWhile Char.isDigit
    if (mark = 'e' || mark = 'E') && !digits.isEmpty then
      (some ⟨mark, exponentSign s, digits⟩, (afterExponentSign s).dropWhile Char.isDigit)
    else (none, mark :: s)

theorem length_readFraction_le (s : List Char) : (readFraction s).2.length ≤ s.length := by
  unfold readFraction
  split
  · split
    · exact Nat.le_refl _
    · exact Nat.le_succ_of_le (length_dropWhile_le _ _)
  · exact Nat.le_refl _

theorem length_afterExponentSign_le (s : List Char) : (afterExponentSign s).length ≤ s.length := by
  unfold afterExponentSign
  split <;> simp

theorem length_readExponent_le (s : List Char) : (readExponent s).2.length ≤ s.length := by
  unfold readExponent
  split
  · exact Nat.le_refl _
  · next mark s =>
    simp only
    split
    · exact Nat.le_succ_of_le
        (Nat.le_trans (length_dropWhile_le _ _) (length_afterExponentSign_le s))
    · exact Nat.le_refl _

/-- The characters behind a minus sign, or all of them. -/
def afterSign : List Char → List Char
  | '-' :: s => s
  | s => s

theorem length_afterSign_le (s : List Char) : (afterSign s).length ≤ s.length := by
  unfold afterSign
  split <;> simp

/-- A numeral at the front. -/
def readNumeral? (s : List Char) : Option (Parsed Numeral s) :=
  let digits := wholeDigits (afterSign s)
  let body := (afterSign s).drop digits.length
  let fraction := readFraction body
  let exponent := readExponent fraction.2
  if h : 0 < digits.length ∧ digits.length ≤ (afterSign s).length then
    some
      { result := ⟨s.head? == some '-', digits, fraction.1, exponent.1⟩
        rest := exponent.2
        shorter := by
          have h1 := length_readExponent_le fraction.2
          have h2 := length_readFraction_le body
          have h3 := length_afterSign_le s
          have h4 : body.length = (afterSign s).length - digits.length := by simp [body]
          simp only [exponent, fraction] at h1 h2 ⊢
          omega }
  else none

/-- Whether a numeral is read as an integer. -/
def Numeral.isInteger (n : Numeral) : Bool :=
  n.fraction.isNone && n.exponent.isNone

/-- The characters that may follow a backslash. -/
def isShortEscape (c : Char) : Bool :=
  c == '"' || c == '\\' || c == '/' || c == 'b' || c == 'f' || c == 'n' || c == 'r' || c == 't'

/-- The pieces of a string literal behind its opening quote. `opening` is how many characters
were left at that quote. A code point escape needs a character behind its four digits. -/
def readPieces (opening : Nat) : (s : List Char) → Except Fault (Parsed (List Piece) s)
  | [] => .error ⟨.malformed .unterminated, opening⟩
  | '"' :: s => .ok ⟨[], s, by simp⟩
  | ['\\'] => .error ⟨.malformed .unterminated, opening⟩
  | '\\' :: 'u' :: s =>
    match s with
    | a :: b :: c :: d :: next :: s =>
      if isHex a && isHex b && isHex c && isHex d then
        match readPieces opening (next :: s) with
        | .error f => .error f
        | .ok ⟨pieces, rest, h⟩ =>
          .ok ⟨.unicode a b c d :: pieces, rest, by simp at h ⊢; omega⟩
      else .error ⟨.malformed .unicodeEscape, s.length + 6⟩
    | s => .error ⟨.malformed .unicodeEscape, s.length + 1⟩
  | '\\' :: c :: s =>
    if isShortEscape c then
      match readPieces opening s with
      | .error f => .error f
      | .ok ⟨pieces, rest, h⟩ => .ok ⟨.short c :: pieces, rest, by simp; omega⟩
    else .error ⟨.malformed .shortEscape, s.length + 2⟩
  | c :: s =>
    if c.toNat ≤ 0x1F then .error ⟨.malformed .controlChar, s.length + 1⟩
    else
      match readPieces opening s with
      | .error f => .error f
      | .ok ⟨pieces, rest, h⟩ => .ok ⟨.plain c :: pieces, rest, by simp; omega⟩

/-! ## Values -/

mutual

/-- A value at the front. `depth` is how many more brackets may be opened. A lenient reading takes
a comma behind the last item of a bracket and integers of any length. -/
def readValue (lenient : Bool) (depth : Nat) (s : List Char) :
    Except Fault (Parsed Lossless s) :=
  match s with
  | [] => .error (.at .value [])
  | '"' :: s =>
    match readPieces (s.length + 1) s with
    | .error f => .error f
    | .ok ⟨pieces, rest, h⟩ => .ok ⟨.string pieces, rest, by simp; omega⟩
  | '{' :: s =>
    match depth with
    | 0 => .error ⟨.depth .object, s.length + 1⟩
    | depth + 1 =>
      have bound := length_afterBlanks_le s
      match h : afterBlanks s with
      | '}' :: rest => .ok ⟨.object (blanks s) .stop, rest, by simp [h] at bound ⊢; omega⟩
      | next =>
        match readMembers lenient depth next with
        | .error f => .error f
        | .ok ⟨members, rest, shorter⟩ =>
          .ok ⟨.object (blanks s) members, rest, by simp [h] at bound ⊢; omega⟩
  | '[' :: s =>
    match depth with
    | 0 => .error ⟨.depth .array, s.length + 1⟩
    | depth + 1 =>
      have bound := length_afterBlanks_le s
      match h : afterBlanks s with
      | ']' :: rest => .ok ⟨.array (blanks s) .stop, rest, by simp [h] at bound ⊢; omega⟩
      | next =>
        match readItems lenient depth next with
        | .error f => .error f
        | .ok ⟨items, rest, shorter⟩ =>
          .ok ⟨.array (blanks s) items, rest, by simp [h] at bound ⊢; omega⟩
  | c :: s =>
    match readWord? (c :: s) with
    | some ⟨w, rest, h⟩ => .ok ⟨.word w, rest, h⟩
    | none =>
      match readNumeral? (c :: s) with
      | some ⟨n, rest, h⟩ =>
        if !lenient && n.isInteger && Decimal.digitLimit < n.whole.length then
          .error ⟨.digits n.whole.length, s.length + 1⟩
        else .ok ⟨.number n, rest, h⟩
      | none => .error (.at .value (c :: s))
termination_by (s.length, 0)
decreasing_by
  all_goals
    simp only [List.length_cons, Prod.lex_def]
    simp only [h] at bound
    omega

/-- The items of an array from a value on, up to and with the closing bracket. -/
def readItems (lenient : Bool) (depth : Nat) (s : List Char) : Except Fault (Parsed Items s) :=
  match readValue lenient depth s with
  | .error f => .error f
  | .ok ⟨value, rest, shorter⟩ =>
    have bound := length_afterBlanks_le rest
    match h : afterBlanks rest with
    | ']' :: next => .ok ⟨.last value (blanks rest), next, by simp [h] at bound; omega⟩
    | ',' :: next =>
      have gap := length_afterBlanks_le next
      match h' : afterBlanks next, lenient with
      | ']' :: final, true =>
        .ok ⟨.item value (blanks rest) (blanks next) .stop, final, by
          simp [h] at bound; simp [h'] at gap; omega⟩
      | more, _ =>
        match readItems lenient depth more with
        | .error f => .error f
        | .ok ⟨items, final, shorter'⟩ =>
          .ok ⟨.item value (blanks rest) (blanks next) items, final, by
            simp [h] at bound; simp only [h'] at gap; omega⟩
    | next => .error (.at .comma next)
termination_by (s.length, 1)
decreasing_by
  · exact Prod.Lex.right _ Nat.zero_lt_one
  · simp only [h, List.length_cons] at bound
    simp only [h'] at gap
    simp only [Prod.lex_def]
    omega

/-- The members of an object from a key on, up to and with the closing brace. -/
def readMembers (lenient : Bool) (depth : Nat) (s : List Char) :
    Except Fault (Parsed Members s) :=
  match s with
  | '"' :: s =>
    match readPieces (s.length + 1) s with
    | .error f => .error f
    | .ok ⟨key, afterKey, keyShorter⟩ =>
      have bound := length_afterBlanks_le afterKey
      match h : afterBlanks afterKey with
      | ':' :: next =>
        have lead := length_afterBlanks_le next
        match readValue lenient depth (afterBlanks next) with
        | .error f => .error f
        | .ok ⟨value, rest, shorter⟩ =>
          have tail := length_afterBlanks_le rest
          match h' : afterBlanks rest with
          | '}' :: final =>
            .ok ⟨.last key (blanks afterKey) (blanks next) value (blanks rest), final, by
              simp [h] at bound; simp [h'] at tail; simp; omega⟩
          | ',' :: more =>
            have gap := length_afterBlanks_le more
            match h'' : afterBlanks more, lenient with
            | '}' :: final, true =>
              .ok ⟨.member key (blanks afterKey) (blanks next) value (blanks rest)
                (blanks more) .stop, final, by
                  simp [h] at bound; simp [h'] at tail; simp [h''] at gap; simp; omega⟩
            | others, _ =>
              match readMembers lenient depth others with
              | .error f => .error f
              | .ok ⟨members, final, shorter'⟩ =>
                .ok ⟨.member key (blanks afterKey) (blanks next) value (blanks rest)
                  (blanks more) members, final, by
                    simp [h] at bound; simp [h'] at tail; simp only [h''] at gap; simp; omega⟩
          | others => .error (.at .comma others)
      | others => .error (.at .colon others)
  | others => .error (.at .propertyName others)
termination_by (s.length, 1)
decreasing_by
  · simp only [h, List.length_cons] at bound
    simp only [List.length_cons, Prod.lex_def]
    omega
  · simp only [h, List.length_cons] at bound
    simp only [h', List.length_cons] at tail
    simp only [h''] at gap
    simp only [List.length_cons, Prod.lex_def]
    omega

end

/-! ## Whole texts -/

/-- One value with blanks around it and nothing else, whose brackets are nested no deeper than
`depth`. A text that starts with a byte-order mark is refused before anything else is looked at. -/
def readWithin (depth : Nat) (s : List Char) : Except Fault (Blank × Lossless × Blank) :=
  if s.head? = some '\uFEFF' then .error (.at .byteOrderMark s)
  else
    match readValue false depth (afterBlanks s) with
    | .error f => .error f
    | .ok ⟨value, rest, _⟩ =>
      match afterBlanks rest with
      | [] => .ok (blanks s, value, blanks rest)
      | extra => .error (.at .extraData extra)

/-- One value, whose brackets are nested as deeply as the host allows. -/
def read [Host] (s : List Char) : Except Fault (Blank × Lossless × Blank) :=
  readWithin Host.brackets s

/-- Any number of values, each with the blanks behind it; a comma may stand behind the last item
of a bracket. -/
def readValues (s : List Char) : Except Fault (List (Lossless × Blank)) :=
  match s with
  | [] => .ok []
  | c :: cs =>
    match readValue true (cs.length + 1) (c :: cs) with
    | .error f => .error f
    | .ok ⟨value, rest, _shorter⟩ =>
      have _bound := length_afterBlanks_le rest
      match readValues (afterBlanks rest) with
      | .error f => .error f
      | .ok values => .ok ((value, blanks rest) :: values)
termination_by s.length
decreasing_by
  simp only [List.length_cons] at _shorter ⊢
  omega

/-- A text of any number of values. -/
def readSheet (s : List Char) : Except Fault Sheet :=
  match readValues (afterBlanks s) with
  | .error f => .error f
  | .ok values => .ok ⟨blanks s, values⟩

end OpenApi.Json
