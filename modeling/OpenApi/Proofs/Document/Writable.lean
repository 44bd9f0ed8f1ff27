/-
Documents in which everything can be shown.

Two things have no text: an integer with too many digits, and containers inside one another beyond
what the host can follow (`Graph.failsWith_shownWithin`). If no container of a document holds such
an integer, neither as a key nor as a value, then exactly those values have a text that do not nest
too deeply (`Graph.exists_shown_iff`), however they are shared; a document with few containers has
no others.

In a document that was decoded from JSON all integers can be written, and all its keys are texts
(`isPlain_of_decode_json`). The integers of a JSON text are bounded as they are read, so the value
of the text has no long ones. And a conversion that starts from a plain document ends with one,
since every container is plain when it is added and when it is filled (`IsPlain.ofJson`).
-/
import OpenApi.Json.Write
import OpenApi.Proofs.Document.Walk
import OpenApi.Proofs.Json.Agreement

set_option autoImplicit false

namespace OpenApi

open OpenApi.Decimal (LongInteger)

/-! ## What can be written -/

/-- A scalar is no integer that is too long. -/
def Scalar.IsWritable : Scalar → Prop
  | .int n => Decimal.isWritable n = true
  | _ => True

/-- A value is no integer that is too long; a container is looked at on its own. -/
def Value.IsWritable : Value → Prop
  | .scalar s => s.IsWritable
  | .container _ => True

/-- One level of a value holds no integer that is too long. -/
def Shape.IsWritable : Shape → Prop
  | .scalar s => s.IsWritable
  | .mapping entries => ∀ e ∈ entries, e.1.IsWritable ∧ e.2.IsWritable
  | .sequence items => ∀ v ∈ items, v.IsWritable
  | .pair first second => ∀ v ∈ [first, second], v.IsWritable
  | .set members => ∀ s ∈ members, s.IsWritable

/-- One level of a value has no other keys than texts. -/
def Shape.HasTextKeys : Shape → Prop
  | .mapping entries => ∀ e ∈ entries, ∃ name, e.1 = .str name
  | _ => True

/-- No container of a document holds an integer that is too long. -/
def Graph.IsWritable (g : Graph) : Prop := ∀ id, (g.content id).IsWritable

/-- No container of a document has other keys than texts. -/
def Graph.HasTextKeys (g : Graph) : Prop := ∀ id, (g.content id).HasTextKeys

/-- The values inside one level of a value. -/
def Shape.parts : Shape → List Value
  | .mapping entries => entries.map (·.2)
  | .sequence items => items
  | .pair first second => [first, second]
  | _ => []

/-- More than `room` containers are inside one another in a value. Nothing is counted inside a
container that is met again, where `around` lists those on the way down. -/
def Graph.NestsBeyond (g : Graph) : (room : Nat) → (around : List Nat) → Value → Prop
  | _, _, .scalar _ => False
  | 0, _, .container _ => True
  | room + 1, around, .container id =>
    id ∉ around ∧ ∃ v ∈ (g.content id).parts, g.NestsBeyond room (id :: around) v

/-- No value of a document has more containers inside one another than are shown. -/
def Graph.IsShallow [Host] (g : Graph) : Prop := ∀ v, ¬ g.NestsBeyond Host.containers [] v

/-- That something has no text tells against one of two properties: too many digits against having
only integers that can be written, too much nesting against being shallow. -/
def Unwritable.TellsAgainst (writable shallow : Prop) : Unwritable → Prop
  | .digits _ => ¬ writable
  | .depth => ¬ shallow

theorem Unwritable.TellsAgainst.mono {writable writable' shallow shallow' : Prop} {e : Unwritable}
    (h : e.TellsAgainst writable shallow) (hw : writable' → writable) (hs : shallow' → shallow) :
    e.TellsAgainst writable' shallow' := by
  cases e with
  | digits _ => exact fun hwritable => h (hw hwritable)
  | depth => exact fun hshallow => h (hs hshallow)

/-! ## Texts -/

/-- A scalar inside a container has a text unless it is an integer that is too long. -/
theorem Scalar.failsWith_shown [Host] (s : Scalar) :
    FailsWith (Unwritable.TellsAgainst s.IsWritable True) s.shown := by
  intro e he
  cases s with
  | int n =>
    rw [shown, Decimal.writeInt] at he
    by_cases hn : Decimal.isWritable n = true
    · rw [if_pos hn] at he
      cases he
    · rw [if_neg hn] at he
      cases he
      exact hn
  | bool b => cases b <;> cases he
  | _ => cases he

theorem Scalar.failsWith_text [Host] (s : Scalar) :
    FailsWith (Unwritable.TellsAgainst s.IsWritable True) s.text := by
  cases s with
  | str _ => exact failsWith_ok _
  | date _ => exact failsWith_ok _
  | timestamp _ => exact failsWith_ok _
  | _ =>
    simp only [text]
    exact failsWith_shown _

namespace Graph

variable {g : Graph}

/-- **Only two things stand in the way of showing a value.** They are an integer that is too long,
and more containers inside one another than there is room for. -/
theorem failsWith_shownWithin [Host] (g : Graph) (room : Nat) (around : List Nat) (v : Value) :
    FailsWith (Unwritable.TellsAgainst (g.IsWritable ∧ v.IsWritable)
      (¬ g.NestsBeyond room around v)) (g.shownWithin room around v) := by
  induction room generalizing around v with
  | zero =>
    cases v with
    | scalar s =>
      rw [shownWithin]
      exact s.failsWith_shown.mono fun _ he => he.mono And.right fun _ => trivial
    | container id =>
      intro e he
      cases he
      exact not_not_intro trivial
  | succ room ih =>
    cases v with
    | scalar s =>
      rw [shownWithin]
      exact s.failsWith_shown.mono fun _ he => he.mono And.right fun _ => trivial
    | container id =>
      rw [shownWithin]
      -- the brackets do not matter, only what the parts fail with
      refine FailsWith.map ?_ _
      by_cases haround : around.contains id = true
      · rw [if_pos haround]
        exact failsWith_ok _
      · rw [if_neg haround]
        have hnew : id ∉ around := by simpa using haround
        have hpart (w : Value) (hw : w ∈ (g.content id).parts)
            (hwritable : g.IsWritable → w.IsWritable) :
            FailsWith (Unwritable.TellsAgainst (g.IsWritable ∧ (Value.container id).IsWritable)
              (¬ g.NestsBeyond (room + 1) around (.container id)))
              (g.shownWithin room (id :: around) w) :=
          (ih (id :: around) w).mono fun _ he => he.mono (fun h => ⟨h.1, hwritable h.1⟩)
            fun hshallow hdeep => hshallow ⟨hnew, w, hw, hdeep⟩
        have hkey (s : Scalar) (hwritable : g.IsWritable → s.IsWritable) :
            FailsWith (Unwritable.TellsAgainst (g.IsWritable ∧ (Value.container id).IsWritable)
              (¬ g.NestsBeyond (room + 1) around (.container id))) s.shown :=
          s.failsWith_shown.mono fun _ he => he.mono (fun h => hwritable h.1) fun _ => trivial
        have hid : g.IsWritable → (g.content id).IsWritable := fun hg => hg id
        rw [content] at hid hpart
        generalize g.shape (.container id) = shape at hid hpart
        cases shape with
        | scalar s =>
          refine failsWith_mapM fun t ht => ?_
          rw [List.mem_singleton.mp ht]
          exact hkey s hid
        | mapping entries =>
          refine failsWith_mapM fun e he => ?_
          refine failsWith_bind (hkey e.1 fun hg => (hid hg e he).1) fun key _ => ?_
          refine failsWith_bind (hpart e.2 (List.mem_map_of_mem he) fun hg => (hid hg e he).2) ?_
          exact fun value _ => failsWith_ok _
        | sequence items => exact failsWith_mapM fun w hw => hpart w hw fun hg => hid hg w hw
        | pair first second => exact failsWith_mapM fun w hw => hpart w hw fun hg => hid hg w hw
        | set members => exact failsWith_mapM fun s hs => hkey s fun hg => hid hg s hs

/-- A value that nests beyond the room there is has no text, whatever else it holds. -/
theorem exists_error_of_nestsBeyond [Host] {room : Nat} {around : List Nat} {v : Value}
    (h : g.NestsBeyond room around v) : ∃ e, g.shownWithin room around v = .error e := by
  induction room generalizing around v with
  | zero =>
    cases v with
    | scalar s => exact absurd h id
    | container id => exact ⟨_, rfl⟩
  | succ room ih =>
    cases v with
    | scalar s => exact absurd h id
    | container id =>
      obtain ⟨hnew, w, hw, hdeep⟩ := h
      obtain ⟨e, he⟩ := ih hdeep
      -- One member without a text leaves the container without one, whatever its brackets are.
      have hparts : ∀ {x : Except Unwritable (List String)} (f : List String → String),
          (∃ e, x = .error e) → ∃ e, x.map f = .error e := by
        rintro x f ⟨e, rfl⟩
        exact ⟨e, rfl⟩
      rw [shownWithin]
      refine hparts _ ?_
      rw [if_neg (by simpa using hnew)]
      rw [content] at hw
      generalize g.shape (.container id) = shape at hw
      cases shape with
      | mapping entries =>
        obtain ⟨entry, hentry, rfl⟩ := List.mem_map.mp hw
        cases hkey : entry.1.shown with
        | error e' => exact exists_error_of_mapM hentry (by rw [hkey]; rfl)
        | ok key => exact exists_error_of_mapM hentry (by rw [hkey, he]; rfl)
      | sequence items => exact exists_error_of_mapM hw he
      | pair first second => exact exists_error_of_mapM hw he
      | scalar s => cases hw
      | set members => cases hw

/-- Each container on the way down is another one, so no value nests deeper than there are
containers. -/
theorem NestsBeyond.le_unseen {room : Nat} {around : List Nat} {v : Value}
    (h : g.NestsBeyond room around v) : room ≤ g.unseen around := by
  induction room generalizing around v with
  | zero => exact Nat.zero_le _
  | succ room ih =>
    cases v with
    | scalar s => exact absurd h id
    | container id =>
      obtain ⟨hnew, w, hw, hdeep⟩ := h
      have hid : id < g.containers.size := by
        refine Nat.lt_of_not_le fun hge => ?_
        have hnone : g.containers[id]? = none := Array.getElem?_eq_none hge
        simp [content, shape, hnone, Shape.parts] at hw
      exact Nat.lt_of_le_of_lt (ih hdeep) (g.unseen_cons_lt hid (by simpa using hnew))

section Host

variable [Host]

/-- A document of few containers is shallow. -/
theorem isShallow_of_size (h : g.containers.size < Host.containers) : g.IsShallow := by
  intro v hdeep
  have hsize : g.unseen [] = g.containers.size := by simp [unseen]
  exact absurd hdeep.le_unseen (by omega)

/-- What a value has no text for: an integer that is too long, or its own nesting. -/
theorem failsWith_text_nesting (g : Graph) {v : Value} (hv : g.IsWritable → v.IsWritable) :
    FailsWith (Unwritable.TellsAgainst g.IsWritable (¬ g.NestsBeyond Host.containers [] v))
      (g.text v) := by
  cases v with
  | scalar s =>
    refine s.failsWith_text.mono fun _ he => he.mono hv fun _ => trivial
  | container id =>
    exact (g.failsWith_shownWithin Host.containers [] (.container id)).mono fun _ he =>
      he.mono (fun hg => ⟨hg, trivial⟩) (fun hshallow => hshallow)

theorem failsWith_text (g : Graph) {v : Value} (hv : g.IsWritable → v.IsWritable) :
    FailsWith (Unwritable.TellsAgainst g.IsWritable g.IsShallow) (g.text v) :=
  (g.failsWith_text_nesting hv).mono fun _ he => he.mono id fun hshallow => hshallow v

/-- **Of what can be written, a container has a text if and only if it does not nest too
deeply.** -/
theorem exists_shown_iff (hg : g.IsWritable) {v : Value} (hv : v.IsWritable) :
    (∃ text, g.shown v = .ok text) ↔ ¬ g.NestsBeyond Host.containers [] v := by
  constructor
  · rintro ⟨text, htext⟩ hdeep
    obtain ⟨e, he⟩ := exists_error_of_nestsBeyond hdeep
    rw [shown, he] at htext
    cases htext
  · intro hshallow
    refine (g.failsWith_shownWithin Host.containers [] v).exists_ok fun e he => ?_
    cases e with
    | digits _ => exact he ⟨hg, hv⟩
    | depth => exact he hshallow

end Host

/-! ## Parts -/

theorem mapping_isWritable (hg : g.IsWritable) {v : Value} {entries : Entries}
    (h : g.mapping? v = some entries) : (Shape.mapping entries).IsWritable := by
  rw [mapping?] at h
  cases v with
  | scalar s => cases h
  | container id =>
    have hid : (g.content id).IsWritable := hg id
    rw [content] at hid
    split at h
    · rename_i hshape
      cases h
      rwa [hshape] at hid
    · cases h

theorem sequence_isWritable (hg : g.IsWritable) {v : Value} {items : List Value}
    (h : g.sequence? v = some items) : (Shape.sequence items).IsWritable := by
  rw [sequence?] at h
  cases v with
  | scalar s => cases h
  | container id =>
    have hid : (g.content id).IsWritable := hg id
    rw [content] at hid
    split at h
    · rename_i hshape
      cases h
      rwa [hshape] at hid
    · cases h

end Graph

/-- What is read from entries that can be written can be written. -/
theorem Entries.read_isWritable {entries : Entries}
    (h : (Shape.mapping entries).IsWritable) (name : String) : (entries.read name).IsWritable := by
  rw [read, get?]
  cases hfind : entries.find? fun e => e.1.sameKey (.str name) with
  | none => trivial
  | some e => exact (h e (List.mem_of_find?_eq_some hfind)).2

/-! ## Documents of JSON texts -/

theorem Decimal.leastUnwritable_eq : leastUnwritable = 10 ^ digitLimit := by
  unfold leastUnwritable
  -- the bound itself must not be computed
  generalize digitLimit = n
  rfl

namespace Json

/-- Digits name a number with no more digits. -/
theorem digitsValue_lt {digits : List Char} (h : ∀ c ∈ digits, c.isDigit = true) :
    digitsValue digits < 10 ^ digits.length := by
  have hfold (n : Nat) : digits.foldl (fun n c => n * 10 + (c.toNat - 48)) n
      < (n + 1) * 10 ^ digits.length := by
    induction digits generalizing n with
    | nil => simp
    | cons c digits ih =>
      obtain ⟨hc, hdigits⟩ := List.forall_mem_cons.mp h
      have hdigit : c.toNat - 48 ≤ 9 := by
        have hle : c.toNat ≤ 57 := by
          simp only [Char.isDigit, Bool.and_eq_true, decide_eq_true_eq] at hc
          exact hc.2
        omega
      have hstep := ih hdigits (n * 10 + (c.toNat - 48))
      rw [List.foldl_cons, List.length_cons, Nat.pow_succ]
      calc _ < (n * 10 + (c.toNat - 48) + 1) * 10 ^ digits.length := hstep
        _ ≤ ((n + 1) * 10) * 10 ^ digits.length := Nat.mul_le_mul_right _ (by omega)
        _ = (n + 1) * (10 ^ digits.length * 10) := by ring
  have hzero := hfold 0
  rwa [Nat.zero_add, Nat.one_mul] at hzero

theorem Numeral.IsValid.isWritable {n : Numeral} (hn : n.IsValid)
    (hlength : n.isInteger = true → n.whole.length ≤ Decimal.digitLimit) :
    n.value.isWritable = true := by
  rw [Numeral.value]
  by_cases hinteger : n.isInteger = true
  · have hlt : digitsValue n.whole < Decimal.leastUnwritable := by
      refine Nat.lt_of_lt_of_le (digitsValue_lt hn.whole.digit) ?_
      rw [Decimal.leastUnwritable_eq]
      exact Nat.pow_le_pow_right (by decide) (hlength hinteger)
    rw [if_pos hinteger, Value.isWritable, Decimal.isWritable, decide_eq_true_eq]
    by_cases hnegative : n.negative = true
    · rwa [if_pos hnegative, Int.natAbs_neg, Int.natAbs_natCast]
    · rwa [if_neg hnegative, Int.natAbs_natCast]
  · rw [if_neg hinteger]
    rfl

theorem haveWritable_insert {fields : Fields} (hfields : haveWritable fields = true) (name : String)
    {value : Value} (hvalue : value.isWritable = true) :
    haveWritable (fields.insert name value) = true := by
  induction fields with
  | nil => rw [Fields.insert, haveWritable, hvalue, haveWritable, Bool.and_self]
  | cons field rest ih =>
    rw [haveWritable, Bool.and_eq_true] at hfields
    rw [Fields.insert]
    split
    · rw [haveWritable, hvalue, hfields.2, Bool.and_self]
    · rw [haveWritable, hfields.1, ih hfields.2, Bool.and_self]

mutual

/-- The value of a text that was read strictly can be written. -/
theorem Lossless.IsValid.isWritable [Host] : {v : Lossless} → ∀ {depth : Nat}, v.IsValid depth →
    v.value.isWritable = true
  | .word w, _, _ => by cases w <;> rfl
  | .number n, _, ⟨hn, hlength⟩ => hn.isWritable hlength
  | .string _, _, _ => rfl
  | .array _ _, _, ⟨_, _, hitems⟩ => hitems.areWritable
  | .object _ _, _, ⟨_, _, hmembers⟩ => hmembers.haveWritable rfl

theorem Items.IsValid.areWritable [Host] : {items : Items} → ∀ {depth : Nat}, items.IsValid depth →
    Json.areWritable items.values = true
  | .stop, _, _ => rfl
  | .last _ _, _, ⟨hv, _⟩ => by
    rw [Items.values, Json.areWritable, hv.isWritable]
    rfl
  | .item _ _ _ _, _, ⟨hv, _, _, _, hrest⟩ => by
    rw [Items.values, Json.areWritable, hv.isWritable, hrest.areWritable]
    rfl

theorem Members.IsValid.haveWritable [Host] : {members : Members} →
    ∀ {depth : Nat} {before : Fields}, members.IsValid depth → Json.haveWritable before = true →
      Json.haveWritable (members.fieldsFrom before) = true
  | .stop, _, _, _, hbefore => hbefore
  | .last _ _ _ _ _, _, _, ⟨_, _, _, hv, _⟩, hbefore =>
    haveWritable_insert hbefore _ hv.isWritable
  | .member _ _ _ _ _ _ _, _, _, ⟨_, _, _, hv, _, _, _, hrest⟩, hbefore =>
    hrest.haveWritable (haveWritable_insert hbefore _ hv.isWritable)

end

/-- The integers of a JSON text are bounded as they are read. -/
theorem isWritable_of_decode [Host] {text : String} {v : Value} (h : decode text = .ok v) :
    v.isWritable = true := by
  obtain ⟨lead, value, after, hread⟩ := exists_read_of_decode h
  rw [decode, hread] at h
  rw [← Except.ok.inj h]
  exact (read_sound hread).1.isWritable

end Json

/-- What a container is, one level deep. -/
def Container.shape : Container → Shape
  | .mapping entries => .mapping entries
  | .sequence items => .sequence items
  | .pair first second => .pair first second
  | .set members => .set members

namespace Graph

/-- A document holds no integer that is too long to be shown, and no key that is no text. -/
structure IsPlain (g : Graph) : Prop where
  writable : g.IsWritable
  keys : g.HasTextKeys

variable {g : Graph}

theorem content_eq (g : Graph) (id : Nat) :
    g.content id = (g.containers[id]?).elim (.scalar .null) Container.shape := by
  rw [content, Graph.shape]
  cases g.containers[id]? with
  | none => rfl
  | some c => cases c <;> rfl

theorem content_add (g : Graph) (c : Container) (id : Nat) :
    (g.add c).1.content id = c.shape ∨ (g.add c).1.content id = g.content id := by
  rw [content_eq, content_eq, add, Array.getElem?_push]
  by_cases hid : id = g.containers.size
  · left
    rw [if_pos hid]
    rfl
  · right
    rw [if_neg hid]

theorem content_set (g : Graph) (c : Container) (id i : Nat) :
    (g.set i c).content id = c.shape ∨ (g.set i c).content id = g.content id := by
  rw [content_eq, content_eq, set, Array.getElem?_setIfInBounds]
  by_cases hid : i = id
  · rw [if_pos hid]
    by_cases hsize : i < g.containers.size
    · left
      rw [if_pos hsize]
      rfl
    · right
      rw [if_neg hsize, Array.getElem?_eq_none (by omega)]
  · right
    rw [if_neg hid]

theorem IsPlain.of_content (hg : g.IsPlain) {g' : Graph} (c : Container)
    (hc : c.shape.IsWritable ∧ c.shape.HasTextKeys)
    (h : ∀ id, g'.content id = c.shape ∨ g'.content id = g.content id) : g'.IsPlain where
  writable id := by
    rcases h id with hid | hid
    · rw [hid]
      exact hc.1
    · rw [hid]
      exact hg.writable id
  keys id := by
    rcases h id with hid | hid
    · rw [hid]
      exact hc.2
    · rw [hid]
      exact hg.keys id

mutual

/-- A JSON value is added to a document without doing it any harm. -/
theorem IsPlain.ofJson {g : Graph} (hg : g.IsPlain) : (v : Json.Value) → v.isWritable = true →
    (g.ofJson v).1.IsPlain ∧ (g.ofJson v).2.IsWritable
  | .null => fun _ => ⟨hg, trivial⟩
  | .bool _ => fun _ => ⟨hg, trivial⟩
  | .int n => by
    intro hv
    rw [Json.Value.isWritable] at hv
    rw [Graph.ofJson, Value.IsWritable, Scalar.IsWritable]
    exact ⟨hg, hv⟩
  | .float _ => fun _ => ⟨hg, trivial⟩
  | .str _ => fun _ => ⟨hg, trivial⟩
  | .array items => by
    intro hv
    have hadd := hg.of_content (.sequence []) ⟨List.forall_mem_nil _, trivial⟩ (g.content_add _)
    obtain ⟨hitems, hvalues⟩ := hadd.ofJsonItems items hv
    rw [Graph.ofJson]
    exact ⟨hitems.of_content (.sequence _) ⟨hvalues, trivial⟩ fun id => content_set _ _ id _,
      trivial⟩
  | .object fields => by
    intro hv
    have hadd := hg.of_content (.mapping []) ⟨List.forall_mem_nil _, List.forall_mem_nil _⟩
      (g.content_add _)
    obtain ⟨hfields, hentries⟩ := hadd.ofJsonFields fields hv
    rw [Graph.ofJson]
    exact ⟨hfields.of_content (.mapping _) hentries fun id => content_set _ _ id _, trivial⟩

theorem IsPlain.ofJsonItems {g : Graph} (hg : g.IsPlain) : (items : List Json.Value) →
    Json.areWritable items = true →
    (g.ofJsonItems items).1.IsPlain ∧ (Shape.sequence (g.ofJsonItems items).2).IsWritable
  | [], _ => ⟨hg, List.forall_mem_nil _⟩
  | item :: rest, h => by
    rw [Json.areWritable, Bool.and_eq_true] at h
    obtain ⟨hitem, hvalue⟩ := hg.ofJson item h.1
    obtain ⟨hrest, hvalues⟩ := hitem.ofJsonItems rest h.2
    rw [Graph.ofJsonItems]
    exact ⟨hrest, List.forall_mem_cons.mpr ⟨hvalue, hvalues⟩⟩

theorem IsPlain.ofJsonFields {g : Graph} (hg : g.IsPlain) :
    (fields : List (String × Json.Value)) → Json.haveWritable fields = true →
    (g.ofJsonFields fields).1.IsPlain
      ∧ (Shape.mapping (g.ofJsonFields fields).2).IsWritable
      ∧ (Shape.mapping (g.ofJsonFields fields).2).HasTextKeys
  | [], _ => ⟨hg, List.forall_mem_nil _, List.forall_mem_nil _⟩
  | (name, item) :: rest, h => by
    rw [Json.haveWritable, Bool.and_eq_true] at h
    obtain ⟨hitem, hvalue⟩ := hg.ofJson item h.1
    obtain ⟨hrest, hentries, hkeys⟩ := hitem.ofJsonFields rest h.2
    rw [Graph.ofJsonFields]
    exact ⟨hrest, List.forall_mem_cons.mpr ⟨⟨trivial, hvalue⟩, hentries⟩,
      List.forall_mem_cons.mpr ⟨⟨name, rfl⟩, hkeys⟩⟩

end

theorem empty_isPlain : Graph.empty.IsPlain where
  writable _ := trivial
  keys _ := trivial

end Graph

/-- **A document that was decoded from JSON is plain.** -/
theorem isPlain_of_decode_json [Host] {text : String} {d : Document}
    (h : decode text (some .json) = .ok d) : d.graph.IsPlain := by
  obtain ⟨v, hv⟩ := exists_json_of_decode h
  rw [(decodesTo_of_json hv).2, Except.ok.injEq] at h
  rw [← h]
  exact (Graph.empty_isPlain.ofJson v (Json.isWritable_of_decode hv)).1

end OpenApi
