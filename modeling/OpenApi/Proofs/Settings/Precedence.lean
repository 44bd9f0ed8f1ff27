/-
Every setting takes its value from the topmost layer that has it.

The layers are merged into one object before anything is checked, so nothing keeps a value of one
layer apart from an error of another. What keeps them apart is that a merged object is only asked
for its fields (`check_congr`), and that a field of the merged object is the field of the topmost
layer that has one (`exists_merged`). Therefore a setting is settled by the value that won for it
(`Setting.Settles`), or fails by it (`Setting.Fails`), and values that lost have no say.

The layers differ in when they have a value: an option must not be null, a variable must not be
empty, and a configuration file must name the field, be it with null. `layers` puts this down, from
the top to the bottom. `Layer.AgreeOn` says of two runs that they differ at most in what is
shadowed, and `settled_by_precedence` says that they have the same outcome then.
-/
import OpenApi.Proofs.Document.Keys
import OpenApi.Proofs.Json.Operations
import OpenApi.Proofs.Json.TopLevel
import OpenApi.Settings

set_option autoImplicit false

namespace OpenApi

/-! ## Settings by name -/

/-- One of the settings, by the type of its values. -/
inductive Setting : Type → Type where
  | checkGrammar : Setting Bool
  | diagnosticSource : Setting String
  | logLevel : Setting String
  | logFile : Setting (Option String)
  | triggerCharacters : Setting (List String)

namespace Setting

/-- The name of a setting in a layer. -/
def name : {α : Type} → Setting α → String
  | _, .checkGrammar => "check_syntax"
  | _, .diagnosticSource => "diagnostic_source"
  | _, .logLevel => "log_level"
  | _, .logFile => "log_file"
  | _, .triggerCharacters => "trigger_characters"

def get : {α : Type} → Setting α → Settings → α
  | _, .checkGrammar, s => s.checkGrammar
  | _, .diagnosticSource, s => s.diagnosticSource
  | _, .logLevel, s => s.logLevel
  | _, .logFile, s => s.logFile
  | _, .triggerCharacters, s => s.triggerCharacters

/-- What a value of a layer is taken for, or what is wrong with it. -/
def validate [Host] : {α : Type} → Setting α → Json.Value → Checked α
  | _, .checkGrammar, v => v.checkBool [name .checkGrammar]
  | _, .diagnosticSource, v => v.checkString [name .diagnosticSource]
  | _, .logLevel, v => v.checkString [name .logLevel]
  | _, .logFile, v => v.checkOptionalString [name .logFile]
  | _, .triggerCharacters, v => v.checkStrings [name .triggerCharacters]

variable [Host] {α : Type}

/-- A setting has this value if that value won in the layers: the default if no layer has one. -/
def Settles (f : Setting α) (won : Option Json.Value) (value : α) : Prop :=
  (won = none → value = f.get {}) ∧ ∀ v, won = some v → f.validate v = .ok value

/-- The value that won does not have the type that a setting needs. -/
def Fails (f : Setting α) (won : Option Json.Value) : Prop :=
  ∃ v, won = some v ∧ ∃ problems, f.validate v = .error problems

/-- The outcome of a setting. -/
def settle (f : Setting α) : Option Json.Value → Checked α
  | none => .ok (f.get {})
  | some v => f.validate v

theorem settle_eq_ok_iff (f : Setting α) {won : Option Json.Value} {value : α} :
    f.settle won = .ok value ↔ f.Settles won value := by
  cases won with
  | none => simp [settle, Settles, eq_comm]
  | some v => simp [settle, Settles]

theorem settle_eq_error_iff (f : Setting α) {won : Option Json.Value} :
    (∃ problems, f.settle won = .error problems) ↔ f.Fails won := by
  cases won with
  | none => simp [settle, Fails]
  | some v => simp [settle, Fails]

end Setting

/-! ## Problems -/

namespace Checked

variable {α β : Type} {name : String}

/-- The problems that a check has found. -/
def problems : Checked α → List FieldError
  | .ok _ => []
  | .error problems => problems

theorem both_eq_ok_iff {x : Checked α} {y : Checked β} {a : α} {b : β} :
    x.both y = .ok (a, b) ↔ x = .ok a ∧ y = .ok b := by
  cases x <;> cases y <;> simp [both]

theorem problems_both (x : Checked α) (y : Checked β) :
    (x.both y).problems = x.problems ++ y.problems := by
  cases x <;> cases y <;> simp [both, problems]

/-- Whatever a check finds, it finds something, and that lies in one field. -/
def IsAbout (name : String) (x : Checked α) : Prop :=
  ∀ problems, x = .error problems →
    problems ≠ [] ∧ ∀ p ∈ problems, p.location.head? = some name

theorem isAbout_ok (a : α) : IsAbout name (.ok a) := nofun

theorem isAbout_fail {location : List String} (h : location.head? = some name)
    (problem : FieldProblem) (given : Given) :
    IsAbout name (fail location problem given : Checked α) := by
  intro problems heq
  cases heq
  exact ⟨List.cons_ne_nil _ _, List.forall_mem_singleton.mpr h⟩

theorem IsAbout.map {x : Checked α} (hx : x.IsAbout name) (f : α → β) :
    IsAbout name (x.map f) := by
  intro problems heq
  cases x with
  | ok a => cases heq
  | error e =>
    cases heq
    exact hx _ rfl

theorem IsAbout.both {x : Checked α} {y : Checked β} (hx : x.IsAbout name)
    (hy : y.IsAbout name) : (x.both y).IsAbout name := by
  intro problems heq
  cases x with
  | ok a =>
    cases y with
    | ok b => cases heq
    | error e =>
      cases heq
      exact hy _ rfl
  | error e =>
    cases y with
    | ok b =>
      cases heq
      exact hx _ rfl
    | error e' =>
      cases heq
      obtain ⟨hne, hfirst⟩ := hx _ rfl
      obtain ⟨-, hsecond⟩ := hy _ rfl
      exact ⟨List.append_ne_nil_of_left_ne_nil hne _, List.forall_mem_append.mpr ⟨hfirst, hsecond⟩⟩

theorem isAbout_elements {check : Nat → α → Checked β} (h : ∀ i a, (check i a).IsAbout name)
    (index : Nat) (items : List α) : (elements check index items).IsAbout name := by
  induction items generalizing index with
  | nil => exact isAbout_ok _
  | cons a rest ih => exact ((h index a).both (ih (index + 1))).map _

end Checked

namespace Json.Value

variable [Host] {location : List String} {name : String}

theorem isAbout_checkString (h : location.head? = some name) (v : Json.Value) :
    (v.checkString location).IsAbout name := by
  cases v with
  | str s => exact Checked.isAbout_ok s
  | _ => exact Checked.isAbout_fail h _ _

theorem isAbout_checkOptionalString (h : location.head? = some name) (v : Json.Value) :
    (v.checkOptionalString location).IsAbout name := by
  cases v with
  | null => exact Checked.isAbout_ok none
  | _ =>
    simp only [checkOptionalString]
    exact (isAbout_checkString h _).map some

omit [Host] in
theorem isAbout_checkBit (h : location.head? = some name) (given : Given) (n : Int) :
    (checkBit location given n).IsAbout name := by
  rw [checkBit]
  split
  · exact Checked.isAbout_ok _
  · split
    · exact Checked.isAbout_ok _
    · exact Checked.isAbout_fail h _ _

theorem isAbout_checkBool (h : location.head? = some name) (v : Json.Value) :
    (v.checkBool location).IsAbout name := by
  cases v with
  | bool b => exact Checked.isAbout_ok b
  | int n =>
    rw [checkBool]
    split
    · exact isAbout_checkBit h _ n
    · exact Checked.isAbout_fail h _ _
  | float x =>
    rw [checkBool]
    split
    · exact isAbout_checkBit h _ _
    · exact Checked.isAbout_fail h _ _
  | str s =>
    rw [checkBool]
    split
    · exact Checked.isAbout_fail h _ _
    · split
      · exact Checked.isAbout_ok _
      · split
        · exact Checked.isAbout_ok _
        · exact Checked.isAbout_fail h _ _
  | _ => exact Checked.isAbout_fail h _ _

theorem isAbout_checkStrings (h : location.head? = some name) (v : Json.Value) :
    (v.checkStrings location).IsAbout name := by
  cases v with
  | array items =>
    refine Checked.isAbout_elements (fun index item => ?_) 0 items
    refine isAbout_checkString ?_ item
    rw [List.head?_append, h]
    rfl
  | _ => exact Checked.isAbout_fail h _ _

end Json.Value

theorem Setting.isAbout_validate [Host] {α : Type} (f : Setting α) (v : Json.Value) :
    (f.validate v).IsAbout f.name := by
  cases f with
  | checkGrammar => exact Json.Value.isAbout_checkBool rfl v
  | diagnosticSource => exact Json.Value.isAbout_checkString rfl v
  | logLevel => exact Json.Value.isAbout_checkString rfl v
  | logFile => exact Json.Value.isAbout_checkOptionalString rfl v
  | triggerCharacters => exact Json.Value.isAbout_checkStrings rfl v

theorem Setting.isAbout_settle [Host] {α : Type} (f : Setting α) (won : Option Json.Value) :
    (f.settle won).IsAbout f.name := by
  cases won with
  | none => exact Checked.isAbout_ok _
  | some v => exact f.isAbout_validate v

/-- A failure of the configuration, as opposed to an accident. -/
def SettingsError.IsConfig [Host] (e : SettingsError) : Prop :=
  ∃ f, e.trouble = .failure f ∧ f.kind = .config

namespace Settings

/-! ## Checking -/

section Checking

variable [Host]

/-- Fields are checked side by side, each on its own. -/
theorem check_eq (fields : Json.Fields) :
    check fields = do
      let (a, b, c, d, e) ← (Setting.checkGrammar.settle (fields.get? "check_syntax")).both
        ((Setting.diagnosticSource.settle (fields.get? "diagnostic_source")).both
          ((Setting.logLevel.settle (fields.get? "log_level")).both
            ((Setting.logFile.settle (fields.get? "log_file")).both
              (Setting.triggerCharacters.settle (fields.get? "trigger_characters")))))
      return ⟨a, b, c, d, e⟩ :=
  rfl

/-- Only the fields that settings name are looked at. -/
theorem check_congr {fields fields' : Json.Fields}
    (h : ∀ {α : Type} (f : Setting α), fields.get? f.name = fields'.get? f.name) :
    check fields = check fields' := by
  have hgrammar : fields.get? "check_syntax" = fields'.get? "check_syntax" := h .checkGrammar
  have hsource : fields.get? "diagnostic_source" = fields'.get? "diagnostic_source" :=
    h .diagnosticSource
  have hlevel : fields.get? "log_level" = fields'.get? "log_level" := h .logLevel
  have hfile : fields.get? "log_file" = fields'.get? "log_file" := h .logFile
  have htriggers : fields.get? "trigger_characters" = fields'.get? "trigger_characters" :=
    h .triggerCharacters
  rw [check_eq, check_eq, hgrammar, hsource, hlevel, hfile, htriggers]

theorem check_eq_ok_iff {fields : Json.Fields} {s : Settings} :
    check fields = .ok s ↔
      ∀ {α : Type} (f : Setting α), f.settle (fields.get? f.name) = .ok (f.get s) := by
  rw [check_eq]
  constructor
  · intro h α f
    obtain ⟨⟨a, b, c, d, e⟩, hboth, hs⟩ := exists_of_bind_ok h
    cases hs
    simp only [Checked.both_eq_ok_iff] at hboth
    obtain ⟨ha, hb, hc, hd, he⟩ := hboth
    cases f with
    | checkGrammar => exact ha
    | diagnosticSource => exact hb
    | logLevel => exact hc
    | logFile => exact hd
    | triggerCharacters => exact he
  · intro h
    have ha := h .checkGrammar
    have hb := h .diagnosticSource
    have hc := h .logLevel
    have hd := h .logFile
    have he := h .triggerCharacters
    simp only [Setting.name] at ha hb hc hd he
    rw [ha, hb, hc, hd, he]
    rfl

theorem check_eq_error_iff {fields : Json.Fields} :
    (∃ problems, check fields = .error problems) ↔
      ∃ (α : Type) (f : Setting α), f.Fails (fields.get? f.name) := by
  constructor
  · rintro ⟨problems, hproblems⟩
    by_contra hnone
    have hsettles {α : Type} (f : Setting α) :
        ∃ value, f.settle (fields.get? f.name) = .ok value := by
      cases hsettle : f.settle (fields.get? f.name) with
      | ok value => exact ⟨value, rfl⟩
      | error e => exact absurd ⟨α, f, f.settle_eq_error_iff.mp ⟨e, hsettle⟩⟩ hnone
    obtain ⟨a, ha⟩ := hsettles .checkGrammar
    obtain ⟨b, hb⟩ := hsettles .diagnosticSource
    obtain ⟨c, hc⟩ := hsettles .logLevel
    obtain ⟨d, hd⟩ := hsettles .logFile
    obtain ⟨e, he⟩ := hsettles .triggerCharacters
    -- each field is settled, so all of them are
    have hok : check fields = .ok ⟨a, b, c, d, e⟩ := by
      rw [check_eq_ok_iff]
      intro α f
      cases f with
      | checkGrammar => exact ha
      | diagnosticSource => exact hb
      | logLevel => exact hc
      | logFile => exact hd
      | triggerCharacters => exact he
    rw [hok] at hproblems
    cases hproblems
  · rintro ⟨α, f, hfails⟩
    obtain ⟨problems, hsettle⟩ := f.settle_eq_error_iff.mpr hfails
    cases hcheck : check fields with
    | ok s =>
      rw [check_eq_ok_iff.mp hcheck f] at hsettle
      cases hsettle
    | error problems => exact ⟨problems, rfl⟩

/-- The problems of all fields are found, and no others. -/
theorem mem_problems_check {fields : Json.Fields} {p : FieldError} :
    p ∈ (check fields).problems ↔
      ∃ (α : Type) (f : Setting α), p ∈ (f.settle (fields.get? f.name)).problems := by
  have hmap {α : Type} (x : Checked α) (k : α → Settings) :
      Checked.problems (x >>= fun a => pure (k a)) = x.problems := by
    cases x <;> rfl
  -- The fields are checked side by side, so that the problems of one do not hide those of another.
  have hproblems : (check fields).problems
      = (Setting.checkGrammar.settle (fields.get? "check_syntax")).problems
        ++ ((Setting.diagnosticSource.settle (fields.get? "diagnostic_source")).problems
          ++ ((Setting.logLevel.settle (fields.get? "log_level")).problems
            ++ ((Setting.logFile.settle (fields.get? "log_file")).problems
              ++ (Setting.triggerCharacters.settle
                (fields.get? "trigger_characters")).problems))) := by
    rw [check_eq]
    refine (hmap _ fun r : Bool × String × String × Option String × List String =>
      ⟨r.1, r.2.1, r.2.2.1, r.2.2.2.1, r.2.2.2.2⟩).trans ?_
    simp only [Checked.problems_both]
  rw [hproblems]
  simp only [List.mem_append]
  constructor
  · rintro (h | h | h | h | h)
    · exact ⟨_, .checkGrammar, h⟩
    · exact ⟨_, .diagnosticSource, h⟩
    · exact ⟨_, .logLevel, h⟩
    · exact ⟨_, .logFile, h⟩
    · exact ⟨_, .triggerCharacters, h⟩
  · rintro ⟨_, f, h⟩
    cases f with
    | checkGrammar => exact .inl h
    | diagnosticSource => exact .inr (.inl h)
    | logLevel => exact .inr (.inr (.inl h))
    | logFile => exact .inr (.inr (.inr (.inl h)))
    | triggerCharacters => exact .inr (.inr (.inr (.inr h)))

/-- A field is named by a problem exactly if it fails. -/
theorem names_problem_iff {fields : Json.Fields} {name : String} :
    (∃ p ∈ (check fields).problems, p.location.head? = some name) ↔
      ∃ (α : Type) (f : Setting α), f.name = name ∧ f.Fails (fields.get? f.name) := by
  constructor
  · rintro ⟨p, hp, hhead⟩
    obtain ⟨α, f, hpf⟩ := mem_problems_check.mp hp
    cases hsettle : f.settle (fields.get? f.name) with
    | ok a =>
      rw [hsettle] at hpf
      cases hpf
    | error problems =>
      rw [hsettle] at hpf
      have hname := (f.isAbout_settle _ _ hsettle).2 p hpf
      rw [hhead, Option.some.injEq] at hname
      exact ⟨α, f, hname.symm, f.settle_eq_error_iff.mp ⟨problems, hsettle⟩⟩
  · rintro ⟨α, f, hname, hfails⟩
    obtain ⟨problems, hsettle⟩ := f.settle_eq_error_iff.mpr hfails
    obtain ⟨hne, hheads⟩ := f.isAbout_settle _ _ hsettle
    obtain ⟨p, hp⟩ := List.exists_mem_of_ne_nil _ hne
    refine ⟨p, mem_problems_check.mpr ⟨α, f, ?_⟩, by rw [hheads p hp, hname]⟩
    rw [hsettle]
    exact hp

end Checking

/-! ## Layers -/

/-- A layer of values by their names. -/
abbrev Layer := String → Option Json.Value

/-- The text that decides what a variable for grammar checks says. -/
def flagName (value : String) : String := Text.lower (String.ofList (Text.trim value.toList))

/-- The values that variables of the environment set. Empty variables set nothing. -/
def variableLayer (w : World) : Layer := fun name =>
  if name = "log_level" then (filled? w "SPECLS_LOG_LEVEL").map .str
  else if name = "log_file" then (filled? w "SPECLS_LOG_FILE").map .str
  else if name = "check_syntax" then
    (filled? w "SPECLS_CHECK_SYNTAX").map fun value => .bool (trueFlags.contains (flagName value))
  else none

/-- The values of options. Null counts as not given. -/
def optionLayer (options : Json.Fields) : Layer := fun name =>
  (options.get? name).filter fun v => !v.isNull

/-- All layers from the top to the bottom. -/
def layers (w : World) (options project user : Json.Fields) : List Layer :=
  [optionLayer options, variableLayer w, project.get?, user.get?]

/-- The value that the topmost layer has which has one. -/
def winner (ls : List Layer) (name : String) : Option Json.Value := ls.findSome? (· name)

/-- Layers that agree on a name as far as it counts, which is down to the first one that has it.
What is below may differ in any way, and so may other names. -/
inductive Layer.AgreeOn (name : String) : List Layer → List Layer → Prop where
  | bottom : AgreeOn name [] []
  | won {l l' : Layer} {v : Json.Value} (below below' : List Layer) : l name = some v →
      l' name = some v → AgreeOn name (l :: below) (l' :: below')
  | passed {l l' : Layer} {below below' : List Layer} : l name = none → l' name = none →
      AgreeOn name below below' → AgreeOn name (l :: below) (l' :: below')

theorem winner_nil (name : String) : winner [] name = none := rfl

theorem winner_cons (l : Layer) (below : List Layer) (name : String) :
    winner (l :: below) name = (l name).or (winner below name) := by
  rw [winner, List.findSome?_cons]
  cases l name <;> rfl

theorem Layer.AgreeOn.winner_eq {name : String} {ls ls' : List Layer} (h : AgreeOn name ls ls') :
    winner ls name = winner ls' name := by
  induction h with
  | bottom => rfl
  | won below below' hl hl' =>
    rw [winner_cons, winner_cons, hl, hl', Option.some_or, Option.some_or]
  | passed hl hl' _ ih => rw [winner_cons, winner_cons, hl, hl', ih]

/-- What a run reads its settings from. Both configuration files are objects, or are not there.
The variable for grammar checks is not set, is empty, or names a truth value. An option is given
once. -/
structure Reads [Host] (w : World) (options project user : Json.Fields) : Prop where
  options : (options.map Prod.fst).Nodup
  project : readProject w = .ok project
  user : readUser w = .ok user
  flag : ∀ value, filled? w "SPECLS_CHECK_SYNTAX" = some value →
    flagName value ∈ trueFlags ++ falseFlags

/-! ## Merging -/

section Merging

variable {w : World} {options project user : Json.Fields}

/-- No configuration file gives a field twice. -/
theorem nodup_readFile [Host] {label path : String} {fields : Json.Fields}
    (h : readFile w label path = .ok fields) : (fields.map Prod.fst).Nodup := by
  unfold readFile at h
  split at h
  · cases h
  · cases h
  · cases h
    exact List.nodup_nil
  · split at h
    · cases h
    · cases h
    · cases h
    · rename_i hdecode
      cases h
      exact (Json.hasDistinctNames_of_decode hdecode).1
    · cases h

theorem nodup_readProject [Host] {fields : Json.Fields} (h : readProject w = .ok fields) :
    (fields.map Prod.fst).Nodup := by
  unfold readProject at h
  split at h
  · exact nodup_readFile h
  · cases h

theorem get?_cons (f : String × Json.Value) (rest : Json.Fields) (name : String) :
    Json.Fields.get? (f :: rest) name = if f.1 = name then some f.2 else rest.get? name := by
  by_cases hname : f.1 = name
  · rw [if_pos hname, Json.Fields.get?, List.find?_cons, beq_iff_eq.mpr hname]
    rfl
  · rw [if_neg hname, Json.Fields.get?, List.find?_cons, beq_eq_false_iff_ne.mpr hname]
    rfl

theorem get?_of_not_mem {fields : Json.Fields} {name : String}
    (h : name ∉ fields.map Prod.fst) : fields.get? name = none := by
  rw [Json.Fields.get?, Option.map_eq_none_iff, List.find?_eq_none]
  intro f hf hname
  exact h (beq_iff_eq.mp hname ▸ List.mem_map_of_mem hf)

/-- What is laid over hides what is below. -/
theorem get?_overlay {below above : Json.Fields} (h : (above.map Prod.fst).Nodup) (name : String) :
    (overlay below above).get? name = (above.get? name).or (below.get? name) := by
  induction above generalizing below with
  | nil => rfl
  | cons f rest ih =>
    obtain ⟨hfirst, hrest⟩ := List.nodup_cons.mp h
    have hstep : overlay below (f :: rest) = overlay (below.insert f.1 f.2) rest := rfl
    rw [hstep, ih hrest, Json.Fields.get?_insert, get?_cons]
    by_cases hname : f.1 = name
    · -- the field is not among the rest, so the one that was put in counts
      rw [get?_of_not_mem (hname ▸ hfirst), if_pos (beq_iff_eq.mpr hname), if_pos hname]
      rfl
    · rw [if_neg (by simpa using hname), if_neg hname]

theorem get?_append (xs ys : Json.Fields) (name : String) :
    Json.Fields.get? (xs ++ ys) name = (xs.get? name).or (ys.get? name) := by
  rw [Json.Fields.get?, List.find?_append, Option.map_or]
  rfl

/-- A truth value that the variable for grammar checks names. -/
theorem flag_eq {value : String} (h : flagName value ∈ trueFlags ++ falseFlags) :
    flag value = .ok (trueFlags.contains (flagName value)) := by
  have hdef : flag value = if trueFlags.contains (flagName value) then .ok true
      else if falseFlags.contains (flagName value) then .ok false else .error (.badFlag value) :=
    rfl
  rw [hdef]
  rcases List.mem_append.mp h with htrue | hfalse
  · rw [if_pos (List.contains_iff_mem.mpr htrue), List.contains_iff_mem.mpr htrue]
  · by_cases htrue : trueFlags.contains (flagName value) = true
    · rw [if_pos htrue, htrue]
    · rw [if_neg htrue, if_pos (List.contains_iff_mem.mpr hfalse), Bool.eq_false_iff.mpr htrue]

/-- A layer of one field, if it is set. -/
theorem get?_toList (o : Option String) (key : String) (value : String → Json.Value)
    (name : String) :
    Json.Fields.get? (o.toList.map fun text => (key, value text)) name
      = if name = key then o.map value else none := by
  cases o with
  | none =>
    rw [Option.map_none, ite_self]
    rfl
  | some text =>
    by_cases hname : name = key
    · simp [Json.Fields.get?, hname]
    · simp [Json.Fields.get?, hname, Ne.symm hname]

/-- The names in the layer of variables do not collide, and it has what they set. -/
theorem exists_environmentLayer [Host] (h : Reads w options project user) :
    ∃ environment, environmentLayer w = .ok environment ∧ (environment.map Prod.fst).Nodup
      ∧ ∀ name, environment.get? name = variableLayer w name := by
  refine ⟨(filled? w "SPECLS_LOG_LEVEL").toList.map (fun value => ("log_level", .str value))
    ++ (filled? w "SPECLS_LOG_FILE").toList.map (fun value => ("log_file", .str value))
    ++ (filled? w "SPECLS_CHECK_SYNTAX").toList.map (fun value =>
      ("check_syntax", .bool (trueFlags.contains (flagName value)))), ?_, ?_, ?_⟩
  · rw [environmentLayer]
    cases hvalue : filled? w "SPECLS_CHECK_SYNTAX" with
    | none => rfl
    | some value =>
      dsimp only
      rw [flag_eq (h.flag value hvalue)]
      rfl
  · -- each of the three names is there at most once
    cases filled? w "SPECLS_LOG_LEVEL" <;> cases filled? w "SPECLS_LOG_FILE" <;>
      cases filled? w "SPECLS_CHECK_SYNTAX" <;> simp
  · intro name
    rw [get?_append, get?_append, get?_toList, get?_toList, get?_toList, variableLayer]
    by_cases hlevel : name = "log_level"
    · simp [hlevel]
    · by_cases hfile : name = "log_file"
      · simp [hfile]
      · simp [hlevel, hfile]

/-- Options that are null are left out before they are laid over the rest. -/
theorem get?_given (h : (options.map Prod.fst).Nodup) (name : String) :
    Json.Fields.get? (options.filter fun f => !f.2.isNull) name = optionLayer options name := by
  induction options with
  | nil => rfl
  | cons f rest ih =>
    obtain ⟨hfirst, hrest⟩ := List.nodup_cons.mp h
    rw [optionLayer, get?_cons, List.filter_cons]
    by_cases hname : f.1 = name
    · -- if this one is null, no other is left that could be found in its place
      have hnone : Json.Fields.get? rest name = none := get?_of_not_mem (hname ▸ hfirst)
      rw [if_pos hname]
      cases hnull : f.2.isNull with
      | true => simpa [Option.filter, hnull, optionLayer, hnone] using ih hrest
      | false => simp [Option.filter, hnull, get?_cons, hname]
    · rw [if_neg hname]
      split
      · rw [get?_cons, if_neg hname]
        exact ih hrest
      · exact ih hrest

/-- **The merged object.** Its fields are those of the topmost layers that have them, and it is what
is checked. -/
theorem exists_merged [Host] (h : Reads w options project user) :
    ∃ fields : Json.Fields,
      (∀ name, fields.get? name = winner (layers w options project user) name)
        ∧ resolve w options = (check fields).mapError .invalid := by
  obtain ⟨environment, henvironment, hnodup, hvariables⟩ := exists_environmentLayer h
  have hgiven : ((options.filter fun f => !f.2.isNull).map Prod.fst).Nodup :=
    (List.filter_sublist.map Prod.fst).nodup h.options
  refine ⟨overlay (overlay (overlay user project) environment)
    (options.filter fun f => !f.2.isNull), ?_, ?_⟩
  · intro name
    rw [get?_overlay hgiven, get?_overlay hnodup, get?_overlay (nodup_readProject h.project),
      get?_given h.options, hvariables, layers]
    simp only [winner_cons, winner_nil, Option.or_none]
  · have hfilter (p : String × Json.Value → Bool) (hp : ∀ f, p f = !f.2.isNull) :
        options.filter p = options.filter fun f => !f.2.isNull :=
      List.filter_congr fun f _ => hp f
    rw [resolve, h.user, h.project, henvironment]
    simp only [bind, Except.bind]
    rw [hfilter]
    · generalize check _ = outcome
      cases outcome <;> rfl
    · intro f
      cases f.2 <;> rfl

end Merging

/-- **Every setting is settled by its topmost layer.** Let both configuration files be objects, or
not be there, and let the variable for grammar checks name a truth value if it is set to something.
The settings of a run are those whose values the winning values are taken for, with the default
where no layer has a value. There are none exactly if a winning value does not have the type that
its setting needs. Then this is a failure of the configuration, and its problems lie in just the
fields of these settings. And what is shadowed, or is under a name that no setting has, does not
matter: another run whose layers agree with those of this one as far as they count has the same
outcome. -/
theorem settled_by_precedence [Host] {w : World} {options project user : Json.Fields}
    (h : Reads w options project user) :
    (∀ s, resolve w options = .ok s ↔ ∀ {α : Type} (f : Setting α),
        f.Settles (winner (layers w options project user) f.name) (f.get s))
      ∧ ((∃ e, resolve w options = .error e) ↔ ∃ (α : Type) (f : Setting α),
        f.Fails (winner (layers w options project user) f.name))
      ∧ (∀ e, resolve w options = .error e → e.IsConfig ∧ ∃ problems, e = .invalid problems
        ∧ ∀ name, (∃ p ∈ problems, p.location.head? = some name) ↔
          ∃ (α : Type) (f : Setting α), f.name = name
            ∧ f.Fails (winner (layers w options project user) f.name))
      ∧ ∀ w' options' project' user', Reads w' options' project' user' →
        (∀ {α : Type} (f : Setting α), Layer.AgreeOn f.name (layers w options project user)
          (layers w' options' project' user')) →
        resolve w' options' = resolve w options := by
  -- All four parts speak of the merged object, whose fields are the winning values.
  obtain ⟨fields, hfields, hresolve⟩ := exists_merged h
  have hok : ∀ s, resolve w options = .ok s ↔ check fields = .ok s := by
    intro s
    rw [hresolve]
    cases check fields <;> simp [Except.mapError]
  have herror : ∀ e, resolve w options = .error e ↔
      ∃ problems, check fields = .error problems ∧ e = .invalid problems := by
    intro e
    rw [hresolve]
    cases check fields <;> simp [Except.mapError, eq_comm]
  refine ⟨?_, ?_, ?_, ?_⟩
  · intro s
    rw [hok, check_eq_ok_iff]
    simp only [Setting.settle_eq_ok_iff, hfields]
  · simp only [herror, ← hfields, ← check_eq_error_iff]
    constructor
    · rintro ⟨_, problems, hproblems, -⟩
      exact ⟨problems, hproblems⟩
    · rintro ⟨problems, hproblems⟩
      exact ⟨_, problems, hproblems, rfl⟩
  · intro e he
    obtain ⟨problems, hproblems, rfl⟩ := (herror e).mp he
    refine ⟨⟨_, rfl, rfl⟩, problems, rfl, fun name => ?_⟩
    have hnames := @names_problem_iff _ fields name
    rw [hproblems] at hnames
    simp only [hfields] at hnames
    exact hnames
  · intro w' options' project' user' h' hagree
    obtain ⟨fields', hfields', hresolve'⟩ := exists_merged h'
    -- The merged objects may differ in fields that no setting has. The check does not look at
    -- these.
    have hcheck : check fields = check fields' := by
      refine check_congr fun f => ?_
      rw [hfields, hfields', (hagree f).winner_eq]
    rw [hresolve, hresolve', hcheck]

theorem readFile_of_found [Host] {w : World} {path : String} {names : List String}
    {bytes : List UInt8} {text : String} {fields : Json.Fields}
    (hfound : w.lookup (Path.normal path) = .found names (.file bytes))
    (hopens : w.fault? names = none) (htext : World.bytesText bytes = .ok text)
    (hjson : Json.decode text = .ok (.object fields)) (label : String) :
    readFile w label path = .ok fields := by
  have hread : w.fileText? path = .ok (some text) := by
    unfold World.fileText? World.fileBytes?
    rw [hfound]
    dsimp only
    rw [hopens]
    dsimp only
    rw [htext]
  unfold readFile
  rw [hread]
  dsimp only
  rw [hjson]

/-- The configuration of a project. -/
def projectText : String := "\x7b\"log_level\":\"INFO\",\"log_file\":null\x7d"

def projectFields : Json.Fields := [("log_level", .str "INFO"), ("log_file", .null)]

/-- Surroundings with a configuration of the user, this one of the project, and two variables. -/
def layeredWorld (user : String) : World where
  entries := [("/root/.config/specls/config.json", .file (Text.bytes user)),
    ("/work/specls.json", .file (Text.bytes projectText))]
  environment := [("SPECLS_CHECK_SYNTAX", " Off "), ("SPECLS_LOG_FILE", "")]
  platform := "Linux"
  home := some "/root"
  directory := "/work"
  input := []
  terminal := false
  refusal := encodingAccident?
  request := fun _ => .unreachable ""
  serving := fun _ => .finished

/-- Options of which one is not given. -/
def givenOptions : Json.Fields := [("check_syntax", .null), ("log_level", .str "ERROR")]

/-- Two configurations of the user: they differ in a level, which is shadowed, and in a name that no
setting has. -/
def shadowedText : String :=
  "\x7b\"log_level\":5,\"diagnostic_source\":\"u\",\"a\":1\x7d"

def shadowedFields : Json.Fields :=
  [("log_level", .int 5), ("diagnostic_source", .str "u"), ("a", .int 1)]

def bareText : String := "\x7b\"diagnostic_source\":\"u\"\x7d"

def bareFields : Json.Fields := [("diagnostic_source", .str "u")]

theorem reads_layeredWorld {user : String} {fields : Json.Fields}
    (hdirectory : (layeredWorld user).isDirectory (layeredWorld user).directory = true)
    (hhome : isHomeless (layeredWorld user) = false)
    (hproject : (layeredWorld user).lookup (Path.normal (projectPath (layeredWorld user)))
      = .found ["work", "specls.json"] (.file (Text.bytes projectText)))
    (huser : (layeredWorld user).lookup (Path.normal (userPath (layeredWorld user)))
      = .found ["root", ".config", "specls", "config.json"] (.file (Text.bytes user)))
    (htext : World.bytesText (Text.bytes user) = .ok user)
    (hjson : Json.decode user = .ok (.object fields)) :
    Reads (layeredWorld user) givenOptions projectFields fields where
  options := by decide
  project := by
    have hread : World.bytesText (Text.bytes projectText) = .ok projectText := by cbv
    have hfields : Json.decode projectText = .ok (.object projectFields) := by cbv
    rw [readProject, if_pos hdirectory]
    exact readFile_of_found hproject rfl hread hfields "project"
  user := by
    rw [readUser, if_neg (Bool.eq_false_iff.mp hhome)]
    exact readFile_of_found huser rfl htext hjson "global"
  flag := by
    intro value hvalue
    have hset : filled? (layeredWorld user) "SPECLS_CHECK_SYNTAX" = some " Off " := rfl
    obtain rfl := Option.some.inj (hset.symm.trans hvalue)
    decide +kernel

theorem reads_shadowedText :
    Reads (layeredWorld shadowedText) givenOptions projectFields shadowedFields :=
  reads_layeredWorld (by decide +kernel) (by decide +kernel) (by decide +kernel)
    (by decide +kernel) (by cbv) (by cbv)

theorem reads_bareText : Reads (layeredWorld bareText) givenOptions projectFields bareFields :=
  reads_layeredWorld (by decide +kernel) (by decide +kernel) (by decide +kernel)
    (by decide +kernel) (by cbv) (by cbv)

/-- The level of the user has the wrong type, but an option hides it. The empty variable sets
nothing, so the file for logs is what the project says, and that is null. -/
theorem settled_by_precedence_layeredWorld :
    Reads (layeredWorld shadowedText) givenOptions projectFields shadowedFields
      ∧ Reads (layeredWorld bareText) givenOptions projectFields bareFields
      ∧ resolve (layeredWorld shadowedText) givenOptions
        = .ok { checkGrammar := false, diagnosticSource := "u", logLevel := "ERROR" }
      ∧ resolve (layeredWorld bareText) givenOptions
        = resolve (layeredWorld shadowedText) givenOptions := by
  obtain ⟨hsettled, -, -, hagree⟩ := settled_by_precedence reads_shadowedText
  refine ⟨reads_shadowedText, reads_bareText, (hsettled _).mpr ?_, ?_⟩
  · intro α f
    refine f.settle_eq_ok_iff.mp ?_
    cases f with
    | checkGrammar => rfl
    | diagnosticSource => rfl
    | logLevel => rfl
    | logFile => rfl
    | triggerCharacters => rfl
  · refine hagree _ _ _ _ reads_bareText fun f => ?_
    cases f with
    | checkGrammar => exact .passed rfl rfl (.won _ _ rfl rfl)
    | diagnosticSource =>
      exact .passed rfl rfl (.passed rfl rfl (.passed rfl rfl (.won _ _ rfl rfl)))
    | logLevel => exact .won _ _ rfl rfl
    | logFile => exact .passed rfl rfl (.passed rfl rfl (.won _ _ rfl rfl))
    | triggerCharacters =>
      exact .passed rfl rfl (.passed rfl rfl (.passed rfl rfl (.passed rfl rfl .bottom)))

end Settings

end OpenApi
