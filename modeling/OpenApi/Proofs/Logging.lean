/-
What setting up a logger leaves behind.

How a call ends is told by the call alone, in whatever state the logger is (`Call.fate`,
`perform_eq`). If it succeeds, it leaves the one sink that was asked for, and nothing of what was
there before (`IsSetUp`). If it does not know the level, it leaves the logger as it was. There is a
third way. A file is opened last, when the old sinks are gone and the level is set, so a call that
cannot open its file fails and leaves a logger without a sink: it does neither all nor nothing
(`perform_eq_self_iff`).

So the level and the sinks behind a run of calls are those of the last call whose level is known
(`setting_performAll`), and if that one could open its target, and only then, the calls of the run
that fail may as well not be made (`performAll_filter_isDone_iff`).
-/
import OpenApi.Host.Standard
import OpenApi.Logging

set_option autoImplicit false

namespace OpenApi.Logger

/-! ## Calls -/

/-- How a call ends. -/
inductive Fate where
  /-- The level is not known. -/
  | unknown
  /-- The logger is set up with this level. -/
  | done (level : Nat)
  /-- The level is this one, but the file cannot be opened. -/
  | unopened (level : Nat) (a : Accident)

namespace Fate

def isDone : Fate → Bool
  | done _ => true
  | _ => false

@[simp] theorem isDone_unknown : unknown.isDone = false := rfl

@[simp] theorem isDone_done (level : Nat) : (done level).isDone = true := rfl

@[simp] theorem isDone_unopened (level : Nat) (a : Accident) :
    (unopened level a).isDone = false := rfl

end Fate

/-- A call to set up the logger: what it asks for, and how the opening of a file ends. -/
structure Call where
  level : String
  file : Option String
  opened : String → Except Accident Unit

namespace Call

/-- Where the call wants records to go. An empty name is no file. -/
def target (c : Call) : SinkTarget := (c.file.filter (· != "")).elim .stream .file

/-- How the opening of the target ends. A stream is open. -/
def access (c : Call) : Except Accident Unit :=
  match c.target with
  | .stream => .ok ()
  | .file path => c.opened path

def fate (c : Call) : Fate :=
  match logLevel? c.level, c.access with
  | none, _ => .unknown
  | some n, .ok () => .done n
  | some n, .error a => .unopened n a

/-- The level and the sinks that the call leaves, if it does not leave them alone. -/
def leaves? (c : Call) : Option (Nat × List Sink) :=
  match c.fate with
  | .unknown => none
  | .done n => some (n, [⟨c.target, n⟩])
  | .unopened n _ => some (n, [])

/-- A call in a world, where files are opened for appending. -/
def within [Host] (w : World) (level : String) (file : Option String) : Call :=
  ⟨level, file, fun path => (w.openForAppend path).map fun _ => ()⟩

theorem isDone_fate_iff {c : Call} :
    c.fate.isDone ↔ (logLevel? c.level).isSome ∧ c.access = .ok () := by
  unfold fate
  cases logLevel? c.level with
  | none => simp
  | some n => cases c.access <;> simp

theorem logLevel?_of_done {c : Call} {n : Nat} (h : c.fate = .done n) :
    logLevel? c.level = some n := by
  unfold fate at h
  split at h <;> cases h
  assumption

theorem logLevel?_of_unopened {c : Call} {n : Nat} {a : Accident} (h : c.fate = .unopened n a) :
    logLevel? c.level = some n := by
  unfold fate at h
  split at h <;> cases h
  assumption

end Call

/-- What a call leaves, and how it ends. -/
def perform (logger : Logger) (c : Call) : Logger × Except SetupError Unit :=
  logger.setUp c.opened c.level c.file

/-- What a run of calls leaves. -/
def performAll (logger : Logger) (calls : List Call) : Logger :=
  calls.foldl (fun logger c => (logger.perform c).1) logger

@[simp] theorem performAll_nil (logger : Logger) : logger.performAll [] = logger := rfl

@[simp] theorem performAll_cons (logger : Logger) (c : Call) (calls : List Call) :
    logger.performAll (c :: calls) = (logger.perform c).1.performAll calls := rfl

/-- The logger has the level that a call asks for, and the one sink at this level, which keeps its
records from others. -/
def IsSetUp (logger : Logger) (c : Call) : Prop :=
  ∃ n, logLevel? c.level = some n ∧ logger = ⟨n, [⟨c.target, n⟩], false⟩

/-- What a call may set of a logger, whether it succeeds or not. -/
def setting (logger : Logger) : Nat × List Sink := (logger.level, logger.sinks)

theorem eq_of_setting {l l' : Logger} (hsetting : l.setting = l'.setting)
    (hpropagates : l.propagates = l'.propagates) : l = l' := by
  obtain ⟨hlevel, hsinks⟩ := Prod.mk.inj hsetting
  cases l
  cases l'
  cases hlevel
  cases hsinks
  cases hpropagates
  rfl

/-! ## One call -/

section

variable (logger : Logger) (c : Call)

/-- **What a call does.** -/
theorem perform_eq :
    logger.perform c = match c.fate with
      | .unknown => (logger, .error (.unknownLevel c.level))
      | .done n => (⟨n, [⟨c.target, n⟩], false⟩, .ok ())
      | .unopened n a => ({ logger with level := n, sinks := [] }, .error (.unopened a)) := by
  unfold perform setUp Call.fate Call.access Call.target
  cases logLevel? c.level with
  | none => rfl
  | some n =>
    cases c.file.filter (· != "") with
    | none => rfl
    | some path =>
      dsimp only [Option.elim_some]
      cases c.opened path <;> rfl

theorem perform_eq_ok_iff : (logger.perform c).2 = .ok () ↔ c.fate.isDone := by
  rw [perform_eq]
  cases c.fate <;> simp

theorem isSetUp_of_ok (h : (logger.perform c).2 = .ok ()) : (logger.perform c).1.IsSetUp c := by
  rw [perform_eq] at h ⊢
  cases hfate : c.fate with
  | done n => exact ⟨n, Call.logLevel?_of_done hfate, rfl⟩
  | _ => simp [hfate] at h

/-- A call that fails leaves the logger as it was, unless it fails at a file; and there, too, if the
level was set before and there were no sinks. -/
theorem perform_eq_self_iff {e : SetupError} (h : (logger.perform c).2 = .error e) :
    (logger.perform c).1 = logger ↔
      ∀ a, e = .unopened a → logLevel? c.level = some logger.level ∧ logger.sinks = [] := by
  rw [perform_eq] at h ⊢
  cases hfate : c.fate with
  | done n => simp [hfate] at h
  | unknown =>
    simp only [hfate, Except.error.injEq] at h
    simp [← h]
  | unopened n a =>
    simp only [hfate, Except.error.injEq] at h
    obtain ⟨level, sinks, propagates⟩ := logger
    simp [← h, Call.logLevel?_of_unopened hfate, eq_comm]

theorem propagates_perform :
    (logger.perform c).1.propagates = (logger.propagates && !c.fate.isDone) := by
  rw [perform_eq]
  cases c.fate <;> simp

theorem setting_perform : (logger.perform c).1.setting = c.leaves?.getD logger.setting := by
  rw [perform_eq, Call.leaves?]
  cases c.fate <;> rfl

end

/-! ## Runs -/

section

variable (logger : Logger) (calls : List Call)

/-- **The level and the sinks are those of the last call whose level is known.** -/
theorem setting_performAll :
    (logger.performAll calls).setting
      = (calls.filterMap Call.leaves?).getLast?.getD logger.setting := by
  induction calls generalizing logger with
  | nil => rfl
  | cons c calls ih =>
    rw [performAll_cons, ih, setting_perform]
    cases hleaves : c.leaves? with
    | none => rw [List.filterMap_cons_none hleaves, Option.getD_none]
    | some left =>
      rw [List.filterMap_cons_some hleaves, List.getLast?_cons, Option.getD_some, Option.getD_some]

/-- Records are kept from others as soon as a call has succeeded. -/
theorem propagates_performAll :
    (logger.performAll calls).propagates = (logger.propagates && !calls.any (·.fate.isDone)) := by
  induction calls generalizing logger with
  | nil => simp
  | cons c calls ih =>
    rw [performAll_cons, ih, propagates_perform, List.any_cons, Bool.not_or, Bool.and_assoc]

/-- A call that succeeds leaves a sink, and no other call does. -/
theorem filterMap_leaves?_filter :
    (calls.filter (·.fate.isDone)).filterMap Call.leaves?
      = (calls.filterMap Call.leaves?).filter fun left => !left.2.isEmpty := by
  induction calls with
  | nil => rfl
  | cons c calls ih =>
    cases hfate : c.fate <;> simp [hfate, Call.leaves?, ih]

theorem performAll_filter_isDone
    (h : ∀ left ∈ (calls.filterMap Call.leaves?).getLast?, left.2 ≠ []) :
    logger.performAll (calls.filter (·.fate.isDone)) = logger.performAll calls := by
  -- A call that leaves a sink is done, so the last one that leaves anything stays if it leaves a
  -- sink.
  have hlast : ((calls.filter (·.fate.isDone)).filterMap Call.leaves?).getLast?
      = (calls.filterMap Call.leaves?).getLast? := by
    rw [filterMap_leaves?_filter]
    cases hleaves : (calls.filterMap Call.leaves?).getLast? with
    | none =>
      rw [List.getLast?_eq_none_iff.mp hleaves]
      rfl
    | some left =>
      obtain ⟨before, hbefore⟩ := List.getLast?_eq_some_iff.mp hleaves
      have hsinks : left.2 ≠ [] := h left hleaves
      rw [hbefore, List.filter_append, List.filter_cons_of_pos (by simp [hsinks]), List.filter_nil,
        List.getLast?_concat]
  have hsetting : (logger.performAll (calls.filter (·.fate.isDone))).setting
      = (logger.performAll calls).setting := by
    rw [setting_performAll, setting_performAll, hlast]
  have hpropagates : (logger.performAll (calls.filter (·.fate.isDone))).propagates
      = (logger.performAll calls).propagates := by
    simp [propagates_performAll]
  exact eq_of_setting hsetting hpropagates

/-- **Calls that fail leave no trace if and only if the last call of known level could open its
target.** Otherwise there is no sink behind the run, while its successful calls would leave one, or
would not even set the level. -/
theorem performAll_filter_isDone_iff :
    (∀ logger : Logger, logger.performAll (calls.filter (·.fate.isDone)) = logger.performAll calls)
      ↔ ∀ left ∈ (calls.filterMap Call.leaves?).getLast?, left.2 ≠ [] := by
  refine ⟨fun h left hleft hnone => ?_, fun h logger => logger.performAll_filter_isDone calls h⟩
  have hsetting := congrArg setting (h ⟨left.1 + 1, [], true⟩)
  rw [setting_performAll, setting_performAll, Option.mem_def.mp hleft, Option.getD_some] at hsetting
  cases hlast : ((calls.filter (·.fate.isDone)).filterMap Call.leaves?).getLast? with
  | none =>
    rw [hlast, Option.getD_none] at hsetting
    have hlevel : left.1 + 1 = left.1 := congrArg Prod.fst hsetting
    omega
  | some other =>
    rw [hlast, Option.getD_some] at hsetting
    have hmem := List.mem_of_getLast? hlast
    rw [filterMap_leaves?_filter, List.mem_filter] at hmem
    simp [hsetting, hnone] at hmem

end

/-! ## Worlds -/

section

variable (logger : Logger) {w : World} {level : String} {file : Option String}

/-- In a world, how the opening of a file ends is up to the world. -/
theorem setUpLogger_eq_perform [Host] :
    (w.setUpLogger logger level file).2 = logger.perform (.within w level file) := by
  unfold World.setUpLogger perform Call.within
  dsimp only
  split <;> rfl

/-- A call that fails makes no file. -/
theorem setUpLogger_of_error [Host] {e : SetupError}
    (h : (w.setUpLogger logger level file).2.2 = .error e) :
    (w.setUpLogger logger level file).1 = w := by
  unfold World.setUpLogger at h ⊢
  dsimp only at h ⊢
  split at h
  · rename_i hok _
    rw [hok] at h
    cases h
  · rfl

end

/-- **Setting up a logger is all or nothing, but for files that cannot be opened.** Whatever the
state of the logger is,

* a call succeeds if and only if its level is known and its target can be opened, and then it leaves
  the level and the one sink that were asked for;
* a call that fails never changes whether records go on to others, and it changes nothing else if
  and only if it does not fail at a file, or there was no sink and the level was the same;
* a run of calls leaves the level and the sinks of the last call whose level is known, and keeps
  records from others once a call has succeeded;
* the calls of a run that fail leave no trace in any logger if and only if the last call whose level
  is known leaves a sink;
* in a world, calls do the same with the files there, and a call that fails makes no file. -/
theorem all_or_nothing_unless_unopened [Host] (logger : Logger) :
    (∀ c, ((logger.perform c).2 = .ok () ↔ (logLevel? c.level).isSome ∧ c.access = .ok ())
        ∧ ((logger.perform c).2 = .ok () → (logger.perform c).1.IsSetUp c))
      ∧ (∀ c e, (logger.perform c).2 = .error e →
          (logger.perform c).1.propagates = logger.propagates
            ∧ ((logger.perform c).1 = logger ↔ ∀ a, e = .unopened a →
                logLevel? c.level = some logger.level ∧ logger.sinks = []))
      ∧ (∀ calls,
          (logger.performAll calls).setting
              = (calls.filterMap Call.leaves?).getLast?.getD logger.setting
            ∧ (logger.performAll calls).propagates
              = (logger.propagates && !calls.any (·.fate.isDone)))
      ∧ (∀ calls : List Call,
          (∀ before : Logger,
              before.performAll (calls.filter (·.fate.isDone)) = before.performAll calls)
            ↔ ∀ left ∈ (calls.filterMap Call.leaves?).getLast?, left.2 ≠ [])
      ∧ ∀ (w : World) (level : String) (file : Option String),
          (w.setUpLogger logger level file).2 = logger.perform (.within w level file)
            ∧ ∀ e, (w.setUpLogger logger level file).2.2 = .error e →
                (w.setUpLogger logger level file).1 = w := by
  refine ⟨fun c => ⟨?_, logger.isSetUp_of_ok c⟩, fun c e h => ⟨?_, logger.perform_eq_self_iff c h⟩,
    fun calls => ⟨logger.setting_performAll calls, logger.propagates_performAll calls⟩,
    performAll_filter_isDone_iff,
    fun w level file => ⟨logger.setUpLogger_eq_perform, fun e => logger.setUpLogger_of_error⟩⟩
  · rw [perform_eq_ok_iff, Call.isDone_fate_iff]
  · have hfate : c.fate.isDone = false := by
      rw [← Bool.not_eq_true, ← logger.perform_eq_ok_iff, h]
      nofun
    rw [propagates_perform, hfate, Bool.not_false, Bool.and_true]

/-- What opening a file comes to where there is no directory for it. -/
def noDirectory : Accident := World.noSuchFile.about "/work/missing/x.log"

def streamCall : Call := ⟨"debug", none, fun _ => .ok ()⟩

def missingCall : Call := ⟨"Info", some "missing/x.log", fun _ => .error noDirectory⟩

/-- A logger that writes to the stream is asked to write to a file that cannot be opened. The call
fails, and then nothing is written anywhere. -/
theorem all_or_nothing_unless_unopened_missingCall :
    (initial.perform streamCall).2 = .ok ()
      ∧ (initial.perform streamCall).1.IsSetUp streamCall
      ∧ ((initial.perform streamCall).1.perform missingCall).2 = .error (.unopened noDirectory)
      ∧ ((initial.perform streamCall).1.perform missingCall).1 ≠ (initial.perform streamCall).1
      ∧ (initial.performAll [streamCall, missingCall]).setting = (20, []) := by
  obtain ⟨hsucceeds, -, hrun, -⟩ := all_or_nothing_unless_unopened initial
  obtain ⟨-, hfails, -⟩ := all_or_nothing_unless_unopened (initial.perform streamCall).1
  have hok : (initial.perform streamCall).2 = .ok () := rfl
  have herror : ((initial.perform streamCall).1.perform missingCall).2
      = .error (.unopened noDirectory) := rfl
  refine ⟨hok, (hsucceeds streamCall).2 hok, herror, fun hsame => ?_, (hrun _).1.trans rfl⟩
  -- the logger would have had no sinks before, but it had the stream
  obtain ⟨-, hsinks⟩ := (hfails missingCall _ herror).2.mp hsame noDirectory rfl
  cases hsinks

end OpenApi.Logger
