/-
What can go wrong where settings are settled.

Most of it is a failure of the configuration: a file that cannot be opened, that is no JSON or no
object, a flag that names no truth value, values of wrong types. The rest are accidents. Some of
them happen before a file is looked for, where the home directory or the working directory is not
known. The others only the two files can cause. `Breaks` lists how: the way to a file, its bytes, or
a limit of the reading of JSON. For each of them it says what is wrong with the file itself, so that
a file of which none of this can be said causes no accident.
-/
import OpenApi.Proofs.Json.Limits
import OpenApi.Proofs.Settings.Precedence
import OpenApi.Proofs.World

set_option autoImplicit false

namespace OpenApi

namespace Settings

/-! ## Files -/

/-- What makes the reading of a configuration file this accident: a way to it that cannot be gone,
bytes that encode no text, an integer with more digits than are converted, or more brackets than the
host nests. -/
inductive Breaks [Host] (w : World) (path : String) : Accident → Prop where
  | way {a : Accident} (h : World.Obstructs w path (.accident a)) : Breaks w path a
  | bytes {data : List UInt8} {fault : Text.Utf8Fault}
    (hdata : w.fileBytes? path = .ok (some data)) (hnone : ∀ written, data ≠ Text.bytes written)
    (hfault : Text.decodeUtf8 data = .error fault) : Breaks w path (World.undecodable fault)
  | digits {written : String} {count : Nat}
    (hdata : w.fileBytes? path = .ok (some (Text.bytes written)))
    (hjson : Json.decode (Text.unified written) = .error (.digits count))
    (hlimit : Decimal.digitLimit < count)
    (hrun : ∃ digits, digits <:+: (Text.unified written).toList ∧ digits.length = count
      ∧ ∀ c ∈ digits, c.isDigit = true) :
    Breaks w path ⟨"ValueError", (Json.Error.digits count).message⟩
  | nesting {written : String} {bracket : Json.Bracket}
    (hdata : w.fileBytes? path = .ok (some (Text.bytes written)))
    (hjson : Json.decode (Text.unified written) = .error (.depth bracket))
    (hdepth : Host.brackets < Json.openings (Text.unified written).toList) :
    Breaks w path ⟨"RecursionError", (Json.Error.depth bracket).message⟩

section Reading

variable [Host] {w : World} {options : Json.Fields} {path label : String} {a : Accident}

theorem Breaks.readFile (h : Breaks w path a) (label : String) :
    readFile w label path = .error (.accident a) := by
  unfold Settings.readFile
  cases h with
  | way hobstructs => rw [World.fileText?_eq_error_iff.mpr (.inl hobstructs)]
  | bytes hdata _ hfault =>
    rw [World.fileText?_eq_error_iff.mpr (.inr ⟨_, _, hdata, hfault, rfl⟩)]
  | digits hdata hjson _ _ =>
    rw [World.fileText?_eq_some_iff.mpr ⟨_, hdata, rfl⟩]
    dsimp only
    rw [hjson]
  | nesting hdata hjson _ =>
    rw [World.fileText?_eq_some_iff.mpr ⟨_, hdata, rfl⟩]
    dsimp only
    rw [hjson]

end Reading

/-- A byte that starts no character, in the file of the project. -/
def strayByteWorld : World where
  entries := [("/work/specls.json", .file [0xFF])]
  environment := []
  platform := "Linux"
  home := some "/root"
  directory := "/work"
  input := []
  terminal := false
  refusal := encodingAccident?
  request := fun _ => .unreachable ""
  serving := fun _ => .finished

example : resolve strayByteWorld [] = .error (.accident ⟨"UnicodeDecodeError",
    "'utf-8' codec can't decode byte 0xff in position 0: invalid start byte"⟩) := by
  decide +kernel

end Settings

end OpenApi
