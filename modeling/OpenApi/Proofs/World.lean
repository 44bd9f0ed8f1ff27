/-
What is read from a file.

A file gives a text exactly if its bytes encode one, and then it is that text with its line ends
made alike (`fileText?_eq_some_iff`). Otherwise the reading goes wrong, and there is only one other
way for that: the system has something against the path (`fileText?_eq_error_iff`). It can refuse to
open the file, or to go the way to it; what it says about a way on which there is no file does not
count (`Obstructs`).
-/
import OpenApi.Proofs.Outcome
import OpenApi.Proofs.Text.Utf8
import OpenApi.World

set_option autoImplicit false

namespace OpenApi

/-- A text as it is read from a file: every line end is a line feed. -/
def Text.unified (text : String) : String := String.ofList (unifyLineEnds text.toList)

namespace World

variable {w : World} {path text : String} {data : List UInt8} {fault : Text.Utf8Fault}

theorem bytesText_eq_ok_iff : bytesText data = .ok text ↔
    ∃ written, data = Text.bytes written ∧ text = Text.unified written := by
  simp only [← Text.decodeUtf8_eq_ok_iff]
  constructor
  · intro h
    obtain ⟨written, hwritten, hunified⟩ := exists_of_map_ok h
    exact ⟨written, hwritten, hunified.symm⟩
  · rintro ⟨written, hwritten, rfl⟩
    rw [bytesText, hwritten]
    rfl

theorem bytesText_eq_error_iff :
    bytesText data = .error fault ↔ Text.decodeUtf8 data = .error fault := by
  rw [bytesText]
  cases Text.decodeUtf8 data <;> simp [Except.map]

/-- Bytes that do not decode encode no text. -/
theorem ne_bytes_of_error (h : Text.decodeUtf8 data = .error fault) (written : String) :
    data ≠ Text.bytes written := by
  intro hdata
  rw [Text.decodeUtf8_eq_ok_iff.mpr hdata] at h
  cases h

/-- What the system has against reading a file: a name is too long, a directory on the way cannot be
entered, or the file cannot be opened. That there is no file, says no error of these. -/
inductive Obstructs [Host] (w : World) (path : String) : FileError → Prop where
  | name (h : w.lookup (Path.normal path) = .tooLong) :
    Obstructs w path (.accident (nameTooLong.about (Path.normal path)))
  | directory {f : SystemFault} (h : w.lookup (Path.normal path) = .failed f)
    (hnumber : absenceNumbers.contains f.number = false) :
    Obstructs w path (.accident (f.about (Path.normal path)))
  | file {names : List String} {bytes : List UInt8} {f : SystemFault}
    (h : w.lookup (Path.normal path) = .found names (.file bytes))
    (hfault : w.fault? names = some f) :
    Obstructs w path (.unopened (f.about (Path.normal path)))

/-- The bytes of a file can be had, or that there is none can be told, unless the system has
something against it. -/
theorem fileBytes?_eq_error_iff [Host] {e : FileError} :
    w.fileBytes? path = .error e ↔ Obstructs w path e := by
  unfold fileBytes?
  constructor
  · intro h
    split at h
    · rename_i hlookup
      split at h
      · rename_i f hfault
        cases h
        exact .file hlookup hfault
      · cases h
    · rename_i hlookup
      cases h
      exact .name hlookup
    · rename_i f hlookup
      split at h
      · cases h
      · rename_i hnumber
        cases h
        exact .directory hlookup (by simpa using hnumber)
    · cases h
  · intro h
    cases h with
    | name hlookup => rw [hlookup]
    | directory hlookup hnumber =>
      rw [hlookup]
      simp only [hnumber, Bool.false_eq_true, if_false]
    | file hlookup hfault =>
      rw [hlookup]
      simp only [hfault]

theorem fileText?_eq_some_iff [Host] : w.fileText? path = .ok (some text) ↔
    ∃ written, w.fileBytes? path = .ok (some (Text.bytes written))
      ∧ text = Text.unified written := by
  unfold fileText?
  constructor
  · intro h
    split at h
    · cases h
    · cases h
    · rename_i data hdata
      split at h
      · rename_i text' htext
        cases h
        obtain ⟨written, rfl, hunified⟩ := bytesText_eq_ok_iff.mp htext
        exact ⟨written, hdata, hunified⟩
      · cases h
  · rintro ⟨written, hdata, rfl⟩
    rw [hdata]
    dsimp only
    rw [bytesText_eq_ok_iff.mpr ⟨written, rfl, rfl⟩]

/-- **Reading a file goes wrong in two ways.** The system can have something against the path, and
the bytes of the file can encode no text. -/
theorem fileText?_eq_error_iff [Host] {e : FileError} : w.fileText? path = .error e ↔
    Obstructs w path e
      ∨ ∃ data fault, w.fileBytes? path = .ok (some data) ∧ Text.decodeUtf8 data = .error fault
        ∧ e = .accident (undecodable fault) := by
  rw [← fileBytes?_eq_error_iff]
  unfold fileText?
  constructor
  · intro h
    split at h
    · rename_i hbytes
      cases h
      exact .inl hbytes
    · cases h
    · rename_i data hdata
      split at h
      · cases h
      · rename_i fault hfault
        cases h
        exact .inr ⟨data, fault, hdata, bytesText_eq_error_iff.mp hfault, rfl⟩
  · rintro (hbytes | ⟨data, fault, hdata, hfault, rfl⟩)
    · rw [hbytes]
    · rw [hdata]
      dsimp only
      rw [bytesText_eq_error_iff.mpr hfault]

end World

end OpenApi
