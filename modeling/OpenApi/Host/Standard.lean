/-
The host that the program is run on where nothing else is said.

Its limits are those of a call from a shallow place in a usual interpreter; what is proved of the
program does not depend on them.
-/
import OpenApi.Host

set_option autoImplicit false

namespace OpenApi

/-- A host of usual limits, whose reports list the problems line by line. -/
instance Host.standard : Host where
  brackets := 950
  brackets_room := by decide
  nodes := 480
  merges := 950
  valueKeys := 950
  containers := 950
  surrogatePlane := 16
  surrogatePlane_upper := by decide
  report := fun record complaints =>
    s!"{complaints.length} problem(s) with {record}" ++ String.join (complaints.map fun c =>
      "\n" ++ String.intercalate "." c.location ++ s!": {c.kind} ({c.given}, {c.type})")

end OpenApi
