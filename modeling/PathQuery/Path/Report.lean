import PathQuery.Path.Grammar

/-!
# Reports

Reading a path can be reported as a record of what came of it, for those who want neither to handle a
failure nor to lose its wording. A record that was put together by hand may contradict itself, so it
counts as a success only if it says so and holds a path.

## Main definitions

* `Report`, `Path.report` — the record of reading a text.
* `Report.outcome` — the path, or what went wrong.
-/

namespace PathQuery

/-- What came of reading a path. -/
structure Report where
  success : Bool
  path : Option Path
  error : Option String
  position : Option Nat

namespace Report

/-- The path of a record that reports success and holds one, and otherwise its error. -/
def outcome (r : Report) : Except String Path :=
  match r.path with
  | some p => if r.success then .ok p else .error (r.error.getD "unknown parse error")
  | none => .error (r.error.getD "unknown parse error")

end Report

/-- Reads a path and reports what came of it. -/
def Path.report (text : String) : Report :=
  match Path.read text with
  | .ok p => ⟨true, some p, none, none⟩
  | .error e => ⟨false, none, some e.cause.text, some e.position⟩

end PathQuery
