import Regex.Captures
import Regex.Text.Quoted

/-!
# Reports

What the command prints about one subject.

* `Report.lines`: a line for the outcome, then a line for each group.

A captured range that cannot be cut from the subject ends the report; this happens only if its end
lies before its start.
-/

namespace Regex.Command

/-- The report on one subject: its lines, and the range that could not be shown, if any. -/
structure Report where
  lines : List String
  broken : Option Range

namespace Report

/-- The word for an outcome. -/
def kind : Option Captures → String
  | none => "no match"
  | some captures => if captures.isPartial then "partial match" else "match"

/-- The first line of a report. -/
def header (subject : String) (found : Option Captures) : String :=
  subject ++ ": " ++ kind found

/-- The line of a group that is set. -/
def setLine (group : Nat) (range : Range) (text : List UInt8) : String :=
  "  " ++ toString group ++ ": " ++ toString range.start ++ ".." ++ toString range.stop ++ " " ++
    Quoted.text (Utf8.lossy text)

/-- The line of a group that took no part. -/
def unsetLine (group : Nat) : String := "  " ++ toString group ++ ": unset"

/-- The lines of groups, numbered from `group`. -/
def groups (subject : ByteArray) (group : Nat) : List (Option Range) → Report
  | [] => ⟨[], none⟩
  | none :: rest =>
    let report := groups subject (group + 1) rest
    { report with lines := unsetLine group :: report.lines }
  | some range :: rest =>
    match range.slice? subject with
    | some text =>
      let report := groups subject (group + 1) rest
      { report with lines := setLine group range text.toList :: report.lines }
    | none => ⟨[], some range⟩

/-- The report on a subject. -/
def ofMatch (subject : String) (found : Option Captures) : Report :=
  match found with
  | none => ⟨[header subject none], none⟩
  | some captures =>
    let report := groups subject.toUTF8 0 captures.ranges
    { report with lines := header subject found :: report.lines }

end Report

end Regex.Command
