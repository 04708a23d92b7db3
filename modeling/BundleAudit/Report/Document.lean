import BundleAudit.Decimal.Places
import BundleAudit.Report.Basic
import BundleAudit.Time.Stamp

/-!
# The report document

The report for machines. Times are in milliseconds with three places.
-/

namespace BundleAudit

def milliseconds (seconds : Float) : Json := .float (Decimal.roundTo 3 (seconds * 1000.0))

def Outcome.toJson (o : Outcome) : Json :=
  .obj [("task", .str o.rule), ("file", .str o.file), ("status", .str o.status.name),
    ("executionTime", milliseconds o.duration), ("violations", .int o.violations.length),
    ("faulted", .bool o.faulted)]

def FileFault.toJson (f : FileFault) : Json :=
  .obj [("file", .str f.file), ("message", .str f.message)]

namespace Report

/-- The outcomes by file and rule. -/
def sortedOutcomes (r : Report) : List Outcome :=
  r.outcomes.mergeSort fun o p => ((compare o.file p.file).then (compare o.rule p.rule)).isLE

/-- The document of a report, if its time stamp has a text. -/
def document (r : Report) (strict : Bool) : Except Time.StampError Json := do
  let stamp ← Time.stampText r.timestamp
  return .obj
    [("summary", .obj
      [("passed", .int r.passed), ("failed", .int r.failed), ("warnings", .int r.warnings),
       ("total", .int (r.passed + r.failed + r.warnings)), ("success", .bool (r.isSuccess strict))]),
     ("metadata", .obj
      [("parallel", .bool r.parallel), ("workers", .int r.workers),
       ("filesScanned", .int r.filesScanned), ("strict", .bool strict), ("timestamp", .str stamp)]),
     ("tasks", .arr (r.sortedOutcomes.map Outcome.toJson)),
     ("violations", .arr (r.sortedViolations.map Violation.toJson)),
     ("faults", .arr (r.faults.map FileFault.toJson)),
     ("executionTime", milliseconds r.elapsed),
     ("timestamp", .str stamp)]

/-- The text of the document. -/
def documentText (r : Report) (strict : Bool) : Except Time.StampError String :=
  (r.document strict).map (·.text .indented)

end Report

end BundleAudit
