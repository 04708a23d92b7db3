import BundleAudit.Finding
import BundleAudit.Regex.Matching
import BundleAudit.Source.Location
import BundleAudit.Text.Quoted

/-!
# Detection

Detectors look for suspicious text in a script without its comments. What they find is excused if the
raw script mentions, near the same offset, a phrase that shows the text to be harmless. Offsets in the
two scripts differ by the comments that were removed, which the width of the window allows for.
-/

namespace BundleAudit

open BundleAudit.Regex BundleAudit.Source BundleAudit.Text

/-- An expression that finds suspicious text, and what a finding is reported as. -/
structure Detector where
  expr : Expr
  severity : Severity
  description : String

/-- Whether one of the safe expressions matches the line, its lower case form or the window. -/
def isSafeContext (line window : List Char) (safe : List Expr) : Bool :=
  let lowered := lower line
  safe.any fun e => e.occursIn line || e.occursIn lowered || e.occursIn window

namespace Detector

/-- The violation that a match is reported as. -/
def report (d : Detector) (rule file : String) (m : Match) (place : Location) : Violation where
  rule := rule
  severity := d.severity
  message := s!"{d.description}: {String.ofList (quoted m.text)}"
  file := file
  line := some place.lineNumber
  matched := String.ofList m.text
  context := String.ofList place.snippet

/-- The violation of one match, unless the raw script excuses it. -/
def judge (d : Detector) (raw : List Char) (rule file : String) (safe : List Expr) (m : Match) :
    Option Violation :=
  let place := locate raw m.start
  if isSafeContext place.line place.window safe then none else some (d.report rule file m place)

end Detector

/-- The violations that detectors find in a cleaned script, by detector and from left to right. -/
def detect (cleaned raw : List Char) (rule file : String) (detectors : List Detector)
    (safe : List Expr) : List Violation :=
  detectors.flatMap fun d => (d.expr.findAll cleaned).filterMap (d.judge raw rule file safe)

end BundleAudit
