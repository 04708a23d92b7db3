import BundleAudit.Report.Basic

/-!
# Remediation hints

A report ends with advice: one hint for each rule that did not pass, another one for a rule that
crashed, and one for files that could not be read.
-/

namespace BundleAudit.Report

/-- The advice for the findings of a rule. -/
def ruleHint (rule : String) : String :=
  match rule with
  | "global-export-presence" =>
    "Review the UMD wrapper configuration and library export settings so the SDK global is assigned"
  | "eval-security" =>
    "Investigate and eliminate dynamic code generation in dependencies or build output; it violates CSP policies"
  | "dependency-exclusion" =>
    "Update bundler externals to keep excluded dependencies out of restricted builds"
  | "build-target-validation" =>
    "Add or fix the define step that injects the build target token"
  | "websocket-scheme-validation" =>
    "Make sure the WebSocket scheme guard is imported for its side effects so minification and tree shaking keep it"
  | _ => s!"Review the {rule} findings above"

/-- The advice for a rule that crashed. -/
def faultHint (rule : String) : String :=
  s!"Rule {rule} is failing during evaluation; check its pattern list and profile settings"

def readFaultHint : String := "Check that every bundle in the distribution directory is readable"

/-- What two outcomes share if only one hint is given for both. -/
def hintKey (o : Outcome) : String := if o.faulted then s!"fault:{o.rule}" else o.rule

def outcomeHint (o : Outcome) : String := if o.faulted then faultHint o.rule else ruleHint o.rule

/-- The outcomes that did not pass, by rule, and the first of those that share a key. -/
def hinted (outcomes : List Outcome) : List Outcome :=
  let sorted := outcomes.mergeSort fun o p => (compare o.rule p.rule).isLE
  (sorted.filter (·.status != .passed)).foldl
    (fun kept o => if kept.any (hintKey · == hintKey o) then kept else kept ++ [o]) []

def hints (r : Report) : List String :=
  (hinted r.outcomes).map outcomeHint ++ (if r.faults.isEmpty then [] else [readFaultHint])

end BundleAudit.Report
