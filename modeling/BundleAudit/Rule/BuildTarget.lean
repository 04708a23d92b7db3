import BundleAudit.Profile.Basic
import BundleAudit.Regex.Matching
import BundleAudit.Rule.Basic

/-!
# Build targets

A build replaces a token by the name of its target. The check warns when no target is found, and when
the token is left somewhere.
-/

namespace BundleAudit.BuildTarget

open BundleAudit.Regex

def ruleName : String := "build-target-validation"

/-- A text between two quotes. -/
def quotedTarget (target : List Char) : Expr :=
  .sequence [.one (.oneOf ['"', '\'']), .literal target, .one (.oneOf ['"', '\''])]

/-- The targets that are found and how often. -/
def foundTargets (targets : List String) (cleaned : List Char) : List (String × Nat) :=
  tally (targets.map fun t => (t, ((quotedTarget t.toList).findAll cleaned).length))

/-- The places where the token is left. -/
def leftovers (token : String) (cleaned : List Char) : List Match :=
  (Expr.literal token.toList).findAll cleaned

def missing (token : String) (targets : List String) (file : String) : Violation where
  rule := ruleName
  severity := .warning
  message :=
    let listed := ", ".intercalate targets
    s!"Missing build target values. Expected {token} to be replaced with one of: {listed}"
  file := file

def unreplaced (token : String) (cleaned : List Char) (file : String) (first : Match) (count : Nat) :
    Violation where
  rule := ruleName
  severity := .warning
  message := s!"Found {count} unreplaced {token} token(s); the define step may not be substituting every occurrence"
  file := file
  line := some ((cleaned.take first.start).count '\n' + 1)
  matched := String.ofList first.text

/-- The violations of a cleaned script: at most one. -/
def check (token : String) (targets : List String) (cleaned : List Char) (file : String) :
    List Violation :=
  if (foundTargets targets cleaned).isEmpty then [missing token targets file]
  else
    match leftovers token cleaned with
    | [] => []
    | first :: rest => [unreplaced token cleaned file first (rest.length + 1)]

/-- The rule about build targets. -/
def rule (p : Profile) : Rule where
  name := ruleName
  description := "Build target token substitution validation"
  severity := .low
  appliesTo := p.list .buildAppliesTo
  evaluate cleaned _ file := .ok (check (p.text .buildToken) (p.list .buildTargets) cleaned file)

end BundleAudit.BuildTarget
