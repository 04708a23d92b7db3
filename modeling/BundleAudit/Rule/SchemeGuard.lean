import BundleAudit.Profile.Basic
import BundleAudit.Regex.Matching
import BundleAudit.Regex.Reader
import BundleAudit.Rule.Basic

/-!
# Scheme guards

A restricted build has to keep the guard that refuses insecure sockets. Primary expressions look for
the messages and names of the guard. Where none matches, a match of a looser fallback expression means
that the guard is probably there with its texts minified, which is a warning only.
-/

namespace BundleAudit.SchemeGuard

open BundleAudit.Regex

def ruleName : String := "websocket-scheme-validation"

/-- The expressions that match, by their source, and how often. -/
def matchedGuards (primary : List Pattern) (cleaned : List Char) : List (String × Nat) :=
  tally (primary.map fun r => (r.source, (r.expr.findAll cleaned).length))

/-- The number of matches of the fallback expressions. -/
def fallbackCount (fallback : List Pattern) (cleaned : List Char) : Nat :=
  fallback.foldl (fun n r => n + (r.expr.findAll cleaned).length) 0

def missing (file : String) : Violation where
  rule := ruleName
  severity := .high
  message := "WebSocket scheme validation logic not found in bundle. Restricted builds must include runtime guards that reject ws:// URLs. The guard may have been stripped during minification or never bundled."
  file := file

def minified (file : String) (count : Nat) : Violation where
  rule := ruleName
  severity := .warning
  message := s!"WebSocket validation patterns found ({count}) but expected guard messages are missing. This might be due to string minification; manual verification recommended."
  file := file

/-- The violations of a cleaned script: at most one. -/
def check (primary fallback : List Pattern) (cleaned : List Char) (file : String) : List Violation :=
  if (matchedGuards primary cleaned).isEmpty then
    let count := fallbackCount fallback cleaned
    if count == 0 then [missing file] else [minified file count]
  else []

/-- Reads expressions in order, up to the first that is none. -/
def readAll (sources : List String) : Except ReadError (List Pattern) :=
  sources.mapM fun s => Pattern.read s false

/-- The rule about the guard, if its expressions can be read. -/
def rule? (p : Profile) : Except ReadError Rule := do
  let primary ← readAll (p.list .guardPatterns)
  let fallback ← readAll (p.list .fallbackGuardPatterns)
  return {
    name := ruleName
    description := "WebSocket scheme guard presence for restricted runtimes"
    severity := .high
    appliesTo := p.list .guardAppliesTo
    evaluate := fun cleaned _ file => .ok (check primary fallback cleaned file) }

end BundleAudit.SchemeGuard
