import BundleAudit.Finding

/-!
# Rules

A rule looks at one script, raw and without its comments, and gives its violations. Evaluation may
also crash, which says nothing about other rules and files. A rule that looks for several things tells what it found
and how often, in the order in which it looked.
-/

namespace BundleAudit

/-- How an evaluation failed: the kind of failure and its message. -/
structure Crash where
  kind : String
  message : String
deriving DecidableEq, Repr

structure Rule where
  name : String
  description : String
  severity : Severity
  /-- Globs for the base names of the files that the rule looks at. -/
  appliesTo : List String
  /-- The violations in a script, given without comments and raw, and its path. -/
  evaluate : List Char → List Char → String → Except Crash (List Violation)

/-- The entries with a count that is not zero; of entries with one name the first counts. -/
def tally (counts : List (String × Nat)) : List (String × Nat) :=
  counts.foldl (fun found (name, n) =>
    if n == 0 || (found.lookup name).isSome then found else found ++ [(name, n)]) []

end BundleAudit
