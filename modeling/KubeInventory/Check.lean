import KubeInventory.Cluster
import KubeInventory.Config

/-! Checks: questions to a cluster whose answers are reports. -/

namespace KubeInventory

/-- Why the specification of a check is refused. -/
inductive SpecError where
  | malformed
  | noRequiredLabels
  /-- A reason that a kind of check gives in its own words. -/
  | refused (reason : String)
  deriving DecidableEq, Repr

def SpecError.message : SpecError → String
  | .malformed => "<yaml error>"
  | .noRequiredLabels => "requiredLabels must not be empty"
  | .refused reason => reason

/-- Why checks cannot be built, run, or counted. -/
inductive CheckError where
  | noChecks
  | incomplete (expected got : Nat)
  | unknownKind (kind : String)
  | invalidSpec (check : String) (cause : SpecError)
  | listing (cause : FetchError)
  | failed (reason : String)
  deriving DecidableEq, Repr

def CheckError.message : CheckError → String
  | .noChecks => "no checks configured"
  | .incomplete expected got => s!"expected {expected} check results, got {got}"
  | .unknownKind kind => s!"unknown check kind: {kind}"
  | .invalidSpec check cause => "invalid spec for check '" ++ check ++ "': " ++ cause.message
  | .listing cause => cause.message
  | .failed reason => s!"check failed: {reason}"

/-- A check with what comes of it. -/
structure Check where
  name : String
  outcome : Except CheckError Report

/-- What builds checks of one kind from their configuration. -/
abbrev CheckFactory := Config.Check → Except CheckError Check

namespace Check

/-- The report of a check: the verdict over the parts of its answer, if it has parts, or its error.
-/
def report (c : Check) : Report :=
  match c.outcome with
  | .ok answer => if answer.children.isEmpty then answer else answer.rollUp
  | .error e => (Report.new c.name Report.failed).withDetail "error" (.string e.message)

end Check

end KubeInventory
