import KubeInventory.Check.Registry
import KubeInventory.Pool

/-! Running checks: one report over the reports of all. -/

namespace KubeInventory.Check

/-- The report over results that are in, in order of their names and with the verdict over them. All
that were expected must be in. -/
def summarise (name : String) (expected : Nat) (results : List Report) : Except CheckError Report :=
  if results.length == expected then
    .ok ((Report.new name Report.passed).withChildren results).sortChildren.rollUp
  else .error (.incomplete expected results.length)

/-- Checks that are to run in a pool. -/
structure Runner where
  checks : List Check
  places : Places

/-- A runner of checks, so many of them at a time. -/
def Runner.new (checks : List Check) (concurrency : Nat) : Runner :=
  ⟨checks, .ofWanted concurrency⟩

/-- A runner of the checks of configurations, if all of them can be built. -/
def Runner.ofConfigs (r : CheckRegistry) (configs : List Config.Check) (concurrency : Nat) :
    Except CheckError Runner :=
  (r.buildAll configs).map (.new · concurrency)

/-- Runs the checks, of which there must be some, and reports on them under a name. -/
def Runner.run (completion : Completion) (name : String) (r : Runner) : Except CheckError Report :=
  if r.checks.isEmpty then .error .noChecks
  else summarise name r.checks.length ((completion.order r.places r.checks).map report)

end KubeInventory.Check
