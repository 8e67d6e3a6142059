import KubeInventory.Config
import KubeInventory.Config.Error
import KubeInventory.Text.Blank

/-! Which settings can be run. -/

namespace KubeInventory.Config

/-- Checks must have a name and a kind that are not blank, and names must not repeat, of each other
or of those already seen. -/
def validateChecks (seen : List String) : List Check → Except ConfigError Unit
  | [] => .ok ()
  | check :: rest =>
    if Text.isAllBlank check.name then .error .namelessCheck
    else if Text.isAllBlank check.kind then .error (.kindlessCheck check.name)
    else if seen.contains check.name then .error (.duplicateCheck check.name)
    else validateChecks (check.name :: seen) rest

/-- Accepts settings that can be run, and tells the first reason against others. -/
def validate (c : Config) : Except ConfigError Unit :=
  if c.collector.concurrency == 0 then .error .noConcurrency
  else if c.collector.requestTimeoutSeconds == 0 then .error .noTimeout
  else validateChecks [] c.checks

end KubeInventory.Config
