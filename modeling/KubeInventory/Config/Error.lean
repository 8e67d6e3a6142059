import KubeInventory.File.Tree
import KubeInventory.Text.Unsigned

/-! What can go wrong with settings and their files. -/

namespace KubeInventory

/-- What was being done with settings when something went wrong. -/
inductive ConfigActivity where
  | merging
  | loading
  | setting (key value : String)
  | saving
  | validating
  deriving DecidableEq, Repr

def ConfigActivity.message : ConfigActivity → String
  | .merging => "Failed to load merged configuration"
  | .loading => "Failed to load configuration"
  | .setting key value => s!"Failed to set {key} = {value}"
  | .saving => "Failed to save configuration"
  | .validating => "Configuration validation failed"

inductive ConfigError where
  | notFound (path : String)
  | unreadable (path : String) (cause : FileError)
  | malformed (path : String)
  | unwritable (path : String) (cause : FileError)
  | noFolder (cause : FileError)
  | alreadyThere (path : String)
  | unknownKey (key : String)
  /-- Checks can only be edited in the file itself. -/
  | checksNotSettable (path : String)
  | notNumber (key : String) (cause : Text.NumeralError)
  | noConcurrency
  | noTimeout
  | namelessCheck
  | kindlessCheck (name : String)
  | duplicateCheck (name : String)
  | during (activity : ConfigActivity) (cause : ConfigError)
  deriving DecidableEq, Repr

namespace ConfigError

/-- What went wrong, followed by its causes. -/
def chain : ConfigError → List String
  | notFound path => [s!"Config file not found: {path}"]
  | unreadable path cause => [s!"Failed to read config file: {path}", cause.message]
  | malformed path => [s!"Failed to parse config file: {path}", "<yaml error>"]
  | unwritable path cause => [s!"Failed to write config file: {path}", cause.message]
  | noFolder cause => [cause.message]
  | alreadyThere path => [s!"Config file already exists: {path} (use --force to overwrite)"]
  | unknownKey key => [s!"Unknown configuration key: {key}"]
  | checksNotSettable path => [s!"checks must be edited in the config file ({path})"]
  | notNumber key cause => [s!"{key} must be a number", cause.message]
  | noConcurrency => ["collector.concurrency must be at least 1"]
  | noTimeout => ["collector.requestTimeoutSeconds must be at least 1"]
  | namelessCheck => ["every check needs a name"]
  | kindlessCheck name => ["check '" ++ name ++ "' has no kind"]
  | duplicateCheck name => ["duplicate check name '" ++ name ++ "'"]
  | during activity cause => activity.message :: cause.chain

end ConfigError

end KubeInventory
