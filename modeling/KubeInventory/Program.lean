import KubeInventory.Command.Arguments

/-! The program as a whole: from arguments to an exit code, a text to print, and changes of files.
-/

namespace KubeInventory

namespace Program

/-- What a run of the program shows. -/
structure Outcome where
  code : Nat
  printed : String
  /-- What went wrong, followed by its causes; nothing if all went well. -/
  complaints : List String
  deriving DecidableEq, Repr

def versionText : String := "kube-inventory 0.1.0\n"

def usageText : String :=
  "Inventory of Kubernetes workloads and cluster components as a Sonobuoy-style report

Usage: kube-inventory [OPTIONS] <COMMAND>

Commands:
  run [--sonobuoy-report PATH] [--json-report PATH] [-o|--output PATH]
    [-n|--namespace NS]... [--checks]
  config get [KEY] | set KEY VALUE | list | path | validate | init [--force]

Options:
  -d, --debug            --log-file PATH        --config PATH          --context CONTEXT
"

/-- Why a command fails. -/
inductive Failure where
  | log (path : String) (cause : FileError)
  | loading (cause : ConfigError)
  | config (cause : ConfigError)
  | run (cause : RunError)
  deriving DecidableEq, Repr

def Failure.chain : Failure → List String
  | .log path cause => [s!"Failed to open log file: {path}", cause.message]
  | .loading cause => (ConfigError.during .loading cause).chain
  | .config cause => cause.chain
  | .run cause => cause.chain

/-- Starts a log file anew. -/
def openLog : Option String → FileM Failure Unit
  | none => pure ()
  | some path => (FileTree.writeText path "").withError (.log path)

/-- The settings that a run counts with. -/
def runConfig (env : Environment) (files : FileTree) (i : Invocation) : Except Failure Config := do
  let c ← (Config.loadValidated env files i.config).mapError .loading
  return { c with context := i.context.or c.context }

/-- Carries out what was asked for, and gives what it prints. -/
def perform (env : Environment) (access : Access) (i : Invocation) : FileM Failure String := do
  openLog i.logFile
  match i.command with
  | .config command => (command.run env i.config).withError .config
  | .run options => do
    let c ← runConfig env (← get) i
    (options.run access c).withError .run

/-- Runs the program. Arguments that are no command line have their own exit code. -/
def run (env : Environment) (access : Access) (arguments : List String) :
    StateM FileTree Outcome := do
  match Arguments.invocation? arguments with
  | .error .misused => return ⟨2, "", [usageText]⟩
  | .error .help => return ⟨0, usageText, []⟩
  | .error .version => return ⟨0, versionText, []⟩
  | .ok i =>
    match ← (perform env access i).run with
    | .ok printed => return ⟨0, printed, []⟩
    | .error e => return ⟨1, "", e.chain⟩

end Program

end KubeInventory
