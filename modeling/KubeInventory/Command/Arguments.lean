import KubeInventory.Command.Run
import KubeInventory.Command.Settings

/-! Command lines. Words name commands; options stand anywhere among them, and a word of two dashes
ends the options. -/

namespace KubeInventory

/-- What the program is asked to do. -/
inductive Command where
  | run (options : RunOptions)
  | config (command : ConfigCommand)
  deriving DecidableEq, Repr

structure Invocation where
  debug : Bool
  logFile : Option String
  config : Option String
  context : Option String
  command : Command
  deriving DecidableEq, Repr

namespace Arguments

/-- Why the arguments ask for no command. -/
inductive Stop where
  | misused
  | help
  | version
  deriving DecidableEq, Repr

/-- Options without a value. -/
inductive Switch where
  | debug
  | help
  | version
  | force
  | checks
  deriving DecidableEq, Repr

/-- Options with a value. -/
inductive Setting where
  | logFile
  | config
  | context
  | sonobuoyReport
  | jsonReport
  | output
  | namespace
  deriving DecidableEq, Repr

/-- Where on the command line an argument stands: before the first command, between `config` and
what is to be done with settings, or after the last command. -/
inductive Level where
  | top
  | config
  | run
  | get
  | set
  | list
  | path
  | validate
  | init
  deriving DecidableEq, Repr

namespace Switch

def all : List Switch := [debug, help, version, force, checks]

def long : Switch → String
  | debug => "debug"
  | help => "help"
  | version => "version"
  | force => "force"
  | checks => "checks"

def short? : Switch → Option Char
  | debug => some 'd'
  | help => some 'h'
  | version => some 'V'
  | _ => none

def isKnownAt : Switch → Level → Bool
  | debug, _ | help, _ => true
  | version, level => level == .top
  | force, level => level == .init
  | checks, level => level == .run

end Switch

namespace Setting

def all : List Setting := [logFile, config, context, sonobuoyReport, jsonReport, output, .namespace]

def long : Setting → String
  | logFile => "log-file"
  | config => "config"
  | context => "context"
  | sonobuoyReport => "sonobuoy-report"
  | jsonReport => "json-report"
  | output => "output"
  | .namespace => "namespace"

def short? : Setting → Option Char
  | output => some 'o'
  | .namespace => some 'n'
  | _ => none

/-- Whether the option may stand at every level. -/
def isGlobal : Setting → Bool
  | logFile | config | context => true
  | _ => false

def isKnownAt (s : Setting) (level : Level) : Bool := s.isGlobal || level == .run

/-- Whether the value is a path, which must not be empty. -/
def isPath : Setting → Bool
  | context | .namespace => false
  | _ => true

/-- Whether the option may be given again. -/
def mayRepeat (s : Setting) : Bool := s == .namespace

end Setting

/-- What was given at a level, the latest last. -/
structure Given where
  switches : List Switch
  values : List (Setting × String)
  words : List String
  deriving DecidableEq, Repr

namespace Given

def none : Given := ⟨[], [], []⟩

def value? (g : Given) (s : Setting) : Option String := g.values.lookup s

def valuesOf (g : Given) (s : Setting) : List String :=
  (g.values.filter (·.1 == s)).map Prod.snd

/-- Adds an option without a value, which may be given once. -/
def addSwitch (g : Given) : Switch → Except Stop Given
  | .help => .error .help
  | .version => .error .version
  | switch =>
    if g.switches.contains switch then .error .misused
    else .ok { g with switches := g.switches ++ [switch] }

/-- Adds an option with its value. -/
def addValue (g : Given) (s : Setting) (value : String) : Except Stop Given :=
  if (g.value? s).isSome && !s.mayRepeat then .error .misused
  else if value.isEmpty && s.isPath then .error .misused
  else .ok { g with values := g.values ++ [(s, value)] }

end Given

/-- Options given so far, and one that still wants its value. -/
abbrev Progress := Given × Option Setting

/-- An option of the long form, with the value that follows its equals sign. -/
def addLong (level : Level) (g : Given) (name : String) (value : Option String) :
    Except Stop Progress :=
  match Switch.all.find? (fun s => s.isKnownAt level && s.long == name),
      Setting.all.find? (fun s => s.isKnownAt level && s.long == name), value with
  | some switch, _, none => (g.addSwitch switch).map (·, none)
  | some _, _, some _ => .error .misused
  | none, some s, some value => (g.addValue s value).map (·, none)
  | none, some s, none => .ok (g, some s)
  | none, none, _ => .error .misused

/-- Options of the short form in one word. The first with a value takes the rest of the word for it.
-/
def addShort (level : Level) (g : Given) : List Char → Except Stop Progress
  | [] => .ok (g, none)
  | c :: rest =>
    match Switch.all.find? (fun s => s.isKnownAt level && s.short? == some c),
        Setting.all.find? (fun s => s.isKnownAt level && s.short? == some c) with
    | some switch, _ => do addShort level (← g.addSwitch switch) rest
    | none, some s =>
      match rest with
      | [] => .ok (g, some s)
      | '=' :: value => (g.addValue s (String.ofList value)).map (·, none)
      | value => (g.addValue s (String.ofList value)).map (·, none)
    | none, none => .error .misused

/-- Adds a word of options: it starts with a dash and is longer than that. -/
def addOptions (level : Level) (g : Given) : List Char → Except Stop Progress
  | '-' :: body =>
    let name := body.takeWhile (· != '=')
    let value := match body.dropWhile (· != '=') with
      | [] => none
      | _ :: value => some (String.ofList value)
    addLong level g (String.ofList name) value
  | cluster => addShort level g cluster

/-- How many words may stand at a level without commands of its own; `none` if there are commands.
-/
def Level.words? : Level → Option Nat
  | .top | .config => none
  | .get => some 1
  | .set => some 2
  | _ => some 0

def addWord (limit : Nat) (g : Given) (word : String) : Except Stop Given :=
  if g.words.length < limit then .ok { g with words := g.words ++ [word] } else .error .misused

/-- Reads the arguments of a level, up to the word that names a command of the next one, and gives
the arguments from there on. -/
def read (level : Level) : Progress → List String → Except Stop (Given × List String)
  | (g, none), [] => .ok (g, [])
  | (_, some _), [] => .error .misused
  | (g, pending), argument :: rest =>
    match argument.toList, pending with
    | ['-', '-'], none =>
      match level.words? with
      | some limit => (rest.foldlM (addWord limit) g).map (·, [])
      | none => if rest.isEmpty then .ok (g, []) else .error .misused
    | '-' :: c :: body, none => do read level (← addOptions level g (c :: body)) rest
    | '-' :: _ :: _, some _ => .error .misused
    | _, some s => do read level (← g.addValue s argument, none) rest
    | _, none =>
      match level.words? with
      | some limit => do read level (← addWord limit g argument, none) rest
      | none => .ok (g, argument :: rest)

/-- The commands of a level by their names. -/
def Level.commands : Level → List (String × Level)
  | .top => [("run", .run), ("config", .config)]
  | .config =>
    [("get", .get), ("set", .set), ("list", .list), ("path", .path), ("validate", .validate),
      ("init", .init)]
  | _ => []

/-- Whether words lead from a level to a command that there is help on. -/
def helpsOn (level : Level) : List String → Bool
  | [] => true
  | word :: rest =>
    match level.commands.lookup word with
    | some next => helpsOn next rest
    | none => word == "help" && !level.commands.isEmpty && rest.isEmpty

/-- Reads the word that names a command of a level. -/
def enter (level : Level) : List String → Except Stop (Level × List String)
  | [] => .error .misused
  | word :: rest =>
    match level.commands.lookup word with
    | some next => .ok (next, rest)
    | none =>
      if word == "help" && helpsOn level rest then .error .help else .error .misused

/-- What to do with settings, given the arguments after the last command. -/
def configCommand? (level : Level) (g : Given) : Option ConfigCommand :=
  match level, g.words with
  | .get, [] => some (.get none)
  | .get, [key] => some (.get (some key))
  | .set, [key, value] => some (.set key value)
  | .list, [] => some .list
  | .path, [] => some .path
  | .validate, [] => some .validate
  | .init, [] => some (.init (g.switches.contains .force))
  | _, _ => none

def runOptions (g : Given) : RunOptions :=
  { sonobuoyReport := g.value? .sonobuoyReport
    jsonReport := g.value? .jsonReport
    output := g.value? .output
    namespaces := g.valuesOf .namespace
    checks := g.switches.contains .checks }

/-- The value of an option that may stand at every level: of several the deepest counts. -/
def globalValue? (levels : List Given) (s : Setting) : Option String :=
  levels.reverse.findSome? (·.value? s)

def invocation (levels : List Given) (command : Command) : Invocation :=
  { debug := levels.any (·.switches.contains .debug)
    logFile := globalValue? levels .logFile
    config := globalValue? levels .config
    context := globalValue? levels .context
    command }

/-- Reads a command line. -/
def invocation? (arguments : List String) : Except Stop Invocation := do
  let (top, rest) ← read .top (.none, none) arguments
  let (level, rest) ← enter .top rest
  let (first, rest) ← read level (.none, none) rest
  if level == .run then return invocation [top, first] (.run (runOptions first))
  let (level, rest) ← enter level rest
  let (second, _) ← read level (.none, none) rest
  match configCommand? level second with
  | some command => return invocation [top, first, second] (.config command)
  | none => throw .misused

end Arguments

end KubeInventory
