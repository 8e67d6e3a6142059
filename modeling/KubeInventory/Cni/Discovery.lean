import KubeInventory.Cni.Network
import KubeInventory.File.Tree

/-! Which of the networks configured on a machine is in use: that of the first configuration file
whose plugins are all installed. -/

namespace KubeInventory.Cni

/-- Why no network is found. -/
inductive DiscoveryError where
  | unreadable (folder : String) (cause : FileError)
  | noFiles (folder : String)
  | noneUsable (folder : String)
  deriving DecidableEq, Repr

def DiscoveryError.message : DiscoveryError → String
  | .unreadable folder cause =>
    s!"could not read CNI configuration directory {folder}: {cause.message}"
  | .noFiles folder => s!"no CNI configuration files found in {folder}"
  | .noneUsable folder => s!"no valid CNI configuration found in {folder}"

/-- A network in use and the file that configures it. -/
structure Finding where
  file : String
  network : Network

/-- The extensions of configuration files. -/
def extensions : List String := ["conf", "conflist", "json"]

def isCandidate (files : FileTree) (path : String) : Bool :=
  files.isFile path && (Path.extension? path).any extensions.contains

/-- The form of a configuration file, which its extension tells. -/
def formOf (path : String) : Form :=
  if Path.extension? path == some "conflist" then .list else .single

def isInstalled (files : FileTree) (binDir : String) (p : Plugin) : Bool :=
  !p.type.isEmpty && files.isFile (Path.join binDir p.type)

/-- Whether a network has plugins, all of them installed. -/
def isUsable (files : FileTree) (binDir : String) (n : Network) : Bool :=
  !n.plugins.isEmpty && n.plugins.all (isInstalled files binDir)

/-- The network that a file configures, if it can be used. -/
def usable? (files : FileTree) (binDir path : String) : Option Finding := do
  let text ← (files.readText path).toOption
  let network ← Network.read? (formOf path) text
  guard (isUsable files binDir network)
  return ⟨path, network⟩

/-- The configuration files among the names in a folder, by their paths. -/
def candidates (files : FileTree) (confDir : String) (names : List String) : List String :=
  ((names.map (Path.join confDir)).filter (isCandidate files)).mergeSort
    fun a b => (compare a b).isLE

/-- Finds the network in use among the names in a folder, which may come in any order. -/
def choose (files : FileTree) (confDir binDir : String) (names : List String) :
    Except DiscoveryError Finding :=
  match candidates files confDir names with
  | [] => .error (.noFiles confDir)
  | paths =>
    match paths.findSome? (usable? files binDir) with
    | some finding => .ok finding
    | none => .error (.noneUsable confDir)

/-- Finds the network in use. -/
def discover (files : FileTree) (confDir binDir : String) : Except DiscoveryError Finding :=
  match files.names confDir with
  | .error cause => .error (.unreadable confDir cause)
  | .ok names => choose files confDir binDir names

def sectionName : String := "CNI"

def report : Except DiscoveryError Finding → Report
  | .ok finding =>
    (Report.new sectionName Report.complete).withChildren [finding.network.report finding.file]
  | .error e => .ofError sectionName e.message

end KubeInventory.Cni
