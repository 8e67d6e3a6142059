import KubeInventory.Command.Document
import KubeInventory.Program

/-! The command line. Settings and reports are files of the machine; the rest of what an inventory
is taken with is read from standard input as one document, and only if there is an inventory to
take. -/

namespace KubeInventory.Main

/-- The variables that the program reads. -/
def variableNames : List String :=
  ["HOME", "XDG_CONFIG_HOME", "KUBE_INVENTORY_CONFIG_DIR", "KUBE_INVENTORY_CONTEXT",
    "KUBE_INVENTORY_NAMESPACES", "KUBE_INVENTORY_CONCURRENCY", "KUBE_INVENTORY_REQUEST_TIMEOUT"]

def environment : IO Environment := do
  let given ← variableNames.mapM fun name => do return (name, ← IO.getEnv name)
  return ⟨.ofList (given.filterMap fun (name, value) => value.map (name, ·)), none⟩

/-- The path of a place on the machine. -/
def pathOf (place : Place) : String := "/" ++ "/".intercalate place

/-- Adds to a tree what the machine has at a place, given that the place above it is a folder. What
can be read is a file, and what is there and cannot be read is a folder. -/
def observePlace (t : FileTree) (place : Place) : IO FileTree := do
  try
    return t.put place (.file (← IO.FS.readBinFile (pathOf place)))
  catch e =>
    match e with
    | .noFileOrDirectory .. => return t
    | _ => return t.put place .folder

/-- Adds to a tree what the machine has at a path and above it. -/
def observe (t : FileTree) (path : String) : IO FileTree :=
  (Place.onTheWay (t.placeOf path)).foldlM (fun t place =>
    if place.isEmpty || (t.entry? place.dropLast) != some .folder then return t
    else observePlace t place) t

/-- The paths that a command reads or writes, apart from the folders of the machine. -/
def pathsOf (env : Environment) (i : Invocation) : List String :=
  let reports := match i.command with
    | .run options => options.destinations.map Prod.fst
    | .config _ => []
  [env.rootConfigPath] ++ i.config.toList ++ i.logFile.toList ++ reports

/-- The document on standard input; null if there is none that can be read. -/
def readDocument : IO Value := do
  let text ← readToEnd (← IO.getStdin)
  return (Json.readValue text).getD .null
where
  readToEnd (input : IO.FS.Stream) : IO String := do
    let mut bytes := ByteArray.empty
    repeat
      let more ← input.read 65536
      if more.isEmpty then break
      bytes := bytes ++ more
    return (String.fromUTF8? bytes).getD ""

/-- Writes the files of a tree that are not as they were. -/
def store (before after : FileTree) : IO Unit :=
  (before.changes after).forM fun (place, bytes) => do
    IO.FS.createDirAll (pathOf place.dropLast)
    IO.FS.writeBinFile (pathOf place) bytes

/-- What went wrong, and why. -/
def complain (complaints : List String) : IO Unit := do
  match complaints with
  | [] => pure ()
  | first :: causes =>
    IO.eprintln s!"Error: {first}"
    causes.forM fun cause => IO.eprintln s!"  because of: {cause}"

def run (arguments : List String) : IO UInt32 := do
  let env ← environment
  let here := toString (← IO.currentDir)
  let start : FileTree := ⟨∅, (FileTree.mk ∅ []).placeOf here⟩
  let mut before := start.putFolders start.base
  let mut document := Value.null
  if let .ok i := Arguments.invocation? arguments then
    for path in pathsOf env i do before ← observe before path
    if let .run _ := i.command then
      document ← readDocument
      for (path, text) in documentFiles document do before := before.putFile path text.toUTF8
  let (outcome, after) := (Program.run env (.ofValue document) arguments).run before
  store before after
  IO.print outcome.printed
  complain outcome.complaints
  return outcome.code.toUInt32

end KubeInventory.Main

def main (arguments : List String) : IO UInt32 := KubeInventory.Main.run arguments
