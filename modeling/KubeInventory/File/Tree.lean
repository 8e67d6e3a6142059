import KubeInventory.Dict
import KubeInventory.File.Path

/-! Trees of files and folders, and what can be done with a path in one. Whatever changes a tree is
a computation over it, and one that fails keeps the changes made before the failure. -/

namespace KubeInventory

/-- Why a file operation fails. -/
inductive FileError where
  | missing
  | notFolder
  | isFolder
  | alreadyExists
  | nameTooLong
  | nulInName
  | notText
  deriving DecidableEq, Repr

def FileError.message : FileError → String
  | .missing => "No such file or directory (os error 2)"
  | .notFolder => "Not a directory (os error 20)"
  | .isFolder => "Is a directory (os error 21)"
  | .alreadyExists => "File exists (os error 17)"
  | .nameTooLong => "File name too long (os error 36)"
  | .nulInName => "file name contained an unexpected NUL byte"
  | .notText => "stream did not contain valid UTF-8"

/-- The names that lead from the root to a file or folder. -/
abbrev Place := List String

/-- The places on the way to a place, from the root to the place itself. -/
def Place.onTheWay (place : Place) : List Place := (List.range (place.length + 1)).map place.take

inductive Entry where
  | folder
  | file (bytes : ByteArray)

instance : DecidableEq Entry
  | .folder, .folder => isTrue rfl
  | .folder, .file _ => isFalse nofun
  | .file _, .folder => isFalse nofun
  | .file a, .file b =>
    match ByteArray.instDecidableEq a b with
    | isTrue h => isTrue (congrArg _ h)
    | isFalse h => isFalse fun e => h (Entry.file.inj e)

/-- A tree of files and folders, filed by their places. The root is always there. -/
structure FileTree where
  entries : Dict Place Entry
  /-- The place of the working folder, where relative paths start. -/
  base : Place

/-- A computation that may change a tree of files, and keeps the changes if it fails. -/
abbrev FileM (ε : Type) := ExceptT ε (StateM FileTree)

/-- The same computation with another view of its failures. -/
def FileM.withError {ε ε' α : Type} (f : ε → ε') (m : FileM ε α) : FileM ε' α := ExceptT.adapt f m

namespace FileTree

def entry? (t : FileTree) (place : Place) : Option Entry :=
  if place.isEmpty then some .folder else t.entries.get? place

/-- The greatest length of a name in octets. -/
def longestName : Nat := 255

/-- Where a step from a folder leads. -/
def stepFrom (place : Place) : Path.Step → Except FileError Place
  | .up => .ok place.dropLast
  | .into name =>
    if longestName < name.utf8ByteSize then .error .nameTooLong else .ok (place ++ [name])

/-- Where steps lead: each starts from a folder that is there, and the last may lead to where
nothing is. -/
def walk (t : FileTree) (place : Place) : List Path.Step → Except FileError Place
  | [] => .ok place
  | step :: rest =>
    match t.entry? place with
    | none => .error .missing
    | some (.file _) => .error .notFolder
    | some .folder => do walk t (← stepFrom place step) rest

/-- Where a path leads, whether something is there or not. -/
def resolve (t : FileTree) (p : Path) : Except FileError Place :=
  if p.hasNul then .error .nulInName
  else if p.isEmpty then .error .missing
  else walk t (if p.absolute then [] else t.base) p.steps

/-- What a path leads to, and where. -/
def locate (t : FileTree) (p : Path) : Except FileError (Place × Entry) := do
  let place ← t.resolve p
  match t.entry? place with
  | none => .error .missing
  | some (.file bytes) => if p.ending == .plain then .ok (place, .file bytes) else .error .notFolder
  | some .folder => .ok (place, .folder)

def isThere (t : FileTree) (path : String) : Bool := (t.locate (.ofText path)).isOk

def isFile (t : FileTree) (path : String) : Bool :=
  match t.locate (.ofText path) with
  | .ok (_, .file _) => true
  | _ => false

def isFolderAt (t : FileTree) (p : Path) : Bool :=
  match t.locate p with
  | .ok (_, .folder) => true
  | _ => false

/-- The content of a file as text. -/
def readText (t : FileTree) (path : String) : Except FileError String := do
  match ← t.locate (.ofText path) with
  | (_, .folder) => .error .isFolder
  | (_, .file bytes) =>
    match String.fromUTF8? bytes with
    | some text => .ok text
    | none => .error .notText

/-- The last name of a place within a folder. -/
def nameIn? (folder place : Place) : Option String :=
  match place.reverse with
  | [] => none
  | name :: above => if above.reverse == folder then some name else none

/-- The names in a folder. -/
def names (t : FileTree) (path : String) : Except FileError (List String) := do
  match ← t.locate (.ofText path) with
  | (_, .file _) => .error .notFolder
  | (place, .folder) => .ok (t.entries.keys.filterMap (nameIn? place))

/-- The tree with an entry at a place. -/
def put (t : FileTree) (place : Place) (e : Entry) : FileTree :=
  { t with entries := t.entries.insert place e }

/-- The tree with folders at a place and above it, in so far as nothing is there. -/
def putFolders (t : FileTree) (place : Place) : FileTree :=
  (Place.onTheWay place).foldl
    (fun t above => if (t.entry? above).isSome then t else t.put above .folder) t

/-- The place of a path, whatever stands on the way to it. -/
def placeOf (t : FileTree) (path : String) : Place :=
  let p := Path.ofText path
  p.steps.foldl (fun place step =>
    match step with
    | .up => place.dropLast
    | .into name => place ++ [name]) (if p.absolute then [] else t.base)

/-- The tree with a file and the folders above it, whatever stands on the way to it. -/
def putFile (t : FileTree) (path : String) (bytes : ByteArray) : FileTree :=
  let place := t.placeOf path
  (t.putFolders place.dropLast).put place (.file bytes)

/-- The files of a tree that are not in another with the same content, by their places. -/
def changes (before after : FileTree) : List (Place × ByteArray) :=
  after.entries.entries.filterMap fun (place, e) =>
    match e with
    | .folder => none
    | .file bytes => if before.entry? place == some (.file bytes) then none else some (place, bytes)

/-- Where a new folder of the path may be made. -/
def freePlace (t : FileTree) (p : Path) : Except FileError Place := do
  let place ← t.resolve p
  match t.entry? place with
  | some _ => .error .alreadyExists
  | none => .ok place

def makeFolder (p : Path) : FileM FileError Unit := do
  let place ← (← get).freePlace p
  modify (·.put place .folder)

/-- Takes it for success that a folder is there already. -/
def orFolder (p : Path) (e : FileError) : FileM FileError Unit := do
  if (← get).isFolderAt p then pure () else throw e

/-- Makes a folder and the folders above it, given the steps to it from the last to the first. -/
def makeFolders (absolute : Bool) : List Path.Step → FileM FileError Unit
  | [] => pure ()
  | step :: above =>
    let p : Path := ⟨absolute, (step :: above).reverse, .plain⟩
    tryCatch (makeFolder p) fun
      | .missing => do
        makeFolders absolute above
        tryCatch (makeFolder p) (orFolder p)
      | e => orFolder p e

/-- Makes the folder of a path with all above it, as far as they are not there. -/
def ensureFolders (p : Path) : FileM FileError Unit := makeFolders p.absolute p.steps.reverse

/-- Where a file of the path may be written. A name with a slash behind it asks for a folder, and is
not looked up. -/
def writablePlace (t : FileTree) (p : Path) : Except FileError Place :=
  match p.ending with
  | .slash => do
    if p.hasNul then throw .nulInName
    let _ ← t.locate ⟨p.absolute, p.steps.dropLast, .slash⟩
    throw .isFolder
  | .dot => do
    let _ ← t.locate p
    throw .isFolder
  | .plain => do
    let place ← t.resolve p
    match t.entry? place with
    | some .folder => throw .isFolder
    | _ => return place

/-- Writes a text to a file, in place of whatever it held. -/
def writeText (path text : String) : FileM FileError Unit := do
  let place ← (← get).writablePlace (.ofText path)
  modify (·.put place (.file text.toUTF8))

end FileTree

end KubeInventory
