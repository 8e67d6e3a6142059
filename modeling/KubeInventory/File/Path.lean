import KubeInventory.Text.Blank

/-! Path texts: the steps that they describe, their extensions and parents, and how two are joined.
-/

namespace KubeInventory

namespace Path

/-- One step on the way to a file. -/
inductive Step where
  | up
  | into (name : String)
  deriving DecidableEq, Repr

/-- What stands after the last step of a path. A slash or a dot asks for a folder there. -/
inductive Ending where
  | plain
  | slash
  | dot
  deriving DecidableEq, Repr

end Path

/-- A path with its steps, without those that stay where they are. -/
structure Path where
  /-- Whether the path starts at the root and not at the working folder. -/
  absolute : Bool
  steps : List Path.Step
  ending : Path.Ending
  deriving DecidableEq, Repr

namespace Path

/-- The pieces of a path text between slashes. -/
def pieces (text : String) : List String := (Text.splitAt '/' text.toList).map String.ofList

def isAbsolute (text : String) : Bool := text.toList.head? == some '/'

def endsWithSlash (text : String) : Bool := text.toList.getLast? == some '/'

def stepOf? (piece : String) : Option Step :=
  if piece.isEmpty || piece == "." then none
  else if piece == ".." then some .up
  else some (.into piece)

def ofText (text : String) : Path :=
  let pieces := pieces text
  { absolute := isAbsolute text
    steps := pieces.filterMap stepOf?
    ending :=
      if (pieces.filter (!·.isEmpty)).getLast? == some "." then .dot
      else if endsWithSlash text then .slash
      else .plain }

/-- Whether the path names nothing, not even the working folder. -/
def isEmpty (p : Path) : Bool := !p.absolute && p.steps.isEmpty && p.ending == .plain

/-- The path without its last step. -/
def parent (p : Path) : Path := ⟨p.absolute, p.steps.dropLast, .plain⟩

/-- Whether some name on the way holds the character that no name can hold. -/
def hasNul (p : Path) : Bool :=
  p.steps.any fun
    | .up => false
    | .into name => name.toList.contains '\x00'

/-- The part of a name after its last dot, unless nothing stands before that dot. -/
def nameExtension? (name : String) : Option String :=
  let reversed := name.toList.reverse
  match reversed.dropWhile (· != '.') with
  | [] | [_] => none
  | _ :: _ => some (String.ofList (reversed.takeWhile (· != '.')).reverse)

/-- The extension of the name that a path ends in. -/
def extension? (text : String) : Option String :=
  match (ofText text).steps.getLast? with
  | some (.into name) => nameExtension? name
  | _ => none

/-- The path of a name seen from a folder; an absolute name stands for itself. -/
def join (folder name : String) : String :=
  if isAbsolute name then name
  else if folder.isEmpty || endsWithSlash folder then folder ++ name
  else folder ++ "/" ++ name

end Path

end KubeInventory
