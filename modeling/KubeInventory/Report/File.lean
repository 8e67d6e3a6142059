import KubeInventory.File.Tree
import KubeInventory.Report.Text

/-! Report files. -/

namespace KubeInventory.Report

/-- The format of a report file, which its extension tells. -/
def Format.ofPath (path : String) : Format :=
  if Path.extension? path == some "json" then .json else .yaml

/-- Writes a report to a file, and makes the folders above it as far as they are not there. -/
def writeFile (format : Format) (r : Report) (path : String) : FileM FileError Unit := do
  FileTree.ensureFolders (Path.ofText path).parent
  FileTree.writeText path (r.write format)

/-- What is said of a report file that cannot be written. -/
def writeErrorMessage (e : FileError) : String := s!"I/O error: {e.message}"

end KubeInventory.Report
