import Confinement.File.Tree

/-!
How the files of a system are written down: many names at once for files of one sort in one
directory, and symbolic links with their targets.
-/

namespace Confinement.File

namespace Node

/-- A directory of the system. Planting it in a tree gives it its parent. -/
def systemDirectory (permissions : Nat) : Node where
  content := .directory 0 {}
  owner := systemUser
  permissions := permissions
  links := 2

def systemLink (target : String) : Node where
  content := .link (utf8 target)
  owner := systemUser
  permissions := 0o777

def setting (permissions : Nat) (text : String) : Node where
  content := .regular (utf8 text)
  owner := systemUser
  permissions := permissions

/-- A file that the system makes up when it is read, of the size that such files show. -/
def report (size permissions : Nat) (text : String) : Node where
  content := .report size (utf8 text)
  owner := systemUser
  permissions := permissions

def device (device : Device) (permissions : Nat) : Node where
  content := .device device
  owner := systemUser
  permissions := permissions

def command (program : Program) (permissions : Nat) : Node where
  content := .program program
  owner := systemUser
  permissions := permissions

def ownedBy (node : Node) (owner : Nat) : Node :=
  { node with owner := owner }

def madeFrozen (node : Node) : Node :=
  { node with frozen := true }

end Node

/-- Files of one sort in one directory. A line holds names with a blank between each two. -/
structure Batch where
  directory : String
  file : Node
  lines : List String

namespace Batch

def names (batch : Batch) : List String :=
  batch.lines.flatMap (·.splitOn " ")

/-- The files with their paths. -/
def files (batch : Batch) : List (Bytes × Node) :=
  batch.names.map fun name => (utf8 (batch.directory ++ "/" ++ name), batch.file)

end Batch

/-- Symbolic links in one directory, from names and targets. -/
def linksIn (directory : String) (links : List (String × String)) : List (Bytes × Node) :=
  links.map fun entry => (utf8 (directory ++ "/" ++ entry.1), .systemLink entry.2)

end Confinement.File
