import Confinement.File.Inventory.Commands
import Confinement.File.Inventory.Disk
import Confinement.File.Inventory.Hardware
import Confinement.File.Inventory.Kernel
import Confinement.File.Space

/-!
The files that are there from the start: the directories of a system with its commands, its devices
and a few settings, and directories of the process's own. All but those belong to the system.
-/

namespace Confinement.File

/-- The directory that the process starts in. -/
def startDirectory : Bytes :=
  utf8 "/home/user"

/-- An empty directory to work in. Nobody else knows its name. -/
def scratch : Bytes :=
  utf8 "/tmp/.tmpq3Zx7B"

private def ownDirectory : Node :=
  (Node.systemDirectory 0o755).ownedBy processUser

namespace Tree

/-- Puts a node at a path, whose directory is there already. -/
private def plant (tree : Tree) (path : Bytes) (node : Node) : Tree :=
  match tree.resolve ⟨false, false⟩ 0 (Path.ofBytes path) with
  | .ok ⟨directory, some name, none, _⟩ =>
      let content :=
        match node.content with
        | .directory _ entries => .directory directory entries
        | content => content
      (tree.create directory name { node with content := content }).2
  | _ => tree

private def plantAll (tree : Tree) (entries : List (Bytes × Node)) : Tree :=
  entries.foldl (fun tree entry => tree.plant entry.1 entry.2) tree

/-- Makes the directory at a path the first of a volume. -/
private def mount (tree : Tree) (path : Bytes) (volume : Volume) : Tree :=
  match tree.find true 0 path with
  | .ok node => tree.modify node fun found => { found with volume := volume }
  | .error _ => tree

/-- Directories come before what is in them. -/
def standard : Tree :=
  let empty := plantAll ⟨#[.systemDirectory 0o755]⟩
    (Inventory.directories ++ [(startDirectory, ownDirectory), (scratch, ownDirectory)])
  let mounted := Inventory.volumes.foldl (fun tree entry => tree.mount entry.1 entry.2) empty
  mounted.plantAll
    (Inventory.settings ++ Inventory.diskLinks ++ Inventory.commands ++ Inventory.commandLinks ++
      Inventory.devices ++ Inventory.kernel ++ Inventory.processes ++ Inventory.hardware)

end Tree

namespace Space

/-- The files of a process that has nothing open. -/
def standard : Space where
  tree := .standard
  workingDirectory := (Tree.standard.find true 0 startDirectory).toOption.getD 0

end Space

end Confinement.File
