import Confinement.Shell.Options

/-!
The current directory of a shell. The shell keeps the path by which it came there, which may lead
through links, and can tell the path without them too.
-/

namespace Confinement.Shell

namespace State

/-- The path of a directory. -/
def pathOf (tree : File.Tree) : Nat → Nat → Chars → Chars
  | 0, _, found => found
  | fuel + 1, node, found =>
      let parent := tree.parent node
      if parent = node then if found.isEmpty then ['/'] else found
      else
        let name? : Option (Bytes × Nat) := match tree.content? parent with
          | some (.directory _ entries) => entries.entries.find? (·.2 == node)
          | _ => none
        match name? with
        | some (name, _) => pathOf tree fuel parent ('/' :: Chars.ofBytes name ++ found)
        | none => found

/-- The path of the current directory without links in it. -/
def physicalDirectory (state : State) : Chars :=
  let tree := state.space.tree
  pathOf tree tree.nodes.size state.space.workingDirectory []

end State

namespace Builtin

/-- The names of a path. -/
def namesOf (path : Chars) : List Chars :=
  (path.splitOn '/').filter (!·.isEmpty)

/-- Goes on from a directory, given by its names from the last to the first, along some names. -/
def follow : List Chars → List Chars → List Chars
  | found, [] => found
  | found, ['.'] :: rest => follow found rest
  | found, ['.', '.'] :: rest => follow found.tail rest
  | found, name :: rest => follow (name :: found) rest

/-- A path from a directory without dots. Two slashes at the start, but not more, stay two. -/
def plainPath (directory path : Chars) : Chars :=
  let (start, doubled) := match path with
    | '/' :: '/' :: rest => ([], rest.head? != some '/')
    | '/' :: _ => ([], false)
    | _ => (namesOf directory, "//".toList.isPrefixOf directory)
  let names := (follow start.reverse (namesOf path)).reverse
  (if doubled then "//".toList else ['/']) ++ ['/'].intercalate names

/-- Whether a path says by itself where it starts. -/
def isAnchored (path : Chars) : Bool :=
  path.head? == some '/' || [['.'], ['.', '.']].contains (path.takeWhile (· != '/'))

/-- The first of the paths to search at which there is the directory wanted, with whether it is in
a directory that was named. -/
def searched? (state : State) (target : Chars) : Option (Chars × Bool) :=
  match state.value? "CDPATH".toList with
  | none => none
  | some path =>
      let candidates := (path.splitOn ':').map fun directory =>
        (if directory.isEmpty then target else directory ++ '/' :: target, !directory.isEmpty)
      candidates.find? fun candidate =>
        let space := state.space
        match space.tree.find true space.workingDirectory (Chars.toBytes candidate.1) with
        | .ok node => space.tree.isDirectory node
        | .error _ => false

def changeDirectory (arguments : List Chars) : Run Nat := do
  let reading ← Run.optionsOf "LP" "" arguments
  let physical := reading.letters.getLast? == some 'P'
  let state ← get
  let space := state.space
  let back := reading.arguments.head? == some ['-']
  let named := match reading.arguments.head? with
    | some target => if back then (state.value? "OLDPWD".toList).getD [] else target
    | none => (state.value? "HOME".toList).getD []
  let target := if named.isEmpty then ['.'] else named
  let (path, elsewhere) :=
    (if isAnchored named then none else searched? state target).getD (target, false)
  let logical := plainPath state.directory path
  let refuse : Run Nat := Run.fail ("can't cd to ".toList ++ target)
  let aim := Chars.toBytes (if physical then path else logical)
  match space.tree.find true space.workingDirectory aim with
  | .error _ => refuse
  | .ok node =>
      if space.tree.isDirectory node && space.tree.allows node File.Node.toSearch then
        let moved := { state with space := { space with workingDirectory := node } }
        let directory := if physical then moved.physicalDirectory else logical
        set { moved with directory := directory }
        Run.assign "OLDPWD".toList state.directory true
        Run.assign "PWD".toList directory true
        if back || elsewhere then Run.output (directory ++ ['\n']) else return 0
      else refuse

def workingDirectory (arguments : List Chars) : Run Nat := do
  let reading ← Run.optionsOf "LP" "" arguments
  let state ← get
  let physical := reading.letters.getLast? == some 'P'
  Run.output ((if physical then state.physicalDirectory else state.directory) ++ ['\n'])

end Builtin

end Confinement.Shell
