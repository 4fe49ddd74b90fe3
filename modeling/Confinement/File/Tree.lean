import Confinement.Errno
import Confinement.Process.Program
import Confinement.Table
import Confinement.Text.Utf8

/-!
The tree of files: nodes by number, directories that name them, and the way a path leads from
directory to directory. Symbolic links on the way are followed, forty at most, and each directory
on the way has to let its searcher in.
-/

namespace Confinement.File

inductive Device where
  /-- Takes everything and gives nothing. -/
  | null
  /-- Takes everything and gives zeros without end. -/
  | zero
  /-- Has no room for anything. -/
  | full
  /-- The terminal of a process that has none. -/
  | terminal
  /-- One end of a stream; others are at its other end. -/
  | pipe
deriving DecidableEq, Repr

inductive Content where
  | directory (parent : Nat) (entries : Table Bytes Nat)
  | regular (data : Bytes)
  | link (target : Bytes)
  | device (device : Device)
  | program (program : Program)
  /-- Text that the system makes up when it is read, and the size that it shows until then. -/
  | report (size : Nat) (text : Bytes)
deriving DecidableEq, Repr

/-- What files are kept on. One file has names on one volume only. -/
inductive Volume where
  | disk
  | memory
  | devices
  | terminals
  | hardware
  /-- Its names are given by the system alone. -/
  | processes
deriving DecidableEq, Repr

structure Node where
  content : Content
  owner : Nat
  permissions : Nat
  links : Nat := 1
  volume : Volume := .disk
  /-- Whether nobody may change it, whatever the permissions say. -/
  frozen : Bool := false
deriving DecidableEq, Repr

/-- Nodes by number. Node zero is the root directory. -/
structure Tree where
  nodes : Array Node
deriving DecidableEq, Repr

/-- A path: its names without empty ones, and whether it begins and ends with a slash. -/
structure Path where
  absolute : Bool
  names : List Bytes
  slashEnd : Bool
deriving DecidableEq, Repr

/-- Where a path leads: a directory and, unless the path ends in a dot name, a name in it, with the
node that is found there. -/
structure Place where
  directory : Nat
  name : Option Bytes
  node : Option Nat
  slashEnd : Bool
deriving DecidableEq, Repr

def slash : UInt8 := 0x2f

namespace Path

def splitNames : Bytes → List Bytes
  | [] => [[]]
  | byte :: rest =>
      if byte = slash then [] :: splitNames rest
      else
        match splitNames rest with
        | [] => [[byte]]
        | first :: others => (byte :: first) :: others

def ofBytes (bytes : Bytes) : Path :=
  ⟨bytes.head? == some slash, (splitNames bytes).filter (!·.isEmpty),
    bytes.getLast? == some slash⟩

/-- Longest path and longest name that a call can take, the former with its closing NUL. -/
def maxLength : Nat := 4096
def maxName : Nat := 255

/-- The path that a call is given. -/
def parse (bytes : Bytes) : Except Errno Path :=
  if bytes.contains 0 then .error .invalid
  else if bytes.isEmpty then .error .noEntry
  else if maxLength ≤ bytes.length then .error .nameTooLong
  else .ok (ofBytes bytes)

/-- A path below a directory, which may go without a name; an absolute path stays as it is. -/
def join (directory path : Bytes) : Bytes :=
  if path.head? = some slash ∨ directory.isEmpty then path
  else if directory.getLast? = some slash then directory ++ path
  else directory ++ slash :: path

end Path

/-- The users there are: the one that owns the system and the one that the process runs as. -/
def systemUser : Nat := 0
def processUser : Nat := 1000

/-- The number of the process. -/
def processNumber : Nat := 4711

namespace Node

def toRead : Nat := 4
def toWrite : Nat := 2
def toSearch : Nat := 1

/-- Whether the process may do what it wants with a node. Permissions are the owner's, the group's
and everyone's; the process belongs to no group of another user. -/
def allows (node : Node) (wanted : Nat) : Bool :=
  let granted := if node.owner = processUser then node.permissions / 64 else node.permissions
  wanted &&& (7 ^^^ (granted &&& 7)) == 0

/-- A file that is changed loses the marks that lend the rights of its owner and its group to those
who run it. The group's mark means something else on a file that the group may not run. -/
def unmarked (node : Node) : Node :=
  let runByGroup := node.permissions &&& 0o010 != 0
  let marks := if runByGroup then 0o6000 else 0o4000
  { node with permissions := node.permissions &&& (0o7777 ^^^ marks) }

end Node

namespace Tree

def content? (tree : Tree) (node : Nat) : Option Content :=
  tree.nodes[node]?.map (·.content)

def isDirectory (tree : Tree) (node : Nat) : Bool :=
  match tree.content? node with
  | some (.directory _ _) => true
  | _ => false

def entry? (tree : Tree) (directory : Nat) (name : Bytes) : Option Nat :=
  match tree.content? directory with
  | some (.directory _ entries) => entries.find? name
  | _ => none

def parent (tree : Tree) (directory : Nat) : Nat :=
  match tree.content? directory with
  | some (.directory parent _) => parent
  | _ => 0

def dot : Bytes := [0x2e]
def dotDot : Bytes := [0x2e, 0x2e]

/-- How many symbolic links one path may pass. -/
def maxLinks : Nat := 40

def allows (tree : Tree) (node wanted : Nat) : Bool :=
  match tree.nodes[node]? with
  | some found => found.allows wanted
  | none => false

def volume (tree : Tree) (node : Nat) : Volume :=
  match tree.nodes[node]? with
  | some found => found.volume
  | none => .disk

def isFrozen (tree : Tree) (node : Nat) : Bool :=
  match tree.nodes[node]? with
  | some found => found.frozen
  | none => false

/-- How the end of a path is treated. -/
structure Ending where
  /-- Whether a symbolic link at the end is followed, as it is anyway before a slash. -/
  follow : Bool
  /-- Whether a file may be made there. Its name then must not have a slash behind it. -/
  create : Bool := false
deriving DecidableEq, Repr

/-- Walks from a directory along names. -/
def walk (tree : Tree) (ending : Ending) (links : Nat) (current : Nat) (slashEnd : Bool) :
    List Bytes → Except Errno Place
  | [] => .ok ⟨current, none, some current, slashEnd⟩
  | name :: rest =>
      if !tree.allows current Node.toSearch then .error .accessDenied
      else if name = dot then walk tree ending links current slashEnd rest
      else if name = dotDot then walk tree ending links (tree.parent current) slashEnd rest
      else if rest.isEmpty && slashEnd && ending.create then .error .isDirectory
      else if Path.maxName < name.length then .error .nameTooLong
      else
        match tree.entry? current name with
        | none => if rest.isEmpty then .ok ⟨current, some name, none, slashEnd⟩ else .error .noEntry
        | some node =>
            match tree.content? node with
            | some (.link target) =>
                if rest.isEmpty && !ending.follow && !slashEnd then
                  .ok ⟨current, some name, some node, slashEnd⟩
                else
                  match links with
                  | 0 => .error .tooManyLinks
                  | links + 1 =>
                      let path := Path.ofBytes target
                      walk tree ending links (if path.absolute then 0 else current)
                        (slashEnd || (rest.isEmpty && path.slashEnd)) (path.names ++ rest)
            | some (.directory _ _) =>
                if rest.isEmpty then .ok ⟨current, some name, some node, slashEnd⟩
                else walk tree ending links node slashEnd rest
            | _ =>
                if rest.isEmpty then .ok ⟨current, some name, some node, slashEnd⟩
                else .error .notDirectory
termination_by names => (links, names.length)

/-- Resolves a path; a relative one starts at node `start`. -/
def resolve (tree : Tree) (ending : Ending) (start : Nat) (path : Path) : Except Errno Place :=
  let origin := if path.absolute then 0 else start
  if tree.isDirectory origin then tree.walk ending maxLinks origin path.slashEnd path.names
  else .error .notDirectory

/-- The node at a path. Only a directory may have a slash behind it. -/
def find (tree : Tree) (follow : Bool) (start : Nat) (path : Bytes) : Except Errno Nat :=
  match Path.parse path with
  | .error errno => .error errno
  | .ok path =>
      match tree.resolve ⟨follow, false⟩ start path with
      | .error errno => .error errno
      | .ok place =>
          match place.node with
          | none => .error .noEntry
          | some node =>
              if place.slashEnd && !tree.isDirectory node then .error .notDirectory else .ok node

def modify (tree : Tree) (node : Nat) (change : Node → Node) : Tree :=
  ⟨tree.nodes.modify node change⟩

/-- Adds or, with no node, removes an entry of a directory. -/
def setEntry (tree : Tree) (directory : Nat) (name : Bytes) (node : Option Nat) : Tree :=
  tree.modify directory fun found =>
    match found.content with
    | .directory parent entries =>
        let changed :=
          match node with
          | some node => entries.put name node
          | none => entries.erase name
        { found with content := .directory parent changed }
    | _ => found

/-- Adds a node under a name of a directory, on the volume of the directory. -/
def create (tree : Tree) (directory : Nat) (name : Bytes) (node : Node) : Nat × Tree :=
  let number := tree.nodes.size
  let node := { node with volume := tree.volume directory }
  (number, (Tree.mk (tree.nodes.push node)).setEntry directory name (some number))

/-- The program at a path: an existing file that may be executed. -/
def program (tree : Tree) (start : Nat) (path : Bytes) : Except Errno Program :=
  match tree.find true start path with
  | .error errno => .error errno
  | .ok node =>
      match tree.content? node with
      | some (.program program) =>
          if tree.allows node Node.toSearch then .ok program else .error .accessDenied
      | some (.regular _) =>
          if tree.allows node Node.toSearch then .error .notExecutable else .error .accessDenied
      | _ => .error .accessDenied

end Tree

end Confinement.File
