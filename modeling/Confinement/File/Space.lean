import Confinement.File.Status
import Confinement.File.Tree

/-!
Open files over a tree. Opening a path gives a handle that closes when the process is replaced; data
is written and read at the handle's own offset, and a file lives on while a handle holds it. The
process owns the files that it makes, and to all files it may do what their permissions say.
-/

namespace Confinement.File

structure OpenFile where
  node : Nat
  offset : Nat := 0
  readable : Bool
  writable : Bool
  append : Bool
  closeOnExec : Bool
deriving DecidableEq, Repr

/-- Files, the directory that relative paths start at, and the open handles. -/
structure Space where
  tree : Tree
  workingDirectory : Nat := 0
  /-- The permissions that a new file is not given. -/
  mask : Nat := 0o022
  handles : Table Nat OpenFile := {}
  nextHandle : Nat := 0
deriving DecidableEq, Repr

inductive Access where
  | read
  | write
  | readWrite
  /-- Needs the right to read and to write and gives neither, as for the control of a device. -/
  | control
deriving DecidableEq, Repr

namespace Access

def reads : Access → Bool
  | .read | .readWrite => true
  | .write | .control => false

def writes : Access → Bool
  | .write | .readWrite => true
  | .read | .control => false

/-- The permissions that opening takes. -/
def needed : Access → Nat
  | .read => Node.toRead
  | .write => Node.toWrite
  | .readWrite | .control => Node.toRead ||| Node.toWrite

end Access

structure OpenFlags where
  access : Access := .read
  create : Bool := false
  exclusive : Bool := false
  append : Bool := false
  truncate : Bool := false
  directory : Bool := false
  noFollow : Bool := false
deriving DecidableEq, Repr

/-- Where relative paths start. -/
inductive Origin where
  | workingDirectory
  | handle (handle : Nat)
deriving DecidableEq, Repr

namespace Space

/-- The permissions of a new file for which `mode` is asked. -/
def granted (space : Space) (mode : Nat) : Nat :=
  (mode &&& 0o7777) &&& (0o7777 ^^^ (space.mask &&& 0o777))

def handle? (space : Space) (handle : Nat) : Except Errno OpenFile :=
  match space.handles.find? handle with
  | some file => .ok file
  | none => .error .badDescriptor

def start (space : Space) : Origin → Except Errno Nat
  | .workingDirectory => .ok space.workingDirectory
  | .handle handle =>
      match space.handle? handle with
      | .error errno => .error errno
      | .ok file => .ok file.node

private def admitHandle (space : Space) (node : Nat) (flags : OpenFlags) : Nat × Space :=
  let file : OpenFile := {
    node := node
    readable := flags.access.reads
    writable := flags.access.writes
    append := flags.append
    closeOnExec := true }
  (space.nextHandle,
    { space with
      handles := space.handles.put space.nextHandle file
      nextHandle := space.nextHandle + 1 })

/-- Changes what a file holds, and with it the marks that do not outlive a change. -/
private def withContent (space : Space) (node : Nat) (content : Content) : Space :=
  { space with
    tree := space.tree.modify node fun file => { file.unmarked with content := content } }

/-- Opens what is at a place already. -/
private def openExisting (space : Space) (place : Place) (node : Nat) (flags : OpenFlags) :
    Except Errno (Nat × Space) :=
  let isDirectory := space.tree.isDirectory node
  let needed := flags.access.needed ||| if flags.truncate then Node.toWrite else 0
  if flags.create && flags.exclusive then .error .alreadyExists
  else if flags.create && isDirectory then .error .isDirectory
  else if (flags.directory || place.slashEnd) && !isDirectory then .error .notDirectory
  else
    match space.tree.content? node with
    | some (.link _) => .error .tooManyLinks
    | content =>
        if isDirectory && needed &&& Node.toWrite != 0 then .error .isDirectory
        else if space.tree.isFrozen node && needed &&& Node.toWrite != 0 then
          .error .notPermitted
        else if !space.tree.allows node needed then .error .accessDenied
        else
          match content with
          | some (.regular _) =>
              if flags.truncate then
                .ok ((space.withContent node (.regular [])).admitHandle node flags)
              else .ok (space.admitHandle node flags)
          | some (.device .terminal) => .error .noDevice
          | _ => .ok (space.admitHandle node flags)

/-- Why entries of a directory may not be made or removed, if they may not. -/
private def changeRefusal? (space : Space) (directory : Nat) : Option Errno :=
  if space.tree.isFrozen directory then some .notPermitted
  else if space.tree.allows directory (Node.toWrite ||| Node.toSearch) then none
  else some .accessDenied

/-- Opens the file at a path, or creates it there with the permissions of `mode`. -/
def openAt (space : Space) (origin : Origin) (path : Bytes) (flags : OpenFlags) (mode : Nat) :
    Except Errno (Nat × Space) :=
  if flags.directory && flags.create then .error .invalid
  else
    match Path.parse path with
    | .error errno => .error errno
    | .ok path =>
        match if path.absolute then .ok 0 else space.start origin with
        | .error errno => .error errno
        | .ok start =>
            let ending : Tree.Ending := {
              follow := !flags.noFollow && !(flags.create && flags.exclusive)
              create := flags.create }
            match space.tree.resolve ending start path with
            | .error errno => .error errno
            | .ok place =>
                match place.node, place.name with
                | some node, _ => space.openExisting place node flags
                | none, some name =>
                    if !flags.create || space.tree.volume place.directory = .processes then
                      .error .noEntry
                    else
                      match space.changeRefusal? place.directory with
                      | some errno => .error errno
                      | none =>
                          let (node, tree) := space.tree.create place.directory name {
                            content := .regular []
                            owner := processUser
                            permissions := space.granted mode }
                          .ok (({ space with tree := tree } : Space).admitHandle node flags)
                | none, none => .error .noEntry

def close (space : Space) (handle : Nat) : Except Errno Space :=
  match space.handle? handle with
  | .error errno => .error errno
  | .ok _ => .ok { space with handles := space.handles.erase handle }

/-- Moves the offset of an open file. -/
private def seek (space : Space) (handle : Nat) (file : OpenFile) (offset : Nat) : Space :=
  { space with handles := space.handles.put handle { file with offset := offset } }

/-- Data with bytes laid over it from an offset on; a gap before them is filled with zeros. -/
def overwrite (data : Bytes) (offset : Nat) (bytes : Bytes) : Bytes :=
  data.take offset ++ List.replicate (offset - data.length) 0 ++ bytes ++
    data.drop (offset + bytes.length)

/-- Writes bytes and tells how many. -/
def write (space : Space) (handle : Nat) (bytes : Bytes) : Except Errno (Nat × Space) :=
  match space.handle? handle with
  | .error errno => .error errno
  | .ok file =>
      if !file.writable then .error .badDescriptor
      else
        match space.tree.content? file.node with
        | some (.regular data) =>
            if bytes.isEmpty then .ok (0, space)
            else
              let offset := if file.append then data.length else file.offset
              let written := space.withContent file.node (.regular (overwrite data offset bytes))
              .ok (bytes.length, written.seek handle file (offset + bytes.length))
        | some (.device .full) => if bytes.isEmpty then .ok (0, space) else .error .noSpace
        | _ => .ok (bytes.length, space)

/-- Reads from the offset to the end. -/
def read (space : Space) (handle : Nat) : Except Errno (Bytes × Space) :=
  match space.handle? handle with
  | .error errno => .error errno
  | .ok file =>
      if !file.readable then .error .badDescriptor
      else
        match space.tree.content? file.node with
        | some (.directory _ _) => .error .isDirectory
        | some (.regular data) =>
            .ok (data.drop file.offset, space.seek handle file (max file.offset data.length))
        | some (.report _ text) =>
            .ok (text.drop file.offset, space.seek handle file (max file.offset text.length))
        | _ => .ok ([], space)

def statusOf (space : Space) (node : Nat) : Except Errno Status :=
  match space.tree.nodes[node]? with
  | none => .error .noEntry
  | some file =>
      let (kind, size) :=
        match file.content with
        | .regular data => (0x8000, data.length)
        | .program _ => (0x8000, 0)
        | .directory _ _ => (0x4000, 0)
        | .link target => (0xa000, target.length)
        | .device .pipe => (0x1000, 0)
        | .device _ => (0x2000, 0)
        | .report size _ => (0x8000, size)
      .ok (Status.ofKernel {
        device := 1
        inode := .ofNat (node + 1)
        mode := .ofNat (kind + file.permissions)
        links := .ofNat file.links
        user := .ofNat file.owner
        size := .ofNat size
        blockSize := 4096
        accessSeconds := 1
        modificationSeconds := 1
        changeSeconds := 1 })

/-- The status of the file at a path. -/
def status (space : Space) (path : Bytes) : Except Errno Status :=
  match space.tree.find true space.workingDirectory path with
  | .error errno => .error errno
  | .ok node => space.statusOf node

/-- The status of an open file. -/
def handleStatus (space : Space) (handle : Nat) : Except Errno Status :=
  match space.handle? handle with
  | .error errno => .error errno
  | .ok file => space.statusOf file.node

/-- A change that is not asked of the system with a path that has NUL in it. -/
private def onPaths (paths : List Bytes) (change : Except Errno Space) : Except IoError Space :=
  if paths.any (·.contains 0) then
    .error (.invalidInput "file name contained an unexpected NUL byte")
  else
    match change with
    | .error errno => .error (.os errno.number)
    | .ok space => .ok space

/-- Resolves a path at which a new entry is to be made. -/
private def vacant (space : Space) (forDirectory : Bool) (path : Bytes) :
    Except Errno (Nat × Bytes) :=
  match Path.parse path with
  | .error errno => .error errno
  | .ok path =>
      match space.tree.resolve ⟨false, false⟩ space.workingDirectory
          { path with slashEnd := false } with
      | .error errno => .error errno
      | .ok place =>
          match place.node, place.name with
          | none, some name =>
              if path.slashEnd && !forDirectory then .error .noEntry
              else if space.tree.volume place.directory = .processes then .error .noEntry
              else .ok (place.directory, name)
          | _, _ => .error .alreadyExists

private def addNode (space : Space) (directory : Nat) (name : Bytes) (node : Node) :
    Except Errno Space :=
  match space.changeRefusal? directory with
  | some errno => .error errno
  | none => .ok { space with tree := (space.tree.create directory name node).2 }

def makeDirectory (space : Space) (path : Bytes) (mode : Nat) : Except IoError Space :=
  onPaths [path] <|
    match space.vacant true path with
    | .error errno => .error errno
    | .ok (directory, name) =>
        space.addNode directory name {
          content := .directory directory {}
          owner := processUser
          permissions := space.granted mode
          links := 2 }

/-- Makes a symbolic link. Its target is a path that need not lead anywhere. -/
def makeLink (space : Space) (target path : Bytes) : Except IoError Space :=
  onPaths [target, path] <|
    match Path.parse target with
    | .error errno => .error errno
    | .ok _ =>
        match space.vacant false path with
        | .error errno => .error errno
        | .ok (directory, name) =>
            space.addNode directory name
              { content := .link target, owner := processUser, permissions := 0o777 }

/-- Gives the file at a path a second name on its volume. Only the owner of a file may do so. -/
def addName (space : Space) (path target : Bytes) : Except IoError Space :=
  onPaths [path, target] <|
    match space.tree.find false space.workingDirectory path with
    | .error errno => .error errno
    | .ok node =>
        match space.vacant false target with
        | .error errno => .error errno
        | .ok (directory, name) =>
            if space.tree.volume node ≠ space.tree.volume directory then .error .crossVolume
            else if (space.tree.nodes[node]?.map (·.owner)) != some processUser then
              .error .notPermitted
            else
              match space.changeRefusal? directory with
              | some errno => .error errno
              | none =>
                  if space.tree.isDirectory node then .error .notPermitted
                  else
                    let tree := space.tree.modify node fun file =>
                      { file with links := file.links + 1 }
                    .ok { space with tree := tree.setEntry directory name (some node) }

/-- Whether a directory keeps its entries for their owners and its own. -/
private def keeps (space : Space) (directory node : Nat) : Bool :=
  match space.tree.nodes[directory]?, space.tree.nodes[node]? with
  | some directory, some node =>
      directory.permissions &&& 0o1000 != 0 && directory.owner != processUser &&
        node.owner != processUser
  | _, _ => false

/-- Removes a name. The file goes with its last name and handle. -/
def removeName (space : Space) (path : Bytes) : Except IoError Space :=
  onPaths [path] <|
    match Path.parse path with
    | .error errno => .error errno
    | .ok path =>
        match space.tree.resolve ⟨false, false⟩ space.workingDirectory
            { path with slashEnd := false } with
        | .error errno => .error errno
        | .ok place =>
            match place.node, place.name with
            | none, _ => .error .noEntry
            | some _, none => .error .isDirectory
            | some node, some name =>
                let isDirectory := space.tree.isDirectory node
                if path.slashEnd then
                  .error (if isDirectory then .isDirectory else .notDirectory)
                else
                  match space.changeRefusal? place.directory with
                  | some errno => .error errno
                  | none =>
                      if space.keeps place.directory node then .error .notPermitted
                      else if isDirectory then .error .isDirectory
                      else
                        let tree := space.tree.modify node fun file =>
                          { file with links := file.links - 1 }
                        .ok { space with tree := tree.setEntry place.directory name none }

/-- Why a file cannot be written anew at a path, if it cannot. -/
def refusal? (space : Space) (path : Bytes) : Option Errno :=
  let flags : OpenFlags := { access := .write, create := true, truncate := true }
  match space.openAt .workingDirectory path flags 0o666 with
  | .error errno => some errno
  | .ok (handle, space) =>
      match space.write handle [0] with
      | .ok _ => none
      | .error errno => some errno

end Space

end Confinement.File
