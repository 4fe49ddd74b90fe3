import Confinement.Errno
import Confinement.Table
import Confinement.Text.Utf8

/-!
Whole files by path, as a harness and its children use them: a file is written or read at one go.
Some paths cannot be written; which, and why, is the system's to say.
-/

namespace Confinement.File

structure Store where
  contents : Table Bytes Bytes := {}
  /-- Why no file can be written at a path, if none can. -/
  refusal? : Bytes → Option Errno := fun _ => none

namespace Store

def find? (store : Store) (path : Bytes) : Option Bytes :=
  store.contents.find? path

/-- Gives the file at a path new contents, whatever it held before. -/
def write (store : Store) (path contents : Bytes) : Except Errno Store :=
  match store.refusal? path with
  | some errno => .error errno
  | none => .ok { store with contents := store.contents.put path contents }

def read (store : Store) (path : Bytes) : Except Errno Bytes :=
  match store.find? path with
  | some contents => .ok contents
  | none => .error .noEntry

def remove (store : Store) (path : Bytes) : Store :=
  { store with contents := store.contents.erase path }

theorem find?_write {store after : Store} {path contents : Bytes}
    (written : store.write path contents = .ok after) : after.find? path = some contents := by
  unfold write at written
  split at written
  · cases written
  · cases written
    exact Table.find?_put_self _ _ _

theorem find?_write_ne {store after : Store} {path other contents : Bytes}
    (written : store.write path contents = .ok after) (different : other ≠ path) :
    after.find? other = store.find? other := by
  unfold write at written
  split at written
  · cases written
  · cases written
    exact Table.find?_put_ne _ _ different

end Store

end Confinement.File
