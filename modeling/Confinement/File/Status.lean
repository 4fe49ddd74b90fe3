import Confinement.Text.Digits

/-!
The status of a file: the record that the kernel fills in, and the same with its three times as
values of their own.
-/

namespace Confinement.File

/-- Seconds and nanoseconds since the epoch. -/
structure Timespec where
  seconds : Int64 := 0
  nanoseconds : Int64 := 0
deriving DecidableEq, Repr, Inhabited

namespace Timespec

/-- Seconds come first; nanoseconds decide between equal seconds. -/
def order (first second : Timespec) : Ordering :=
  (compare first.seconds.toInt second.seconds.toInt).then
    (compare first.nanoseconds.toInt second.nanoseconds.toInt)

instance : Ord Timespec := ⟨order⟩

def text (time : Timespec) : String :=
  "Timespec \x7b sec: " ++ String.ofList (Text.signedDecimal time.seconds.toInt) ++
    ", nsec: " ++ String.ofList (Text.signedDecimal time.nanoseconds.toInt) ++ " \x7d"

end Timespec

/-- The kernel's record, in words of the kernel's widths. -/
structure KernelStatus where
  device : UInt64 := 0
  inode : UInt64 := 0
  mode : UInt32 := 0
  links : UInt64 := 0
  user : UInt32 := 0
  group : UInt32 := 0
  specialDevice : UInt64 := 0
  size : Int64 := 0
  blockSize : Int64 := 0
  blocks : Int64 := 0
  accessSeconds : Int64 := 0
  accessNanoseconds : Int64 := 0
  modificationSeconds : Int64 := 0
  modificationNanoseconds : Int64 := 0
  changeSeconds : Int64 := 0
  changeNanoseconds : Int64 := 0
deriving DecidableEq, Repr, Inhabited

structure Status where
  device : UInt64
  inode : UInt64
  mode : UInt32
  links : UInt64
  user : UInt32
  group : UInt32
  specialDevice : UInt64
  size : Int64
  blockSize : Int64
  blocks : Int64
  accessed : Timespec
  modified : Timespec
  changed : Timespec
deriving DecidableEq, Repr

inductive Kind where
  | regular
  | directory
  | other
deriving DecidableEq, Repr

namespace Status

def ofKernel (status : KernelStatus) : Status where
  device := status.device
  inode := status.inode
  mode := status.mode
  links := status.links
  user := status.user
  group := status.group
  specialDevice := status.specialDevice
  size := status.size
  blockSize := status.blockSize
  blocks := status.blocks
  accessed := ⟨status.accessSeconds, status.accessNanoseconds⟩
  modified := ⟨status.modificationSeconds, status.modificationNanoseconds⟩
  changed := ⟨status.changeSeconds, status.changeNanoseconds⟩

/-- The kind of file that the high bits of a mode tell. -/
def kind (status : Status) : Kind :=
  match status.mode.toNat / 0x1000 % 16 with
  | 8 => .regular
  | 4 => .directory
  | _ => .other

/-- The twelve permission bits of a mode. -/
def permissions (status : Status) : Nat :=
  status.mode.toNat % 0x1000

def sameFile (first second : Status) : Bool :=
  first.device == second.device && first.inode == second.inode

/-- Whether the times are such as a running system gives to files. -/
def hasSaneTimes (status : Status) : Bool :=
  0 < status.modified.seconds && 0 ≤ status.modified.nanoseconds &&
    status.modified.nanoseconds < 1000000000 && 0 < status.accessed.seconds &&
    (status.changed.order {}).isGE

end Status

end Confinement.File
