import Confinement.SharedMemory
import Confinement.System.Release

/-!
What a system supports, found out once. A probe reads the release of the running kernel and tries
the optional features; its result is kept, and whoever asks again is given the same one.
-/

namespace Confinement

/-- How a kernel answers the questions of a probe. -/
structure Host where
  sysname : String
  machine : String
  release : String
  /-- Whether the process is in capability mode, or why that cannot be told. -/
  capabilityMode : Except Errno Bool
  /-- The identifier of a small shared segment, or why there is none. -/
  sharedSegment : Except Errno Nat

/-- A host that has no capability mode but System V shared memory. -/
def Host.linux (machine release : String) : Host where
  sysname := "Linux"
  machine := machine
  release := release
  capabilityMode := .error .notImplemented
  sharedSegment := (SharedMemory.probe {}).1

structure SystemInfo where
  sysname : String
  machine : String
  release : Release
  capsicum : Bool
  capabilityMode : Bool
  sharedMemory : Bool
deriving DecidableEq, Repr

namespace SystemInfo

def probe (host : Host) : Except ReleaseUnreadable SystemInfo :=
  match Release.parse host.release with
  | .error reason => .error reason
  | .ok release =>
      .ok {
        sysname := host.sysname
        machine := host.machine
        release := release
        capsicum := host.capabilityMode.isOk
        capabilityMode := host.capabilityMode.toOption.getD false
        sharedMemory := host.sharedSegment.isOk }

/-- The result of the first probe. -/
abbrev Cache := Option (Except ReleaseUnreadable SystemInfo)

/-- The cached result, or that of a probe, which the cache then holds. -/
def check (host : Host) : Cache → Except ReleaseUnreadable SystemInfo × Cache
  | some result => (result, some result)
  | none => (probe host, some (probe host))

def yesNo (answer : Bool) : String :=
  if answer then "yes" else "no"

/-- The report of a system, with the machine and the release as given. -/
def reportAs (info : SystemInfo) (machine release : String) : List String :=
  [ "system:          " ++ info.sysname ++ " " ++ machine,
    "release:         " ++ release,
    "capsicum:        " ++ yesNo info.capsicum,
    "capability mode: " ++ yesNo info.capabilityMode,
    "sysv shm:        " ++ yesNo info.sharedMemory ]

def report (info : SystemInfo) : List String :=
  info.reportAs info.machine info.release.render

end SystemInfo

end Confinement
