import Confinement.Rights.Set
import Confinement.Text.Blank

/-!
The rights by name. A right is a mark for its word with one bit of its own, or with the bits of
other rights as well where it needs them. The primitive names report each bit once; the further
names stand for unions of primitive rights.
-/

namespace Confinement.Right

/-! Rights of the first word. -/

def read : Word := Word.marked 0 0x1
def write : Word := Word.marked 0 0x2
def seekTell : Word := Word.marked 0 0x4
def seek : Word := seekTell ||| 0x8
def pread : Word := seek ||| read
def pwrite : Word := seek ||| write
def mmap : Word := Word.marked 0 0x10
def mmapR : Word := mmap ||| seek ||| read
def mmapW : Word := mmap ||| seek ||| write
def mmapX : Word := mmap ||| seek ||| 0x20
def mmapRw : Word := mmapR ||| mmapW
def mmapRx : Word := mmapR ||| mmapX
def mmapWx : Word := mmapW ||| mmapX
def mmapRwx : Word := mmapR ||| mmapW ||| mmapX
def create : Word := Word.marked 0 0x40
def fexecve : Word := Word.marked 0 0x80
def fsync : Word := Word.marked 0 0x100
def ftruncate : Word := Word.marked 0 0x200
def lookup : Word := Word.marked 0 0x400
def fchdir : Word := Word.marked 0 0x800
def fchflags : Word := Word.marked 0 0x1000
def chflagsat : Word := fchflags ||| lookup
def fchmod : Word := Word.marked 0 0x2000
def fchmodat : Word := fchmod ||| lookup
def fchown : Word := Word.marked 0 0x4000
def fchownat : Word := fchown ||| lookup
def fcntl : Word := Word.marked 0 0x8000
def flock : Word := Word.marked 0 0x10000
def fpathconf : Word := Word.marked 0 0x20000
def fsck : Word := Word.marked 0 0x40000
def fstat : Word := Word.marked 0 0x80000
def fstatat : Word := fstat ||| lookup
def fstatfs : Word := Word.marked 0 0x100000
def futimes : Word := Word.marked 0 0x200000
def futimesat : Word := futimes ||| lookup
def linkatTarget : Word := lookup ||| 0x400000
def mkdirat : Word := lookup ||| 0x800000
def mkfifoat : Word := lookup ||| 0x1000000
def mknodat : Word := lookup ||| 0x2000000
def renameatSource : Word := lookup ||| 0x4000000
def symlinkat : Word := lookup ||| 0x8000000
def unlinkat : Word := lookup ||| 0x10000000
def accept : Word := Word.marked 0 0x20000000
def bind : Word := Word.marked 0 0x40000000
def connect : Word := Word.marked 0 0x80000000
def getpeername : Word := Word.marked 0 0x100000000
def getsockname : Word := Word.marked 0 0x200000000
def getsockopt : Word := Word.marked 0 0x400000000
def listen : Word := Word.marked 0 0x800000000
def peeloff : Word := Word.marked 0 0x1000000000
def recv : Word := read
def send : Word := write
def setsockopt : Word := Word.marked 0 0x2000000000
def shutdown : Word := Word.marked 0 0x4000000000
def bindat : Word := lookup ||| 0x8000000000
def connectat : Word := lookup ||| 0x10000000000
def linkatSource : Word := lookup ||| 0x20000000000
def renameatTarget : Word := lookup ||| 0x40000000000
def sockClient : Word :=
  connect ||| getpeername ||| getsockname ||| getsockopt ||| peeloff ||| recv ||| send |||
    setsockopt ||| shutdown
def sockServer : Word :=
  accept ||| bind ||| getpeername ||| getsockname ||| getsockopt ||| listen ||| peeloff |||
    recv ||| send ||| setsockopt ||| shutdown
def all0 : Word := Word.marked 0 0x7ffffffffff
def unused0Low : Word := Word.marked 0 0x80000000000
def unused0High : Word := Word.marked 0 0x100000000000000

/-! Rights of the second word. -/

def macGet : Word := Word.marked 1 0x1
def macSet : Word := Word.marked 1 0x2
def semGetvalue : Word := Word.marked 1 0x4
def semPost : Word := Word.marked 1 0x8
def semWait : Word := Word.marked 1 0x10
def event : Word := Word.marked 1 0x20
def kqueueEvent : Word := Word.marked 1 0x40
def ioctl : Word := Word.marked 1 0x80
def ttyhook : Word := Word.marked 1 0x100
def pdgetpid : Word := Word.marked 1 0x200
def pdwait : Word := Word.marked 1 0x400
def pdkill : Word := Word.marked 1 0x800
def extattrDelete : Word := Word.marked 1 0x1000
def extattrGet : Word := Word.marked 1 0x2000
def extattrList : Word := Word.marked 1 0x4000
def extattrSet : Word := Word.marked 1 0x8000
def aclCheck : Word := Word.marked 1 0x10000
def aclDelete : Word := Word.marked 1 0x20000
def aclGet : Word := Word.marked 1 0x40000
def aclSet : Word := Word.marked 1 0x80000
def kqueueChange : Word := Word.marked 1 0x100000
def kqueue : Word := kqueueEvent ||| kqueueChange
def all1 : Word := Word.marked 1 0x1fffff
def unused1Low : Word := Word.marked 1 0x200000
def unused1High : Word := Word.marked 1 0x100000000000000

/-- Rights that own a bit, by name and in the order of a listing. -/
def primitives : List (String × Word) :=
  [("read", read), ("write", write), ("seek_tell", seekTell), ("seek", seek), ("mmap", mmap),
    ("mmap_x", mmapX), ("create", create), ("fexecve", fexecve), ("fsync", fsync),
    ("ftruncate", ftruncate), ("lookup", lookup), ("fchdir", fchdir), ("fchflags", fchflags),
    ("fchmod", fchmod), ("fchown", fchown), ("fcntl", fcntl), ("flock", flock),
    ("fpathconf", fpathconf), ("fsck", fsck), ("fstat", fstat), ("fstatfs", fstatfs),
    ("futimes", futimes), ("linkat_target", linkatTarget), ("mkdirat", mkdirat),
    ("mkfifoat", mkfifoat), ("mknodat", mknodat), ("renameat_source", renameatSource),
    ("symlinkat", symlinkat), ("unlinkat", unlinkat), ("accept", accept), ("bind", bind),
    ("connect", connect), ("getpeername", getpeername), ("getsockname", getsockname),
    ("getsockopt", getsockopt), ("listen", listen), ("peeloff", peeloff),
    ("setsockopt", setsockopt), ("shutdown", shutdown), ("bindat", bindat),
    ("connectat", connectat), ("linkat_source", linkatSource),
    ("renameat_target", renameatTarget), ("mac_get", macGet), ("mac_set", macSet),
    ("sem_getvalue", semGetvalue), ("sem_post", semPost), ("sem_wait", semWait), ("event", event),
    ("kqueue_event", kqueueEvent), ("ioctl", ioctl), ("ttyhook", ttyhook), ("pdgetpid", pdgetpid),
    ("pdwait", pdwait), ("pdkill", pdkill), ("extattr_delete", extattrDelete),
    ("extattr_get", extattrGet), ("extattr_list", extattrList), ("extattr_set", extattrSet),
    ("acl_check", aclCheck), ("acl_delete", aclDelete), ("acl_get", aclGet), ("acl_set", aclSet),
    ("kqueue_change", kqueueChange)]

/-- Second names and unions of primitive rights. -/
def unions : List (String × Word) :=
  [("recv", recv), ("send", send), ("pread", pread), ("pwrite", pwrite), ("mmap_r", mmapR),
    ("mmap_w", mmapW), ("mmap_rw", mmapRw), ("mmap_rx", mmapRx), ("mmap_wx", mmapWx),
    ("mmap_rwx", mmapRwx), ("chflagsat", chflagsat), ("fchmodat", fchmodat),
    ("fchownat", fchownat), ("fstatat", fstatat), ("futimesat", futimesat),
    ("sock_client", sockClient), ("sock_server", sockServer), ("kqueue", kqueue), ("all0", all0),
    ("all1", all1)]

def named : List (String × Word) :=
  primitives ++ unions

/-- The right of a name in any ASCII case, with `cap_` before it or not and blanks around it. -/
def parse? (name : String) : Option Word :=
  let lower := (Text.trim name.toList).map Char.toLower
  let bare := (Text.afterHead? "cap_".toList lower).getD lower
  (named.find? fun entry => entry.1.toList == bare).map (·.2)

/-- The first name that stands for a right. -/
def name? (right : Word) : Option String :=
  (named.find? fun entry => entry.2 == right).map (·.1)

/-- Words that name no right: bits not in use and versions. -/
def reserved : List (String × Word) :=
  [("unused0_44", unused0Low), ("unused0_57", unused0High), ("unused1_22", unused1Low),
    ("unused1_57", unused1High), ("rights_version_00", 0), ("rights_version", 0)]

/-- A name as constants are spelled. -/
def constantName (name : String) : String :=
  String.ofList ("CAP_".toList ++ name.toList.map Char.toUpper)

def constant? (name : String) : Option Word :=
  ((named ++ reserved).find? fun entry => constantName entry.1 == name).map (·.2)

end Confinement.Right
