import Confinement.Errno
import Confinement.Text.Utf8

/-!
Pairs of connected sockets and the credentials of the process at the other end. Only sockets of the
local family come in pairs and know their peer.
-/

namespace Confinement.Socket

inductive Domain where
  | unix
  | inet
deriving DecidableEq, Repr

inductive Style where
  | stream
  | datagram
  | sequenced
deriving DecidableEq, Repr

/-- Who a process is. -/
structure Credentials where
  user : Nat
  group : Nat
  process : Nat
deriving DecidableEq, Repr

/-- A descriptor's end: a socket with the bytes on their way to it, or a plain file. -/
inductive Endpoint where
  | socket (peer : Credentials) (pending : Bytes)
  | file
deriving DecidableEq, Repr

/-- Two sockets of one process, each the peer of the other. -/
def pair (domain : Domain) (style : Style) (owner : Credentials) :
    Except Errno (Endpoint × Endpoint) :=
  match domain, style with
  | .unix, _ => .ok (.socket owner [], .socket owner [])
  | .inet, .sequenced => .error .socketTypeUnsupported
  | .inet, _ => .error .operationUnsupported

def Endpoint.peerCredentials : Endpoint → Except Errno Credentials
  | .socket peer _ => .ok peer
  | .file => .error .notSocket

/-- Sends bytes to the socket at the other end. -/
def Endpoint.deliver (data : Bytes) : Endpoint → Endpoint
  | .socket peer pending => .socket peer (pending ++ data)
  | .file => .file

/-- Takes the bytes that have arrived. -/
def Endpoint.receive : Endpoint → Bytes × Endpoint
  | .socket peer pending => (pending, .socket peer [])
  | .file => ([], .file)

end Confinement.Socket
