import NatTraversal.Address.Socket
import NatTraversal.Wire.Reader

namespace NatTraversal

/-- Where one node listens and who it is. -/
structure Address where
  ip : Ipv4
  port : UInt16
  node : UInt32
deriving DecidableEq, Repr

namespace Address

def socket (address : Address) : Socket := .v4 address.ip address.port

/-- The node seen at a socket. -/
def ofSocket (socket : Socket) (node : UInt32) : Address := ⟨socket.ip.toIpv4, socket.port, node⟩

def text (address : Address) : String := s!"{address.node}@{address.ip.text}:{address.port}"

def wireLength : Nat := 10

def encode (address : Address) : Bytes :=
  Bytes.u32 address.node ++ Bytes.u32 address.ip.bits ++ Bytes.u16 address.port

def read : Reader Address := do
  let node ← Reader.u32
  let ip ← Reader.u32
  let port ← Reader.u16
  return ⟨⟨ip⟩, port, node⟩

theorem encode_length (address : Address) : address.encode.length = wireLength := by
  simp [encode, Bytes.u32, Bytes.u16, wireLength]

end Address

end NatTraversal
