import NatTraversal.Address.Ip

namespace NatTraversal

/-- An address and a port, as the network sees one end of a flow. -/
structure Socket where
  ip : Ip
  port : UInt16
deriving DecidableEq, Repr

namespace Socket

def v4 (ip : Ipv4) (port : UInt16) : Socket := ⟨.v4 ip, port⟩

def text (socket : Socket) : String :=
  match socket.ip with
  | .v4 ip => s!"{ip.text}:{socket.port}"
  | .v6 ip => s!"[{ip.text}]:{socket.port}"

def parsePort? : List Char → Option UInt16
  | ':' :: digits =>
    let n := digits.foldl (fun n c => 10 * n + (c.toNat - '0'.toNat)) 0
    if digits.isEmpty || digits.any (!·.isDigit) || n > 65535 then none else some (UInt16.ofNat n)
  | _ => none

def parse? (cs : List Char) : Option Socket :=
  match cs with
  | '[' :: cs => do
    let (ip, rest) ← Ipv6.take? cs
    match rest with
    | ']' :: rest => return ⟨.v6 ip, ← parsePort? rest⟩
    | _ => none
  | cs => do
    let (ip, rest) ← Ipv4.take? cs
    return ⟨.v4 ip, ← parsePort? rest⟩

end Socket

end NatTraversal
