import NatTraversal.Config.Basic
import NatTraversal.Message.Basic
import NatTraversal.Stun.Observations

namespace NatTraversal

/-- What a survey does next, and how it goes on from what comes of it. -/
inductive Survey (α : Type) where
  | done (result : α)
  /-- Sends a request from a port until it is answered. -/
  | ask (port : UInt16) (server : Address) (body : Body) (next : Option Message → Survey α)
  /-- Asks for fresh ports. -/
  | allocate (count : Nat) (next : Except LinkError (List UInt16) → Survey α)
  | release (ports : List UInt16) (next : Except LinkError Unit → Survey α)
  /-- Asks the gateway to map a socket to a public port. -/
  | mapPort (socket : Socket) (next : Option UInt16 → Survey α)

namespace Survey

def bind {α β : Type} : Survey α → (α → Survey β) → Survey β
  | done a, f => f a
  | ask port server body next, f => ask port server body fun answer => (next answer).bind f
  | allocate count next, f => allocate count fun ports => (next ports).bind f
  | release ports next, f => release ports fun released => (next released).bind f
  | mapPort socket next, f => mapPort socket fun port => (next port).bind f

instance : Monad Survey where
  pure := done
  bind := bind

/-- The socket that a server has seen, and its alternate port. -/
def observed (answer : Option Message) : Option (Socket × UInt16) :=
  answer.bind fun message =>
    match message.body with
    | .echoResponse seen _ altPort => some (seen.socket, altPort)
    | _ => none

def echo (port : UInt16) (server : Address) (kind : EchoKind) : Survey (Option (Socket × UInt16)) :=
  ask port server (.echoRequest kind none) fun answer => done (observed answer)

/-- How many fresh ports are looked at. -/
def allocationProbes : Nat := 2

/-- The public ports that a server sees for fresh local ones, as far as it answers. -/
def samplePorts (server : Address) : List UInt16 → Survey (List (UInt16 × UInt16))
  | [] => done []
  | port :: ports => do
    let seen ← echo port server .plain
    let samples ← samplePorts server ports
    return match seen with
      | some (outer, _) => (port, outer.port) :: samples
      | none => samples

/-- Fresh ports are given back before anything else is done. -/
def sampleAllocation (server : Address) : Survey (Except LinkError (List (UInt16 × UInt16))) :=
  allocate allocationProbes fun
    | .error error => done (.error error)
    | .ok ports => do
      let samples ← samplePorts server ports
      release ports fun
        | .error error => done (.error error)
        | .ok () => done (.ok samples)

/-- Tells the first server what was found; whether it answers does not matter. -/
def report (main : Address) (server : Address) (nat : NatType) : Survey (Except Error NatType) :=
  ask main.port server (.reportRequest s!"{main.node} {nat.text}") fun _ => done (.ok nat)

/-- What is seen from the main port alone, once the first server has seen it as `public1`. -/
def observeMain (main server1 : Address) (server2 : Option Address) (public1 : Socket) (altPort : UInt16) :
    Survey Observations := do
  let second ← match server2 with
    | some server => echo main.port server .plain
    | none => pure none
  let alternate ← if altPort = 0 then pure none else echo main.port { server1 with port := altPort } .plain
  let byServer ← echo main.port server1 .changeServer
  let byPort ← if byServer.isSome then pure none else echo main.port server1 .changePort
  return { ours := some main.socket, server1 := some public1, server2 := second.map (·.1), server1Alt := alternate.map (·.1)
           changeServer := byServer.isSome, changePort := byPort.isSome, samples := [(main.port, public1.port)] }

/-- The port that the gateway maps, where it is to be asked. -/
def gatewayPort (config : SurveyConfig) (main : Address) : Survey (Option UInt16) :=
  if config.upnp then mapPort main.socket done else pure none

/-- Asks up to two servers how they see the node and classifies its translator by their answers. -/
def ofConfig (config : SurveyConfig) (main : Address) : Survey (Except Error NatType) :=
  match config.servers with
  | [] => done (.error (.config "no stun servers"))
  | server1 :: others => do
    match ← echo main.port server1 .plain with
    | none => return .error Observations.noAnswer
    | some (public1, altPort) =>
      if public1 = main.socket then report main server1 .unrestricted
      else
        let seen ← observeMain main server1 others.head? public1 altPort
        match ← sampleAllocation server1 with
        | .error error => return .error (.link error)
        | .ok samples =>
          match { seen with samples := seen.samples ++ samples }.classify config.deltaWindow with
          | .error error => return .error error
          | .ok nat =>
            let upnpPort ← gatewayPort config main
            report main server1 { nat with bindingTimeout := config.bindingTimeout, upnpPort }

end Survey

end NatTraversal
