import NatTraversal.Punch.Enrollment

namespace NatTraversal

/-- What a puncher is told to do, apart from its alarms. -/
inductive PunchCommand where
  | connect (target : Contact) (grant : Except LinkError (List UInt16))
  | probe (target : Address)
  | inbound (message : Message) (remote here : Socket)
  | startEnrollment
  | closePath (key : PeerKey)
  | unregister

namespace Puncher

/-- A message from the network; those of other concern are passed over. -/
def inbound (p : Puncher) (c : Surroundings) (message : Message) (remote here : Socket) : PunchStep :=
  match message.body with
  | .punchPing => p.onPing c message remote here
  | .punchPong => p.onPong c message remote
  | .connectRequest peer true => p.onForwarded c peer message.source.address
  | .connectResponse status target => p.onConnectResponse message status target
  | .registerResponse status => p.onRegisterResponse message status
  | .keepAliveResponse status => p.onKeepAliveResponse c message status
  | .expire => p.onExpire c remote
  | _ => (p, [])

def handle (p : Puncher) (c : Surroundings) (command : PunchCommand) : PunchStep :=
  if p.halted then (p, [])
  else match command with
    | .connect target grant => p.connect c target grant
    | .probe target => p.probe c target
    | .inbound message remote here => p.inbound c message remote here
    | .startEnrollment => p.startEnrollment c
    | .closePath key => p.closePath key
    | .unregister => p.unregister c

/-- What an alarm leads to. The tickets tell alarms from those that have been overtaken. -/
def onAlarm (p : Puncher) (c : Surroundings) (alarm : PunchAlarm) : PunchStep :=
  if p.halted then (p, [])
  else match alarm with
    | .retry key id => p.retry c key id
    | .deadline key id => p.onDeadline key id
    | .probeExpired id => ({ p with probes := p.probes.erase id }, [])
    | .pathExpired key id => p.onPathExpired key id
    | .parentTimeout id => p.onParentTimeout c id
    | .refresh => p.refresh c

/-- Lets the next alarm ring that does so by now. -/
def ring? (p : Puncher) (c : Surroundings) : Option PunchStep :=
  (p.alarms.ring? c.now).map fun (alarm, alarms) => ({ p with alarms }).onAlarm c alarm

/-- An alarm whose time has come always rings. -/
theorem isSome_ring?_iff {p : Puncher} {c : Surroundings} :
    (p.ring? c).isSome = true ↔ ∃ next, p.alarms.next? = some next ∧ next ≤ c.now := by
  rw [ring?, Option.isSome_map, Alarms.isSome_ring?_iff]

end Puncher

end NatTraversal
