import NatTraversal.Punch.Handshaking

namespace NatTraversal

namespace Puncher

def registeredCount (p : Puncher) : Nat := (p.slots.values.filter (·.registered)).length

/-- Slots that are taken: registered, or waiting for an answer. -/
def busyCount (p : Puncher) : Nat := (p.slots.values.filter fun slot => slot.registered || slot.pending.isSome).length

/-- Sends a request to a slot's server in place of the one that it waits for. -/
def sendRequest (p : Puncher) (c : Surroundings) (key : Socket) (request : ParentRequest) : PunchStep :=
  match p.slots.get? key with
  | none => (p, [])
  | some slot =>
    let p := match slot.pending with
      | some old => ({ p with requests := p.requests.erase old.id }).cancel old.id
      | none => p
    let p := p.arm request.id (c.now + request.rto) (.parentTimeout request.id)
    ({ p with requests := p.requests.insert request.id key, slots := p.slots.insert key { slot with pending := some request } },
      [.send { Message.plain (p.contactAt c p.mainPort) slot.address request.body with ticket := request.id }])

def request (p : Puncher) (c : Surroundings) (key : Socket) (body : Body) : PunchStep :=
  let (id, p) := p.draw c
  p.sendRequest c key ⟨id, body, p.retries, p.backoff.first⟩

/-- Registers with a candidate unless it is taken or there are enough. -/
def enroll (p : Puncher) (c : Surroundings) (server : Address) : PunchStep :=
  let key := server.socket
  let slot := (p.slots.get? key).getD ⟨server, false, none⟩
  if p.busyCount ≥ p.enrollment.maxParents.toNat || slot.registered || slot.pending.isSome then (p, [])
  else ({ p with slots := p.slots.insert key slot }).request c key (.registerRequest 0 p.me.overlay)

/-- Takes the candidates in random order. -/
def fill (p : Puncher) (c : Surroundings) : PunchStep :=
  let candidates := c.chance.shuffle p.drawn p.enrollment.servers
  candidates.foldl (fun step server => followedBy step fun p => p.enroll c server) ({ p with drawn := p.drawn + 1 }, [])

/-- Begins to register with parents and to keep the registrations alive. An open node needs none. -/
def startEnrollment (p : Puncher) (c : Surroundings) : PunchStep :=
  if p.enrolling || (p.me.nat c.roster).isOpen || p.enrollment.servers.isEmpty then (p, [])
  else
    let period := Time.ofMillis p.enrollment.refreshPeriod.toNat
    let (id, p) := p.draw c
    ({ p with enrolling := true, alarms := p.alarms.armEvery id (c.now + period) period .refresh }).fill c

/-- Reports a registered parent as lost; it stays a candidate. -/
def lose (p : Puncher) (key : Socket) : PunchStep :=
  match p.slots.get? key with
  | some slot =>
    if slot.registered then
      ({ p with slots := p.slots.insert key { slot with registered := false } }, [.report (.parentLost slot.address)])
    else (p, [])
  | none => (p, [])

/-- A parent that stays silent through all transmissions is lost. -/
def onParentTimeout (p : Puncher) (c : Surroundings) (id : Ticket) : PunchStep :=
  match p.requests.get? id with
  | none => (p, [])
  | some key =>
    let p := { p with requests := p.requests.erase id }
    match p.slots.get? key with
    | none => (p, [])
    | some slot =>
      match slot.pending with
      | none => (p, [])
      | some request =>
        let p := { p with slots := p.slots.insert key { slot with pending := none } }
        if request.retriesLeft = 0 then p.lose key
        else match p.backoff.next? request.rto with
          | none => ({ p with halted := true }, [])
          | some rto =>
            let (id, p) := p.draw c
            p.sendRequest c key { request with id, rto, retriesLeft := request.retriesLeft - 1 }

/-- The slot that waits for this answer, which no longer does. -/
def takeResponse (p : Puncher) (response : Message) : Option Socket × Puncher :=
  match p.requests.get? response.ticket with
  | none => (none, p)
  | some key =>
    let p := ({ p with requests := p.requests.erase response.ticket }).cancel response.ticket
    (if p.slots.contains key then some key else none, { p with slots := p.slots.modify key fun slot => { slot with pending := none } })

def onRegisterResponse (p : Puncher) (response : Message) (status : RegisterStatus) : PunchStep :=
  let (key?, p) := p.takeResponse response
  match key?, status with
  | some key, .accepted =>
    let address := response.source.address
    let known := ((p.slots.get? key).map (·.registered)).getD true
    ({ p with slots := p.slots.modify key fun slot => { slot with address, registered := true } },
      if known then [] else [.report (.parentRegistered address)])
  | some key, .rejected => p.lose key
  | none, _ => (p, [])

def onKeepAliveResponse (p : Puncher) (c : Surroundings) (response : Message) (status : KeepAliveStatus) : PunchStep :=
  let (key?, p) := p.takeResponse response
  match key?, status with
  | some key, .notRegistered => followedBy (p.lose key) fun p => p.fill c
  | _, _ => (p, [])

/-- A parent has ended our session. -/
def onExpire (p : Puncher) (c : Surroundings) (remote : Socket) : PunchStep :=
  if p.slots.contains remote then followedBy (p.lose remote) fun p => p.fill c else (p, [])

/-- Keeps the registrations alive that wait for nothing, and fills up the rest. -/
def refresh (p : Puncher) (c : Surroundings) : PunchStep :=
  let idle := p.slots.entries.filter fun entry => entry.2.registered && entry.2.pending.isNone
  followedBy (idle.foldl (fun step entry => followedBy step fun p => p.request c entry.1 .keepAliveRequest) (p, []))
    fun p => p.fill c

/-- Leaves one parent. -/
def leave (p : Puncher) (c : Surroundings) (key : Socket) (parent : Address) : PunchStep :=
  let (id, p) := p.draw c
  ({ p with slots := p.slots.modify key fun slot => { slot with registered := false } },
    [.send { Message.plain (p.contactAt c p.mainPort) parent (.unregisterRequest 0 .accepted) with ticket := id },
      .report (.parentLost parent)])

/-- Tells every parent to end our session, and gives up every path. -/
def unregister (p : Puncher) (c : Surroundings) : PunchStep :=
  let registered := p.slots.entries.filter (·.2.registered)
  let left := registered.foldl (fun step entry => followedBy step fun p => p.leave c entry.1 entry.2.address) (p, [])
  p.paths.keys.foldl (fun step key => followedBy step fun p => p.closePath key) left

end Puncher

end NatTraversal
