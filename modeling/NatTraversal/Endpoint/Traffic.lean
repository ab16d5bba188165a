namespace NatTraversal

/-- Bytes read and written. Totals start over beyond 64 bits. -/
structure Traffic where
  read : UInt64
  written : UInt64
deriving DecidableEq, Repr

namespace Traffic

def zero : Traffic := ⟨0, 0⟩

def add (a b : Traffic) : Traffic := ⟨a.read + b.read, a.written + b.written⟩

/-- What has come since `old`; nothing where the total has not grown. -/
def since (now old : Traffic) : Traffic :=
  ⟨if old.read ≤ now.read then now.read - old.read else 0, if old.written ≤ now.written then now.written - old.written else 0⟩

def sum (samples : List Traffic) : Traffic := samples.foldl add zero

def addRead (traffic : Traffic) (count : Nat) : Traffic := traffic.add ⟨.ofNat count, 0⟩

def addWritten (traffic : Traffic) (count : Nat) : Traffic := traffic.add ⟨0, .ofNat count⟩

end Traffic

/-- What one tick of a meter tells. -/
structure Bandwidth where
  lastSecond : Traffic
  lastMinute : Traffic
deriving DecidableEq, Repr

/-- Samples a pair of totals once a second and keeps them by second, minute and hour, oldest first. -/
structure Meter where
  last : Traffic := .zero
  ticks : UInt64 := 0
  seconds : List Traffic := []
  minutes : List Traffic := []
  hours : List Traffic := []
  minute : Traffic := .zero
  hour : Traffic := .zero
deriving DecidableEq, Repr

namespace Meter

/-- Puts a sample last and keeps the latest `limit` of them. -/
def push (limit : Nat) (window : List Traffic) (sample : Traffic) : List Traffic :=
  (if window.length = limit then window.drop 1 else window) ++ [sample]

def lastMinute (meter : Meter) : Traffic := Traffic.sum meter.seconds

def endHour (meter : Meter) : Meter :=
  if meter.ticks % 3600 = 0 then { meter with hours := push 12 meter.hours meter.hour, hour := .zero } else meter

def endMinute (meter : Meter) : Meter :=
  if meter.ticks % 60 = 0 then
    endHour { meter with minutes := push 24 meter.minutes meter.minute, hour := meter.hour.add meter.minute, minute := .zero }
  else meter

def tick (meter : Meter) (total : Traffic) : Bandwidth × Meter :=
  let sample := total.since meter.last
  let next := endMinute { meter with
    last := total, ticks := meter.ticks + 1, seconds := push 60 meter.seconds sample, minute := meter.minute.add sample }
  (⟨sample, next.lastMinute⟩, next)

end Meter

end NatTraversal
