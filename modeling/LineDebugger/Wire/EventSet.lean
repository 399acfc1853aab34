import LineDebugger.Wire.Location

namespace LineDebugger
namespace Wire

/-!
# Event sets

The virtual machine reports what happened in sets: events that took place together,
under one suspend policy.  `readEventSet` accepts exactly the layout that `bytes`
writes, for the seven kinds of event that the debugger understands.  The size of any
other kind is unknown, so such an event is recorded by its kind alone and nothing
after it is read.
-/

/-- What happened. -/
inductive EventDetails where
  | machineStart (thread : UInt64)
  | machineDeath
  | threadStart (thread : UInt64)
  | threadDeath (thread : UInt64)
  | classPrepare (thread : UInt64) (typeTag : UInt8) (typeId : UInt64)
      (signature : String) (status : Int32)
  | breakpoint (thread : UInt64) (location : Location)
  | step (thread : UInt64) (location : Location)
  | unknown (kind : UInt8)
  deriving DecidableEq, Repr

/-- One event: its kind, the request that asked for it, and what happened. -/
structure Event where
  kind : UInt8
  request : Int32
  details : EventDetails
  deriving DecidableEq, Repr

/-- Events reported together. -/
structure EventSet where
  suspendPolicy : UInt8
  events : List Event
  deriving DecidableEq, Repr

/-- Whether reporting the set suspended any thread. -/
def EventSet.suspends (set : EventSet) : Bool := set.suspendPolicy != 0

/-! ## The kinds of event, as numbered by the protocol -/

namespace EventKind

def singleStep : UInt8 := 1
def breakpoint : UInt8 := 2
def threadStart : UInt8 := 6
def threadDeath : UInt8 := 7
def classPrepare : UInt8 := 8
def machineStart : UInt8 := 90
def machineDeath : UInt8 := 99

end EventKind

/-! ## Reading -/

/-- What an event of a known kind reports; `none` for any other kind. -/
def readDetails (kind : UInt8) : Option (Reader EventDetails) :=
  if kind = EventKind.breakpoint then some do
    return .breakpoint (← readWord64) (← readLocation)
  else if kind = EventKind.singleStep then some do
    return .step (← readWord64) (← readLocation)
  else if kind = EventKind.classPrepare then some do
    let thread ← readWord64
    let typeTag ← readByte
    let typeId ← readWord64
    let signature ← readText
    let status ← readSigned32
    return .classPrepare thread typeTag typeId signature status
  else if kind = EventKind.machineStart then some do
    return .machineStart (← readWord64)
  else if kind = EventKind.machineDeath then some do
    return .machineDeath
  else if kind = EventKind.threadStart then some do
    return .threadStart (← readWord64)
  else if kind = EventKind.threadDeath then some do
    return .threadDeath (← readWord64)
  else none

/-- Up to `count` events.  An event of unknown kind is the last one. -/
def readEvents : (count : Nat) -> Reader (List Event)
  | 0 => pure []
  | count + 1 => do
      let kind ← readByte
      let request ← readSigned32
      match readDetails kind with
      | none => return [{ kind, request, details := .unknown kind }]
      | some readKnown =>
          let details ← readKnown
          let others ← readEvents count
          return { kind, request, details } :: others

/-- An event set: the suspend policy, the count of events and the events. -/
def readEventSet : Reader EventSet := do
  let suspendPolicy ← readByte
  let count ← readCount
  let events ← readEvents count
  return { suspendPolicy, events }

/-- The event set at the front of a payload. -/
def EventSet.ofBytes (payload : List UInt8) : Except Malformed EventSet :=
  (readEventSet payload).result

/-! ## Writing -/

/-- The kind that the protocol gives to an event. -/
def EventDetails.kind : EventDetails -> UInt8
  | .machineStart _ => EventKind.machineStart
  | .machineDeath => EventKind.machineDeath
  | .threadStart _ => EventKind.threadStart
  | .threadDeath _ => EventKind.threadDeath
  | .classPrepare .. => EventKind.classPrepare
  | .breakpoint .. => EventKind.breakpoint
  | .step .. => EventKind.singleStep
  | .unknown kind => kind

/-- The fields that follow the request id. -/
def EventDetails.bytes : EventDetails -> List UInt8
  | .machineStart thread | .threadStart thread | .threadDeath thread => wordBytes64 thread
  | .machineDeath | .unknown _ => []
  | .classPrepare thread typeTag typeId signature status =>
      wordBytes64 thread ++ byteBytes typeTag ++ wordBytes64 typeId
        ++ textBytes signature ++ signedBytes32 status
  | .breakpoint thread location | .step thread location =>
      wordBytes64 thread ++ location.bytes

/-- The bytes of an event. -/
def Event.bytes (event : Event) : List UInt8 :=
  byteBytes event.kind ++ signedBytes32 event.request ++ event.details.bytes

/-- The bytes of an event set. -/
def EventSet.bytes (set : EventSet) : List UInt8 :=
  byteBytes set.suspendPolicy ++ listBytes Event.bytes set.events

end Wire
end LineDebugger
