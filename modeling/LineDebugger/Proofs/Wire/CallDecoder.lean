import LineDebugger.Proofs.Wire.EventRequest
import LineDebugger.Wire.Call

namespace LineDebugger
namespace Wire

/-!
# The call behind a command

A command says what it asks for: its set and its code tell which call it carries, and its data
hold the arguments, in a fixed order and with a count in front of every list.  So whoever
receives a command can tell the call from it, and no two calls are carried by one command.

The calls are listed with their numbers, each with a reader of its arguments.  A reader is put
together from the readers of the parts, and that it reads back what the call has written follows
from the same about the parts.
-/

namespace SlotQuery

def read : Reader SlotQuery := do
  let slot ← readSigned32
  let letter ← readByte
  return { slot, letter }

theorem read_reads (query : SlotQuery) : SlotQuery.read.Reads query.bytes query :=
  (readSigned32_reads query.slot).andThen ((readByte_reads query.letter).map (SlotQuery.mk query.slot))

end SlotQuery

namespace Call

/-! ## Readers of arguments -/

/-- One id. -/
def readId (make : UInt64 -> Call) : Reader Call := do
  return make (← readWord64)

/-- Two ids. -/
def readIds (make : UInt64 -> UInt64 -> Call) : Reader Call := do
  return make (← readWord64) (← readWord64)

/-- An id and a list of ids of its parts. -/
def readParts (make : UInt64 -> List UInt64 -> Call) : Reader Call := do
  return make (← readWord64) (← readList readWord64)

/-- An id and a stretch of what it has in order. -/
def readStretch (make : UInt64 -> Int32 -> Int32 -> Call) : Reader Call := do
  return make (← readWord64) (← readSigned32) (← readSigned32)

/-- The calls by the sets and codes of their commands. -/
def readers : List ((UInt8 × UInt8) × Reader Call) :=
  [((1, 6), pure .dispose),
   ((1, 9), pure .resumeAll),
   ((2, 1), readId .signature),
   ((2, 4), readId .fields),
   ((2, 5), readId .methods),
   ((2, 6), readParts .staticValues),
   ((3, 1), readId .superclass),
   ((6, 1), readIds .lineTable),
   ((6, 2), readIds .variableTable),
   ((9, 1), readId .objectType),
   ((9, 2), readParts .objectValues),
   ((10, 1), readId .stringValue),
   ((11, 6), readStretch .frames),
   ((13, 1), readId .arrayLength),
   ((13, 2), readStretch .arrayValues),
   ((15, 1), do return .request (← readEventRequest)),
   ((15, 2), do
      let withdrawn ← readClearRequest
      return .clearRequest withdrawn.1 withdrawn.2),
   ((16, 1), do
      return .frameValues (← readWord64) (← readWord64) (← readList SlotQuery.read))]

/-- The call that a command carries, if its data are the arguments of one and nothing else. -/
def ofCommand? (command : Command) : Option Call :=
  match readers.lookup (command.set, command.code) with
  | none => none
  | some reader =>
      match reader command.data with
      | ⟨.ok question, []⟩ => some question
      | _ => none

/-! ## Reading back -/

theorem readId_reads (make : UInt64 -> Call) (id : UInt64) :
    (readId make).Reads (wordBytes64 id) (make id) :=
  (readWord64_reads id).map make

theorem readIds_reads (make : UInt64 -> UInt64 -> Call) (first second : UInt64) :
    (readIds make).Reads (wordBytes64 first ++ wordBytes64 second) (make first second) :=
  (readWord64_reads first).andThen ((readWord64_reads second).map (make first))

theorem readWords_reads {ids : List UInt64} (fits : ids.length ≤ maxCount) :
    (readList readWord64).Reads (listBytes wordBytes64 ids) ids :=
  readList_reads fits fun id _ => readWord64_reads id

theorem readParts_reads (make : UInt64 -> List UInt64 -> Call) (whole : UInt64)
    {parts : List UInt64} (fits : parts.length ≤ maxCount) :
    (readParts make).Reads (wordBytes64 whole ++ listBytes wordBytes64 parts) (make whole parts) :=
  (readWord64_reads whole).andThen ((readWords_reads fits).map (make whole))

theorem readStretch_reads (make : UInt64 -> Int32 -> Int32 -> Call) (whole : UInt64)
    (first length : Int32) :
    (readStretch make).Reads (wordBytes64 whole ++ signedBytes32 first ++ signedBytes32 length)
      (make whole first length) := by
  rw [List.append_assoc]
  refine (readWord64_reads whole).andThen ((readSigned32_reads first).andThen ?_)
  exact (readSigned32_reads length).map (make whole first)

/-- The lists among the arguments have counts that can be written, and the texts lengths. -/
def Fits : Call -> Prop
  | .staticValues _ ids | .objectValues _ ids => ids.length ≤ maxCount
  | .frameValues _ _ slots => slots.length ≤ maxCount
  | .request wanted => wanted.Fits
  | _ => True

/-- The arguments of a call are read back by the reader that is listed under its numbers. -/
theorem arguments_reads {question : Call} (fits : question.Fits) :
    exists reader, readers.lookup (question.command.set, question.command.code) = some reader
      ∧ reader.Reads question.command.data question := by
  cases question with
  | resumeAll => exact ⟨_, rfl, Reader.Reads.done _⟩
  | dispose => exact ⟨_, rfl, Reader.Reads.done _⟩
  | signature type => exact ⟨_, rfl, readId_reads _ type⟩
  | methods type => exact ⟨_, rfl, readId_reads _ type⟩
  | fields type => exact ⟨_, rfl, readId_reads _ type⟩
  | staticValues type ids => exact ⟨_, rfl, readParts_reads _ type fits⟩
  | superclass type => exact ⟨_, rfl, readId_reads _ type⟩
  | lineTable type method => exact ⟨_, rfl, readIds_reads _ type method⟩
  | variableTable type method => exact ⟨_, rfl, readIds_reads _ type method⟩
  | objectType object => exact ⟨_, rfl, readId_reads _ object⟩
  | objectValues object ids => exact ⟨_, rfl, readParts_reads _ object fits⟩
  | stringValue string => exact ⟨_, rfl, readId_reads _ string⟩
  | frames thread start length => exact ⟨_, rfl, readStretch_reads _ thread start length⟩
  | arrayLength array => exact ⟨_, rfl, readId_reads _ array⟩
  | arrayValues array first length => exact ⟨_, rfl, readStretch_reads _ array first length⟩
  | frameValues thread frame slots =>
      refine ⟨_, rfl, ?_⟩
      dsimp only [command]
      rw [List.append_assoc]
      refine (readWord64_reads thread).andThen ((readWord64_reads frame).andThen ?_)
      exact (readList_reads fits fun query _ => query.read_reads).map (Call.frameValues thread frame)
  | request wanted =>
      exact ⟨_, rfl, (EventRequest.readEventRequest_reads fits).map Call.request⟩
  | clearRequest kind id => exact ⟨_, rfl, (readClearRequest_reads kind id).map _⟩

/-- A call is recovered from the command that carries it. -/
theorem ofCommand?_command {question : Call} (fits : question.Fits) :
    ofCommand? question.command = some question := by
  rcases arguments_reads fits with ⟨reader, listed, reads⟩
  have read := reads []
  rw [List.append_nil] at read
  unfold ofCommand?
  simp only [listed, read]

/-- A call is recovered from its command, and so calls that share a command are one. -/
theorem commands_are_unambiguous :
    (forall question : Call, question.Fits -> ofCommand? question.command = some question)
    ∧ (forall one other : Call, one.Fits -> other.Fits -> one.command = other.command ->
      one = other) := by
  constructor
  · intro question fits
    exact ofCommand?_command fits
  · intro one other fits others same
    have recovered := ofCommand?_command fits
    rw [same, ofCommand?_command others] at recovered
    exact (Option.some.inj recovered).symm

/-- A single step in the classes of a package, and slots of a frame. -/
theorem a_step_is_recovered :
    let one : Call := .setStep 7 1 0 (some "demo.*") .all
    let other : Call := .request ⟨1, .all, [.step 7 1 0, .classMatch "demo.*", .count 1]⟩
    let slots : Call := .frameValues 7 12 [⟨0, 0x4C⟩, ⟨1, 0x49⟩]
    (one.Fits ∧ other.Fits ∧ one.command = other.command) ∧ one = other
      ∧ slots.Fits ∧ ofCommand? slots.command = some slots := by
  intro one other slots
  have writable : (Text.Utf8.encode "demo.*").length < UInt32.size := by decide
  have fits : one.Fits := EventRequest.step_fits writable 7 1 0 .all
  have few : slots.Fits := by
    change 2 ≤ maxCount
    decide
  refine ⟨⟨fits, fits, rfl⟩, ?_, few, ?_⟩
  · exact commands_are_unambiguous.2 one other fits fits rfl
  · exact commands_are_unambiguous.1 slots few

end Call
end Wire
end LineDebugger
