import LineDebugger.Proofs.Wire.Reader
import LineDebugger.Wire.EventRequest

namespace LineDebugger
namespace Wire

/-!
# Event requests as the other side reads them

The debugger only writes event requests.  To say what a request means, it has to be read the
way the virtual machine reads it: the kind of event, the policy, and modifiers that announce
themselves by a number.  The numbers are those of the protocol and stand here a second time.

A request is read as what was meant, provided that its texts and its count of modifiers fit
the fields that hold their sizes.  The kind is read correctly in any case, since it comes first.
-/

/-! ## Reading -/

def readPolicy : Reader SuspendPolicy := do
  let number ← readByte
  if number = 0 then return .none
  else if number = 1 then return .eventThread
  else if number = 2 then return .all
  else Reader.refuse (.unknownTag number)

/-- A modifier, of the kinds that the debugger uses. -/
def readModifier : Reader Modifier := do
  let number ← readByte
  if number = 1 then return .count (← readSigned32)
  else if number = 3 then return .threadOnly (← readWord64)
  else if number = 5 then return .classMatch (← readText)
  else if number = 6 then return .classExclude (← readText)
  else if number = 7 then return .locationOnly (← readLocation)
  else if number = 10 then do
    let thread ← readWord64
    let size ← readSigned32
    let depth ← readSigned32
    return .step thread size depth
  else Reader.refuse (.unknownTag number)

def readEventRequest : Reader EventRequest := do
  let kind ← readByte
  let policy ← readPolicy
  let modifiers ← readList readModifier
  return { kind, policy, modifiers }

/-- The kind and the number of a request that is to be withdrawn. -/
def readClearRequest : Reader (UInt8 × Int32) := do
  let kind ← readByte
  let id ← readSigned32
  return (kind, id)

/-! ## Reading back -/

theorem readPolicy_reads (policy : SuspendPolicy) :
    Reader.Reads readPolicy (byteBytes policy.toByte) policy := by
  have chosen : Reader.Reads (if policy.toByte = 0 then pure .none
      else if policy.toByte = 1 then pure .eventThread
      else if policy.toByte = 2 then pure .all
      else Reader.refuse (.unknownTag policy.toByte)) [] policy := by
    cases policy <;> exact Reader.Reads.done _
  exact (readByte_reads policy.toByte).andThen chosen

/-- The texts of a modifier have lengths that can be written. -/
def Modifier.Fits : Modifier -> Prop
  | .classMatch pattern | .classExclude pattern => Writable pattern
  | _ => True

theorem readModifier_reads {modifier : Modifier} (fits : modifier.Fits) :
    Reader.Reads readModifier modifier.bytes modifier := by
  cases modifier with
  | count times => exact (readByte_reads 1).andThen ((readSigned32_reads times).map _)
  | threadOnly thread => exact (readByte_reads 3).andThen ((readWord64_reads thread).map _)
  | classMatch pattern => exact (readByte_reads 5).andThen ((readText_reads fits).map _)
  | classExclude pattern => exact (readByte_reads 6).andThen ((readText_reads fits).map _)
  | locationOnly location => exact (readByte_reads 7).andThen ((readLocation_reads location).map _)
  | step thread size depth =>
      unfold Modifier.bytes
      simp only [List.append_assoc]
      refine (readByte_reads 10).andThen ((readWord64_reads thread).andThen
        ((readSigned32_reads size).andThen ?_))
      exact (readSigned32_reads depth).map (Modifier.step thread size)

namespace EventRequest

/-- All sizes in the request can be written. -/
structure Fits (request : EventRequest) : Prop where
  count : request.modifiers.length ≤ maxCount
  texts : forall modifier, modifier ∈ request.modifiers -> modifier.Fits

theorem readEventRequest_reads {request : EventRequest} (fits : request.Fits) :
    Reader.Reads readEventRequest request.bytes request := by
  have modifiers : Reader.Reads (readList readModifier) _ request.modifiers :=
    readList_reads fits.count fun modifier member =>
      readModifier_reads (fits.texts modifier member)
  unfold EventRequest.bytes
  rw [List.append_assoc]
  refine (readByte_reads request.kind).andThen ((readPolicy_reads request.policy).andThen ?_)
  exact modifiers.map (EventRequest.mk request.kind request.policy)

theorem step_fits {pattern : String} (writable : Writable pattern)
    (thread : UInt64) (size depth : Int32) (policy : SuspendPolicy) :
    (step thread size depth (some pattern) policy).Fits := by
  refine ⟨?_, List.forall_mem_cons.mpr ⟨trivial, List.forall_mem_cons.mpr
    ⟨writable, List.forall_mem_singleton.mpr trivial⟩⟩⟩
  change 3 ≤ maxCount
  decide

end EventRequest

theorem readClearRequest_reads (kind : UInt8) (id : Int32) :
    Reader.Reads readClearRequest (byteBytes kind ++ signedBytes32 id) (kind, id) := by
  refine (readByte_reads kind).andThen ?_
  exact (readSigned32_reads id).map (Prod.mk kind)

end Wire
end LineDebugger
