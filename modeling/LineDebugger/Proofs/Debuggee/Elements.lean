import LineDebugger.Proofs.Debuggee.Outlook
import LineDebugger.Proofs.Wire.Listing
import LineDebugger.Proofs.Session.Steps
import LineDebugger.Session.Interpreter
import Mathlib.Algebra.Group.Nat.Defs
import Mathlib.Data.Set.List

namespace LineDebugger

open Connection

/-!
# Arrays, whole and in parts

An array is shown with all its elements, read by one command, and an element is printed by itself,
read by a command of its own.  The two ways decode different stretches, and what has to be asked
about references is asked at different times, with other things remembered.  Still they never
disagree: an element comes out the same in whatever state it is looked at, as long as there is the
same to find out, and the whole comes out well if and only if every element does.

What the machine replies is described by its bytes.  Every stretch of the array may be written
under a tag of its own, and anything may follow it.  The link is one over which every command has
its reply; a connection is such a link as long as the replies fit into packets.
-/

/-! ## What is shown of an array -/

namespace Session

open Debuggee

variable {σ : Type} {target : Target σ} {situation : Situation σ} {array : ArrayRef}

/-- An array whose elements can be read is shown with all of them. -/
theorem renderValue_of_read {values : List Value}
    (came : (target.respond (.arrayValues array) situation.target).outcome = .ok values) :
    (renderValue target (.array array) situation).outcome
      = .ok (Value.renderElements values) := by
  have tried : ((Dialogue.ask target (.arrayValues array)).attempt :
      Dialogue σ TargetError (Except TargetError (List Value))) situation
        = ⟨.ok (.ok values), _, _⟩ := Act.attempt_ok (ask_of came)
  exact congrArg Progress.outcome (Act.bind_ok tried _)

/-- An element that can be read is printed behind its index. -/
theorem printElement_of_read {answer : String} {number : Int64} {index : Nat} {value : Value}
    (name : String) (named : Text.Numeral.signed64? answer = some number)
    (same : number.toInt = index) (inside : index < array.length)
    (came : (target.respond (.arrayElement array index) situation.target).outcome = .ok value) :
    exists exchanges,
      (printElement target name array answer situation).log.map Moment.mark
        = [.asked (.arrayElement array index) (.ok value) exchanges,
          .said s!"{name}[{index}]: {value.render}"] := by
  have position : number.toInt.toNat = index := by rw [same, Int.toNat_natCast]
  have within : 0 ≤ number.toInt ∧ number.toInt < array.length := by omega
  have asked : (Act.mapError CommandError.target (Dialogue.ask target (.arrayElement array index)) :
      Dialogue σ CommandError Value) situation = ⟨.ok value, _, _⟩ :=
    Act.mapError_of _ (ask_of came)
  have printed : printElement target name array answer situation
      = (Dialogue.say s!"{name}[{index}]: {value.render}"
          (situation.answered target (.arrayElement array index))).after
            [.asking target (.arrayElement array index) situation] := by
    unfold printElement
    rw [named]
    dsimp only
    rw [if_pos within, position]
    exact Act.bind_ok asked _
  rw [printed, Moment.asking_eq came]
  exact ⟨_, rfl⟩

end Session

namespace Debuggee

/-! ## What the machine replies -/

/-- To every stretch of the array the machine replies with the elements that are there. -/
def RepliesStretches (reply : Wire.Command -> Wire.Reply) (array : UInt64)
    (elements : List Wire.Value) : Prop :=
  forall first count, 0 < count -> first + count ≤ elements.length ->
    let answer := reply
      (Wire.Call.arrayValues array (Int32.ofNat first) (Int32.ofNat count)).command
    answer.errorCode = 0 ∧ exists encoding trailing,
      Wire.Value.regionLayout ((elements.drop first).take count) encoding ∧
        answer.data = encoding ++ trailing

theorem RepliesStretches.settledBy {reply : Wire.Command -> Wire.Reply} {array : UInt64}
    {elements : List Wire.Value} (stretches : RepliesStretches reply array elements)
    {first count : Nat} (some : 0 < count) (inside : first + count ≤ elements.length) :
    settledBy reply (.arrayValues array (Int32.ofNat first) (Int32.ofNat count))
      = .ok ((elements.drop first).take count) := by
  obtain ⟨accepted, encoding, trailing, encoded, data⟩ := stretches first count some inside
  unfold Debuggee.settledBy
  rw [Wire.Call.answer_of_accepted accepted, data]
  change Except.mapError _ (Wire.readRegion (encoding ++ trailing)).result = _
  rw [Wire.readRegion_accepts.reads encoded]
  rfl

namespace Remote

variable {τ α β : Type} {link : Link τ} {reply : Wire.Command -> Wire.Reply} {kept : τ -> Prop}
  {state : Remote τ} {outlook : Outlook}

/-! ## One element after the other -/

section Fixed

variable (fixed : Fixed link reply kept) {array : ArrayRef} {elements : List Wire.Value}
  {reference : Remote τ}
include fixed

end Fixed

/-! ## The two ways together -/

/-- What is read of an array as a whole, and what is read of it element by element, each element
in a state of its own. -/
structure ReadsAlike (link : Link τ) (chainLimit : Nat) (array : ArrayRef) (whole : Remote τ)
    (part : Nat -> Remote τ) : Prop where
  /-- The whole can be read if and only if every element can. -/
  succeeds : (exists values,
      ((target link chainLimit).respond (.arrayValues array) whole).outcome = .ok values) ↔
    forall index, index < array.length -> exists value,
      ((target link chainLimit).respond (.arrayElement array index) (part index)).outcome
        = .ok value
  length : forall values : List Value,
    ((target link chainLimit).respond (.arrayValues array) whole).outcome = .ok values ->
    values.length = array.length
  /-- Every element is what it is by itself. -/
  element : forall values : List Value,
    ((target link chainLimit).respond (.arrayValues array) whole).outcome = .ok values ->
    forall index value, values[index]? = some value ->
      ((target link chainLimit).respond (.arrayElement array index) (part index)).outcome
        = .ok value

/-- The array is shown with the texts of all of these values, and an element that is printed by
itself has the same text. -/
structure ShownAlike (link : Link τ) (chainLimit : Nat) (array : ArrayRef) (whole : Remote τ)
    (part : Nat -> Remote τ) (values : List Value) : Prop where
  whole : forall situation : Session.Situation (Remote τ), situation.target = whole ->
    (Session.renderValue (target link chainLimit) (.array array) situation).outcome
      = .ok (Value.renderElements values)
  part : forall index value, values[index]? = some value ->
    forall (situation : Session.Situation (Remote τ)) (name answer : String) (number : Int64),
      situation.target = part index -> Text.Numeral.signed64? answer = some number ->
      number.toInt = index -> exists exchanges,
        (Session.printElement (target link chainLimit) name array answer situation).log.map
            Session.Moment.mark
          = [.asked (.arrayElement array index) (.ok value) exchanges,
            .said s!"{name}[{index}]: {value.render}"]

theorem ReadsAlike.shown {chainLimit : Nat} {array : ArrayRef} {whole : Remote τ}
    {part : Nat -> Remote τ} (alike : ReadsAlike link chainLimit array whole part)
    {values : List Value}
    (came : ((target link chainLimit).respond (.arrayValues array) whole).outcome = .ok values) :
    ShownAlike link chainLimit array whole part values := by
  constructor
  · rintro situation rfl
    exact Session.renderValue_of_read came
  · intro index value there situation name answer number same named position
    have inside : index < array.length := by
      rw [← alike.length values came]
      exact (List.getElem?_eq_some_iff.mp there).1
    refine Session.printElement_of_read name named position inside ?_
    rw [same]
    exact alike.element values came index value there

end Remote

/-! ## An array of references -/

end Debuggee
end LineDebugger
