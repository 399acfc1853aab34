import LineDebugger.Proofs.Wire.Call
import LineDebugger.Proofs.Wire.Layout

namespace LineDebugger
namespace Wire
namespace Call

/-!
# Calls that are answered with a list

Eight calls ask for lists: of methods, fields, source lines, variables and frames, and of the
values of fields and of variables.  Each answer has its own layout, and its reader accepts this
layout.  What a call of this kind comes to is therefore settled by the data of the reply alone,
as long as the reply has no error code: data that begin with an encoding of an answer are read as
this answer, and all other data are malformed.  In particular no entry is ever made up.
-/

/-- The calls that are answered with a list. -/
def lists : Call -> Bool
  | .methods _ | .fields _ | .lineTable .. | .variableTable .. | .frames .. | .staticValues ..
  | .objectValues .. | .frameValues .. => true
  | _ => false

/-- The layout of the list that answers a call. -/
def layout : (question : Call) -> Layout question.Answer
  | .methods _ => Layout.list (.writtenIf MethodInfo.Fits MethodInfo.bytes)
  | .fields _ => Layout.list (.writtenIf FieldInfo.Fits FieldInfo.bytes)
  | .lineTable .. => LineTable.layout
  | .variableTable .. => Variable.tableLayout
  | .frames .. => Layout.list (.writtenBy Frame.bytes)
  | .staticValues .. | .objectValues .. | .frameValues .. => Layout.list Value.layout
  | _ => fun _ _ => False

/-- What stands in front of the count of the list that answers a call. -/
def Heads : Call -> List UInt8 -> Prop
  | .lineTable .., head => exists start finish, head = wordBytes64 start ++ wordBytes64 finish
  | .variableTable .., head => exists argumentWidth, head = signedBytes32 argumentWidth
  | _, head => head = []

variable {question : Call}

theorem readAnswer_accepts (lists : question.lists = true) :
    question.readAnswer.Accepts question.layout := by
  cases question with
  | methods type => exact readMethod_accepts.list
  | fields type => exact readField_accepts.list
  | lineTable type method => exact readLineTable_accepts
  | variableTable type method => exact readVariableTable_accepts
  | frames thread start length => exact readFrame_accepts.list
  | staticValues type fieldIds => exact readTagged_accepts.list
  | objectValues object fieldIds => exact readTagged_accepts.list
  | frameValues thread frame slots => exact readTagged_accepts.list
  | _ => cases lists

/-! ## Negative counts -/

theorem readList_negative {α : Type} (entry : Reader α) {count : Int32} (negative : count.toInt < 0)
    (rest : List UInt8) :
    readList entry (signedBytes32 count ++ rest) = ⟨.error (.negativeCount count), rest⟩ := by
  have counted : readCount (signedBytes32 count ++ rest)
      = ⟨.error (.negativeCount count), rest⟩ := by
    rw [readCount, Reader.bind_of_reads (readSigned32_reads count), if_pos negative]
    rfl
  exact Reader.bind_of_error counted _

/-- A negative count is refused, wherever the layout has its count. -/
theorem readAnswer_negative (lists : question.lists = true) {head : List UInt8}
    (heads : question.Heads head) {count : Int32} (negative : count.toInt < 0)
    (rest : List UInt8) : (question.readAnswer (head ++ signedBytes32 count ++ rest)).result
      = .error (.negativeCount count) := by
  rw [List.append_assoc]
  have refused {α : Type} (entry : Reader α) := readList_negative entry negative rest
  cases question with
  | lineTable type method =>
      rcases heads with ⟨start, finish, rfl⟩
      rw [readAnswer, readLineTable, List.append_assoc,
        Reader.bind_of_reads (readWord64_reads start),
        Reader.bind_of_reads (readWord64_reads finish), Reader.bind_of_error (refused _)]
  | variableTable type method =>
      rcases heads with ⟨argumentWidth, rfl⟩
      rw [readAnswer, readVariableTable, Reader.bind_of_reads (readSigned32_reads argumentWidth),
        refused]
  | methods | fields | frames | staticValues | objectValues | frameValues =>
      cases heads
      exact congrArg Reading.result (refused _)
  | _ => cases lists

/-! ## Calls over a link -/

open Connection

section Calls

variable {τ : Type} {link : Link τ} {state : τ} {reply : Reply}

/-- Without an error code a call comes to what is read from the data of the reply. -/
theorem call_of_accepted (replied : (link.send question.command state).outcome = .ok reply)
    (accepted : reply.errorCode = 0) :
    (link.call question state).outcome
      = .ofExcept ((question.readAnswer reply.data).result.mapError .malformed) := by
  rw [Link.call_eq, replied, verdict_ok, settled, if_pos accepted]

/-- A call succeeds only by a reply without an error code, with its answer in front. -/
theorem reply_of_call {answer : question.Answer}
    (answered : (link.call question state).outcome = .ok answer) :
    exists reply rest, (link.send question.command state).outcome = .ok reply ∧
      reply.errorCode = 0 ∧ question.readAnswer reply.data = ⟨.ok answer, rest⟩ := by
  rw [Link.call_eq] at answered
  cases came : (link.send question.command state).outcome with
  | ok reply =>
      rw [came, verdict_ok, settled] at answered
      by_cases accepted : reply.errorCode = 0
      · rw [if_pos accepted] at answered
        cases read : question.readAnswer reply.data with
        | mk result rest =>
            rw [read] at answered
            cases result with
            | ok found =>
                cases answered
                exact ⟨reply, rest, rfl, accepted, read⟩
            | error cause => cases answered
      · rw [if_neg accepted] at answered
        cases answered
  | failed fault =>
      rw [came] at answered
      cases answered
  | unfinished =>
      rw [came] at answered
      cases answered

/-- A call for a list returns what the reply encodes, and ignores what follows it.  It fails with
a malformed payload if the encoding has been cut short, or if the count is negative.  Whatever it
returns has been encoded in front of the data of a reply without an error code. -/
theorem list_calls_are_answered_as_written (link : Link τ) (state : τ)
    (lists : question.lists = true) :
    (forall reply, (link.send question.command state).outcome = .ok reply ->
      reply.errorCode = 0 ->
      (forall answer encoding trailing, question.layout answer encoding ->
        reply.data = encoding ++ trailing -> (link.call question state).outcome = .ok answer) ∧
      (forall answer encoding, question.layout answer encoding -> reply.data <+: encoding ->
        reply.data ≠ encoding ->
        exists cause, (link.call question state).outcome = .failed (.malformed cause)) ∧
      (forall head count rest, question.Heads head -> count.toInt < 0 ->
        reply.data = head ++ signedBytes32 count ++ rest ->
        (link.call question state).outcome = .failed (.malformed (.negativeCount count)))) ∧
    (forall answer, (link.call question state).outcome = .ok answer ->
      exists reply encoding trailing, (link.send question.command state).outcome = .ok reply ∧
        reply.errorCode = 0 ∧ question.layout answer encoding ∧
        reply.data = encoding ++ trailing) := by
  have accepts := readAnswer_accepts lists
  constructor
  · intro reply replied accepted
    have comes := call_of_accepted replied accepted
    refine ⟨?_, ?_, ?_⟩
    · intro answer encoding trailing encoded data
      rw [comes, data, accepts.reads encoded trailing]
      rfl
    · intro answer encoding encoded isPart strict
      rcases accepts.isLocal.delimited.refuses (accepts.reads encoded) reply.data isPart strict with
        ⟨cause, refused⟩
      rw [comes, refused]
      exact ⟨cause, rfl⟩
    · intro head count rest heads negative data
      rw [comes, data, readAnswer_negative lists heads negative]
      rfl
  · intro answer answered
    rcases reply_of_call answered with ⟨reply, rest, replied, accepted, read⟩
    rcases accepts.takes reply.data answer rest read with ⟨encoding, data, encoded⟩
    exact ⟨reply, encoding, rest, replied, accepted, encoded, data⟩

end Calls

/-- A link on which every command has the reply that is the state of the link. -/
def settledLink : Link Reply where
  send _ reply := ⟨.ok reply, none, reply⟩
  receive reply := (.ok none, reply)

/-- A table of one line: with a byte behind it, without its last byte, and with a negative
count. -/
theorem a_line_table_is_answered_as_written :
    let table : LineTable := ⟨0, 9, [⟨4, 7⟩]⟩
    let question : Call := .lineTable 1 2
    question.lists = true ∧
      (settledLink.call question ⟨1, 0, table.bytes ++ [0xFF]⟩).outcome = .ok table ∧
      (exists cause, (settledLink.call question ⟨1, 0, table.bytes.dropLast⟩).outcome
        = .failed (.malformed cause)) ∧
      (settledLink.call question
          ⟨1, 0, wordBytes64 0 ++ wordBytes64 9 ++ signedBytes32 (-1) ++ []⟩).outcome
        = .failed (.malformed (.negativeCount (-1))) := by
  intro table question
  have encoded : question.layout table table.bytes :=
    ⟨_, ⟨by decide, [_], .cons rfl .nil, rfl⟩, rfl⟩
  have comes (reply : Reply) (accepted : reply.errorCode = 0) :=
    (list_calls_are_answered_as_written settledLink reply
      (show question.lists = true from rfl)).1 reply rfl accepted
  refine ⟨rfl, ?_, ?_, ?_⟩
  · exact (comes _ rfl).1 table table.bytes [0xFF] encoded rfl
  · exact (comes _ rfl).2.1 table table.bytes encoded (List.dropLast_prefix _) (by decide)
  · exact (comes _ rfl).2.2 _ (-1) [] ⟨0, 9, rfl⟩ (by decide) rfl

end Call
end Wire
end LineDebugger
