import LineDebugger.Proofs.Connection.Run

namespace LineDebugger
namespace Connection
namespace Multiplexer

open Wire

/-!
# Bytes, in whatever portions they come

A stream arrives in portions that have nothing to do with the packets in it.  A portion may
end within a header, within a body, or right behind a length that nobody will accept.  The
state after a portion is what is needed to go on from there, so that two portions have the
effect of one, and any number of portions the effect of all their bytes at once.

Nothing is assumed here about the bytes, or about the run before and after them, and it makes
no difference whether there is room for all the event sets in them.
-/

namespace Run

/-- Feeding no bytes changes nothing, since what is left over was already less than a
packet, or is held back. -/
theorem step_feed_nil {run : Run} (orderly : run.state.Orderly) : run.step (.feed []) = run := by
  cases reading : run.state.reading with
  | false => exact step_feed_of_not_reading reading []
  | true =>
      cases holds : run.state.holdsBack with
      | true =>
          cases closing : run.state.closing with
          | true => exact step_feed_of_closing closing []
          | false =>
              rw [step_feed_of_holdsBack reading closing holds, List.append_nil]
              exact withUnread_self rfl
      | false =>
          have cut := orderly.leftOver holds
          have room : run.state.HasRoom (Packet.split (run.state.unread ++ [])).packets := by
            rw [List.append_nil, cut]
            exact HasRoom.nil_iff.mpr holds
          rw [← List.append_nil run.state.unread] at cut
          rw [step_feed_some reading (orderly.idle holds).2 room
            (congrArg Packet.Cut.remainder cut), cut, List.append_nil]
          exact withUnread_self rfl

/-- What is read of two portions at once is read of one and then of the other.  The induction is
on the packets in the first portion; where it ends, what is left over goes before the second. -/
theorem after_read_append {run : Run} (reading : run.state.reading = true)
    (goesOn : run.state.closing = false) (early late : List UInt8) :
    run.after (run.state.read (early ++ late))
      = (run.after (run.state.read early)).step (.feed late) := by
  have reads : (run.withUnread early).state.reading = true := reading
  have alsoGoesOn : (run.withUnread early).state.closing = false := goesOn
  cases holds : run.state.holdsBack with
  | true =>
      have alsoHolds : (run.withUnread early).state.holdsBack = true := holds
      rw [after_read_of_holdsBack holds, after_read_of_holdsBack holds,
        step_feed_of_holdsBack reads alsoGoesOn alsoHolds]
      rfl
  | false =>
      cases found : Packet.front early with
      | incomplete =>
          have kept : run.after (run.state.read early) = run.withUnread early := by
            rw [read_of_incomplete holds goesOn found, after_idle]
            rfl
          rw [kept, step_feed_eq reads alsoGoesOn]
          exact congrArg run.after (read_withUnread run.state (early ++ late) early).symm
      | illegal =>
          rw [read_of_illegal holds found,
            read_of_illegal holds (Packet.front_append_of_illegal found late)]
          exact (step_feed_of_not_reading rfl late).symm
      | packet packet rest =>
          have further := Packet.front_append_of_packet found late
          rw [after_read_of_packet holds found, after_read_of_packet holds further]
          exact after_read_append ((takeIn_frame run packet).2.1.trans reading)
            ((takeIn_held run packet).2.trans goesOn) rest late
termination_by early.length
decreasing_by exact Packet.length_lt_of_front found

/-- Two portions have the effect of one. -/
theorem step_feed_append (run : Run) (early late : List UInt8) :
    run.step (.feed (early ++ late)) = (run.step (.feed early)).step (.feed late) := by
  cases reading : run.state.reading with
  | false => simp only [step_feed_of_not_reading reading]
  | true =>
      cases closing : run.state.closing with
      | true => simp only [step_feed_of_closing closing]
      | false =>
          rw [step_feed_eq reading closing, step_feed_eq reading closing, ← List.append_assoc]
          exact after_read_append reading closing _ late

theorem through_chunks {run : Run} (orderly : run.state.Orderly) (chunks : List (List UInt8)) :
    run.through (chunks.map Step.feed) = run.step (.feed chunks.flatten) := by
  induction chunks generalizing run with
  | nil => exact (step_feed_nil orderly).symm
  | cons chunk chunks ih =>
      rw [List.flatten_cons, step_feed_append, ← ih (orderly.step (.feed chunk))]
      rfl

end Run

/-- From every state that a run comes to, two portions of bytes leave the same state and
finish the same commands in the same way as both at once.  Therefore a whole run comes to
the same, whatever the portions in which a part of its bytes is fed. -/
theorem portions_come_to_the_same (past : List Step) :
    (forall early late, Run.of (past ++ [.feed early, .feed late])
        = Run.of (past ++ [.feed (early ++ late)]))
      ∧ forall (chunks : List (List UInt8)) (future : List Step),
        Run.of (past ++ chunks.map Step.feed ++ future)
          = Run.of (past ++ .feed chunks.flatten :: future) := by
  constructor
  · intro early late
    rw [Run.of_append, Run.of_append]
    exact (Run.step_feed_append (Run.of past) early late).symm
  · intro chunks future
    rw [Run.of_append, Run.of_append, Run.of_append, Run.through_chunks (Orderly.of past)]
    rfl

end Multiplexer
end Connection
end LineDebugger
