import LineDebugger.Proofs.Connection.History

namespace LineDebugger
namespace Connection
namespace Multiplexer

open Wire

/-!
# Event sets come out as they went in

Whatever is no reply is read as an event set.  The sets that can be read form a sequence,
in the order in which their packets have arrived in the stream.  At any moment that sequence
falls into two parts: the sets that somebody has taken, and those that wait.  What else
happens, be it replies, commands or failures to write, does not occur in this law.

The end of the reading leaves the waiting sets where they are.  Whoever goes on asking is
given all of them, and is told about the end only then.  This does not even depend on room:
what is held back comes out in its turn (`answers_through_receives`).
-/

/-- The event set that somebody was given. -/
def Received.set? : Received -> Option EventSet
  | .events set => some set
  | _ => none

namespace Run

/-- The event sets that have been taken, in the order of taking. -/
def delivered (run : Run) : List EventSet := run.answers.filterMap Received.set?

/-- Taking an event set moves it from the waiting ones to those taken. -/
theorem take_delivered (run : Run) :
    run.take.delivered ++ run.take.state.queued = run.delivered ++ run.state.queued := by
  cases queued : run.state.queued with
  | nil =>
      rw [take_of_nil queued, delivered, delivered, List.filterMap_append, queued]
      split <;> simp only [List.filterMap_cons, Received.set?, List.filterMap_nil, List.append_nil]
  | cons set others =>
      rw [take_of_cons queued, delivered, delivered, List.filterMap_append,
        List.append_assoc]
      rfl

/-- The sets taken and the sets waiting, together, are those that have arrived. -/
theorem ofHistory_delivered (history : List Occurrence) :
    (ofHistory history).delivered ++ (ofHistory history).state.queued
      = (arrivals history).filterMap eventSet? := by
  induction history using List.reverseRecOn with
  | nil => rfl
  | append_singleton history next ih =>
      rw [ofHistory_snoc, arrivals_append, List.filterMap_append, ← ih]
      generalize ofHistory history = run
      cases next with
      | arrived packet =>
          change run.delivered ++ (run.state.accept packet).next.queued = _
          rw [accept_queued, ← List.append_assoc]
          cases packet : eventSet? packet <;> simp [arrivals, packet]
      | ended =>
          obtain ⟨-, -, queued, answers⟩ := conclude_frame run
          rw [undergo, delivered, queued, answers]
          exact (List.append_nil _).symm
      | issued packet =>
          obtain ⟨-, -, queued, answers⟩ := issue_frame run packet
          rw [undergo, delivered, queued, answers]
          exact (List.append_nil _).symm
      | asked =>
          rw [undergo, take_delivered]
          exact (List.append_nil _).symm
      | sinkClosed => exact (List.append_nil _).symm

/-- A packet that cannot be read might as well not have come. -/
theorem takeIn_unreadable (run : Run) {packet : Packet} {cause : Malformed}
    (plain : packet.isReply = false) (unreadable : EventSet.ofBytes packet.body = .error cause) :
    run.takeIn packet = run := by
  have nothing : eventSet? packet = none := by
    rw [eventSet?, if_neg (by simp [plain]), unreadable]
    rfl
  rw [takeIn_of_not_isReply plain, nothing, Option.toList_none, List.append_nil]

end Run

/-! ## Asking again and again -/

section Asking

variable {state : Multiplexer} {run : Run}

/-- Where nothing holds back, what will come out is what waits. -/
theorem Orderly.prospects_of_free (orderly : state.Orderly) (free : state.holdsBack = false) :
    state.prospects = state.queued := by
  rw [prospects, orderly.leftOver free]
  exact List.append_nil _

theorem Orderly.doomed_of_free (orderly : state.Orderly) (free : state.holdsBack = false) :
    state.Doomed ↔ state.reading = false := by
  rw [Doomed, orderly.leftOver free, (orderly.idle free).2]
  simp

/-- To go on changes nothing of what will come. -/
theorem resume_prospects (reading : state.reading = true) :
    state.resume.next.prospects = state.prospects
      ∧ (state.resume.next.Doomed ↔ state.Doomed) := by
  obtain ⟨unread, queued, -, closing, reads, -⟩ :=
    writeAll_frame ({ state with held := [] } : Multiplexer) state.held
  obtain ⟨sets, ends⟩ := read_prospects (reads.trans reading)
    (({ state with held := [] } : Multiplexer).writeAll state.held).next.unread
  refine ⟨sets.trans ?_, ends.trans ?_⟩
  · simp only [prospects, unread, queued]
  · simp only [Doomed, unread, closing, reads]

/-- The set that is taken is the first of those to come, and neither the others nor the end are
lost by it, whether anything was held back or not. -/
theorem receive_prospects (busy : state.holdsBack = true -> state.reading = true) {set : EventSet}
    {others : List EventSet} (waiting : state.queued = set :: others) :
    state.receive.1 = .events set
      ∧ state.prospects = set :: state.receive.2.next.prospects
      ∧ (state.receive.2.next.Doomed ↔ state.Doomed) := by
  have next : state.prospects
      = set :: ({ state with queued := others } : Multiplexer).prospects := by
    rw [prospects, waiting]
    rfl
  rw [receive, waiting, next]
  cases holds : state.holdsBack with
  | true =>
      have reading : ({ state with queued := others } : Multiplexer).reading = true := busy holds
      obtain ⟨sets, ends⟩ := resume_prospects reading
      exact ⟨rfl, congrArg (set :: ·) sets.symm, ends⟩
  | false => exact ⟨rfl, rfl, Iff.rfl⟩

/-- Whoever asks is given the first of the sets to come, and is told how the reading stands if there
is none. -/
theorem step_receive_prospects (orderly : run.state.Orderly) :
    (run.step .receive).answers = run.answers ++ [match run.state.prospects with
        | set :: _ => .events set
        | [] => if run.state.Doomed then .ended else .nothingYet]
      ∧ (run.step .receive).state.prospects = run.state.prospects.tail
      ∧ ((run.step .receive).state.Doomed ↔ run.state.Doomed) := by
  cases queued : run.state.queued with
  | cons set others =>
      obtain ⟨came, sets, ends⟩ := receive_prospects orderly.busy queued
      rw [sets]
      exact ⟨congrArg (run.answers ++ [·]) came, rfl, ends⟩
  | nil =>
      have free : run.state.holdsBack = false := by
        rw [holdsBack, queued]
        rfl
      rw [orderly.prospects_of_free free, queued, Run.step_receive_of_free free,
        Run.take_of_nil queued]
      refine ⟨?_, (orderly.prospects_of_free free).trans queued, Iff.rfl⟩
      simp only [orderly.doomed_of_free free]
      cases run.state.reading <;> rfl

/-- Whoever keeps asking is given the sets to come, in order, and after that is told each time how
the reading stands. -/
theorem answers_through_receives (orderly : run.state.Orderly) (count : Nat) :
    (run.through (List.replicate count .receive)).answers
      = run.answers ++ (run.state.prospects.map .events).take count
        ++ List.replicate (count - run.state.prospects.length)
          (if run.state.Doomed then .ended else .nothingYet) := by
  induction count generalizing run with
  | zero => simp [Run.through]
  | succ count ih =>
      obtain ⟨answer, rest, ends⟩ := step_receive_prospects orderly
      have later := ih orderly.receive
      rw [rest, answer] at later
      simp only [ends] at later
      rw [List.replicate_succ]
      change ((run.step .receive).through (List.replicate count .receive)).answers = _
      rw [later]
      cases run.state.prospects with
      | nil => simp [List.replicate_succ]
      | cons set others => simp [Nat.add_sub_add_right]

end Asking

/-- In an admitted run, the event sets taken, followed by those that wait, are the event sets
in the stream, in order, less those that cannot be read.  A packet that cannot be read might
as well not have come, wherever it stands in the history, and whatever is done after it has
been fed.  Once the reading has ended, the waiting sets are still handed out in order, and
the end is reported when none is left, and not before. -/
theorem event_sets_come_out_in_order {steps : List Step} (admitted : Admitted steps) :
    (Run.of steps).delivered ++ (Run.of steps).state.queued
        = (arrived steps).filterMap eventSet?
      ∧ (forall (packet : Packet) (cause : Malformed), packet.isReply = false ->
        EventSet.ofBytes packet.body = .error cause ->
        (forall before after, history steps = before ++ .arrived packet :: after ->
            Run.of steps = (Run.ofHistory (before ++ after)).withUnread (keptBytes steps))
          ∧ (packet.Complete -> BetweenPackets steps -> forall later,
            Run.of (steps ++ .feed packet.bytes :: later) = Run.of (steps ++ later)))
      ∧ (Ended steps -> forall count,
        (Run.of (steps ++ List.replicate count .receive)).answers
          = (Run.of steps).answers ++ ((Run.of steps).state.queued.map .events).take count
            ++ List.replicate (count - (Run.of steps).state.queued.length) .ended)
      ∧ ((Run.of steps).state.receive.1 = .ended ↔
        Ended steps ∧ (Run.of steps).state.queued = []) := by
  have told := of_eq_told admitted
  have orderly := Orderly.of steps
  have free := holdsBack_eq_false_iff.mpr admitted.short
  have reading : (Run.of steps).state.reading = true ↔ ¬ Ended steps := by
    rw [told, Run.told_reading]
  refine ⟨?order, ?unreadable, ?drained, ?reported⟩
  case order =>
    have sets := Run.ofHistory_delivered (history steps)
    rw [arrivals_history] at sets
    rw [told]
    exact sets
  case unreadable =>
    intro packet cause plain unreadable
    constructor
    · intro before after happened
      rw [told, Run.told, happened, Run.ofHistory_append, Run.ofHistory_append,
        List.foldl_cons, Run.undergo, Run.takeIn_unreadable _ plain unreadable]
    · intro complete between later
      have empty : (Run.of steps).state.unread = [] := by
        rw [told, Run.told, Run.withUnread_unread, between.keptBytes]
      have same : (Run.of steps).step (.feed packet.bytes) = Run.of steps := by
        cases goesOn : (Run.of steps).state.reading with
        | false => exact Run.step_feed_of_not_reading goesOn _
        | true =>
            rw [Run.step_feed_complete goesOn (orderly.idle free).2 free empty complete,
              Run.takeIn_unreadable _ plain unreadable]
      rw [Run.of_append, Run.of_append]
      exact congrArg (Run.through · later) same
  case drained =>
    intro ended count
    have stopped : (Run.of steps).state.reading = false := by
      rw [told, Run.told_stopped ended]
    rw [Run.of_append, answers_through_receives orderly, orderly.prospects_of_free free,
      if_pos ((orderly.doomed_of_free free).mpr stopped)]
  case reported =>
    have stopped : (Run.of steps).state.reading = false ↔ Ended steps := by
      rw [← Bool.not_eq_true, reading, not_not]
    rw [receive]
    cases queued : (Run.of steps).state.queued with
    | nil => cases goesOn : (Run.of steps).state.reading <;> simp [← stopped, goesOn]
    | cons set others => simp

/-- The packet in which the virtual machine sends an event set. -/
def eventPacket (body : List UInt8) : Packet := ⟨CommandPacket.bytes ⟨1, ⟨64, 100, body⟩⟩⟩

def started : EventSet := ⟨0, [⟨EventKind.machineStart, 0, .machineStart 1⟩]⟩

def died : EventSet := ⟨0, [⟨EventKind.machineDeath, 0, .machineDeath⟩]⟩

/-- An event set, a packet that cannot be read, a reply, and another event set, the last of
which comes in two portions with a question between them. -/
def bulletins : List Step :=
  [.send ⟨7, ⟨1, 1, []⟩⟩,
    .feed ((eventPacket started.bytes).bytes ++ (eventPacket [0]).bytes
      ++ (Reply.packet ⟨7, 0, []⟩).bytes ++ (eventPacket died.bytes).bytes.take 5),
    .receive, .feed ((eventPacket died.bytes).bytes.drop 5)]

theorem bulletins_come_out : Admitted bulletins ∧ Admitted (bulletins ++ [.closeFeed])
    ∧ (Run.of bulletins).delivered ++ (Run.of bulletins).state.queued = [started, died]
    ∧ Run.of (bulletins ++ [.feed (eventPacket [0]).bytes, .closeFeed])
      = Run.of (bulletins ++ [.closeFeed])
    ∧ (Run.of (bulletins ++ [.closeFeed] ++ List.replicate 2 .receive)).answers
      = [.events started, .events died, .ended] := by
  have running : Admitted bulletins := by decide +kernel
  have closed : Admitted (bulletins ++ [.closeFeed]) := by decide +kernel
  obtain ⟨order, unreadable, -, -⟩ := event_sets_come_out_in_order running
  obtain ⟨-, -, drained, -⟩ := event_sets_come_out_in_order closed
  refine ⟨running, closed, order.trans ?sets, ?same, (drained ?ended 2).trans ?answers⟩
  case sets => decide +kernel
  case same =>
    have complete : (eventPacket [0]).Complete := ⟨by decide, by decide, by decide⟩
    exact (unreadable (eventPacket [0]) _ (by decide) rfl).2 complete (by decide +kernel) _
  case ended => decide +kernel
  case answers => decide +kernel

end Multiplexer
end Connection
end LineDebugger
