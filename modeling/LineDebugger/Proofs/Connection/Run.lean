import LineDebugger.Proofs.Connection.Reading

namespace LineDebugger
namespace Connection

open Wire

/-!
# Runs of the multiplexer

A run is a list of steps, taken one after the other from a fresh multiplexer.  Between two
steps the multiplexer does all that it can, so a run is determined by its steps.  A `Run`
keeps the state together with everything that the steps have shown so far: which commands
have finished and how, what was written, and what those who asked for event sets were told.

Where nothing holds back, a step is simple: packets are taken in one by one (`takeIn`), a
command is looked at (`issue`), an event set is taken (`take`), or the reading is concluded
(`conclude`).  These four have nothing to do with room, and `step_feed_some`, `step_feed_none`
and their neighbours say when a step comes to them.  Where something holds back, a step only
adds to what waits, unless it makes room.
-/

namespace Multiplexer

/-- One thing that can happen to a multiplexer. -/
inductive Step where
  | feed (bytes : List UInt8)
  | send (packet : CommandPacket)
  | receive
  | closeFeed
  | closeSink
  deriving DecidableEq, Repr

/-- What a run has come to.  The ticket of a command is the number of commands that were
issued before it. -/
structure Run where
  state : Multiplexer := {}
  issued : Nat := 0
  finished : List Finished := []
  written : List CommandPacket := []
  answers : List Received := []

namespace Run

/-- The run after an effect on its state. -/
def after (run : Run) (effect : Effect) : Run :=
  { run with
    state := effect.next
    finished := run.finished ++ effect.finished
    written := run.written ++ effect.written }

/-- The run after one more step. -/
def step (run : Run) : Step -> Run
  | .feed bytes => run.after (run.state.feed bytes)
  | .send packet =>
      { run.after (run.state.send run.issued packet) with issued := run.issued + 1 }
  | .receive =>
      { run.after run.state.receive.2 with answers := run.answers ++ [run.state.receive.1] }
  | .closeFeed => run.after run.state.closeFeed
  | .closeSink => run.after run.state.closeSink

/-- The run after some more steps. -/
def through (run : Run) (steps : List Step) : Run := steps.foldl step run

/-- The run that consists of these steps. -/
def of (steps : List Step) : Run := ({} : Run).through steps

theorem through_append (run : Run) (steps later : List Step) :
    run.through (steps ++ later) = (run.through steps).through later :=
  List.foldl_append

theorem of_append (steps later : List Step) : of (steps ++ later) = (of steps).through later :=
  through_append _ _ _

theorem of_snoc (steps : List Step) (step : Step) :
    of (steps ++ [step]) = (of steps).step step :=
  of_append steps [step]

/-- What holds at the start and is kept by every step holds of every run. -/
theorem of_induction {motive : Run -> Prop} (start : motive {})
    (keeps : forall run step, motive run -> motive (run.step step)) (steps : List Step) :
    motive (of steps) := by
  induction steps using List.reverseRecOn with
  | nil => exact start
  | append_singleton steps step ih =>
      rw [of_snoc]
      exact keeps _ _ ih

theorem after_idle (run : Run) (state : Multiplexer) :
    run.after { next := state } = { run with state } := by
  simp only [after, List.append_nil]

theorem after_andThen (run : Run) (early : Effect) (onward : Multiplexer -> Effect) :
    run.after (early.andThen onward) = (run.after early).after (onward early.next) := by
  simp only [after, Effect.andThen, List.append_assoc]

/-- The run with other bytes left over. -/
def withUnread (run : Run) (bytes : List UInt8) : Run :=
  { run with state := { run.state with unread := bytes } }

@[simp] theorem withUnread_unread (run : Run) (bytes : List UInt8) :
    (run.withUnread bytes).state.unread = bytes :=
  rfl

theorem withUnread_self {run : Run} {bytes : List UInt8} (same : run.state.unread = bytes) :
    run.withUnread bytes = run := by
  subst same
  rfl

end Run

/-- Whatever is pending is accounted for: no two commands wait under one id, and none waits once
the reading side has stopped. -/
structure Accounted (state : Multiplexer) : Prop where
  distinct : (state.pending.map Pending.id).Nodup
  settled : state.reading = false -> state.pending = []

/-- What is true of every state that a run comes to.  Nothing is held back without a reason, and
where nothing holds back, what is left over is less than a packet. -/
structure Orderly (state : Multiplexer) : Prop extends state.Accounted where
  busy : state.holdsBack = true -> state.reading = true
  idle : state.holdsBack = false -> state.held = [] ∧ state.closing = false
  leftOver : state.holdsBack = false -> Packet.split state.unread = ⟨[], some state.unread⟩

/-! ## One packet -/

/-- The command that waits under an id, if there is one, is the only one. -/
theorem filter_id_eq_find? {pending : List Pending} (distinct : (pending.map Pending.id).Nodup)
    (id : UInt32) : (pending.filter fun waiting => waiting.id == id)
      = (pending.find? fun waiting => waiting.id == id).toList := by
  induction pending with
  | nil => rfl
  | cons first others ih =>
      obtain ⟨absent, distinct⟩ := List.nodup_cons.mp distinct
      by_cases same : first.id = id
      · have none : (others.filter fun waiting => waiting.id == id) = [] := by
          apply List.filter_eq_nil_iff.mpr
          intro other member equal
          apply absent
          rw [same, ← beq_iff_eq.mp equal]
          exact List.mem_map_of_mem member
        rw [List.filter_cons_of_pos (by simpa using same), none,
          List.find?_cons_of_pos (by simpa using same)]
        rfl
      · rw [List.filter_cons_of_neg (by simpa using same),
          List.find?_cons_of_neg (by simpa using same)]
        exact ih distinct

theorem accept_reply {state : Multiplexer} (accounted : state.Accounted) (reply : Reply) :
    state.accept reply.packet
      = { next := { state with
            pending := state.pending.filter fun other => other.id != reply.id }
          finished := (state.pending.filter fun other => other.id == reply.id).map
            fun waiting => ⟨waiting.ticket, .ok reply⟩ } := by
  rw [accept, reply.packet_isReply, if_pos rfl, acceptReply,
    filter_id_eq_find? accounted.distinct, reply.packet_id]
  cases found : state.pending.find? fun waiting => waiting.id == reply.id with
  | none =>
      have all : (state.pending.filter fun other => other.id != reply.id) = state.pending := by
        apply List.filter_eq_self.mpr
        intro other member
        simpa using List.find?_eq_none.mp found other member
      simp only [all, Option.toList_none, List.map_nil]
  | some waiting =>
      simp only [Reply.packet, Reply.ofBytes_bytes, Option.toList_some, List.map_cons, List.map_nil]
      rfl

/-! ## What a step comes to where nothing holds back -/

namespace Run

/-- The run after a packet has come in. -/
def takeIn (run : Run) (packet : Packet) : Run := run.after (run.state.accept packet)

/-- The run after a command has been looked at. -/
def issue (run : Run) (packet : CommandPacket) : Run :=
  { run.after (if run.state.reading then
        ({ run.state with unread := [] } : Multiplexer).write run.issued packet
      else { next := run.state, finished := [⟨run.issued, .error .closed⟩] }) with
    issued := run.issued + 1 }

/-- The run after somebody has asked for an event set. -/
def take (run : Run) : Run :=
  match run.state.queued with
  | set :: others => { run with
      state := { run.state with queued := others }
      answers := run.answers ++ [.events set] }
  | [] => { run with
      answers := run.answers ++ [if run.state.reading then .nothingYet else .ended] }

/-- The run after the end of the reading. -/
def conclude (run : Run) : Run := if run.state.reading then run.after run.state.stop else run

/-! ### A packet -/

theorem takeIn_frame (run : Run) (packet : Packet) :
    (run.takeIn packet).state.unread = run.state.unread
      ∧ (run.takeIn packet).state.reading = run.state.reading
      ∧ (run.takeIn packet).state.writable = run.state.writable := by
  obtain ⟨unread, reading, writable, -⟩ := accept_frame run.state packet
  exact ⟨unread, reading, writable⟩

theorem takeIn_held (run : Run) (packet : Packet) :
    (run.takeIn packet).state.held = run.state.held
      ∧ (run.takeIn packet).state.closing = run.state.closing :=
  accept_held run.state packet

theorem takeIn_withUnread (run : Run) (packet : Packet) (bytes : List UInt8) :
    (run.withUnread bytes).takeIn packet = (run.takeIn packet).withUnread bytes := by
  simp only [takeIn, withUnread, after, accept_unread]

theorem takeIn_of_not_isReply {packet : Packet} (plain : packet.isReply = false) (run : Run) :
    run.takeIn packet = { run with
      state := { run.state with
        queued := run.state.queued ++ (eventSet? packet).toList } } := by
  simp only [takeIn, accept_of_not_isReply plain, after_idle]

theorem takeIn_reply {run : Run} (accounted : run.state.Accounted) (reply : Reply) :
    run.takeIn reply.packet = { run with
      state := { run.state with
        pending := run.state.pending.filter fun other => other.id != reply.id }
      finished := run.finished
        ++ (run.state.pending.filter fun other => other.id == reply.id).map
          fun waiting => ⟨waiting.ticket, .ok reply⟩ } := by
  simp only [takeIn, after, accept_reply accounted, List.append_nil]

theorem foldl_takeIn_withUnread (run : Run) (packets : List Packet) (bytes : List UInt8) :
    packets.foldl takeIn (run.withUnread bytes) = (packets.foldl takeIn run).withUnread bytes := by
  induction packets generalizing run with
  | nil => rfl
  | cons packet packets ih => rw [List.foldl_cons, List.foldl_cons, takeIn_withUnread, ih]

theorem foldl_takeIn_frame (run : Run) (packets : List Packet) :
    (packets.foldl takeIn run).state.unread = run.state.unread
      ∧ (packets.foldl takeIn run).state.reading = run.state.reading := by
  induction packets generalizing run with
  | nil => exact ⟨rfl, rfl⟩
  | cons packet packets ih =>
      obtain ⟨unread, reading, -⟩ := takeIn_frame run packet
      obtain ⟨laterUnread, laterReading⟩ := ih (run.takeIn packet)
      exact ⟨laterUnread.trans unread, laterReading.trans reading⟩

/-! ### A command -/

theorem issue_of_not_reading {run : Run} (stopped : run.state.reading = false)
    (packet : CommandPacket) :
    run.issue packet = { run with
      issued := run.issued + 1
      finished := run.finished ++ [⟨run.issued, .error .closed⟩] } := by
  simp only [issue, stopped, after, Bool.false_eq_true, if_false, List.append_nil]

theorem issue_of_not_writable {run : Run} (reading : run.state.reading = true)
    (deaf : run.state.writable = false) (packet : CommandPacket) :
    run.issue packet = { run.withUnread [] with
      issued := run.issued + 1
      finished := run.finished ++ [⟨run.issued, .error .brokenPipe⟩] } := by
  simp only [issue, reading, if_true, write, deaf, Bool.not_false, after, withUnread,
    List.append_nil]

theorem issue_written {run : Run} (reading : run.state.reading = true)
    (writable : run.state.writable = true) (packet : CommandPacket) :
    run.issue packet = { run with
      state := { run.state with
        unread := []
        pending := (run.state.pending.filter fun other => other.id != packet.id)
          ++ [⟨packet.id, run.issued⟩] }
      issued := run.issued + 1
      finished := run.finished
        ++ (run.state.pending.filter fun other => other.id == packet.id).map
          fun waiting => ⟨waiting.ticket, .error .closed⟩
      written := run.written ++ [packet] } := by
  simp only [issue, reading, if_true, write, writable, Bool.not_true, Bool.false_eq_true, if_false,
    after]

theorem issue_unread {run : Run} (between : run.state.unread = []) (command : CommandPacket) :
    (run.issue command).state.unread = [] := by
  cases reading : run.state.reading with
  | false =>
      rw [issue_of_not_reading reading]
      exact between
  | true =>
      cases writable : run.state.writable with
      | false => rw [issue_of_not_writable reading writable]; rfl
      | true => rw [issue_written reading writable]

/-- A command closes nothing, and no event set comes or goes by it. -/
theorem issue_frame (run : Run) (command : CommandPacket) :
    (run.issue command).state.reading = run.state.reading
      ∧ (run.issue command).state.writable = run.state.writable
      ∧ (run.issue command).state.queued = run.state.queued
      ∧ (run.issue command).answers = run.answers := by
  cases reading : run.state.reading with
  | false =>
      rw [issue_of_not_reading reading]
      exact ⟨reading, rfl, rfl, rfl⟩
  | true =>
      cases writable : run.state.writable with
      | false =>
          rw [issue_of_not_writable reading writable]
          exact ⟨reading, writable, rfl, rfl⟩
      | true =>
          rw [issue_written reading writable]
          exact ⟨reading, writable, rfl, rfl⟩

theorem issue_held (run : Run) (command : CommandPacket) :
    (run.issue command).state.held = run.state.held
      ∧ (run.issue command).state.closing = run.state.closing := by
  cases reading : run.state.reading with
  | false => rw [issue_of_not_reading reading]; exact ⟨rfl, rfl⟩
  | true =>
      cases writable : run.state.writable with
      | false => rw [issue_of_not_writable reading writable]; exact ⟨rfl, rfl⟩
      | true => rw [issue_written reading writable]; exact ⟨rfl, rfl⟩

/-! ### The end -/

theorem conclude_of_reading {run : Run} (reading : run.state.reading = true) :
    run.conclude = run.after run.state.stop :=
  if_pos reading

theorem conclude_of_not_reading {run : Run} (stopped : run.state.reading = false) :
    run.conclude = run :=
  if_neg (by simp [stopped])

/-- What is left over does not survive the end. -/
theorem conclude_withUnread {run : Run} (reading : run.state.reading = true)
    (bytes : List UInt8) : (run.withUnread bytes).conclude = run.conclude := by
  have reads : (run.withUnread bytes).state.reading = true := reading
  rw [conclude_of_reading reads, conclude_of_reading reading]
  rfl

theorem conclude_unread {run : Run} (between : run.state.unread = []) :
    run.conclude.state.unread = [] := by
  cases reading : run.state.reading with
  | false =>
      rw [conclude_of_not_reading reading]
      exact between
  | true => rw [conclude_of_reading reading]; rfl

theorem conclude_closing {run : Run} (goesOn : run.state.closing = false) :
    run.conclude.state.closing = false := by
  cases reading : run.state.reading with
  | false =>
      rw [conclude_of_not_reading reading]
      exact goesOn
  | true => rw [conclude_of_reading reading]; rfl

/-- The end of the stream ends the reading.  It has no say in the writing or in the queue. -/
theorem conclude_frame (run : Run) :
    run.conclude.state.reading = false
      ∧ run.conclude.state.writable = run.state.writable
      ∧ run.conclude.state.queued = run.state.queued
      ∧ run.conclude.answers = run.answers := by
  cases reading : run.state.reading with
  | false =>
      rw [conclude_of_not_reading reading]
      exact ⟨reading, rfl, rfl, rfl⟩
  | true =>
      rw [conclude_of_reading reading]
      exact ⟨rfl, rfl, rfl, rfl⟩

theorem conclude_issued (run : Run) : run.conclude.issued = run.issued := by
  rw [conclude]
  split <;> rfl

/-! ### An event set -/

theorem take_of_nil {run : Run} (empty : run.state.queued = []) :
    run.take = { run with
      answers := run.answers ++ [if run.state.reading then .nothingYet else .ended] } := by
  rw [take, empty]

theorem take_of_cons {run : Run} {set : EventSet} {others : List EventSet}
    (waiting : run.state.queued = set :: others) :
    run.take = { run with
      state := { run.state with queued := others }
      answers := run.answers ++ [.events set] } := by
  rw [take, waiting]

/-- To take an event set has no effect but on the queue. -/
theorem take_frame (run : Run) :
    run.take.state.unread = run.state.unread
      ∧ run.take.state.reading = run.state.reading
      ∧ run.take.state.writable = run.state.writable
      ∧ run.take.state.pending = run.state.pending
      ∧ run.take.finished = run.finished
      ∧ run.take.issued = run.issued := by
  cases queued : run.state.queued with
  | nil =>
      rw [take_of_nil queued]
      exact ⟨rfl, rfl, rfl, rfl, rfl, rfl⟩
  | cons set others =>
      rw [take_of_cons queued]
      exact ⟨rfl, rfl, rfl, rfl, rfl, rfl⟩

theorem take_held (run : Run) : run.take.state.held = run.state.held
    ∧ run.take.state.closing = run.state.closing := by
  cases queued : run.state.queued with
  | nil => rw [take_of_nil queued]; exact ⟨rfl, rfl⟩
  | cons set others => rw [take_of_cons queued]; exact ⟨rfl, rfl⟩

theorem take_withUnread (run : Run) (bytes : List UInt8) :
    (run.withUnread bytes).take = run.take.withUnread bytes := by
  cases queued : run.state.queued with
  | nil =>
      have still : (run.withUnread bytes).state.queued = [] := queued
      rw [take_of_nil still, take_of_nil queued]
      rfl
  | cons set others =>
      have still : (run.withUnread bytes).state.queued = set :: others := queued
      rw [take_of_cons still, take_of_cons queued]
      rfl

end Run

namespace Accounted

variable {run : Run}

theorem takeIn (accounted : run.state.Accounted) (packet : Packet) :
    (run.takeIn packet).state.Accounted := by
  obtain ⟨-, reading, -⟩ := run.takeIn_frame packet
  have fewer := accept_pending_sublist run.state packet
  refine ⟨(fewer.map Pending.id).nodup accounted.distinct, ?_⟩
  intro stopped
  have none := accounted.settled (reading.symm.trans stopped)
  rw [none] at fewer
  exact List.eq_nil_of_sublist_nil fewer

theorem conclude (accounted : run.state.Accounted) : run.conclude.state.Accounted := by
  cases reading : run.state.reading with
  | true =>
      rw [Run.conclude_of_reading reading]
      exact ⟨List.nodup_nil, fun _ => rfl⟩
  | false =>
      rw [Run.conclude_of_not_reading reading]
      exact accounted

/-- A command that is written takes the place of the one that waits under its id. -/
theorem write {state : Multiplexer} (accounted : state.Accounted)
    (reading : state.reading = true) (ticket : Nat) (packet : CommandPacket) :
    (state.write ticket packet).next.Accounted := by
  cases writable : state.writable with
  | false =>
      rw [Multiplexer.write, if_pos (by simp [writable])]
      exact accounted
  | true =>
      rw [Multiplexer.write, if_neg (by simp [writable])]
      refine ⟨?_, fun stopped => absurd (reading.symm.trans stopped) (by decide)⟩
      rw [List.map_append, List.map_singleton]
      refine List.nodup_append.mpr
        ⟨(List.filter_sublist.map Pending.id).nodup accounted.distinct,
          List.nodup_cons.mpr ⟨List.not_mem_nil, List.nodup_nil⟩, ?_⟩
      intro earlier kept latest written
      obtain ⟨other, member, rfl⟩ := List.mem_map.mp kept
      rw [List.mem_singleton.mp written]
      simpa using (List.mem_filter.mp member).2

theorem issue (accounted : run.state.Accounted) (packet : CommandPacket) :
    (run.issue packet).state.Accounted := by
  cases reading : run.state.reading with
  | false =>
      rw [Run.issue_of_not_reading reading]
      exact accounted
  | true =>
      have cleared : ({ run.state with unread := [] } : Multiplexer).Accounted :=
        ⟨accounted.distinct, accounted.settled⟩
      rw [Run.issue, if_pos reading]
      exact cleared.write reading run.issued packet

theorem take (accounted : run.state.Accounted) : run.take.state.Accounted := by
  obtain ⟨-, reading, -, pending, -⟩ := run.take_frame
  refine ⟨?_, ?_⟩
  · rw [pending]
    exact accounted.distinct
  · rw [reading, pending]
    exact accounted.settled

end Accounted

/-! ## Commands that were held back -/

theorem write_frame (state : Multiplexer) (ticket : Nat) (packet : CommandPacket) :
    (state.write ticket packet).next.unread = state.unread
      ∧ (state.write ticket packet).next.queued = state.queued
      ∧ (state.write ticket packet).next.held = state.held
      ∧ (state.write ticket packet).next.closing = state.closing
      ∧ (state.write ticket packet).next.reading = state.reading
      ∧ (state.write ticket packet).next.writable = state.writable := by
  rw [write]
  split <;> exact ⟨rfl, rfl, rfl, rfl, rfl, rfl⟩

theorem writeAll_frame (state : Multiplexer) (held : List Held) :
    (state.writeAll held).next.unread = state.unread
      ∧ (state.writeAll held).next.queued = state.queued
      ∧ (state.writeAll held).next.held = state.held
      ∧ (state.writeAll held).next.closing = state.closing
      ∧ (state.writeAll held).next.reading = state.reading
      ∧ (state.writeAll held).next.writable = state.writable := by
  induction held generalizing state with
  | nil => exact ⟨rfl, rfl, rfl, rfl, rfl, rfl⟩
  | cons first others ih =>
      obtain ⟨unread, queued, held, closing, reading, writable⟩ :=
        state.write_frame first.ticket first.packet
      have later := ih (state.write first.ticket first.packet).next
      rw [unread, queued, held, closing, reading, writable] at later
      exact later

/-- What every command keeps, all of them keep. -/
theorem writeAll_keeps (kept : Multiplexer -> Prop) {held : List Held}
    (keeps : forall state waiting, waiting ∈ held -> kept state ->
      kept (state.write waiting.ticket waiting.packet).next)
    {state : Multiplexer} (begins : kept state) : kept (state.writeAll held).next := by
  induction held generalizing state with
  | nil => exact begins
  | cons first others ih =>
      exact ih (fun state waiting member => keeps state waiting (List.mem_cons_of_mem _ member))
        (keeps state first List.mem_cons_self begins)

theorem Accounted.writeAll {state : Multiplexer} (accounted : state.Accounted)
    (reading : state.reading = true) (held : List Held) :
    (state.writeAll held).next.Accounted := by
  have both : (state.writeAll held).next.Accounted
      ∧ (state.writeAll held).next.reading = true := by
    refine writeAll_keeps (fun state => state.Accounted ∧ state.reading = true) ?_
      ⟨accounted, reading⟩
    rintro state waiting - ⟨accounted, reading⟩
    obtain ⟨-, -, -, -, same, -⟩ := state.write_frame waiting.ticket waiting.packet
    exact ⟨accounted.write reading _ _, same.trans reading⟩
  exact both.1

/-! ## Steps -/

namespace Run

variable {run : Run}

/-! ### Bytes -/

theorem step_feed_of_not_reading (stopped : run.state.reading = false) (bytes : List UInt8) :
    run.step (.feed bytes) = run := by
  simp only [step, feed, stopped, Bool.not_false, Bool.true_or, if_true, after_idle]

theorem step_feed_of_closing (closing : run.state.closing = true) (bytes : List UInt8) :
    run.step (.feed bytes) = run := by
  simp only [step, feed, closing, Bool.or_true, if_true, after_idle]

theorem step_feed_eq (reading : run.state.reading = true) (goesOn : run.state.closing = false)
    (bytes : List UInt8) :
    run.step (.feed bytes) = run.after (run.state.read (run.state.unread ++ bytes)) := by
  simp only [step, feed, reading, goesOn, Bool.not_true, Bool.false_or, Bool.false_eq_true,
    if_false]

theorem after_read_of_holdsBack (holds : run.state.holdsBack = true) (stream : List UInt8) :
    run.after (run.state.read stream) = run.withUnread stream := by
  rw [read_of_holdsBack holds, after_idle]
  rfl

theorem after_read_of_packet (free : run.state.holdsBack = false) {stream rest : List UInt8}
    {packet : Packet} (found : Packet.front stream = .packet packet rest) :
    run.after (run.state.read stream)
      = (run.takeIn packet).after ((run.takeIn packet).state.read rest) := by
  rw [read_of_packet free found, after_andThen]
  rfl

/-- If there is room, all packets are taken in, and what is left over is kept. -/
theorem after_read_some {run : Run} (goesOn : run.state.closing = false)
    {stream rest : List UInt8} (room : run.state.HasRoom (Packet.split stream).packets)
    (leftOver : (Packet.split stream).remainder = some rest) :
    run.after (run.state.read stream)
      = ((Packet.split stream).packets.foldl takeIn run).withUnread rest := by
  cases found : Packet.front stream with
  | incomplete =>
      rw [Packet.split_of_incomplete found] at leftOver ⊢
      cases leftOver
      rw [read_of_incomplete room.free goesOn found, after_idle]
      rfl
  | illegal =>
      rw [Packet.split_of_illegal found] at leftOver
      cases leftOver
  | packet packet further =>
      have free := room.free
      rw [Packet.split_of_packet found] at leftOver room
      rw [after_read_of_packet free found, Packet.split_of_packet found]
      exact after_read_some ((takeIn_held run packet).2.trans goesOn) (HasRoom.cons_iff.mp room)
        leftOver
termination_by stream.length
decreasing_by exact Packet.length_lt_of_front found

/-- If there is room, all packets are taken in, and a length out of bounds ends the reading. -/
theorem after_read_none {run : Run} (reading : run.state.reading = true) {stream : List UInt8}
    (room : run.state.HasRoom (Packet.split stream).packets)
    (stuck : (Packet.split stream).remainder = none) :
    run.after (run.state.read stream)
      = ((Packet.split stream).packets.foldl takeIn run).conclude := by
  cases found : Packet.front stream with
  | incomplete =>
      rw [Packet.split_of_incomplete found] at stuck
      cases stuck
  | illegal =>
      rw [Packet.split_of_illegal found, read_of_illegal room.free found, List.foldl_nil,
        conclude_of_reading reading]
  | packet packet further =>
      have free := room.free
      rw [Packet.split_of_packet found] at stuck room
      rw [after_read_of_packet free found, Packet.split_of_packet found]
      exact after_read_none ((takeIn_frame run packet).2.1.trans reading)
        (HasRoom.cons_iff.mp room) stuck
termination_by stream.length
decreasing_by exact Packet.length_lt_of_front found

/-- If nothing holds back in the end, there was room for the packets that some bytes complete. -/
theorem hasRoom_of_step (reading : run.state.reading = true)
    (goesOn : run.state.closing = false) {bytes : List UInt8}
    (short : (run.step (.feed bytes)).state.queued.length ≤ eventRoom) :
    run.state.HasRoom (Packet.split (run.state.unread ++ bytes)).packets := by
  rw [step_feed_eq reading goesOn] at short
  exact hasRoom_of_read _ _ (holdsBack_eq_false_iff.mpr short)

/-- If there is room, the packets that some bytes complete are taken in, and what is left over is
kept. -/
theorem step_feed_some (reading : run.state.reading = true) (goesOn : run.state.closing = false)
    {bytes rest : List UInt8}
    (room : run.state.HasRoom (Packet.split (run.state.unread ++ bytes)).packets)
    (leftOver : (Packet.split (run.state.unread ++ bytes)).remainder = some rest) :
    run.step (.feed bytes)
      = ((Packet.split (run.state.unread ++ bytes)).packets.foldl takeIn run).withUnread rest := by
  rw [step_feed_eq reading goesOn, after_read_some goesOn room leftOver]

/-- If there is room, the packets that some bytes complete are taken in, and a length out of bounds
ends the reading. -/
theorem step_feed_none (reading : run.state.reading = true) (goesOn : run.state.closing = false)
    {bytes : List UInt8}
    (room : run.state.HasRoom (Packet.split (run.state.unread ++ bytes)).packets)
    (stuck : (Packet.split (run.state.unread ++ bytes)).remainder = none) :
    run.step (.feed bytes)
      = ((Packet.split (run.state.unread ++ bytes)).packets.foldl takeIn run).conclude := by
  rw [step_feed_eq reading goesOn, after_read_none reading room stuck]

/-- Between two packets, a complete packet is taken in at once, even if it holds back what comes
after it. -/
theorem step_feed_complete (reading : run.state.reading = true)
    (goesOn : run.state.closing = false) (free : run.state.holdsBack = false)
    (between : run.state.unread = []) {packet : Packet} (complete : packet.Complete) :
    run.step (.feed packet.bytes) = run.takeIn packet := by
  have found : Packet.front packet.bytes = .packet packet [] :=
    Packet.front_eq_packet_iff.mpr ⟨complete, (List.append_nil _).symm⟩
  have still := (takeIn_frame run packet).1.trans between
  rw [step_feed_eq reading goesOn, between, List.nil_append, after_read_of_packet free found]
  cases holds : (run.takeIn packet).state.holdsBack with
  | true => rw [after_read_of_holdsBack holds, withUnread_self still]
  | false =>
      have open' := (takeIn_held run packet).2.trans goesOn
      rw [read_of_incomplete holds open' rfl, after_idle]
      exact withUnread_self still

theorem step_feed_of_holdsBack (reading : run.state.reading = true)
    (goesOn : run.state.closing = false) (holds : run.state.holdsBack = true)
    (bytes : List UInt8) :
    run.step (.feed bytes) = run.withUnread (run.state.unread ++ bytes) := by
  rw [step_feed_eq reading goesOn, after_read_of_holdsBack holds]

/-! ### The other steps -/

theorem step_closeFeed_of_free (free : run.state.holdsBack = false) :
    run.step .closeFeed = run.conclude := by
  cases reading : run.state.reading with
  | true =>
      rw [conclude_of_reading reading]
      simp only [step, closeFeed, reading, free, Bool.not_true, Bool.false_eq_true, if_false]
  | false =>
      rw [conclude_of_not_reading reading]
      simp only [step, closeFeed, reading, Bool.not_false, if_true, after_idle]

theorem step_closeFeed_of_holdsBack (reading : run.state.reading = true)
    (holds : run.state.holdsBack = true) :
    run.step .closeFeed = { run with state := { run.state with closing := true } } := by
  simp only [step, closeFeed, reading, holds, Bool.not_true, Bool.false_eq_true, if_false, if_true,
    after_idle]

theorem step_send_of_free (free : run.state.holdsBack = false) (packet : CommandPacket) :
    run.step (.send packet) = run.issue packet := by
  cases reading : run.state.reading with
  | true =>
      simp only [step, send, issue, reading, free, Bool.not_true, Bool.false_eq_true, if_false,
        if_true]
  | false =>
      simp only [step, send, issue, reading, Bool.not_false, Bool.false_eq_true, if_false, if_true]

/-- A command that comes while something holds back is put aside. -/
theorem step_send_of_holdsBack (reading : run.state.reading = true)
    (holds : run.state.holdsBack = true) (packet : CommandPacket) :
    run.step (.send packet) = { run with
      state := { run.state with held := run.state.held ++ [⟨run.issued, packet⟩] }
      issued := run.issued + 1 } := by
  simp only [step, send, reading, holds, Bool.not_true, Bool.false_eq_true, if_false, if_true,
    after_idle]

theorem step_receive_of_free (free : run.state.holdsBack = false) :
    run.step .receive = run.take := by
  cases queued : run.state.queued with
  | nil =>
      rw [take_of_nil queued]
      simp only [step, receive, queued, after_idle]
  | cons set others =>
      rw [take_of_cons queued]
      simp only [step, receive, queued, free, Bool.false_eq_true, if_false, after_idle]

/-- Where something holds back, taking an event set makes room, and everything goes on. -/
theorem step_receive_of_holdsBack (holds : run.state.holdsBack = true) {set : EventSet}
    {others : List EventSet} (waiting : run.state.queued = set :: others) :
    run.step .receive
      = { run.after ({ run.state with queued := others } : Multiplexer).resume with
          answers := run.answers ++ [.events set] } := by
  simp only [step, receive, waiting, holds, if_true]

/-- What holds back is an event set. -/
theorem exists_waiting (holds : run.state.holdsBack = true) :
    exists set others, run.state.queued = set :: others := by
  cases queued : run.state.queued with
  | nil =>
      have long := holdsBack_eq_true_iff.mp holds
      rw [queued] at long
      exact absurd long (Nat.not_lt_zero _)
  | cons set others => exact ⟨set, others, rfl⟩

end Run

/-! ## What every run keeps -/

namespace Orderly

theorem fresh : ({} : Multiplexer).Orderly where
  distinct := List.nodup_nil
  settled := fun _ => rfl
  busy := fun _ => rfl
  idle := fun _ => ⟨rfl, rfl⟩
  leftOver := fun _ => Packet.split_nil

theorem of_holdsBack {state : Multiplexer} (accounted : state.Accounted)
    (reading : state.reading = true) (holds : state.holdsBack = true) : state.Orderly :=
  ⟨accounted, fun _ => reading, fun free => absurd (holds.symm.trans free) (by decide),
    fun free => absurd (holds.symm.trans free) (by decide)⟩

theorem of_free {state : Multiplexer} (accounted : state.Accounted)
    (free : state.holdsBack = false) (idle : state.held = [] ∧ state.closing = false)
    (leftOver : Packet.split state.unread = ⟨[], some state.unread⟩) : state.Orderly :=
  ⟨accounted, fun holds => absurd (free.symm.trans holds) (by decide), fun _ => idle,
    fun _ => leftOver⟩

/-- However far the reading gets, it leaves things in order. -/
theorem read {state : Multiplexer} (accounted : state.Accounted) (reading : state.reading = true)
    (nobody : state.held = []) (stream : List UInt8) : (state.read stream).next.Orderly := by
  induction state, stream using read_induction with
  | held state stream holds =>
      rw [read_of_holdsBack holds]
      exact of_holdsBack ⟨accounted.distinct, accounted.settled⟩ reading holds
  | atEnd state stream free none =>
      rcases read_at_end free none with ⟨found, goesOn, same⟩ | ⟨-, same⟩ <;> rw [same]
      · exact of_free ⟨accounted.distinct, accounted.settled⟩ free ⟨nobody, goesOn⟩
          (Packet.split_of_incomplete found)
      · exact of_free ⟨List.nodup_nil, fun _ => rfl⟩ free ⟨nobody, rfl⟩ Packet.split_nil
  | onward state stream packet rest free found ih =>
      obtain ⟨-, reads, -⟩ := accept_frame state packet
      have taken : (Run.takeIn { state } packet).state.Accounted :=
        @Accounted.takeIn { state } accounted packet
      rw [read_of_packet free found]
      exact ih taken (reads.trans reading) ((accept_held state packet).1.trans nobody)

variable {run : Run}

theorem closeFeed (orderly : run.state.Orderly) : (run.step .closeFeed).state.Orderly := by
  cases reading : run.state.reading with
  | false =>
      have same : run.step .closeFeed = run := by
        simp only [Run.step, Multiplexer.closeFeed, reading, Bool.not_false, if_true,
          Run.after_idle]
      rw [same]
      exact orderly
  | true =>
      cases holds : run.state.holdsBack with
      | true =>
          rw [Run.step_closeFeed_of_holdsBack reading holds]
          exact of_holdsBack ⟨orderly.distinct, orderly.settled⟩ reading holds
      | false =>
          rw [Run.step_closeFeed_of_free holds, Run.conclude_of_reading reading]
          exact of_free ⟨List.nodup_nil, fun _ => rfl⟩ holds ⟨(orderly.idle holds).1, rfl⟩
            Packet.split_nil

theorem feed (orderly : run.state.Orderly) (bytes : List UInt8) :
    (run.step (.feed bytes)).state.Orderly := by
  cases reading : run.state.reading with
  | false =>
      rw [Run.step_feed_of_not_reading reading]
      exact orderly
  | true =>
      cases closing : run.state.closing with
      | true =>
          rw [Run.step_feed_of_closing closing]
          exact orderly
      | false =>
          cases holds : run.state.holdsBack with
          | true =>
              rw [Run.step_feed_of_holdsBack reading closing holds]
              exact of_holdsBack ⟨orderly.distinct, orderly.settled⟩ reading holds
          | false =>
              rw [Run.step_feed_eq reading closing]
              exact read orderly.toAccounted reading (orderly.idle holds).1 _

theorem send (orderly : run.state.Orderly) (packet : CommandPacket) :
    (run.step (.send packet)).state.Orderly := by
  cases holds : run.state.holdsBack with
  | true =>
      have reading := orderly.busy holds
      rw [Run.step_send_of_holdsBack reading holds]
      exact of_holdsBack ⟨orderly.distinct, orderly.settled⟩ reading holds
  | false =>
      rw [Run.step_send_of_free holds]
      have accounted := orderly.toAccounted.issue packet
      obtain ⟨-, -, queued, -⟩ := run.issue_frame packet
      obtain ⟨held, closing⟩ := run.issue_held packet
      have free : (run.issue packet).state.holdsBack = false := by
        rw [holdsBack, queued]
        exact holds
      refine of_free accounted free ?_ ?_
      · rw [held, closing]
        exact orderly.idle holds
      · cases reading : run.state.reading with
        | false =>
            rw [Run.issue_of_not_reading reading]
            exact orderly.leftOver holds
        | true =>
            cases writable : run.state.writable with
            | false =>
                rw [Run.issue_of_not_writable reading writable]
                exact Packet.split_nil
            | true =>
                rw [Run.issue_written reading writable]
                exact Packet.split_nil

theorem receive (orderly : run.state.Orderly) : (run.step .receive).state.Orderly := by
  cases holds : run.state.holdsBack with
  | true =>
      have reading := orderly.busy holds
      obtain ⟨set, others, waiting⟩ := Run.exists_waiting holds
      rw [Run.step_receive_of_holdsBack holds waiting]
      -- Whoever was held back is written first, and then the reading goes on.
      have begins : ({ run.state with queued := others, held := [] } : Multiplexer).Accounted :=
        ⟨orderly.distinct, orderly.settled⟩
      obtain ⟨-, -, nobody, -, reads, -⟩ := writeAll_frame
        ({ run.state with queued := others, held := [] } : Multiplexer) run.state.held
      exact read (begins.writeAll reading run.state.held) (reads.trans reading) nobody _
  | false =>
      rw [Run.step_receive_of_free holds]
      have accounted := orderly.toAccounted.take
      cases queued : run.state.queued with
      | nil =>
          rw [Run.take_of_nil queued]
          exact ⟨⟨orderly.distinct, orderly.settled⟩, orderly.busy, orderly.idle,
            orderly.leftOver⟩
      | cons set others =>
          have short := holdsBack_eq_false_iff.mp holds
          rw [queued, List.length_cons] at short
          have free : (run.take).state.holdsBack = false := by
            rw [Run.take_of_cons queued]
            exact holdsBack_eq_false_iff.mpr (Nat.le_of_succ_le short)
          refine of_free accounted free ?_ ?_
          · rw [Run.take_of_cons queued]
            exact orderly.idle holds
          · rw [Run.take_of_cons queued]
            exact orderly.leftOver holds

theorem step (orderly : run.state.Orderly) (step : Step) : (run.step step).state.Orderly := by
  cases step with
  | feed bytes => exact orderly.feed bytes
  | send packet => exact orderly.send packet
  | receive => exact orderly.receive
  | closeFeed => exact orderly.closeFeed
  | closeSink => exact ⟨⟨orderly.distinct, orderly.settled⟩, orderly.busy, orderly.idle,
      orderly.leftOver⟩

/-- Every run comes to an orderly state. -/
theorem of (steps : List Step) : (Run.of steps).state.Orderly :=
  Run.of_induction (motive := fun run => run.state.Orderly) fresh
    (fun _ step orderly => orderly.step step) steps

end Orderly
end Multiplexer
end Connection
end LineDebugger
