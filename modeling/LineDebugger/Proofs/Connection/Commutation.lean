import LineDebugger.Proofs.Connection.Delivery
import Mathlib.Data.List.Basic

namespace LineDebugger
namespace Connection
namespace Multiplexer

open Wire

/-!
# What is ready at the same time

When a command waits to be sent and a packet waits to be read, nothing says which of the two
comes first.  As long as the packet is not the reply to that command, nothing can be told
from the order either: the state, the bytes written and the results of all commands are the
same.  Only the order in which commands finish may differ, and they have different callers.

There is one exception.  A packet that finds the queue full and brings one more event set
holds back the command if it comes first (`Overflows`), and does not if it comes second.

The argument is about two neighbours, `issue_takeIn_agrees` for a command and a packet and
`takeIn_takeIn_agrees` for two replies.  Whole sequences follow by moving one thing past
another at a time, since runs that agree keep agreeing whatever step comes next.
-/

/-- The steps that send these commands, one after the other. -/
def sends (commands : List CommandPacket) : List Step := commands.map .send

/-- The steps that feed these packets, one after the other. -/
def feeds (packets : List Packet) : List Step := packets.map fun packet => .feed packet.bytes

/-- An order in which commands and packets that are all ready can be taken.  The commands
keep their order, and so do the packets. -/
inductive Interleaved : List CommandPacket -> List Packet -> List Step -> Prop where
  | done : Interleaved [] [] []
  | command {command : CommandPacket} {commands : List CommandPacket} {packets : List Packet}
      {steps : List Step} :
      Interleaved commands packets steps ->
      Interleaved (command :: commands) packets (.send command :: steps)
  | packet {packet : Packet} {commands : List CommandPacket} {packets : List Packet}
      {steps : List Step} :
      Interleaved commands packets steps ->
      Interleaved commands (packet :: packets) (.feed packet.bytes :: steps)

namespace Run

/-- Nothing tells two runs apart except the order in which commands have finished. -/
structure Agrees (one other : Run) : Prop where
  state : one.state = other.state
  issued : one.issued = other.issued
  written : one.written = other.written
  answers : one.answers = other.answers
  finished : one.finished.Perm other.finished

namespace Agrees

variable {one other third : Run}

theorem refl (run : Run) : run.Agrees run := ⟨rfl, rfl, rfl, rfl, List.Perm.refl _⟩

theorem symm (agrees : one.Agrees other) : other.Agrees one :=
  ⟨agrees.state.symm, agrees.issued.symm, agrees.written.symm, agrees.answers.symm,
    agrees.finished.symm⟩

theorem trans (first : one.Agrees other) (second : other.Agrees third) : one.Agrees third :=
  ⟨first.state.trans second.state, first.issued.trans second.issued,
    first.written.trans second.written, first.answers.trans second.answers,
    first.finished.trans second.finished⟩

theorem after (agrees : one.Agrees other) (effect : Effect) :
    (one.after effect).Agrees (other.after effect) :=
  ⟨rfl, agrees.issued, congrArg (· ++ effect.written) agrees.written, agrees.answers,
    agrees.finished.append_right _⟩

theorem takeIn (agrees : one.Agrees other) (packet : Packet) :
    (one.takeIn packet).Agrees (other.takeIn packet) := by
  rw [Run.takeIn, Run.takeIn, agrees.state]
  exact agrees.after _

theorem step (agrees : one.Agrees other) (step : Step) :
    (one.step step).Agrees (other.step step) := by
  cases step with
  | feed bytes =>
      rw [Run.step, Run.step, agrees.state]
      exact agrees.after _
  | send packet =>
      rw [Run.step, Run.step, agrees.state, agrees.issued]
      obtain ⟨state, -, written, answers, finished⟩ :=
        agrees.after (other.state.send other.issued packet)
      exact ⟨state, rfl, written, answers, finished⟩
  | receive =>
      rw [Run.step, Run.step, agrees.state, agrees.answers]
      obtain ⟨state, issued, written, -, finished⟩ := agrees.after other.state.receive.2
      exact ⟨state, issued, written, rfl, finished⟩
  | closeFeed =>
      rw [Run.step, Run.step, agrees.state]
      exact agrees.after _
  | closeSink =>
      rw [Run.step, Run.step, agrees.state]
      exact agrees.after _

theorem through (agrees : one.Agrees other) (steps : List Step) :
    (one.through steps).Agrees (other.through steps) := by
  induction steps generalizing one other with
  | nil => exact agrees
  | cons step steps ih => exact ih (agrees.step step)

theorem foldl_takeIn (agrees : one.Agrees other) (packets : List Packet) :
    (packets.foldl Run.takeIn one).Agrees (packets.foldl Run.takeIn other) := by
  induction packets generalizing one other with
  | nil => exact agrees
  | cons packet packets ih => exact ih (agrees.takeIn packet)

end Agrees

/-! ## Two neighbours -/

/-- What waits under one id is not affected by dropping what waits under another. -/
theorem filter_id_of_ne (pending : List Pending) {one other : UInt32} (different : one ≠ other) :
    ((pending.filter fun waiting => waiting.id != other).filter fun waiting => waiting.id == one)
      = pending.filter fun waiting => waiting.id == one := by
  rw [List.filter_filter]
  apply List.filter_congr
  intro waiting _
  by_cases same : waiting.id = one
  · simp [same, different]
  · simp [same]

variable {run : Run}

/-- Two replies with different ids are for different commands. -/
theorem takeIn_takeIn_agrees (accounted : run.state.Accounted) {one other : Reply}
    (different : one.id ≠ other.id) :
    ((run.takeIn one.packet).takeIn other.packet).Agrees
      ((run.takeIn other.packet).takeIn one.packet) := by
  rw [takeIn_reply (accounted.takeIn one.packet) other,
    takeIn_reply (accounted.takeIn other.packet) one, takeIn_reply accounted one,
    takeIn_reply accounted other]
  simp only [filter_id_of_ne _ different, filter_id_of_ne _ different.symm]
  refine ⟨?_, rfl, rfl, rfl, ?_⟩
  · rw [List.filter_comm]
  · simp only [List.append_assoc]
    exact List.perm_append_comm.append_left _

/-- A packet that is no reply has its place in the queue, where no command comes. -/
theorem issue_takeIn_agrees_of_not_isReply (reading : run.state.reading = true) {packet : Packet}
    (plain : packet.isReply = false) (command : CommandPacket) :
    ((run.issue command).takeIn packet).Agrees ((run.takeIn packet).issue command) := by
  obtain ⟨-, reads, writes⟩ := takeIn_frame run packet
  cases writable : run.state.writable with
  | false =>
      rw [issue_of_not_writable (reads.trans reading) (writes.trans writable),
        issue_of_not_writable reading writable, takeIn_of_not_isReply plain,
        takeIn_of_not_isReply plain]
      exact Agrees.refl _
  | true =>
      rw [issue_written (reads.trans reading) (writes.trans writable),
        issue_written reading writable, takeIn_of_not_isReply plain,
        takeIn_of_not_isReply plain]
      exact Agrees.refl _

/-- A reply and a command with another id are about different pending commands. -/
theorem issue_takeIn_reply_agrees (accounted : run.state.Accounted)
    (reading : run.state.reading = true) {reply : Reply} {command : CommandPacket}
    (different : reply.id ≠ command.id) :
    ((run.issue command).takeIn reply.packet).Agrees
      ((run.takeIn reply.packet).issue command) := by
  obtain ⟨-, reads, writes⟩ := takeIn_frame run reply.packet
  rw [takeIn_reply (accounted.issue command)]
  cases writable : run.state.writable with
  | false =>
      rw [issue_of_not_writable (reads.trans reading) (writes.trans writable),
        issue_of_not_writable reading writable, takeIn_reply accounted]
      refine ⟨rfl, rfl, rfl, rfl, ?_⟩
      simp only [withUnread, List.append_assoc]
      exact List.perm_append_comm.append_left _
  | true =>
      rw [issue_written (reads.trans reading) (writes.trans writable),
        issue_written reading writable, takeIn_reply accounted]
      -- The command that has just been written is not the one that is answered.
      have own : ([⟨command.id, run.issued⟩] : List Pending).filter
          (fun waiting => waiting.id == reply.id) = [] := by
        simp [different.symm]
      have kept : ([⟨command.id, run.issued⟩] : List Pending).filter
          (fun waiting => waiting.id != reply.id) = [⟨command.id, run.issued⟩] := by
        simp [different.symm]
      simp only [List.filter_append, own, kept, List.append_nil,
        filter_id_of_ne _ different, filter_id_of_ne _ different.symm]
      refine ⟨?_, rfl, rfl, rfl, ?_⟩
      · rw [List.filter_comm]
      · simp only [List.append_assoc]
        exact List.perm_append_comm.append_left _

/-- A command and a packet that is not its reply do not meet.  The packet may be an event set
that can or cannot be read, a reply to another command, or a reply to none.  The command may
take an id over from another, it may fail to be written, but it does not wait yet. -/
theorem issue_takeIn_agrees (accounted : run.state.Accounted)
    (reading : run.state.reading = true) {packet : Packet} (complete : packet.Complete)
    {command : CommandPacket}
    (unrelated : ¬ (packet.isReply = true ∧ packet.id = command.id)) :
    ((run.issue command).takeIn packet).Agrees ((run.takeIn packet).issue command) := by
  cases flagged : packet.isReply with
  | false => exact issue_takeIn_agrees_of_not_isReply reading flagged command
  | true =>
      obtain ⟨reply, rfl⟩ := complete.carries_reply flagged
      apply issue_takeIn_reply_agrees accounted reading
      intro same
      exact unrelated ⟨flagged, reply.packet_id.trans same⟩

end Run

/-! ## Where there is no room -/

/-- The queue is full, and the packet brings an event set for which there is no room. -/
def Overflows (state : Multiplexer) (packet : Packet) : Prop :=
  state.reading = true ∧ state.queued.length = eventRoom ∧ (eventSet? packet).isSome = true

theorem overflows_iff {state : Multiplexer} (reading : state.reading = true)
    (free : state.holdsBack = false) (packet : Packet) :
    state.Overflows packet ↔ (state.accept packet).next.holdsBack = true := by
  have short := holdsBack_eq_false_iff.mp free
  rw [Overflows, holdsBack_eq_true_iff, accept_queued]
  cases eventSet? packet with
  | none => simpa using short
  | some set =>
      simp only [reading, Option.isSome_some, Option.toList_some, List.length_append,
        List.length_singleton, true_and, and_true]
      omega

/-- Something holds back already, or there is room for these packets.  Either way none of them
overflows. -/
def Even (state : Multiplexer) (packets : List Packet) : Prop :=
  state.holdsBack = true ∨ state.HasRoom packets

theorem Even.not_overflows {state : Multiplexer} {packet : Packet} {packets : List Packet}
    (even : state.Even (packet :: packets)) : ¬ state.Overflows packet := by
  rintro ⟨-, full, brings⟩
  rcases even with holds | room
  · exact absurd full (Nat.ne_of_gt (holdsBack_eq_true_iff.mp holds))
  · obtain ⟨set, brings⟩ := Option.isSome_iff_exists.mp brings
    rw [HasRoom, List.filterMap_cons, brings, full, List.length_cons] at room
    omega

theorem Even.first {state : Multiplexer} {packet : Packet} {packets : List Packet}
    (even : state.Even (packet :: packets)) : state.Even [packet] :=
  even.imp_right (HasRoom.of_sublist ((List.nil_sublist packets).cons_cons packet))

namespace Run

variable {run : Run}

theorem step_send_frame (run : Run) (command : CommandPacket) :
    (run.step (.send command)).state.reading = run.state.reading
      ∧ (run.step (.send command)).state.queued = run.state.queued
      ∧ (run.step (.send command)).state.closing = run.state.closing := by
  cases reading : run.state.reading with
  | false =>
      simp only [step, send, reading, Bool.not_false, if_true]
      exact ⟨reading, rfl, rfl⟩
  | true =>
      cases holds : run.state.holdsBack with
      | true =>
          rw [step_send_of_holdsBack reading holds]
          exact ⟨reading, rfl, rfl⟩
      | false =>
          obtain ⟨reads, -, queued, -⟩ := issue_frame run command
          rw [step_send_of_free holds]
          exact ⟨reads.trans reading, queued, (issue_held run command).2⟩

/-- As long as something holds back, bytes that come in are laid aside or not looked at. -/
theorem step_feed_kept (orderly : run.state.Orderly) (holds : run.state.holdsBack = true)
    (bytes : List UInt8) :
    exists unread, run.step (.feed bytes) = run.withUnread unread := by
  cases closing : run.state.closing with
  | true => exact ⟨_, (step_feed_of_closing closing bytes).trans (withUnread_self rfl).symm⟩
  | false => exact ⟨_, step_feed_of_holdsBack (orderly.busy holds) closing holds bytes⟩

/-- What holds back goes on doing so, whatever comes in. -/
theorem step_feed_queued (orderly : run.state.Orderly) (holds : run.state.holdsBack = true)
    (bytes : List UInt8) : (run.step (.feed bytes)).state.queued = run.state.queued := by
  obtain ⟨unread, kept⟩ := step_feed_kept orderly holds bytes
  rw [kept]
  rfl

theorem send_between (between : run.state.Between) (command : CommandPacket) :
    (run.step (.send command)).state.Between := by
  intro free
  rw [holdsBack, (step_send_frame run command).2.1] at free
  rw [step_send_of_free free]
  exact issue_unread (between free) command

theorem send_even {packets : List Packet} (even : run.state.Even packets)
    (command : CommandPacket) : (run.step (.send command)).state.Even packets := by
  rw [Even, holdsBack, HasRoom, (step_send_frame run command).2.1]
  exact even

theorem feed_between (orderly : run.state.Orderly) (between : run.state.Between)
    {packet : Packet} (complete : packet.Complete) :
    (run.step (.feed packet.bytes)).state.Between := by
  cases holds : run.state.holdsBack with
  | true =>
      intro free
      rw [holdsBack, step_feed_queued orderly holds] at free
      exact absurd (holds.symm.trans free) (by decide)
  | false =>
      cases reading : run.state.reading with
      | false =>
          rw [step_feed_of_not_reading reading]
          exact between
      | true =>
          rw [step_feed_complete reading (orderly.idle holds).2 holds (between holds) complete]
          exact fun _ => (takeIn_frame run packet).1.trans (between holds)

theorem feed_even (orderly : run.state.Orderly) (between : run.state.Between) {packet : Packet}
    (complete : packet.Complete) {packets : List Packet}
    (even : run.state.Even (packet :: packets)) :
    (run.step (.feed packet.bytes)).state.Even packets := by
  cases holds : run.state.holdsBack with
  | true =>
      refine .inl ?_
      rw [holdsBack, step_feed_queued orderly holds]
      exact holds
  | false =>
      have room := even.resolve_left (by simp [holds])
      refine .inr ?_
      cases reading : run.state.reading with
      | false =>
          rw [step_feed_of_not_reading reading]
          exact HasRoom.of_sublist (List.sublist_cons_self packet packets) room
      | true =>
          rw [step_feed_complete reading (orderly.idle holds).2 holds (between holds) complete]
          exact HasRoom.cons_iff.mp room

/-- As long as nothing holds back, a command is written before the packet that comes after it is
taken in. -/
theorem send_feed_eq (orderly : run.state.Orderly) (free : run.state.holdsBack = false)
    (between : run.state.Between) (reading : run.state.reading = true) {packet : Packet}
    (complete : packet.Complete) (command : CommandPacket) :
    (run.step (.send command)).step (.feed packet.bytes)
      = (run.issue command).takeIn packet := by
  obtain ⟨sentReading, sentQueued, sentClosing⟩ := step_send_frame run command
  have sentFree : (run.step (.send command)).state.holdsBack = false := by
    rw [holdsBack, sentQueued]
    exact free
  rw [step_feed_complete (sentReading.trans reading) (sentClosing.trans (orderly.idle free).2)
    sentFree (send_between between command sentFree) complete, step_send_of_free free]

/-- Between two packets, a command and a packet that is not its reply can change places, unless the
packet overflows. -/
theorem send_feed_agrees (orderly : run.state.Orderly) (between : run.state.Between)
    {packet : Packet} (complete : packet.Complete) {command : CommandPacket}
    (unrelated : ¬ (packet.isReply = true ∧ packet.id = command.id))
    (fits : ¬ run.state.Overflows packet) :
    ((run.step (.send command)).step (.feed packet.bytes)).Agrees
      ((run.step (.feed packet.bytes)).step (.send command)) := by
  obtain ⟨sentReading, sentQueued, sentClosing⟩ := step_send_frame run command
  cases holds : run.state.holdsBack with
  | true =>
      have reading := orderly.busy holds
      have alsoHolds : (run.step (.send command)).state.holdsBack = true := by
        rw [holdsBack, sentQueued]
        exact holds
      cases closing : run.state.closing with
      | true =>
          rw [step_feed_of_closing closing, step_feed_of_closing (sentClosing.trans closing)]
          exact Agrees.refl _
      | false =>
          rw [step_feed_of_holdsBack reading closing holds,
            step_feed_of_holdsBack (sentReading.trans reading) (sentClosing.trans closing)
              alsoHolds,
            step_send_of_holdsBack reading holds, step_send_of_holdsBack]
          · exact Agrees.refl _
          · exact reading
          · exact holds
  | false =>
      cases reading : run.state.reading with
      | false =>
          rw [step_feed_of_not_reading reading,
            step_feed_of_not_reading (sentReading.trans reading)]
          exact Agrees.refl _
      | true =>
          have takenFree : (run.takeIn packet).state.holdsBack = false := by
            rw [← Bool.not_eq_true]
            exact fun full => fits ((overflows_iff reading holds packet).mpr full)
          rw [send_feed_eq orderly holds between reading complete,
            step_feed_complete reading (orderly.idle holds).2 holds (between holds) complete,
            step_send_of_free takenFree]
          exact issue_takeIn_agrees orderly.toAccounted reading complete unrelated

/-- If the packet overflows and comes first, it holds the command back. -/
theorem feed_send_of_overflows (orderly : run.state.Orderly) (between : run.state.Between)
    {packet : Packet} (complete : packet.Complete) (overflows : run.state.Overflows packet)
    (command : CommandPacket) :
    (run.step (.feed packet.bytes)).step (.send command) = { run.takeIn packet with
      state := { (run.takeIn packet).state with held := [⟨run.issued, command⟩] }
      issued := run.issued + 1 } := by
  have reading := overflows.1
  have free : run.state.holdsBack = false :=
    holdsBack_eq_false_iff.mpr (Nat.le_of_eq overflows.2.1)
  have full : (run.takeIn packet).state.holdsBack = true :=
    (overflows_iff reading free packet).mp overflows
  obtain ⟨nobody, goesOn⟩ := orderly.idle free
  rw [step_feed_complete reading goesOn free (between free) complete,
    step_send_of_holdsBack ((takeIn_frame run packet).2.1.trans reading) full,
    (takeIn_held run packet).1, nobody]
  rfl

theorem send_feed_agrees_iff (orderly : run.state.Orderly) (between : run.state.Between)
    {packet : Packet} (complete : packet.Complete) {command : CommandPacket}
    (unrelated : ¬ (packet.isReply = true ∧ packet.id = command.id)) :
    ((run.step (.send command)).step (.feed packet.bytes)).Agrees
        ((run.step (.feed packet.bytes)).step (.send command))
      ↔ ¬ run.state.Overflows packet := by
  constructor
  · intro agrees overflows
    have reading := overflows.1
    have free : run.state.holdsBack = false :=
      holdsBack_eq_false_iff.mpr (Nat.le_of_eq overflows.2.1)
    -- Only where the packet comes first does somebody have to wait for room.
    have held := congrArg Multiplexer.held agrees.state
    rw [send_feed_eq orderly free between reading complete,
      feed_send_of_overflows orderly between complete overflows, (takeIn_held _ packet).1,
      (issue_held run command).1, (orderly.idle free).1] at held
    cases held
  · exact send_feed_agrees orderly between complete unrelated

/-! ## A packet that comes between two commands, or between two packets -/

/-- A packet moves past any number of commands. -/
theorem feed_sends_agrees (orderly : run.state.Orderly) (between : run.state.Between)
    {packet : Packet} (complete : packet.Complete) {commands : List CommandPacket}
    (unrelated : forall command, command ∈ commands ->
      ¬ (packet.isReply = true ∧ packet.id = command.id))
    (even : run.state.Even [packet]) :
    ((run.step (.feed packet.bytes)).through (sends commands)).Agrees
      ((run.through (sends commands)).step (.feed packet.bytes)) := by
  induction commands generalizing run with
  | nil => exact Agrees.refl _
  | cons command commands ih =>
      have swapped := (send_feed_agrees orderly between complete
        (unrelated command List.mem_cons_self) even.not_overflows).symm
      have later := ih (orderly.send command) (send_between between command)
        (fun other member => unrelated other (List.mem_cons_of_mem _ member))
        (send_even even command)
      exact (swapped.through (sends commands)).trans later

/-- Whatever the order, it comes to the same as all commands before all packets. -/
theorem through_interleaved_agrees {commands : List CommandPacket} {packets : List Packet}
    {steps : List Step} (interleaved : Interleaved commands packets steps)
    (orderly : run.state.Orderly) (between : run.state.Between)
    (complete : forall packet, packet ∈ packets -> packet.Complete)
    (unrelated : forall command packet, command ∈ commands -> packet ∈ packets ->
      ¬ (packet.isReply = true ∧ packet.id = command.id))
    (even : run.state.Even packets) :
    (run.through steps).Agrees (run.through (sends commands ++ feeds packets)) := by
  induction interleaved generalizing run with
  | done => exact Agrees.refl _
  | command _ ih =>
      exact ih (orderly.send _) (send_between between _) complete
        (fun other packet member => unrelated other packet (List.mem_cons_of_mem _ member))
        (send_even even _)
  | @packet packet commands packets _ _ ih =>
      have whole := complete packet List.mem_cons_self
      have later := ih (orderly.feed packet.bytes) (feed_between orderly between whole)
        (fun other member => complete other (List.mem_cons_of_mem _ member))
        (fun command other member present =>
          unrelated command other member (List.mem_cons_of_mem _ present))
        (feed_even orderly between whole even)
      have moved := feed_sends_agrees orderly between whole
        (fun command member => unrelated command packet member List.mem_cons_self)
        even.first
      rw [through_append] at later
      rw [through_append]
      exact later.trans (moved.through (feeds packets))

/-! ## Replies to different commands -/

theorem through_feeds_of_not_reading (stopped : run.state.reading = false)
    (packets : List Packet) : run.through (feeds packets) = run := by
  induction packets with
  | nil => rfl
  | cons packet packets ih =>
      change (run.step (.feed packet.bytes)).through (feeds packets) = run
      rw [step_feed_of_not_reading stopped, ih]

theorem through_feeds_kept (orderly : run.state.Orderly) (holds : run.state.holdsBack = true)
    (packets : List Packet) :
    exists unread, run.through (feeds packets) = run.withUnread unread := by
  induction packets generalizing run with
  | nil => exact ⟨_, (withUnread_self rfl).symm⟩
  | cons packet packets ih =>
      obtain ⟨laid, kept⟩ := step_feed_kept orderly holds packet.bytes
      have alsoOrderly := orderly.feed packet.bytes
      change exists unread, (run.step (.feed packet.bytes)).through (feeds packets) = _
      rw [kept] at alsoOrderly ⊢
      exact ih alsoOrderly holds

theorem through_feeds (reading : run.state.reading = true) (goesOn : run.state.closing = false)
    (between : run.state.unread = []) {packets : List Packet}
    (complete : forall packet, packet ∈ packets -> packet.Complete)
    (room : run.state.HasRoom packets) :
    run.through (feeds packets) = packets.foldl takeIn run := by
  induction packets generalizing run with
  | nil => rfl
  | cons packet packets ih =>
      obtain ⟨unread, reads, -⟩ := takeIn_frame run packet
      change (run.step (.feed packet.bytes)).through (feeds packets) = _
      rw [step_feed_complete reading goesOn room.free between
        (complete packet List.mem_cons_self)]
      exact ih (reads.trans reading) ((takeIn_held run packet).2.trans goesOn)
        (unread.trans between) (fun other member => complete other (List.mem_cons_of_mem _ member))
        (HasRoom.cons_iff.mp room)

/-- Packets that are no replies only bring event sets. -/
theorem foldl_takeIn_plain {packets : List Packet}
    (plain : forall packet, packet ∈ packets -> packet.isReply = false) (run : Run) :
    packets.foldl takeIn run = { run with
      state := { run.state with
        queued := run.state.queued ++ packets.filterMap eventSet? } } := by
  induction packets generalizing run with
  | nil => simp only [List.foldl_nil, List.filterMap_nil, List.append_nil]
  | cons packet packets ih =>
      rw [List.foldl_cons, ih fun other member => plain other (List.mem_cons_of_mem _ member),
        takeIn_of_not_isReply (plain packet List.mem_cons_self), List.filterMap_cons]
      cases eventSet? packet <;> simp

theorem foldl_takeIn_perm {packets others : List Packet} (reordered : packets.Perm others)
    (accounted : run.state.Accounted)
    (replies : forall packet, packet ∈ packets -> exists reply : Reply, packet = reply.packet)
    (different : (packets.map Packet.id).Nodup) :
    (packets.foldl takeIn run).Agrees (others.foldl takeIn run) := by
  induction reordered generalizing run with
  | nil => exact Agrees.refl _
  | cons packet _ ih =>
      exact ih (accounted.takeIn packet)
        (fun other member => replies other (List.mem_cons_of_mem _ member))
        (List.nodup_cons.mp different).2
  | swap one other rest =>
      obtain ⟨first, rfl⟩ := replies other List.mem_cons_self
      obtain ⟨second, rfl⟩ := replies one (List.mem_cons_of_mem _ List.mem_cons_self)
      have apart : first.id ≠ second.id := by
        intro same
        apply (List.nodup_cons.mp different).1
        rw [first.packet_id, same, ← second.packet_id]
        exact List.mem_cons_self
      simp only [List.foldl_cons]
      exact (takeIn_takeIn_agrees accounted apart).foldl_takeIn rest
  | trans first _ ihFirst ihSecond =>
      exact (ihFirst accounted replies different).trans
        (ihSecond accounted (fun packet member => replies packet (first.mem_iff.mpr member))
          ((first.map Packet.id).nodup_iff.mp different))

/-- Commands that have finished stay finished. -/
theorem mem_finished_foldl_takeIn {done : Finished} (already : done ∈ run.finished)
    (packets : List Packet) : done ∈ (packets.foldl takeIn run).finished := by
  induction packets generalizing run with
  | nil => exact already
  | cons packet packets ih => exact ih (List.mem_append_left _ already)

/-- Among replies with different ids, each finds the command that waits for it. -/
theorem answered_foldl_takeIn (accounted : run.state.Accounted) {waiting : Pending}
    (waits : waiting ∈ run.state.pending) {packets : List Packet}
    (replies : forall packet, packet ∈ packets -> exists reply : Reply, packet = reply.packet)
    (different : (packets.map Packet.id).Nodup) {reply : Reply} (member : reply.packet ∈ packets)
    (own : reply.id = waiting.id) :
    ⟨waiting.ticket, .ok reply⟩ ∈ (packets.foldl takeIn run).finished := by
  induction packets generalizing run with
  | nil => cases member
  | cons packet packets ih =>
      obtain ⟨first, rfl⟩ := replies packet List.mem_cons_self
      obtain ⟨absent, different⟩ := List.nodup_cons.mp different
      rw [List.foldl_cons]
      rcases List.mem_cons.mp member with same | later
      · apply mem_finished_foldl_takeIn
        rw [← same, takeIn_reply accounted]
        apply List.mem_append_right
        exact List.mem_map.mpr ⟨waiting, List.mem_filter.mpr ⟨waits, by simp [own]⟩, rfl⟩
      · have apart : first.id ≠ waiting.id := by
          intro same
          apply absent
          rw [first.packet_id, same, ← own, ← reply.packet_id]
          exact List.mem_map_of_mem later
        apply ih (accounted.takeIn first.packet) _
          (fun other member => replies other (List.mem_cons_of_mem _ member)) different later
        rw [takeIn_reply accounted]
        exact List.mem_filter.mpr ⟨waits, by simpa using apart.symm⟩

/-- Replies with different ids can be fed in any order. -/
theorem through_feeds_perm (orderly : run.state.Orderly) (free : run.state.holdsBack = false)
    (between : run.state.Between) {packets others : List Packet}
    (reordered : packets.Perm others)
    (replies : forall packet, packet ∈ packets -> packet.Complete ∧ packet.isReply = true)
    (different : (packets.map Packet.id).Nodup) :
    (run.through (feeds packets)).Agrees (run.through (feeds others)) := by
  cases reading : run.state.reading with
  | false =>
      rw [through_feeds_of_not_reading reading, through_feeds_of_not_reading reading]
      exact Agrees.refl _
  | true =>
      have goesOn := (orderly.idle free).2
      have alsoReplies : forall packet, packet ∈ others ->
          packet.Complete ∧ packet.isReply = true :=
        fun packet member => replies packet (reordered.mem_iff.mpr member)
      rw [through_feeds reading goesOn (between free)
          (fun packet member => (replies packet member).1)
          (HasRoom.of_replies free fun packet member => (replies packet member).2),
        through_feeds reading goesOn (between free)
          (fun packet member => (alsoReplies packet member).1)
          (HasRoom.of_replies free fun packet member => (alsoReplies packet member).2)]
      exact foldl_takeIn_perm reordered orderly.toAccounted
        (fun packet member => (replies packet member).1.carries_reply (replies packet member).2)
        different

/-- A command that waits is answered, wherever its reply stands among those that are fed. -/
theorem answered_through_feeds (orderly : run.state.Orderly) (free : run.state.holdsBack = false)
    (between : run.state.Between) {packets : List Packet}
    (replies : forall packet, packet ∈ packets -> packet.Complete ∧ packet.isReply = true)
    (different : (packets.map Packet.id).Nodup) {waiting : Pending} {reply : Reply}
    (waits : waiting ∈ run.state.pending) (member : reply.packet ∈ packets)
    (own : reply.id = waiting.id) :
    ⟨waiting.ticket, .ok reply⟩ ∈ (run.through (feeds packets)).finished := by
  cases reading : run.state.reading with
  | false =>
      rw [orderly.settled reading] at waits
      cases waits
  | true =>
      rw [through_feeds reading (orderly.idle free).2 (between free)
        (fun packet member => (replies packet member).1)
        (HasRoom.of_replies free fun packet member => (replies packet member).2)]
      exact answered_foldl_takeIn orderly.toAccounted waits
        (fun packet member => (replies packet member).1.carries_reply (replies packet member).2)
        different member own

/-! ## A reply that does meet its command -/

variable {command : CommandPacket} {reply : Reply}

theorem send_feed_answered (orderly : run.state.Orderly) (free : run.state.holdsBack = false)
    (between : run.state.Between) (reading : run.state.reading = true)
    (writable : run.state.writable = true) (complete : reply.packet.Complete)
    (own : reply.id = command.id) :
    ⟨run.issued, .ok reply⟩
      ∈ ((run.step (.send command)).step (.feed reply.packet.bytes)).finished := by
  have waits : ⟨command.id, run.issued⟩ ∈ (run.issue command).state.pending := by
    rw [issue_written reading writable]
    exact List.mem_append_right _ List.mem_cons_self
  rw [send_feed_eq orderly free between reading complete,
    takeIn_reply (orderly.toAccounted.issue command)]
  apply List.mem_append_right
  exact List.mem_map.mpr ⟨_, List.mem_filter.mpr ⟨waits, by simp [own]⟩, rfl⟩

theorem feed_send_waits (orderly : run.state.Orderly) (free : run.state.holdsBack = false)
    (between : run.state.Between) (reading : run.state.reading = true)
    (writable : run.state.writable = true) (complete : reply.packet.Complete) :
    ⟨command.id, run.issued⟩
      ∈ ((run.step (.feed reply.packet.bytes)).step (.send command)).state.pending := by
  obtain ⟨-, reads, writes⟩ := takeIn_frame run reply.packet
  have still : (run.takeIn reply.packet).state.holdsBack = false := by
    rw [takeIn_reply orderly.toAccounted]
    exact free
  rw [step_feed_complete reading (orderly.idle free).2 free (between free) complete,
    step_send_of_free still, issue_written (reads.trans reading) (writes.trans writable)]
  exact List.mem_append_right _ List.mem_cons_self

end Run

/-! ## The law -/

/-- Between two packets, a command and a complete packet that is not its reply can come in
either order, unless the packet overflows; and if it does, the order makes a difference.
Replies with different ids finish the same commands with the same results in any order, and
as long as nothing holds back, each finishes the one that waits for it.  So it makes no
difference in which order the commands and the packets are taken that are ready together, as
long as none of the packets is a reply to one of the commands and there is room for all of
them.  A reply that comes before its command does make a difference: it is lost on the
command, which keeps waiting. -/
theorem ready_together_in_any_order {past : List Step}
    (between : (Run.of past).state.Between) (future : List Step) :
    (forall (command : CommandPacket) (packet : Packet), packet.Complete ->
        ¬ (packet.isReply = true ∧ packet.id = command.id) ->
        ((Run.of (past ++ [Step.send command, Step.feed packet.bytes])).Agrees
            (Run.of (past ++ [Step.feed packet.bytes, Step.send command]))
          ↔ ¬ (Run.of past).state.Overflows packet)
        ∧ (¬ (Run.of past).state.Overflows packet ->
          (Run.of (past ++ [Step.send command, Step.feed packet.bytes] ++ future)).Agrees
            (Run.of (past ++ [Step.feed packet.bytes, Step.send command] ++ future))))
      ∧ (forall packets others : List Packet, packets.Perm others ->
        (forall packet, packet ∈ packets -> packet.Complete ∧ packet.isReply = true) ->
        (packets.map Packet.id).Nodup ->
        (Run.of (past ++ feeds packets)).finished.Perm
            (Run.of (past ++ feeds others)).finished
          ∧ ((Run.of past).state.queued.length ≤ eventRoom ->
            (Run.of (past ++ feeds packets ++ future)).Agrees
                (Run.of (past ++ feeds others ++ future))
              ∧ forall (waiting : Pending) (reply : Reply),
                waiting ∈ (Run.of past).state.pending -> reply.packet ∈ packets ->
                reply.id = waiting.id ->
                ⟨waiting.ticket, .ok reply⟩ ∈ (Run.of (past ++ feeds packets)).finished))
      ∧ (forall (commands : List CommandPacket) (packets : List Packet) (one other : List Step),
        Interleaved commands packets one -> Interleaved commands packets other ->
        (forall packet, packet ∈ packets -> packet.Complete) ->
        (forall command packet, command ∈ commands -> packet ∈ packets ->
          ¬ (packet.isReply = true ∧ packet.id = command.id)) ->
        (Run.of past).state.Even packets ->
        (Run.of (past ++ one ++ future)).Agrees (Run.of (past ++ other ++ future)))
      ∧ forall (command : CommandPacket) (reply : Reply), reply.packet.Complete ->
        reply.id = command.id -> (Run.of past).state.queued.length ≤ eventRoom ->
        (Run.of past).state.reading = true -> (Run.of past).state.writable = true ->
        ⟨(Run.of past).issued, .ok reply⟩
            ∈ (Run.of (past ++ [Step.send command, Step.feed reply.packet.bytes])).finished
          ∧ ⟨command.id, (Run.of past).issued⟩
            ∈ (Run.of (past
              ++ [Step.feed reply.packet.bytes, Step.send command])).state.pending := by
  have orderly := Orderly.of past
  refine ⟨?neighbours, ?replies, ?interleaved, ?premature⟩
  case neighbours =>
    intro command packet complete unrelated
    simp only [Run.of_append]
    exact ⟨Run.send_feed_agrees_iff orderly between complete unrelated, fun fits =>
      (Run.send_feed_agrees orderly between complete unrelated fits).through future⟩
  case replies =>
    intro packets others reordered replies different
    simp only [Run.of_append]
    cases holds : (Run.of past).state.holdsBack with
    | true =>
        obtain ⟨_, one⟩ := Run.through_feeds_kept orderly holds packets
        obtain ⟨_, other⟩ := Run.through_feeds_kept orderly holds others
        rw [one, other]
        refine ⟨List.Perm.refl _, fun short => ?_⟩
        exact absurd short (Nat.not_le_of_lt (holdsBack_eq_true_iff.mp holds))
    | false =>
        have agrees := Run.through_feeds_perm orderly holds between reordered replies different
        exact ⟨agrees.finished, fun _ => ⟨agrees.through future, fun _ _ waits =>
          Run.answered_through_feeds orderly holds between replies different waits⟩⟩
  case interleaved =>
    intro commands packets one other first second complete unrelated even
    rw [Run.of_append, Run.of_append, Run.of_append, Run.of_append]
    have oneWay := Run.through_interleaved_agrees first orderly between complete unrelated even
    have otherWay := Run.through_interleaved_agrees second orderly between complete unrelated even
    exact (oneWay.trans otherWay.symm).through future
  case premature =>
    intro command reply complete own short reading writable
    have free := holdsBack_eq_false_iff.mpr short
    rw [Run.of_append, Run.of_append]
    exact ⟨Run.send_feed_answered orderly free between reading writable complete own,
      Run.feed_send_waits orderly free between reading writable complete⟩

/-- Two commands that wait. -/
def questions : List Step := sends [⟨7, ⟨1, 1, []⟩⟩, ⟨8, ⟨1, 2, []⟩⟩]

/-- A third command. -/
def question : CommandPacket := ⟨9, ⟨1, 3, []⟩⟩

def answer (id : UInt32) : Reply := ⟨id, 0, [42]⟩

theorem answer_complete (id : UInt32) : (answer id).packet.Complete :=
  Reply.packet_complete (Nat.le_of_ble_eq_true rfl)

/-- Two commands wait, and a third changes places with an answer. -/
theorem questions_answered_in_any_order : (Run.of questions).state.Between
    ∧ (Run.of (questions ++ [Step.send question, Step.feed (answer 7).packet.bytes]
        ++ [Step.closeFeed])).Agrees
      (Run.of (questions ++ [Step.feed (answer 7).packet.bytes, Step.send question]
        ++ [Step.closeFeed]))
    ∧ (Run.of (questions ++ feeds [(answer 7).packet, (answer 8).packet]
        ++ [Step.closeFeed])).Agrees
      (Run.of (questions ++ feeds [(answer 8).packet, (answer 7).packet]
        ++ [Step.closeFeed]))
    ∧ ⟨2, .ok (answer 9)⟩ ∈ (Run.of (questions
        ++ [Step.send question, Step.feed (answer 9).packet.bytes])).finished
    ∧ ⟨9, 2⟩ ∈ (Run.of (questions
        ++ [Step.feed (answer 9).packet.bytes, Step.send question])).state.pending := by
  have between : (Run.of questions).state.Between := fun _ => rfl
  have short : (Run.of questions).state.queued.length ≤ eventRoom := Nat.zero_le _
  have replies : forall packet, packet ∈ [(answer 7).packet, (answer 8).packet] ->
      packet.Complete ∧ packet.isReply = true := by
    intro packet member
    rcases List.mem_pair.mp member with rfl | rfl
    · exact ⟨answer_complete 7, Reply.packet_isReply _⟩
    · exact ⟨answer_complete 8, Reply.packet_isReply _⟩
  obtain ⟨neighbours, reordered, -, premature⟩ :=
    ready_together_in_any_order between [Step.closeFeed]
  refine ⟨between, ?_, ?_, ?_, ?_⟩
  · refine (neighbours question _ (answer_complete 7) (by decide)).2 ?_
    rintro ⟨-, impossible, -⟩
    cases impossible
  · exact ((reordered _ _ (List.Perm.swap _ _ _) replies (by decide)).2 short).1
  · exact (premature question _ (answer_complete 9) rfl short rfl rfl).1
  · exact (premature question _ (answer_complete 9) rfl short rfl rfl).2

/-! ## A full queue -/

def obituary : Packet := eventPacket died.bytes

theorem obituary_complete : obituary.Complete := ⟨by decide, by decide, by decide⟩

theorem obituary_brings : eventSet? obituary = some died := by decide +kernel

/-- As many event sets as there is room for. -/
def obituaries : List Packet := List.replicate eventRoom obituary

theorem obituaries_sets : obituaries.filterMap eventSet? = List.replicate eventRoom died := by
  rw [obituaries, List.filterMap_replicate_of_some obituary_brings]

/-- All of them wait, and nothing else has happened. -/
theorem of_obituaries : Run.of (feeds obituaries)
    = { state := { queued := List.replicate eventRoom died } } := by
  have complete : forall packet, packet ∈ obituaries -> packet.Complete := by
    intro packet member
    rw [List.eq_of_mem_replicate member]
    exact obituary_complete
  have plain : forall packet, packet ∈ obituaries -> packet.isReply = false := by
    intro packet member
    rw [List.eq_of_mem_replicate member]
    decide
  have room : ({} : Multiplexer).HasRoom obituaries := by
    rw [HasRoom, obituaries_sets, List.length_replicate]
    exact Nat.le_of_eq (Nat.zero_add _)
  have fed : ({} : Run).through (feeds obituaries) = obituaries.foldl Run.takeIn {} :=
    Run.through_feeds rfl rfl rfl complete room
  rw [Run.of, fed, Run.foldl_takeIn_plain plain, obituaries_sets]
  rfl

/-- One more event set and a command are ready together.  If the command comes first, it is
written, and if the event set does, it is not. -/
theorem full_queue_tells_the_order : (Run.of (feeds obituaries)).state.Between
    ∧ obituary.Complete ∧ obituary.isReply = false
    ∧ (Run.of (feeds obituaries ++ [Step.send question, Step.feed obituary.bytes])).written
      = [question]
    ∧ (Run.of (feeds obituaries ++ [Step.feed obituary.bytes, Step.send question])).written
      = [] := by
  have orderly := Orderly.of (feeds obituaries)
  have plain : obituary.isReply = false := by decide
  rw [Run.of_append, Run.of_append]
  rw [of_obituaries] at orderly ⊢
  have between : ({ queued := List.replicate eventRoom died } : Multiplexer).Between :=
    fun _ => rfl
  have overflows : ({ queued := List.replicate eventRoom died } : Multiplexer).Overflows obituary :=
    ⟨rfl, List.length_replicate, Option.isSome_of_mem obituary_brings⟩
  refine ⟨between, obituary_complete, plain, ?sentFirst, ?fedFirst⟩
  case sentFirst =>
    refine (congrArg Run.written (Run.send_feed_eq orderly ?_ between rfl obituary_complete
      question)).trans ?_
    · exact holdsBack_eq_false_iff.mpr (Nat.le_of_eq overflows.2.1)
    · rw [Run.takeIn_of_not_isReply plain, Run.issue_written rfl rfl]
      rfl
  case fedFirst =>
    refine (congrArg Run.written (Run.feed_send_of_overflows orderly between obituary_complete
      overflows question)).trans ?_
    rw [Run.takeIn_of_not_isReply plain]

end Multiplexer
end Connection
end LineDebugger
