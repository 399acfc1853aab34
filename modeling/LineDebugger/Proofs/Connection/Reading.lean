import LineDebugger.Connection.Multiplexer
import LineDebugger.Proofs.Wire.Packet

namespace LineDebugger
namespace Connection
namespace Multiplexer

open Wire

/-!
# Reading packets while there is room

The multiplexer reads one packet after the other, and each can be the one that holds back the
rest.  `read_induction` follows it: either something holds back, or the front of the stream is
no packet, or a packet is taken in and the reading goes on behind it.

What the reading comes to in the end is told without regard to where it was held back.  The
event sets that will come out are those in the queue and those in the unread bytes, in this
order (`prospects`), and whether the stream comes to an end behind them is settled as soon as
its bytes are (`Doomed`).  Reading changes neither.
-/

/-! ## One packet -/

/-- The event set that a packet brings, if it is no reply and can be read. -/
def eventSet? (packet : Packet) : Option EventSet :=
  if packet.isReply then none else (EventSet.ofBytes packet.body).toOption

theorem accept_of_not_isReply {packet : Packet} (plain : packet.isReply = false)
    (state : Multiplexer) :
    state.accept packet
      = { next := { state with queued := state.queued ++ (eventSet? packet).toList } } := by
  rw [accept, plain, acceptEvents, eventSet?, plain]
  cases EventSet.ofBytes packet.body with
  | ok set => rfl
  | error cause =>
      change ({ next := state } : Effect)
        = { next := { state with queued := state.queued ++ [] } }
      rw [List.append_nil]

/-- All that a packet does is to take commands off the pending ones, and to bring its event set to
the end of the queue. -/
theorem accept_shape (state : Multiplexer) (packet : Packet) : exists pending finished,
    state.accept packet = {
        next := { state with
          pending := pending
          queued := state.queued ++ (eventSet? packet).toList }
        finished := finished }
      ∧ pending.Sublist state.pending := by
  cases flagged : packet.isReply with
  | false =>
      exact ⟨state.pending, [], accept_of_not_isReply flagged state, List.Sublist.refl _⟩
  | true =>
      rw [accept, if_pos flagged, acceptReply, eventSet?, if_pos flagged, Option.toList_none,
        List.append_nil]
      cases state.pending.find? fun waiting => waiting.id == packet.id with
      | none => exact ⟨_, _, rfl, List.Sublist.refl _⟩
      | some waiting => exact ⟨_, _, rfl, List.filter_sublist⟩

theorem accept_frame (state : Multiplexer) (packet : Packet) :
    (state.accept packet).next.unread = state.unread
      ∧ (state.accept packet).next.reading = state.reading
      ∧ (state.accept packet).next.writable = state.writable
      ∧ (state.accept packet).written = [] := by
  obtain ⟨_, _, shape, -⟩ := accept_shape state packet
  rw [shape]
  exact ⟨rfl, rfl, rfl, rfl⟩

theorem accept_held (state : Multiplexer) (packet : Packet) :
    (state.accept packet).next.held = state.held
      ∧ (state.accept packet).next.closing = state.closing := by
  obtain ⟨_, _, shape, -⟩ := accept_shape state packet
  rw [shape]
  exact ⟨rfl, rfl⟩

theorem accept_queued (state : Multiplexer) (packet : Packet) :
    (state.accept packet).next.queued = state.queued ++ (eventSet? packet).toList := by
  obtain ⟨_, _, shape, -⟩ := accept_shape state packet
  rw [shape]

theorem accept_pending_sublist (state : Multiplexer) (packet : Packet) :
    (state.accept packet).next.pending.Sublist state.pending := by
  obtain ⟨_, _, shape, fewer⟩ := accept_shape state packet
  rw [shape]
  exact fewer

/-- A packet has no regard for what is left over. -/
theorem accept_unread (state : Multiplexer) (packet : Packet) (bytes : List UInt8) :
    ({ state with unread := bytes } : Multiplexer).accept packet
      = { state.accept packet with
          next := { (state.accept packet).next with unread := bytes } } := by
  rw [accept, accept]
  cases packet.isReply with
  | true =>
      rw [if_pos rfl, if_pos rfl, acceptReply, acceptReply]
      cases state.pending.find? fun waiting => waiting.id == packet.id <;> rfl
  | false =>
      rw [if_neg Bool.false_ne_true, if_neg Bool.false_ne_true, acceptEvents, acceptEvents]
      cases EventSet.ofBytes packet.body <;> rfl

/-! ## One packet after the other -/

section Reading

variable {state : Multiplexer} {stream rest : List UInt8} {packet : Packet}

theorem read_of_holdsBack (holds : state.holdsBack = true) (stream : List UInt8) :
    state.read stream = { next := { state with unread := stream } } := by
  rw [read, if_pos holds]

theorem read_of_packet (free : state.holdsBack = false)
    (found : Packet.front stream = .packet packet rest) :
    state.read stream = (state.accept packet).andThen fun next => next.read rest := by
  rw [read, free, if_neg Bool.false_ne_true]
  split <;> simp_all

theorem read_of_incomplete (free : state.holdsBack = false) (goesOn : state.closing = false)
    (found : Packet.front stream = .incomplete) :
    state.read stream = { next := { state with unread := stream } } := by
  rw [read, free, if_neg Bool.false_ne_true]
  split <;> simp_all

theorem read_of_closing (free : state.holdsBack = false) (closing : state.closing = true)
    (found : Packet.front stream = .incomplete) : state.read stream = state.stop := by
  rw [read, free, if_neg Bool.false_ne_true]
  split <;> simp_all

theorem read_of_illegal (free : state.holdsBack = false)
    (found : Packet.front stream = .illegal) : state.read stream = state.stop := by
  rw [read, free, if_neg Bool.false_ne_true]
  split <;> simp_all

theorem split_at_end (none : forall packet rest, Packet.front stream ≠ .packet packet rest) :
    (Packet.split stream).packets = [] := by
  cases found : Packet.front stream with
  | incomplete => rw [Packet.split_of_incomplete found]
  | illegal => rw [Packet.split_of_illegal found]
  | packet packet rest => exact absurd found (none packet rest)

/-- Where nothing holds back and no packet is at the front, the reading leaves off there, or it
stops for good. -/
theorem read_at_end (free : state.holdsBack = false)
    (none : forall packet rest, Packet.front stream ≠ .packet packet rest) :
    (Packet.front stream = .incomplete ∧ state.closing = false
        ∧ state.read stream = { next := { state with unread := stream } })
      ∨ (Packet.front stream = .illegal ∨ state.closing = true)
        ∧ state.read stream = state.stop := by
  cases found : Packet.front stream with
  | incomplete =>
      by_cases closing : state.closing = true
      · exact .inr ⟨.inr closing, read_of_closing free closing found⟩
      · have goesOn := Bool.eq_false_iff.mpr closing
        exact .inl ⟨rfl, goesOn, read_of_incomplete free goesOn found⟩
  | illegal => exact .inr ⟨.inl rfl, read_of_illegal free found⟩
  | packet packet rest => exact absurd found (none packet rest)

/-- What holds where something holds back or no packet is at the front, and of every reading that
begins with a packet if it holds of the rest, holds of all readings. -/
theorem read_induction {motive : Multiplexer -> List UInt8 -> Prop}
    (held : forall state stream, state.holdsBack = true -> motive state stream)
    (atEnd : forall state stream, state.holdsBack = false ->
      (forall packet rest, Packet.front stream ≠ .packet packet rest) -> motive state stream)
    (onward : forall state stream packet rest, state.holdsBack = false ->
      Packet.front stream = .packet packet rest -> motive (state.accept packet).next rest ->
        motive state stream)
    (state : Multiplexer) (stream : List UInt8) : motive state stream := by
  cases holds : state.holdsBack with
  | true => exact held state stream holds
  | false =>
      cases found : Packet.front stream with
      | packet packet rest =>
          exact onward state stream packet rest holds found
            (read_induction held atEnd onward (state.accept packet).next rest)
      | incomplete => exact atEnd state stream holds (by simp [found])
      | illegal => exact atEnd state stream holds (by simp [found])
termination_by stream.length
decreasing_by exact Packet.length_lt_of_front found

end Reading

theorem stop_withUnread (state : Multiplexer) (bytes : List UInt8) :
    ({ state with unread := bytes } : Multiplexer).stop = state.stop :=
  rfl

/-- What was left over before is not looked at. -/
theorem read_withUnread (state : Multiplexer) (stream bytes : List UInt8) :
    ({ state with unread := bytes } : Multiplexer).read stream = state.read stream := by
  induction state, stream using read_induction with
  | held state stream holds =>
      have alsoHolds : ({ state with unread := bytes } : Multiplexer).holdsBack = true := holds
      rw [read_of_holdsBack holds, read_of_holdsBack alsoHolds]
  | atEnd state stream free none =>
      have alsoFree : ({ state with unread := bytes } : Multiplexer).holdsBack = false := free
      rcases read_at_end free none with ⟨found, goesOn, same⟩ | ⟨found | closing, same⟩
      · rw [same, read_of_incomplete alsoFree goesOn found]
      · rw [same, read_of_illegal alsoFree found, stop_withUnread]
      · rcases read_at_end alsoFree none with ⟨-, goesOn, -⟩ | ⟨-, alsoSame⟩
        · exact absurd (goesOn.symm.trans closing) Bool.false_ne_true
        · rw [same, alsoSame, stop_withUnread]
  | onward state stream packet rest free found ih =>
      have alsoFree : ({ state with unread := bytes } : Multiplexer).holdsBack = false := free
      rw [read_of_packet free found, read_of_packet alsoFree found, accept_unread]
      simp only [Effect.andThen, ih]

/-- Reading writes nothing, and makes no command wait. -/
theorem read_frame (state : Multiplexer) (stream : List UInt8) :
    (state.read stream).written = []
      ∧ (state.read stream).next.writable = state.writable
      ∧ (state.read stream).next.held = state.held
      ∧ (state.read stream).next.pending.Sublist state.pending := by
  induction state, stream using read_induction with
  | held state stream holds =>
      rw [read_of_holdsBack holds]
      exact ⟨rfl, rfl, rfl, List.Sublist.refl _⟩
  | atEnd state stream free none =>
      rcases read_at_end free none with ⟨-, -, same⟩ | ⟨-, same⟩ <;> rw [same]
      · exact ⟨rfl, rfl, rfl, List.Sublist.refl _⟩
      · exact ⟨rfl, rfl, rfl, List.nil_sublist _⟩
  | onward state stream packet rest free found ih =>
      obtain ⟨-, -, writable, unwritten⟩ := accept_frame state packet
      obtain ⟨laterUnwritten, laterWritable, held, fewer⟩ := ih
      rw [read_of_packet free found]
      refine ⟨?_, laterWritable.trans writable, held.trans (accept_held state packet).1,
        fewer.trans (accept_pending_sublist state packet)⟩
      simp only [Effect.andThen, unwritten, laterUnwritten, List.append_nil]

/-- The end of the stream waits for nothing but room. -/
theorem read_closing (state : Multiplexer) (stream : List UInt8)
    (free : (state.read stream).next.holdsBack = false) :
    (state.read stream).next.closing = false := by
  induction state, stream using read_induction with
  | held state stream holds =>
      rw [read_of_holdsBack holds] at free
      exact absurd (holds.symm.trans free) (by decide)
  | atEnd state stream begins none =>
      rcases read_at_end begins none with ⟨-, goesOn, same⟩ | ⟨-, same⟩ <;> rw [same]
      · exact goesOn
      · rfl
  | onward state stream packet rest begins found ih =>
      rw [read_of_packet begins found] at free ⊢
      exact ih free

/-! ## Room -/

theorem holdsBack_eq_false_iff {state : Multiplexer} :
    state.holdsBack = false ↔ state.queued.length ≤ eventRoom := by
  rw [holdsBack, decide_eq_false_iff_not, Nat.not_lt]

theorem holdsBack_eq_true_iff {state : Multiplexer} :
    state.holdsBack = true ↔ eventRoom < state.queued.length := by
  rw [holdsBack, decide_eq_true_iff]

/-- There is room for the event sets in these packets. -/
def HasRoom (state : Multiplexer) (packets : List Packet) : Prop :=
  state.queued.length + (packets.filterMap eventSet?).length ≤ eventRoom

namespace HasRoom

variable {state : Multiplexer} {packet : Packet} {packets : List Packet}

theorem free (room : state.HasRoom packets) : state.holdsBack = false :=
  holdsBack_eq_false_iff.mpr (Nat.le_of_add_right_le room)

theorem nil_iff : state.HasRoom [] ↔ state.holdsBack = false :=
  holdsBack_eq_false_iff.symm

theorem cons_iff : state.HasRoom (packet :: packets)
    ↔ (state.accept packet).next.HasRoom packets := by
  rw [HasRoom, HasRoom, accept_queued, List.filterMap_cons]
  cases eventSet? packet with
  | none => simp
  | some set =>
      simp only [Option.toList_some, List.length_append, List.length_cons, List.length_nil]
      omega

theorem of_sublist {others : List Packet} (fewer : packets.Sublist others)
    (room : state.HasRoom others) : state.HasRoom packets :=
  Nat.le_trans (Nat.add_le_add_left (fewer.filterMap eventSet?).length_le _) room

/-- Replies take no room. -/
theorem of_replies (free : state.holdsBack = false)
    (replies : forall packet, packet ∈ packets -> packet.isReply = true) :
    state.HasRoom packets := by
  have none : packets.filterMap eventSet? = [] := by
    apply List.filterMap_eq_nil_iff.mpr
    intro packet member
    rw [eventSet?, if_pos (replies packet member)]
  rw [HasRoom, none]
  exact holdsBack_eq_false_iff.mp free

end HasRoom

/-- If nothing holds back in the end, there was room for everything. -/
theorem hasRoom_of_read (state : Multiplexer) (stream : List UInt8)
    (free : (state.read stream).next.holdsBack = false) :
    state.HasRoom (Packet.split stream).packets := by
  induction state, stream using read_induction with
  | held state stream holds =>
      rw [read_of_holdsBack holds] at free
      exact absurd (holds.symm.trans free) (by decide)
  | atEnd state stream begins none =>
      rw [split_at_end none]
      exact HasRoom.nil_iff.mpr begins
  | onward state stream packet rest begins found ih =>
      rw [read_of_packet begins found] at free
      rw [Packet.split_of_packet found]
      exact HasRoom.cons_iff.mpr (ih free)

/-! ## Whole packets -/

/-- No packet has arrived in part, or what has arrived is held back as a whole. -/
def Between (state : Multiplexer) : Prop := state.holdsBack = false -> state.unread = []

/-- The stream is open, and nothing but whole packets is held back of it. -/
structure Whole (state : Multiplexer) : Prop where
  reading : state.reading = true
  goesOn : state.closing = false
  packets : (Packet.split state.unread).remainder = some []
  between : state.Between

theorem Whole.read {state : Multiplexer} {stream : List UInt8} (reading : state.reading = true)
    (goesOn : state.closing = false) (packets : (Packet.split stream).remainder = some []) :
    (state.read stream).next.Whole := by
  induction state, stream using read_induction with
  | held state stream holds =>
      rw [read_of_holdsBack holds]
      exact ⟨reading, goesOn, packets, fun free => absurd (holds.symm.trans free) (by decide)⟩
  | atEnd state stream free none =>
      rcases read_at_end free none with ⟨found, -, same⟩ | ⟨found | closing, -⟩
      · rw [same]
        refine ⟨reading, goesOn, packets, fun _ => ?_⟩
        rw [Packet.split_of_incomplete found] at packets
        exact Option.some.inj packets
      · rw [Packet.split_of_illegal found] at packets
        cases packets
      · exact absurd (goesOn.symm.trans closing) Bool.false_ne_true
  | onward state stream packet rest free found ih =>
      rw [Packet.split_of_packet found] at packets
      rw [read_of_packet free found]
      exact ih ((accept_frame state packet).2.1.trans reading)
        ((accept_held state packet).2.trans goesOn) packets

/-- Whole packets are added to whole packets. -/
theorem Whole.feed {state : Multiplexer} (whole : state.Whole) {bytes : List UInt8}
    (packets : (Packet.split bytes).remainder = some []) : (state.feed bytes).next.Whole := by
  rw [Multiplexer.feed, whole.reading, whole.goesOn, if_neg (by decide)]
  apply Whole.read whole.reading whole.goesOn
  rw [Packet.split_append_of_some whole.packets]
  exact packets

/-! ## What will come of it -/

/-- The event sets that will come out if nothing else comes in. -/
def prospects (state : Multiplexer) : List EventSet :=
  state.queued ++ (Packet.split state.unread).packets.filterMap eventSet?

/-- The reading has come to its end, or it will when everything is read that is there. -/
def Doomed (state : Multiplexer) : Prop :=
  state.reading = false ∨ state.closing = true ∨ (Packet.split state.unread).remainder = none

instance (state : Multiplexer) : Decidable state.Doomed :=
  inferInstanceAs (Decidable (_ ∨ _ ∨ _))

/-- Whatever is read and whatever is held back, the same event sets will come out, and the same
end. -/
theorem read_prospects {state : Multiplexer} (reading : state.reading = true)
    (stream : List UInt8) :
    (state.read stream).next.prospects = ({ state with unread := stream } : Multiplexer).prospects
      ∧ ((state.read stream).next.Doomed
        ↔ ({ state with unread := stream } : Multiplexer).Doomed) := by
  induction state, stream using read_induction with
  | held state stream holds =>
      rw [read_of_holdsBack holds]
      exact ⟨rfl, Iff.rfl⟩
  | atEnd state stream free none =>
      rcases read_at_end free none with ⟨-, -, same⟩ | ⟨ends, same⟩
      · rw [same]
        exact ⟨rfl, Iff.rfl⟩
      · rw [same]
        refine ⟨?_, fun _ => ?_, fun _ => .inl rfl⟩
        · simp only [prospects, stop, split_at_end none, Packet.split_nil]
        · rcases ends with found | closing
          · exact .inr (.inr (by rw [Packet.split_of_illegal found]))
          · exact .inr (.inl closing)
  | onward state stream packet rest free found ih =>
      obtain ⟨-, alsoReading, -⟩ := accept_frame state packet
      obtain ⟨sets, ends⟩ := ih (alsoReading.trans reading)
      rw [read_of_packet free found]
      refine ⟨sets.trans ?_, ends.trans ?_⟩
      · simp only [prospects, accept_queued, Packet.split_of_packet found, List.filterMap_cons,
          List.append_assoc]
        cases eventSet? packet <;> rfl
      · simp only [Doomed, alsoReading, (accept_held state packet).2,
          Packet.split_of_packet found]

/-- What the bytes bring comes after what was to come. -/
theorem Whole.feed_prospects {state : Multiplexer} (whole : state.Whole) (bytes : List UInt8) :
    (state.feed bytes).next.prospects
      = state.prospects ++ (Packet.split bytes).packets.filterMap eventSet? := by
  rw [Multiplexer.feed, whole.reading, whole.goesOn, if_neg (by decide),
    (read_prospects whole.reading _).1]
  simp only [prospects, Packet.split_append_of_some whole.packets, List.nil_append,
    List.filterMap_append, List.append_assoc]

end Multiplexer
end Connection
end LineDebugger
