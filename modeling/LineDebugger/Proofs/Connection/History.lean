import LineDebugger.Proofs.Connection.Run

namespace LineDebugger
namespace Connection
namespace Multiplexer

open Wire

/-!
# What has happened in a run

A step of a run says what was done to the multiplexer: some bytes were fed, a stream was
closed.  It does not say what happened by it.  The history of a run does: which packets have
arrived, when the reading came to its end, which commands were issued, and so on, one after
the other.

The history is read off the steps alone.  A packet has arrived when the stream up to now, cut
as a whole, contains it.  So the history is not concerned with how bytes are kept from one
step to the next, and `of_eq_told` is the proof that the multiplexer keeps them well:
an admitted run comes to what it would come to if its history just happened to it.
-/

/-! ## The stream -/

/-- The bytes that come in: those that are fed before the stream is closed. -/
def stream : List Step -> List UInt8
  | [] => []
  | .feed bytes :: later => bytes ++ stream later
  | .closeFeed :: _ => []
  | _ :: later => stream later

/-- The packets that have arrived, in the order of arrival. -/
def arrived (steps : List Step) : List Packet := (Packet.split (stream steps)).packets

/-- The reading has come to its end: the stream was closed, or a length was out of bounds. -/
def Ended (steps : List Step) : Prop :=
  Step.closeFeed ∈ steps ∨ (Packet.split (stream steps)).remainder = none

instance (steps : List Step) : Decidable (Ended steps) :=
  inferInstanceAs (Decidable (_ ∨ _))

/-- No packet has arrived only in part, or none that anyone still reads. -/
def BetweenPackets (steps : List Step) : Prop :=
  Ended steps ∨ (Packet.split (stream steps)).remainder = some []

/-- Whether a step sends a command. -/
def Step.isSend : Step -> Bool
  | .send _ => true
  | _ => false

/-- A step that may follow these: it sends a command between packets only, and there is room
for the event sets that it brings. -/
def Admissible (past : List Step) (step : Step) : Prop :=
  (step.isSend = true -> BetweenPackets past)
    ∧ (Run.of (past ++ [step])).state.queued.length ≤ eventRoom

instance (steps : List Step) : Decidable (BetweenPackets steps) :=
  inferInstanceAs (Decidable (_ ∨ _))

instance (past : List Step) (step : Step) : Decidable (Admissible past step) :=
  inferInstanceAs (Decidable (_ ∧ _))

/-- Each of these steps may follow those that have come before it. -/
def AdmittedAfter (past : List Step) : List Step -> Prop
  | [] => True
  | step :: later => Admissible past step ∧ AdmittedAfter (past ++ [step]) later

instance decidableAdmittedAfter (past : List Step) :
    (steps : List Step) -> Decidable (AdmittedAfter past steps)
  | [] => isTrue trivial
  | step :: later =>
      have := decidableAdmittedAfter (past ++ [step]) later
      inferInstanceAs (Decidable (_ ∧ _))

/-- The runs that are spoken of here. -/
def Admitted (steps : List Step) : Prop := AdmittedAfter [] steps

instance (steps : List Step) : Decidable (Admitted steps) :=
  inferInstanceAs (Decidable (AdmittedAfter [] steps))

theorem admittedAfter_append (past steps later : List Step) :
    AdmittedAfter past (steps ++ later)
      ↔ AdmittedAfter past steps ∧ AdmittedAfter (past ++ steps) later := by
  induction steps generalizing past with
  | nil => simp [AdmittedAfter]
  | cons step steps ih => simp [AdmittedAfter, ih, and_assoc]

theorem admitted_snoc (steps : List Step) (step : Step) :
    Admitted (steps ++ [step]) ↔ Admitted steps ∧ Admissible steps step := by
  rw [Admitted, admittedAfter_append]
  simp [Admitted, AdmittedAfter]

/-- In such a run there is always room. -/
theorem Admitted.short {steps : List Step} (admitted : Admitted steps) :
    (Run.of steps).state.queued.length ≤ eventRoom := by
  rcases List.eq_nil_or_concat steps with rfl | ⟨past, step, rfl⟩
  · exact Nat.zero_le _
  · rw [List.concat_eq_append] at admitted ⊢
    exact ((admitted_snoc past step).mp admitted).2.2

/-! ## The history -/

/-- Something that happens in a run. -/
inductive Occurrence where
  | arrived (packet : Packet)
  | ended
  | issued (packet : CommandPacket)
  | asked
  | sinkClosed
  deriving DecidableEq

/-- The reading comes to its end at most once. -/
def ending (past : List Step) (step : Step) : List Occurrence :=
  if Ended (past ++ [step]) ∧ ¬ Ended past then [.ended] else []

/-- What happens by a step. -/
def news (past : List Step) : Step -> List Occurrence
  | .feed bytes =>
      ((arrived (past ++ [.feed bytes])).drop (arrived past).length).map .arrived
        ++ ending past (.feed bytes)
  | .send packet => [.issued packet]
  | .receive => [.asked]
  | .closeFeed => ending past .closeFeed
  | .closeSink => [.sinkClosed]

/-- What happens by these steps if others have come before them. -/
def historyAfter (past : List Step) : List Step -> List Occurrence
  | [] => []
  | step :: later => news past step ++ historyAfter (past ++ [step]) later

/-- What happens in a run. -/
def history (steps : List Step) : List Occurrence := historyAfter [] steps

theorem historyAfter_append (past steps later : List Step) :
    historyAfter past (steps ++ later)
      = historyAfter past steps ++ historyAfter (past ++ steps) later := by
  induction steps generalizing past with
  | nil => simp only [List.nil_append, historyAfter, List.append_nil]
  | cons step steps ih =>
      simp only [List.cons_append, historyAfter, ih, List.append_assoc, List.nil_append]

theorem history_snoc (steps : List Step) (step : Step) :
    history (steps ++ [step]) = history steps ++ news steps step := by
  rw [history, historyAfter_append, List.nil_append]
  simp only [historyAfter, List.append_nil, history]

/-! ## How the stream grows -/

section Growth

variable {steps : List Step}

theorem stream_append (steps later : List Step) :
    stream (steps ++ later)
      = if Step.closeFeed ∈ steps then stream steps else stream steps ++ stream later := by
  induction steps with
  | nil => rfl
  | cons step steps ih =>
      cases step with
      | closeFeed => simp [stream]
      | feed bytes =>
          simp only [List.cons_append, stream, ih, List.mem_cons, reduceCtorEq, false_or,
            List.append_assoc]
          split <;> rfl
      | _ => simp [stream, ih]

theorem stream_snoc (steps : List Step) {step : Step} (silent : stream [step] = []) :
    stream (steps ++ [step]) = stream steps := by
  rw [stream_append, silent, List.append_nil, ite_self]

theorem stream_feed (running : ¬ Ended steps) (bytes : List UInt8) :
    stream (steps ++ [.feed bytes]) = stream steps ++ bytes := by
  rw [stream_append, if_neg fun closed => running (.inl closed), stream, stream, List.append_nil]

theorem not_ended_nil : ¬ Ended [] := by
  rintro (impossible | impossible)
  · cases impossible
  · rw [stream, Packet.split_nil] at impossible
    cases impossible

/-- A step that feeds nothing and closes nothing does not end the reading. -/
theorem ended_snoc {step : Step} (silent : stream [step] = []) (other : step ≠ .closeFeed) :
    Ended (steps ++ [step]) ↔ Ended steps := by
  rw [Ended, Ended, stream_snoc steps silent, List.mem_append, List.mem_singleton]
  constructor
  · rintro ((closed | impossible) | stuck)
    · exact .inl closed
    · exact absurd impossible.symm other
    · exact .inr stuck
  · rintro (closed | stuck)
    · exact .inl (.inl closed)
    · exact .inr stuck

/-- After the end the stream may well grow, but nothing arrives any more. -/
theorem Ended.split_feed (ended : Ended steps) (bytes : List UInt8) :
    Packet.split (stream (steps ++ [.feed bytes])) = Packet.split (stream steps) := by
  rw [stream_append]
  rcases ended with closed | stuck
  · rw [if_pos closed]
  · split
    · rfl
    · exact Packet.split_append_of_none stuck _

theorem Ended.snoc (ended : Ended steps) (step : Step) : Ended (steps ++ [step]) := by
  rcases ended with closed | stuck
  · exact .inl (List.mem_append_left _ closed)
  · cases step with
    | feed bytes => exact .inr (by rw [(Ended.split_feed (.inr stuck)), stuck])
    | closeFeed => exact .inl (List.mem_append_right _ List.mem_cons_self)
    | _ => exact .inr (by rwa [stream_snoc steps rfl])

theorem exists_leftOver (running : ¬ Ended steps) :
    exists rest, (Packet.split (stream steps)).remainder = some rest :=
  Option.ne_none_iff_exists'.mp fun stuck => running (.inr stuck)

theorem split_feed (running : ¬ Ended steps) {rest : List UInt8}
    (leftOver : (Packet.split (stream steps)).remainder = some rest) (bytes : List UInt8) :
    Packet.split (stream (steps ++ [.feed bytes]))
      = ⟨arrived steps ++ (Packet.split (rest ++ bytes)).packets,
          (Packet.split (rest ++ bytes)).remainder⟩ := by
  rw [stream_feed running, Packet.split_append_of_some leftOver, arrived]

theorem arrived_feed (running : ¬ Ended steps) {rest : List UInt8}
    (leftOver : (Packet.split (stream steps)).remainder = some rest) (bytes : List UInt8) :
    arrived (steps ++ [.feed bytes]) = arrived steps ++ (Packet.split (rest ++ bytes)).packets :=
  congrArg Packet.Cut.packets (split_feed running leftOver bytes)

/-! ## What happens by a step -/

theorem ending_of_ended (ended : Ended steps) (step : Step) : ending steps step = [] :=
  if_neg fun both => both.2 ended

theorem news_feed_of_ended (ended : Ended steps) (bytes : List UInt8) :
    news steps (.feed bytes) = [] := by
  have arrivals : arrived (steps ++ [.feed bytes]) = arrived steps :=
    congrArg Packet.Cut.packets (ended.split_feed bytes)
  rw [news, arrivals, List.drop_length, ending_of_ended ended]
  rfl

theorem news_feed_some (running : ¬ Ended steps) {rest further bytes : List UInt8}
    (leftOver : (Packet.split (stream steps)).remainder = some rest)
    (last : (Packet.split (rest ++ bytes)).remainder = some further) :
    news steps (.feed bytes) = (Packet.split (rest ++ bytes)).packets.map .arrived
      ∧ ¬ Ended (steps ++ [.feed bytes]) := by
  have cut := split_feed running leftOver bytes
  have stillRunning : ¬ Ended (steps ++ [.feed bytes]) := by
    rintro (closed | stuck)
    · rcases List.mem_append.mp closed with closed | impossible
      · exact running (.inl closed)
      · cases List.mem_singleton.mp impossible
    · rw [cut, last] at stuck
      cases stuck
  refine ⟨?_, stillRunning⟩
  rw [news, arrived_feed running leftOver, List.drop_left, ending,
    if_neg fun both => stillRunning both.1, List.append_nil]

theorem news_feed_none (running : ¬ Ended steps) {rest bytes : List UInt8}
    (leftOver : (Packet.split (stream steps)).remainder = some rest)
    (stuck : (Packet.split (rest ++ bytes)).remainder = none) :
    news steps (.feed bytes) = (Packet.split (rest ++ bytes)).packets.map .arrived ++ [.ended]
      ∧ Ended (steps ++ [.feed bytes]) := by
  have cut := split_feed running leftOver bytes
  have nowEnded : Ended (steps ++ [.feed bytes]) := .inr (by rw [cut, stuck])
  refine ⟨?_, nowEnded⟩
  rw [news, arrived_feed running leftOver, List.drop_left, ending, if_pos ⟨nowEnded, running⟩]

theorem news_closeFeed (running : ¬ Ended steps) : news steps .closeFeed = [.ended] :=
  if_pos ⟨.inl (List.mem_append_right _ List.mem_cons_self), running⟩

/-- The end is in the history as soon as the reading has come to it. -/
theorem ended_mem_history (steps : List Step) : Occurrence.ended ∈ history steps ↔ Ended steps := by
  induction steps using List.reverseRecOn with
  | nil =>
      exact ⟨fun impossible => (List.not_mem_nil impossible).elim,
        fun impossible => (not_ended_nil impossible).elim⟩
  | append_singleton steps step ih =>
      rw [history_snoc, List.mem_append, ih]
      by_cases already : Ended steps
      · exact ⟨fun _ => already.snoc step, fun _ => .inl already⟩
      · simp only [already, false_or]
        cases step with
        | feed bytes =>
            obtain ⟨rest, leftOver⟩ := exists_leftOver already
            cases last : (Packet.split (rest ++ bytes)).remainder with
            | some further =>
                obtain ⟨told, stillRunning⟩ := news_feed_some already leftOver last
                simp [told, stillRunning]
            | none =>
                obtain ⟨told, nowEnded⟩ := news_feed_none already leftOver last
                simp [told, nowEnded]
        | closeFeed =>
            rw [news_closeFeed already]
            exact ⟨fun _ => .inl (List.mem_append_right _ List.mem_cons_self),
              fun _ => List.mem_cons_self⟩
        | _ =>
            rw [ended_snoc rfl (by simp)]
            simp [news, already]

/-- So is the moment from which nobody reads what is written. -/
theorem sinkClosed_mem_history (steps : List Step) :
    Occurrence.sinkClosed ∈ history steps ↔ Step.closeSink ∈ steps := by
  have silent (past : List Step) (step : Step) : Occurrence.sinkClosed ∉ ending past step := by
    rw [ending]
    split <;> simp
  induction steps using List.reverseRecOn with
  | nil => exact ⟨fun impossible => (List.not_mem_nil impossible).elim,
      fun impossible => (List.not_mem_nil impossible).elim⟩
  | append_singleton steps step ih =>
      simp only [history_snoc, List.mem_append, ih]
      cases step <;> simp [news, silent, -List.map_drop]

/-- The packets whose arrival a history tells of. -/
def arrivals (history : List Occurrence) : List Packet :=
  history.filterMap fun
    | .arrived packet => some packet
    | _ => none

theorem arrivals_append (history later : List Occurrence) :
    arrivals (history ++ later) = arrivals history ++ arrivals later :=
  List.filterMap_append

theorem arrivals_map_arrived (packets : List Packet) :
    arrivals (packets.map .arrived) = packets := by
  rw [arrivals, List.filterMap_map]
  exact List.filterMap_some

/-- The history tells of the arrival of every packet in the stream, and of no other. -/
theorem arrivals_history (steps : List Step) : arrivals (history steps) = arrived steps := by
  induction steps using List.reverseRecOn with
  | nil => rw [arrived, stream, Packet.split_nil]; rfl
  | append_singleton steps step ih =>
      rw [history_snoc, arrivals_append, ih]
      cases step with
      | feed bytes =>
          by_cases already : Ended steps
          · rw [news_feed_of_ended already, arrived, arrived, already.split_feed]
            exact List.append_nil _
          · obtain ⟨rest, leftOver⟩ := exists_leftOver already
            rw [arrived_feed already leftOver]
            cases last : (Packet.split (rest ++ bytes)).remainder with
            | some further =>
                rw [(news_feed_some already leftOver last).1, arrivals_map_arrived]
            | none =>
                rw [(news_feed_none already leftOver last).1, arrivals_append,
                  arrivals_map_arrived]
                exact congrArg _ (List.append_nil _)
      | closeFeed =>
          rw [arrived, arrived, stream_snoc steps rfl, news, ending]
          split <;> exact List.append_nil _
      | _ =>
          rw [arrived, arrived, stream_snoc steps rfl]
          exact List.append_nil _

theorem complete_of_arrived_mem {packet : Packet}
    (member : Occurrence.arrived packet ∈ history steps) : packet.Complete := by
  have present : packet ∈ arrivals (history steps) :=
    List.mem_filterMap.mpr ⟨.arrived packet, member, rfl⟩
  rw [arrivals_history] at present
  exact Packet.complete_of_mem_split present

end Growth

/-! ## A run and its history -/

namespace Run

/-- The run after one more occurrence.  What is told is not held back. -/
def undergo (run : Run) : Occurrence -> Run
  | .arrived packet => run.takeIn packet
  | .ended => run.conclude
  | .issued packet => run.issue packet
  | .asked => run.take
  | .sinkClosed => run.step .closeSink

/-- The run to which these occurrences happen. -/
def ofHistory (history : List Occurrence) : Run := history.foldl undergo {}

theorem ofHistory_append (history later : List Occurrence) :
    ofHistory (history ++ later) = later.foldl undergo (ofHistory history) :=
  List.foldl_append

theorem ofHistory_snoc (history : List Occurrence) (next : Occurrence) :
    ofHistory (history ++ [next]) = (ofHistory history).undergo next :=
  ofHistory_append history [next]

theorem foldl_undergo_arrived (run : Run) (packets : List Packet) :
    (packets.map Occurrence.arrived).foldl undergo run = packets.foldl takeIn run :=
  List.foldl_map

theorem ofHistory_accounted (history : List Occurrence) :
    (ofHistory history).state.Accounted := by
  induction history using List.reverseRecOn with
  | nil => exact Orderly.fresh.toAccounted
  | append_singleton history next ih =>
      rw [ofHistory_snoc]
      cases next with
      | arrived packet => exact ih.takeIn packet
      | ended => exact ih.conclude
      | issued packet => exact ih.issue packet
      | asked => exact ih.take
      | sinkClosed => exact ⟨ih.distinct, ih.settled⟩

/-- An occurrence makes no end wait. -/
theorem ofHistory_closing (history : List Occurrence) :
    (ofHistory history).state.closing = false := by
  induction history using List.reverseRecOn with
  | nil => rfl
  | append_singleton history next ih =>
      rw [ofHistory_snoc]
      cases next with
      | arrived packet => exact (takeIn_held _ packet).2.trans ih
      | ended => exact conclude_closing ih
      | issued packet => exact (issue_held _ packet).2.trans ih
      | asked => exact (take_held _).2.trans ih
      | sinkClosed => exact ih

/-- An occurrence leaves no bytes over, since packets arrive as a whole. -/
theorem ofHistory_unread (history : List Occurrence) : (ofHistory history).state.unread = [] := by
  induction history using List.reverseRecOn with
  | nil => rfl
  | append_singleton history next ih =>
      rw [ofHistory_snoc]
      cases next with
      | arrived packet => exact (takeIn_frame _ packet).1.trans ih
      | ended => exact conclude_unread ih
      | issued packet => exact issue_unread ih packet
      | asked => exact (take_frame _).1.trans ih
      | sinkClosed => exact ih

theorem ofHistory_reading (history : List Occurrence) :
    (ofHistory history).state.reading = true ↔ Occurrence.ended ∉ history := by
  induction history using List.reverseRecOn with
  | nil => exact ⟨fun _ => List.not_mem_nil, fun _ => rfl⟩
  | append_singleton history next ih =>
      rw [ofHistory_snoc, List.mem_append, List.mem_singleton, not_or, ← ih]
      cases next with
      | arrived packet => simp [undergo, (takeIn_frame _ packet).2.1]
      | ended => simp [undergo, (conclude_frame _).1]
      | issued packet => simp [undergo, (issue_frame _ packet).1]
      | asked => simp [undergo, (take_frame _).2.1]
      | sinkClosed => simp [undergo, step, closeSink, after]

theorem ofHistory_writable (history : List Occurrence) :
    (ofHistory history).state.writable = true ↔ Occurrence.sinkClosed ∉ history := by
  induction history using List.reverseRecOn with
  | nil => exact ⟨fun _ => List.not_mem_nil, fun _ => rfl⟩
  | append_singleton history next ih =>
      rw [ofHistory_snoc, List.mem_append, List.mem_singleton, not_or, ← ih]
      cases next with
      | arrived packet => simp [undergo, (takeIn_frame _ packet).2.2]
      | ended => simp [undergo, (conclude_frame _).2.1]
      | issued packet => simp [undergo, (issue_frame _ packet).2.1]
      | asked => simp [undergo, (take_frame _).2.2.1]
      | sinkClosed => simp [undergo, step, closeSink, after]

end Run

/-- The bytes that are kept for a packet that has arrived in part. -/
def keptBytes (steps : List Step) : List UInt8 :=
  if Ended steps then [] else (Packet.split (stream steps)).remainder.getD []

theorem keptBytes_of_ended {steps : List Step} (ended : Ended steps) : keptBytes steps = [] :=
  if_pos ended

theorem keptBytes_of_some {steps : List Step} (running : ¬ Ended steps) {rest : List UInt8}
    (leftOver : (Packet.split (stream steps)).remainder = some rest) :
    keptBytes steps = rest := by
  rw [keptBytes, if_neg running, leftOver, Option.getD_some]

theorem BetweenPackets.keptBytes {steps : List Step} (between : BetweenPackets steps) :
    keptBytes steps = [] := by
  by_cases ended : Ended steps
  · exact keptBytes_of_ended ended
  · exact keptBytes_of_some ended (between.resolve_left ended)

theorem keptBytes_snoc (steps : List Step) {step : Step} (silent : stream [step] = [])
    (other : step ≠ .closeFeed) : keptBytes (steps ++ [step]) = keptBytes steps := by
  rw [keptBytes, keptBytes, stream_snoc steps silent]
  simp only [ended_snoc silent other]

namespace Run

/-- The run as its history tells of it, with the bytes that are kept. -/
def told (steps : List Step) : Run := (ofHistory (history steps)).withUnread (keptBytes steps)

theorem told_reading (steps : List Step) : (told steps).state.reading = true ↔ ¬ Ended steps := by
  rw [← ended_mem_history]
  exact ofHistory_reading (history steps)

theorem told_stopped {steps : List Step} (ended : Ended steps) :
    (told steps).state.reading = false := by
  rw [← Bool.not_eq_true, told_reading]
  exact not_not_intro ended

/-- Where nothing is kept, there is only the history. -/
theorem told_of_keptBytes {steps : List Step} (nothing : keptBytes steps = []) :
    told steps = ofHistory (history steps) := by
  rw [told, nothing]
  exact withUnread_self (ofHistory_unread _)

theorem told_nil : told [] = {} := by
  have nothing : (Packet.split (stream [])).remainder = some [] :=
    congrArg Packet.Cut.remainder Packet.split_nil
  exact told_of_keptBytes (keptBytes_of_some not_ended_nil nothing)

variable {past : List Step}

/-- A step by which nothing happens and nothing more is kept is not told of. -/
theorem told_snoc_of_silent {step : Step} (silent : news past step = [])
    (kept : keptBytes (past ++ [step]) = keptBytes past) : told (past ++ [step]) = told past := by
  rw [told, told, history_snoc, silent, List.append_nil, kept]

theorem told_feed_of_ended (ended : Ended past) (bytes : List UInt8) :
    (told past).step (.feed bytes) = told (past ++ [.feed bytes]) := by
  rw [step_feed_of_not_reading (told_stopped ended)]
  refine (told_snoc_of_silent (news_feed_of_ended ended bytes) ?_).symm
  rw [keptBytes_of_ended ended, keptBytes_of_ended (ended.snoc _)]

theorem told_closing (past : List Step) : (told past).state.closing = false :=
  ofHistory_closing (history past)

theorem told_feed {bytes : List UInt8}
    (short : ((told past).step (.feed bytes)).state.queued.length ≤ eventRoom) :
    (told past).step (.feed bytes) = told (past ++ [.feed bytes]) := by
  by_cases ended : Ended past
  · exact told_feed_of_ended ended bytes
  · obtain ⟨rest, leftOver⟩ := exists_leftOver ended
    have reading := (told_reading past).mpr ended
    have goesOn := told_closing past
    have room := hasRoom_of_step reading goesOn short
    have kept : (told past).state.unread = rest := keptBytes_of_some ended leftOver
    -- The bytes kept go before the new ones, so both sides cut the same stream.
    have taken : (Packet.split (rest ++ bytes)).packets.foldl takeIn (told past)
        = (((Packet.split (rest ++ bytes)).packets.map .arrived).foldl undergo
            (ofHistory (history past))).withUnread (keptBytes past) := by
      rw [told, foldl_takeIn_withUnread, foldl_undergo_arrived]
    cases last : (Packet.split (rest ++ bytes)).remainder with
    | some further =>
        obtain ⟨happened, running⟩ := news_feed_some ended leftOver last
        have cut := congrArg Packet.Cut.remainder (split_feed ended leftOver bytes)
        rw [step_feed_some reading goesOn room (by rw [kept, last]), kept, taken, told,
          history_snoc, happened, ofHistory_append, keptBytes_of_some running (cut.trans last)]
        rfl
    | none =>
        obtain ⟨happened, nowEnded⟩ := news_feed_none ended leftOver last
        have still := (foldl_takeIn_frame (ofHistory (history past))
          (Packet.split (rest ++ bytes)).packets).2.trans reading
        rw [← foldl_undergo_arrived] at still
        rw [step_feed_none reading goesOn room (by rw [kept, last]), kept, taken,
          conclude_withUnread still, told_of_keptBytes (keptBytes_of_ended nowEnded),
          history_snoc, happened, ofHistory_append, List.foldl_append]
        rfl

theorem told_closeFeed (free : (told past).state.holdsBack = false) :
    (told past).step .closeFeed = told (past ++ [.closeFeed]) := by
  have closed : keptBytes (past ++ [.closeFeed]) = [] :=
    keptBytes_of_ended (.inl (List.mem_append_right _ List.mem_cons_self))
  rw [step_closeFeed_of_free free]
  by_cases ended : Ended past
  · have silent : news past .closeFeed = [] := ending_of_ended ended .closeFeed
    rw [conclude_of_not_reading (told_stopped ended), told_snoc_of_silent silent]
    rw [closed, keptBytes_of_ended ended]
  · have reading : (ofHistory (history past)).state.reading = true := (told_reading past).mpr ended
    rw [told_of_keptBytes closed, history_snoc, news_closeFeed ended, ofHistory_snoc, told,
      conclude_withUnread reading, undergo]

theorem told_send (free : (told past).state.holdsBack = false) (between : BetweenPackets past)
    (packet : CommandPacket) :
    (told past).step (.send packet) = told (past ++ [.send packet]) := by
  have nothing : keptBytes (past ++ [.send packet]) = [] := by
    rw [keptBytes_snoc past rfl (by simp), between.keptBytes]
  rw [step_send_of_free free, told_of_keptBytes between.keptBytes, told_of_keptBytes nothing,
    history_snoc, news, ofHistory_snoc, undergo]

theorem told_receive (free : (told past).state.holdsBack = false) :
    (told past).step .receive = told (past ++ [.receive]) := by
  rw [step_receive_of_free free, told, told, history_snoc, keptBytes_snoc past rfl (by simp),
    take_withUnread, news, ofHistory_snoc, undergo]

theorem told_closeSink (past : List Step) :
    (told past).step .closeSink = told (past ++ [.closeSink]) := by
  rw [told, told, history_snoc, keptBytes_snoc past rfl (by simp), news, ofHistory_snoc]
  rfl

end Run

/-- An admitted run comes to what its history tells. -/
theorem of_eq_told {steps : List Step} (admitted : Admitted steps) :
    Run.of steps = Run.told steps := by
  induction steps using List.reverseRecOn with
  | nil => exact Run.told_nil.symm
  | append_singleton past step ih =>
      obtain ⟨before, between, short⟩ := (admitted_snoc past step).mp admitted
      have same := ih before
      have free : (Run.told past).state.holdsBack = false := by
        rw [← same]
        exact holdsBack_eq_false_iff.mpr before.short
      rw [Run.of_snoc, same] at short ⊢
      cases step with
      | feed bytes => exact Run.told_feed short
      | send packet => exact Run.told_send free (between rfl) packet
      | receive => exact Run.told_receive free
      | closeFeed => exact Run.told_closeFeed free
      | closeSink => exact Run.told_closeSink past

end Multiplexer
end Connection
end LineDebugger
