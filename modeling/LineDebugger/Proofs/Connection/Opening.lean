import LineDebugger.Connection.Client
import LineDebugger.Proofs.Connection.Chunks
import LineDebugger.Proofs.Connection.Delivery

namespace LineDebugger
namespace Connection

open Wire Multiplexer

/-!
# The opening of a connection, chunk by chunk

The greeting is written at once, and then the other side is listened to.  What it writes
comes in chunks that have nothing to do with the greeting's length: the answer may be
spread over several of them, and the last of those may hold packets too.  From a chunk the
opening takes the bytes that the answer still lacks, and no others; the rest of the chunk
is the first thing that the multiplexer reads.

`Stage.of` tells the stage from the bytes alone.  `Stage.arrive_of` is the step from one
chunk to the next, and everything that is said of the opening follows from it.
-/

/-- How far the opening of a connection has come: an answer is still coming in, or there is
none that will do, or the multiplexer has taken over. -/
inductive Stage where
  | answering (answer : List UInt8)
  | refused (fault : Fault)
  | connected (run : Run)

namespace Stage

/-- A chunk arrives.  The answer takes as many of its bytes as it lacks, and is judged when
it lacks none. -/
def arrive (chunk : List UInt8) : Stage -> Stage
  | answering answer =>
      let missing := Handshake.greeting.length - answer.length
      let filled := answer ++ chunk.take missing
      if filled.length < Handshake.greeting.length then answering filled
      else if filled = Handshake.greeting then
        connected (({} : Run).step (.feed (chunk.drop missing)))
      else refused .badHandshake
  | refused fault => refused fault
  | connected run => connected (run.step (.feed chunk))

/-- The other side closes the stream. -/
def close : Stage -> Stage
  | answering _ => refused .earlyEnd
  | refused fault => refused fault
  | connected run => connected (run.step .closeFeed)

/-- The stage to which some bytes lead while the stream is open. -/
def of (bytes : List UInt8) : Stage :=
  if bytes.length < Handshake.greeting.length then answering bytes
  else if bytes.take Handshake.greeting.length = Handshake.greeting then
    connected (({} : Run).step (.feed (bytes.drop Handshake.greeting.length)))
  else refused .badHandshake

/-- What whoever opens the connection is told. -/
def outcome : Stage -> Outcome Fault Multiplexer
  | answering _ => .unfinished
  | refused fault => .failed fault
  | connected run => .ok run.state

variable {bytes : List UInt8}

theorem of_short (short : bytes.length < Handshake.greeting.length) :
    of bytes = answering bytes :=
  if_pos short

theorem of_long (long : Handshake.greeting.length ≤ bytes.length) :
    of bytes = if bytes.take Handshake.greeting.length = Handshake.greeting then
        connected (({} : Run).step (.feed (bytes.drop Handshake.greeting.length)))
      else refused .badHandshake :=
  if_neg (Nat.not_lt.mpr long)

theorem of_greeting_append (rest : List UInt8) :
    of (Handshake.greeting ++ rest) = connected (({} : Run).step (.feed rest)) := by
  have long : Handshake.greeting.length ≤ (Handshake.greeting ++ rest).length := by
    rw [List.length_append]
    exact Nat.le_add_right _ _
  rw [of_long long, List.take_left, List.drop_left, if_pos rfl]

/-- To go on from the bytes up to now is to start from all of them. -/
theorem arrive_of (bytes chunk : List UInt8) : (of bytes).arrive chunk = of (bytes ++ chunk) := by
  by_cases short : bytes.length < Handshake.greeting.length
  · -- The bytes that are taken from the chunk are those that the whole answer takes.
    have filled : bytes ++ chunk.take (Handshake.greeting.length - bytes.length)
        = (bytes ++ chunk).take Handshake.greeting.length := by
      rw [List.take_append, List.take_of_length_le (Nat.le_of_lt short)]
    have left : chunk.drop (Handshake.greeting.length - bytes.length)
        = (bytes ++ chunk).drop Handshake.greeting.length := by
      rw [List.drop_append, List.drop_of_length_le (Nat.le_of_lt short), List.nil_append]
    rw [of_short short]
    simp only [arrive, filled, left]
    by_cases still : (bytes ++ chunk).length < Handshake.greeting.length
    · rw [List.take_of_length_le (Nat.le_of_lt still), if_pos still, of_short still]
    · have full : ((bytes ++ chunk).take Handshake.greeting.length).length
          = Handshake.greeting.length := List.length_take_of_le (Nat.not_lt.mp still)
      rw [if_neg (Nat.lt_irrefl _ <| full ▸ ·), of_long (Nat.not_lt.mp still)]
  · have long := Nat.not_lt.mp short
    have longer : Handshake.greeting.length ≤ (bytes ++ chunk).length := by
      rw [List.length_append]
      exact Nat.le_add_right_of_le long
    rw [of_long long, of_long longer, List.take_append_of_le_length long,
      List.drop_append_of_le_length long]
    split
    · rw [arrive, Run.step_feed_append]
    · rfl

end Stage

/-- The opening of a connection: what was written to begin with, and the stage. -/
structure Opening where
  greeted : List UInt8
  stage : Stage

namespace Opening

/-- The greeting is written before anything is read. -/
def start : Opening := ⟨Handshake.greeting, .answering []⟩

def arrive (opening : Opening) (chunk : List UInt8) : Opening :=
  { opening with stage := opening.stage.arrive chunk }

def close (opening : Opening) : Opening := { opening with stage := opening.stage.close }

/-- The opening after these chunks, and after the end of the stream if it has come. -/
def after (chunks : List (List UInt8)) (ended : Bool) : Opening :=
  let opening := chunks.foldl arrive start
  if ended then opening.close else opening

/-- All that has been written, by the opening and by the multiplexer. -/
def written (opening : Opening) : List UInt8 :=
  opening.greeted ++ match opening.stage with
    | .connected run => run.written.flatMap CommandPacket.bytes
    | _ => []

theorem foldl_arrive (bytes : List UInt8) (chunks : List (List UInt8)) :
    chunks.foldl arrive ⟨Handshake.greeting, .of bytes⟩
      = ⟨Handshake.greeting, .of (bytes ++ chunks.flatten)⟩ := by
  induction chunks generalizing bytes with
  | nil => rw [List.foldl_nil, List.flatten_nil, List.append_nil]
  | cons chunk chunks ih =>
      rw [List.foldl_cons, List.flatten_cons, ← List.append_assoc, ← ih, arrive,
        Stage.arrive_of]

/-- Nothing but the bytes and the end of the stream decides the stage. -/
theorem after_eq (chunks : List (List UInt8)) (ended : Bool) :
    after chunks ended = ⟨Handshake.greeting,
      if ended then (Stage.of chunks.flatten).close else .of chunks.flatten⟩ := by
  have begun : start = ⟨Handshake.greeting, .of []⟩ := rfl
  rw [after, begun, foldl_arrive, List.nil_append]
  cases ended <;> rfl

end Opening

/-! ## What the multiplexer makes of the rest -/

namespace Multiplexer

/-- The steps of a multiplexer that reads these bytes, and then the end if it has come. -/
def intake (bytes : List UInt8) (ended : Bool) : List Step :=
  .feed bytes :: if ended then [.closeFeed] else []

namespace Run

variable {run : Run}

/-- Reading writes nothing, and gives nothing away. -/
theorem after_read_silent (run : Run) (stream : List UInt8) :
    (run.after (run.state.read stream)).written = run.written
      ∧ (run.after (run.state.read stream)).answers = run.answers := by
  refine ⟨?_, rfl⟩
  change run.written ++ (run.state.read stream).written = run.written
  rw [(read_frame run.state stream).1, List.append_nil]

theorem step_closeFeed_silent (run : Run) :
    (run.step .closeFeed).written = run.written
      ∧ (run.step .closeFeed).answers = run.answers := by
  refine ⟨?_, rfl⟩
  change run.written ++ run.state.closeFeed.written = run.written
  rw [closeFeed]
  split
  · exact List.append_nil _
  · split <;> exact List.append_nil _

/-- The end of the stream comes behind all that is there. -/
theorem step_closeFeed_prospects (orderly : run.state.Orderly) :
    (run.step .closeFeed).state.prospects = run.state.prospects
      ∧ (run.step .closeFeed).state.Doomed := by
  cases holds : run.state.holdsBack with
  | true =>
      rw [step_closeFeed_of_holdsBack (orderly.busy holds) holds]
      exact ⟨rfl, .inr (.inl rfl)⟩
  | false =>
      obtain ⟨stopped, -, queued, -⟩ := conclude_frame run
      have after := orderly.closeFeed
      rw [step_closeFeed_of_free holds] at after ⊢
      have free : run.conclude.state.holdsBack = false := by
        rw [holdsBack, queued]
        exact holds
      refine ⟨?_, .inl stopped⟩
      rw [after.prospects_of_free free, orderly.prospects_of_free holds, queued]

theorem of_feed (bytes : List UInt8) :
    of [.feed bytes] = ({} : Run).after (({} : Multiplexer).read bytes) :=
  step_feed_eq rfl rfl bytes

theorem of_intake_silent (bytes : List UInt8) (ended : Bool) :
    (of (intake bytes ended)).written = [] ∧ (of (intake bytes ended)).answers = [] := by
  have fed := after_read_silent {} bytes
  have begun : of [.feed bytes] = _ := of_feed bytes
  cases ended with
  | false =>
      change (of [.feed bytes]).written = [] ∧ (of [.feed bytes]).answers = []
      rw [begun]
      exact fed
  | true =>
      have closed := step_closeFeed_silent (of [.feed bytes])
      rw [begun] at closed
      exact ⟨closed.1.trans fed.1, closed.2.trans fed.2⟩

/-- The event sets in the bytes will come out in the order in which they were written, and the end
is settled by the bytes and by the end of the stream. -/
theorem of_intake_prospects (bytes : List UInt8) (ended : Bool) :
    (of (intake bytes ended)).state.prospects
        = (Packet.split bytes).packets.filterMap eventSet?
      ∧ ((of (intake bytes ended)).state.Doomed
        ↔ ended = true ∨ (Packet.split bytes).remainder = none) := by
  have fed : (of [.feed bytes]).state.prospects = (Packet.split bytes).packets.filterMap eventSet?
      ∧ ((of [.feed bytes]).state.Doomed ↔ (Packet.split bytes).remainder = none) := by
    obtain ⟨sets, ends⟩ := read_prospects (rfl : ({} : Multiplexer).reading = true) bytes
    rw [of_feed]
    refine ⟨sets, ends.trans ?_⟩
    simp [Doomed]
  cases ended with
  | false =>
      refine ⟨fed.1, fed.2.trans ?_⟩
      simp
  | true =>
      obtain ⟨sets, ends⟩ := step_closeFeed_prospects (Orderly.of [.feed bytes])
      exact ⟨sets.trans fed.1, fun _ => .inl rfl, fun _ => ends⟩

/-- Whoever asks for event sets is given those in the bytes, in order and each once, and is
told of the end only after them.  It makes no difference how many there are. -/
theorem of_intake_receives (bytes : List UInt8) (ended : Bool) (count : Nat) :
    (of (intake bytes ended ++ List.replicate count .receive)).answers
      = (((Packet.split bytes).packets.filterMap eventSet?).map .events).take count
        ++ List.replicate (count - ((Packet.split bytes).packets.filterMap eventSet?).length)
          (if ended = true ∨ (Packet.split bytes).remainder = none then .ended
            else .nothingYet) := by
  obtain ⟨sets, ends⟩ := of_intake_prospects bytes ended
  rw [of_append, answers_through_receives (Orderly.of _), (of_intake_silent bytes ended).2, sets,
    List.nil_append]
  simp only [ends]

end Run
end Multiplexer

/-! ## The opening as a whole -/

namespace Stage

variable {bytes : List UInt8}

theorem close_connected (rest : List UInt8) (ended : Bool) :
    (if ended then (connected (({} : Run).step (.feed rest))).close
      else connected (({} : Run).step (.feed rest))) = connected (Run.of (intake rest ended)) := by
  cases ended <;> rfl

theorem close_refused (fault : Fault) (ended : Bool) :
    (if ended then (refused fault).close else refused fault) = refused fault := by
  cases ended <;> rfl

theorem close_answering (answer : List UInt8) (ended : Bool) :
    (if ended then (answering answer).close else answering answer)
      = if ended then refused .earlyEnd else answering answer :=
  rfl

end Stage

namespace Handshake

variable {bytes : List UInt8}

theorem judge_short (short : bytes.length < greeting.length) (ended : Bool) :
    judge bytes ended = if ended then .failed .earlyEnd else .unfinished :=
  if_pos short

theorem judge_greeting_append (rest : List UInt8) (ended : Bool) :
    judge (greeting ++ rest) ended = .ok rest := by
  have long : ¬ (greeting ++ rest).length < greeting.length := by
    rw [List.length_append]
    exact Nat.not_lt.mpr (Nat.le_add_right _ _)
  rw [judge, if_neg long, List.take_left, if_pos rfl, List.drop_left]

theorem judge_other (long : greeting.length ≤ bytes.length) (differs : ¬ greeting <+: bytes)
    (ended : Bool) : judge bytes ended = .failed .badHandshake := by
  have other : bytes.take greeting.length ≠ greeting := by
    intro same
    exact differs (List.prefix_iff_eq_take.mpr same.symm)
  rw [judge, if_neg (Nat.not_lt.mpr long), if_neg other]

end Handshake

namespace Opening

variable {chunks : List (List UInt8)} {ended : Bool}

theorem after_greeting {rest : List UInt8} (answered : chunks.flatten = Handshake.greeting ++ rest)
    : after chunks ended = ⟨Handshake.greeting, .connected (Run.of (intake rest ended))⟩ := by
  rw [after_eq, answered, Stage.of_greeting_append, Stage.close_connected]

theorem after_other (long : Handshake.greeting.length ≤ chunks.flatten.length)
    (differs : ¬ Handshake.greeting <+: chunks.flatten) :
    after chunks ended = ⟨Handshake.greeting, .refused .badHandshake⟩ := by
  have other : chunks.flatten.take Handshake.greeting.length ≠ Handshake.greeting := by
    intro same
    exact differs (List.prefix_iff_eq_take.mpr same.symm)
  rw [after_eq, Stage.of_long long, if_neg other, Stage.close_refused]

theorem after_short (short : chunks.flatten.length < Handshake.greeting.length) :
    after chunks ended = ⟨Handshake.greeting,
      if ended then .refused .earlyEnd else .answering chunks.flatten⟩ := by
  rw [after_eq, Stage.of_short short, Stage.close_answering]

/-- The bytes decide which of the three it is. -/
theorem cases_of_bytes (bytes : List UInt8) :
    (exists rest, bytes = Handshake.greeting ++ rest)
      ∨ (Handshake.greeting.length ≤ bytes.length ∧ ¬ Handshake.greeting <+: bytes)
      ∨ bytes.length < Handshake.greeting.length := by
  by_cases answered : Handshake.greeting <+: bytes
  · obtain ⟨rest, same⟩ := answered
    exact .inl ⟨rest, same.symm⟩
  · rcases Nat.lt_or_ge bytes.length Handshake.greeting.length with short | long
    · exact .inr (.inr short)
    · exact .inr (.inl ⟨long, answered⟩)

theorem written_after (chunks : List (List UInt8)) (ended : Bool) :
    (after chunks ended).written = Handshake.greeting := by
  rcases cases_of_bytes chunks.flatten with ⟨rest, answered⟩ | ⟨long, differs⟩ | short
  · rw [after_greeting answered, written]
    simp only [(Run.of_intake_silent rest ended).1, List.flatMap_nil, List.append_nil]
  · rw [after_other long differs]
    exact List.append_nil _
  · rw [after_short short]
    cases ended <;> exact List.append_nil _

theorem connected_iff : (exists run, (after chunks ended).stage = .connected run)
    ↔ Handshake.greeting <+: chunks.flatten := by
  constructor
  · rintro ⟨run, connected⟩
    rcases cases_of_bytes chunks.flatten with ⟨rest, answered⟩ | ⟨long, differs⟩ | short
    · exact ⟨rest, answered.symm⟩
    · rw [after_other long differs] at connected
      cases connected
    · rw [after_short short] at connected
      cases ended <;> cases connected
  · rintro ⟨rest, answered⟩
    exact ⟨_, congrArg stage (after_greeting answered.symm)⟩

/-- What happens chunk by chunk is what the client makes of all the bytes at once. -/
theorem outcome_after {π : Type} (peer : π) (chunks : List (List UInt8)) (ended : Bool) :
    (after chunks ended).stage.outcome
      = (Client.establish peer ⟨chunks.flatten, ended⟩).map Client.multiplexer := by
  rcases cases_of_bytes chunks.flatten with ⟨rest, answered⟩ | ⟨long, differs⟩ | short
  · rw [after_greeting answered, answered, Client.establish, Handshake.judge_greeting_append]
    cases ended <;> rfl
  · rw [after_other long differs, Client.establish, Handshake.judge_other long differs]
    rfl
  · rw [after_short short, Client.establish, Handshake.judge_short short]
    cases ended <;> rfl

end Opening

/-- Opening a connection writes the greeting and nothing else.  It succeeds exactly if the
bytes from the other side, in whatever chunks they come, begin with the greeting, and then
the multiplexer reads what follows the greeting: whoever asks is given the event sets in it,
in order and each once.  Other bytes in the place of the greeting are refused.  With fewer
bytes the opening fails if the stream has ended and goes on waiting if not, whatever the
bytes are. -/
theorem opening_hands_over_what_follows_the_greeting {π : Type} (peer : π)
    (chunks : List (List UInt8)) (ended : Bool) :
    (Opening.after chunks ended).written = Handshake.greeting
      ∧ ((exists run, (Opening.after chunks ended).stage = .connected run)
        ↔ Handshake.greeting <+: chunks.flatten)
      ∧ (forall rest, chunks.flatten = Handshake.greeting ++ rest ->
        (Opening.after chunks ended).stage = .connected (Run.of (intake rest ended))
          ∧ forall count, (Run.of (intake rest ended ++ List.replicate count .receive)).answers
            = (((Packet.split rest).packets.filterMap eventSet?).map .events).take count
              ++ List.replicate
                (count - ((Packet.split rest).packets.filterMap eventSet?).length)
                (if ended = true ∨ (Packet.split rest).remainder = none then .ended
                  else .nothingYet))
      ∧ (14 ≤ chunks.flatten.length -> ¬ Handshake.greeting <+: chunks.flatten ->
        (Opening.after chunks ended).stage = .refused .badHandshake)
      ∧ (chunks.flatten.length < 14 -> (Opening.after chunks ended).stage
        = if ended then .refused .earlyEnd else .answering chunks.flatten)
      ∧ (Opening.after chunks ended).stage.outcome
        = (Client.establish peer ⟨chunks.flatten, ended⟩).map Client.multiplexer := by
  have size : Handshake.greeting.length = 14 := rfl
  refine ⟨Opening.written_after chunks ended, Opening.connected_iff, ?accepted, ?refused,
    ?waiting, Opening.outcome_after peer chunks ended⟩
  case accepted =>
    intro rest answered
    exact ⟨congrArg Opening.stage (Opening.after_greeting answered),
      Run.of_intake_receives rest ended⟩
  case refused =>
    intro long differs
    rw [← size] at long
    rw [Opening.after_other long differs]
  case waiting =>
    intro short
    rw [← size] at short
    rw [Opening.after_short short]

/-- The answer comes in two chunks.  The second brings the first bytes of a packet too. -/
theorem an_event_set_behind_the_answer_is_delivered :
    let packet := (eventPacket started.bytes).bytes
    let chunks := [Handshake.greeting.take 3,
      Handshake.greeting.drop 3 ++ packet.take 5, packet.drop 5]
    (exists run, (Opening.after chunks true).stage = .connected run)
      ∧ (Run.of (intake packet true ++ List.replicate 2 .receive)).answers
        = [.events started, .ended]
      ∧ (Opening.after [[74, 68]] false).stage = .answering [74, 68] := by
  intro packet chunks
  have answered : chunks.flatten = Handshake.greeting ++ packet := by decide
  obtain ⟨-, accepted, delivered, -⟩ :=
    opening_hands_over_what_follows_the_greeting () chunks true
  obtain ⟨-, -, -, -, waiting, -⟩ :=
    opening_hands_over_what_follows_the_greeting () [[74, 68]] false
  refine ⟨accepted.mpr ⟨packet, answered.symm⟩, ?_, waiting (by decide)⟩
  rw [(delivered packet answered).2 2]
  decide +kernel

end Connection
end LineDebugger
