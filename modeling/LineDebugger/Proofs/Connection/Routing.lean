import LineDebugger.Proofs.Connection.History
import Mathlib.Data.List.Range

namespace LineDebugger
namespace Connection
namespace Multiplexer

open Wire

/-!
# Every reply goes to its command

What becomes of a command can be told from what happens in the run, and the account that the
multiplexer keeps of its commands does not come into it.  A command is refused when it is
issued after the end of the reading, or when nobody reads what is written.  Otherwise it
waits.  While it waits, there are three things that concern it: a reply with its id, another
command that is written under its id, and the end of the reading.  The first of these to
happen decides how it ends.

`settles` says what one occurrence does to the commands.  From it, by induction on
the history, follow who waits (`mem_pending_iff`), who has finished and how
(`mem_finished_iff`), and that no command is counted twice or lost (`tickets_perm`).
-/

/-! ## What becomes of a command -/

/-- How many commands have been issued.  This is also the ticket of the next one. -/
def issues (history : List Occurrence) : Nat :=
  history.countP fun
    | .issued _ => true
    | _ => false

/-- Why a command that is issued after `past` is not written, if it is not. -/
def refusal (past : List Occurrence) : Option Fault :=
  if .ended ∈ past then some .closed
  else if .sinkClosed ∈ past then some .brokenPipe
  else none

/-- The result for the command that waits under an id, if what happens next concerns it. -/
def verdict (past : List Occurrence) (id : UInt32) : Occurrence -> Option (Except Fault Reply)
  | .arrived packet =>
      if packet.isReply = true ∧ id = packet.id then some (.ok packet.reply) else none
  | .issued packet =>
      if id = packet.id ∧ refusal past = none then some (.error .closed) else none
  | .ended => some (.error .closed)
  | .asked => none
  | .sinkClosed => none

/-- The command with this ticket was written under this id, and nothing that has happened
since concerned it.  So it is the last one that was written under the id, and it has not
finished. -/
inductive Waiting (ticket : Nat) (id : UInt32) : List Occurrence -> Prop where
  | written {past : List Occurrence} {command : Command} :
      issues past = ticket -> refusal past = none ->
      Waiting ticket id (past ++ [.issued ⟨id, command⟩])
  | onward {past : List Occurrence} {next : Occurrence} :
      Waiting ticket id past -> verdict past id next = none ->
      Waiting ticket id (past ++ [next])

/-- By what happens after `past`, the command with this ticket comes to this result. -/
inductive Concludes (ticket : Nat) (result : Except Fault Reply) (past : List Occurrence)
    (next : Occurrence) : Prop where
  | waited {id : UInt32} :
      Waiting ticket id past -> verdict past id next = some result ->
      Concludes ticket result past next
  | refused {packet : CommandPacket} {fault : Fault} :
      next = .issued packet -> issues past = ticket -> refusal past = some fault ->
      result = .error fault -> Concludes ticket result past next

/-- There is a moment in the history at which `P` holds of what has happened so far and of
what happens next. -/
def Sometime (P : List Occurrence -> Occurrence -> Prop) (history : List Occurrence) : Prop :=
  exists past next future, history = past ++ next :: future ∧ P past next

section Moments

variable {past : List Occurrence} {next : Occurrence}

theorem issues_snoc (past : List Occurrence) (next : Occurrence) :
    issues (past ++ [next]) = issues past + issues [next] :=
  List.countP_append

theorem refusal_eq_none_iff :
    refusal past = none ↔ Occurrence.ended ∉ past ∧ Occurrence.sinkClosed ∉ past := by
  by_cases ended : Occurrence.ended ∈ past <;> by_cases deaf : Occurrence.sinkClosed ∈ past <;>
    simp [refusal, ended, deaf]

theorem refusal_eq_closed_iff : refusal past = some .closed ↔ Occurrence.ended ∈ past := by
  by_cases ended : Occurrence.ended ∈ past <;> by_cases deaf : Occurrence.sinkClosed ∈ past <;>
    simp [refusal, ended, deaf, Fault.brokenPipe]

theorem refusal_eq_brokenPipe_iff : refusal past = some .brokenPipe ↔
    Occurrence.ended ∉ past ∧ Occurrence.sinkClosed ∈ past := by
  by_cases ended : Occurrence.ended ∈ past <;> by_cases deaf : Occurrence.sinkClosed ∈ past <;>
    simp [refusal, ended, deaf, Fault.brokenPipe]

theorem not_waiting_nil {ticket : Nat} {id : UInt32} : ¬ Waiting ticket id [] := by
  generalize empty : ([] : List Occurrence) = history
  intro waiting
  cases waiting <;> simp at empty

theorem waiting_snoc {ticket : Nat} {id : UInt32} :
    Waiting ticket id (past ++ [next]) ↔
      (Waiting ticket id past ∧ verdict past id next = none)
        ∨ exists command, next = .issued ⟨id, command⟩ ∧ issues past = ticket
            ∧ refusal past = none := by
  constructor
  · generalize grown : past ++ [next] = history
    rintro (⟨issued, written⟩ | ⟨waiting, unconcerned⟩) <;>
      obtain ⟨rfl, rfl⟩ := List.append_singleton_inj.mp grown
    · exact .inr ⟨_, rfl, issued, written⟩
    · exact .inl ⟨waiting, unconcerned⟩
  · rintro (⟨waiting, unconcerned⟩ | ⟨command, rfl, issued, written⟩)
    · exact .onward waiting unconcerned
    · exact .written issued written

variable {P Q : List Occurrence -> Occurrence -> Prop}

theorem not_sometime_nil : ¬ Sometime P [] := by
  rintro ⟨past, next, future, equal, -⟩
  simp at equal

theorem sometime_snoc : Sometime P (past ++ [next]) ↔ Sometime P past ∨ P past next := by
  constructor
  · rintro ⟨before, now, future, equal, holds⟩
    rcases List.eq_nil_or_concat future with rfl | ⟨others, last, rfl⟩
    · obtain ⟨rfl, rfl⟩ := List.append_singleton_inj.mp equal
      exact .inr holds
    · rw [List.concat_eq_append, ← List.cons_append, ← List.append_assoc] at equal
      obtain ⟨rfl, rfl⟩ := List.append_singleton_inj.mp equal
      exact .inl ⟨before, now, others, rfl, holds⟩
  · rintro (⟨before, now, future, rfl, holds⟩ | holds)
    · exact ⟨before, now, future ++ [next], by simp, holds⟩
    · exact ⟨past, next, [], rfl, holds⟩

theorem sometime_congr (same : forall past next, P past next ↔ Q past next)
    (history : List Occurrence) : Sometime P history ↔ Sometime Q history := by
  simp only [Sometime, same]

end Moments

/-! ## What one occurrence does to the commands -/

/-- The commands among these that go on waiting. -/
def spared (past : List Occurrence) (next : Occurrence) (pending : List Pending) : List Pending :=
  pending.filter fun waiting => (verdict past waiting.id next).isNone

/-- The commands among these that finish. -/
def concluded (past : List Occurrence) (next : Occurrence) (pending : List Pending) :
    List Finished :=
  pending.filterMap fun waiting => (verdict past waiting.id next).map (Finished.mk waiting.ticket)

/-- The command that begins to wait, if one does. -/
def enrolled (past : List Occurrence) : Occurrence -> List Pending
  | .issued packet => if refusal past = none then [⟨packet.id, issues past⟩] else []
  | .arrived _ | .ended | .asked | .sinkClosed => []

/-- The command that is refused, if one is. -/
def turnedAway (past : List Occurrence) : Occurrence -> List Finished
  | .issued _ => (refusal past).toList.map fun fault => ⟨issues past, .error fault⟩
  | .arrived _ | .ended | .asked | .sinkClosed => []

section Accounts

variable (past : List Occurrence) (next : Occurrence)

/-- An occurrence has one result for all whom it concerns. -/
theorem spared_concluded_of_verdict (concerned : UInt32 -> Bool) (result : Except Fault Reply)
    (same : forall id, verdict past id next = if concerned id then some result else none)
    (pending : List Pending) :
    spared past next pending = (pending.filter fun waiting => !concerned waiting.id)
      ∧ concluded past next pending
        = (pending.filter fun waiting => concerned waiting.id).map
            fun waiting => ⟨waiting.ticket, result⟩ := by
  simp only [spared, concluded, same]
  induction pending with
  | nil => exact ⟨rfl, rfl⟩
  | cons waiting pending ih =>
      cases own : concerned waiting.id <;>
        simp only [List.filter_cons, List.filterMap_cons, own, ih.1, ih.2, Bool.not_false,
          Bool.not_true, Bool.false_eq_true, if_true, if_false, Option.isNone_none,
          Option.isNone_some, Option.map_none, Option.map_some, List.map_cons, and_self]

theorem spared_concluded_of_unconcerned (unconcerned : forall id, verdict past id next = none)
    (pending : List Pending) :
    spared past next pending = pending ∧ concluded past next pending = [] := by
  obtain ⟨stay, finish⟩ := spared_concluded_of_verdict past next (fun _ => false)
    (.error .closed) unconcerned pending
  simpa using And.intro stay finish

/-- Whoever waited either finishes or goes on waiting. -/
theorem concluded_spared_perm (pending : List Pending) :
    ((concluded past next pending).map Finished.ticket
      ++ (spared past next pending).map Pending.ticket).Perm (pending.map Pending.ticket) := by
  induction pending with
  | nil => exact List.Perm.refl _
  | cons waiting pending ih =>
      rw [concluded, spared, List.filterMap_cons, List.filter_cons, List.map_cons]
      cases verdict past waiting.id next with
      | some result => exact ih.cons _
      | none => exact List.perm_middle.trans (ih.cons _)

end Accounts

namespace Run

variable {past history : List Occurrence} {next : Occurrence}

theorem ofHistory_issued (history : List Occurrence) :
    (ofHistory history).issued = issues history := by
  induction history using List.reverseRecOn with
  | nil => rfl
  | append_singleton history next ih =>
      rw [ofHistory_snoc, issues_snoc, ← ih]
      cases next with
      | asked => exact (take_frame _).2.2.2.2.2
      | ended => exact conclude_issued _
      | _ => rfl

/-- An occurrence does to the commands what its verdict says, and to a command that is issued
what the history says about writing. -/
structure Settles (past : List Occurrence) (next : Occurrence) : Prop where
  pending : ((ofHistory past).undergo next).state.pending
    = spared past next (ofHistory past).state.pending ++ enrolled past next
  finished : ((ofHistory past).undergo next).finished
    = (ofHistory past).finished ++ concluded past next (ofHistory past).state.pending
      ++ turnedAway past next

/-- What concerns no command and is no command leaves the commands as they are. -/
theorem settles_of_unconcerned (unconcerned : forall id, verdict past id next = none)
    (nobody : enrolled past next = [] ∧ turnedAway past next = [])
    (pending : ((ofHistory past).undergo next).state.pending = (ofHistory past).state.pending)
    (finished : ((ofHistory past).undergo next).finished = (ofHistory past).finished) :
    Settles past next := by
  obtain ⟨stay, finish⟩ := spared_concluded_of_unconcerned past next unconcerned
    (ofHistory past).state.pending
  constructor
  · rw [pending, stay, nobody.1, List.append_nil]
  · rw [finished, finish, nobody.2, List.append_nil, List.append_nil]

theorem settles_arrived (past : List Occurrence) {packet : Packet} (complete : packet.Complete) :
    Settles past (.arrived packet) := by
  cases flagged : packet.isReply with
  | false =>
      refine settles_of_unconcerned (fun id => by simp [verdict, flagged]) ⟨rfl, rfl⟩ ?_ ?_ <;>
        rw [undergo, takeIn_of_not_isReply flagged]
  | true =>
      obtain ⟨reply, rfl⟩ := complete.carries_reply flagged
      have own (id : UInt32) : verdict past id (.arrived reply.packet)
          = if id == reply.id then some (.ok reply) else none := by
        simp [verdict, flagged, reply.packet_id, reply.reply_packet]
      obtain ⟨stay, finish⟩ := spared_concluded_of_verdict past (.arrived reply.packet)
        (· == reply.id) (.ok reply) own (ofHistory past).state.pending
      constructor
      · rw [stay, undergo, takeIn_reply (ofHistory_accounted past), enrolled, List.append_nil]
        rfl
      · rw [finish, undergo, takeIn_reply (ofHistory_accounted past), turnedAway, List.append_nil]

theorem settles_ended (past : List Occurrence) : Settles past .ended := by
  obtain ⟨stay, finish⟩ := spared_concluded_of_verdict past .ended (fun _ => true)
    (.error .closed) (fun _ => rfl) (ofHistory past).state.pending
  -- A second end finds nobody waiting, so it concerns all of them just the same.
  cases goesOn : (ofHistory past).state.reading with
  | true =>
      constructor
      · rw [stay, undergo, conclude_of_reading goesOn]
        simp [enrolled, after, stop]
      · rw [finish, undergo, conclude_of_reading goesOn]
        simp [turnedAway, after, stop]
  | false =>
      have nobody := (ofHistory_accounted past).settled goesOn
      constructor
      · rw [stay, undergo, conclude_of_not_reading goesOn, nobody]
        rfl
      · rw [finish, undergo, conclude_of_not_reading goesOn, nobody]
        simp [turnedAway]

theorem settles_issued (past : List Occurrence) (packet : CommandPacket) :
    Settles past (.issued packet) := by
  have reading := ofHistory_reading past
  have writable := ofHistory_writable past
  have issued := ofHistory_issued past
  by_cases ended : Occurrence.ended ∈ past
  · have stopped : (ofHistory past).state.reading = false := by simpa [ended] using reading
    have nobody := (ofHistory_accounted past).settled stopped
    have refused := refusal_eq_closed_iff.mpr ended
    constructor
    · rw [undergo, issue_of_not_reading stopped, nobody]
      simp [spared, enrolled, refused]
    · rw [undergo, issue_of_not_reading stopped, nobody]
      simp [concluded, turnedAway, refused, issued]
  by_cases deaf : Occurrence.sinkClosed ∈ past
  · have unheard : (ofHistory past).state.writable = false := by simpa [deaf] using writable
    have refused := refusal_eq_brokenPipe_iff.mpr ⟨ended, deaf⟩
    obtain ⟨stay, finish⟩ := spared_concluded_of_unconcerned past (.issued packet)
      (fun id => by simp [verdict, refused]) (ofHistory past).state.pending
    constructor
    · rw [stay, undergo, issue_of_not_writable (reading.mpr ended) unheard]
      simp [enrolled, refused, withUnread]
    · rw [finish, undergo, issue_of_not_writable (reading.mpr ended) unheard]
      simp [turnedAway, refused, issued]
  · have written := refusal_eq_none_iff.mpr ⟨ended, deaf⟩
    have own (id : UInt32) : verdict past id (.issued packet)
        = if id == packet.id then some (.error .closed) else none := by
      simp [verdict, written]
    obtain ⟨stay, finish⟩ := spared_concluded_of_verdict past (.issued packet)
      (· == packet.id) (.error .closed) own (ofHistory past).state.pending
    constructor
    · rw [stay, undergo, issue_written (reading.mpr ended) (writable.mpr deaf)]
      simp [enrolled, written, issued, bne]
    · rw [finish, undergo, issue_written (reading.mpr ended) (writable.mpr deaf)]
      simp [turnedAway, written]

theorem settles (complete : forall packet, next = .arrived packet -> packet.Complete) :
    Settles past next := by
  cases next with
  | arrived packet => exact settles_arrived past (complete packet rfl)
  | ended => exact settles_ended past
  | issued packet => exact settles_issued past packet
  | asked =>
      obtain ⟨-, -, -, pending, finished, -⟩ := take_frame (ofHistory past)
      exact settles_of_unconcerned (fun _ => rfl) ⟨rfl, rfl⟩ pending finished
  | sinkClosed =>
      exact settles_of_unconcerned (fun _ => rfl) ⟨rfl, rfl⟩ rfl (List.append_nil _)

/-! ## What a whole history does to the commands -/

/-- The packets of a history are complete. -/
def Whole (history : List Occurrence) : Prop :=
  forall packet, Occurrence.arrived packet ∈ history -> packet.Complete

theorem Whole.of_snoc (whole : Whole (past ++ [next])) : Whole past :=
  fun packet member => whole packet (List.mem_append_left _ member)

theorem Whole.last (whole : Whole (past ++ [next])) :
    forall packet, next = .arrived packet -> packet.Complete :=
  fun packet same => whole packet (by simp [same])

theorem mem_pending_iff (whole : Whole history) (waiting : Pending) :
    waiting ∈ (ofHistory history).state.pending ↔ Waiting waiting.ticket waiting.id history := by
  induction history using List.reverseRecOn with
  | nil => exact ⟨fun impossible => (List.not_mem_nil impossible).elim,
      fun impossible => (not_waiting_nil impossible).elim⟩
  | append_singleton history next ih =>
      have begins : waiting ∈ enrolled history next ↔
          exists command, next = .issued ⟨waiting.id, command⟩ ∧ issues history = waiting.ticket
            ∧ refusal history = none := by
        obtain ⟨id, ticket⟩ := waiting
        cases next with
        | issued packet =>
            obtain ⟨otherId, command⟩ := packet
            by_cases written : refusal history = none <;>
              simp [enrolled, written, eq_comm]
        | _ => simp [enrolled]
      rw [ofHistory_snoc, (settles whole.last).pending, List.mem_append, spared,
        List.mem_filter, ih whole.of_snoc, begins, waiting_snoc, Option.isNone_iff_eq_none]

theorem mem_finished_iff (whole : Whole history) (done : Finished) :
    done ∈ (ofHistory history).finished ↔ Sometime (Concludes done.ticket done.result) history := by
  induction history using List.reverseRecOn with
  | nil => exact ⟨fun impossible => (List.not_mem_nil impossible).elim,
      fun impossible => (not_sometime_nil impossible).elim⟩
  | append_singleton history next ih =>
      obtain ⟨ticket, result⟩ := done
      have waited : ⟨ticket, result⟩ ∈ concluded history next (ofHistory history).state.pending ↔
          exists id, Waiting ticket id history ∧ verdict history id next = some result := by
        rw [concluded, List.mem_filterMap]
        constructor
        · rintro ⟨waiting, member, same⟩
          obtain ⟨_, decided, equal⟩ := Option.map_eq_some_iff.mp same
          cases equal
          exact ⟨waiting.id, (mem_pending_iff whole.of_snoc waiting).mp member, decided⟩
        · rintro ⟨id, waiting, decided⟩
          exact ⟨⟨id, ticket⟩, (mem_pending_iff whole.of_snoc ⟨id, ticket⟩).mpr waiting,
            by simp [decided]⟩
      have refused : ⟨ticket, result⟩ ∈ turnedAway history next ↔
          exists packet fault, next = .issued packet ∧ issues history = ticket
            ∧ refusal history = some fault ∧ result = .error fault := by
        cases next with
        | issued packet => cases why : refusal history <;> simp [turnedAway, why, eq_comm]
        | _ => simp [turnedAway]
      rw [ofHistory_snoc, (settles whole.last).finished, List.mem_append, List.mem_append,
        ih whole.of_snoc, waited, refused, sometime_snoc, or_assoc]
      refine or_congr_right ⟨?_, ?_⟩
      · rintro (⟨id, waiting, decided⟩ | ⟨packet, fault, issued, own, why, same⟩)
        · exact .waited waiting decided
        · exact .refused issued own why same
      · rintro (⟨waiting, decided⟩ | ⟨issued, own, why, same⟩)
        · exact .inl ⟨_, waiting, decided⟩
        · exact .inr ⟨_, _, issued, own, why, same⟩

/-- Every command that was issued has finished or waits, but not both, and none twice. -/
theorem tickets_perm (whole : Whole history) :
    ((ofHistory history).finished.map Finished.ticket
      ++ (ofHistory history).state.pending.map Pending.ticket).Perm
        (List.range (issues history)) := by
  induction history using List.reverseRecOn with
  | nil => exact List.Perm.refl _
  | append_singleton history next ih =>
      obtain ⟨pending, finished⟩ : Settles history next := settles whole.last
      have new : (turnedAway history next).map Finished.ticket
          ++ (enrolled history next).map Pending.ticket
            = List.replicate (issues [next]) (issues history) := by
        cases next with
        | issued packet => cases why : refusal history <;> simp [turnedAway, enrolled, why, issues]
        | _ => rfl
      have more : List.range (issues (history ++ [next]))
          = List.range (issues history) ++ List.replicate (issues [next]) (issues history) := by
        rw [issues_snoc]
        cases next with
        | issued packet => exact List.range_succ
        | _ => exact (List.append_nil _).symm
      -- Those who waited are divided in two, and the newcomer is on one side or the other.
      have divided := concluded_spared_perm history next (ofHistory history).state.pending
      rw [ofHistory_snoc, pending, finished, more, ← new]
      simp only [List.map_append]
      generalize (ofHistory history).finished.map Finished.ticket = before at *
      generalize (concluded history next _).map Finished.ticket = finish at *
      generalize (spared history next _).map Pending.ticket = stay at *
      generalize (turnedAway history next).map Finished.ticket = away
      generalize (enrolled history next).map Pending.ticket = begin
      calc before ++ finish ++ away ++ (stay ++ begin)
        _ = before ++ finish ++ (away ++ stay) ++ begin := by simp only [List.append_assoc]
        List.Perm _ (before ++ finish ++ (stay ++ away) ++ begin) :=
          (List.perm_append_comm.append_left _).append_right _
        _ = before ++ (finish ++ stay) ++ (away ++ begin) := by simp only [List.append_assoc]
        List.Perm _ (before ++ (ofHistory history).state.pending.map Pending.ticket
            ++ (away ++ begin)) := (divided.append_left _).append_right _
        List.Perm _ (List.range (issues history) ++ (away ++ begin)) :=
          (ih whole.of_snoc).append_right _

end Run

/-! ## The law -/

/-- A packet arrives that is a reply to the command, and this is the reply in it. -/
def Answered (ticket : Nat) (reply : Reply) (past : List Occurrence) (next : Occurrence) : Prop :=
  exists packet, next = .arrived packet ∧ packet.isReply = true ∧ packet.reply = reply
    ∧ Waiting ticket packet.id past

/-- While the command waits, another one is written under its id or the reading ends; or the
command is issued when the reading has ended. -/
def Closed (ticket : Nat) (past : List Occurrence) (next : Occurrence) : Prop :=
  (exists packet, next = .issued packet ∧ Waiting ticket packet.id past
      ∧ Occurrence.ended ∉ past ∧ Occurrence.sinkClosed ∉ past)
    ∨ (next = .ended ∧ exists id, Waiting ticket id past)
    ∨ exists packet, next = .issued packet ∧ issues past = ticket ∧ Occurrence.ended ∈ past

/-- The command is issued while the reading goes on, but nobody reads what is written. -/
def Unwritable (ticket : Nat) (past : List Occurrence) (next : Occurrence) : Prop :=
  exists packet, next = .issued packet ∧ issues past = ticket
    ∧ Occurrence.ended ∉ past ∧ Occurrence.sinkClosed ∈ past

section Ends

variable {ticket : Nat} {past : List Occurrence} {next : Occurrence}

theorem concludes_ok_iff {reply : Reply} :
    Concludes ticket (.ok reply) past next ↔ Answered ticket reply past next := by
  constructor
  · rintro (⟨waiting, decided⟩ | ⟨-, -, -, impossible⟩)
    · cases next with
      | arrived packet =>
          simp only [verdict, Option.ite_none_right_eq_some, Option.some.injEq, Except.ok.injEq]
            at decided
          obtain ⟨⟨flagged, rfl⟩, same⟩ := decided
          exact ⟨packet, rfl, flagged, same, waiting⟩
      | issued packet => simp [verdict] at decided
      | _ => cases decided
    · cases impossible
  · rintro ⟨packet, rfl, flagged, rfl, waiting⟩
    exact .waited waiting (by simp [verdict, flagged])

theorem concludes_closed_iff :
    Concludes ticket (.error .closed) past next ↔ Closed ticket past next := by
  constructor
  · rintro (⟨waiting, decided⟩ | ⟨issued, own, why, same⟩)
    · cases next with
      | arrived packet => simp [verdict] at decided
      | ended => exact .inr (.inl ⟨rfl, _, waiting⟩)
      | issued packet =>
          simp only [verdict, Option.ite_none_right_eq_some, and_true] at decided
          obtain ⟨rfl, written⟩ := decided
          exact .inl ⟨packet, rfl, waiting, refusal_eq_none_iff.mp written⟩
      | _ => cases decided
    · cases same
      exact .inr (.inr ⟨_, issued, own, refusal_eq_closed_iff.mp why⟩)
  · rintro (⟨packet, rfl, waiting, written⟩ | ⟨rfl, id, waiting⟩ | ⟨packet, issued, own, why⟩)
    · exact .waited waiting (by simp [verdict, refusal_eq_none_iff.mpr written])
    · exact .waited waiting rfl
    · exact .refused issued own (refusal_eq_closed_iff.mpr why) rfl

theorem concludes_brokenPipe_iff :
    Concludes ticket (.error .brokenPipe) past next ↔ Unwritable ticket past next := by
  rw [Unwritable, ← refusal_eq_brokenPipe_iff]
  constructor
  · rintro (⟨-, decided⟩ | ⟨issued, own, why, same⟩)
    · cases next <;> simp [verdict, Fault.brokenPipe] at decided
    · cases same
      exact ⟨_, issued, own, why⟩
  · rintro ⟨packet, issued, own, why⟩
    exact .refused issued own why rfl

/-- There is no other way to end. -/
theorem Concludes.result_cases {result : Except Fault Reply}
    (concludes : Concludes ticket result past next) :
    (exists reply, result = .ok reply) ∨ result = .error .closed
      ∨ result = .error .brokenPipe := by
  obtain ⟨-, decided⟩ | ⟨-, -, why, rfl⟩ := concludes
  · cases next with
    | arrived packet =>
        simp only [verdict, Option.ite_none_right_eq_some, Option.some.injEq] at decided
        exact .inl ⟨_, decided.2.symm⟩
    | issued packet =>
        simp only [verdict, Option.ite_none_right_eq_some, Option.some.injEq] at decided
        exact .inr (.inl decided.2.symm)
    | ended =>
        cases decided
        exact .inr (.inl rfl)
    | _ => cases decided
  · rw [refusal] at why
    split at why
    · cases why
      exact .inr (.inl rfl)
    · split at why
      · cases why
        exact .inr (.inr rfl)
      · cases why

end Ends

/-- In an admitted run every command finishes at most once, and how it finishes depends on
what happens while it waits.  A reply with its id answers it.  Another command written under
its id closes it, and so does the end of the reading, both for those that wait and for those
that are issued later.  A command that cannot be written while the reading goes on fails
with a broken pipe, and this leaves everything else as it was.  A command does not finish in
any other way; no reply is ever found malformed. -/
theorem replies_go_to_their_commands {steps : List Step} (admitted : Admitted steps) :
    ((Run.of steps).finished.map Finished.ticket).Nodup
      ∧ (forall ticket reply, ⟨ticket, .ok reply⟩ ∈ (Run.of steps).finished ↔
        Sometime (Answered ticket reply) (history steps))
      ∧ (forall ticket, ⟨ticket, .error .closed⟩ ∈ (Run.of steps).finished ↔
        Sometime (Closed ticket) (history steps))
      ∧ (forall ticket, ⟨ticket, .error .brokenPipe⟩ ∈ (Run.of steps).finished ↔
        Sometime (Unwritable ticket) (history steps))
      ∧ (forall packet, ¬ Ended steps -> BetweenPackets steps -> Step.closeSink ∈ steps ->
        Run.of (steps ++ [.send packet]) = { Run.of steps with
          issued := (Run.of steps).issued + 1
          finished := (Run.of steps).finished
            ++ [⟨(Run.of steps).issued, .error .brokenPipe⟩] })
      ∧ forall done, done ∈ (Run.of steps).finished ->
        (exists reply, done.result = .ok reply) ∨ done.result = .error .closed
          ∨ done.result = .error .brokenPipe := by
  have told := of_eq_told admitted
  have whole : Run.Whole (history steps) := fun _ member => complete_of_arrived_mem member
  have finished : (Run.of steps).finished = (Run.ofHistory (history steps)).finished := by
    rw [told]
    rfl
  have ends (ticket : Nat) (result : Except Fault Reply) :
      ⟨ticket, result⟩ ∈ (Run.of steps).finished
        ↔ Sometime (Concludes ticket result) (history steps) := by
    rw [finished]
    exact Run.mem_finished_iff whole ⟨ticket, result⟩
  refine ⟨?once, ?answered, ?closed, ?broken, ?harmless, ?only⟩
  case once =>
    rw [finished]
    have all := (Run.tickets_perm whole).nodup_iff.mpr List.nodup_range
    exact (List.nodup_append.mp all).1
  case answered =>
    intro ticket reply
    rw [ends]
    exact sometime_congr (fun _ _ => concludes_ok_iff) _
  case closed =>
    intro ticket
    rw [ends]
    exact sometime_congr (fun _ _ => concludes_closed_iff) _
  case broken =>
    intro ticket
    rw [ends]
    exact sometime_congr (fun _ _ => concludes_brokenPipe_iff) _
  case harmless =>
    intro packet running between closed
    have reading : (Run.of steps).state.reading = true := by
      rw [told, Run.told_reading]
      exact running
    have deaf : (Run.of steps).state.writable = false := by
      rw [← Bool.not_eq_true, told]
      exact fun writable => (Run.ofHistory_writable _).mp writable
        ((sinkClosed_mem_history steps).mpr closed)
    have empty : (Run.of steps).state.unread = [] := by
      rw [told, Run.told, Run.withUnread_unread, between.keptBytes]
    rw [Run.of_snoc, Run.step_send_of_free (holdsBack_eq_false_iff.mpr admitted.short),
      Run.issue_of_not_writable reading deaf, Run.withUnread_self empty]
  case only =>
    rintro ⟨ticket, result⟩ member
    obtain ⟨past, next, _, -, concludes⟩ := (ends ticket result).mp member
    exact concludes.result_cases

/-- Five commands.  The first is answered, in two portions.  The second gives way to the third,
which has the same id.  The fourth cannot be written.  The end closes the third, which waits,
and the fifth, which is too late. -/
def exchange : List Step :=
  [.send ⟨7, ⟨1, 1, []⟩⟩, .send ⟨8, ⟨1, 2, []⟩⟩,
    .feed ((Reply.packet ⟨7, 0, [42]⟩).bytes.take 5),
    .feed ((Reply.packet ⟨7, 0, [42]⟩).bytes.drop 5),
    .send ⟨8, ⟨1, 3, []⟩⟩, .closeSink, .send ⟨9, ⟨1, 4, []⟩⟩, .closeFeed, .send ⟨10, ⟨1, 5, []⟩⟩]

deriving instance DecidableEq for Finished

theorem exchange_ends : Admitted exchange
    ∧ Sometime (Answered 0 ⟨7, 0, [42]⟩) (history exchange)
    ∧ Sometime (Closed 1) (history exchange)
    ∧ Sometime (Closed 2) (history exchange)
    ∧ Sometime (Unwritable 3) (history exchange)
    ∧ Sometime (Closed 4) (history exchange) := by
  have admitted : Admitted exchange := by decide +kernel
  obtain ⟨-, answered, closed, unwritable, -⟩ := replies_go_to_their_commands admitted
  refine ⟨admitted, (answered 0 _).mp ?_, (closed 1).mp ?_, (closed 2).mp ?_,
    (unwritable 3).mp ?_, (closed 4).mp ?_⟩ <;> decide +kernel

end Multiplexer
end Connection
end LineDebugger
