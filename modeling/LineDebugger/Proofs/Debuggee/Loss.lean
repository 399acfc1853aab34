import LineDebugger.Proofs.Contract
import LineDebugger.Proofs.Debuggee.Composition

namespace LineDebugger

open Connection

/-!
# The loss of a debuggee is never hidden

Some answers need many commands, and how many depends on what the earlier ones came to.  Most
of them may fail without the answer being lost: what is not there is left out.  One failure is
different.  A debuggee that is gone will not come back, so no more commands are sent to it, and
whoever asked is told.

`Candid` is this rule for a computation.  It is proved for calls and lookups, and handed on
from the parts of a computation to the whole.  Going on without an answer is the delicate part,
since there a failure is dropped: it has to be dropped exactly when it is not the loss.
-/

/-- The command failed because the debuggee is gone: the connection was closed, the virtual
machine said that it is dead, or the transport broke in one of four ways. -/
def Connection.Exchange.Lost (exchange : Exchange) : Prop :=
  match exchange.outcome with
  | .ok reply => reply.errorCode = 112
  | .failed (.rejected code _) => code = 112
  | .failed .closed => True
  | .failed (.transport failure _) =>
      failure = .unexpectedEnd ∨ failure = .connectionReset
        ∨ failure = .connectionAborted ∨ failure = .brokenPipe
  | _ => False

instance Connection.Exchange.decidableLost : (exchange : Exchange) -> Decidable exchange.Lost
  | ⟨_, _, .ok reply⟩ => inferInstanceAs (Decidable (reply.errorCode = 112))
  | ⟨_, _, .failed (.rejected code _)⟩ => inferInstanceAs (Decidable (code = 112))
  | ⟨_, _, .failed .closed⟩ => isTrue trivial
  | ⟨_, _, .failed (.transport failure _)⟩ => inferInstanceAs (Decidable
      (failure = .unexpectedEnd ∨ failure = .connectionReset
        ∨ failure = .connectionAborted ∨ failure = .brokenPipe))
  | ⟨_, _, .failed (.malformed _)⟩ => isFalse id
  | ⟨_, _, .failed .badHandshake⟩ => isFalse id
  | ⟨_, _, .unfinished⟩ => isFalse id

namespace Debuggee

/-! ## One command -/

theorem TargetError.isDisconnect_ofFault (fault : Wire.Fault) :
    (TargetError.ofFault fault).isDisconnect = fault.isDisconnect := by
  cases gone : fault.isDisconnect with
  | true => rw [TargetError.ofFault, if_pos gone, TargetError.isDisconnect]
  | false =>
      rw [TargetError.ofFault, if_neg (by rw [gone]; decide)]
      cases fault.code? with
      | none => rfl
      | some code =>
          dsimp only
          split <;> rfl

/-- A fault of the transport means the loss exactly if the command counts as lost. -/
theorem lost_of_failed {exchange : Exchange} {fault : Wire.Fault}
    (failed : exchange.outcome = .failed fault) :
    exchange.Lost ↔ fault.isDisconnect = true := by
  unfold Exchange.Lost
  rw [failed]
  cases fault with
  | transport failure text => cases failure <;> simp [Wire.Fault.isDisconnect,
      Wire.TransportFailure.isDisconnect]
  | rejected code name =>
      simp [Wire.Fault.isDisconnect, Wire.ErrorCode.deadMachine]
  | malformed cause => simp [Wire.Fault.isDisconnect]
  | badHandshake => simp [Wire.Fault.isDisconnect]
  | closed => simp [Wire.Fault.isDisconnect]

/-- A reply means the loss exactly if it leads to a fault that does. -/
theorem lost_of_replied {exchange : Exchange} {reply : Wire.Reply}
    (replied : exchange.outcome = .ok reply) (question : Wire.Call) :
    exchange.Lost ↔ exists fault,
      question.answer reply = .error fault ∧ fault.isDisconnect = true := by
  unfold Exchange.Lost
  rw [replied]
  dsimp only
  by_cases accepted : reply.errorCode = 0
  · rw [question.answer_of_accepted accepted, accepted]
    refine ⟨fun dead => absurd dead (by decide), ?_⟩
    rintro ⟨fault, unreadable, gone⟩
    cases read : (question.readAnswer reply.data).result with
    | ok answer =>
        rw [read] at unreadable
        cases unreadable
    | error cause =>
        rw [read] at unreadable
        cases unreadable
        cases gone
  · rw [question.answer_of_refused accepted]
    simp [Wire.Fault.isDisconnect, Wire.Fault.ofCode, Wire.ErrorCode.deadMachine]

/-- A command is lost exactly if its call comes to a fault that means the loss. -/
theorem lost_iff (exchange : Exchange) (question : Wire.Call) :
    exchange.Lost ↔ exists fault,
      question.verdict exchange.outcome = .failed fault ∧ fault.isDisconnect = true := by
  cases came : exchange.outcome with
  | ok reply =>
      rw [lost_of_replied came question, Wire.Call.verdict]
      cases question.answer reply <;> simp [Outcome.ofExcept]
  | failed fault =>
      rw [lost_of_failed came, Wire.Call.verdict]
      simp
  | unfinished =>
      unfold Exchange.Lost
      rw [came, Wire.Call.verdict]
      simp

namespace Remote

variable {τ α β : Type}

/-! ## Candid computations -/

/-- None of the commands was lost. -/
def Unharmed (log : List Exchange) : Prop := forall exchange, exchange ∈ log -> ¬ exchange.Lost

/-- The last command was lost, and none before it. -/
def EndsInLoss (log : List Exchange) : Prop :=
  exists earlier last, log = earlier ++ [last] ∧ Unharmed earlier ∧ last.Lost

theorem Unharmed.snoc {log : List Exchange} {exchange : Exchange} (past : Unharmed log)
    (fine : ¬ exchange.Lost) : Unharmed (log ++ [exchange]) :=
  List.forall_mem_append.mpr ⟨past, List.forall_mem_singleton.mpr fine⟩

/-- A computation that fails reports the loss if and only if its last command was lost. -/
def candour : Exits (Remote τ) Exchange TargetError where
  failed error log _ :=
    (error.isDisconnect = true ∧ EndsInLoss log) ∨ (error.isDisconnect = false ∧ Unharmed log)
  unfinished := Unharmed

/-- After a command that was lost no other is sent, and the loss is reported. -/
def Candid (act : RemoteAct τ α) : Prop :=
  forall past state, Unharmed past -> act.Reaches candour (fun _ log _ => Unharmed log) past state

/-- Of the failures, those that mean the loss of the debuggee are handed on, and the others are
gone on without. -/
theorem tolerate_reaches {act : RemoteAct τ α} {owed exits : Exits (Remote τ) Exchange TargetError}
    {found : α -> List Exchange -> Remote τ -> Prop}
    {goal : Option α -> List Exchange -> Remote τ -> Prop} {past : List Exchange}
    {state : Remote τ} (reaches : act.Reaches owed found past state)
    (onLoss : forall error log state, owed.failed error log state ->
      error.isDisconnect = true -> exits.failed error log state)
    (onGap : forall error log state, owed.failed error log state ->
      error.isDisconnect = false -> goal none log state)
    (onWait : forall log, owed.unfinished log -> exits.unfinished log)
    (onSuccess : forall value log state, found value log state -> goal (some value) log state) :
    (tolerate act).Reaches exits goal past state := by
  unfold Act.Reaches at reaches ⊢
  rw [tolerate_eq]
  cases came : (act state).outcome with
  | ok value =>
      rw [came] at reaches
      exact onSuccess value _ _ reaches
  | failed error =>
      rw [came] at reaches
      cases gone : error.isDisconnect with
      | true => simpa only [tolerated, gone, if_true] using onLoss error _ _ reaches gone
      | false =>
          simpa only [tolerated, gone, Bool.false_eq_true, if_false]
            using onGap error _ _ reaches gone
  | unfinished =>
      rw [came] at reaches
      exact onWait _ reaches

/-- A computation that consists of one command, and fails if and as the command does. -/
theorem reaches_of_single {act : RemoteAct τ α} {past : List Exchange} {state after : Remote τ}
    {exchange : Exchange} {outcome : Outcome Wire.Fault α}
    (shape : act state = ⟨outcome.mapError TargetError.ofFault, [exchange], after⟩)
    (faithful : exchange.Lost ↔
      exists fault, outcome = .failed fault ∧ fault.isDisconnect = true)
    (unharmed : Unharmed past) :
    act.Reaches candour (fun _ log _ => Unharmed log) past state := by
  unfold Act.Reaches
  rw [shape]
  cases outcome with
  | ok answer => exact unharmed.snoc (by simp [faithful])
  | failed fault =>
      have same := TargetError.isDisconnect_ofFault fault
      cases gone : fault.isDisconnect with
      | true =>
          have lost : exchange.Lost := faithful.mpr ⟨fault, rfl, gone⟩
          exact Or.inl ⟨same.trans gone, past, exchange, rfl, unharmed, lost⟩
      | false =>
          have fine : ¬ exchange.Lost := by simp [faithful, gone]
          exact Or.inr ⟨same.trans gone, unharmed.snoc fine⟩
  | unfinished => exact unharmed.snoc (by simp [faithful])

/-- The loss is reported if and only if the marks show it or it is seen without a command.  A
lost command is the last one, and no command precedes what is seen without one. -/
structure Truthful (result : Progress (Remote τ) Exchange TargetError α) (closed : Prop) :
    Prop where
  reported : (exists reason, result.outcome = .failed (.notAvailable reason))
    ↔ (exists exchange, exchange ∈ result.log ∧ exchange.Lost) ∨ closed
  last : forall exchange, exchange ∈ result.log -> exchange.Lost ->
    exists earlier, result.log = earlier ++ [exchange]
      ∧ forall other, other ∈ earlier -> ¬ other.Lost
  commandless : closed -> result.log = []

namespace Truthful

variable {result : Progress (Remote τ) Exchange TargetError α}

theorem of_unharmed (unharmed : Unharmed result.log)
    (fine : forall reason, result.outcome ≠ .failed (.notAvailable reason)) :
    Truthful result False := by
  refine ⟨⟨?_, ?_⟩, fun exchange member lost => absurd lost (unharmed exchange member),
    False.elim⟩
  · rintro ⟨reason, failed⟩
    exact absurd failed (fine reason)
  · rintro (⟨exchange, member, lost⟩ | impossible)
    · exact absurd lost (unharmed exchange member)
    · exact impossible.elim

theorem of_endsInLoss (ends : EndsInLoss result.log) {reason : String}
    (failed : result.outcome = .failed (.notAvailable reason)) : Truthful result False := by
  rcases ends with ⟨earlier, last, whole, unharmed, lost⟩
  have present : last ∈ result.log := by
    rw [whole]
    exact List.mem_append_right _ (List.mem_singleton_self _)
  refine ⟨⟨fun _ => Or.inl ⟨last, present, lost⟩, fun _ => ⟨reason, failed⟩⟩, ?_, False.elim⟩
  intro exchange member lostToo
  rw [whole] at member
  rcases List.mem_append.mp member with before | final
  · exact absurd lostToo (unharmed exchange before)
  · rw [List.mem_singleton.mp final]
    exact ⟨earlier, whole, unharmed⟩

/-- Where nothing is seen without a command, the marks alone decide. -/
theorem of_open {closed : Prop} (truthful : Truthful result False) (isOpen : ¬ closed) :
    Truthful result closed := by
  rwa [eq_false isOpen]

end Truthful

namespace Candid

theorem ask (link : Link τ) (question : Wire.Call) : Candid (call link question) := by
  intro past state unharmed
  exact reaches_of_single (call_eq link question state)
    (lost_iff (link.mark question.command state.link) question) unharmed

theorem lookUp (link : Link τ) (lookup : Lookup) : Candid (lookup.act link) := by
  intro past state unharmed
  cases recalled : lookup.find state.caches with
  | some known =>
      unfold Act.Reaches
      rw [Lookup.act_of_recalled recalled link]
      rwa [List.append_nil]
  | none =>
      refine reaches_of_single (Lookup.act_of_forgotten recalled link) ?_ unharmed
      rw [lost_iff _ lookup.call]
      change (exists fault, lookup.call.verdict
        (link.send lookup.call.command state.link).outcome = .failed fault ∧ _) ↔ _
      cases lookup.call.verdict (link.send lookup.call.command state.link).outcome <;>
        simp [Outcome.map]

/-- What is dropped is no loss, and a loss is not dropped. -/
theorem tolerate {act : RemoteAct τ α} (candid : Candid act) : Candid (tolerate act) := by
  intro past state unharmed
  apply tolerate_reaches (candid past state unharmed)
  · exact fun error log after owed _ => owed
  · intro error log after owed spared
    rcases owed with ⟨gone, -⟩ | ⟨-, fine⟩
    · cases gone.symm.trans spared
    · exact fine
  · exact fun log fine => fine
  · exact fun value log after fine => fine

/-- Whatever is composed is candid. -/
theorem of_composed {link : Link τ} {asks : Wire.Call -> Prop} {notes : UInt64 -> String -> Prop}
    {act : RemoteAct τ α} (composed : Composed link asks notes act) : Candid act := by
  induction composed with
  | done value => exact fun past state unharmed => Act.reaches_pure.mpr unharmed
  | fail recoverable =>
      exact fun past state unharmed => Act.reaches_fail.mpr (Or.inr ⟨recoverable, unharmed⟩)
  | wait => exact fun past state unharmed => Act.reaches_wait.mpr unharmed
  | andThen _ _ early late =>
      exact fun past state unharmed =>
        (early past state unharmed).bind fun value log after fine => late value log after fine
  | tolerate _ candid => exact candid.tolerate
  | ask _ => exact ask link _
  | lookUp lookup => exact lookUp link lookup
  | note _ => exact fun past state unharmed => Act.reaches_update.mpr unharmed

/-- Where no command was lost, no loss is reported. -/
theorem spared {act : RemoteAct τ α} (candid : Candid act) {state : Remote τ}
    {error : TargetError} (unharmed : Unharmed (act state).log)
    (came : (act state).outcome = .failed error) : error.isDisconnect = false := by
  have owed := candid [] state (List.forall_mem_nil _)
  unfold Act.Reaches at owed
  rw [List.nil_append, came] at owed
  rcases owed with ⟨_, earlier, last, whole, _, lost⟩ | ⟨recoverable, _⟩
  · refine absurd lost (unharmed last ?_)
    rw [whole]
    exact List.mem_append_right _ (List.mem_singleton_self _)
  · exact recoverable

/-- What a candid computation reports can be told from its marks alone. -/
theorem truthful {act : RemoteAct τ α} (candid : Candid act) (state : Remote τ) :
    Truthful (act state) False := by
  have owed := candid [] state (List.forall_mem_nil _)
  unfold Act.Reaches at owed
  rw [List.nil_append] at owed
  cases came : (act state).outcome with
  | ok value =>
      simp only [came] at owed
      exact .of_unharmed owed (by rw [came]; intro reason impossible; cases impossible)
  | unfinished =>
      simp only [came] at owed
      exact .of_unharmed owed (by rw [came]; intro reason impossible; cases impossible)
  | failed error =>
      simp only [came] at owed
      rcases owed with ⟨gone, ends⟩ | ⟨recoverable, unharmed⟩
      · cases error with
        | notAvailable reason => exact .of_endsInLoss ends came
        | noSuchElement reason => cases gone
        | other reason => cases gone
      · refine .of_unharmed unharmed ?_
        rw [came]
        intro reason same
        cases same
        cases recoverable

end Candid
end Remote

open Remote in
/-- Whatever is asked of a target behind a link, short of letting the debuggee go, whatever is
remembered and whatever comes of the commands: the debuggee is reported as not available if
and only if one of the commands was lost or the events have come to an end.  A command that
was lost is the last one, and at the end of the events there is none. -/
theorem loss_is_never_hidden {τ : Type} (link : Link τ) (chainLimit : Nat) (request : Request)
    (state : Remote τ) (stays : request.kind ≠ .detach) :
    Truthful ((target link chainLimit).respond request state)
      (request.kind = .nextEvents ∧ (link.receive state.link).1 = .ok none) := by
  by_cases listens : request.kind = .nextEvents
  case neg =>
    have composed : Composed link (fun _ => True) (fun _ _ => True)
        ((target link chainLimit).respond request) :=
      Composed.respond (fun _ _ => trivial) chainLimit (fun _ _ => trivial) listens stays
    exact ((Candid.of_composed composed).truthful state).of_open fun closed => listens closed.1
  case pos =>
    cases request with
    | nextEvents =>
        change Truthful (nextEvents link state) (Request.nextEvents.kind = .nextEvents ∧ _)
        rcases nextEvents_cases link state with
          ⟨set, came, same⟩ | ⟨closed, same⟩ | ⟨waits, same⟩
        · have composed : Composed link (fun _ => True) (fun _ _ => True) (report link set) :=
            Composed.report fun _ _ _ _ _ => trivial
          rw [same, came]
          refine ((Candid.of_composed composed).truthful (received link state)).of_open ?_
          exact fun closed => by cases closed.2
        · rw [same, closed]
          refine ⟨⟨fun _ => Or.inr ⟨rfl, rfl⟩, fun _ => ⟨_, rfl⟩⟩, ?_, fun _ => rfl⟩
          exact fun exchange member => absurd member List.not_mem_nil
        · rw [same, waits]
          refine Truthful.of_open (.of_unharmed (List.forall_mem_nil _) ?_) ?_
          · intro reason impossible
            cases impossible
          · exact fun closed => by cases closed.2
    | _ => cases listens

/-! ## A debuggee that dies in the middle of an answer -/

/-- A link that is told beforehand what comes of the commands. -/
def rehearsed : Link (List (Outcome Wire.Fault Wire.Reply)) where
  send _
    | [] => ⟨.failed .closed, none, []⟩
    | outcome :: others => ⟨outcome, some 0, others⟩
  receive outcomes := (.ok none, outcomes)

/-- One frame, a class without a name, and then the virtual machine is dead. -/
def lastWords : List (Outcome Wire.Fault Wire.Reply) :=
  [.ok ⟨0, 0, Wire.listBytes Wire.Frame.bytes [⟨1, ⟨1, 2, 3, 4⟩⟩]⟩, .ok ⟨0, 101, []⟩,
    .ok ⟨0, 112, []⟩, .ok ⟨0, 0, []⟩]

open Remote in
theorem last_words_are_reported :
    (Request.frames 1 none).kind ≠ .detach
      ∧ Truthful ((target rehearsed 1).respond (.frames 1 none) ⟨lastWords, {}⟩)
        ((Request.frames 1 none).kind = .nextEvents
          ∧ (rehearsed.receive lastWords).1 = .ok none)
      ∧ ((target rehearsed 1).respond (.frames 1 none) ⟨lastWords, {}⟩).outcome
        = .failed (.notAvailable "JDWP error code 112: VM_DEAD")
      ∧ ((target rehearsed 1).respond (.frames 1 none) ⟨lastWords, {}⟩).log.map Exchange.command
        = [Wire.Call.command (.frames 1 0 (-1)), Wire.Call.command (.signature 2),
          Wire.Call.command (.methods 2)] := by
  refine ⟨by decide, loss_is_never_hidden rehearsed 1 (.frames 1 none) ⟨lastWords, {}⟩
    (by decide), rfl, rfl⟩

end Debuggee
end LineDebugger
