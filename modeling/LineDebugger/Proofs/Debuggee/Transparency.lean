import LineDebugger.Proofs.Connection.Client
import LineDebugger.Proofs.Connection.Delivery
import LineDebugger.Proofs.Debuggee.Thrift

namespace LineDebugger
namespace Debuggee

open Connection

/-!
# What is remembered makes no difference to the answers

A virtual machine is constant if what it replies to a command depends on the command alone,
and if the classes that it reports as prepared have the signatures that it would reply.  From
such a machine nothing can be learned that is not true for good.  So whatever is remembered is
what would be replied again, and an answer is the same whether it is put together from memory
or from new commands.

`Settled` is this for one computation: there is an outcome that it has in every state in which
all that is remembered is true.  The outcome is found by following the composition of the
computation, and every part leaves such a state behind.

What is answered from memory needs no room, and a command does.  So the outcome may also be that
the reply is held back by event sets.  This is all that memory can make a difference to.
-/

/-! ## Constant machines -/

/-- The signature that replies to such a command would give for a type. -/
def Signed (verdict : Wire.Command -> Wire.Reply) (type : UInt64) (signature : String) : Prop :=
  (Wire.Call.signature type).answer (verdict (Wire.Call.command (.signature type)))
    = .ok signature

/-- The name is that of the type, if one goes by such replies. -/
def Named (verdict : Wire.Command -> Wire.Reply) (type : UInt64) (name : String) : Prop :=
  exists signature, Signed verdict type signature ∧ name = TypeName.ofSignature signature

/-- Every class that the set reports as prepared has the signature that would be replied. -/
def Honest (verdict : Wire.Command -> Wire.Reply) (set : Wire.EventSet) : Prop :=
  forall event, event ∈ set.events -> forall type signature,
    Remote.Tells event type signature -> Signed verdict type signature

/-- Whole packets are written, the connection stays open, and all event sets are of a kind. -/
def Brings (kind : Wire.EventSet -> Prop) (reaction : Reaction) : Prop :=
  reaction.closes = false
    ∧ exists packets, Wire.Packet.split reaction.bytes = ⟨packets, some []⟩
      ∧ forall set, set ∈ packets.filterMap Multiplexer.eventSet? -> kind set

/-- Every command is replied to, whatever has happened before, and but for the id the reply
depends on the command alone. -/
def Steadfast {π : Type} (kind : Wire.EventSet -> Prop) (peer : Peer π)
    (verdict : Wire.Command -> Wire.Reply) : Prop :=
  forall packet state, Brings kind (peer.react packet state).1
    ∧ (peer.react packet state).1.Replies { verdict packet.command with id := packet.id }

/-- Every command is replied to by the command alone, and all event sets are honest. -/
def Constant {π : Type} (peer : Peer π) (verdict : Wire.Command -> Wire.Reply) : Prop :=
  Steadfast (Honest verdict) peer verdict

/-- A client that has only ever heard from a machine which reports event sets of a kind. -/
structure Expects {π : Type} (kind : Wire.EventSet -> Prop) (client : Client π) : Prop
    extends client.Ready where
  told : forall set, set ∈ client.multiplexer.prospects -> kind set

namespace Expects

variable {π : Type} {kind : Wire.EventSet -> Prop} {verdict : Wire.Command -> Wire.Reply}
  {client : Client π} {peer : Peer π}

theorem takeIn (expects : Expects kind client) {reaction : Reaction}
    (brings : Brings kind reaction) : Expects kind (client.takeIn reaction).2 := by
  rcases brings with ⟨isOpen, packets, cut, told⟩
  refine ⟨expects.toReady.takeIn isOpen (congrArg Wire.Packet.Cut.remainder cut), ?_⟩
  rw [Client.takeIn_open isOpen, expects.whole.feed_prospects, cut]
  exact List.forall_mem_append.mpr ⟨expects.told, told⟩

theorem opened {opening : Reaction} (brings : Brings kind opening) (start : π) :
    Expects kind (Client.opened start opening) := by
  have fresh : Expects kind ({ peer := start } : Client π) :=
    ⟨Client.Ready.fresh start, by simp [Multiplexer.prospects, Wire.Packet.split_nil]⟩
  exact fresh.takeIn brings

theorem waiting (expects : Expects kind client) (start : π) :
    Expects kind (client.waiting start) := by
  refine ⟨expects.toReady.waiting start, fun set member => ?_⟩
  have queued : set ∈ client.multiplexer.queued := by
    simpa [Client.waiting, Multiplexer.prospects, Wire.Packet.split_nil] using member
  exact expects.told set (List.mem_append_left _ queued)

/-- A command comes to what is always replied, unless the reply is held back. -/
theorem send (expects : Expects kind client) (steadfast : Steadfast kind peer verdict)
    (command : Wire.Command) :
    ((Client.send peer command client).outcome
          = .ok { verdict command with id := client.nextId }
        ∨ ((Client.send peer command client).outcome = .unfinished
          ∧ (Client.send peer command client).link.multiplexer.holdsBack = true))
      ∧ Expects kind (Client.send peer command client).link := by
  rcases steadfast ⟨client.nextId, command⟩ client.peer with ⟨brings, replies⟩
  constructor
  · obtain ⟨answered, waits⟩ :=
      Client.send_outcome expects.sound expects.whole.reading rfl replies
    exact (Decidable.em _).imp answered waits
  · cases holds : client.multiplexer.holdsBack with
    | true =>
        rw [Client.send_of_holdsBack peer expects.whole.reading holds]
        exact ⟨expects.toReady.stuck command, expects.told⟩
    | false =>
        rw [Client.send_of_free expects.sound expects.whole.reading holds]
        exact (expects.waiting _).takeIn brings

theorem receive (expects : Expects kind client) :
    Expects kind client.receive.2
      ∧ forall set, client.receive.1 = .ok (some set) -> kind set := by
  have ready := expects.toReady.receive
  cases queued : client.multiplexer.queued with
  | cons set others =>
      obtain ⟨came, sets, -⟩ :=
        Multiplexer.receive_prospects (fun _ => expects.whole.reading) queued
      have told := expects.told
      rw [sets] at told
      rcases List.forall_mem_cons.mp told with ⟨first, later⟩
      refine ⟨⟨ready, later⟩, ?_⟩
      rw [Client.receive_of_events came]
      rintro other ⟨⟩
      exact first
  | nil =>
      unfold Client.receive Multiplexer.receive at ready ⊢
      rw [queued] at ready ⊢
      rw [expects.whole.reading]
      exact ⟨⟨ready, expects.told⟩, by rintro set ⟨⟩⟩

end Expects

/-! ## Settled computations -/

namespace Remote

variable {π α β : Type} {verdict : Wire.Command -> Wire.Reply} {peer : Peer π}

/-- What is remembered is what would be replied. -/
def Faithful (verdict : Wire.Command -> Wire.Reply) (caches : Caches) : Prop :=
  forall (lookup : Lookup) (known : lookup.Answer), lookup.find caches = some known ->
    exists answer, lookup.call.answer (verdict lookup.command) = .ok answer
      ∧ known = lookup.settle answer

/-- Nothing has been heard or is remembered that is not true for good. -/
def Steady (verdict : Wire.Command -> Wire.Reply) (state : Remote (Client π)) : Prop :=
  Expects (Honest verdict) state.link ∧ Faithful verdict state.caches

theorem Faithful.fresh (verdict : Wire.Command -> Wire.Reply) : Faithful verdict {} := by
  intro lookup known recalled
  rw [lookup.find_fresh] at recalled
  cases recalled

theorem Faithful.store {caches : Caches} (faithful : Faithful verdict caches) (lookup : Lookup)
    {answer : lookup.Answer} (given : lookup.call.answer (verdict lookup.command) = .ok answer) :
    Faithful verdict (lookup.store (lookup.settle answer) caches) := by
  intro other known recalled
  by_cases same : other = lookup
  · subst same
    rw [Lookup.find_store] at recalled
    cases recalled
    exact ⟨answer, given, rfl⟩
  · rw [Lookup.find_store_of_ne same] at recalled
    exact faithful other known recalled

/-- In every steady state the computation has the same outcome, unless it is held back, and it
leads to another such state. -/
def Settled (verdict : Wire.Command -> Wire.Reply) (act : RemoteAct (Client π) α) : Prop :=
  UniformUnless (fun state => state.link.multiplexer.holdsBack = true) (Steady verdict) act

namespace Settled

theorem ask (constant : Constant peer verdict) (question : Wire.Call) :
    Settled verdict (call (Client.link peer) question) := by
  refine ⟨(question.verdict (.ok (verdict question.command))).mapError TargetError.ofFault,
    fun state steady => ?_⟩
  rcases steady.1.send constant question.command with ⟨came, expects⟩
  rw [call_eq]
  refine ⟨?_, expects, steady.2⟩
  change (question.verdict (Client.send peer question.command state.link).outcome).mapError
    TargetError.ofFault = _ ∨ _
  rcases came with came | ⟨waits, holds⟩
  · rw [came]
    exact .inl rfl
  · refine .inr ⟨?_, holds⟩
    change (question.verdict (Client.send peer question.command state.link).outcome).mapError
      TargetError.ofFault = .unfinished
    rw [waits]
    rfl

theorem lookUp (constant : Constant peer verdict) (lookup : Lookup) :
    Settled verdict (lookup.act (Client.link peer)) := by
  refine ⟨((lookup.call.verdict (.ok (verdict lookup.command))).map lookup.settle).mapError
    TargetError.ofFault, fun state steady => ?_⟩
  -- The outcome is named after what would be replied, so that memory and wire have to agree.
  cases recalled : lookup.find state.caches with
  | some known =>
      rcases steady.2 lookup known recalled with ⟨answer, given, rfl⟩
      rw [Lookup.act_of_recalled recalled, Wire.Call.verdict, given]
      exact ⟨.inl rfl, steady⟩
  | none =>
      rcases steady.1.send constant lookup.command with ⟨came, expects⟩
      rcases came with came | ⟨waits, holds⟩
      · have arrived : lookup.call.verdict
            ((Client.link peer).send lookup.call.command state.link).outcome
              = lookup.call.verdict (.ok (verdict lookup.command)) := by
          change lookup.call.verdict (Client.send peer lookup.command state.link).outcome = _
          rw [came]
          rfl
        rw [Lookup.act_of_forgotten recalled, arrived]
        refine ⟨.inl rfl, expects, ?_⟩
        dsimp only
        rw [Wire.Call.verdict]
        cases given : lookup.call.answer (verdict lookup.command) with
        | ok answer => exact steady.2.store lookup given
        | error fault => exact steady.2
      · have waiting : lookup.call.verdict
            ((Client.link peer).send lookup.call.command state.link).outcome = .unfinished := by
          change lookup.call.verdict (Client.send peer lookup.command state.link).outcome = _
          rw [waits]
          rfl
        rw [Lookup.act_of_forgotten recalled, waiting]
        exact ⟨.inr ⟨rfl, holds⟩, expects, steady.2⟩

/-- Whatever is composed is settled, if only true names are noted. -/
theorem of_composed (constant : Constant peer verdict) {asks : Wire.Call -> Prop}
    {act : RemoteAct (Client π) α}
    (composed : Composed (Client.link peer) asks (Named verdict) act) : Settled verdict act := by
  refine UniformUnless.of_composed (fun question _ => ask constant question) (lookUp constant) ?_
    composed
  rintro type name ⟨signature, signed, rfl⟩
  refine ⟨.ok (), fun state steady => ⟨.inl rfl, steady.1, ?_⟩⟩
  exact steady.2.store (.typeName type) signed

theorem report (constant : Constant peer verdict) {set : Wire.EventSet}
    (honest : Honest verdict set) : Settled verdict (report (Client.link peer) set) := by
  have composed : Composed (Client.link peer) (fun _ => True) (Named verdict)
      (Remote.report (Client.link peer) set) :=
    Composed.report fun event member type signature tells =>
      ⟨signature, honest event member type signature tells, rfl⟩
  exact of_composed constant composed

theorem detach (constant : Constant peer verdict) :
    Settled verdict (detach (Client.link peer)) := by
  rcases ask constant .dispose with ⟨outcome, settled⟩
  refine ⟨detached outcome, fun state steady => ?_⟩
  rcases settled state steady with ⟨came | ⟨waits, holds⟩, after⟩
  · rw [detach_eq, came]
    exact ⟨.inl rfl, after⟩
  · rw [detach_eq, waits]
    exact ⟨.inr ⟨rfl, holds⟩, after⟩

end Settled

end Remote

def prepared : Wire.EventSet := ⟨2, [⟨8, 1, .classPrepare 1 1 7 "LA;" 7⟩]⟩

end Debuggee
end LineDebugger
