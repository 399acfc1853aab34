import LineDebugger.Proofs.Debuggee.Transparency

namespace LineDebugger
namespace Debuggee

open Connection

/-!
# Links over which the same command always has the same reply

A link is fixed if every command is replied to, and if but for its id the reply depends on the
command alone.  Nothing is assumed of the events that are received over it.  They may tell any
names of classes, so what is remembered of names may be wrong.  What is remembered of methods,
fields, lines and variables comes from replies only, and so it is what would be replied again.
-/

variable {τ α : Type}

/-- As long as the link is kept, a command comes to the reply that is fixed for it. -/
structure Fixed (link : Link τ) (reply : Wire.Command -> Wire.Reply) (kept : τ -> Prop) :
    Prop where
  replies : forall command state, kept state -> exists id,
    (link.send command state).outcome = .ok { reply command with id }
  sends : forall command state, kept state -> kept (link.send command state).link
  receives : forall state, kept state -> kept (link.receive state).2

/-- What a call comes to, going by the replies that are fixed. -/
def settledBy (reply : Wire.Command -> Wire.Reply) (question : Wire.Call) :
    Except Wire.Fault question.Answer :=
  question.answer (reply question.command)

/-- No event sets at all. -/
def noEvents (_ : Wire.EventSet) : Prop := False

/-- Where no event sets come, nothing is held back. -/
theorem Expects.free {π : Type} {client : Client π} (expects : Expects noEvents client) :
    client.multiplexer.holdsBack = false := by
  have none : client.multiplexer.queued = [] :=
    List.eq_nil_iff_forall_not_mem.mpr fun set member =>
      expects.told set (List.mem_append_left _ member)
  rw [Multiplexer.holdsBack, none]
  rfl

/-- A client of a machine that reports nothing is a fixed link. -/
theorem Steadfast.fixed {π : Type} {peer : Peer π} {verdict : Wire.Command -> Wire.Reply}
    (steadfast : Steadfast noEvents peer verdict) :
    Fixed (Client.link peer) verdict (Expects noEvents) where
  replies command state expects := by
    rcases expects.send steadfast command with ⟨came | ⟨-, holds⟩, after⟩
    · exact ⟨state.nextId, came⟩
    · exact absurd (after.free.symm.trans holds) (by decide)
  sends command _ expects := (expects.send steadfast command).2
  receives _ expects := expects.receive.1

namespace Fixed

variable {link : Link τ} {reply : Wire.Command -> Wire.Reply} {kept : τ -> Prop}

/-- The id of a reply makes no difference to what it says. -/
theorem verdict (fixed : Fixed link reply kept) {state : τ} (now : kept state)
    (question : Wire.Call) :
    question.verdict (link.send question.command state).outcome
      = .ofExcept (settledBy reply question) := by
  obtain ⟨id, came⟩ := fixed.replies question.command state now
  rw [came]
  rfl

end Fixed

/-! ## Machines that only reply -/

/-- A machine that replies to every command and sends nothing else. -/
def replying (reply : Wire.Command -> Wire.Reply) : Peer Unit where
  react packet state :=
    ({ bytes := { reply packet.command with id := packet.id : Wire.Reply }.bytes }, state)

theorem replying_fixed {reply : Wire.Command -> Wire.Reply}
    (small : forall command,
      Wire.headerSize + (reply command).data.length ≤ Wire.maxPacketSize) :
    Fixed (Client.link (replying reply)) reply (Expects noEvents) := by
  have steadfast : Steadfast noEvents (replying reply) reply := by
    intro packet state
    have complete :
        ({ reply packet.command with id := packet.id } : Wire.Reply).packet.Complete :=
      Wire.Reply.packet_complete (small packet.command)
    have cut := Wire.Packet.split_complete complete
    refine ⟨⟨rfl, _, cut, ?_⟩, Reaction.replies_alone (small packet.command)⟩
    intro set member
    simp [Multiplexer.eventSet?, Wire.Reply.packet_isReply] at member
  exact steadfast.fixed

/-- It has said nothing before it is asked. -/
theorem replying_silent : Expects noEvents (Client.opened () { bytes := [] }) :=
  Expects.opened ⟨rfl, [], Wire.Packet.split_nil, List.forall_mem_nil _⟩ ()

/-! ## What is remembered -/

/-- What is remembered, without the names of classes. -/
def Caches.nameless (caches : Caches) : Caches := { caches with typeNames := [] }

/-- Whether it is a name that is looked up. -/
def Lookup.forName : Lookup -> Bool
  | .typeName _ => true
  | _ => false

theorem Lookup.find_nameless {lookup : Lookup} (other : lookup.forName = false)
    (caches : Caches) : lookup.find caches.nameless = lookup.find caches := by
  cases lookup <;> first | rfl | cases other

theorem Lookup.store_nameless {lookup : Lookup} (other : lookup.forName = false)
    (found : lookup.Answer) (caches : Caches) :
    (lookup.store found caches).nameless = lookup.store found caches.nameless := by
  cases lookup <;> first | rfl | cases other

namespace Remote

/-- The link is kept, and whatever is remembered but names of classes is what would be replied. -/
structure Informed (reply : Wire.Command -> Wire.Reply) (kept : τ -> Prop) (state : Remote τ) :
    Prop where
  link : kept state.link
  caches : Faithful reply state.caches.nameless

namespace Informed

variable {link : Link τ} {reply : Wire.Command -> Wire.Reply} {kept : τ -> Prop}
  {state : Remote τ}

theorem fresh {start : τ} (begins : kept start) :
    Informed reply kept (⟨start, {}⟩ : Remote τ) :=
  ⟨begins, Faithful.fresh reply⟩

variable (fixed : Fixed link reply kept)
include fixed

theorem call (informed : Informed reply kept state) (question : Wire.Call) :
    Informed reply kept (Remote.call link question state).state := by
  rw [call_eq]
  exact ⟨fixed.sends _ _ informed.link, informed.caches⟩

/-- A lookup comes to the same, whether it is recalled or put again, unless it is for a name. -/
theorem lookUp (informed : Informed reply kept state) (lookup : Lookup) :
    Informed reply kept (lookup.act link state).state ∧
      (lookup.act link state).outcome ≠ .unfinished ∧
      (lookup.forName = false -> (lookup.act link state).outcome
        = ((Outcome.ofExcept (settledBy reply lookup.call)).map lookup.settle).mapError
          TargetError.ofFault) := by
  cases recalled : lookup.find state.caches with
  | some known =>
      rw [Lookup.act_of_recalled recalled]
      refine ⟨informed, (by intro impossible; cases impossible), fun other => ?_⟩
      rw [← Lookup.find_nameless other] at recalled
      obtain ⟨answer, given, rfl⟩ := informed.caches lookup known recalled
      rw [show settledBy reply lookup.call = .ok answer from given]
      rfl
  | none =>
      have settled := fixed.verdict informed.link lookup.call
      rw [Lookup.act_of_forgotten recalled, settled]
      have after := fixed.sends lookup.call.command state.link informed.link
      cases given : settledBy reply lookup.call with
      | error fault =>
          exact ⟨⟨after, informed.caches⟩, (by intro impossible; cases impossible), fun _ => rfl⟩
      | ok answer =>
          refine ⟨⟨after, ?_⟩, (by intro impossible; cases impossible), fun _ => rfl⟩
          cases named : lookup.forName with
          | true =>
              cases lookup with
              | typeName type => exact informed.caches
              | _ => cases named
          | false =>
              dsimp only
              rw [Outcome.ofExcept, Lookup.learn, Lookup.store_nameless named]
              exact informed.caches.store lookup given

/-- Whatever is noted of the names of classes, a composed computation learns nothing else that is
not replied. -/
theorem of_composed {asks : Wire.Call -> Prop} {notes : UInt64 -> String -> Prop}
    {act : RemoteAct τ α} (composed : Composed link asks notes act)
    (informed : Informed reply kept state) : Informed reply kept (act state).state :=
  composed.preserves (Informed reply kept) (fun question _ _ now => now.call fixed question)
    (fun lookup _ now => (now.lookUp fixed lookup).1) (fun _ _ _ _ now => ⟨now.link, now.caches⟩)
    state informed

theorem respond (informed : Informed reply kept state) (chainLimit : Nat) (request : Request) :
    Informed reply kept ((target link chainLimit).respond request state).state := by
  have shape : request = .nextEvents ∨ request = .detach
      ∨ Composed link (fun _ => True) (fun _ _ => True)
          ((target link chainLimit).respond request) :=
    Composed.respond_cases (fun _ _ => trivial) chainLimit request fun _ _ => trivial
  rcases shape with rfl | rfl | composed
  · have after : Informed reply kept (received link state) :=
      ⟨fixed.receives _ informed.link, informed.caches⟩
    change Informed reply kept (nextEvents link state).state
    rcases nextEvents_cases link state with ⟨set, _, same⟩ | ⟨_, same⟩ | ⟨_, same⟩ <;> rw [same]
    · have composed : Composed link (fun _ => True) (fun _ _ => True) (report link set) :=
        Composed.report fun _ _ _ _ _ => trivial
      exact after.of_composed fixed composed
    · exact after
    · exact after
  · change Informed reply kept (detach link state).state
    rw [detach_eq]
    exact informed.call fixed .dispose
  · exact informed.of_composed fixed composed

/-- It is so at the beginning of every turn. -/
theorem course {start : τ} (begins : kept start) (chainLimit : Nat) (requests : List Request) :
    forall turn, turn ∈ (target link chainLimit).course requests ⟨start, {}⟩ ->
      Informed reply kept turn.before :=
  Target.course_keeps (Informed reply kept)
    (fun turn now => now.respond fixed chainLimit turn.request) (fresh begins)

end Informed
end Remote
end Debuggee
end LineDebugger
