import LineDebugger.Proofs.Debuggee.Fixed

namespace LineDebugger
namespace Debuggee

open Connection

/-!
# What there is to find out

Over a fixed link it is settled beforehand what a lookup comes to: to what is remembered, and else
to what would be replied.  The outlook of a memory says so for all lookups at once.  To make a
lookup moves an answer from the replies to the memory, and leaves the outlook as it was.

Nothing is assumed of the memory, which may hold anything at all.  Still, as long as no events are
taken, whatever the target does leaves the outlook alone, and how it comes out depends on nothing
but the outlook.  So two answers can be compared although they are given in different states, each
with its own lookups done before.
-/

variable {τ α : Type}

/-- What every lookup comes to. -/
@[reducible] def Outlook : Type := (lookup : Lookup) -> Except Wire.Fault lookup.Answer

/-- What is remembered, and of all else what would be replied. -/
def Caches.outlook (reply : Wire.Command -> Wire.Reply) (caches : Caches) : Outlook :=
  fun lookup =>
    match lookup.find caches with
    | some known => .ok known
    | none => (settledBy reply lookup.call).map lookup.settle

section Memory

variable {reply : Wire.Command -> Wire.Reply} {caches : Caches} {lookup : Lookup}

theorem Caches.outlook_of_recalled {known : lookup.Answer}
    (recalled : lookup.find caches = some known) : caches.outlook reply lookup = .ok known := by
  unfold outlook
  rw [recalled]

theorem Caches.outlook_of_forgotten (forgotten : lookup.find caches = none) :
    caches.outlook reply lookup = (settledBy reply lookup.call).map lookup.settle := by
  unfold outlook
  rw [forgotten]

/-- To remember what would be replied makes no difference to what there is to find out. -/
theorem Caches.outlook_store {answer : lookup.Answer}
    (forgotten : lookup.find caches = none) (given : settledBy reply lookup.call = .ok answer) :
    (lookup.store (lookup.settle answer) caches).outlook reply = caches.outlook reply := by
  funext other
  by_cases same : other = lookup
  · subst same
    rw [outlook_of_recalled (Lookup.find_store _ _ _), outlook_of_forgotten forgotten, given]
    rfl
  · unfold outlook
    rw [Lookup.find_store_of_ne same]

/-- Where what is remembered is true, only the replies count. -/
theorem Remote.Faithful.outlook_eq (faithful : Faithful reply caches.nameless)
    (other : lookup.forName = false) :
    caches.outlook reply lookup = (settledBy reply lookup.call).map lookup.settle := by
  cases recalled : lookup.find caches with
  | none => exact Caches.outlook_of_forgotten recalled
  | some known =>
      rw [← Lookup.find_nameless other] at recalled
      obtain ⟨answer, given, rfl⟩ := faithful lookup known recalled
      rw [Lookup.find_nameless other] at recalled
      have settled : settledBy reply lookup.call = .ok answer := given
      rw [Caches.outlook_of_recalled recalled, settled]
      rfl

end Memory

namespace Remote

variable {link : Link τ} {reply : Wire.Command -> Wire.Reply} {kept : τ -> Prop}
  {outlook : Outlook} {state : Remote τ}

/-- The link is kept, and this is what there is to find out. -/
structure Faces (reply : Wire.Command -> Wire.Reply) (kept : τ -> Prop) (outlook : Outlook)
    (state : Remote τ) : Prop where
  link : kept state.link
  outlook : state.caches.outlook reply = outlook

namespace Faces

theorem of_kept (now : kept state.link) :
    Faces reply kept (state.caches.outlook reply) state := ⟨now, rfl⟩

variable (fixed : Fixed link reply kept)
include fixed

theorem call (faces : Faces reply kept outlook state) (question : Wire.Call) :
    Faces reply kept outlook (Remote.call link question state).state ∧
      (Remote.call link question state).outcome
        = (Outcome.ofExcept (settledBy reply question)).mapError TargetError.ofFault := by
  rw [call_eq]
  exact ⟨⟨fixed.sends _ _ faces.link, faces.outlook⟩,
    congrArg (Outcome.mapError TargetError.ofFault) (fixed.verdict faces.link question)⟩

theorem lookUp (faces : Faces reply kept outlook state) (lookup : Lookup) :
    Faces reply kept outlook (lookup.act link state).state ∧
      (lookup.act link state).outcome
        = (Outcome.ofExcept (outlook lookup)).mapError TargetError.ofFault := by
  cases recalled : lookup.find state.caches with
  | some known =>
      rw [Lookup.act_of_recalled recalled, ← faces.outlook, Caches.outlook_of_recalled recalled]
      exact ⟨⟨faces.link, rfl⟩, rfl⟩
  | none =>
      have after := fixed.sends lookup.call.command state.link faces.link
      rw [Lookup.act_of_forgotten recalled, fixed.verdict faces.link lookup.call, ← faces.outlook,
        Caches.outlook_of_forgotten recalled]
      cases given : settledBy reply lookup.call with
      | error fault => exact ⟨⟨after, rfl⟩, rfl⟩
      | ok answer => exact ⟨⟨after, Caches.outlook_store recalled given⟩, rfl⟩

/-- As long as no name is noted, how a computation comes out depends on the outlook alone. -/
theorem uniform {asks : Wire.Call -> Prop} {act : RemoteAct τ α}
    (composed : Composed link asks (fun _ _ => False) act) :
    Uniform (Faces reply kept outlook) act :=
  Uniform.of_composed
    (fun question _ => ⟨_, fun _ faces => (faces.call fixed question).symm⟩)
    (fun lookup => ⟨_, fun _ faces => (faces.lookUp fixed lookup).symm⟩)
    (fun _ _ noted => noted.elim) composed

/-- All that is asked of the target but for events leaves the outlook as it is. -/
theorem respond (faces : Faces reply kept outlook state) (chainLimit : Nat) {request : Request}
    (listens : request.kind ≠ .nextEvents) :
    Faces reply kept outlook ((target link chainLimit).respond request state).state := by
  have shape : request = .nextEvents ∨ request = .detach
      ∨ Composed link (fun _ => True) (fun _ _ => False)
          ((target link chainLimit).respond request) :=
    Composed.respond_cases (fun _ _ => trivial) chainLimit request fun _ _ => trivial
  rcases shape with rfl | rfl | composed
  · exact absurd rfl listens
  · change Faces reply kept outlook (detach link state).state
    rw [detach_eq]
    exact (faces.call fixed .dispose).1
  · obtain ⟨outcome, same⟩ := uniform fixed composed
    exact (same state faces).2

theorem course (faces : Faces reply kept outlook state) (chainLimit : Nat)
    {requests : List Request}
    (listens : forall request, request ∈ requests -> request.kind ≠ .nextEvents) :
    forall turn, turn ∈ (target link chainLimit).course requests state ->
      Faces reply kept outlook turn.before := by
  induction requests generalizing state with
  | nil => exact List.forall_mem_nil _
  | cons request others inductionHypothesis =>
      rcases List.forall_mem_cons.mp listens with ⟨first, later⟩
      refine List.forall_mem_cons.mpr ⟨faces, ?_⟩
      have onward := inductionHypothesis (faces.respond fixed chainLimit first) later
      cases came : ((target link chainLimit).respond request state).outcome with
      | unfinished => exact List.forall_mem_nil _
      | _ => exact onward

end Faces
end Remote
end Debuggee
end LineDebugger
