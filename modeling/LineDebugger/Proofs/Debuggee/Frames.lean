import LineDebugger.Proofs.Debuggee.LineShown

namespace LineDebugger
namespace Debuggee

open Connection

/-!
# Some frames or all of them

The frames of a thread are always fetched all at once, and only those that are wanted are then
described.  So the first frames are the same whether more of them are wanted or not, and what is
done for them is done first.  This holds over every link.

What is missing of the debug information of a frame makes no difference to where the frame is.
Its line is shown if and only if the line table of its method can be read and has one for it.
-/

namespace Remote

variable {τ α β : Type} {link : Link τ} {reply : Wire.Command -> Wire.Reply} {kept : τ -> Prop}
  {state : Remote τ}

/-! ## The first of many -/

/-- To treat the first elements only is to begin to treat them all. -/
theorem each_take {f : α -> RemoteAct τ β} {values : List α} {results : List β}
    (treated : (Act.each f values state).outcome = .ok results) (count : Nat) :
    (Act.each f (values.take count) state).outcome = .ok (results.take count) ∧
      (Act.each f (values.take count) state).log <+: (Act.each f values state).log := by
  induction values generalizing state results count with
  | nil =>
      cases treated
      exact ⟨by rw [List.take_nil, List.take_nil]; rfl, by rw [List.take_nil]⟩
  | cons first others inductionHypothesis =>
      obtain ⟨result, more, came, rest, rfl⟩ := each_cons_eq_ok_iff.mp treated
      cases count with
      | zero => exact ⟨rfl, List.nil_prefix⟩
      | succ count =>
          obtain ⟨same, begins⟩ := inductionHypothesis rest count
          rw [List.take_succ_cons, List.take_succ_cons, each_cons came, each_cons came, same]
          exact ⟨rfl, (List.prefix_append_right_inj _).mpr begins⟩

/-- A frame with its position described. -/
def showFrame (link : Link τ) (frame : Wire.Frame) : RemoteAct τ StackFrame := do
  return { id := frame.id, location := ← describe link frame.location }

theorem frames_eq (link : Link τ) (thread : UInt64) (limit : Option Nat) :
    frames link thread limit = (call link (.frames thread 0 (-1)) >>= fun all =>
      Act.each (showFrame link) (limit.elim all fun count => List.take count all)) := by
  cases limit <;> rfl

/-- The first frames are the first of all frames, and what is done for them is done first. -/
theorem frames_take {thread : UInt64} {shown : List StackFrame}
    (came : (frames link thread none state).outcome = .ok shown) (count : Nat) :
    (frames link thread (some count) state).outcome = .ok (shown.take count) ∧
      (frames link thread (some count) state).log <+: (frames link thread none state).log := by
  rw [frames_eq link thread none] at came ⊢
  rw [frames_eq link thread (some count)]
  obtain ⟨all, own, between, ran, whole⟩ := Act.ok_of_bind came
  rw [whole] at came ⊢
  rw [Act.bind_ok ran]
  obtain ⟨same, begins⟩ := each_take came count
  exact ⟨same, (List.prefix_append_right_inj own).mpr begins⟩

end Remote

/-! ## What is shown of a frame -/

/-- The frame is shown where it is, with its line if there is one to be found out. -/
structure Framed (outlook : Outlook) (frame : Wire.Frame) (shown : StackFrame) : Prop where
  id : shown.id = frame.id
  located : Located frame.location shown.location
  line : forall line, shown.location.line = some line ↔
    exists table found,
      outlook (.lineTable frame.location.classId frame.location.methodId) = .ok table ∧
        Wire.LineTable.lineForIndex table frame.location.index = some found ∧
        found.toInt = line.toNat

namespace Remote

variable {τ : Type} {link : Link τ} {reply : Wire.Command -> Wire.Reply} {kept : τ -> Prop}
  {state : Remote τ} {outlook : Outlook}

section Fixed

variable (fixed : Fixed link reply kept)
include fixed

theorem showFrame_framed (frame : Wire.Frame) (past : List Exchange)
    (faces : Faces reply kept outlook state) :
    (showFrame link frame).Reaches lossOnly
      (fun shown _ after => Faces reply kept outlook after ∧ Framed outlook frame shown)
      past state := by
  refine (describe_faces fixed frame.location past faces).bind
    fun location log after ⟨faces, located, shown⟩ => ?_
  refine Act.reaches_pure.mpr ⟨faces, rfl, located, fun line => ?_⟩
  rw [shown]
  cases outlook (.lineTable frame.location.classId frame.location.methodId) with
  | error fault =>
      refine iff_of_false (by intro impossible; cases impossible) ?_
      rintro ⟨_, _, impossible, _⟩
      cases impossible
  | ok table =>
      simp only [Except.toOption, Option.bind_some, lineAt?_eq_some_iff, Except.ok.injEq,
        exists_and_left, exists_eq_left']

/-- Once the frames have been fetched, nothing goes wrong but that the debuggee is lost. -/
theorem frames_framed {thread : UInt64} {all : List Wire.Frame}
    (fetched : settledBy reply (.frames thread 0 (-1)) = .ok all) (limit : Option Nat)
    (past : List Exchange) (faces : Faces reply kept outlook state) :
    (frames link thread limit).Reaches lossOnly
      (fun shown _ _ =>
        List.Forall₂ (Framed outlook) (limit.elim all fun count => all.take count) shown)
      past state := by
  obtain ⟨between, came⟩ := faces.call fixed (.frames thread 0 (-1))
  rw [fetched] at came
  have asked : (call link (.frames thread 0 (-1))).Reaches lossOnly
      (fun found _ after => found = all ∧ Faces reply kept outlook after) past state := by
    unfold Act.Reaches
    rw [came]
    exact ⟨rfl, between⟩
  rw [frames_eq]
  refine asked.bind fun found log after ⟨same, faces⟩ => ?_
  subst same
  exact (each_keeps (fun frame past _ faces => showFrame_framed fixed frame past faces) _ log
    faces).widen fun _ _ _ shown => shown.2

end Fixed

/-- From whatever is remembered: the first frames are the first of all frames, and what is done for
them is done first.  Where every command has the same reply each time, they are shown where the
machine says that they are, each with a line if and only if the line table of its method can be read
and has a line for it that is not negative.  Nothing but the loss of the debuggee prevents it. -/
theorem some_frames_or_all (link : Link τ) (chainLimit : Nat) (thread : UInt64)
    (present : Remote τ) :
    (forall shown,
      ((target link chainLimit).respond (.frames thread none) present).outcome = .ok shown ->
      forall count,
        ((target link chainLimit).respond (.frames thread (some count)) present).outcome
            = .ok (shown.take count) ∧
          ((target link chainLimit).respond (.frames thread (some count)) present).log
            <+: ((target link chainLimit).respond (.frames thread none) present).log) ∧
      forall {reply : Wire.Command -> Wire.Reply} {kept : τ -> Prop}, Fixed link reply kept ->
        kept present.link -> forall limit : Option Nat,
          (forall all, settledBy reply (.frames thread 0 (-1)) = .ok all ->
            Unharmed ((target link chainLimit).respond (.frames thread limit) present).log ->
            exists shown,
              ((target link chainLimit).respond (.frames thread limit) present).outcome
                = .ok shown) ∧
            forall shown,
              ((target link chainLimit).respond (.frames thread limit) present).outcome
                = .ok shown ->
              exists all, settledBy reply (.frames thread 0 (-1)) = .ok all ∧
                List.Forall₂ (Framed (present.caches.outlook reply))
                  (limit.elim all fun count => List.take count all) shown := by
  refine ⟨fun shown came count => frames_take came count, ?_⟩
  intro reply kept fixed now limit
  have faces : Faces reply kept (present.caches.outlook reply) present := .of_kept now
  constructor
  · intro all fetched unharmed
    have owed := frames_framed fixed fetched limit [] faces
    unfold Act.Reaches at owed
    change Unharmed (frames link thread limit present).log at unharmed
    change exists shown, (frames link thread limit present).outcome = .ok shown
    cases came : (frames link thread limit present).outcome with
    | ok shown => exact ⟨shown, rfl⟩
    | unfinished =>
        rw [came] at owed
        exact owed.elim
    | failed error =>
        rw [came] at owed
        have composed : Composed link (fun _ => True) (fun _ _ => True)
            (frames link thread limit) := Composed.frames (fun _ _ => trivial) thread limit
        have gone : error.isDisconnect = true := owed
        cases gone.symm.trans ((Candid.of_composed composed).spared unharmed came)
  · intro shown came
    change (frames link thread limit present).outcome = .ok shown at came
    cases fetched : settledBy reply (.frames thread 0 (-1)) with
    | ok all =>
        have owed := frames_framed fixed fetched limit [] faces
        unfold Act.Reaches at owed
        rw [came] at owed
        exact ⟨all, rfl, owed⟩
    | error fault =>
        have failed := (faces.call fixed (.frames thread 0 (-1))).2
        rw [fetched] at failed
        rw [frames_eq, Act.bind_of_failed failed] at came
        cases came

end Remote

/-! ## A stack with a gap in its debug information -/

/-- A thread with two frames, of which only the first one's method has a line table. -/
def halfTold (command : Wire.Command) : Wire.Reply :=
  if command = (Wire.Call.frames 1 0 (-1)).command then
    ⟨0, 0, Wire.listBytes Wire.Frame.bytes [⟨10, ⟨1, 7, 1, 6⟩⟩, ⟨11, ⟨1, 8, 2, 3⟩⟩]⟩
  else if command = (Wire.Call.lineTable 7 1).command then
    ⟨0, 0, Wire.LineTable.bytes ⟨0, 20, [⟨8, 14⟩, ⟨5, 12⟩, ⟨0, 11⟩]⟩⟩
  else ⟨0, 101, []⟩

theorem halfTold_fixed :
    Fixed (Client.link (replying halfTold)) halfTold (Expects noEvents) := by
  refine replying_fixed fun command => ?_
  unfold halfTold
  repeat' split
  all_goals decide

open Remote in
/-- The first frame is the same, whether the other one is wanted or not. -/
theorem halfTold_frames :
    let link := Client.link (replying halfTold)
    let present : Remote (Client Unit) := ⟨Client.opened () { bytes := [] }, {}⟩
    let all : List Wire.Frame := [⟨10, ⟨1, 7, 1, 6⟩⟩, ⟨11, ⟨1, 8, 2, 3⟩⟩]
    let shown : List StackFrame :=
      [⟨10, ⟨7, "7", 1, "1", some 12, 6⟩⟩, ⟨11, ⟨8, "8", 2, "2", none, 3⟩⟩]
    settledBy halfTold (.frames 1 0 (-1)) = .ok all ∧
      Unharmed ((target link 1).respond (.frames 1 none) present).log ∧
      ((target link 1).respond (.frames 1 none) present).outcome = .ok shown ∧
      ((target link 1).respond (.frames 1 (some 1)) present).outcome = .ok (shown.take 1) ∧
      List.Forall₂ (Framed (present.caches.outlook halfTold)) all shown := by
  intro link present all shown
  have fetched : settledBy halfTold (.frames 1 0 (-1)) = .ok all := by decide +kernel
  have unharmed : Unharmed (frames link 1 none present).log := by
    unfold Unharmed
    decide +kernel
  have described : (frames link 1 none present).outcome = .ok shown := by decide +kernel
  obtain ⟨first, rest⟩ := some_frames_or_all link 1 1 present
  obtain ⟨succeeds, framed⟩ := rest halfTold_fixed replying_silent none
  obtain ⟨same, came⟩ := succeeds all fetched unharmed
  cases came.symm.trans described
  obtain ⟨found, fetchedToo, framed⟩ := framed shown described
  cases fetchedToo.symm.trans fetched
  exact ⟨fetched, unharmed, described, (first shown described 1).1, framed⟩

end Debuggee
end LineDebugger
